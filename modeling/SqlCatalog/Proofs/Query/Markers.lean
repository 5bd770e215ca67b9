import SqlCatalog.Proofs.Query.Reading

/-!
# Markers of a Query

A query is written from pieces, and its pieces say where its markers are meant to stand.
The engine reads one text. The two agree as long as every other piece is silent and no
digit follows a marker, which can be seen piece by piece.

Parts of a query are judged one by one and then put together. What is asked of a marker
may depend on the text before it, but only on the end of that text, so putting more before
a part changes nothing about its markers.

## Main definitions

* `Engine.silentPiece`: The pieces that hold no marker and start none.
* `Engine.written`: What pieces have to keep for the two readings to agree.
* `Engine.markersOf`: The markers of pieces, read off the pieces.
* `Placed`: Pieces with these markers, each at a place that fits it.

## Theorems

* `Engine.markersIn_render`: The markers of a written text are those of its pieces.
* `Placed.silent_append`: Silent pieces before others change nothing about their markers.
* `Placed.append`: Parts whose markers are placed make a query whose markers are.
-/

namespace SqlCatalog

namespace Engine

/-- Whether a piece holds no marker and starts none. -/
def silentPiece (e : Engine) : Piece → Bool
  | .sql s => e.silent none s.toList
  | .name n => !(e.fold n).toList.contains e.rules.closeQuote
  | .parameter _ | .marker _ | .slot _ => false

/-- Whether pieces cannot be read as going on with the number of a marker before them. -/
def endsNumber : List Piece → Bool
  | [] => true
  | .sql s :: _ => s.toList.head?.any fun c => !c.isDigit
  | .name _ :: _ => true
  | _ => false

/-- Whether the markers of the written text are those of the pieces. -/
def written (e : Engine) : List Piece → Bool
  | [] => true
  | .marker i :: rest => 0 < i && endsNumber rest && written e rest
  | p :: rest => e.silentPiece p && written e rest

/-- The markers of pieces, given the index of the next marker without a number and the
    text before. -/
def markersOf (e : Engine) (next : Nat) (before : List Char) : List Piece → List Occurrence
  | [] => []
  | .marker i :: rest =>
    ⟨if e.rules.markers = .question then next else i.toNat, before⟩
      :: markersOf e (next + 1) (before ++ (e.marker i).toList) rest
  | p :: rest => markersOf e next (before ++ (e.renderPiece p).toList) rest

/-- Whether a marker asks for the argument with this index. -/
def Asks (e : Engine) (next : Nat) (i : Int) (index : Nat) : Prop :=
  0 < i ∧ (if e.rules.markers = .question then next else i.toNat) = index

instance (e : Engine) (next : Nat) (i : Int) (index : Nat) : Decidable (e.Asks next i index) :=
  inferInstanceAs (Decidable (_ ∧ _))

/-- Markers that are numbered by the arguments ask for the next one. -/
theorem asks_next (e : Engine) (n : Nat) : e.Asks (n + 1) ((n : Int) + 1) (n + 1) := by
  refine ⟨by omega, ?_⟩
  split
  · rfl
  · omega

theorem silentPiece_ofList {e : Engine} {text : List Char} (h : e.silent none text = true) :
    e.silentPiece (.sql (String.ofList text)) = true := by
  rw [silentPiece, String.toList_ofList]
  exact h

/-- A silent piece is written as a silent text. -/
theorem silent_renderPiece {e : Engine} {p : Piece} (h : e.silentPiece p = true) :
    e.silent none (e.renderPiece p).toList = true := by
  cases p with
  | sql s => exact h
  | name n =>
      rw [silentPiece, Bool.not_eq_true', List.contains_eq_mem, decide_eq_false_iff_not] at h
      exact silent_quote h
  | parameter n => exact Bool.noConfusion h
  | marker i => exact Bool.noConfusion h
  | slot s => exact Bool.noConfusion h

theorem written_cons_of_silentPiece {e : Engine} {p : Piece} (h : e.silentPiece p = true)
    (rest : List Piece) : e.written (p :: rest) = e.written rest := by
  cases p with
  | marker i => exact Bool.noConfusion h
  | sql s => rw [written, h, Bool.true_and]; exact fun i hi => Piece.noConfusion hi
  | name n => rw [written, h, Bool.true_and]; exact fun i hi => Piece.noConfusion hi
  | parameter n => exact Bool.noConfusion h
  | slot s => exact Bool.noConfusion h

theorem markersOf_cons_of_silentPiece {e : Engine} {p : Piece} (h : e.silentPiece p = true)
    (next : Nat) (before : List Char) (rest : List Piece) :
    e.markersOf next before (p :: rest)
      = e.markersOf next (before ++ (e.renderPiece p).toList) rest := by
  cases p with
  | marker i => exact Bool.noConfusion h
  | sql s => rfl
  | name n => rfl
  | parameter n => rfl
  | slot s => rfl

/-- A written piece is silent or a marker that ends before what follows it. -/
theorem written_cons {e : Engine} {p : Piece} {rest : List Piece}
    (h : e.written (p :: rest) = true) :
    e.written rest = true
      ∧ (e.silentPiece p = true ∨ ∃ n : Nat, p = .marker n ∧ 0 < n ∧ endsNumber rest = true) := by
  cases p with
  | marker i =>
      rw [written, Bool.and_eq_true, Bool.and_eq_true, decide_eq_true_eq] at h
      obtain ⟨n, rfl⟩ : ∃ n : Nat, i = n := ⟨i.toNat, by omega⟩
      exact ⟨h.2, .inr ⟨n, rfl, by omega, h.1.2⟩⟩
  | sql s => exact ((Bool.and_eq_true _ _).mp h).symm.imp_right .inl
  | name n => exact ((Bool.and_eq_true _ _).mp h).symm.imp_right .inl
  | parameter n => exact Bool.noConfusion h
  | slot s => exact Bool.noConfusion h

theorem toList_render_cons (e : Engine) (p : Piece) (ps : List Piece) :
    (e.render (p :: ps)).toList = (e.renderPiece p).toList ++ (e.render ps).toList := by
  rw [render_cons, String.toList_append]

/-- The text of pieces that end a number starts with no digit. -/
theorem not_isDigit_head_render {e : Engine} {ps : List Piece} (h : endsNumber ps = true) :
    ∀ c ∈ (e.render ps).toList.head?, c.isDigit = false := by
  have hopen : e.rules.openQuote.isDigit = false := by
    cases e <;> decide
  intro c hc
  -- Only the first piece counts, since a text that ends a number is not empty.
  cases ps with
  | nil => simp [render] at hc
  | cons p rest =>
      rw [toList_render_cons] at hc
      cases p with
      | sql s =>
          rw [endsNumber] at h
          rw [renderPiece] at hc
          cases hs : s.toList with
          | nil => rw [hs] at h; exact Bool.noConfusion h
          | cons d tail =>
              rw [hs, List.cons_append, List.head?_cons, Option.mem_some_iff] at hc
              rw [hs, hc] at h
              simpa using h
      | name n =>
          rw [renderPiece, quote, String.toList_ofList, List.cons_append, List.cons_append,
            List.head?_cons, Option.mem_some_iff] at hc
          rw [← hc]
          exact hopen
      | marker i => exact Bool.noConfusion h
      | parameter n => exact Bool.noConfusion h
      | slot s => exact Bool.noConfusion h

/-- The markers of a written text are those of its pieces, by induction on the pieces. -/
theorem readMarkers_render {e : Engine} {ps : List Piece} (h : e.written ps = true)
    (next : Nat) (before : List Char) :
    e.readMarkers none next before (e.render ps).toList = e.markersOf next before ps := by
  induction ps generalizing next before with
  | nil => rfl
  | cons p rest ih =>
      obtain ⟨hrest, hsilent | ⟨n, rfl, -, hends⟩⟩ := written_cons h
      · rw [toList_render_cons, readMarkers_silent (silent_renderPiece hsilent), ih hrest,
          markersOf_cons_of_silentPiece hsilent]
      · -- No digit follows, so the number that is read is the one that was written.
        obtain ⟨c, tail, hmarker, hlive, htail⟩ := exists_toList_marker e n
        have hfound := markerAt?_marker e next n (not_isDigit_head_render (e := e) hends)
        rw [hmarker, List.cons_append] at hfound
        rw [toList_render_cons, renderPiece, hmarker, List.cons_append, readMarkers]
        simp only [Option.isNone_none, if_true, hfound, hlive]
        -- What is left of the marker is silent, so the reader stands before the rest.
        rw [readMarkers_silent htail, ih hrest, List.append_assoc, markersOf, hmarker]
        rfl

/-- The markers of a written text are those of its pieces. -/
theorem markersIn_render {e : Engine} {ps : List Piece} (h : e.written ps = true) :
    e.markersIn (e.render ps) = e.markersOf 1 [] ps :=
  readMarkers_render h 1 []

theorem endsNumber_append {ps qs : List Piece} (hp : endsNumber ps = true)
    (hq : endsNumber qs = true) : endsNumber (ps ++ qs) = true := by
  cases ps with
  | nil => exact hq
  | cons p rest => cases p <;> exact hp

/-- Written pieces before others that end a number are written together with them. -/
theorem written_append {e : Engine} {ps qs : List Piece} (hp : e.written ps = true)
    (hq : e.written qs = true) (hends : endsNumber qs = true) :
    e.written (ps ++ qs) = true := by
  induction ps with
  | nil => exact hq
  | cons p rest ih =>
      obtain ⟨hrest, hsilent | ⟨n, rfl, hpos, hnumber⟩⟩ := written_cons hp
      · rw [List.cons_append, written_cons_of_silentPiece hsilent]
        exact ih hrest
      · have hindex : (0 : Int) < n := by omega
        rw [List.cons_append, written, endsNumber_append hnumber hends, ih hrest,
          decide_eq_true hindex]
        rfl

/-- More text before pieces moves their markers and changes nothing else about them. -/
theorem markersOf_before (e : Engine) (next : Nat) (more before : List Char) (ps : List Piece) :
    e.markersOf next (more ++ before) ps
      = (e.markersOf next before ps).map fun m => ⟨m.index, more ++ m.before⟩ := by
  induction ps generalizing next before with
  | nil => rfl
  | cons p rest ih => cases p <;> simp [markersOf, List.append_assoc, ih]

/-- The markers of pieces are found one part after the other. -/
theorem markersOf_append (e : Engine) (next : Nat) (before : List Char) (ps qs : List Piece) :
    e.markersOf next before (ps ++ qs) = e.markersOf next before ps
      ++ e.markersOf (next + (e.markersOf next before ps).length)
          (before ++ (e.render ps).toList) qs := by
  induction ps generalizing next before with
  | nil => simp [markersOf, render]
  | cons p rest ih =>
      cases p <;>
        simp [markersOf, toList_render_cons, renderPiece, ih, Nat.add_assoc, Nat.add_comm 1]

/-- Silent pieces are written whatever follows them. -/
theorem written_silent_append {e : Engine} {ps : List Piece}
    (h : ∀ p ∈ ps, e.silentPiece p = true) (qs : List Piece) :
    e.written (ps ++ qs) = e.written qs := by
  induction ps with
  | nil => rfl
  | cons p rest ih =>
      rw [List.cons_append, written_cons_of_silentPiece (h p List.mem_cons_self)]
      exact ih fun q hq => h q (List.mem_cons_of_mem p hq)

/-- Silent pieces have no markers, they only move those of what follows. -/
theorem markersOf_silent_append {e : Engine} {ps : List Piece}
    (h : ∀ p ∈ ps, e.silentPiece p = true) (next : Nat) (before : List Char)
    (qs : List Piece) :
    e.markersOf next before (ps ++ qs)
      = e.markersOf next (before ++ (e.render ps).toList) qs := by
  induction ps generalizing before with
  | nil => simp [render]
  | cons p rest ih =>
      rw [List.cons_append, markersOf_cons_of_silentPiece (h p List.mem_cons_self),
        toList_render_cons, ← List.append_assoc]
      exact ih (fun q hq => h q (List.mem_cons_of_mem p hq)) _

end Engine

/-- Pieces whose markers have these indices, in this order, and stand where they fit. -/
structure Placed (e : Engine) (fits : Nat → List Char → Prop) (next : Nat) (ps : List Piece)
    (indices : List Nat) : Prop where
  written : e.written ps = true
  indices : (e.markersOf next [] ps).map (·.index) = indices
  fits : ∀ m ∈ e.markersOf next [] ps, fits m.index m.before

/-- What is asked of a marker looks at the end of the text before it only. -/
def LooksBack (fits : Nat → List Char → Prop) : Prop :=
  ∀ index more before, fits index before → fits index (more ++ before)

namespace Placed

variable {e : Engine} {fits : Nat → List Char → Prop} {next : Nat} {ps qs : List Piece}

/-- No pieces have no markers. -/
theorem nil : Placed e fits next [] [] :=
  ⟨rfl, rfl, fun _ hm => absurd hm List.not_mem_nil⟩

/-- Silent pieces before others change nothing about their markers. -/
theorem silent_append (hlooks : LooksBack fits) {indices : List Nat}
    (hp : ∀ p ∈ ps, e.silentPiece p = true) (hq : Placed e fits next qs indices) :
    Placed e fits next (ps ++ qs) indices := by
  have hmarkers : e.markersOf next [] (ps ++ qs) = (e.markersOf next [] qs).map
      fun m => ⟨m.index, (e.render ps).toList ++ m.before⟩ := by
    rw [Engine.markersOf_silent_append hp, ← Engine.markersOf_before, List.nil_append,
      List.append_nil]
  refine ⟨?_, ?_, ?_⟩
  · rw [Engine.written_silent_append hp]
    exact hq.written
  · rw [hmarkers, List.map_map, ← hq.indices]
    rfl
  · intro m hm
    rw [hmarkers] at hm
    obtain ⟨n, hn, rfl⟩ := List.mem_map.mp hm
    exact hlooks n.index _ n.before (hq.fits n hn)

/-- Silent pieces have no markers. -/
theorem of_silent (hlooks : LooksBack fits) (h : ∀ p ∈ ps, e.silentPiece p = true) :
    Placed e fits next ps [] := by
  rw [← List.append_nil ps]
  exact silent_append hlooks h nil

/-- A marker behind silent pieces, whose text it fits. -/
theorem marker {i : Int} {index : Nat} (hp : ∀ p ∈ ps, e.silentPiece p = true)
    (hasks : e.Asks next i index) (hfits : fits index (e.render ps).toList) :
    Placed e fits next (ps ++ [.marker i]) [index] := by
  have hmarkers : e.markersOf next [] (ps ++ [.marker i])
      = [⟨index, (e.render ps).toList⟩] := by
    rw [Engine.markersOf_silent_append hp, Engine.markersOf, hasks.2, List.nil_append]
    rfl
  refine ⟨?_, ?_, ?_⟩
  · rw [Engine.written_silent_append hp, Engine.written, decide_eq_true hasks.1]
    rfl
  · rw [hmarkers]
    rfl
  · intro m hm
    rw [hmarkers, List.mem_singleton] at hm
    rw [hm]
    exact hfits

/-- Parts whose markers are placed make a query whose markers are. -/
theorem append (hlooks : LooksBack fits) {found more : List Nat}
    (hp : Placed e fits next ps found) (hq : Placed e fits (next + found.length) qs more)
    (hends : Engine.endsNumber qs = true) : Placed e fits next (ps ++ qs) (found ++ more) := by
  have hlength : (e.markersOf next [] ps).length = found.length := by
    rw [← hp.indices, List.length_map]
  -- The second part goes on counting where the first one stops, behind its text.
  have hmarkers : e.markersOf next [] (ps ++ qs) = e.markersOf next [] ps
      ++ (e.markersOf (next + found.length) [] qs).map
        fun m => ⟨m.index, (e.render ps).toList ++ m.before⟩ := by
    rw [Engine.markersOf_append, hlength, ← Engine.markersOf_before, List.nil_append,
      List.append_nil]
  refine ⟨Engine.written_append hp.written hq.written hends, ?_, ?_⟩
  · rw [hmarkers, List.map_append, hp.indices, List.map_map, ← hq.indices]
    rfl
  · intro m hm
    rw [hmarkers] at hm
    rcases List.mem_append.mp hm with hm | hm
    · exact hp.fits m hm
    · obtain ⟨n, hn, rfl⟩ := List.mem_map.mp hm
      exact hlooks n.index _ n.before (hq.fits n hn)

end Placed

end SqlCatalog
