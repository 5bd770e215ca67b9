import SqlCatalog.Engine.Writing

/-!
# Reading the Markers of a Text

A statement is handed to an engine as one text, and the engine finds the markers in it by
itself. What it finds is read here off the text alone: a marker is the sigil of the engine
with a number behind it, or a question mark, outside of literals and of quoted names.

A text is silent when a reader passes through it without finding a marker, whatever comes
after it. That is more than having no marker: a text that ends in the first half of a
sigil has none, but the next text may complete it. Silent texts can be put together, and
what they are made of is silent: letters, digits, literals and quoted names.

## Main definitions

* `Engine.markersIn`: The markers of a text, each with its index and the text before it.
* `Engine.silent`: Whether a text has no marker and starts none.

## Theorems

* `Engine.readMarkers_silent`: A silent text moves the reader and finds nothing.
* `Engine.silent_append`: Silent texts make a silent text.
* `Engine.silent_literal`, `Engine.silent_quote`: Literals and quoted names are silent.
* `Engine.markerAt?_marker`: A marker is found where it was written.
-/

namespace SqlCatalog

/-- What stands before the number of a marker; the marker itself where it has none. -/
def MarkerStyle.sigil : MarkerStyle → List Char
  | .named => ['@', 'p']
  | .numbered => ['$']
  | .numeric => [':']
  | .question => ['?']

/-- A marker in a text: which argument it asks for, and the text before it. -/
structure Occurrence where
  index : Nat
  before : List Char
deriving DecidableEq

namespace Engine

/-- What a reader is inside of after one more character, told by the mark that ends it:
    a literal, a quoted name or nothing. -/
def quotedAfter (e : Engine) (within : Option Char) (c : Char) : Option Char :=
  match within with
  | some close => if c = close then none else some close
  | none =>
    if c = '\'' then some '\''
    else if c = e.rules.openQuote then some e.rules.closeQuote
    else none

/-- The index of the marker that a text starts with. Markers without numbers ask for the
    arguments one after the other. -/
def markerAt? (e : Engine) (next : Nat) (s : List Char) : Option Nat :=
  if !e.rules.markers.sigil.isPrefixOf s then none
  else if e.rules.markers = .question then some next
  else
    let digits := (s.drop e.rules.markers.sigil.length).takeWhile Char.isDigit
    if digits.isEmpty then none else some (Nat.ofDigitChars 10 digits 0)

/-- The markers of the rest of a text, given what the reader is inside of, the index of
    the next marker without a number, and the text before. -/
def readMarkers (e : Engine) (within : Option Char) (next : Nat) (before : List Char) :
    List Char → List Occurrence
  | [] => []
  | c :: rest =>
    match if within.isNone then e.markerAt? next (c :: rest) else none with
    | some index =>
      ⟨index, before⟩ :: readMarkers e (e.quotedAfter within c) (next + 1) (before ++ [c]) rest
    | none => readMarkers e (e.quotedAfter within c) next (before ++ [c]) rest

/-- The markers of a text. -/
def markersIn (e : Engine) (sql : String) : List Occurrence :=
  e.readMarkers none 1 [] sql.toList

/-- Whether two texts agree as far as both of them go. -/
def agrees : List Char → List Char → Bool
  | a :: s, b :: t => a == b && agrees s t
  | _, _ => true

/-- Whether a text ends outside of quotes with no marker on the way, whatever follows it. -/
def silent (e : Engine) (within : Option Char) : List Char → Bool
  | [] => within.isNone
  | c :: rest =>
    (within.isSome || !agrees e.rules.markers.sigil (c :: rest))
      && silent e (e.quotedAfter within c) rest

theorem agrees_of_isPrefixOf {sigil s t : List Char} (h : sigil.isPrefixOf (s ++ t) = true) :
    agrees sigil s = true := by
  induction sigil generalizing s with
  | nil => rfl
  | cons a sigil ih =>
      cases s with
      | nil => rfl
      | cons b s =>
          rw [List.cons_append, List.isPrefixOf, Bool.and_eq_true] at h
          rw [agrees, Bool.and_eq_true]
          exact ⟨h.1, ih h.2⟩

/-- A text that does not agree with the sigil starts no marker. -/
theorem markerAt?_of_not_agrees {e : Engine} {next : Nat} {s t : List Char}
    (h : agrees e.rules.markers.sigil s = false) : e.markerAt? next (s ++ t) = none := by
  unfold markerAt?
  split
  · rfl
  · rename_i hprefix
    rw [Bool.not_eq_true, Bool.not_eq_false'] at hprefix
    rw [agrees_of_isPrefixOf hprefix] at h
    exact absurd h (by decide)

/-- A silent text moves the reader past itself and finds nothing. -/
theorem readMarkers_silent {e : Engine} {within : Option Char} {s : List Char}
    (h : e.silent within s = true) (next : Nat) (before t : List Char) :
    e.readMarkers within next before (s ++ t) = e.readMarkers none next (before ++ s) t := by
  induction s generalizing within before with
  | nil =>
      rw [silent, Option.isNone_iff_eq_none] at h
      rw [h, List.nil_append, List.append_nil]
  | cons c rest ih =>
      rw [silent, Bool.and_eq_true] at h
      -- Inside of quotes no marker is looked for, and outside the text starts none.
      have hnone : (if within.isNone then e.markerAt? next (c :: (rest ++ t)) else none)
          = none := by
        split
        · rename_i hlive
          have hagree : agrees e.rules.markers.sigil (c :: rest) = false := by
            rw [Option.isNone_iff_eq_none.mp hlive] at h
            simpa using h.1
          exact markerAt?_of_not_agrees (s := c :: rest) hagree
        · rfl
      rw [List.cons_append, readMarkers, hnone]
      simp only
      rw [ih h.2, List.append_assoc, List.singleton_append]

/-- A text that agrees with the sigil does so as far as a part of it goes. -/
theorem agrees_of_agrees_append {sigil s t : List Char} (h : agrees sigil (s ++ t) = true) :
    agrees sigil s = true := by
  induction sigil generalizing s with
  | nil => rfl
  | cons a sigil ih =>
      cases s with
      | nil => rfl
      | cons b s =>
          rw [List.cons_append, agrees, Bool.and_eq_true] at h
          rw [agrees, Bool.and_eq_true]
          exact ⟨h.1, ih h.2⟩

/-- Silent texts make a silent text. -/
theorem silent_append {e : Engine} {within : Option Char} {s t : List Char}
    (hs : e.silent within s = true) (ht : e.silent none t = true) :
    e.silent within (s ++ t) = true := by
  induction s generalizing within with
  | nil =>
      rw [silent, Option.isNone_iff_eq_none] at hs
      rw [hs, List.nil_append]
      exact ht
  | cons c rest ih =>
      rw [silent, Bool.and_eq_true] at hs
      rw [List.cons_append, silent, Bool.and_eq_true]
      refine ⟨?_, ih hs.2⟩
      cases within with
      | some close => rfl
      | none =>
          -- What follows cannot complete a sigil that the first text rules out already.
          have hagree : agrees e.rules.markers.sigil (c :: rest) = false := by
            simpa using hs.1
          have : agrees e.rules.markers.sigil (c :: (rest ++ t)) ≠ true := by
            intro h
            rw [agrees_of_agrees_append (s := c :: rest) h] at hagree
            exact absurd hagree (by decide)
          simpa using this

/-- A character that opens no quote and starts no marker. -/
def neutral (e : Engine) (c : Char) : Bool :=
  c != '\'' && c != e.rules.openQuote && e.rules.markers.sigil.head? != some c

theorem not_agrees_of_head {sigil : List Char} {c : Char} (hne : sigil ≠ [])
    (h : sigil.head? ≠ some c) (rest : List Char) : agrees sigil (c :: rest) = false := by
  cases sigil with
  | nil => exact absurd rfl hne
  | cons a sigil =>
      have : a ≠ c := fun hac => h (by rw [List.head?_cons, hac])
      simp only [agrees, beq_eq_false_iff_ne.mpr this, Bool.false_and]

theorem sigil_ne_nil (style : MarkerStyle) : style.sigil ≠ [] := by
  cases style <;> exact List.cons_ne_nil _ _

/-- A text of neutral characters is silent. -/
theorem silent_of_neutral {e : Engine} {s : List Char} (h : ∀ c ∈ s, e.neutral c = true) :
    e.silent none s = true := by
  induction s with
  | nil => rfl
  | cons c rest ih =>
      have hc := h c List.mem_cons_self
      simp only [neutral, Bool.and_eq_true, bne_iff_ne, ne_eq] at hc
      have hafter : e.quotedAfter none c = none := by
        simp only [quotedAfter, if_neg hc.1.1, if_neg hc.1.2]
      have hagree := not_agrees_of_head (sigil_ne_nil e.rules.markers) hc.2 rest
      rw [silent, hafter, hagree, ih fun d hd => h d (List.mem_cons_of_mem c hd)]
      rfl

/-- Inside of quotes everything is silent up to the mark that closes them. -/
theorem silent_within {e : Engine} {close : Char} {s t : List Char} (hs : close ∉ s)
    (ht : e.silent none t = true) : e.silent (some close) (s ++ close :: t) = true := by
  induction s with
  | nil =>
      rw [List.nil_append, silent, quotedAfter, if_pos rfl, ht]
      rfl
  | cons c rest ih =>
      have hc : c ≠ close := fun h => hs (h ▸ List.mem_cons_self)
      rw [List.cons_append, silent, quotedAfter, if_neg hc,
        ih fun h => hs (List.mem_cons_of_mem c h)]
      rfl

/-- A literal that holds no quote is silent. -/
theorem silent_literal {e : Engine} {s : List Char} (hs : '\'' ∉ s) :
    e.silent none ('\'' :: s ++ ['\'']) = true := by
  have hagree : agrees e.rules.markers.sigil ('\'' :: (s ++ ['\''])) = false := by
    cases e <;> rfl
  rw [List.cons_append, silent, hagree, quotedAfter, if_pos rfl, silent_within hs rfl]
  rfl

/-- A quoted name that does not hold the closing mark is silent. -/
theorem silent_quote {e : Engine} {name : String}
    (h : e.rules.closeQuote ∉ (e.fold name).toList) :
    e.silent none (e.quote name).toList = true := by
  have hopen : e.rules.openQuote ≠ '\'' := by
    cases e <;> decide
  have hagree : ∀ rest, agrees e.rules.markers.sigil (e.rules.openQuote :: rest) = false := by
    cases e <;> exact fun rest => rfl
  rw [quote, String.toList_ofList, List.cons_append, silent, hagree, quotedAfter,
    if_neg hopen, if_pos rfl, silent_within h rfl]
  rfl

/-- The digits of a number are read back up to the first character that is none. -/
theorem takeWhile_toDigits (n : Nat) {t : List Char} (h : ∀ c ∈ t.head?, c.isDigit = false) :
    (Nat.toDigits 10 n ++ t).takeWhile Char.isDigit = Nat.toDigits 10 n := by
  have hdigits : ∀ c ∈ Nat.toDigits 10 n, c.isDigit = true :=
    fun c hc => Nat.isDigit_of_mem_toDigits (by decide) (by decide) hc
  rw [List.takeWhile_append_of_pos hdigits]
  -- The next character, where there is one, is the first that is no digit.
  cases t with
  | nil => rw [List.takeWhile_nil, List.append_nil]
  | cons c rest =>
      have hc : ¬ c.isDigit = true := by
        rw [h c rfl]
        decide
      rw [List.takeWhile_cons_of_neg hc, List.append_nil]

/-- A marker is its sigil and its number, or the question mark. -/
theorem toList_marker (e : Engine) (n : Nat) :
    (e.marker n).toList =
      e.rules.markers.sigil ++ if e.rules.markers = .question then [] else Nat.toDigits 10 n := by
  have hshow : (toString (n : Int)).toList = Nat.toDigits 10 n := Nat.toList_repr
  unfold marker
  cases e.rules.markers with
  | question => simp [MarkerStyle.sigil]
  | named => simpa [MarkerStyle.sigil] using hshow
  | numbered => simpa [MarkerStyle.sigil] using hshow
  | numeric => simpa [MarkerStyle.sigil] using hshow

/-- Letters and digits are neutral. -/
theorem neutral_of_isAlphanum (e : Engine) {c : Char} (h : c.isAlphanum = true) :
    e.neutral c = true := by
  have hopen : e.rules.openQuote.isAlphanum = false := by
    cases e <;> decide
  have hsigil : e.rules.markers.sigil.head?.any Char.isAlphanum = false := by
    cases e <;> decide
  simp only [neutral, Bool.and_eq_true, bne_iff_ne, ne_eq]
  refine ⟨⟨fun hc => ?_, fun hc => ?_⟩, fun hc => ?_⟩
  · exact absurd h (by rw [hc]; decide)
  · exact absurd h (by rw [hc, hopen]; decide)
  · rw [hc, Option.any_some, h] at hsigil
    exact Bool.noConfusion hsigil

/-- What follows the first character of a marker is silent. -/
theorem exists_toList_marker (e : Engine) (n : Nat) :
    ∃ c tail, (e.marker n).toList = c :: tail ∧ e.quotedAfter none c = none
      ∧ e.silent none tail = true := by
  have hhead : e.rules.markers.sigil.head?.bind (e.quotedAfter none) = none := by
    cases e <;> decide
  have htail : e.rules.markers.sigil.tail.all Char.isAlphanum = true := by
    cases e <;> decide
  have hdigits : ∀ a ∈ if e.rules.markers = .question then [] else Nat.toDigits 10 n,
      a.isAlphanum = true := by
    intro a ha
    split at ha
    · exact absurd ha List.not_mem_nil
    · have := Nat.isDigit_of_mem_toDigits (by decide) (by decide) ha
      rw [Char.isAlphanum, this, Bool.or_true]
  -- The first character of the sigil is looked at by the reader; the others are letters.
  rw [toList_marker]
  cases hsigil : e.rules.markers.sigil with
  | nil => exact absurd hsigil (sigil_ne_nil _)
  | cons c tail =>
      rw [hsigil] at hhead htail
      refine ⟨c, _, rfl, hhead, silent_of_neutral fun a ha => ?_⟩
      rcases List.mem_append.mp ha with ha | ha
      · exact neutral_of_isAlphanum e (List.all_eq_true.mp htail a ha)
      · exact neutral_of_isAlphanum e (hdigits a ha)

/-- A marker is found where it stands, whatever text without a digit follows it. -/
theorem markerAt?_marker (e : Engine) (next n : Nat) {t : List Char}
    (h : ∀ c ∈ t.head?, c.isDigit = false) :
    e.markerAt? next ((e.marker n).toList ++ t)
      = some (if e.rules.markers = .question then next else n) := by
  have hprefix : e.rules.markers.sigil.isPrefixOf ((e.marker n).toList ++ t) = true := by
    rw [List.isPrefixOf_iff_prefix, toList_marker, List.append_assoc]
    exact List.prefix_append _ _
  rw [markerAt?, hprefix]
  by_cases hq : e.rules.markers = .question
  · rw [if_pos hq, if_pos hq]
    rfl
  · have hdigits : ((e.marker n).toList ++ t).drop e.rules.markers.sigil.length
        = Nat.toDigits 10 n ++ t := by
      rw [toList_marker, if_neg hq, List.append_assoc, List.drop_left]
    simp only [if_neg hq, hdigits, takeWhile_toDigits n h, Nat.ofDigitChars_ten_toDigits,
      List.isEmpty_iff, Nat.toDigits_ne_nil, Bool.not_true, Bool.false_eq_true, if_false]

end Engine

end SqlCatalog
