import SqlCatalog.Proofs.Gate.Structural

/-!
# Emptying Runs and Normalising

Emptying the quoted runs of a text commutes with bringing it into normal form.
The gate does the two one after the other, on a text whose runs have already been
squeezed and capitalised, and any argument about what the view of a query holds
would have to look through all of that. With the order turned round, the view is
the normal form of the text with its runs emptied first.

`Emptied` says what emptying does without a scan: a text is cut at its first run,
and what follows goes on in the same way. `SplitsAtMarks` is what the steps of the
normal form have in common. Each of them treats the text before a quote mark and
the text behind it apart, and none brings a quote mark forth, so `Emptied.map`
settles all of them with one induction.

## Main definitions

* `isQuoteMark`: The characters that open or close a run.
* `Emptied`: A text and the same text with the runs of one kind emptied.
* `SplitsAtMarks`: A rewriting that treats the two sides of a quote mark apart.

## Theorems

* `Emptied.eq`: The relation is the function `emptyRuns`.
* `Emptied.map`: Emptying commutes with a rewriting that splits at marks.
-/

namespace SqlCatalog

namespace Gate

/-- The characters that open or close a run. -/
def isQuoteMark (c : Char) : Bool :=
  c == '\'' || c == '"' || c == '[' || c == ']'

theorem isQuoteMark_opening (kind : QuoteKind) : isQuoteMark kind.opening = true := by
  cases kind <;> rfl

theorem isQuoteMark_closing (kind : QuoteKind) : isQuoteMark kind.closing = true := by
  cases kind <;> rfl

theorem isStructural_of_isQuoteMark {c : Char} (h : isQuoteMark c = true) :
    isStructural c = true := by
  simp only [isQuoteMark, Bool.or_eq_true, beq_iff_eq] at h
  rcases h with ((h | h) | h) | h <;> rw [h] <;> decide

theorem isBlank_of_isQuoteMark {c : Char} (h : isQuoteMark c = true) :
    Text.isBlank c = false := by
  simp only [isQuoteMark, Bool.or_eq_true, beq_iff_eq] at h
  rcases h with ((h | h) | h) | h <;> rw [h] <;> decide

theorem isTight_of_isQuoteMark {c : Char} (h : isQuoteMark c = true) : isTight c = false := by
  simp only [isQuoteMark, Bool.or_eq_true, beq_iff_eq] at h
  rcases h with ((h | h) | h) | h <;> rw [h] <;> decide

theorem breakAt_eq_none {mark : Char} {s : List Char} (h : mark ∉ s) : breakAt mark s = none := by
  rw [breakAt, if_neg (by simpa using h)]

theorem breakAt_append {mark : Char} {content : List Char} (h : mark ∉ content)
    (after : List Char) : breakAt mark (content ++ mark :: after) = some (content, after) := by
  have hne : ∀ c ∈ content, (c != mark) = true := by
    intro c hc
    rw [bne_iff_ne]
    rintro rfl
    exact h hc
  rw [breakAt, if_pos (by simp)]
  rw [List.takeWhile_append_of_pos hne, List.dropWhile_append_of_pos hne]
  simp

theorem not_mem_of_breakAt {mark : Char} {s content after : List Char}
    (h : breakAt mark s = some (content, after)) : mark ∉ content := by
  unfold breakAt at h
  split at h
  · rw [Option.some.injEq, Prod.mk.injEq] at h
    rw [← h.1]
    intro hmem
    have hall := List.all_takeWhile (p := (· != mark)) (l := s)
    simpa using List.all_eq_true.mp hall mark hmem
  · exact absurd h (by simp)

theorem not_mem_of_breakAt_none {mark : Char} {s : List Char} (h : breakAt mark s = none) :
    mark ∉ s := by
  unfold breakAt at h
  split at h
  · exact absurd h (by simp)
  · rename_i hc
    simpa using hc

theorem emptyRuns_cons {kind : QuoteKind} {c : Char} (h : c ≠ kind.opening) (s : List Char) :
    emptyRuns kind (c :: s) = c :: emptyRuns kind s := by
  rw [emptyRuns, if_neg h]

theorem emptyRuns_run {kind : QuoteKind} {content : List Char} (h : kind.closing ∉ content)
    (s : List Char) : emptyRuns kind (kind.opening :: (content ++ kind.closing :: s)) =
      kind.opening :: kind.closing :: emptyRuns kind s := by
  rw [emptyRuns, if_pos rfl]
  split
  · rename_i found after hbreak
    rw [breakAt_append h, Option.some.injEq, Prod.mk.injEq] at hbreak
    simp only [← hbreak.2]
  · rename_i hbreak
    rw [breakAt_append h] at hbreak
    exact absurd hbreak (by simp)

theorem emptyRuns_unclosed {kind : QuoteKind} {s : List Char} (h : kind.closing ∉ s) :
    emptyRuns kind (kind.opening :: s) = kind.opening :: s := by
  rw [emptyRuns, if_pos rfl]
  split
  · rename_i hbreak
    rw [breakAt_eq_none h] at hbreak
    exact absurd hbreak (by simp)
  · rfl

theorem emptyRuns_append {kind : QuoteKind} {s : List Char} (h : kind.opening ∉ s)
    (t : List Char) : emptyRuns kind (s ++ t) = s ++ emptyRuns kind t := by
  induction s with
  | nil => rfl
  | cons c rest ih =>
      simp only [List.mem_cons, not_or] at h
      rw [List.cons_append, emptyRuns_cons (Ne.symm h.1), ih h.2, List.cons_append]

/-- A text and the same text with the runs of one kind emptied. The text is cut at
    its first run; a mark that never closes ends the work. -/
inductive Emptied (kind : QuoteKind) : List Char → List Char → Prop
  | plain (s : List Char) : kind.opening ∉ s → Emptied kind s s
  | unclosed (s t : List Char) : kind.opening ∉ s → kind.closing ∉ t →
      Emptied kind (s ++ kind.opening :: t) (s ++ kind.opening :: t)
  | run (s content t u : List Char) : kind.opening ∉ s → kind.closing ∉ content →
      Emptied kind t u → Emptied kind (s ++ kind.opening :: (content ++ kind.closing :: t))
        (s ++ kind.opening :: kind.closing :: u)

theorem Emptied.cons {kind : QuoteKind} {c : Char} {s t : List Char} (hc : c ≠ kind.opening)
    (h : Emptied kind s t) : Emptied kind (c :: s) (c :: t) := by
  have hmem (u : List Char) (hu : kind.opening ∉ u) : kind.opening ∉ c :: u := by
    rw [List.mem_cons, not_or]
    exact ⟨Ne.symm hc, hu⟩
  cases h with
  | plain _ hs => exact .plain _ (hmem _ hs)
  | unclosed u v hu hv => exact .unclosed (c :: u) v (hmem u hu) hv
  | run u content v w hu hcontent hvw => exact .run (c :: u) content v w (hmem u hu) hcontent hvw

/-- The scan does what the relation says. -/
theorem emptied_emptyRuns (kind : QuoteKind) (s : List Char) :
    Emptied kind s (emptyRuns kind s) := by
  fun_induction emptyRuns kind s with
  | case1 => exact .plain [] List.not_mem_nil
  | case2 rest content after hbreak _ ih =>
      rw [eq_append_of_breakAt hbreak]
      exact .run [] content after _ List.not_mem_nil (not_mem_of_breakAt hbreak) ih
  | case3 rest hbreak =>
      exact .unclosed [] rest List.not_mem_nil (not_mem_of_breakAt_none hbreak)
  | case4 c rest hc ih => exact ih.cons hc

/-- The relation is the scan. -/
theorem Emptied.eq {kind : QuoteKind} {s t : List Char} (h : Emptied kind s t) :
    emptyRuns kind s = t := by
  induction h with
  | plain s hs =>
      have happend := emptyRuns_append hs []
      rwa [List.append_nil, emptyRuns, List.append_nil] at happend
  | unclosed s t hs ht => rw [emptyRuns_append hs, emptyRuns_unclosed ht]
  | run s content t u hs hcontent _ ih => rw [emptyRuns_append hs, emptyRuns_run hcontent, ih]

/-- A rewriting that treats the text before a quote mark and the text behind it apart,
    and brings no quote mark forth. -/
structure SplitsAtMarks (f before after : List Char → List Char) : Prop where
  append : ∀ m s t, isQuoteMark m = true → f (s ++ m :: t) = before s ++ m :: after t
  mem_of_mem : ∀ m s, isQuoteMark m = true → m ∈ f s → m ∈ s
  mem_of_mem_before : ∀ m s, isQuoteMark m = true → m ∈ before s → m ∈ s

/-- Emptying commutes with a rewriting that splits at marks, when what it does behind
    a mark splits in its turn. The induction is on the runs; the rewriting changes to
    its own continuation behind the first of them. -/
theorem Emptied.map {f before after inner : List Char → List Char} {kind : QuoteKind}
    {s t : List Char} (h : Emptied kind s t) (hf : SplitsAtMarks f before after)
    (hafter : SplitsAtMarks after inner after) (hinner : inner [] = []) :
    Emptied kind (f s) (f t) := by
  have ho := isQuoteMark_opening kind
  have hc := isQuoteMark_closing kind
  induction h generalizing f before with
  | plain s hs => exact .plain _ fun hmem => hs (hf.mem_of_mem _ _ ho hmem)
  | unclosed s t hs ht =>
      rw [hf.append _ _ _ ho]
      exact .unclosed _ _ (fun hmem => hs (hf.mem_of_mem_before _ _ ho hmem))
        (fun hmem => ht (hafter.mem_of_mem _ _ hc hmem))
  | run s content t u hs hcontent _ ih =>
      have hempty := hafter.append kind.closing [] u hc
      rw [List.nil_append, hinner, List.nil_append] at hempty
      rw [hf.append _ _ _ ho, hf.append _ _ _ ho, hafter.append _ _ _ hc, hempty]
      exact .run _ _ _ _ (fun hmem => hs (hf.mem_of_mem_before _ _ ho hmem))
        (fun hmem => hcontent (hafter.mem_of_mem_before _ _ hc hmem)) (ih hafter)

end Gate

end SqlCatalog
