import SqlCatalog.Proofs.Query.Clause
import SqlCatalog.Proofs.Text.LetterCase

/-!
# What a Pattern Finds

Three operators of a row filter look for a text in a column: somewhere in it, at its beginning,
or at its end. The database knows them as patterns only, in which a percent sign stands for any
text and an underscore for any character. The text that is looked for goes into the pattern as
it is, so it says what it means exactly when it holds neither of the two signs. Otherwise the
pattern also finds a text that one gets by leaving out the percent signs and putting some
other letter for the underscores, and this text does not hold the one that was looked for.

Engines differ in whether letter case counts. Everything here is about any way of telling
characters apart, as long as nothing else passes for an underscore.

## Main definitions

* `Likeness`: Which characters an operator takes for one another.
* `Likeness.Like`: A text is like a pattern.
* `Likeness.Finds`: A text holds another where an operator looks for it.
* `NoWildcard`: A text without the signs that stand for others.

## Theorems

* `Likeness.like_pattern_iff`: Without wildcards a pattern finds what the operator looks for.
* `Likeness.like_pattern_iff_finds`: It does so for texts without wildcards only.
* `Likeness.exists_like_of_wildcard`: With a wildcard it finds something else as well.
* `patterns_of_whereClause`: When the patterns of a clause mean what their operators say.
-/

namespace SqlCatalog

/-- Which characters an operator takes for one another. Each is taken for itself, and nothing
    else for an underscore. -/
structure Likeness where
  same : Char → Char → Prop
  refl : ∀ c, same c c
  underscore : ∀ c, same '_' c → c = '_'

/-- A text without the signs that stand for others in a pattern. -/
def NoWildcard (v : List Char) : Prop :=
  ∀ c ∈ v, c ≠ '%' ∧ c ≠ '_'

namespace Likeness

/-- Letter case counts. -/
def exact : Likeness := ⟨Eq, fun _ => rfl, fun _ h => h.symm⟩

/-- Letter case does not count: characters with one lower case are taken for one another. -/
def caseless : Likeness where
  same c d := Text.lowerChar c = Text.lowerChar d
  refl _ := rfl
  underscore c h := by
    have hmem : '_' ∈ Text.lowerChar c := by
      rw [← h]
      decide
    exact (Text.eq_of_mem_lowerChar (by decide) hmem).symm

/-- A text is like a pattern: a percent sign stands for any text, an underscore for any
    character, and every other character for itself. Nothing escapes the two signs. -/
inductive Like (l : Likeness) : List Char → List Char → Prop
  | nil : Like l [] []
  | any (s : List Char) {p t : List Char} : Like l p t → Like l ('%' :: p) (s ++ t)
  | one (c : Char) {p t : List Char} : Like l p t → Like l ('_' :: p) (c :: t)
  | letter {c d : Char} {p t : List Char} : c ≠ '%' → c ≠ '_' → l.same c d → Like l p t →
      Like l (c :: p) (d :: t)

/-- A text holds another where an operator looks for it. -/
inductive Finds (l : Likeness) (v : List Char) : FilterOperator → List Char → Prop
  | contains (before : List Char) {found : List Char} (after : List Char) :
      List.Forall₂ l.same v found → Finds l v .contains (before ++ found ++ after)
  | startsWith {found : List Char} (after : List Char) :
      List.Forall₂ l.same v found → Finds l v .startsWith (found ++ after)
  | endsWith (before : List Char) {found : List Char} :
      List.Forall₂ l.same v found → Finds l v .endsWith (before ++ found)

variable {l : Likeness} {v p x : List Char}

/-! ### Reading a pattern -/

theorem like_nil_iff : l.Like [] x ↔ x = [] := by
  constructor
  · rintro ⟨⟩
    rfl
  · rintro rfl
    exact .nil

theorem like_any_iff : l.Like ('%' :: p) x ↔ ∃ s t, x = s ++ t ∧ l.Like p t := by
  constructor
  · intro h
    cases h with
    | any s h => exact ⟨s, _, rfl, h⟩
    | letter hc => exact absurd rfl hc
  · rintro ⟨s, t, rfl, h⟩
    exact .any s h

theorem like_percent (l : Likeness) (x : List Char) : l.Like ['%'] x :=
  like_any_iff.mpr ⟨x, [], (List.append_nil x).symm, .nil⟩

/-- A part of a pattern without wildcards stands for itself. -/
theorem like_append_iff (hv : NoWildcard v) :
    l.Like (v ++ p) x ↔ ∃ found rest, x = found ++ rest ∧ List.Forall₂ l.same v found ∧
      l.Like p rest := by
  induction v generalizing x with
  | nil =>
      constructor
      · exact fun h => ⟨[], x, rfl, .nil, h⟩
      · rintro ⟨found, rest, rfl, hfound, h⟩
        rw [List.forall₂_nil_left_iff.mp hfound]
        exact h
  | cons c more ih =>
      obtain ⟨⟨hpercent, hunderscore⟩, hmore⟩ := List.forall_mem_cons.mp hv
      constructor
      · intro h
        cases h with
        | any s h => exact absurd rfl hpercent
        | one d h => exact absurd rfl hunderscore
        | letter _ _ hsame h =>
            obtain ⟨found, rest, rfl, hfound, hrest⟩ := (ih hmore).mp h
            exact ⟨_ :: found, rest, rfl, .cons hsame hfound, hrest⟩
      · rintro ⟨found, rest, rfl, hfound, hrest⟩
        cases hfound with
        | cons hsame hfound =>
            exact .letter hpercent hunderscore hsame ((ih hmore).mpr ⟨_, rest, rfl, hfound, hrest⟩)

/-- The operators that look for a text. -/
def seeking : List FilterOperator := [.contains, .startsWith, .endsWith]

/-- A pattern for a text without wildcards finds what the operator looks for. -/
theorem like_pattern_iff {op : FilterOperator} (hop : op ∈ seeking) {v : String}
    (hv : NoWildcard v.toList) (x : List Char) :
    l.Like (op.pattern v).toList x ↔ l.Finds v.toList op x := by
  simp only [seeking, List.mem_cons, List.not_mem_nil, or_false] at hop
  rcases hop with rfl | rfl | rfl
  · have hpattern : (FilterOperator.pattern .contains v).toList = '%' :: (v.toList ++ ['%']) := by
      simp [FilterOperator.pattern]
    rw [hpattern, like_any_iff]
    constructor
    · rintro ⟨before, t, rfl, h⟩
      obtain ⟨found, after, rfl, hfound, -⟩ := (like_append_iff hv).mp h
      rw [← List.append_assoc]
      exact .contains before after hfound
    · intro h
      cases h with
      | contains before after hfound =>
          exact ⟨before, _, List.append_assoc _ _ _,
            (like_append_iff hv).mpr ⟨_, after, rfl, hfound, like_percent l after⟩⟩
  · have hpattern : (FilterOperator.pattern .startsWith v).toList = v.toList ++ ['%'] := by
      simp [FilterOperator.pattern]
    rw [hpattern, like_append_iff hv]
    constructor
    · rintro ⟨found, after, rfl, hfound, -⟩
      exact .startsWith after hfound
    · intro h
      cases h with
      | startsWith after hfound => exact ⟨_, after, rfl, hfound, like_percent l after⟩
  · have hpattern : (FilterOperator.pattern .endsWith v).toList = '%' :: (v.toList ++ []) := by
      simp [FilterOperator.pattern]
    rw [hpattern, like_any_iff]
    constructor
    · rintro ⟨before, t, rfl, h⟩
      obtain ⟨found, rest, rfl, hfound, hrest⟩ := (like_append_iff hv).mp h
      rw [like_nil_iff.mp hrest, List.append_nil]
      exact .endsWith before hfound
    · intro h
      cases h with
      | endsWith before hfound =>
          exact ⟨before, _, rfl,
            (like_append_iff hv).mpr ⟨_, [], (List.append_nil _).symm, hfound, .nil⟩⟩

/-! ### Wildcards -/

/-- The text without its percent signs and with another letter for its underscores. -/
def decoy (v : List Char) : List Char :=
  v.flatMap fun c => if c = '%' then [] else if c = '_' then ['x'] else [c]

theorem decoy_cons (c : Char) (v : List Char) :
    decoy (c :: v) =
      (if c = '%' then [] else if c = '_' then ['x'] else [c]) ++ decoy v :=
  rfl

theorem like_append_decoy {t : List Char} (h : l.Like p t) : l.Like (v ++ p) (decoy v ++ t) := by
  induction v with
  | nil => exact h
  | cons c more ih =>
      rw [decoy_cons, List.cons_append, List.append_assoc]
      split
      · rename_i hc
        exact hc ▸ .any [] ih
      · split
        · rename_i hc
          exact hc ▸ .one 'x' ih
        · exact .letter ‹_› ‹_› (l.refl c) ih

theorem length_decoy_le (v : List Char) : (decoy v).length ≤ v.length := by
  induction v with
  | nil => exact Nat.le_refl 0
  | cons c more ih =>
      rw [decoy_cons, List.length_append, List.length_cons]
      split
      · exact Nat.le_succ_of_le (by simpa using ih)
      · split <;> simp only [List.length_singleton] <;> omega

/-- A text with a wildcard is not alike its decoy, which is shorter or has another letter. -/
theorem noWildcard_of_decoy (h : List.Forall₂ l.same v (decoy v)) : NoWildcard v := by
  induction v with
  | nil => exact fun c hc => absurd hc List.not_mem_nil
  | cons c more ih =>
      rw [decoy_cons] at h
      split at h
      · have hlength := h.length_eq
        have hle := length_decoy_le more
        rw [List.length_cons, List.nil_append] at hlength
        omega
      · rename_i hpercent
        split at h
        · rename_i hunderscore
          cases h with
          | cons hsame hrest =>
              rw [hunderscore] at hsame
              exact absurd (l.underscore 'x' hsame) (by decide)
        · rename_i hunderscore
          cases h with
          | cons hsame hrest => exact List.forall_mem_cons.mpr ⟨⟨hpercent, hunderscore⟩, ih hrest⟩

/-- A text that is found in its decoy has no wildcard. -/
theorem noWildcard_of_finds {op : FilterOperator} (h : l.Finds v op (decoy v)) :
    NoWildcard v := by
  -- What is found is as long as the text, so it is the whole decoy.
  have hwhole {found : List Char} (hpart : found <:+: decoy v)
      (hfound : List.Forall₂ l.same v found) : NoWildcard v := by
    have hle := length_decoy_le v
    have hlength := hfound.length_eq
    have hsub := hpart.length_le
    rw [hpart.eq_of_length (by omega)] at hfound
    exact noWildcard_of_decoy hfound
  generalize hx : decoy v = x at h
  cases h with
  | contains before after hfound => exact hwhole (hx ▸ ⟨before, after, rfl⟩) hfound
  | startsWith after hfound => exact hwhole (hx ▸ (List.prefix_append _ after).isInfix) hfound
  | endsWith before hfound => exact hwhole (hx ▸ (List.suffix_append before _).isInfix) hfound

/-- A pattern for any text finds the decoy of the text. -/
theorem like_pattern_decoy {op : FilterOperator} (hop : op ∈ seeking) (v : String) :
    l.Like (op.pattern v).toList (decoy v.toList) := by
  simp only [seeking, List.mem_cons, List.not_mem_nil, or_false] at hop
  have hdecoy : decoy v.toList = [] ++ (decoy v.toList ++ []) := by simp
  rw [hdecoy]
  rcases hop with rfl | rfl | rfl
  · have hlike := like_append_decoy (v := v.toList) (like_percent l [])
    simpa [FilterOperator.pattern] using Like.any [] hlike
  · have hlike := like_append_decoy (v := v.toList) (like_percent l [])
    simpa [FilterOperator.pattern] using hlike
  · have hlike := like_append_decoy (v := v.toList) (Like.nil (l := l))
    simpa [FilterOperator.pattern] using Like.any [] hlike

/-- A pattern finds what its operator looks for, and nothing else, if and only if the text that
    is looked for has no wildcard. -/
theorem like_pattern_iff_finds {op : FilterOperator} (hop : op ∈ seeking) (v : String) :
    (∀ x, l.Like (op.pattern v).toList x ↔ l.Finds v.toList op x) ↔ NoWildcard v.toList := by
  constructor
  · exact fun h => noWildcard_of_finds ((h _).mp (like_pattern_decoy hop v))
  · exact fun h x => like_pattern_iff hop h x

/-- A pattern for a text with a wildcard finds too much: the decoy of the text, which does not
    hold it. -/
theorem exists_like_of_wildcard {op : FilterOperator} (hop : op ∈ seeking) {v : String}
    (hv : ¬NoWildcard v.toList) :
    ∃ x, l.Like (op.pattern v).toList x ∧ ¬l.Finds v.toList op x :=
  ⟨_, like_pattern_decoy hop v, fun h => hv (noWildcard_of_finds h)⟩

end Likeness

/-! ### Clauses -/

/-- An operator that looks for a text binds the pattern of one. -/
theorem RowFilter.bound_of_seeking {f : RowFilter} (hop : f.operator ∈ Likeness.seeking)
    {arg : Value} (h : f.bound = .ok arg) :
    ∃ v, f.value = .text v ∧ arg = .text (f.operator.pattern v) := by
  have hsign : f.operator.sign? = none := by
    simp only [Likeness.seeking, List.mem_cons, List.not_mem_nil, or_false] at hop
    rcases hop with hop | hop | hop <;> rw [hop] <;> rfl
  rw [bound, hsign] at h
  cases hvalue : f.value with
  | text v =>
      rw [hvalue] at h
      exact ⟨v, rfl, (Except.ok.inj h).symm⟩
  | _ =>
      rw [hvalue] at h
      exact absurd h (by simp [refuse])

/-- What a filter that looks for a text binds: a pattern that means what the operator says if
    and only if the text has no wildcard. With one, the pattern is like some text in which the
    operator does not find the text that is looked for. -/
def Likeness.PatternOf (l : Likeness) (f : RowFilter) (arg : Value) : Prop :=
  f.operator ∈ seeking → ∃ v pattern, f.value = .text v ∧ arg = .text pattern ∧
    ((∀ x, l.Like pattern.toList x ↔ l.Finds v.toList f.operator x) ↔ NoWildcard v.toList) ∧
    (¬NoWildcard v.toList → ∃ x, l.Like pattern.toList x ∧ ¬l.Finds v.toList f.operator x)

/-- Whenever filters make a clause, the arguments of the clause belong to the filters that bind
    a value, in order, and each pattern among them is like the texts in which its operator is to
    find the text of the filter, and like no others, if and only if the text has no wildcard.
    A text with a wildcard is looked for by a pattern that is like some others too. -/
theorem patterns_of_whereClause {e : Engine} {filters : List (Outcome RowFilter)}
    {columns : List Value} {start : Int} {clause : WhereClause}
    (h : whereClause e filters columns start = .ok clause) (l : Likeness) :
    List.Forall₂ l.PatternOf (boundFilters filters) clause.args := by
  have hbound : List.Forall₂ (fun f arg => f.bound = .ok arg) (boundFilters filters)
      clause.args := by
    have hmap := bound_whereClause h
    rw [← List.forall₂_eq_eq_eq, List.forall₂_map_left_iff, List.forall₂_map_right_iff] at hmap
    exact hmap
  refine hbound.imp fun f arg harg hop => ?_
  obtain ⟨v, hvalue, rfl⟩ := f.bound_of_seeking hop harg
  exact ⟨v, _, hvalue, rfl, l.like_pattern_iff_finds hop v, l.exists_like_of_wildcard hop⟩

/-- Filters that look for texts, among others. -/
def textFilters : List (Outcome RowFilter) := [
  .ok ⟨.text "total", .gt, .int 5⟩,
  .ok ⟨.text "status", .startsWith, .text "ship [now]"⟩,
  .ok ⟨.text "note", .isNull, .null⟩,
  .ok ⟨.text "note", .endsWith, .text "100\\"⟩,
  .ok ⟨.text "note", .contains, .text "no_1"⟩]

/-- The texts of two of them hold marks of other pattern languages, but no wildcard. That of the
    third has one, and its pattern finds something else as well. -/
theorem patterns_of_textFilters :
    ∃ clause, whereClause .postgres textFilters
        [.text "total", .text "Status", .text "note"] 1 = .ok clause ∧
      clause.args = [.int 5, .text "ship [now]%", .text "%100\\", .text "%no_1%"] ∧
      (∀ x, Likeness.caseless.Like "ship [now]%".toList x ↔
        Likeness.caseless.Finds "ship [now]".toList .startsWith x) ∧
      (∀ x, Likeness.caseless.Like "%100\\".toList x ↔
        Likeness.caseless.Finds "100\\".toList .endsWith x) ∧
      ∃ x, Likeness.caseless.Like "%no_1%".toList x ∧
        ¬Likeness.caseless.Finds "no_1".toList .contains x := by
  obtain ⟨clause, hclause, hargs⟩ : ∃ clause, whereClause .postgres textFilters
      [.text "total", .text "Status", .text "note"] 1 = .ok clause ∧
        clause.args = [.int 5, .text "ship [now]%", .text "%100\\", .text "%no_1%"] :=
    ⟨_, rfl, rfl⟩
  have hpatterns := patterns_of_whereClause hclause .caseless
  rw [hargs] at hpatterns
  have hfilters : boundFilters textFilters = [⟨.text "total", .gt, .int 5⟩,
      ⟨.text "status", .startsWith, .text "ship [now]"⟩,
      ⟨.text "note", .endsWith, .text "100\\"⟩, ⟨.text "note", .contains, .text "no_1"⟩] := rfl
  simp only [hfilters, List.forall₂_cons] at hpatterns
  obtain ⟨-, hbegins, hends, hcontains, -⟩ := hpatterns
  obtain ⟨_, _, hv, hpattern, hbegins, -⟩ := hbegins (by decide)
  obtain ⟨_, _, hw, hquery, hends, -⟩ := hends (by decide)
  obtain ⟨_, _, hu, hwild, -, hcontains⟩ := hcontains (by decide)
  cases hv
  cases hpattern
  cases hw
  cases hquery
  cases hu
  cases hwild
  exact ⟨clause, hclause, hargs, hbegins.mpr (by simp [NoWildcard]),
    hends.mpr (by simp [NoWildcard]), hcontains (by simp [NoWildcard])⟩

/-- A filter that looks for a text with a percent sign. -/
def percentFilter : RowFilter := ⟨.text "note", .contains, .text "50%"⟩

/-- Its pattern finds a text that does not hold it. -/
theorem percentFilter_finds_five_hundred :
    ∃ clause, whereClause .sqlite [.ok percentFilter] [.text "note"] 1 = .ok clause ∧
      clause.args = [.text "%50%%"] ∧ Likeness.exact.Like "%50%%".toList "500".toList ∧
      ¬ Likeness.exact.Finds "50%".toList .contains "500".toList := by
  refine ⟨_, rfl, rfl, ?_, ?_⟩
  · have hzero : Likeness.exact.Like ['%', '%'] ['0'] := .any ['0'] (.any [] .nil)
    exact .any [] (.letter (by decide) (by decide) rfl
      (.letter (by decide) (by decide) rfl hzero))
  · intro h
    generalize hx : "500".toList = x at h
    cases h with
    | contains before after hfound =>
        have heq : "50%".toList = _ := List.forall₂_eq_eq_eq ▸ hfound
        have hmem : '%' ∈ before ++ "50%".toList ++ after := by simp
        rw [heq, ← hx] at hmem
        exact absurd hmem (by decide)

end SqlCatalog
