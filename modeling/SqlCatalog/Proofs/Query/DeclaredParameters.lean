import Mathlib.Data.List.Nodup
import Mathlib.Data.List.Perm.Basic
import SqlCatalog.Proofs.Basic
import SqlCatalog.Query.Parameter

/-!
# Arguments for Declared Parameters

The arguments of a call come as a mapping, and the declaration of the procedure says where each
of them belongs. A parameter takes the argument of its name, whatever the case of the letters,
and parameters follow the declaration. One that only puts something out may go without an
argument; a call by name leaves it out then, and a call by position has to fill its place,
since every later value would move up otherwise.

That nothing is lost and nothing is bound twice takes two hypotheses. No two arguments and no
two parameters may differ in case only, so a parameter takes one argument at most and an
argument has one taker at most. Arguments that are left over are refused, so those that were
taken are all of them.

## Main definitions

* `ParameterInfo.Takes`, `ParameterInfo.Served`: Which arguments a parameter takes, and when
  it has what it needs.
* `Apart`: Arguments that differ in more than case.
* `Filling`: A parameter in a call, with its argument.
* `FillsIn`: How declared parameters appear in a call.
* `strays`: The arguments that no parameter takes.

## Theorems

* `FillsIn.perm`: Every argument is taken once, unless it is a stray.
* `orderArguments_missing`: A parameter without its argument is refused.
* `orderArguments_of_served`: Else strays are, and without strays the arguments are in order.
* `exists_given_of_orderArguments`: What a call by name writes, an argument is given for.
* `orderArguments_perm`: The order in which arguments are given does not count.
-/

namespace SqlCatalog

namespace ParameterInfo

/-- The declared name without the marks before it, as a call writes it. -/
def bare (p : ParameterInfo) : String :=
  match p.name with
  | .text s => String.ofList (s.toList.dropWhile fun c => c == '@' || c == ':')
  | _ => ""

theorem bareName_of_text {p : ParameterInfo} (h : ∃ s, p.name = .text s) :
    p.bareName = .ok p.bare := by
  obtain ⟨s, hs⟩ := h
  rw [bareName, bare, hs]

theorem isText_of_bareName {p : ParameterInfo} {name : String} (h : p.bareName = .ok name) :
    ∃ s, p.name = .text s := by
  unfold bareName at h
  split at h
  · exact ⟨_, ‹_›⟩
  all_goals exact absurd h (by simp)

/-- A parameter takes an argument of its name, in whatever case. -/
def Takes (p : ParameterInfo) (a : String × Value) : Prop :=
  Text.lowercase a.1 = Text.lowercase p.bare

instance (p : ParameterInfo) (a : String × Value) : Decidable (p.Takes a) :=
  inferInstanceAs (Decidable (_ = _))

/-- An argument is given for a parameter. -/
def Supplied (given : CallArguments) (p : ParameterInfo) : Prop :=
  ∃ a ∈ given, p.Takes a

/-- A parameter has what it needs: an argument, unless it only puts something out. -/
def Served (given : CallArguments) (p : ParameterInfo) : Prop :=
  p.isOutput = true ∨ p.Supplied given

instance (given : CallArguments) (p : ParameterInfo) : Decidable (p.Served given) :=
  inferInstanceAs (Decidable (_ ∨ ∃ a ∈ given, p.Takes a))

end ParameterInfo

/-- No two arguments differ in the case of their names only. -/
def Apart (given : CallArguments) : Prop :=
  (given.map fun a => Text.lowercase a.1).Nodup

/-- A parameter that appears in a call, with the argument it takes if there is one. -/
structure Filling where
  parameter : ParameterInfo
  argument : Option (String × Value)

namespace Filling

/-- What is bound: the value of the argument, or nothing. -/
def value (s : Filling) : Value :=
  match s.argument with
  | some a => a.2
  | none => .null

/-- The name and the value of a parameter, beside the name that the caller gave. -/
def entry (s : Filling) : String × Value × Option String :=
  (s.parameter.bare, s.value, s.argument.map (·.1))

end Filling

/-- How declared parameters appear in a call, in the order of the declaration: each with the
    argument that it takes. Without one, a parameter that only puts something out is left out
    of a call by name, and appears without a value in any other. -/
inductive FillsIn (byName : Bool) (given : CallArguments) :
    List ParameterInfo → List Filling → Prop
  | nil : FillsIn byName given [] []
  | taken {p : ParameterInfo} {a : String × Value} {rest : List ParameterInfo}
      {fillings : List Filling} : a ∈ given → p.Takes a → FillsIn byName given rest fillings →
      FillsIn byName given (p :: rest) (⟨p, some a⟩ :: fillings)
  | blank {p : ParameterInfo} {rest : List ParameterInfo} {fillings : List Filling} :
      byName = false → p.isOutput = true → ¬ p.Supplied given →
      FillsIn byName given rest fillings →
      FillsIn byName given (p :: rest) (⟨p, none⟩ :: fillings)
  | leftOut {p : ParameterInfo} {rest : List ParameterInfo} {fillings : List Filling} :
      byName = true → p.isOutput = true → ¬ p.Supplied given →
      FillsIn byName given rest fillings →
      FillsIn byName given (p :: rest) fillings

/-- The arguments that no parameter takes. -/
def strays (given : CallArguments) (declared : List ParameterInfo) : CallArguments :=
  given.filter fun a => ∀ p ∈ declared, ¬ p.Takes a

section

variable {given given' : CallArguments} {declared before after : List ParameterInfo}
  {fillings : List Filling} {byName : Bool} {p : ParameterInfo} {a : String × Value}
  {name : String}

/-! ### Looking up an argument -/

theorem mem_of_findArgument? (h : findArgument? given name = some a) :
    a ∈ given ∧ Text.lowercase a.1 = Text.lowercase name :=
  ⟨List.mem_reverse.mp (List.mem_of_find?_eq_some h), by simpa using List.find?_some h⟩

theorem findArgument?_eq_none_iff :
    findArgument? given name = none ↔
      ∀ a ∈ given, Text.lowercase a.1 ≠ Text.lowercase name := by
  rw [findArgument?, List.find?_eq_none]
  simp

/-- Of arguments that are apart, the one that is found is the only one of its name. -/
theorem findArgument?_eq_some_iff (hapart : Apart given) :
    findArgument? given name = some a ↔
      a ∈ given ∧ Text.lowercase a.1 = Text.lowercase name := by
  constructor
  · exact mem_of_findArgument?
  · rintro ⟨ha, hname⟩
    cases hfound : findArgument? given name with
    | none => exact absurd hname (findArgument?_eq_none_iff.mp hfound a ha)
    | some b =>
        obtain ⟨hb, hname'⟩ := mem_of_findArgument? hfound
        rw [List.inj_on_of_nodup_map hapart hb ha (hname'.trans hname.symm)]

/-- So the order in which they are given does not count. -/
theorem findArgument?_perm (hapart : Apart given) (hperm : given'.Perm given) :
    findArgument? given' = findArgument? given := by
  have hapart' : Apart given' := (hperm.map _).nodup_iff.mpr hapart
  funext name
  ext a
  rw [findArgument?_eq_some_iff hapart', findArgument?_eq_some_iff hapart, hperm.mem_iff]

theorem not_supplied_iff : ¬ p.Supplied given ↔ findArgument? given p.bare = none := by
  rw [findArgument?_eq_none_iff]
  exact not_exists.trans (forall_congr' fun a => not_and)

/-! ### Arguments in the order of the declaration -/

theorem matchArguments_cons (hname : ∃ s, p.name = .text s) :
    matchArguments byName given (p :: declared) =
      match findArgument? given p.bare with
      | some a => (matchArguments byName given declared).map (Filling.entry ⟨p, some a⟩ :: ·)
      | none => if p.isOutput = false then refuse (.missingParameter p.bare)
          else (matchArguments byName given declared).map
            fun more => if byName then more else Filling.entry ⟨p, none⟩ :: more := by
  rw [matchArguments, p.bareName_of_text hname]
  dsimp only [bind, Except.bind]
  cases findArgument? given p.bare with
  | some a => cases matchArguments byName given declared <;> rfl
  | none =>
      cases p.isOutput with
      | false => rfl
      | true => cases matchArguments byName given declared <;> rfl

/-- Where a parameter lacks what it needs, there is a first one. -/
theorem exists_first_unserved (h : ¬ ∀ p ∈ declared, p.Served given) :
    ∃ before p after, declared = before ++ p :: after ∧ (∀ r ∈ before, r.Served given) ∧
      ¬ p.Served given := by
  cases hfind : declared.find? (fun p => decide (¬ p.Served given)) with
  | none =>
      rw [List.find?_eq_none] at hfind
      exact absurd (fun p hp => by simpa using hfind p hp) h
  | some p =>
      obtain ⟨hp, before, after, hdeclared, hbefore⟩ := List.find?_eq_some_iff_append.mp hfind
      exact ⟨before, p, after, hdeclared, fun r hr => by simpa using hbefore r hr,
        of_decide_eq_true hp⟩

/-- A parameter that needs an argument and has none ends the work, unless one before it does. -/
theorem matchArguments_missing (hnames : ∀ r ∈ before ++ p :: after, ∃ s, r.name = .text s)
    (hbefore : ∀ r ∈ before, r.Served given) (hp : ¬ p.Served given) :
    matchArguments byName given (before ++ p :: after) =
      refuse (.missingParameter p.bare) := by
  induction before with
  | nil =>
      obtain ⟨hin, hnone⟩ := not_or.mp hp
      rw [List.nil_append,
        matchArguments_cons (hnames p (List.mem_append_right _ List.mem_cons_self)),
        not_supplied_iff.mp hnone]
      exact if_pos ((Bool.not_eq_true _).mp hin)
  | cons r more ih =>
      obtain ⟨hr, hmore⟩ := List.forall_mem_cons.mp hbefore
      obtain ⟨hname, hnames⟩ := List.forall_mem_cons.mp hnames
      rw [List.cons_append, matchArguments_cons hname, ih hnames hmore]
      cases hfound : findArgument? given r.bare with
      | some a => rfl
      | none =>
          rw [hr.resolve_right (not_supplied_iff.mpr hfound)]
          rfl

/-- Else every parameter has its place. -/
theorem exists_fillsIn (byName : Bool) (hnames : ∀ r ∈ declared, ∃ s, r.name = .text s)
    (hserved : ∀ r ∈ declared, r.Served given) :
    ∃ fillings, FillsIn byName given declared fillings ∧
      matchArguments byName given declared = .ok (fillings.map Filling.entry) := by
  induction declared with
  | nil => exact ⟨[], .nil, rfl⟩
  | cons p rest ih =>
      obtain ⟨hp, hrest⟩ := List.forall_mem_cons.mp hserved
      obtain ⟨hname, hnames⟩ := List.forall_mem_cons.mp hnames
      obtain ⟨fillings, hfillings, hmatch⟩ := ih hnames hrest
      rw [matchArguments_cons hname, hmatch]
      cases hfound : findArgument? given p.bare with
      | some a =>
          obtain ⟨ha, htakes⟩ := mem_of_findArgument? hfound
          exact ⟨⟨p, some a⟩ :: fillings, .taken ha htakes hfillings, rfl⟩
      | none =>
          have hnone := not_supplied_iff.mpr hfound
          have hout := hp.resolve_right hnone
          rw [hout]
          cases byName with
          | false => exact ⟨⟨p, none⟩ :: fillings, .blank rfl hout hnone hfillings, rfl⟩
          | true => exact ⟨fillings, .leftOut rfl hout hnone hfillings, rfl⟩

namespace FillsIn

theorem arguments_cons (p : ParameterInfo) (a : String × Value) (fillings : List Filling) :
    (Filling.mk p (some a) :: fillings).filterMap Filling.argument =
      a :: fillings.filterMap Filling.argument :=
  rfl

/-- Arguments in a call are given, and have a declared taker. -/
theorem of_mem (h : FillsIn byName given declared fillings)
    (ha : a ∈ fillings.filterMap Filling.argument) :
    a ∈ given ∧ ∃ p ∈ declared, p.Takes a := by
  induction h with
  | nil => exact absurd ha List.not_mem_nil
  | taken hmem htakes _ ih =>
      rw [arguments_cons, List.mem_cons] at ha
      rcases ha with rfl | ha
      · exact ⟨hmem, _, List.mem_cons_self, htakes⟩
      · obtain ⟨hgiven, r, hr, hr'⟩ := ih ha
        exact ⟨hgiven, r, List.mem_cons_of_mem _ hr, hr'⟩
  | blank _ _ _ _ ih =>
      obtain ⟨hgiven, r, hr, hr'⟩ := ih ha
      exact ⟨hgiven, r, List.mem_cons_of_mem _ hr, hr'⟩
  | leftOut _ _ _ _ ih =>
      obtain ⟨hgiven, r, hr, hr'⟩ := ih ha
      exact ⟨hgiven, r, List.mem_cons_of_mem _ hr, hr'⟩

/-- A parameter that nothing is given for takes no argument, so the taker is another one. -/
theorem exists_taker_of_none {p : ParameterInfo} {rest : List ParameterInfo}
    (hnone : ¬∃ a ∈ given, p.Takes a) (ha : a ∈ given) (htaker : ∃ r ∈ p :: rest, r.Takes a) :
    ∃ r ∈ rest, r.Takes a := by
  obtain ⟨r, hr, htakes⟩ := htaker
  rcases List.mem_cons.mp hr with rfl | hr
  · exact absurd ⟨a, ha, htakes⟩ hnone
  · exact ⟨r, hr, htakes⟩

/-- An argument that is given and has a declared taker is in the call. -/
theorem mem (h : FillsIn byName given declared fillings) (hapart : Apart given) (ha : a ∈ given)
    (htaker : ∃ p ∈ declared, p.Takes a) : a ∈ fillings.filterMap Filling.argument := by
  induction h with
  | nil =>
      obtain ⟨p, hp, -⟩ := htaker
      exact absurd hp List.not_mem_nil
  | taken hmem htakes _ ih =>
      rw [arguments_cons, List.mem_cons]
      obtain ⟨r, hr, hr'⟩ := htaker
      rcases List.mem_cons.mp hr with rfl | hr
      · -- The taker takes one argument only.
        exact .inl (List.inj_on_of_nodup_map hapart ha hmem (hr'.trans htakes.symm))
      · exact .inr (ih ⟨r, hr, hr'⟩)
  | blank _ _ hnone _ ih => exact ih (exists_taker_of_none hnone ha htaker)
  | leftOut _ _ hnone _ ih => exact ih (exists_taker_of_none hnone ha htaker)

/-- No argument is in a call twice, since parameters have different names. -/
theorem nodup (h : FillsIn byName given declared fillings)
    (hdistinct : (declared.map fun p => Text.lowercase p.bare).Nodup) :
    (fillings.filterMap Filling.argument).Nodup := by
  induction h with
  | nil => exact List.nodup_nil
  | taken _ htakes hrest ih =>
      rw [List.map_cons, List.nodup_cons] at hdistinct
      rw [arguments_cons, List.nodup_cons]
      refine ⟨fun hagain => ?_, ih hdistinct.2⟩
      obtain ⟨-, r, hr, hr'⟩ := hrest.of_mem hagain
      exact hdistinct.1 (List.mem_map.mpr ⟨r, hr, hr'.symm.trans htakes⟩)
  | blank _ _ _ _ ih => exact ih (List.nodup_cons.mp hdistinct).2
  | leftOut _ _ _ _ ih => exact ih (List.nodup_cons.mp hdistinct).2

/-- Every argument is in the call once, unless there are strays. -/
theorem perm (h : FillsIn byName given declared fillings) (hapart : Apart given)
    (hdistinct : (declared.map fun p => Text.lowercase p.bare).Nodup)
    (hnone : strays given declared = []) : (fillings.filterMap Filling.argument).Perm given := by
  rw [List.perm_ext_iff_of_nodup (h.nodup hdistinct) hapart.of_map]
  refine fun a => ⟨fun ha => (h.of_mem ha).1, fun ha => h.mem hapart ha ?_⟩
  have hstray := List.filter_eq_nil_iff.mp hnone a ha
  simpa using hstray

end FillsIn

/-- The arguments that are left over are the strays. -/
theorem unknown_of_fillsIn (h : FillsIn byName given declared fillings) (hapart : Apart given) :
    ((given.map (·.1)).filter fun name =>
      !((fillings.map Filling.entry).filterMap fun (_, _, taken) => taken).contains name) =
      (strays given declared).map (·.1) := by
  have hconsumed : ((fillings.map Filling.entry).filterMap fun (_, _, taken) => taken) =
      (fillings.filterMap Filling.argument).map (·.1) := by
    rw [List.filterMap_map, List.map_filterMap]
    rfl
  rw [hconsumed, List.filter_map, strays]
  refine congrArg _ (List.filter_congr fun a ha => ?_)
  rw [Bool.eq_iff_iff]
  simp only [Function.comp_apply, Bool.not_eq_true', List.contains_eq_mem, decide_eq_false_iff_not,
    decide_eq_true_eq]
  constructor
  · intro hleft p hp htakes
    exact hleft (List.mem_map_of_mem (h.mem hapart ha ⟨p, hp, htakes⟩))
  · intro hstray hmem
    obtain ⟨b, hb, hname⟩ := List.mem_map.mp hmem
    obtain ⟨-, p, hp, htakes⟩ := h.of_mem hb
    rw [ParameterInfo.Takes, hname] at htakes
    exact hstray p hp htakes

/-- A parameter that needs an argument and has none is refused. -/
theorem orderArguments_missing (hnames : ∀ r ∈ before ++ p :: after, ∃ s, r.name = .text s)
    (hbefore : ∀ r ∈ before, r.Served given) (hp : ¬ p.Served given) :
    orderArguments byName given (before ++ p :: after) = refuse (.missingParameter p.bare) := by
  rw [orderArguments, matchArguments_missing hnames hbefore hp]
  rfl

/-- Where every parameter has what it needs, strays are refused by name, and without strays
    the arguments are in order. -/
theorem orderArguments_of_served (hapart : Apart given)
    (hnames : ∀ r ∈ declared, ∃ s, r.name = .text s)
    (hserved : ∀ r ∈ declared, r.Served given) :
    ∃ fillings, FillsIn byName given declared fillings ∧ orderArguments byName given declared =
      if strays given declared = [] then
        .ok (fillings.map fun s => (s.parameter.bare, s.value))
      else refuse (.input (.unknownParameters
        (((strays given declared).map (·.1)).mergeSort fun a b => a ≤ b))) := by
  obtain ⟨fillings, hfillings, hmatch⟩ := exists_fillsIn byName hnames hserved
  refine ⟨fillings, hfillings, ?_⟩
  rw [orderArguments, hmatch]
  change (if List.isEmpty (List.filter _ _) then _ else _) = _
  rw [unknown_of_fillsIn hfillings hapart]
  simp only [List.isEmpty_iff, List.map_eq_nil_iff, List.map_map]
  rfl

/-- A call by name writes no declared name but one that an argument is given for. -/
theorem exists_given_of_matchArguments {entries : List (String × Value × Option String)}
    (h : matchArguments true given declared = .ok entries) :
    ∀ x ∈ entries, ∃ a ∈ given, Text.lowercase a.1 = Text.lowercase x.1 := by
  induction declared generalizing entries with
  | nil =>
      rw [← Except.ok.inj h]
      exact fun x hx => absurd hx List.not_mem_nil
  | cons p rest ih =>
      obtain ⟨name, hname, -⟩ := ok_of_bind h
      rw [matchArguments_cons (p.isText_of_bareName hname)] at h
      cases hmore : matchArguments true given rest with
      | error failure =>
          rw [hmore] at h
          split at h
          · exact absurd h (by simp [Except.map])
          · split at h <;> exact absurd h (by simp [refuse, Except.map])
      | ok more =>
          rw [hmore] at h
          split at h
          · rename_i a hfound
            rw [← Except.ok.inj h, List.forall_mem_cons]
            exact ⟨⟨a, mem_of_findArgument? hfound⟩, ih hmore⟩
          · split at h
            · exact absurd h (by simp [refuse])
            · rw [← Except.ok.inj h]
              exact ih hmore

theorem exists_given_of_orderArguments {ordered : CallArguments}
    (h : orderArguments true given declared = .ok ordered) :
    ∀ x ∈ ordered, ∃ a ∈ given, Text.lowercase a.1 = Text.lowercase x.1 := by
  obtain ⟨entries, hentries, h⟩ := ok_of_bind h
  dsimp only at h
  split at h
  · rw [← Except.ok.inj h, List.forall_mem_map]
    exact exists_given_of_matchArguments hentries
  · exact absurd h (by simp [refuse])

theorem matchArguments_congr (h : findArgument? given' = findArgument? given) :
    matchArguments byName given' declared = matchArguments byName given declared := by
  induction declared with
  | nil => rfl
  | cons p rest ih => rw [matchArguments, matchArguments, h, ih]

theorem mergeSort_eq_of_perm {xs ys : List String} (h : xs.Perm ys) :
    (xs.mergeSort fun a b => a ≤ b) = ys.mergeSort fun a b => a ≤ b := by
  have hsorted (zs : List String) :
      (zs.mergeSort fun a b => a ≤ b).Pairwise fun a b => decide (a ≤ b) = true := by
    refine List.pairwise_mergeSort (fun a b c hab hbc => ?_) (fun a b => ?_) zs
    · exact decide_eq_true (String.le_trans (of_decide_eq_true hab) (of_decide_eq_true hbc))
    · rw [Bool.or_eq_true, decide_eq_true_iff, decide_eq_true_iff]
      exact String.le_total a b
  refine List.Perm.eq_of_pairwise (fun a b _ _ hab hba => ?_) (hsorted xs) (hsorted ys)
    ((List.mergeSort_perm xs _).trans (h.trans (List.mergeSort_perm ys _).symm))
  exact String.le_antisymm (of_decide_eq_true hab) (of_decide_eq_true hba)

/-- The order in which arguments are given does not count, not even where they are refused. -/
theorem orderArguments_perm (hapart : Apart given) (hperm : given'.Perm given) :
    orderArguments byName given' declared = orderArguments byName given declared := by
  rw [orderArguments, orderArguments, matchArguments_congr (findArgument?_perm hapart hperm)]
  refine congrArg _ (funext fun taken => ?_)
  -- What is left over is the same in another order, and it is sorted.
  have hleft := (hperm.map (·.1)).filter
    fun name => !(taken.filterMap fun (_, _, name) => name).contains name
  dsimp only
  rw [hleft.isEmpty_eq, mergeSort_eq_of_perm hleft]

end

end SqlCatalog
