import SqlCatalog.Proofs.Query.ClauseReading

/-!
# Which Column a Name Means

A caller names columns without regard to case, and a query has them as the table spells them.
The names are looked up in an index of all columns by their lower-case names, which holds one
column for each of these. Databases that quote names tell columns apart by case, so a table
may have two columns with one lower-case name, and what a name means then depends on the order
of the columns: it is the last of them. A column is meant by its own name unless a later one
has the same lower-case name, and then it cannot be named at all.

`Means` says this of the list of columns alone, and the index finds exactly what is meant. The
filters of a clause are then conditions on the columns that they mean, whatever else is among
the columns.

## Main definitions

* `Means`: The column of a table that a name means.
* `IsNamed`: A name is that of some column.
* `RowFilter.text`, `clauseText`: The text of filters on given columns.

## Theorems

* `ColumnIndex.find?_eq_some_iff`: The index finds what a name means.
* `Means.exists_iff`: Which names mean a column.
* `Means.eq_iff`: When a column is meant by its own name.
* `whereClause_of_means`: A clause is on the columns that its filters mean.
* `isNamed_of_whereClause`: Filters that make a clause all name columns.
-/

namespace SqlCatalog

/-! ### What a name means -/

/-- A name means the last one of the columns that are spelled like it up to case. -/
def Means (real : List String) (name column : String) : Prop :=
  ∃ before after, real = before ++ column :: after ∧
    Text.lowercase column = Text.lowercase name ∧
    ∀ other ∈ after, Text.lowercase other ≠ Text.lowercase name

/-- A name is that of some column up to case. -/
def IsNamed (real : List String) (name : String) : Prop :=
  ∃ column ∈ real, Text.lowercase column = Text.lowercase name

namespace ColumnIndex

/-- The index of a table has every column under its lower-case name. -/
def ofNames (real : List String) : ColumnIndex :=
  real.map fun column => (Text.lowercase column, column)

theorem ofColumns_text (real : List String) :
    ofColumns (real.map .text) = .ok (ofNames real) := by
  have hentries : (real.map Value.text).mapM entry? =
      .ok (real.map fun column => some (Text.lowercase column, column)) := by
    rw [List.mapM_map]
    induction real with
    | nil => rfl
    | cons column rest ih =>
        rw [List.mapM_cons, ih]
        rfl
  rw [ofColumns, hentries]
  refine congrArg Except.ok ?_
  rw [List.filterMap_map]
  exact congrFun List.filterMap_eq_map real

/-- The last of the columns under a lower-case name is the first one from the end. -/
theorem find?_ofNames (real : List String) (name : String) :
    (ofNames real).find? name =
      real.reverse.find? fun c => Text.lowercase c == Text.lowercase name := by
  rw [find?, ofNames, ← List.map_reverse, List.find?_map, Option.map_map]
  exact Option.map_id_apply

/-- The index finds what a name means. -/
theorem find?_eq_some_iff {real : List String} {name column : String} :
    (ofNames real).find? name = some column ↔ Means real name column := by
  rw [find?_ofNames, List.find?_eq_some_iff_append]
  -- What stands before the column in the reversed list are the later columns.
  constructor
  · rintro ⟨halike, after, before, hreal, hother⟩
    refine ⟨before.reverse, after.reverse, ?_, by simpa using halike, fun other hmem => ?_⟩
    · rw [List.reverse_eq_iff] at hreal
      simpa using hreal
    · simpa using hother other (List.mem_reverse.mp hmem)
  · rintro ⟨before, after, hreal, halike, hother⟩
    refine ⟨by simpa using halike, after.reverse, before.reverse, ?_, fun other hmem => ?_⟩
    · rw [hreal]
      simp
    · simpa using hother other (List.mem_reverse.mp hmem)

theorem require_eq_ok_iff {real : List String} {v : Value} {column : String} :
    (ofNames real).require v = .ok column ↔ Means real v.plain column := by
  rw [← find?_eq_some_iff, require]
  rcases (ofNames real).find? v.plain with _ | found
  · simp [refuse]
  · simp

end ColumnIndex

namespace Means

variable {real : List String} {name column : String}

theorem unique {other : String} (h : Means real name column) (h' : Means real name other) :
    column = other := by
  rw [← ColumnIndex.find?_eq_some_iff] at h h'
  exact Option.some.inj (h.symm.trans h')

/-- A name means something if and only if it is that of a column up to case. -/
theorem exists_iff : (∃ column, Means real name column) ↔ IsNamed real name := by
  simp only [← ColumnIndex.find?_eq_some_iff, ← Option.isSome_iff_exists,
    ColumnIndex.find?_ofNames, List.find?_isSome, List.mem_reverse, beq_iff_eq, IsNamed]

/-- A column is meant by its own name if and only if no later one is spelled like it up to
    case. -/
theorem eq_iff {before after : List String} (hdistinct : real.Nodup)
    (hreal : real = before ++ name :: after) (h : Means real name column) :
    column = name ↔ ∀ other ∈ after, Text.lowercase other ≠ Text.lowercase name := by
  constructor
  · rintro rfl
    obtain ⟨before', after', hreal', -, hother⟩ := h
    -- The column stands in one place only, so the later ones are the same.
    have hnew : column ∉ before ∧ column ∉ after := by
      rw [hreal, List.perm_middle.nodup_iff, List.nodup_cons, List.mem_append] at hdistinct
      exact not_or.mp hdistinct.1
    obtain ⟨-, -, hafter⟩ :=
      (List.append_cons_inj_of_notMem hnew.1 hnew.2).mp (hreal.symm.trans hreal')
    rw [hafter]
    exact hother
  · exact fun hlast => h.unique ⟨before, after, hreal, rfl, hlast⟩

end Means

/-- Names that are all those of columns all mean one. -/
theorem exists_forall₂_means {α : Type} {real : List String} {name : α → String} {xs : List α}
    (h : ∀ x ∈ xs, IsNamed real (name x)) :
    ∃ columns, List.Forall₂ (fun x column => Means real (name x) column) xs columns := by
  induction xs with
  | nil => exact ⟨[], .nil⟩
  | cons x rest ih =>
      obtain ⟨column, hcolumn⟩ := Means.exists_iff.mpr (h x List.mem_cons_self)
      obtain ⟨columns, hcolumns⟩ := ih fun y hy => h y (List.mem_cons_of_mem x hy)
      exact ⟨column :: columns, .cons hcolumn hcolumns⟩

/-! ### Filters -/

namespace RowFilter

/-- What a filter binds: a value, or none when it asks for null only. -/
def arguments (f : RowFilter) : Outcome (List Value) :=
  if f.binds then f.bound.map ([·]) else .ok []

/-- The text of a filter on a column. -/
def text (e : Engine) (f : RowFilter) (column : String) (marker : Int) : String :=
  e.quote column ++ match f.operator with
    | .isNull => " IS NULL"
    | .isNotNull => " IS NOT NULL"
    | _ => f.comparison e ++ e.marker marker

end RowFilter

/-- The text of filters on columns, the first one behind a word and any other one behind an
    `AND`. Markers are counted from the given number. -/
def clauseText (e : Engine) (before : String) (marker : Int) : List (RowFilter × String) → String
  | [] => ""
  | (f, column) :: rest =>
    before ++ f.text e column marker ++
      clauseText e " AND " (if f.binds then marker + 1 else marker) rest

section Filters

variable {e : Engine} {index : ColumnIndex} {real : List String}

/-- A condition is on the column that is found, and fails only for want of a value to bind. -/
theorem condition_of_require {f : RowFilter} {column : String}
    (h : index.require f.column = .ok column) (i : Int) :
    ∃ pieces, e.render pieces = f.text e column i ∧
      condition e index i f = f.arguments.map fun args => ⟨pieces, args⟩ := by
  have hname (ps : List Piece) : e.render (.name column :: ps) = e.quote column ++ e.render ps :=
    e.render_cons _ ps
  have hmarked : e.render [.sql (f.comparison e), .marker i] = f.comparison e ++ e.marker i := by
    simp [Engine.render, Engine.renderPiece]
  have hplain (test : String) : e.render [.sql test] = test := by
    simp [Engine.render, Engine.renderPiece]
  -- What is bound hangs on the operator alone, but for patterns.
  unfold condition RowFilter.arguments RowFilter.binds RowFilter.bound RowFilter.text
  rw [h]
  cases hop : f.operator
  case isNull => exact ⟨_, (hname _).trans (congrArg _ (hplain _)), rfl⟩
  case isNotNull => exact ⟨_, (hname _).trans (congrArg _ (hplain _)), rfl⟩
  case contains | startsWith | endsWith =>
    refine ⟨_, (hname _).trans (congrArg _ hmarked), ?_⟩
    rw [RowFilter.comparison, hop]
    -- A pattern is made from a text only.
    cases f.value <;> rfl
  all_goals
    refine ⟨_, (hname _).trans (congrArg _ hmarked), ?_⟩
    rw [RowFilter.comparison, hop]
    rfl

theorem length_of_arguments {f : RowFilter} {args : List Value} (h : f.arguments = .ok args) :
    (args.length : Int) = if f.binds then 1 else 0 := by
  unfold RowFilter.arguments at h
  split at h
  · rename_i hbinds
    obtain ⟨v, -, rfl⟩ := map_eq_ok_iff.mp h
    rw [if_pos hbinds]
    rfl
  · rename_i hbinds
    rw [← Except.ok.inj h, if_neg hbinds]
    rfl

/-- The conditions of filters are on the columns that the filters mean, and fail only for want
    of a value to bind, by induction on the filters. -/
theorem conditions_of_means {filters : List RowFilter} {columns : List String}
    (h : List.Forall₂ (fun f column => Means real f.column.plain column) filters columns)
    (start : Int) (before : String) :
    (conditions e (.ofNames real) start (filters.map .ok)).map
        (fun cs => (e.render (introduced before cs), cs.map (·.args))) =
      (filters.mapM RowFilter.arguments).map fun bound =>
        (clauseText e before start (filters.zip columns), bound) := by
  induction h generalizing start before with
  | nil => rfl
  | @cons f column filters columns hmeans _ ih =>
      obtain ⟨pieces, htext, hcondition⟩ :=
        condition_of_require (e := e) (ColumnIndex.require_eq_ok_iff.mpr hmeans) start
      rw [List.mapM_cons, List.map_cons, conditions]
      rcases hargs : f.arguments with failure | args
      · -- The first filter that has nothing to bind ends the work on both sides.
        have hfirst : condition e (.ofNames real) start f = .error failure := by
          rw [hcondition, hargs]
          rfl
        simp only [bind, Except.bind, hfirst, Except.map]
      · -- The condition is made, and the others count their markers from behind it.
        have hfirst : condition e (.ofNames real) start f = .ok ⟨pieces, args⟩ := by
          rw [hcondition, hargs]
          rfl
        have hnext : start + (args.length : Int) = if f.binds then start + 1 else start := by
          rw [length_of_arguments hargs]
          split <;> omega
        have hrest := ih (start + args.length) " AND "
        simp only [bind, Except.bind, hfirst]
        rcases hconditions : conditions e (.ofNames real) (start + args.length)
            (filters.map .ok) with failure | cs <;>
          rcases hbound : filters.mapM RowFilter.arguments with failure' | bound <;>
          rw [hconditions, hbound] at hrest
        · exact hrest
        · exact absurd hrest (by simp [Except.map])
        · exact absurd hrest (by simp [Except.map])
        · obtain ⟨htexts, hbinds⟩ := Prod.mk.inj (Except.ok.inj hrest)
          have hwritten : e.render (introduced before (⟨pieces, args⟩ :: cs)) =
              before ++ (e.render pieces ++ e.render (introduced " AND " cs)) := by
            rw [introduced, if_neg (by simp), Engine.render_cons, conjunction_cons,
              Engine.render_append]
            rfl
          refine congrArg Except.ok (Prod.ext (hwritten.trans ?_) (congrArg (args :: ·) hbinds))
          rw [htext, htexts, hnext, ← String.append_assoc]
          rfl

/-- A clause is that of the columns that its filters mean, and there is one unless some filter
    has no value that it could bind. -/
theorem whereClause_of_means {filters : List RowFilter} {columns : List String}
    (h : List.Forall₂ (fun f column => Means real f.column.plain column) filters columns)
    (start : Int) :
    (whereClause e (filters.map .ok) (real.map .text) start).map
        (fun clause => (e.render clause.pieces, clause.args)) =
      (filters.mapM RowFilter.arguments).map fun bound =>
        (clauseText e "WHERE " start (filters.zip columns), bound.flatten) := by
  have hconditions := congrArg (Except.map fun (text, bound) => (text, bound.flatten))
    (conditions_of_means (e := e) h start "WHERE ")
  rw [whereClause, ColumnIndex.ofColumns_text]
  refine Eq.trans ?_ (hconditions.trans ?_)
  · simp only [bind, Except.bind]
    rcases conditions e (.ofNames real) start (filters.map .ok) with failure | cs
    · rfl
    · exact congrArg (fun args => Except.ok (_, args)) List.flatMap_def
  · rcases filters.mapM RowFilter.arguments with failure | bound <;> rfl

/-- Filters that make a clause all name columns. -/
theorem isNamed_of_whereClause {filters : List (Outcome RowFilter)} {start : Int}
    {clause : WhereClause} (h : whereClause e filters (real.map .text) start = .ok clause) :
    ∃ found : List RowFilter,
      filters = found.map .ok ∧ ∀ f ∈ found, IsNamed real f.column.plain := by
  obtain ⟨index, hindex, h⟩ := ok_of_bind h
  obtain ⟨cs, hcs, -⟩ := ok_of_bind h
  obtain ⟨found, hfilters, hfound, -⟩ := writeTokens_conditions hcs
  rw [ColumnIndex.ofColumns_text] at hindex
  obtain rfl := Except.ok.inj hindex
  refine ⟨found.map Prod.fst, ?_, ?_⟩
  · rw [hfilters, List.map_map]
    rfl
  · intro f hf
    obtain ⟨p, hp, rfl⟩ := List.mem_map.mp hf
    exact Means.exists_iff.mp ⟨p.2, ColumnIndex.require_eq_ok_iff.mp (hfound p hp)⟩

end Filters

end SqlCatalog
