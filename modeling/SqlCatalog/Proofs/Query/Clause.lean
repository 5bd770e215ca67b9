import SqlCatalog.Filter
import SqlCatalog.Proofs.Query.Catalogue

/-!
# Filter Clauses in Lockstep

A clause of row filters binds one value for every filter that compares, and none for those
that ask for null only. The marker of a filter stands behind its column, spelled as the
table spells it and quoted, and its operator.

## Main definitions

* `RowFilter.binds`, `RowFilter.bound`: Whether a filter binds a value, and which.
* `RowFilter.Compared`: A text ends in the comparison that a filter makes.
* `boundFilters`: The filters of a clause that bind values.

## Theorems

* `bound_whereClause`: The arguments of a clause are what its filters bind.
* `placed_conditions`: The markers of conditions stand behind the columns of their filters.
-/

namespace SqlCatalog

namespace RowFilter

/-- Whether a filter compares its column with a value. -/
def binds (f : RowFilter) : Bool :=
  f.operator != .isNull && f.operator != .isNotNull

/-- What is bound for a filter: its value, or the pattern of a text. -/
def bound (f : RowFilter) : Outcome Value :=
  match f.operator.sign?, f.value with
  | some _, v => .ok v
  | none, .text s => .ok (.text (f.operator.pattern s))
  | none, _ => refuse (.filter (.needsText f.operator.name))

/-- The operator of a filter as it stands between its column and its marker. -/
def comparison (e : Engine) (f : RowFilter) : String :=
  " " ++ f.operator.sign?.getD (e.likeOperator false) ++ " "

/-- A text ends in the comparison that a filter makes with a column of these. -/
def Compared (e : Engine) (columns : List Value) (f : RowFilter) (before : List Char) : Prop :=
  ∃ index column, ColumnIndex.ofColumns columns = .ok index
    ∧ index.require f.column = .ok column
    ∧ (e.quote column).toList ++ (f.comparison e).toList <:+ before

end RowFilter

/-- The filters of a clause that bind values, in order. -/
def boundFilters (filters : List (Outcome RowFilter)) : List RowFilter :=
  filters.filterMap fun
    | .ok f => if f.binds then some f else none
    | .error _ => none

section Condition

variable {e : Engine} {index : ColumnIndex} {i : Int} {f : RowFilter} {c : Condition}

/-- What a condition is made of: a filter that asks for null binds nothing, and any other
    binds its value behind its column and its operator. -/
theorem condition_cases (h : condition e index i f = .ok c) :
    ∃ column, index.require f.column = .ok column ∧
      ((f.binds = false ∧ ∃ test ∈ [" IS NULL", " IS NOT NULL"],
          c = ⟨[.name column, .sql test], []⟩)
        ∨ (f.binds = true ∧ ∃ v, f.bound = .ok v ∧
          c = ⟨[.name column, .sql (f.comparison e), .marker i], [v]⟩)) := by
  obtain ⟨column, hcolumn, h⟩ := ok_of_bind h
  refine ⟨column, hcolumn, ?_⟩
  cases hop : f.operator
  case isNull =>
    rw [hop] at h
    exact .inl ⟨by rw [RowFilter.binds, hop]; rfl, _, List.mem_cons_self,
      (Except.ok.inj h).symm⟩
  case isNotNull =>
    rw [hop] at h
    exact .inl ⟨by rw [RowFilter.binds, hop]; rfl, _,
      List.mem_cons_of_mem _ List.mem_cons_self, (Except.ok.inj h).symm⟩
  case contains | startsWith | endsWith =>
    rw [hop] at h
    cases hvalue : f.value with
    | text s =>
        rw [hvalue] at h
        refine .inr ⟨by rw [RowFilter.binds, hop]; rfl, .text (f.operator.pattern s), ?_, ?_⟩
        · rw [RowFilter.bound, hop, hvalue]
          rfl
        · rw [RowFilter.comparison, hop]
          exact (Except.ok.inj h).symm
    | _ =>
        rw [hvalue] at h
        exact absurd h (by simp [FilterOperator.sign?, refuse])
  all_goals
    rw [hop] at h
    refine .inr ⟨by rw [RowFilter.binds, hop]; rfl, f.value, ?_, ?_⟩
    · rw [RowFilter.bound, hop]
      rfl
    · rw [RowFilter.comparison, hop]
      exact (Except.ok.inj h).symm

end Condition

/-- What an index finds is a column of the table, spelled like the name that is looked up. -/
theorem ColumnIndex.real_of_require {columns : List Value} {index : ColumnIndex} {v : Value}
    {column : String} (hindex : ofColumns columns = .ok index)
    (h : index.require v = .ok column) :
    .text column ∈ columns ∧ Text.lowercase column = Text.lowercase v.plain := by
  obtain ⟨entries, hentries, hindex⟩ := ok_of_bind hindex
  obtain ⟨key, hkey, hmem⟩ :
      ∃ key, key = Text.lowercase v.plain ∧ (key, column) ∈ index := by
    unfold ColumnIndex.require at h
    split at h
    · rename_i actual hfind
      rw [ColumnIndex.find?, Option.map_eq_some_iff] at hfind
      obtain ⟨⟨key, found⟩, hfound, rfl⟩ := hfind
      rw [← Except.ok.inj h]
      exact ⟨key, by simpa using List.find?_some hfound,
        List.mem_reverse.mp (List.mem_of_find?_eq_some hfound)⟩
    · exact absurd h (by simp [refuse])
  rw [← Except.ok.inj hindex, List.mem_filterMap] at hmem
  obtain ⟨entry, hentry, hid⟩ := hmem
  obtain ⟨c, hc, hread⟩ := exists_of_mapM hentries entry hentry
  rw [id] at hid
  rw [hid] at hread
  -- Only texts have an entry in the index, and it holds them unchanged.
  cases c with
  | text s =>
      obtain ⟨hlower, rfl⟩ := Prod.mk.inj (Option.some.inj (Except.ok.inj hread))
      exact ⟨hc, hlower.trans hkey⟩
  | bytes kind data => cases kind <;> exact absurd hread (by simp [ColumnIndex.entry?])
  | _ => exact absurd hread (by simp [ColumnIndex.entry?])

section Conditions

variable {e : Engine} {index : ColumnIndex} {columns : List Value} {fits : Nat → List Char → Prop}

theorem silent_comparison (e : Engine) (f : RowFilter) :
    e.silent none (f.comparison e).toList = true := by
  have hword := silent_clauseWords e
  have hblank := hword " " (by simp)
  have hlike : e.silent none (e.likeOperator false).toList = true := by
    unfold Engine.likeOperator
    split
    · exact hword "ILIKE" (by simp)
    · exact hword "LIKE" (by simp)
  have hsign : e.silent none (f.operator.sign?.getD (e.likeOperator false)).toList = true := by
    cases f.operator
    case eq | neq | gt | gte | lt | lte => exact hword _ (by simp [FilterOperator.sign?])
    all_goals exact hlike
  rw [RowFilter.comparison, String.toList_append, String.toList_append]
  exact Engine.silent_append (Engine.silent_append hblank hsign) hblank

/-- The marker of a condition stands where it fits. -/
theorem placed_condition (hlooks : LooksBack fits) {n : Nat} {i : Int} {f : RowFilter}
    {c : Condition} (hi : i = (n : Int) + 1)
    (hname : ∀ column, index.require f.column = .ok column →
      Identifier.isName column.toList = true)
    (hfits : f.binds = true → ∀ column, index.require f.column = .ok column →
      fits (n + 1) ((e.quote column).toList ++ (f.comparison e).toList))
    (h : condition e index i f = .ok c) :
    Placed e fits (n + 1) c.pieces (List.range' (n + 1) c.args.length) := by
  obtain ⟨column, hcolumn, ⟨-, test, htest, rfl⟩ | ⟨hbinds, v, -, rfl⟩⟩ := condition_cases h
  · have hsilent : ∀ p ∈ [Piece.name column, .sql test], e.silentPiece p = true := by
      simp only [List.forall_mem_cons]
      exact ⟨silentPiece_name e (hname column hcolumn),
        silent_clauseWords e test (by simp at htest; rcases htest with rfl | rfl <;> simp),
        fun p hp => absurd hp List.not_mem_nil⟩
    exact Placed.of_silent hlooks hsilent
  · have hsilent : ∀ p ∈ [Piece.name column, .sql (f.comparison e)], e.silentPiece p = true := by
      simp only [List.forall_mem_cons]
      exact ⟨silentPiece_name e (hname column hcolumn), silent_comparison e f,
        fun p hp => absurd hp List.not_mem_nil⟩
    have htext : (e.render [Piece.name column, .sql (f.comparison e)]).toList
        = (e.quote column).toList ++ (f.comparison e).toList := by
      simp [Engine.renderPiece, Engine.render]
    have hasks : e.Asks (n + 1) i (n + 1) := hi ▸ e.asks_next n
    exact Placed.marker hsilent hasks (htext ▸ hfits hbinds column hcolumn)

/-- What comes after a condition: nothing, or the other conditions behind an `AND`. -/
def joined (rest : List Condition) : List Piece :=
  if rest.isEmpty then [] else .sql " AND " :: conjunction rest

theorem conjunction_cons (c : Condition) (rest : List Condition) :
    conjunction (c :: rest) = c.pieces ++ joined rest := by
  cases rest with
  | nil => exact (List.append_nil _).symm
  | cons d more => rfl

theorem endsNumber_joined (rest : List Condition) :
    Engine.endsNumber (joined rest) = true := by
  unfold joined
  split
  · rfl
  · rw [Engine.endsNumber]
    decide

/-- What a filter compares with depends on the end of the text before a marker only. -/
theorem looksBack_filters (e : Engine) (columns : List Value) (filters : List RowFilter) :
    LooksBack (PlaceOf filters (RowFilter.Compared e columns)) :=
  looksBack_placeOf filters fun _ _ _ ⟨index, column, hindex, hcolumn, hends⟩ =>
    ⟨index, column, hindex, hcolumn, hends.trans (List.suffix_append _ _)⟩

/-- Conditions after the first one are placed behind an `AND`. -/
theorem placed_joined (hlooks : LooksBack fits) {n : Nat} {rest : List Condition}
    {indices : List Nat} (h : Placed e fits n (conjunction rest) indices) :
    Placed e fits n (joined rest) indices := by
  cases rest with
  | nil => exact h
  | cons c more =>
      have hand : ∀ p ∈ [Piece.sql " AND "], e.silentPiece p = true :=
        List.forall_mem_singleton.mpr (silent_clauseWords e " AND " (by simp))
      exact Placed.silent_append hlooks hand h

/-- A condition binds what its filter binds. -/
theorem bound_condition {i : Int} {f : RowFilter} {c : Condition}
    (h : condition e index i f = .ok c) :
    (boundFilters [.ok f]).map RowFilter.bound = c.args.map .ok := by
  obtain ⟨_, -, ⟨hbinds, _, -, rfl⟩ | ⟨hbinds, v, hv, rfl⟩⟩ := condition_cases h
  · simp [boundFilters, hbinds]
  · simp [boundFilters, hbinds, hv]

/-- A condition is placed before others that go on counting behind its arguments. -/
theorem placed_conjunction_cons (hlooks : LooksBack fits) {n k : Nat} {c : Condition}
    {more : List Condition} (hc : Placed e fits n c.pieces (List.range' n c.args.length))
    (hmore : Placed e fits (n + c.args.length) (conjunction more)
      (List.range' (n + c.args.length) k)) :
    Placed e fits n (conjunction (c :: more)) (List.range' n (c.args.length + k)) := by
  rw [conjunction_cons, ← List.range'_append_1]
  refine Placed.append hlooks hc ?_ (endsNumber_joined more)
  rw [List.length_range']
  exact placed_joined hlooks hmore

theorem boundFilters_cons (f : RowFilter) (rest : List (Outcome RowFilter)) :
    boundFilters (.ok f :: rest) = boundFilters [.ok f] ++ boundFilters rest := by
  rw [← List.singleton_append]
  exact List.filterMap_append

/-- Conditions bind what their filters bind, by induction on the filters. -/
theorem bound_conditions {filters : List (Outcome RowFilter)} {start : Int}
    {found : List Condition} (h : conditions e index start filters = .ok found) :
    (boundFilters filters).map RowFilter.bound = (found.flatMap (·.args)).map .ok := by
  induction filters generalizing start found with
  | nil =>
      rw [← Except.ok.inj h]
      rfl
  | cons o rest ih =>
      obtain ⟨f, ho, h⟩ := ok_of_bind h
      obtain ⟨c, hc, h⟩ := ok_of_bind h
      obtain ⟨more, hmore, h⟩ := ok_of_bind h
      rw [← Except.ok.inj h, ho, boundFilters_cons, List.map_append, List.flatMap_cons,
        List.map_append, bound_condition hc, ih hmore]

/-- The markers of conditions stand where they fit, by induction on the filters; before them are
    the filters that have bound their values already. -/
theorem placed_conditions (hindex : ColumnIndex.ofColumns columns = .ok index)
    (hvalid : ∀ c ∈ columns, Identifier.isValid c = true)
    {filters : List (Outcome RowFilter)} (before : List RowFilter) {start : Int}
    {found : List Condition} (hstart : start = (before.length : Int) + 1)
    (h : conditions e index start filters = .ok found) :
    Placed e (PlaceOf (before ++ boundFilters filters) (RowFilter.Compared e columns))
      (before.length + 1) (conjunction found)
      (List.range' (before.length + 1) (found.flatMap (·.args)).length) := by
  induction filters generalizing before start found with
  | nil =>
      rw [← Except.ok.inj h]
      exact Placed.nil
  | cons o rest ih =>
      obtain ⟨f, ho, hrest⟩ := ok_of_bind h
      obtain ⟨c, hc, hrest⟩ := ok_of_bind hrest
      obtain ⟨more, hmore, hrest⟩ := ok_of_bind hrest
      have hlength : (boundFilters [.ok f]).length = c.args.length := by
        rw [← List.length_map RowFilter.bound, bound_condition hc, List.length_map]
      -- The filter, if it binds a value, is one of those before the others.
      have hnext : start + (c.args.length : Int)
          = ((before ++ boundFilters [.ok f]).length : Int) + 1 := by
        rw [List.length_append, hlength, hstart]
        omega
      have hplaced := ih (before ++ boundFilters [.ok f]) hnext hmore
      rw [List.append_assoc, ← boundFilters_cons, List.length_append, hlength,
        Nat.add_right_comm] at hplaced
      have hlooks := looksBack_filters e columns (before ++ boundFilters (.ok f :: rest))
      have hfits : f.binds = true → ∀ column, index.require f.column = .ok column →
          PlaceOf (before ++ boundFilters (.ok f :: rest)) (RowFilter.Compared e columns)
            (before.length + 1) ((e.quote column).toList ++ (f.comparison e).toList) := by
        intro hbinds column hcolumn
        refine ⟨f, ?_, index, column, hindex, hcolumn, List.suffix_refl _⟩
        rw [Nat.add_sub_cancel, List.getElem?_append_right (Nat.le_refl _), Nat.sub_self]
        simp [boundFilters, hbinds]
      have hcondition := placed_condition hlooks hstart
        (fun _ hcolumn => hvalid _ (ColumnIndex.real_of_require hindex hcolumn).1) hfits hc
      rw [← Except.ok.inj hrest, ho, List.flatMap_cons, List.length_append]
      exact placed_conjunction_cons hlooks hcondition hplaced

end Conditions

/-- A clause binds what its filters bind. -/
theorem bound_whereClause {e : Engine} {filters : List (Outcome RowFilter)}
    {columns : List Value} {start : Int} {clause : WhereClause}
    (h : whereClause e filters columns start = .ok clause) :
    (boundFilters filters).map RowFilter.bound = clause.args.map .ok := by
  obtain ⟨index, -, h⟩ := ok_of_bind h
  obtain ⟨found, hfound, h⟩ := ok_of_bind h
  rw [← Except.ok.inj h]
  exact bound_conditions hfound

/-- A clause is in lockstep with the filters that bind values, as a part of a query that
    stands behind silent pieces. -/
theorem placed_whereClause {e : Engine} {filters : List (Outcome RowFilter)}
    {columns : List Value} {clause : WhereClause}
    (hvalid : ∀ c ∈ columns, Identifier.isValid c = true)
    (h : whereClause e filters columns 1 = .ok clause) :
    (boundFilters filters).map RowFilter.bound = clause.args.map .ok
      ∧ Placed e (PlaceOf (boundFilters filters) (RowFilter.Compared e columns)) 1
          clause.pieces (List.range' 1 clause.args.length) := by
  refine ⟨bound_whereClause h, ?_⟩
  obtain ⟨index, hindex, h⟩ := ok_of_bind h
  obtain ⟨found, hfound, h⟩ := ok_of_bind h
  have hplaced := placed_conditions hindex hvalid [] rfl hfound
  rw [← Except.ok.inj h]
  cases found with
  | nil => exact hplaced
  | cons c more =>
      have hwhere : ∀ p ∈ [Piece.sql "WHERE "], e.silentPiece p = true :=
        List.forall_mem_singleton.mpr (silent_clauseWords e "WHERE " (by simp))
      exact Placed.silent_append (looksBack_filters e columns _) hwhere hplaced

end SqlCatalog
