import SqlCatalog.Proofs.Query.Clause
import SqlCatalog.Proofs.Query.Listing
import SqlCatalog.Query.Named

/-!
# Row Queries in Lockstep

A query on the rows of a table takes its filter clause as a text and binds nothing itself:
the arguments of the clause are bound by the caller. Everything around the clause is
silent, so the markers of the query are those of the clause, wherever it stands.

## Theorems

* `lockstep_around`: A clause between silent pieces is in lockstep with its arguments.
* `lockstep_selectRows`, `lockstep_countRows`: So are queries on rows with the clause.
-/

namespace SqlCatalog

section

variable {e : Engine} {filters : List (Outcome RowFilter)} {columns : List Value}
  {clause : WhereClause}

/-- A clause is empty or begins with its first word. -/
theorem pieces_of_whereClause (h : whereClause e filters columns 1 = .ok clause) :
    clause.pieces = [] ∨ ∃ rest, clause.pieces = .sql "WHERE " :: rest := by
  obtain ⟨index, -, h⟩ := ok_of_bind h
  obtain ⟨found, -, h⟩ := ok_of_bind h
  rw [← Except.ok.inj h]
  cases found with
  | nil => exact .inl rfl
  | cons c more => exact .inr ⟨_, rfl⟩

/-- A clause that is given as a text is written as its pieces are. -/
theorem render_givenFilter (h : whereClause e filters columns 1 = .ok clause) :
    e.render (Build.filterClause (Operation.givenFilter (.text (e.render clause.pieces))))
      = e.render (Build.filterClause clause.pieces) := by
  rcases pieces_of_whereClause h with hempty | ⟨rest, hpieces⟩
  · rw [hempty]
    rfl
  · have hwritten : e.render clause.pieces = "WHERE " ++ e.render rest := by
      rw [hpieces]
      exact String.join_cons
    have hne : e.render clause.pieces ≠ "" := by
      intro hempty
      have hlist := congrArg String.toList (hwritten.symm.trans hempty)
      rw [String.toList_append] at hlist
      exact absurd (List.append_eq_nil_iff.mp hlist).1 (by decide)
    have htruthy : (Value.text (e.render clause.pieces)).isTruthy = true := bne_iff_ne.mpr hne
    -- One text stands for the pieces, and it is written with the same blank before it.
    rw [Operation.givenFilter, if_pos htruthy]
    have hpresent : clause.pieces.isEmpty = false := by
      rw [hpieces]
      rfl
    unfold Build.filterClause
    rw [hpresent]
    simp [Engine.render, Engine.renderPiece, Value.plain]

/-- A clause between silent pieces is in lockstep with its arguments. -/
theorem lockstep_around {left right : List Piece}
    (hvalid : ∀ c ∈ columns, Identifier.isValid c = true)
    (h : whereClause e filters columns 1 = .ok clause)
    (hleft : ∀ p ∈ left, e.silentPiece p = true) (hright : ∀ p ∈ right, e.silentPiece p = true)
    (hends : Engine.endsNumber right = true) :
    Lockstep e (e.render (left
        ++ Build.filterClause (Operation.givenFilter (.text (e.render clause.pieces))) ++ right))
      clause.args (boundFilters filters) RowFilter.bound (RowFilter.Compared e columns) := by
  obtain ⟨hbound, hplaced⟩ := placed_whereClause hvalid h
  have hlooks := looksBack_filters e columns (boundFilters filters)
  have hclause : Placed e (PlaceOf (boundFilters filters) (RowFilter.Compared e columns)) 1
      (Build.filterClause clause.pieces) (List.range' 1 clause.args.length) := by
    unfold Build.filterClause
    split
    · rename_i hempty
      rw [List.isEmpty_iff.mp hempty] at hplaced
      exact hplaced
    · have hblank : ∀ p ∈ [Piece.sql " "], e.silentPiece p = true :=
        List.forall_mem_singleton.mpr (silent_clauseWords e " " (by simp))
      exact Placed.silent_append hlooks hblank hplaced
  have hall := Placed.silent_append hlooks hleft
    (Placed.append hlooks hclause (Placed.of_silent hlooks hright) hends)
  rw [List.append_nil, ← List.append_assoc] at hall
  rw [Engine.render_append, Engine.render_append, render_givenFilter h, ← Engine.render_append,
    ← Engine.render_append]
  exact Lockstep.of_placed hbound hall

/-- A table behind its schema is silent. -/
theorem silentPiece_qualified (e : Engine) {schema table : String}
    (hschema : schema = "" ∨ Identifier.isName schema.toList = true)
    (htable : Identifier.isName table.toList = true) :
    ∀ p ∈ e.qualified schema table, e.silentPiece p = true := by
  have hname := silentPiece_name e htable
  unfold Engine.qualified
  split
  · exact List.forall_mem_singleton.mpr hname
  · rename_i hpresent
    rcases hschema with hempty | hschema
    · rw [hempty] at hpresent
      exact absurd (by simp) hpresent
    · simp only [List.forall_mem_cons]
      exact ⟨silentPiece_name e hschema, silent_clauseWords e "." (by simp), hname,
        fun p hp => absurd hp List.not_mem_nil⟩

/-- Names with commas between them are silent, by induction on the names. -/
theorem silentPiece_commaSeparated (e : Engine) {names : List String}
    (h : ∀ name ∈ names, Identifier.isName name.toList = true) :
    ∀ p ∈ Engine.commaSeparated (names.map fun name => [.name name]), e.silentPiece p = true := by
  induction names with
  | nil => exact fun p hp => absurd hp List.not_mem_nil
  | cons name rest ih =>
      obtain ⟨hname, hrest⟩ := List.forall_mem_cons.mp h
      have hpiece := silentPiece_name e hname
      cases rest with
      | nil => exact List.forall_mem_singleton.mpr hpiece
      | cons next more =>
          exact List.forall_mem_cons.mpr ⟨hpiece, List.forall_mem_cons.mpr
            ⟨silent_clauseWords e ", " (by simp), ih hrest⟩⟩

/-- An order is in one of two directions. -/
theorem direction_cases {v : Value} {direction : String}
    (h : Build.orderDirection v = .ok direction) : direction = "ASC" ∨ direction = "DESC" := by
  unfold Build.orderDirection at h
  split at h
  · exact .inl (Except.ok.inj h).symm
  · cases v with
    | text s =>
        simp only [pure, Except.pure] at h
        split at h
        · rename_i hknown
          rw [← Except.ok.inj h]
          simpa using hknown
        · exact absurd h (by simp [refuse])
    | _ => exact absurd h (by simp)

/-- What is selected is silent: every column, or those that are named. -/
theorem silentPiece_selected (e : Engine) {named : List Value} {names : List String}
    (h : named.mapM (fun c => Identifier.require c "column") = .ok names) :
    ∀ p ∈ (if names.isEmpty then [Piece.sql "*"]
      else Engine.commaSeparated (names.map fun c => [.name c])), e.silentPiece p = true := by
  split
  · exact List.forall_mem_singleton.mpr (silent_clauseWords e "*" (by simp))
  · refine silentPiece_commaSeparated e fun name hname => ?_
    obtain ⟨c, -, hrequire⟩ := exists_of_mapM h name hname
    exact (Identifier.isName_of_require hrequire).2

/-- An order by one column is silent. -/
theorem silentPiece_order (e : Engine) {v : Value} {direction : String} {order : List Piece}
    (hdirection : direction = "ASC" ∨ direction = "DESC")
    (h : (Identifier.require v "column").map
      (fun c => [Piece.name c, .sql (" " ++ direction)]) = .ok order) :
    ∀ p ∈ order, e.silentPiece p = true := by
  obtain ⟨column, hrequire, rfl⟩ := map_eq_ok_iff.mp h
  simp only [List.forall_mem_cons]
  refine ⟨silentPiece_name e (Identifier.isName_of_require hrequire).2, ?_,
    fun p hp => absurd hp List.not_mem_nil⟩
  rcases hdirection with rfl | rfl
  · exact silent_clauseWords e " ASC" (by simp)
  · exact silent_clauseWords e " DESC" (by simp)

/-- How many rows a table has is asked in lockstep with the arguments of the clause. -/
theorem lockstep_countRows {table schema : Value} {filter : List Piece} {q : Query}
    (hvalid : ∀ c ∈ columns, Identifier.isValid c = true)
    (hclause : whereClause e filters columns 1 = .ok clause)
    (hfilter : filter = Operation.givenFilter (.text (e.render clause.pieces)))
    (h : Build.countRows e table schema filter = .ok (some q)) :
    Lockstep e (q.sql e) clause.args (boundFilters filters) RowFilter.bound
      (RowFilter.Compared e columns) := by
  obtain ⟨name, hname, h⟩ := ok_of_bind h
  obtain ⟨checked, hschema, h⟩ := ok_of_bind h
  have hleft : ∀ p ∈ .sql "SELECT COUNT(*) FROM " :: e.qualified checked name,
      e.silentPiece p = true :=
    List.forall_mem_cons.mpr ⟨silent_clauseWords e "SELECT COUNT(*) FROM " (by simp),
      silentPiece_qualified e (isSchema_of_checkedSchema hschema)
        (Identifier.isName_of_require hname).2⟩
  have hall := lockstep_around hvalid hclause hleft
    (fun p hp => absurd hp List.not_mem_nil) rfl
  rw [List.append_nil] at hall
  rw [eq_of_query h, hfilter]
  exact hall

/-- A window of rows behind the clause binds nothing more. -/
theorem lockstep_window {left order : List Piece} {w : Window} {q : Query}
    (hvalid : ∀ c ∈ columns, Identifier.isValid c = true)
    (hclause : whereClause e filters columns 1 = .ok clause)
    (hleft : ∀ p ∈ left, e.silentPiece p = true) (horder : ∀ p ∈ order, e.silentPiece p = true)
    (h : (do
      w.check
      Build.query .selectRows
        (left ++ Build.filterClause (Operation.givenFilter (.text (e.render clause.pieces)))
          ++ Piece.sql " " :: w.clause e order) []) = .ok (some q)) :
    Lockstep e (q.sql e) clause.args (boundFilters filters) RowFilter.bound
      (RowFilter.Compared e columns) := by
  obtain ⟨_, hcheck, h⟩ := ok_of_bind h
  have hright : ∀ p ∈ .sql " " :: w.clause e order, e.silentPiece p = true :=
    List.forall_mem_cons.mpr ⟨silent_clauseWords e " " (by simp), silentPiece_clause hcheck horder⟩
  rw [eq_of_query h]
  exact lockstep_around hvalid hclause hleft hright rfl

/-- A selection of rows is in lockstep with the arguments of its clause. -/
theorem lockstep_selectRows {s : Build.Selection} {q : Query}
    (hvalid : ∀ c ∈ columns, Identifier.isValid c = true)
    (hclause : whereClause e filters columns 1 = .ok clause)
    (hfilter : s.filter = Operation.givenFilter (.text (e.render clause.pieces)))
    (hdirection : s.direction = "ASC" ∨ s.direction = "DESC")
    (h : Build.selectRows e s = .ok (some q)) :
    Lockstep e (q.sql e) clause.args (boundFilters filters) RowFilter.bound
      (RowFilter.Compared e columns) := by
  obtain ⟨table, htable, h⟩ := ok_of_bind h
  obtain ⟨named, -, h⟩ := ok_of_bind h
  obtain ⟨names, hnames, h⟩ := ok_of_bind h
  obtain ⟨schema, hschema, h⟩ := ok_of_bind h
  rw [hfilter] at h
  have hselected := silentPiece_selected e hnames
  generalize (if names.isEmpty then [Piece.sql "*"]
    else Engine.commaSeparated (names.map fun c => [.name c])) = selected at h hselected
  have hleft : ∀ p ∈ .sql "SELECT " :: (selected ++ .sql " FROM " :: e.qualified schema table),
      e.silentPiece p = true :=
    List.forall_mem_cons.mpr ⟨silent_clauseWords e "SELECT " (by simp),
      List.forall_mem_append.mpr ⟨hselected,
        List.forall_mem_cons.mpr ⟨silent_clauseWords e " FROM " (by simp),
          silentPiece_qualified e (isSchema_of_checkedSchema hschema)
            (Identifier.isName_of_require htable).2⟩⟩⟩
  split at h
  · obtain ⟨order, horder, h⟩ := ok_of_bind h
    exact lockstep_window hvalid hclause hleft (silentPiece_order e hdirection horder) h
  · exact lockstep_window hvalid hclause hleft (fun p hp => absurd hp List.not_mem_nil) h

end

end SqlCatalog
