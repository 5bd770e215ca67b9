import SqlCatalog.Proofs.Basic
import SqlCatalog.Proofs.Cache.Key
import SqlCatalog.Proofs.Query.Texts.Listing
import SqlCatalog.Proofs.Query.Texts.Lookup

/-!
# Catalogue Queries in Lockstep

What it means that a query on the catalogue agrees with its arguments, and that lookups
do. A lookup binds the schema and the name of its object, or the name alone on an engine
without schemas. Where not even the name of a table can be bound it is embedded. Such a
name has passed the grammar of identifiers, so it holds no mark that would end its quotes,
and nothing in it can be read as a marker.

## Main definitions

* `InLockstep`: A query on the catalogue agrees with its arguments.

## Theorems

* `eq_of_query`, `supported_of_some`: What a step that gives a query says about it.
* `silentPiece_name`: A name is silent, in whatever case it is written.
* `lockstep_objectLookup`, `lockstep_tableLookup`: Lookups are in lockstep.
-/

namespace SqlCatalog

/-- The markers of a query on the catalogue agree with its arguments, which come from
    parameters of the caller. -/
inductive InLockstep (e : Engine) (op : Operation) (given : Arguments) (q : Query) : Prop
  | of_origins (origins : List Origin)
      (h : Lockstep e (q.sql e) q.args origins (Origin.value e given) (Origin.Compared e op))

/-- The query of a step that gives one. -/
theorem eq_of_query {op : Operation} {ps : List Piece} {args : List Value} {q : Query}
    (h : Build.query op ps args = .ok (some q)) : q = ⟨op, ps, args⟩ := by
  unfold Build.query at h
  split at h
  · exact absurd (Except.ok.inj h) (by simp)
  · exact (Option.some.inj (Except.ok.inj h)).symm

/-- A query that an engine may lack is there when the engine does not lack it. -/
theorem supported_of_some {lacks : Bool} {built : Build.Built} {q : Query}
    (h : (if lacks then Build.unsupported else built) = .ok (some q)) :
    lacks = false ∧ built = .ok (some q) := by
  cases lacks with
  | false => exact ⟨rfl, h⟩
  | true => exact absurd (Except.ok.inj h) (by simp)

theorem isSchema_of_checkedSchema {v : Value} {schema : String}
    (h : Build.checkedSchema v = .ok schema) : Identifier.IsSchema schema := by
  unfold Build.checkedSchema at h
  split at h
  · exact .inr (Identifier.isName_of_require h).2
  · exact .inl (Except.ok.inj h).symm

theorem foldsNames_of_no_schemas {e : Engine} (h : e.supports .schemas = false) :
    e.rules.foldsNames = false := by
  revert h
  cases e <;> decide

/-- A name is bound as the catalogue spells it. -/
theorem foldValue_text (e : Engine) (s : String) :
    e.foldValue (.text s) = .ok (.text (e.fold s)) := by
  unfold Engine.foldValue Engine.fold
  cases e.rules.foldsNames with
  | true => rfl
  | false => rfl

/-- No name holds the mark that closes a quoted one, in whatever case it is written. -/
theorem silentPiece_name (e : Engine) {name : String}
    (h : Identifier.isName name.toList = true) : e.silentPiece (.name name) = true := by
  have hclose : Identifier.isNameChar e.rules.closeQuote = false := by
    cases e <;> decide
  have hchars := Identifier.isNameChar_of_isName h
  have hfold : ∀ c ∈ (e.fold name).toList, Identifier.isNameChar c = true := by
    unfold Engine.fold
    split
    · rw [Text.uppercase, String.toList_ofList, upper_of_isNameChar hchars]
      intro c hc
      obtain ⟨d, hd, rfl⟩ := List.mem_map.mp hc
      exact Identifier.isNameChar_toUpper (hchars d hd)
    · exact hchars
  rw [Engine.silentPiece, Bool.not_eq_true', List.contains_eq_mem, decide_eq_false_iff_not]
  intro hmem
  exact absurd ((hfold _ hmem).symm.trans hclose) (by decide)

section Lookup

variable {e : Engine} {op : Operation} {given : Arguments} {q : Query}

theorem value_lookupName {kind name : String}
    (h : Identifier.require
      (given.valueOr (Engine.lookupName op).parameter (.text "")) kind = .ok name) :
    Origin.value e given (Engine.lookupName op) = .ok (.text (e.fold name)) := by
  have htext := (Identifier.isName_of_require h).1
  rw [← foldValue_text, ← htext]
  unfold Engine.lookupName
  split
  · rfl
  · rfl

/-- Markers of a template that keeps the rules agree with what a lookup binds. -/
theorem lockstep_of_keyed {args : List Value}
    (hkeyed : Keyed e op (e.lookupOrigins op) false 1 (e.lookupTemplate op)
      (List.range' 1 (e.lookupOrigins op).length))
    (hbound : (e.lookupOrigins op).map (Origin.value e given) = args.map .ok) :
    InLockstep e op given ⟨op, e.lookupTemplate op, args⟩ := by
  have hlength : (e.lookupOrigins op).length = args.length := by
    rw [← List.length_map (Origin.value e given), hbound, List.length_map]
  rw [hlength] at hkeyed
  exact ⟨_, Lockstep.of_placed hbound hkeyed.placed⟩

theorem keyed_of_present (hpresent : ¬ (e.lookupTemplate op).isEmpty = true)
    (hbinds : e.embedsTable op = false) :
    Keyed e op (e.lookupOrigins op) false 1 (e.lookupTemplate op)
      (List.range' 1 (e.lookupOrigins op).length) := by
  rcases Engine.keptLookup e op with hempty | ⟨-, hkeyed⟩ | ⟨hembeds, -⟩
  · rw [hempty] at hpresent
    exact absurd rfl hpresent
  · exact hkeyed
  · exact absurd (hbinds.symm.trans hembeds) (by decide)

/-- Where there are schemas a lookup binds the schema and the name. -/
theorem lockstep_of_schemas {name : String} (hschemas : e.supports .schemas = true)
    (hkeyed : Keyed e op (e.lookupOrigins op) false 1 (e.lookupTemplate op)
      (List.range' 1 (e.lookupOrigins op).length))
    (hname : Origin.value e given (Engine.lookupName op) = .ok (.text (e.fold name)))
    (h : (do
      let schema ← Build.schemaValue e (given.valueOr "schema" (.text ""))
      Build.query op (e.lookupTemplate op) [schema, .text (e.fold name)]) = .ok (some q)) :
    InLockstep e op given q := by
  obtain ⟨schema, hschema, h⟩ := ok_of_bind h
  have hfirst : Origin.value e given .schema = .ok schema := hschema
  rw [eq_of_query h]
  refine lockstep_of_keyed hkeyed ?_
  simp only [Engine.lookupOrigins, hschemas, if_true, List.map_cons, List.map_nil, hfirst, hname]

/-- A query on an object is in lockstep with the schema and the name, or the name alone. -/
theorem lockstep_objectLookup {kind : String} (hbinds : e.embedsTable op = false)
    (h : Build.objectLookup e op (e.lookupTemplate op) (given.valueOr "schema" (.text ""))
      (given.valueOr (Engine.lookupName op).parameter (.text "")) kind = .ok (some q)) :
    InLockstep e op given q := by
  obtain ⟨name, hname, h⟩ := ok_of_bind h
  have hvalue := value_lookupName (e := e) hname
  split at h
  · exact absurd (Except.ok.inj h) (by simp)
  · rename_i hpresent
    have hkeyed := keyed_of_present hpresent hbinds
    cases hschemas : e.supports .schemas with
    | false =>
        -- The name is bound as it is given, since no engine without schemas folds names.
        rw [hschemas] at h
        rw [eq_of_query h]
        refine lockstep_of_keyed hkeyed ?_
        have hfold : e.fold name = name := by
          rw [Engine.fold, foldsNames_of_no_schemas hschemas]
          rfl
        rw [hfold] at hvalue
        simp only [Engine.lookupOrigins, hschemas, Bool.false_eq_true, if_false, List.map_cons,
          List.map_nil, hvalue]
    | true =>
        rw [hschemas] at h
        exact lockstep_of_schemas hschemas hkeyed hvalue h

/-- A query on a table is in lockstep too. Where its name is embedded nothing is bound, and
    a quoted name holds no marker. -/
theorem lockstep_tableLookup (hname : Engine.lookupName op = .table)
    (hembeds : e.embedsTable op = !e.supports .schemas)
    (h : Build.tableLookup e op (e.lookupTemplate op) (given.valueOr "table" (.text ""))
      (given.valueOr "schema" (.text "")) = .ok (some q)) :
    InLockstep e op given q := by
  obtain ⟨name, htable, h⟩ := ok_of_bind h
  split at h
  · exact absurd (Except.ok.inj h) (by simp)
  · rename_i hpresent
    cases hschemas : e.supports .schemas with
    | false =>
        rw [hschemas] at h hembeds
        rcases Engine.keptLookup e op with hempty | ⟨hbinds, -⟩ | ⟨-, a, b, htemplate, ha, hb⟩
        · rw [hempty] at hpresent
          exact absurd rfl hpresent
        · exact absurd (hbinds.symm.trans hembeds) (by decide)
        · rw [htemplate] at h
          have hsilent : ∀ p ∈ [Piece.sql (String.ofList a), .name name, .sql (String.ofList b)],
              e.silentPiece p = true := by
            simp only [List.forall_mem_cons]
            exact ⟨Engine.silentPiece_ofList ha,
              silentPiece_name e (Identifier.isName_of_require htable).2,
              Engine.silentPiece_ofList hb, fun p hp => absurd hp List.not_mem_nil⟩
          rw [eq_of_query h]
          exact ⟨[], Lockstep.of_placed rfl (Placed.of_silent (looksBack_compared e op []) hsilent)⟩
    | true =>
        rw [hschemas] at h hembeds
        refine lockstep_of_schemas hschemas (keyed_of_present hpresent hembeds) ?_ h
        have hvalue := htable
        rw [show "table" = Origin.table.parameter from rfl, ← hname] at hvalue
        exact value_lookupName hvalue

end Lookup

end SqlCatalog
