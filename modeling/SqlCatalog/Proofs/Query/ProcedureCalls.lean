import SqlCatalog.Proofs.Cache.Key
import SqlCatalog.Proofs.Query.DeclaredParameters
import SqlCatalog.Query.Build

/-!
# Calls of Procedures

The text of a call, and what becomes of the arguments of one whose procedure has its parameters
declared. The engines write calls in three ways. One names the parameters, so one that is left
out leaves no trace; the others pass arguments by position. In all of them the markers count the
arguments from one, in the order in which they are bound.

A call of a procedure that exists may still be refused, and it matters for what: the first
parameter that lacks its argument comes before any argument that nobody asked for.

## Main definitions

* `Engine.qualifiedText`, `Engine.callText`: The text of a call.
* `ProcedureCall`: A call with names that are names, and declared parameters.
* `ProcedureCall.Answers`: What a call is answered with.

## Theorems

* `Engine.render_call`: A call is written as its text.
* `ProcedureCall.build_answers`: Every call is answered, however its arguments are ordered.
-/

namespace SqlCatalog

namespace Engine

/-- The quoted name of a procedure, behind its schema where it has one. -/
def qualifiedText (e : Engine) (schema name : String) : String :=
  if schema = "" || !e.supports .schemas then e.quote name
  else e.quote schema ++ "." ++ e.quote name

/-- The text of a call that passes an argument for each of these parameters. -/
def callText (e : Engine) (procedure : String) (names : List String) : String :=
  let markers := e.markersFrom 1 names.length
  match e with
  | .sqlServer =>
    let named := List.zipWith (fun name marker => "@" ++ name ++ " = " ++ marker) names markers
    "EXEC " ++ procedure ++ if names.isEmpty then "" else " " ++ ", ".intercalate named
  | .postgres | .mysql => "CALL " ++ procedure ++ "(" ++ ", ".intercalate markers ++ ")"
  | .oracle => "BEGIN " ++ procedure ++ "(" ++ ", ".intercalate markers ++ "); END;"
  | .sqlite => ""

theorem render_qualified (e : Engine) (schema name : String) :
    e.render (e.qualified schema name) = e.qualifiedText schema name := by
  unfold qualified qualifiedText
  split
  · exact (e.render_cons _ []).trans String.append_empty
  · simp [render, renderPiece, String.append_assoc]

/-- Arguments with the pieces of their markers, numbered from one. -/
def numbered (ordered : CallArguments) : List (String × List Piece) :=
  ordered.zipIdx.map fun ((name, _), i) => (name, [Piece.marker (i + 1)])

theorem render_marker (e : Engine) (i : Int) : e.render [.marker i] = e.marker i :=
  (e.render_cons _ []).trans String.append_empty

theorem markersFrom_one (e : Engine) (ordered : CallArguments) :
    ordered.zipIdx.map (fun x => e.marker (x.2 + 1)) = e.markersFrom 1 ordered.length := by
  rw [markersFrom, Int.toNat_natCast, List.range_eq_range', ← List.zipIdx_map_snd,
    List.map_map]
  refine List.map_congr_left fun x _ => ?_
  rw [Function.comp_apply, Int.add_comm]

/-- The arguments of a call by name, each behind its parameter. -/
theorem render_named (e : Engine) (ordered : CallArguments) :
    (numbered ordered).map (fun x => e.render (.parameter x.1 :: .sql " = " :: x.2)) =
      List.zipWith (fun name marker => "@" ++ name ++ " = " ++ marker) (ordered.map (·.1))
        (e.markersFrom 1 (ordered.map (·.1)).length) := by
  have hnames : ordered.map (·.1) = ordered.zipIdx.map fun x => x.1.1 := by
    conv_lhs => rw [← List.zipIdx_map_fst 0 ordered, List.map_map]
    rfl
  rw [List.length_map, ← markersFrom_one, hnames, List.zipWith_map, List.zipWith_self, numbered,
    List.map_map]
  refine List.map_congr_left fun x _ => ?_
  rw [Function.comp_apply, render_cons, render_cons, render_marker]
  simp only [renderPiece, String.append_assoc]

/-- A call is written as its text. -/
theorem render_call {e : Engine} (h : e.supports .procedures = true) (schema procedure : String)
    (ordered : CallArguments) :
    e.render (e.call (e.qualified schema procedure) (numbered ordered)) =
      e.callText (e.qualifiedText schema procedure) (ordered.map (·.1)) := by
  have hpositions : e.render (commaSeparated ((numbered ordered).map (·.2))) =
      ", ".intercalate (e.markersFrom 1 (ordered.map (·.1)).length) := by
    rw [render_commaSeparated, List.length_map, ← markersFrom_one, numbered, List.map_map,
      List.map_map]
    exact congrArg _ (List.map_congr_left fun x _ => e.render_marker _)
  cases e
  case sqlServer =>
    have hempty : (numbered ordered).isEmpty = (ordered.map (·.1)).isEmpty := by
      cases ordered <;> rfl
    simp only [callText, ← render_named, ← render_qualified, ← hempty]
    change render _ (.sql "EXEC " :: qualified _ schema procedure ++
      if (numbered ordered).isEmpty then [] else .sql " " :: commaSeparated
        ((numbered ordered).map fun x => .parameter x.1 :: .sql " = " :: x.2)) = _
    rw [render_append, render_cons]
    split
    · rfl
    · rw [render_cons, render_commaSeparated, List.map_map]
      rfl
  case postgres | mysql | oracle =>
    simp only [callText, ← hpositions, ← render_qualified]
    change render _ (.sql _ :: qualified _ schema procedure ++ .sql "(" :: commaSeparated _ ++
      [.sql _]) = _
    simp only [render_append, render_cons, renderPiece, String.append_assoc]
    rfl
  case sqlite => exact absurd h (by decide)

end Engine

/-- A call of a procedure with declared parameters. The names that the caller gives are names,
    no two arguments and no two parameters differ in case only, and the catalogue declares
    parameters by texts. -/
structure ProcedureCall where
  procedure : String
  schema : String
  given : CallArguments
  declared : List ParameterInfo
  isName_procedure : Identifier.isName procedure.toList = true
  isSchema : Identifier.IsSchema schema
  isName_given : ∀ a ∈ given, Identifier.isName a.1.toList = true
  apart : Apart given
  isText_declared : ∀ p ∈ declared, ∃ s, p.name = .text s
  distinct : (declared.map fun p => Text.lowercase p.bare).Nodup

namespace ProcedureCall

/-- The query of a call. -/
def build (c : ProcedureCall) (e : Engine) : Build.Built :=
  Build.callProcedure e (.text c.procedure) (.text c.schema)
    (c.given.map fun a => (.text a.1, a.2)) (some c.declared)

/-- The same call with its arguments given in another order. -/
def reorder (c : ProcedureCall) {given : CallArguments} (h : given.Perm c.given) :
    ProcedureCall where
  procedure := c.procedure
  schema := c.schema
  given := given
  declared := c.declared
  isName_procedure := c.isName_procedure
  isSchema := c.isSchema
  isName_given a ha := c.isName_given a (h.mem_iff.mp ha)
  apart := (h.map _).nodup_iff.mpr c.apart
  isText_declared := c.isText_declared
  distinct := c.distinct

/-- What a call is answered with. The first parameter that lacks its argument is named, and
    where there is none the arguments that no parameter takes are. Otherwise the query holds
    the parameters in the order of the declaration, its markers count them from one, and its
    arguments are their values. Every argument is among them once. -/
inductive Answers (c : ProcedureCall) (e : Engine) : Build.Built → Prop
  | missing {before after : List ParameterInfo} {p : ParameterInfo} :
      c.declared = before ++ p :: after → (∀ r ∈ before, r.Served c.given) → ¬ p.Served c.given →
      Answers c e (refuse (.missingParameter p.bare))
  | strays {names : List String} :
      (∀ p ∈ c.declared, p.Served c.given) → SqlCatalog.strays c.given c.declared ≠ [] →
      names.Perm ((SqlCatalog.strays c.given c.declared).map (·.1)) →
      Answers c e (refuse (.input (.unknownParameters names)))
  | bound {q : Query} {fillings : List Filling} :
      (∀ p ∈ c.declared, p.Served c.given) →
      FillsIn (e = .sqlServer) c.given c.declared fillings →
      (fillings.filterMap Filling.argument).Perm c.given →
      q.sql e = e.callText (e.qualifiedText c.schema c.procedure)
        (fillings.map (·.parameter.bare)) →
      q.args = fillings.map Filling.value →
      Answers c e (.ok (some q))

theorem checkedSchema_of_isSchema {schema : String} (h : Identifier.IsSchema schema) :
    Build.checkedSchema (.text schema) = .ok schema := by
  unfold Build.checkedSchema
  rcases h with rfl | h
  · rfl
  · split
    · exact Identifier.require_of_isName h "schema"
    · rename_i hempty
      have hnil : schema = "" := Decidable.not_not.mp fun hne => hempty (bne_iff_ne.mpr hne)
      rw [hnil] at h
      exact absurd h (by decide)

theorem callArguments_of_isName {given : CallArguments}
    (h : ∀ a ∈ given, Identifier.isName a.1.toList = true) :
    Build.callArguments (given.map fun a => (.text a.1, a.2)) = .ok given := by
  rw [Build.callArguments, mapM_eq_ok_iff, List.forall₂_map_left_iff, List.forall₂_same]
  intro a ha
  dsimp only
  rw [Identifier.require_of_isName (h a ha)]
  rfl

/-- A call is its arguments put in order, behind the procedure. -/
theorem build_eq (c : ProcedureCall) {e : Engine} (h : e.supports .procedures = true) :
    c.build e = (orderArguments (e = .sqlServer) c.given c.declared).map fun ordered =>
      some ⟨.callProcedure, e.call (e.qualified c.schema c.procedure)
        (Engine.numbered ordered), ordered.map (·.2)⟩ := by
  have hcalls : decide (e.rules.calls = .byName) = decide (e = .sqlServer) := by
    cases e <;> rfl
  rw [build, Build.callProcedure, h, Identifier.require_of_isName c.isName_procedure,
    checkedSchema_of_isSchema c.isSchema, callArguments_of_isName c.isName_given]
  dsimp only [bind, Except.bind]
  rw [hcalls]
  cases orderArguments (e = .sqlServer) c.given c.declared with
  | error failure => rfl
  | ok ordered =>
      cases e
      case sqlite => exact absurd h (by decide)
      all_goals rfl

/-- The three ways in which arguments are put in order are the three answers. -/
theorem answers_of_build (c : ProcedureCall) {e : Engine} (h : e.supports .procedures = true) :
    c.Answers e (c.build e) := by
  rw [c.build_eq h]
  by_cases hserved : ∀ p ∈ c.declared, p.Served c.given
  · obtain ⟨fillings, hfills, hordered⟩ :=
      orderArguments_of_served c.apart c.isText_declared hserved
    rw [hordered]
    by_cases hnone : strays c.given c.declared = []
    · rw [if_pos hnone]
      refine .bound hserved hfills (hfills.perm c.apart c.distinct hnone) ?_ ?_
      · rw [Query.sql, Engine.render_call h, List.map_map]
        rfl
      · exact List.map_map
    · rw [if_neg hnone]
      exact .strays hserved hnone (List.mergeSort_perm _ _)
  · obtain ⟨before, p, after, hdeclared, hbefore, hp⟩ := exists_first_unserved hserved
    have hnames := c.isText_declared
    rw [hdeclared] at hnames ⊢
    rw [orderArguments_missing hnames hbefore hp]
    exact .missing hdeclared hbefore hp

/-- Every call of a procedure that an engine may have is answered as described, and the order in
    which its arguments are given does not count. -/
theorem build_answers {e : Engine} (h : e.supports .procedures = true) (c : ProcedureCall) :
    c.Answers e (c.build e) ∧
      ∀ (given : CallArguments) (hperm : given.Perm c.given),
        (c.reorder hperm).build e = c.build e := by
  refine ⟨c.answers_of_build h, fun given hperm => ?_⟩
  rw [build_eq _ h, build_eq _ h]
  exact congrArg _ (orderArguments_perm c.apart hperm)

/-- A call whose procedure puts something out between the values it takes. -/
def archiving : ProcedureCall where
  procedure := "archive"
  schema := "shop"
  given := [("STATUS", .text "new"), ("id", .int 5)]
  declared := [⟨.text "@Id", .text "int", false⟩, ⟨.text ":moved", .text "int", true⟩,
    ⟨.text "status", .text "varchar", false⟩]
  isName_procedure := by decide
  isSchema := by decide
  isName_given := by decide
  apart := by unfold Apart; decide
  isText_declared p hp := by
    simp only [List.mem_cons, List.not_mem_nil, or_false] at hp
    rcases hp with rfl | rfl | rfl <;> exact ⟨_, rfl⟩
  distinct := by decide

/-- Its place is filled, so the values after it stay where they belong. -/
theorem archiving_answers :
    Engine.mysql.supports .procedures = true ∧
      archiving.Answers .mysql (archiving.build .mysql) ∧
      (∃ q, archiving.build .mysql = .ok (some q) ∧
        q.sql .mysql = "CALL `shop`.`archive`(?, ?, ?)" ∧
        q.args = [.int 5, .null, .text "new"]) ∧
      ∀ (given : CallArguments) (hperm : given.Perm archiving.given),
        (archiving.reorder hperm).build .mysql = archiving.build .mysql := by
  have hanswers := build_answers (e := .mysql) (by decide) archiving
  exact ⟨by decide, hanswers.1, ⟨_, rfl, rfl, rfl⟩, hanswers.2⟩

end ProcedureCall

end SqlCatalog
