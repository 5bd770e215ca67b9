import Mathlib.Data.List.Forall2
import SqlCatalog.Proofs.Query.Agreement

/-!
# Two Builds Side by Side

What it takes for two builds to give the same text. Whatever step comes first in them has a
result on both sides, since both give a query in the end, and what comes after it is compared
for these two results. So `Build.SamePieces` is kept by every way in which builders are put
together, and what remains are the places where a value decides about the text: whether a
filter is present, and under which name an argument is handed to a procedure.

## Main definitions

* `Build.SamePieces`: Two builds that both come to an end give the same pieces.
* `Build.Filter.SamePresence`: Two filters that are present or absent alike.

## Theorems

* `Build.SamePieces.bind`, `Build.SamePieces.supported`: Steps are compared one by one.
* `Build.SamePieces.namedListing`, `Build.SamePieces.objectLookup`,
  `Build.SamePieces.tableLookup`, `Build.SamePieces.searchObjects`: Queries on the catalogue
  bind what is looked for.
* `Build.SamePieces.callProcedure`: A call binds the values of its arguments.
-/

namespace SqlCatalog

namespace Build

/-! ### Two builds side by side -/

/-- Two builds that both come to an end give the same pieces, or both give none. -/
def SamePieces (x y : Built) : Prop :=
  ∀ p q, x = .ok p → y = .ok q → p.map Query.pieces = q.map Query.pieces

namespace SamePieces

theorem refl (x : Built) : SamePieces x x := by
  intro p q hp hq
  rw [hp] at hq
  rw [Except.ok.inj hq]

theorem query (op : Operation) (ps : List Piece) (args args' : List Value) :
    SamePieces (Build.query op ps args) (Build.query op ps args') := by
  intro p q hp hq
  unfold Build.query at hp hq
  rw [← Except.ok.inj hp, ← Except.ok.inj hq]
  split <;> rfl

/-- A step with a result on both sides is compared by what comes after it. -/
theorem bind {α β : Type} {x : Outcome α} {y : Outcome β} {f : α → Built} {g : β → Built}
    (h : ∀ a b, x = .ok a → y = .ok b → SamePieces (f a) (g b)) :
    SamePieces (x >>= f) (y >>= g) := by
  intro p q hp hq
  obtain ⟨a, ha, hp⟩ := ok_of_bind hp
  obtain ⟨b, hb, hq⟩ := ok_of_bind hq
  exact h a b ha hb p q hp hq

/-- What an engine lacks it lacks on both sides. -/
theorem supported {lacks : Bool} {x y : Built} (h : SamePieces x y) :
    SamePieces (if lacks then unsupported else x) (if lacks then unsupported else y) := by
  cases lacks with
  | false => exact h
  | true => exact refl unsupported

end SamePieces

/-! ### Filters of listings -/

/-- A folded name is not empty. -/
theorem fold_ne_empty (e : Engine) {name : String} (h : Identifier.isName name.toList = true) :
    e.fold name ≠ "" := by
  have hchars := Identifier.isNameChar_of_isName h
  have hname : name.toList ≠ [] := by
    intro hempty
    rw [hempty] at h
    exact absurd h (by decide)
  unfold Engine.fold
  split
  · rw [Text.uppercase, upper_of_isNameChar hchars]
    intro hempty
    have hlist := congrArg String.toList hempty
    rw [String.toList_ofList] at hlist
    exact hname (List.map_eq_nil_iff.mp hlist)
  · exact fun hempty => hname (by rw [hempty]; rfl)

/-- A schema is bound just when one is given. -/
theorem isTruthy_schemaValue {e : Engine} {v w : Value} (h : schemaValue e v = .ok w) :
    w.isTruthy = v.isTruthy := by
  unfold schemaValue at h
  cases hv : v.isTruthy with
  | false =>
      rw [hv] at h
      rw [← Except.ok.inj h]
      rfl
  | true =>
      -- The schema has passed the check, and what passes it is not empty.
      rw [hv] at h
      obtain ⟨name, hname, h⟩ := ok_of_bind h
      rw [← Except.ok.inj h]
      exact bne_iff_ne.mpr (fold_ne_empty e (Identifier.isName_of_require hname).2)

/-- A pattern is bound just when a text is given. -/
theorem isTruthy_containsPattern {e : Engine} {v w : Value} (h : containsPattern e v = .ok w) :
    w.isTruthy = v.isTruthy := by
  unfold containsPattern at h
  cases hv : v.isTruthy with
  | false =>
      rw [hv] at h
      rw [← Except.ok.inj h]
      rfl
  | true =>
      rw [hv] at h
      obtain ⟨folded, -, h⟩ := ok_of_bind h
      rw [← Except.ok.inj h]
      refine bne_iff_ne.mpr fun hempty => ?_
      have hlist := congrArg String.toList hempty
      rw [String.toList_append, String.toList_append] at hlist
      -- A pattern begins with its wildcard, whatever the text is.
      exact absurd (List.append_eq_nil_iff.mp (List.append_eq_nil_iff.mp hlist).1).1 (by decide)

/-- A table to filter by is bound when one is given. -/
theorem isTruthy_tableValue {e : Engine} {v w : Value}
    (h : (Identifier.require v "table").map (fun name => Value.text (e.fold name)) = .ok w) :
    w.isTruthy = true := by
  obtain ⟨name, hname, rfl⟩ := map_eq_ok_iff.mp h
  exact bne_iff_ne.mpr (fold_ne_empty e (Identifier.isName_of_require hname).2)

/-- Two filters with the same fragment that are present or absent alike. -/
structure Filter.SamePresence (f g : Filter) : Prop where
  fragment : f.fragment = g.fragment
  value : f.value.isTruthy = g.value.isTruthy

/-- The fragments of filters depend on which of them are present. -/
theorem applyFilters_congr {fs gs : List Filter} (h : List.Forall₂ Filter.SamePresence fs gs)
    {bound bound' : List Value} (hlength : bound.length = bound'.length) :
    (applyFilters bound fs).1 = (applyFilters bound' gs).1 := by
  induction h generalizing bound bound' with
  | nil => rfl
  | @cons f g fs gs hfg hrest ih =>
      rw [applyFilters, applyFilters, hfg.fragment, hfg.value, hlength]
      split
      · exact ih hlength
      · -- The fragment is numbered by how many values are bound before it.
        have hnext : (bound ++ [f.value]).length = (bound' ++ [g.value]).length := by
          rw [List.length_append, List.length_append, hlength]
          rfl
        exact congrArg (_ ++ ·) (ih hnext)

namespace SamePieces

variable {e : Engine} {op : Operation}

theorem listing (base after : Template) {fs gs : List Filter}
    (h : List.Forall₂ Filter.SamePresence fs gs) (order : String) (w : Window) :
    SamePieces (Build.listing e op base fs after order w)
      (Build.listing e op base gs after order w) := by
  unfold Build.listing
  dsimp only
  rw [applyFilters_congr h rfl]
  exact bind fun _ _ _ _ => query op _ _ _

/-- A listing is filtered by schema and by name, and whatever else is between. -/
theorem namedListing (base after : Template) (bySchema byName : Template) (order : String)
    (w : Window) {schema schema' pattern pattern' : Value} (fs gs : List Filter)
    (hschema : schema.isTruthy = schema'.isTruthy)
    (hbetween : List.Forall₂ Filter.SamePresence fs gs)
    (hpattern : pattern.isTruthy = pattern'.isTruthy) :
    SamePieces
      (do
        let schema ← schemaValue e schema
        let pattern ← containsPattern e pattern
        Build.listing e op base (⟨bySchema, schema⟩ :: (fs ++ [⟨byName, pattern⟩])) after order w)
      (do
        let schema ← schemaValue e schema'
        let pattern ← containsPattern e pattern'
        Build.listing e op base (⟨bySchema, schema⟩ :: (gs ++ [⟨byName, pattern⟩])) after
          order w) := by
  refine bind fun s s' hs hs' => bind fun t t' ht ht' => listing _ _ ?_ _ _
  have hs : s.isTruthy = s'.isTruthy := by
    rw [isTruthy_schemaValue hs, isTruthy_schemaValue hs', hschema]
  have ht : t.isTruthy = t'.isTruthy := by
    rw [isTruthy_containsPattern ht, isTruthy_containsPattern ht', hpattern]
  exact .cons ⟨rfl, hs⟩ (List.rel_append hbetween (.cons ⟨rfl, ht⟩ .nil))

/-- A listing of triggers goes by their table as well. -/
theorem listTriggers {schema schema' table table' pattern pattern' disabled disabled' : Value}
    (w : Window) (hschema : schema.isTruthy = schema'.isTruthy)
    (htable : table.isTruthy = table'.isTruthy) (hpattern : pattern.isTruthy = pattern'.isTruthy)
    (hdisabled : disabled.isTruthy = disabled'.isTruthy) :
    SamePieces (Build.listTriggers e schema table pattern disabled w)
      (Build.listTriggers e schema' table' pattern' disabled' w) := by
  unfold Build.listTriggers
  dsimp only
  rw [hdisabled, htable]
  refine supported ?_
  -- Only a table that is given is checked, so the two cases are built differently.
  cases table'.isTruthy with
  | false =>
      exact namedListing _ _ _ _ _ w [⟨e.rules.triggers.tableFilter, .text ""⟩]
        [⟨e.rules.triggers.tableFilter, .text ""⟩] hschema (.cons ⟨rfl, rfl⟩ .nil) hpattern
  | true =>
      refine bind fun x x' hx hx' => ?_
      have hbound : x.isTruthy = x'.isTruthy := by
        rw [isTruthy_tableValue hx, isTruthy_tableValue hx']
      exact namedListing _ _ _ _ _ w [⟨e.rules.triggers.tableFilter, x⟩]
        [⟨e.rules.triggers.tableFilter, x'⟩] hschema (.cons ⟨rfl, hbound⟩ .nil) hpattern

/-! ### Lookups and searches -/

/-- A lookup binds what it looks for. -/
theorem objectLookup (t : Template) (kind : String) (schema schema' name name' : Value) :
    SamePieces (Build.objectLookup e op t schema name kind)
      (Build.objectLookup e op t schema' name' kind) := by
  unfold Build.objectLookup
  refine bind fun _ _ _ _ => supported ?_
  split
  · exact query op t _ _
  · exact bind fun _ _ _ _ => query op t _ _

/-- So does a lookup of a table, unless the engine has no schemas. -/
theorem tableLookup (t : Template) {table table' : Value} (schema schema' : Value)
    (htable : e.supports .schemas = false → table = table') :
    SamePieces (Build.tableLookup e op t table schema)
      (Build.tableLookup e op t table' schema') := by
  unfold Build.tableLookup
  cases hschemas : e.supports .schemas with
  | false =>
      rw [htable hschemas]
      exact refl _
  | true => exact bind fun _ _ _ _ => supported (bind fun _ _ _ _ => query op t _ _)

/-- A search binds the text that it looks for. -/
theorem searchObjects {term term' inCode inCode' : Value} (types : Value)
    (hcode : inCode.isTruthy = inCode'.isTruthy) :
    SamePieces (Build.searchObjects e term inCode types)
      (Build.searchObjects e term' inCode' types) := by
  unfold Build.searchObjects
  dsimp only
  rw [hcode]
  -- A search for nothing is refused, so both terms are there.
  cases term.isTruthy with
  | false => exact fun p q hp => absurd hp (by simp [refuse, Bind.bind, Except.bind])
  | true =>
      cases term'.isTruthy with
      | false => exact fun p q _ hq => absurd hq (by simp [refuse, Bind.bind, Except.bind])
      | true =>
          refine supported (bind fun x x' hx hx' => ?_)
          rw [hx] at hx'
          rw [Except.ok.inj hx']
          exact bind fun _ _ _ _ => query .searchObjects _ _ _

end SamePieces

end Build

/-! ### Calls without their values -/

section Call

variable {as bs : CallArguments}

/-- The names of the arguments of a call are those that are given. -/
theorem names_callArguments {entries : List (Value × Value)}
    (h : Build.callArguments entries = .ok as) :
    (entries.map (·.1)).mapM (fun k => Identifier.require k "parameter") =
      .ok (as.map (·.1)) := by
  induction entries generalizing as with
  | nil =>
      rw [← Except.ok.inj h]
      rfl
  | cons entry rest ih =>
      rw [Build.callArguments, List.mapM_cons] at h
      obtain ⟨first, hfirst, h⟩ := ok_of_bind h
      obtain ⟨more, hmore, h⟩ := ok_of_bind h
      obtain ⟨name, hname, hfirst⟩ := ok_of_bind hfirst
      rw [← Except.ok.inj h, ← Except.ok.inj hfirst, List.map_cons, List.mapM_cons, hname,
        ih hmore]
      rfl

/-- Which argument a declared name designates is told by the names. -/
theorem name_findArgument? (arguments : CallArguments) (name : String) :
    (findArgument? arguments name).map (·.1) =
      (arguments.map (·.1)).reverse.find? fun n => Text.lowercase n == Text.lowercase name := by
  rw [findArgument?, ← List.map_reverse, List.find?_map]
  rfl

/-- Declared parameters take arguments by their names, by induction on the declaration. -/
theorem names_matchArguments (hnames : as.map (·.1) = bs.map (·.1)) {byName : Bool}
    {declared : List ParameterInfo} {xs ys : List (String × Value × Option String)}
    (hx : matchArguments byName as declared = .ok xs)
    (hy : matchArguments byName bs declared = .ok ys) :
    xs.map (·.1) = ys.map (·.1) := by
  induction declared generalizing xs ys with
  | nil => rw [← Except.ok.inj hx, ← Except.ok.inj hy]
  | cons p rest ih =>
      obtain ⟨name, hname, hx⟩ := ok_of_bind hx
      obtain ⟨_, hname', hy⟩ := ok_of_bind hy
      rw [hname] at hname'
      obtain rfl := Except.ok.inj hname'
      -- So an argument is given for the parameter on both sides or on none.
      have hfound : (findArgument? as name).map (·.1) = (findArgument? bs name).map (·.1) := by
        rw [name_findArgument?, name_findArgument?, hnames]
      cases ha : findArgument? as name with
      | some given =>
          cases hb : findArgument? bs name with
          | none => rw [ha, hb] at hfound; exact absurd hfound (by simp)
          | some given' =>
              rw [ha] at hx
              rw [hb] at hy
              obtain ⟨more, hmore, hx⟩ := ok_of_bind hx
              obtain ⟨more', hmore', hy⟩ := ok_of_bind hy
              rw [← Except.ok.inj hx, ← Except.ok.inj hy, List.map_cons, List.map_cons,
                ih hmore hmore']
      | none =>
          cases hb : findArgument? bs name with
          | some given' => rw [ha, hb] at hfound; exact absurd hfound (by simp)
          | none =>
              -- Only a parameter that puts something out may be left out.
              rw [ha] at hx
              rw [hb] at hy
              cases hout : p.isOutput with
              | false =>
                  rw [hout] at hx
                  exact absurd hx (by simp [refuse])
              | true =>
                  rw [hout] at hx hy
                  obtain ⟨more, hmore, hx⟩ := ok_of_bind hx
                  obtain ⟨more', hmore', hy⟩ := ok_of_bind hy
                  rw [← Except.ok.inj hx, ← Except.ok.inj hy]
                  split
                  · exact ih hmore hmore'
                  · rw [List.map_cons, List.map_cons, ih hmore hmore']

/-- So the arguments of a call are put in the same order. -/
theorem names_orderArguments (hnames : as.map (·.1) = bs.map (·.1)) {byName : Bool}
    {declared : List ParameterInfo} {xs ys : CallArguments}
    (hx : orderArguments byName as declared = .ok xs)
    (hy : orderArguments byName bs declared = .ok ys) : xs.map (·.1) = ys.map (·.1) := by
  have htaken : ∀ {args zs : CallArguments}, orderArguments byName args declared = .ok zs →
      ∃ taken, matchArguments byName args declared = .ok taken ∧
        zs.map (·.1) = taken.map (·.1) := by
    intro args zs h
    obtain ⟨taken, htaken, h⟩ := ok_of_bind h
    refine ⟨taken, htaken, ?_⟩
    dsimp only at h
    split at h
    · rw [← Except.ok.inj h, List.map_map]
      rfl
    · exact absurd h (by simp [refuse])
  obtain ⟨taken, hmatch, hxs⟩ := htaken hx
  obtain ⟨taken', hmatch', hys⟩ := htaken hy
  rw [hxs, hys, names_matchArguments hnames hmatch hmatch']

/-- Markers are numbered by the places of the arguments. -/
theorem marked_congr (hnames : as.map (·.1) = bs.map (·.1)) :
    as.zipIdx.map (fun ((name, _), i) => (name, [Piece.marker (i + 1)])) =
      bs.zipIdx.map (fun ((name, _), i) => (name, [Piece.marker (i + 1)])) := by
  have hplaces : ∀ args : CallArguments,
      args.zipIdx.map (fun ((name, _), i) => (name, [Piece.marker (i + 1)])) =
        (args.map (·.1)).zipIdx.map fun (name, i) => (name, [Piece.marker (i + 1)]) := by
    intro args
    rw [List.zipIdx_map, List.map_map]
    rfl
  rw [hplaces, hplaces, hnames]

/-- A call binds the values of its arguments. -/
theorem Build.SamePieces.callProcedure {e : Engine} (name schema : Value)
    {entries entries' : List (Value × Value)}
    (hnames : entries.map (·.1) = entries'.map (·.1)) (declared : Option (List ParameterInfo)) :
    SamePieces (Build.callProcedure e name schema entries declared)
      (Build.callProcedure e name schema entries' declared) := by
  unfold Build.callProcedure
  refine supported (bind fun procedure procedure' hp hp' => bind fun s s' hs hs' =>
    bind fun given given' hg hg' => ?_)
  rw [hp] at hp'
  rw [hs] at hs'
  obtain rfl := Except.ok.inj hp'
  obtain rfl := Except.ok.inj hs'
  have hgiven : given.map (·.1) = given'.map (·.1) := by
    have hread := names_callArguments hg
    rw [hnames, names_callArguments hg'] at hread
    exact (Except.ok.inj hread).symm
  -- The arguments are taken as they come, or in the order of the declaration.
  cases declared with
  | none =>
      dsimp only
      refine bind fun ordered ordered' ho ho' => ?_
      rw [← Except.ok.inj ho, ← Except.ok.inj ho', marked_congr hgiven]
      exact query .callProcedure _ _ _
  | some parameters =>
      refine bind fun ordered ordered' ho ho' => ?_
      dsimp only
      rw [marked_congr (names_orderArguments hgiven ho ho')]
      exact query .callProcedure _ _ _

end Call

end SqlCatalog
