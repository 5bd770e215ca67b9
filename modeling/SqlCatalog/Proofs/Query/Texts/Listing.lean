import SqlCatalog.Proofs.Query.Template

/-!
# Texts of Listings and of the Search

Listings and the search are put together from texts: a listing from a fixed part, the
fragments of the filters that are present, and an order, a search from a template and the
parts that fill its slots. All of them keep the rules on every engine.

## Main definitions

* `ListingTexts`, `Engine.listingTexts`: The texts of a listing.
* `IsFragment`: A fragment is one comparison with a column that its value is about.
* `Engine.searchContent`: What a search puts into the slots of its template.

## Theorems

* `keyed_listing_base`, `keyed_listing_order`, `isFragment_listing_filters`: The texts of
  listings keep the rules.
* `keyed_search`: So do the two sides of a search.
-/

namespace SqlCatalog

/-- Whether the fragment of a filter is one comparison, or nothing. -/
def IsFragment (e : Engine) (op : Operation) (origin : Origin) (t : Template) : Prop :=
  t = [] ∨ ∃ text : List Char, t = [.sql (String.ofList text), .slot .marker]
    ∧ e.fixedText op true (some origin) text = true

/-- The texts of a listing: what comes before its filters, the fragments of the filters with
    what their values come from, and the order. -/
structure ListingTexts where
  base : Template := []
  filters : List (Origin × Template) := []
  order : String := ""

/-- The texts of the listing that an operation asks for. -/
def Engine.listingTexts (e : Engine) : Operation → ListingTexts
  | .listTables =>
    let t := e.rules.tables
    ⟨t.listing, [(.schema, t.schemaFilter), (.pattern, t.nameFilter)], t.order⟩
  | .listProcedures =>
    let t := e.rules.procedures
    ⟨t.listing, [(.schema, t.schemaFilter), (.pattern, t.nameFilter)], t.order⟩
  | .listFunctions =>
    let t := e.rules.functions
    ⟨t.listing, [(.schema, t.schemaFilter), (.pattern, t.nameFilter)], t.order⟩
  | .listViews =>
    let t := e.rules.views
    ⟨t.listing, [(.schema, t.schemaFilter), (.pattern, t.nameFilter)], t.order⟩
  | .listTriggers =>
    let t := e.rules.triggers
    ⟨t.listing, [(.schema, t.schemaFilter), (.table, t.tableFilter), (.pattern, t.nameFilter)],
      t.order⟩
  | _ => {}

set_option maxRecDepth 20000 in
/-- What stands before the filters of a listing keeps the rules. -/
theorem keyed_listing_base (e : Engine) (op : Operation) :
    Keyed e op [] false 1 (e.listingTexts op).base [] := by
  cases op
  all_goals
    cases e
    all_goals repeat' first
      | exact .nil
      | refine .text (by decide +kernel) ?_

set_option maxRecDepth 20000 in
/-- The order of a listing keeps the rules. -/
theorem keyed_listing_order (e : Engine) (op : Operation) :
    Keyed e op [] false 1 [.sql (e.listingTexts op).order] [] := by
  cases op
  all_goals
    cases e
    all_goals exact .text (by decide +kernel) .nil

/-- Every filter of a listing is one comparison with a column that its value is about. -/
theorem isFragment_listing_filters (e : Engine) (op : Operation) :
    ∀ f ∈ (e.listingTexts op).filters, IsFragment e op f.1 f.2 := by
  cases op
  all_goals
    cases e
    all_goals
      simp only [Engine.listingTexts, List.forall_mem_cons]
      repeat' apply And.intro
      all_goals first
        | exact .inl rfl
        | exact .inr ⟨_, rfl, by decide +kernel⟩
        | exact fun f hf => absurd hf List.not_mem_nil

/-- The restriction of a listing of functions to one kind keeps the rules. -/
theorem keyed_functionFilter (e : Engine) (kind : String) :
    Keyed e .listFunctions [] true 1 (Build.functionFilter e kind) [] := by
  unfold Build.functionFilter
  split
  · cases e
    all_goals repeat' first
      | exact .nil
      | refine .text (by decide +kernel) ?_
  · split
    · cases e
      all_goals repeat' first
        | exact .nil
        | refine .text (by decide +kernel) ?_
    · cases e
      all_goals repeat' first
        | exact .nil
        | refine .text (by decide +kernel) ?_

/-- The restriction of a listing of triggers to the enabled ones keeps the rules. -/
theorem keyed_enabledOnly (e : Engine) :
    Keyed e .listTriggers [] true 1 e.rules.triggers.enabledOnly [] := by
  cases e
  all_goals repeat' first
    | exact .nil
    | refine .text (by decide +kernel) ?_

namespace Engine

/-- The branch of a search that looks into sources. -/
def codeSearch (e : Engine) (inCode : Bool) : Template :=
  if inCode then e.rules.search.codeClause else []

/-- What a search puts into the slots of its template. -/
def searchContent (e : Engine) (inCode : Bool) (types : List Piece) : Slot → List Piece
  | .typeFilter => types
  | .codeSearch => e.codeSearch inCode
  | s => [.slot s]

/-- What the arguments of a search come from. Where markers have no numbers the term is
    bound for each marker. -/
def searchOrigins (e : Engine) (inCode : Bool) : List Origin :=
  if !(e.codeSearch inCode).isEmpty && e.rules.markers = .question then [.term, .term]
  else [.term]

/-- The indices of the markers of a search. -/
def searchIndices (e : Engine) (inCode : Bool) : List Nat :=
  if (e.codeSearch inCode).isEmpty then [1]
  else if e.rules.markers = .question then [1, 2]
  else [1, 1]

end Engine

set_option maxRecDepth 20000 in
/-- A search keeps the rules on both sides of its restriction to types. -/
theorem keyed_search (e : Engine) (inCode : Bool) :
    ∃ left right found more,
      (∀ types, e.rules.server.search.fill (e.searchContent inCode types)
        = left ++ (types ++ right))
      ∧ e.searchIndices inCode = found ++ more
      ∧ Keyed e .searchObjects (e.searchOrigins inCode) false 1 left found
      ∧ Keyed e .searchObjects (e.searchOrigins inCode) true (1 + found.length) right more := by
  -- The restriction to types stands in another place on each engine.
  cases e
  all_goals cases inCode
  case' sqlServer.false => refine ⟨[_], [_, _, _, _], [], [1], fun types => rfl, rfl, ?_, ?_⟩
  case' sqlServer.true =>
    refine ⟨[_], [_, _, _, _, _, _, _], [], [1, 1], fun types => rfl, rfl, ?_, ?_⟩
  case' postgres.false => refine ⟨[_, _, _, _], [_], [1], [], fun types => rfl, rfl, ?_, ?_⟩
  case' postgres.true =>
    refine ⟨[_, _, _, _, _, _, _], [_], [1, 1], [], fun types => rfl, rfl, ?_, ?_⟩
  case' mysql.false => refine ⟨[_, _, _, _, _, _], [_], [1], [], fun types => rfl, rfl, ?_, ?_⟩
  case' mysql.true => refine ⟨[_, _, _, _, _, _], [_], [1], [], fun types => rfl, rfl, ?_, ?_⟩
  case' oracle.false => refine ⟨[_, _, _, _], [_], [1], [], fun types => rfl, rfl, ?_, ?_⟩
  case' oracle.true => refine ⟨[_, _, _, _], [_], [1], [], fun types => rfl, rfl, ?_, ?_⟩
  case' sqlite.false => refine ⟨[_, _, _, _], [_], [1], [], fun types => rfl, rfl, ?_, ?_⟩
  case' sqlite.true =>
    refine ⟨[_, _, _, _, _, _, _], [_], [1, 2], [], fun types => rfl, rfl, ?_, ?_⟩
  all_goals repeat' first
    | exact .nil
    | refine .marker rfl (by decide +kernel) (by decide) ?_
    | refine .text (by decide +kernel) ?_

end SqlCatalog
