import SqlCatalog.Proofs.Pages.Requests
import SqlCatalog.Proofs.Query.SelectionReading
import SqlCatalog.Reader.Method

/-!
# The Window of a Listing

A listing asks for a page in two steps. The page becomes a number of rows to take and one of rows
to skip, and the two numbers become the end of a text. What comes back is decided by whoever reads
that text, and engines do not write it alike: some take rows behind a limit, with the numbers in
this order, and others fetch them behind an offset, with the numbers the other way round.

So the text is read here as an engine reads it, from its end, and without a look at the rules that
it was written by. On an engine that has the listing it can be written if and only if the filters
make sense, and then the numbers that are read are those of the page.

## Main definitions

* `Engine.readWindow?`: The rows to take and to skip that a text says.
* `CatalogListing`: The listings of the catalogue, with their methods and queries.
* `CatalogListing.Fits`: The filters of a listing make sense.

## Theorems

* `Engine.readWindow?_render`: A window is read as it was written.
* `CatalogListing.exists_query`: The query of a page says the window of the page.
* `CatalogListing.Fits.of_query`: There is a query only for filters that make sense.
* `CatalogListing.inquiry_eq`: A listing runs the query of its page and shows what comes back.
-/

namespace SqlCatalog

/-! ### Reading a window -/

/-- The number that a word of digits writes. -/
def readNumber? (word : String) : Option Nat :=
  if word.toList ≠ [] ∧ word.toList.all Char.isDigit = true then
    some (Nat.ofDigitChars 10 word.toList 0)
  else none

theorem readNumber?_toString (n : Nat) : readNumber? (toString (n : Int)) = some n := by
  have hdigits : (toString (n : Int)).toList = Nat.toDigits 10 n := Nat.toList_repr
  rw [readNumber?, if_pos, hdigits, Nat.ofDigitChars_ten_toDigits]
  refine ⟨toList_number_ne_nil n, List.all_eq_true.mpr fun c hc => ?_⟩
  rw [hdigits] at hc
  exact Nat.isDigit_of_mem_toDigits (by decide) (by decide) hc

/-- The numbers of a limit, given the tokens of a text from its end. -/
def readLimit? : List Token → Option (Nat × Nat)
  | .word skip :: .word "OFFSET" :: .word take :: .word "LIMIT" :: _ => do
    return (← readNumber? take, ← readNumber? skip)
  | _ => none

/-- The numbers of a fetch, given the tokens of a text from its end. -/
def readFetch? : List Token → Option (Nat × Nat)
  | .word "ONLY" :: .word "ROWS" :: .word take :: .word "NEXT" :: .word "FETCH" ::
      .word "ROWS" :: .word skip :: .word "OFFSET" :: _ => do
    return (← readNumber? take, ← readNumber? skip)
  | _ => none

namespace Engine

/-- The rows to take and the rows to skip that the end of a text says, as the engine reads it. -/
def readWindow? (e : Engine) (text : String) : Option (Nat × Nat) :=
  let backwards := (Selected.wordTokens text).reverse
  match e with
  | .sqlServer | .oracle => readFetch? backwards
  | .postgres | .mysql | .sqlite => readLimit? backwards

/-- A limit behind a blank is read, whatever comes before it. -/
theorem readLimit?_wordTokens (before : String) (take skip : Nat) :
    readLimit? (Selected.wordTokens (before ++ (" " ++
        ("LIMIT " ++ toString (take : Int) ++ " OFFSET " ++ toString (skip : Int))))).reverse =
      some (take, skip) := by
  have hblank (word : List Char) : readWords word " ".toList = (Token.ofWord word, []) :=
    congrArg (·, []) (List.append_nil _)
  rw [Selected.wordTokens, String.toList_append, String.toList_append, readWords_append,
    readWords_append, hblank, Selected.readWords_limit, ofWord_number]
  simp only [List.reverse_append, List.reverse_cons, List.reverse_nil, List.nil_append,
    List.cons_append]
  change (do return (← readNumber? _, ← readNumber? _)) = _
  rw [readNumber?_toString, readNumber?_toString]
  rfl

/-- So is a fetch. -/
theorem readFetch?_wordTokens (before : String) (take skip : Nat) :
    readFetch? (Selected.wordTokens (before ++ (" OFFSET " ++ toString (skip : Int) ++
        " ROWS FETCH NEXT " ++ toString (take : Int) ++ " ROWS ONLY"))).reverse =
      some (take, skip) := by
  have honly : Token.ofWord "ONLY".toList = [.word "ONLY"] := rfl
  rw [Selected.wordTokens, String.toList_append, readWords_append, Selected.readWords_fetch, honly]
  simp only [List.reverse_append, List.reverse_cons, List.reverse_nil, List.nil_append,
    List.cons_append]
  change (do return (← readNumber? _, ← readNumber? _)) = _
  rw [readNumber?_toString, readNumber?_toString]
  rfl

/-- A window behind an order, as it is written by engines that limit rows. -/
theorem render_limit {e : Engine} (h : e.rules.window = .limit) (order limit offset : String) :
    e.render (e.window limit offset [.sql order]) =
      "ORDER BY " ++ order ++ (" " ++ ("LIMIT " ++ limit ++ " OFFSET " ++ offset)) := by
  have hnil : e.render [] = "" := rfl
  rw [window, h]
  simp only [List.isEmpty_cons, Bool.false_eq_true, if_false, List.cons_append, List.nil_append,
    render_cons, renderPiece, hnil, String.append_empty, String.append_assoc]

/-- And as it is written by engines that fetch them. -/
theorem render_fetch {e : Engine} {neutral : String} (h : e.rules.window = .fetch neutral)
    (order limit offset : String) :
    e.render (e.window limit offset [.sql order]) =
      "ORDER BY " ++ order ++
        (" OFFSET " ++ offset ++ " ROWS FETCH NEXT " ++ limit ++ " ROWS ONLY") := by
  have hnil : e.render [] = "" := rfl
  rw [window, h]
  simp only [List.isEmpty_cons, Bool.false_eq_true, if_false, List.cons_append, List.nil_append,
    render_cons, renderPiece, hnil, String.append_empty, String.append_assoc]

/-- An engine reads windows in the style that it writes them in. -/
theorem readWindow?_eq (e : Engine) :
    (e.rules.window = .limit ∧
        ∀ text, e.readWindow? text = readLimit? (Selected.wordTokens text).reverse) ∨
      ∃ neutral, e.rules.window = .fetch neutral ∧
        ∀ text, e.readWindow? text = readFetch? (Selected.wordTokens text).reverse := by
  cases e with
  | sqlServer | oracle => exact .inr ⟨_, rfl, fun _ => rfl⟩
  | postgres | mysql | sqlite => exact .inl ⟨rfl, fun _ => rfl⟩

/-- A window is read as it was written, whatever comes before its order. -/
theorem readWindow?_render (e : Engine) (ps : List Piece) (order : String) (take skip : Nat) :
    e.readWindow? (e.render (ps ++
      e.window (toString (take : Int)) (toString (skip : Int)) [.sql order])) =
      some (take, skip) := by
  rw [render_append]
  rcases e.readWindow?_eq with ⟨hwindow, hread⟩ | ⟨neutral, hwindow, hread⟩
  · rw [hread, render_limit hwindow, ← String.append_assoc]
    exact readLimit?_wordTokens _ take skip
  · rw [hread, render_fetch hwindow, ← String.append_assoc]
    exact readFetch?_wordTokens _ take skip

end Engine

/-! ### The filters of a listing -/

/-- A name that an operation does not know is not among the arguments that fit it. -/
theorem Signature.valueOr_of_bind {s : Signature} {given : Arguments}
    (h : s.bind given = .ok given) {name : String} (hname : s.accepts name = false)
    (default : Value) : given.valueOr name default = default := by
  have hall : given.all (fun a => s.accepts a.1) = true := by
    by_contra hnot
    rw [bind, Bool.eq_false_iff.mpr hnot] at h
    cases h
  have hnone : given.lookup name = none := by
    refine List.lookup_eq_none_iff.mpr fun a ha => ?_
    have hknown := List.all_eq_true.mp hall a ha
    rw [bne_iff_ne]
    rintro rfl
    rw [hname] at hknown
    cases hknown
  rw [Arguments.valueOr, hnone, Option.getD_none]

/-- A value can be required to be a name if and only if it is one. -/
theorem Identifier.exists_require (v : Value) (kind : String) :
    (∃ name, require v kind = .ok name) ↔ isValid v = true := by
  constructor
  · rintro ⟨name, hname⟩
    cases v with
    | text s =>
        by_contra hinvalid
        have hrefused : require (.text s) kind = refuse (.identifier (.text s) kind) :=
          if_neg hinvalid
        rw [hrefused] at hname
        cases hname
    | _ => cases hname
  · intro h
    cases v with
    | text s => exact ⟨s, require_of_isName h kind⟩
    | _ => cases h

namespace Build

variable {e : Engine}

theorem exists_schemaValue {schema : Value} :
    (∃ v, schemaValue e schema = .ok v) ↔
      (schema.isTruthy = true → Identifier.isValid schema = true) := by
  unfold schemaValue
  cases schema.isTruthy with
  | false => exact ⟨fun _ h => (nomatch h), fun _ => ⟨_, rfl⟩⟩
  | true =>
      simp only [forall_const, ← Identifier.exists_require schema "schema"]
      constructor
      · rintro ⟨v, hv⟩
        obtain ⟨name, hname, -⟩ := ok_of_bind hv
        exact ⟨name, hname⟩
      · rintro ⟨name, hname⟩
        rw [hname]
        exact ⟨_, rfl⟩

theorem exists_containsPattern {nameFilter : Value} :
    (∃ v, containsPattern e nameFilter = .ok v) ↔
      (nameFilter.isTruthy = true → ∃ v, e.foldValue nameFilter = .ok v) := by
  unfold containsPattern
  cases nameFilter.isTruthy with
  | false => exact ⟨fun _ h => (nomatch h), fun _ => ⟨_, rfl⟩⟩
  | true =>
      simp only [forall_const]
      constructor
      · rintro ⟨v, hv⟩
        obtain ⟨folded, hfolded, -⟩ := ok_of_bind hv
        exact ⟨folded, hfolded⟩
      · rintro ⟨folded, hfolded⟩
        rw [hfolded]
        exact ⟨_, rfl⟩

theorem exists_functionKind {kind : Value} :
    (∃ s, functionKind kind = .ok s) ↔
      (kind.isTruthy = true → ∃ s, kind = .text s ∧ Text.lowercase s ∈ functionKinds) := by
  unfold functionKind
  cases kind.isTruthy with
  | false => exact ⟨fun _ h => (nomatch h), fun _ => ⟨_, rfl⟩⟩
  | true =>
      simp only [forall_const]
      constructor
      · rintro ⟨s, hs⟩
        cases kind with
        | text word =>
            by_contra hunknown
            have hword : ¬functionKinds.contains (Text.lowercase word) = true :=
              fun h => hunknown ⟨word, rfl, List.contains_iff_mem.mp h⟩
            simp only [if_neg hword] at hs
            cases hs
        | bytes form _ => cases form <;> cases hs
        | _ => cases hs
      · rintro ⟨s, rfl, hs⟩
        simp only [List.contains_iff_mem.mpr hs]
        exact ⟨_, rfl⟩

/-- What comes behind a choice comes behind the one that was made. -/
theorem of_ite_bind {α β : Type} {c : Prop} [Decidable c] {x y : Outcome α} {f : α → Outcome β}
    {b : β} (h : (if c then x >>= f else y >>= f) = .ok b) :
    ∃ a, (if c then x else y) = .ok a ∧ f a = .ok b := by
  by_cases hc : c
  · rw [if_pos hc] at h ⊢
    exact ok_of_bind h
  · rw [if_neg hc] at h ⊢
    exact ok_of_bind h

/-- A query that is there is not one that is lacking. -/
theorem of_unless_unsupported {lacking : Bool} {built : Built} {q : Query}
    (h : (if lacking = true then unsupported else built) = .ok (some q)) :
    built = .ok (some q) := by
  cases lacking with
  | true => cases h
  | false => exact h

/-- A listing can be written for every page, and says the window of it. -/
theorem exists_listing {p : Page} (hnumber : 1 ≤ p.number) (hsize : 1 ≤ p.size) (op : Operation)
    (base : Template) (filters : List Filter) (after : Template) (order : String) :
    ∃ q, listing e op base filters after order p.window = .ok (some q) ∧
      e.readWindow? (q.sql e) = some (p.limit.toNat, p.offset.toNat) := by
  have hlimit : ((p.limit.toNat : Nat) : Int) = p.limit := Int.toNat_of_nonneg (by
    rw [Page.limit]
    omega)
  have hoffset : ((p.offset.toNat : Nat) : Int) = p.offset :=
    Int.toNat_of_nonneg (Int.mul_nonneg (show 0 ≤ p.number - 1 by omega) (show 0 ≤ p.size by omega))
  have hclause : p.window.clause e [.sql order] =
      e.window (toString (p.limit.toNat : Int)) (toString (p.offset.toNat : Int)) [.sql order] := by
    rw [hlimit, hoffset]
    rfl
  have hpresent (before : List Piece) :
      (before ++ .sql " " :: p.window.clause e [.sql order]).isEmpty = false := by simp
  unfold listing
  simp only [Page.check_window hnumber hsize, bind, Except.bind]
  refine ⟨_, congrArg Except.ok (if_neg (Bool.eq_false_iff.mp (hpresent _))), ?_⟩
  rw [Query.sql, hclause]
  have hread := e.readWindow?_render (base ++ (applyFilters [] filters).1 ++ after ++ [.sql " "])
    order p.limit.toNat p.offset.toNat
  rwa [List.append_assoc _ [_]] at hread

end Build

/-! ### The listings -/

/-- The listings of the catalogue. -/
inductive CatalogListing where
  | tables
  | views
  | triggers
  | procedures
  | functions

namespace CatalogListing

/-- The method of the reader. -/
def method : CatalogListing → Reader.Method
  | .tables => .listTables
  | .views => .listViews
  | .triggers => .listTriggers
  | .procedures => .listProcedures
  | .functions => .listFunctions

/-- What the answer calls the objects. -/
def kind : CatalogListing → String
  | .tables => "tables"
  | .views => "views"
  | .triggers => "triggers"
  | .procedures => "procedures"
  | .functions => "functions"

/-- What an engine may lack for it. -/
def feature? : CatalogListing → Option Feature
  | .tables => none
  | .views => some .views
  | .triggers => some .triggers
  | .procedures => some .procedures
  | .functions => some .functions

/-- What is lacking where there is no query for it. -/
def lacking (l : CatalogListing) : String := (l.feature?.map Feature.title).getD "listing tables"

/-- An engine has the listing. -/
def SupportedBy (l : CatalogListing) (e : Engine) : Prop :=
  ∀ feature, l.feature? = some feature → e.supports feature = true

/-- The query for a window of the listing, with the filters that are given. -/
def query (l : CatalogListing) (e : Engine) (given : Arguments) (w : Window) : Build.Built :=
  let text (name : String) : Value := given.valueOr name (.text "")
  match l with
  | .tables => Build.listTables e (text "schema") (text "name_filter") w
  | .views => Build.listViews e (text "schema") (text "name_filter") w
  | .triggers =>
    Build.listTriggers e (text "schema") (text "table") (text "name_filter")
      (given.valueOr "include_disabled" (.bool true)) w
  | .procedures => Build.listProcedures e (text "schema") (text "name_filter") w
  | .functions =>
    Build.listFunctions e (text "schema") (text "name_filter")
      (given.valueOr "function_type" (.text "all")) w

/-- The filters make sense: those that are given, and are not empty, are names where names are
    wanted, can be folded as the engine folds names, or are a kind of function. -/
structure Fits (e : Engine) (given : Arguments) : Prop where
  schema : (given.valueOr "schema" (.text "")).isTruthy = true →
    Identifier.isValid (given.valueOr "schema" (.text "")) = true
  table : (given.valueOr "table" (.text "")).isTruthy = true →
    Identifier.isValid (given.valueOr "table" (.text "")) = true
  nameFilter : (given.valueOr "name_filter" (.text "")).isTruthy = true →
    ∃ v, e.foldValue (given.valueOr "name_filter" (.text "")) = .ok v
  functionType : (given.valueOr "function_type" (.text "all")).isTruthy = true →
    ∃ s, given.valueOr "function_type" (.text "all") = .text s ∧
      Text.lowercase s ∈ Build.functionKinds

/-- An engine that has a listing has a query for it. -/
theorem present_of_supports (e : Engine) :
    (e.supports .views = true → e.rules.views.listing.isEmpty = false) ∧
      (e.supports .triggers = true → e.rules.triggers.listing.isEmpty = false) ∧
      (e.supports .procedures = true → e.rules.procedures.listing.isEmpty = false) ∧
      (e.supports .functions = true → e.rules.functions.listing.isEmpty = false) := by
  cases e <;> decide

variable {l : CatalogListing} {e : Engine} {given : Arguments}

/-- With filters that make sense there is a query for every page, which says the window of it. -/
theorem exists_query (hsupported : l.SupportedBy e) (hfits : Fits e given) {p : Page}
    (hnumber : 1 ≤ p.number) (hsize : 1 ≤ p.size) :
    ∃ q, l.query e given p.window = .ok (some q) ∧
      e.readWindow? (q.sql e) = some (p.limit.toNat, p.offset.toNat) := by
  obtain ⟨schema, hschema⟩ := (@Build.exists_schemaValue e _).mpr hfits.schema
  obtain ⟨pattern, hpattern⟩ := Build.exists_containsPattern.mpr hfits.nameFilter
  obtain ⟨hviews, htriggers, hprocedures, hfunctions⟩ := present_of_supports e
  have hwritten := @Build.exists_listing e p hnumber hsize
  cases l with
  | tables =>
      simp only [query, Build.listTables, hschema, hpattern, bind, Except.bind]
      exact hwritten _ _ _ _ _
  | views =>
      have hhas := hsupported .views rfl
      simp only [query, Build.listViews, hhas, hviews hhas, hschema, hpattern, bind, Except.bind,
        Bool.not_true, Bool.or_self, Bool.false_eq_true, if_false]
      exact hwritten _ _ _ _ _
  | triggers =>
      have hhas := hsupported .triggers rfl
      simp only [query, Build.listTriggers, hhas, htriggers hhas, hschema, hpattern, bind,
        Except.bind, Bool.not_true, Bool.or_self, Bool.false_eq_true, if_false]
      split
      · rename_i hgiven
        obtain ⟨table, htable⟩ := (Identifier.exists_require _ "table").mpr (hfits.table hgiven)
        simp only [htable, Except.map]
        exact hwritten _ _ _ _ _
      · exact hwritten _ _ _ _ _
  | procedures =>
      have hhas := hsupported .procedures rfl
      simp only [query, Build.listProcedures, hhas, hprocedures hhas, hschema, hpattern, bind,
        Except.bind, Bool.not_true, Bool.or_self, Bool.false_eq_true, if_false]
      exact hwritten _ _ _ _ _
  | functions =>
      have hhas := hsupported .functions rfl
      obtain ⟨kind, hkind⟩ := Build.exists_functionKind.mpr hfits.functionType
      simp only [query, Build.listFunctions, hkind, hhas, hfunctions hhas, hschema, hpattern, bind,
        Except.bind, Bool.not_true, Bool.or_self, Bool.false_eq_true, if_false]
      exact hwritten _ _ _ _ _

/-- There is none with other filters. -/
theorem Fits.of_query {w : Window} {q : Query} (hgiven : l.method.signature.bind given = .ok given)
    (hq : l.query e given w = .ok (some q)) : Fits e given := by
  have habsent (name : String) (default : Value) (hname : l.method.signature.accepts name = false) :
      given.valueOr name default = default := Signature.valueOr_of_bind hgiven hname default
  have htable (h : l.method.signature.accepts "table" = false) :
      (given.valueOr "table" (.text "")).isTruthy = true →
        Identifier.isValid (given.valueOr "table" (.text "")) = true := by
    rw [habsent _ _ h]
    exact fun h => (nomatch h)
  have hkind (h : l.method.signature.accepts "function_type" = false) :
      (given.valueOr "function_type" (.text "all")).isTruthy = true →
        ∃ s, given.valueOr "function_type" (.text "all") = .text s ∧
          Text.lowercase s ∈ Build.functionKinds := by
    rw [habsent _ _ h]
    exact fun _ => ⟨"all", rfl, by decide⟩
  cases l with
  | tables =>
      obtain ⟨_, hschema, hq⟩ := ok_of_bind hq
      obtain ⟨_, hpattern, -⟩ := ok_of_bind hq
      exact ⟨Build.exists_schemaValue.mp ⟨_, hschema⟩, htable rfl,
        Build.exists_containsPattern.mp ⟨_, hpattern⟩, hkind rfl⟩
  | views | procedures =>
      obtain ⟨_, hschema, hq⟩ := ok_of_bind (Build.of_unless_unsupported hq)
      obtain ⟨_, hpattern, -⟩ := ok_of_bind hq
      exact ⟨Build.exists_schemaValue.mp ⟨_, hschema⟩, htable rfl,
        Build.exists_containsPattern.mp ⟨_, hpattern⟩, hkind rfl⟩
  | triggers =>
      obtain ⟨_, hnamed, hq⟩ := Build.of_ite_bind (Build.of_unless_unsupported hq)
      obtain ⟨_, hschema, hq⟩ := ok_of_bind hq
      obtain ⟨_, hpattern, -⟩ := ok_of_bind hq
      refine ⟨Build.exists_schemaValue.mp ⟨_, hschema⟩, fun hasked => ?_,
        Build.exists_containsPattern.mp ⟨_, hpattern⟩, hkind rfl⟩
      rw [if_pos hasked] at hnamed
      refine (Identifier.exists_require _ "table").mp ?_
      cases hname : Identifier.require (given.valueOr "table" (.text "")) "table" with
      | ok name => exact ⟨name, rfl⟩
      | error f =>
          rw [hname] at hnamed
          cases hnamed
  | functions =>
      obtain ⟨_, hkind, hq⟩ := ok_of_bind hq
      obtain ⟨_, hschema, hq⟩ := ok_of_bind (Build.of_unless_unsupported hq)
      obtain ⟨_, hpattern, -⟩ := ok_of_bind hq
      exact ⟨Build.exists_schemaValue.mp ⟨_, hschema⟩, htable rfl,
        Build.exists_containsPattern.mp ⟨_, hpattern⟩, Build.exists_functionKind.mp ⟨_, hkind⟩⟩

/-- A listing writes the query of its page, runs it and shows what comes back. -/
theorem inquiry_eq {f : Frame} {p : Page} (hgiven : l.method.signature.bind given = .ok given)
    (hengine : f.engine = some e) (hsupported : l.SupportedBy e)
    (hpage : f.listingPage (given.valueOr "pagination" .null) = .ok p) :
    l.method.inquiry f given =
      Inquiry.bind (Inquiry.bind (.done (l.query e given p.window)) fun q =>
        Reader.listing e l.kind p q l.lacking) fun listing =>
          .done (.ok (Record.value listing.record)) := by
  have hrequired : f.requireEngine = .ok e := by
    rw [Frame.requireEngine, hengine]
  have hfeature : ∀ feature, l.feature? = some feature → f.requireFeature feature = .ok e := by
    intro feature hfeature
    have hhas := hsupported feature hfeature
    unfold Frame.requireFeature
    rw [hrequired]
    exact if_pos hhas
  unfold Reader.Method.inquiry
  rw [hgiven]
  cases l with
  | tables =>
      change Inquiry.bind (Inquiry.bind (.done (f.listingPage _)) _) _ = _
      rw [hpage]
      change Inquiry.bind (Inquiry.bind (.done f.requireEngine) _) _ = _
      rw [hrequired]
      rfl
  | views | triggers | procedures | functions =>
      -- The feature is looked at before the page, else they are like tables.
      change Inquiry.bind (Inquiry.bind (.done (f.requireFeature _)) _) _ = _
      rw [hfeature _ rfl]
      change Inquiry.bind (Inquiry.bind (.done (f.listingPage _)) _) _ = _
      rw [hpage]
      rfl

end CatalogListing

end SqlCatalog
