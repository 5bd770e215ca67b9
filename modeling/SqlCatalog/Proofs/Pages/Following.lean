import SqlCatalog.Proofs.Pages.ListingWindow
import SqlCatalog.Proofs.Session.FreeQueries
import SqlCatalog.Proofs.Session.Source

/-!
# Following a Listing

A listing comes without a total. All that a client has to go by is a flag, and the flag is read
off the page alone: a page that is full may be followed by others. Where the rows end with a full
page the client is sent on once more, and what it finds there is a page without items, which is
not full. So it makes one call more than there are full pages, whether anything is left over for
the last one or not.

The rows come from a server that has them in one order and reads how many of them to take and to
skip from the text that it is given. Nothing else is asked of it, and it may change meanwhile as
long as it keeps answering like that. What a page leaves of the rows, counted from its beginning,
is what the next one begins with, and this is what the induction is on.

## Main definitions

* `CatalogListing.AnsweredFrom`: A server answers the pages of a listing from rows in one order.
* `pageArguments`: The arguments that ask for a page of a listing.
* `Session.Follows`: A client asks for one page after the other while more may follow.

## Theorems

* `CatalogListing.call_page`: A page of a listing shows the rows of its window.
* `Session.Follows.unique`: There is one way only to follow a listing.
* `following_shows_all_rows`: Following a listing ends, and shows every row once and in order.
-/

namespace SqlCatalog

/-! ### Answers -/

namespace Value

/-- A field of an answer. -/
def entry (name : String) : Value → Value
  | .map entries => field name entries
  | _ => .null

/-- The items of an answer under a name. -/
def itemsOf (name : String) (answer : Value) : List Value :=
  match answer.entry name with
  | .list items => items
  | _ => []

end Value

namespace CatalogListing

variable (l : CatalogListing) (items : List Record) (p : Page)

theorem entry_hasMore : (Record.value (Listing.record ⟨l.kind, items, p⟩)).entry "has_more" =
    .bool (decide ((items.length : Int) = p.size)) := by
  cases l <;> rfl

theorem itemsOf_kind :
    (Record.value (Listing.record ⟨l.kind, items, p⟩)).itemsOf l.kind = items.map Record.value := by
  cases l <;> rfl

end CatalogListing

/-- All rows of a result are fetched where there is no ceiling, and shown. -/
theorem Request.records_fetched {q : Request} {r : Reply} {result : ResultSet}
    (hq : q.maxRows = none) (hr : r.result = result)
    (hnamed : result.rows ≠ [] → result.columns ≠ []) :
    (q.fetched r).records = result.rows.map (Catalog.displayRow result.columns) := by
  unfold fetched
  rw [hq, hr]
  split
  · rename_i hcolumns
    have hrows : result.rows = [] := by
      by_contra hrows
      exact hnamed hrows (List.isEmpty_iff.mp hcolumns)
    rw [hrows]
    rfl
  · rfl

/-! ### Asking for a page -/

/-- The arguments that ask for a page of a listing. -/
def pageArguments (p : Page) (filters : Arguments) : Arguments :=
  ("pagination", Record.value p.record) :: filters

/-- A server answers the pages of a listing from rows in one order: a query for a window of it is
    answered by as many rows as its text says, behind as many as it says. The server stays one that
    answers like that. -/
structure CatalogListing.AnsweredFrom {σ : Type} [Server σ] (l : CatalogListing) (e : Engine)
    (c : ConnectionName) (filters : Arguments) (table : ResultSet) (steady : σ → Prop) : Prop where
  named : table.rows ≠ [] → table.columns ≠ []
  answers : ∀ server, steady server → ∀ w q, l.query e filters w = .ok (some q) →
    ∀ take skip, e.readWindow? (q.sql e) = some (take, skip) →
    ∃ opened next, Server.openCursor c server = (none, opened) ∧
      Server.execute c (q.sql e) q.args opened =
        ({ result := ⟨table.columns, (table.rows.drop skip).take take⟩ }, next) ∧ steady next

namespace CatalogListing

variable {σ : Type} {l : CatalogListing} {e : Engine} {c : ConnectionName} {filters : Arguments}

/-- The page is no filter. -/
theorem query_pageArguments (l : CatalogListing) (e : Engine) (p : Page) (filters : Arguments)
    (w : Window) : l.query e (pageArguments p filters) w = l.query e filters w := by
  cases l <;> rfl

/-- The page is an argument of every listing. -/
theorem bind_pageArguments (h : l.method.signature.bind filters = .ok filters) (p : Page) :
    l.method.signature.bind (pageArguments p filters) = .ok (pageArguments p filters) := by
  have hnone : l.method.signature.required = [] := by cases l <;> rfl
  have hknown : l.method.signature.accepts "pagination" = true := by cases l <;> decide
  unfold Signature.bind at h ⊢
  split at h
  · rename_i haccepted
    rw [hnone] at haccepted ⊢
    rw [pageArguments, List.all_cons, hknown, Bool.true_and]
    exact if_pos haccepted
  · cases h

/-- What a page of a listing shows of the rows. -/
def shown (l : CatalogListing) (table : ResultSet) (p : Page) : Value :=
  Record.value (Listing.record ⟨l.kind,
    ((table.rows.drop p.offset.toNat).take p.limit.toNat).map (Catalog.displayRow table.columns),
    p⟩)

/-- The inquiry of a page, up to the query. -/
theorem inquiry_page {s : Session σ} (hactive : s.context.active? = some (c, e))
    (hsupported : l.SupportedBy e) (hnamed : l.method.signature.bind filters = .ok filters)
    {p : Page} (hnumber : 1 ≤ p.number) (hsize : 1 ≤ p.size)
    (hceiling : p.size ≤ s.limits.pageSize) :
    l.method.inquiry s.frame (pageArguments p filters) =
      Inquiry.bind (Inquiry.bind (.done (l.query e filters p.window)) fun q =>
        Reader.listing e l.kind p q l.lacking) fun listing =>
          .done (.ok (Record.value listing.record)) := by
  have hpage : s.frame.listingPage ((pageArguments p filters).valueOr "pagination" .null) = .ok p :=
    Frame.page_of_fields (by decide) hnumber hsize hceiling rfl rfl
  have hengine : s.frame.engine = some e := by
    rw [Session.frame, hactive]
    rfl
  rw [inquiry_eq (bind_pageArguments hnamed p) hengine hsupported hpage, query_pageArguments]

variable [Server σ] {table : ResultSet} {steady : σ → Prop}

/-- A page of a listing shows the rows of its window. -/
theorem call_page {s : Session σ} (hactive : s.context.active? = some (c, e))
    (hsupported : l.SupportedBy e) (hnamed : l.method.signature.bind filters = .ok filters)
    (hfits : Fits e filters) (hserver : l.AnsweredFrom e c filters table steady)
    (hsteady : steady s.server) {p : Page} (hnumber : 1 ≤ p.number) (hsize : 1 ≤ p.size)
    (hceiling : p.size ≤ s.limits.pageSize) :
    ∃ t, s.call l.method (pageArguments p filters) = (.ok (l.shown table p), t) ∧
      t.context = s.context ∧ t.limits = s.limits ∧ steady t.server := by
  obtain ⟨q, hq, hread⟩ := exists_query hsupported hfits hnumber hsize
  obtain ⟨opened, next, hopened, hexecuted, hkept⟩ :=
    hserver.answers s.server hsteady p.window q hq _ _ hread
  have hinquiry : l.method.inquiry s.frame (pageArguments p filters) =
      .run ⟨q.sql e, q.args, "listing " ++ l.kind, none⟩ fun r =>
        .done (.ok (Record.value (Listing.record ⟨l.kind, r.records, p⟩))) := by
    rw [inquiry_page hactive hsupported hnamed hnumber hsize hceiling, hq]
    rfl
  have hrun := Session.run_of_answered (q := ⟨q.sql e, q.args, "listing " ++ l.kind, none⟩)
    ⟨⟨e, hactive⟩, ⟨opened, hopened, hexecuted⟩, rfl, rfl⟩
  have hshown : (Request.fetched ⟨q.sql e, q.args, "listing " ++ l.kind, none⟩
        { result :=
            ⟨table.columns, (table.rows.drop p.offset.toNat).take p.limit.toNat⟩ }).records =
      ((table.rows.drop p.offset.toNat).take p.limit.toNat).map
        (Catalog.displayRow table.columns) := by
    refine Request.records_fetched rfl rfl fun hrows => hserver.named fun hnone => hrows ?_
    rw [hnone, List.drop_nil, List.take_nil]
  unfold Session.call
  rw [hinquiry, Inquiry.exec, hrun]
  simp only [Inquiry.exec, hshown]
  exact ⟨_, rfl, rfl, rfl, hkept⟩

/-- With other filters a page is refused, and nothing is asked. -/
theorem call_page_of_not_fits {s : Session σ} (hactive : s.context.active? = some (c, e))
    (hsupported : l.SupportedBy e) (hnamed : l.method.signature.bind filters = .ok filters)
    (hfits : ¬Fits e filters) {p : Page} (hnumber : 1 ≤ p.number) (hsize : 1 ≤ p.size)
    (hceiling : p.size ≤ s.limits.pageSize) :
    ∃ f t, s.call l.method (pageArguments p filters) = (.error f, t) ∧ t.events = s.events := by
  obtain ⟨f, hinquiry⟩ : ∃ f, l.method.inquiry s.frame (pageArguments p filters) =
      .done (.error f) := by
    rw [inquiry_page hactive hsupported hnamed hnumber hsize hceiling]
    rcases hq : l.query e filters p.window with f | _ | q
    · exact ⟨f, rfl⟩
    · exact ⟨_, rfl⟩
    · exact absurd (Fits.of_query hnamed hq) hfits
  obtain ⟨hanswer, hevents, -⟩ := s.call_eq_exec l.method (pageArguments p filters)
  rw [hinquiry, Inquiry.exec] at hanswer hevents
  exact ⟨f, (s.call l.method (pageArguments p filters)).2, Prod.ext hanswer rfl, hevents⟩

end CatalogListing

/-! ### One page after the other -/

/-- A client asks for a page of a listing, and for the next one while more may follow. What it
    gets are the answers, and the session at the end. -/
inductive Session.Follows {σ : Type} [Server σ] (l : CatalogListing) (filters : Arguments)
    (size : Nat) : Nat → Session σ → List Value → Session σ → Prop
  | last {n : Nat} {s t : Session σ} {answer : Value}
      (hcall : s.call l.method (pageArguments ⟨n, size⟩ filters) = (.ok answer, t))
      (hlast : answer.entry "has_more" = .bool false) : Follows l filters size n s [answer] t
  | more {n : Nat} {s t u : Session σ} {answer : Value} {answers : List Value}
      (hcall : s.call l.method (pageArguments ⟨n, size⟩ filters) = (.ok answer, t))
      (hmore : answer.entry "has_more" = .bool true)
      (hrest : Follows l filters size (n + 1) t answers u) :
      Follows l filters size n s (answer :: answers) u

/-- There is one way only to follow a listing. -/
theorem Session.Follows.unique {σ : Type} [Server σ] {l : CatalogListing} {filters : Arguments}
    {size n : Nat} {s t t' : Session σ} {answers answers' : List Value}
    (h : s.Follows l filters size n answers t) (h' : s.Follows l filters size n answers' t') :
    answers' = answers ∧ t' = t := by
  induction h generalizing answers' t' with
  | last hcall hlast =>
      cases h' with
      | last hcall' _ =>
          cases hcall.symm.trans hcall'
          exact ⟨rfl, rfl⟩
      | more hcall' hmore' _ =>
          cases hcall.symm.trans hcall'
          cases hlast.symm.trans hmore'
  | more hcall hmore _ ih =>
      cases h' with
      | last hcall' hlast' =>
          cases hcall.symm.trans hcall'
          cases hmore.symm.trans hlast'
      | more hcall' _ hrest' =>
          cases hcall.symm.trans hcall'
          obtain ⟨rfl, rfl⟩ := ih hrest'
          exact ⟨rfl, rfl⟩

namespace CatalogListing

variable {σ : Type} [Server σ] {l : CatalogListing} {e : Engine} {c : ConnectionName}
  {filters : Arguments} {table : ResultSet} {steady : σ → Prop}

/-- The pages before a page hold as many rows as they have room for. -/
theorem toNat_offset_succ (n size : Nat) :
    (Page.offset ⟨(n + 1 : Nat), size⟩).toNat = n * size := by
  have hbefore : ((n + 1 : Nat) : Int) - 1 = n := by omega
  rw [Page.offset, hbefore, ← Int.natCast_mul, Int.toNat_natCast]

/-- A page shows the rows that the pages before it left, as many as fit. -/
theorem itemsOf_shown (l : CatalogListing) (table : ResultSet) (n size : Nat) :
    (l.shown table ⟨(n + 1 : Nat), size⟩).itemsOf l.kind =
      ((table.rows.drop (n * size)).take size).map fun row =>
        Record.value (Catalog.displayRow table.columns row) := by
  rw [shown, itemsOf_kind, toNat_offset_succ, List.map_map]
  rfl

/-- More may follow if and only if enough of them are left for a full page. -/
theorem hasMore_shown (l : CatalogListing) (table : ResultSet) (n size : Nat) :
    (l.shown table ⟨(n + 1 : Nat), size⟩).entry "has_more" =
      .bool (decide (size ≤ (table.rows.drop (n * size)).length)) := by
  rw [shown, entry_hasMore, toNat_offset_succ, List.length_map, List.length_take, Page.limit,
    Int.toNat_natCast]
  refine congrArg Value.bool (decide_eq_decide.mpr ?_)
  dsimp only
  omega

/-- From any page on, the rows that are left are shown once and in order. The induction is on the
    number of full pages among them. -/
theorem exists_follows {size : Nat} (hsupported : l.SupportedBy e)
    (hnamed : l.method.signature.bind filters = .ok filters) (hfits : Fits e filters)
    (hserver : l.AnsweredFrom e c filters table steady) (hsize : 1 ≤ size) {fullPages n : Nat}
    (hfull : (table.rows.drop (n * size)).length / size = fullPages) {s : Session σ}
    (hactive : s.context.active? = some (c, e)) (hsteady : steady s.server)
    (hceiling : (size : Int) ≤ s.limits.pageSize) :
    ∃ answers t, s.Follows l filters size (n + 1) answers t ∧ answers.length = fullPages + 1 ∧
      answers.flatMap (Value.itemsOf l.kind) =
        (table.rows.drop (n * size)).map fun row =>
          Record.value (Catalog.displayRow table.columns row) := by
  induction fullPages generalizing n s with
  | zero =>
      -- Fewer rows are left than a page holds, so this page is the last one.
      obtain ⟨t, hcall, -⟩ := call_page hactive hsupported hnamed hfits hserver hsteady
        (p := ⟨(n + 1 : Nat), size⟩) (Int.ofNat_le.mpr n.succ_pos) (Int.ofNat_le.mpr hsize)
        hceiling
      have hfew : (table.rows.drop (n * size)).length < size :=
        (Nat.div_eq_zero_iff_lt hsize).mp hfull
      have hlast := hasMore_shown l table n size
      rw [decide_eq_false (Nat.not_le.mpr hfew)] at hlast
      refine ⟨_, t, .last hcall hlast, rfl, ?_⟩
      rw [List.flatMap_singleton, itemsOf_shown, List.take_of_length_le (Nat.le_of_lt hfew)]
  | succ fullPages ih =>
      -- This page is full, and leaves one full page less to the next one.
      obtain ⟨t, hcall, hcontext, hlimits, hkept⟩ :=
        call_page hactive hsupported hnamed hfits hserver hsteady
          (p := ⟨(n + 1 : Nat), size⟩) (Int.ofNat_le.mpr n.succ_pos) (Int.ofNat_le.mpr hsize)
          hceiling
      have henough : size ≤ (table.rows.drop (n * size)).length := by
        by_contra hfew
        rw [Nat.div_eq_of_lt (Nat.not_le.mp hfew)] at hfull
        cases hfull
      have hmore := hasMore_shown l table n size
      rw [decide_eq_true henough] at hmore
      have hnext : table.rows.drop ((n + 1) * size) = (table.rows.drop (n * size)).drop size := by
        rw [List.drop_drop, Nat.succ_mul]
      have hfewer : (table.rows.drop ((n + 1) * size)).length / size = fullPages := by
        rw [hnext, List.length_drop]
        exact Nat.add_right_cancel ((Nat.div_eq_sub_div hsize henough).symm.trans hfull)
      obtain ⟨answers, u, hfollows, hlength, hitems⟩ :=
        ih hfewer (hcontext ▸ hactive) hkept (hlimits ▸ hceiling)
      refine ⟨_ :: answers, u, .more hcall hmore hfollows, congrArg (· + 1) hlength, ?_⟩
      rw [List.flatMap_cons, hitems, itemsOf_shown, hnext, ← List.map_append,
        List.take_append_drop]

end CatalogListing

/-- Following a listing shows every row. The rows come from a server that answers windows of them,
    in one order, as their text says. With filters that make sense and a size up to the ceiling, a
    client that asks for one page after the other while more may follow comes to an end, and in one
    way only. It makes one call more than there are full pages, and the items of the answers are
    the rows as they are shown, each of them once and in order. With other filters every page is
    refused, and nothing is asked. -/
theorem following_shows_all_rows {σ : Type} [Server σ] {l : CatalogListing} {e : Engine}
    {c : ConnectionName} {filters : Arguments} {table : ResultSet} {steady : σ → Prop}
    {s : Session σ} {size : Nat} (hactive : s.context.active? = some (c, e))
    (hsupported : l.SupportedBy e) (hnamed : l.method.signature.bind filters = .ok filters)
    (hserver : l.AnsweredFrom e c filters table steady) (hsteady : steady s.server)
    (hsize : 1 ≤ size) (hceiling : (size : Int) ≤ s.limits.pageSize) :
    (CatalogListing.Fits e filters →
      ∃ answers t, s.Follows l filters size 1 answers t ∧
        answers.length = table.rows.length / size + 1 ∧
        answers.flatMap (Value.itemsOf l.kind) =
          table.rows.map (fun row => Record.value (Catalog.displayRow table.columns row)) ∧
        ∀ answers' t', s.Follows l filters size 1 answers' t' → answers' = answers ∧ t' = t) ∧
    (¬CatalogListing.Fits e filters → ∀ n : Nat, 1 ≤ n →
      ∃ f t, s.call l.method (pageArguments ⟨n, size⟩ filters) = (.error f, t) ∧
        t.events = s.events) := by
  constructor
  · intro hfits
    obtain ⟨answers, t, hfollows, hlength, hitems⟩ :=
      CatalogListing.exists_follows (n := 0) hsupported hnamed hfits hserver hsize rfl hactive
        hsteady hceiling
    rw [Nat.zero_mul, List.drop_zero] at hlength hitems
    exact ⟨answers, t, hfollows, hlength, hitems, fun _ _ => hfollows.unique⟩
  · intro hfits n hn
    exact CatalogListing.call_page_of_not_fits hactive hsupported hnamed hfits
      (p := ⟨n, size⟩) (Int.ofNat_le.mpr hn) (Int.ofNat_le.mpr hsize) hceiling

/-- A server that answers every window of a table as the engine reads it. -/
def Engine.windowsOf (e : Engine) (table : ResultSet) : FixedServer where
  reply text _ := match e.readWindow? text with
    | some (take, skip) => { result := ⟨table.columns, (table.rows.drop skip).take take⟩ }
    | none => {}

theorem Engine.reply_windowsOf {e : Engine} {text : String} {take skip : Nat}
    (h : e.readWindow? text = some (take, skip)) (table : ResultSet) (args : List Value) :
    (e.windowsOf table).reply text args =
      { result := ⟨table.columns, (table.rows.drop skip).take take⟩ } := by
  simp only [windowsOf, h]

/-- It answers the pages of every listing from the table. -/
theorem CatalogListing.answeredFrom_windowsOf (l : CatalogListing) (e : Engine)
    (c : ConnectionName) (filters : Arguments) (table : ResultSet)
    (hnamed : table.rows ≠ [] → table.columns ≠ []) :
    l.AnsweredFrom e c filters table (· = e.windowsOf table) := by
  refine ⟨hnamed, ?_⟩
  rintro _ rfl w q - take skip hread
  exact ⟨_, _, rfl, Prod.ext (Engine.reply_windowsOf hread table q.args) rfl, rfl⟩

/-- Four functions of an Oracle database, each with the moment in which it was made. -/
def fourFunctions : ResultSet :=
  let first := .timestamp ⟨⟨2024, 3, 9⟩, 7, 5, 0, 250000, none⟩
  let second := .timestamp ⟨⟨2024, 11, 30⟩, 23, 59, 59, 0, none⟩
  { columns := ["OBJECT_NAME", "CREATED"]
    rows := [[.text "AREA", first], [.text "AVERAGE", first], [.text "ROWS_OF", second],
      [.text "TOTAL", second]] }

/-- A session with them. -/
def functionsSession : Session FixedServer where
  context := { engine := some .oracle, connection := some "main" }
  server := Engine.oracle.windowsOf fourFunctions

/-- Two full pages hold them all, and so a third one without items is asked for. A schema that is
    no name is refused. -/
theorem following_shows_all_rows_two_by_two :
    (∃ answers t,
      functionsSession.Follows .functions [("function_type", .text "ALL")] 2 1 answers t ∧
      answers.length = 3 ∧ answers.flatMap (Value.itemsOf "functions") =
        [("AREA", "2024-03-09 07:05:00"), ("AVERAGE", "2024-03-09 07:05:00"),
          ("ROWS_OF", "2024-11-30 23:59:59"), ("TOTAL", "2024-11-30 23:59:59")].map fun f =>
            .map [(.text "OBJECT_NAME", .text f.1), (.text "CREATED", .text f.2)]) ∧
    ∃ f t, functionsSession.call .listFunctions
      (pageArguments ⟨1, 2⟩ [("schema", .text "a b")]) = (.error f, t) ∧ t.events = [] := by
  have hsupported : CatalogListing.functions.SupportedBy .oracle := by
    rintro _ ⟨⟩
    decide
  have hfits : CatalogListing.Fits .oracle [("function_type", .text "ALL")] :=
    ⟨fun h => (nomatch h), fun h => (nomatch h), fun h => (nomatch h),
      fun _ => ⟨"ALL", rfl, by decide +kernel⟩⟩
  have hunfit : ¬CatalogListing.Fits .oracle [("schema", .text "a b")] :=
    fun h => absurd (h.schema rfl) (by decide)
  have hserver (filters : Arguments) :=
    CatalogListing.functions.answeredFrom_windowsOf .oracle "main" filters fourFunctions
      fun _ => by decide
  obtain ⟨hfollows, -⟩ := @following_shows_all_rows _ _ _ _ _ _ _ _ functionsSession 2
    rfl hsupported rfl (hserver [("function_type", .text "ALL")]) rfl (by decide) (by decide)
  obtain ⟨-, hrefused⟩ := @following_shows_all_rows _ _ _ _ _ _ _ _ functionsSession 2
    rfl hsupported rfl (hserver [("schema", .text "a b")]) rfl (by decide) (by decide)
  obtain ⟨answers, t, hall, hlength, hitems, -⟩ := hfollows hfits
  exact ⟨⟨answers, t, hall, hlength, hitems⟩, hrefused hunfit 1 (by decide)⟩

end SqlCatalog
