import SqlCatalog.Proofs.Query.Catalogue

/-!
# Listings in Lockstep

A listing is its base, the fragments of the filters that are present, and a window. The
base, the order and the window are silent, so the only markers are those of the filters,
and these are numbered by the values that are bound. A filter that is absent leaves out its
fragment and its value alike, and everything behind it moves up by one.

The numbers of the window are written into the text. They are checked before, so what is
written are letters and digits.

## Main definitions

* `Fills`: A filter whose fragment compares what is bound for its parameter.

## Theorems

* `silentPiece_window`, `silentPiece_clause`: A window is silent.
* `keyed_applyFilters`: The filters that are present keep the rules of templates.
* `lockstep_listing`: A listing is in lockstep with the filters that are present.
* `lockstep_listTables` and the like: So are the listings of every kind of object.
-/

namespace SqlCatalog

/-- A number that is not negative is written in letters and digits, and so is a truth
    value that counts as one. -/
theorem isAlphanum_plain {v : Value} {n : Int} (h : v.whole? = some n) (hn : 0 ≤ n) :
    ∀ c ∈ v.plain.toList, c.isAlphanum = true := by
  cases v with
  | int m =>
      rw [Value.whole?, Option.some.injEq] at h
      obtain ⟨k, rfl⟩ : ∃ k : Nat, m = k := ⟨m.toNat, by omega⟩
      have hdigits : (Value.int k).plain.toList = Nat.toDigits 10 k := Nat.toList_repr
      intro c hc
      rw [hdigits] at hc
      have hdigit := Nat.isDigit_of_mem_toDigits (by decide) (by decide) hc
      rw [Char.isAlphanum, hdigit, Bool.or_true]
  | bool b =>
      have hletters : (Value.bool b).plain.toList.all Char.isAlphanum = true := by
        cases b <;> decide +kernel
      exact List.all_eq_true.mp hletters
  | _ => exact absurd h (by simp [Value.whole?])

section Window

variable {e : Engine} {limit offset : String} {order : List Piece}

theorem silent_neutralOrder {e : Engine} {neutral : String}
    (h : e.rules.window = .fetch neutral) : e.silent none neutral.toList = true := by
  cases e with
  | sqlServer => rw [← WindowStyle.fetch.inj h]; decide +kernel
  | oracle => rw [← WindowStyle.fetch.inj h]; decide +kernel
  | _ => exact absurd h (by simp [Engine.rules, Postgres.rules, MySql.rules, Sqlite.rules])

/-- A window cut out by numbers is silent when its order is. -/
theorem silentPiece_window (hlimit : ∀ c ∈ limit.toList, c.isAlphanum = true)
    (hoffset : ∀ c ∈ offset.toList, c.isAlphanum = true)
    (horder : ∀ p ∈ order, e.silentPiece p = true) :
    ∀ p ∈ e.window limit offset order, e.silentPiece p = true := by
  have hl := Engine.silent_of_neutral fun c hc => e.neutral_of_isAlphanum (hlimit c hc)
  have ho := Engine.silent_of_neutral fun c hc => e.neutral_of_isAlphanum (hoffset c hc)
  have hword := silent_clauseWords e
  unfold Engine.window
  cases hwindow : e.rules.window with
  | limit =>
      have hclause : e.silentPiece (.sql ("LIMIT " ++ limit ++ " OFFSET " ++ offset)) = true := by
        simp only [Engine.silentPiece, String.toList_append]
        exact Engine.silent_append (Engine.silent_append
          (Engine.silent_append (hword _ (by simp)) hl) (hword _ (by simp))) ho
      -- Without an order the window is the clause alone.
      simp only
      split
      · exact List.forall_mem_singleton.mpr hclause
      · exact List.forall_mem_cons.mpr ⟨hword "ORDER BY " (by simp),
          List.forall_mem_append.mpr ⟨horder, List.forall_mem_cons.mpr
            ⟨hword " " (by simp), List.forall_mem_singleton.mpr hclause⟩⟩⟩
  | fetch neutral =>
      have hclause : e.silentPiece
          (.sql (" OFFSET " ++ offset ++ " ROWS FETCH NEXT " ++ limit ++ " ROWS ONLY")) = true := by
        simp only [Engine.silentPiece, String.toList_append]
        exact Engine.silent_append (Engine.silent_append (Engine.silent_append
          (Engine.silent_append (hword _ (by simp)) ho) (hword _ (by simp))) hl)
          (hword _ (by simp))
      -- Rows cannot be skipped without an order, so a neutral one stands in.
      have hordered : ∀ p ∈ if order.isEmpty then [.sql neutral] else order,
          e.silentPiece p = true := by
        split
        · exact List.forall_mem_singleton.mpr (silent_neutralOrder hwindow)
        · exact horder
      exact List.forall_mem_cons.mpr ⟨hword "ORDER BY " (by simp),
        List.forall_mem_append.mpr ⟨hordered, List.forall_mem_singleton.mpr hclause⟩⟩

/-- A window that passes its check is cut out by numbers. -/
theorem whole_of_check {w : Window} (h : w.check = .ok ()) :
    ∃ n m, w.limit.whole? = some n ∧ 0 ≤ n ∧ w.offset.whole? = some m ∧ 0 ≤ m := by
  unfold Window.check at h
  cases hlimit : w.limit.whole? with
  | none => exact absurd h (by simp [hlimit, refuse, bind, Except.bind])
  | some n =>
      by_cases hn : n ≤ 0
      · exact absurd h (by simp [hlimit, hn, refuse, bind, Except.bind])
      · cases hoffset : w.offset.whole? with
        | none => exact absurd h (by simp [hlimit, hn, hoffset, refuse])
        | some m =>
            by_cases hm : m < 0
            · exact absurd h (by simp [hlimit, hn, hoffset, hm, refuse])
            · exact ⟨n, m, rfl, by omega, rfl, by omega⟩

/-- So it is for the window of a query, whose numbers are checked before. -/
theorem silentPiece_clause {w : Window} (hcheck : w.check = .ok ())
    (horder : ∀ p ∈ order, e.silentPiece p = true) :
    ∀ p ∈ w.clause e order, e.silentPiece p = true := by
  obtain ⟨n, m, hlimit, hn, hoffset, hm⟩ := whole_of_check hcheck
  exact silentPiece_window (isAlphanum_plain hlimit hn) (isAlphanum_plain hoffset hm) horder

end Window

section Listing

variable {e : Engine} {op : Operation} {given : Arguments}

/-- A filter is one comparison with a column that its value is about, and its value, when it
    is present, is what is bound for the parameter that it comes from. -/
def Fills (e : Engine) (op : Operation) (given : Arguments) (o : Origin) (f : Build.Filter) :
    Prop :=
  IsFragment e op o f.fragment ∧ (f.value.isTruthy = true → Origin.value e given o = .ok f.value)

/-- Filters that are present are written with the next markers and bind the next values, by
    induction on the filters; before them are the values that are bound already. -/
theorem keyed_applyFilters {filters : List (Origin × Build.Filter)}
    (hfilters : ∀ f ∈ filters, Fills e op given f.1 f.2)
    (origins : List Origin) (bound : List Value)
    (hbound : origins.map (Origin.value e given) = bound.map .ok) :
    ∃ more : List Origin,
      (origins ++ more).map (Origin.value e given)
        = (Build.applyFilters bound (filters.map (·.2))).2.map .ok
      ∧ Keyed e op (origins ++ more) true (bound.length + 1)
          (Build.applyFilters bound (filters.map (·.2))).1
          (List.range' (bound.length + 1) more.length) := by
  have hlength : origins.length = bound.length := by
    rw [← List.length_map (Origin.value e given), hbound, List.length_map]
  induction filters generalizing origins bound with
  | nil => exact ⟨[], by rw [List.append_nil]; exact hbound, .nil⟩
  | cons f rest ih =>
      obtain ⟨hf, hrest⟩ := List.forall_mem_cons.mp hfilters
      rw [List.map_cons]
      unfold Build.applyFilters
      split
      · -- The filter is absent, so the next one asks for the same argument.
        exact ih hrest origins bound hbound hlength
      · rename_i hpresent
        rw [Bool.or_eq_true, not_or, Bool.not_eq_true', Bool.not_eq_false] at hpresent
        rcases hf.1 with hempty | ⟨text, hfragment, htext⟩
        · rw [hempty] at hpresent
          exact absurd rfl hpresent.1
        · have hbound' : (origins ++ [f.1]).map (Origin.value e given)
              = (bound ++ [f.2.value]).map .ok := by
            rw [List.map_append, List.map_append, hbound, List.map_singleton,
              hf.2 hpresent.2, List.map_singleton]
          obtain ⟨more, hmore, hkeyed⟩ := ih hrest (origins ++ [f.1]) (bound ++ [f.2.value])
            hbound' (by rw [List.length_append, List.length_append, hlength]; rfl)
          rw [List.append_assoc, List.singleton_append] at hmore hkeyed
          rw [List.length_append, List.length_singleton] at hkeyed
          have horigin : (origins ++ f.1 :: more)[bound.length + 1 - 1]? = some f.1 := by
            rw [Nat.add_sub_cancel, ← hlength, List.getElem?_append_right (Nat.le_refl _),
              Nat.sub_self]
            rfl
          refine ⟨f.1 :: more, hmore, ?_⟩
          rw [hfragment, List.length_cons, List.range'_succ]
          exact .marker horigin htext (e.asks_next bound.length) hkeyed

/-- A blank ends the number of a marker. -/
theorem endsNumber_blank (ps : List Piece) : Engine.endsNumber (.sql " " :: ps) = true := by
  rw [Engine.endsNumber]
  decide

/-- A listing is in lockstep with the filters that are present. -/
theorem lockstep_listing {base after : Template} {order : String} {w : Window} {q : Query}
    {filters : List (Origin × Build.Filter)} (hbase : ∀ p ∈ base, e.silentPiece p = true)
    (hfilters : ∀ f ∈ filters, Fills e op given f.1 f.2)
    (hafter : Keyed e op [] true 1 after []) (horder : Keyed e op [] false 1 [.sql order] [])
    (h : Build.listing e op base (filters.map (·.2)) after order w = .ok (some q)) :
    InLockstep e op given q := by
  obtain ⟨_, hcheck, h⟩ := ok_of_bind h
  obtain ⟨origins, hbound, hkeyed⟩ := keyed_applyFilters hfilters [] [] rfl
  have hlooks := looksBack_compared e op origins
  rw [List.nil_append] at hbound hkeyed
  have hlength : origins.length = (Build.applyFilters [] (filters.map (·.2))).2.length := by
    rw [← List.length_map (Origin.value e given), hbound, List.length_map]
  -- Everything behind the filters is silent and begins with no digit.
  have htail : ∀ p ∈ after ++ .sql " " :: w.clause e [.sql order], e.silentPiece p = true := by
    have hblank : e.silentPiece (.sql " ") = true := silent_clauseWords e " " (by simp)
    exact List.forall_mem_append.mpr ⟨hafter.silent, List.forall_mem_cons.mpr
      ⟨hblank, silentPiece_clause hcheck horder.silent⟩⟩
  have hends : Engine.endsNumber (after ++ .sql " " :: w.clause e [.sql order]) = true :=
    Engine.endsNumber_append hafter.endsNumber (endsNumber_blank _)
  have hplaced := Placed.silent_append hlooks hbase
    (Placed.append hlooks hkeyed.placed (Placed.of_silent hlooks htail) hends)
  rw [List.append_nil, List.length_nil, Nat.zero_add, hlength] at hplaced
  rw [eq_of_query h]
  refine ⟨origins, ?_⟩
  have hsame := Lockstep.of_placed hbound hplaced
  rw [← List.append_assoc, ← List.append_assoc] at hsame
  exact hsame

/-- A listing by schema and by a part of the name is in lockstep. -/
theorem lockstep_schemaListing {base : Template} {schemaFilter nameFilter : Template}
    {order : String} {w : Window} {q : Query} (hbase : ∀ p ∈ base, e.silentPiece p = true)
    (hschema : IsFragment e op .schema schemaFilter)
    (hname : IsFragment e op .pattern nameFilter)
    (horder : Keyed e op [] false 1 [.sql order] [])
    (h : (do
      let schema ← Build.schemaValue e (given.valueOr "schema" (.text ""))
      let pattern ← Build.containsPattern e (given.valueOr "name_filter" (.text ""))
      Build.listing e op base [⟨schemaFilter, schema⟩, ⟨nameFilter, pattern⟩] [] order w)
        = .ok (some q)) :
    InLockstep e op given q := by
  obtain ⟨schema, hs, h⟩ := ok_of_bind h
  obtain ⟨pattern, hp, h⟩ := ok_of_bind h
  have hfilters : ∀ f ∈ [(Origin.schema, Build.Filter.mk schemaFilter schema),
      (.pattern, ⟨nameFilter, pattern⟩)], Fills e op given f.1 f.2 := by
    simp only [List.forall_mem_cons]
    exact ⟨⟨hschema, fun _ => hs⟩, ⟨hname, fun _ => hp⟩, fun f hf => absurd hf List.not_mem_nil⟩
  exact lockstep_listing hbase hfilters .nil horder h

/-- What the filters of a listing by schema and name are. -/
theorem fragments_of_schemaListing (e : Engine) (op : Operation) {t : ListingTexts}
    {schemaFilter nameFilter : Template} (ht : e.listingTexts op = t)
    (h : t.filters = [(.schema, schemaFilter), (.pattern, nameFilter)]) :
    IsFragment e op .schema schemaFilter ∧ IsFragment e op .pattern nameFilter := by
  have hfilters := isFragment_listing_filters e op
  rw [ht, h] at hfilters
  exact ⟨hfilters _ List.mem_cons_self, hfilters _ (List.mem_cons_of_mem _ List.mem_cons_self)⟩

variable {w : Window} {q : Query}

theorem lockstep_listTables (h : Build.listTables e (given.valueOr "schema" (.text ""))
    (given.valueOr "name_filter" (.text "")) w = .ok (some q)) :
    InLockstep e .listTables given q := by
  have hfragments := fragments_of_schemaListing e .listTables rfl rfl
  exact lockstep_schemaListing (keyed_listing_base e .listTables).silent hfragments.1 hfragments.2
    (keyed_listing_order e .listTables) h

theorem lockstep_listProcedures (h : Build.listProcedures e (given.valueOr "schema" (.text ""))
    (given.valueOr "name_filter" (.text "")) w = .ok (some q)) :
    InLockstep e .listProcedures given q := by
  have hfragments := fragments_of_schemaListing e .listProcedures rfl rfl
  exact lockstep_schemaListing (keyed_listing_base e .listProcedures).silent hfragments.1
    hfragments.2 (keyed_listing_order e .listProcedures) (supported_of_some h).2

theorem lockstep_listViews (h : Build.listViews e (given.valueOr "schema" (.text ""))
    (given.valueOr "name_filter" (.text "")) w = .ok (some q)) :
    InLockstep e .listViews given q := by
  have hfragments := fragments_of_schemaListing e .listViews rfl rfl
  exact lockstep_schemaListing (keyed_listing_base e .listViews).silent hfragments.1 hfragments.2
    (keyed_listing_order e .listViews) (supported_of_some h).2

/-- The restriction of a listing of functions to one kind belongs to what stands before the
    filters. -/
theorem lockstep_listFunctions {functionType : Value}
    (h : Build.listFunctions e (given.valueOr "schema" (.text ""))
      (given.valueOr "name_filter" (.text "")) functionType w = .ok (some q)) :
    InLockstep e .listFunctions given q := by
  obtain ⟨kind, -, h⟩ := ok_of_bind h
  have hfragments := fragments_of_schemaListing e .listFunctions rfl rfl
  have hbase := List.forall_mem_append.mpr
    ⟨(keyed_listing_base e .listFunctions).silent, (keyed_functionFilter e kind).silent⟩
  exact lockstep_schemaListing hbase hfragments.1 hfragments.2
    (keyed_listing_order e .listFunctions) (supported_of_some h).2

/-- A listing of triggers is in lockstep; their table is a filter between the schema and the
    name. -/
theorem lockstep_triggerListing {table : Value} {after : Template}
    (hafter : Keyed e .listTriggers [] true 1 after [])
    (htable : table.isTruthy = true → Origin.value e given .table = .ok table)
    (h : (do
      let schema ← Build.schemaValue e (given.valueOr "schema" (.text ""))
      let pattern ← Build.containsPattern e (given.valueOr "name_filter" (.text ""))
      Build.listing e .listTriggers e.rules.triggers.listing
        [⟨e.rules.triggers.schemaFilter, schema⟩, ⟨e.rules.triggers.tableFilter, table⟩,
          ⟨e.rules.triggers.nameFilter, pattern⟩] after e.rules.triggers.order w)
        = .ok (some q)) :
    InLockstep e .listTriggers given q := by
  obtain ⟨schema, hs, h⟩ := ok_of_bind h
  obtain ⟨pattern, hp, h⟩ := ok_of_bind h
  have hfragments := isFragment_listing_filters e .listTriggers
  simp only [Engine.listingTexts, List.forall_mem_cons] at hfragments
  have hfilters : ∀ f ∈ [(Origin.schema, Build.Filter.mk e.rules.triggers.schemaFilter schema),
      (.table, ⟨e.rules.triggers.tableFilter, table⟩),
      (.pattern, ⟨e.rules.triggers.nameFilter, pattern⟩)],
      Fills e .listTriggers given f.1 f.2 := by
    simp only [List.forall_mem_cons]
    exact ⟨⟨hfragments.1, fun _ => hs⟩, ⟨hfragments.2.1, htable⟩,
      ⟨hfragments.2.2.1, fun _ => hp⟩, fun f hf => absurd hf List.not_mem_nil⟩
  exact lockstep_listing (keyed_listing_base e .listTriggers).silent hfilters hafter
    (keyed_listing_order e .listTriggers) h

theorem lockstep_listTriggers {includeDisabled : Value}
    (h : Build.listTriggers e (given.valueOr "schema" (.text ""))
      (given.valueOr "table" (.text "")) (given.valueOr "name_filter" (.text ""))
      includeDisabled w = .ok (some q)) :
    InLockstep e .listTriggers given q := by
  have h := (supported_of_some h).2
  have hafter : Keyed e .listTriggers [] true 1
      (if includeDisabled.isTruthy then [] else e.rules.triggers.enabledOnly) [] := by
    split
    · exact .nil
    · exact keyed_enabledOnly e
  dsimp only at h
  split at h
  · obtain ⟨table, ht, h⟩ := ok_of_bind h
    refine lockstep_triggerListing hafter (fun _ => ?_) h
    obtain ⟨name, hname, rfl⟩ := map_eq_ok_iff.mp ht
    rw [← foldValue_text, ← (Identifier.isName_of_require hname).1]
    rfl
  · -- A table that is absent is bound to nothing, and its filter is left out.
    exact lockstep_triggerListing hafter (fun hempty => absurd hempty (by decide)) h

end Listing

end SqlCatalog
