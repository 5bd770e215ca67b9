import SqlCatalog.Proofs.Query.Catalogue

/-!
# The Search in Lockstep

A search binds one text, and twice where markers have no numbers and sources are looked
into. Between its fixed texts stands a list of type codes. The codes are the engine's own,
none of which holds a quote, so the list is silent whatever types a caller names.

## Theorems

* `silentPiece_typeFilter`: The restriction to types is silent.
* `lockstep_searchObjects`: A search is in lockstep with its term.
-/

namespace SqlCatalog

/-- The codes of object types hold no quote. -/
theorem not_mem_typeCode {e : Engine} {code : String}
    (h : code ∈ e.rules.search.typeCodes.map (·.2)) : '\'' ∉ code.toList := by
  revert code
  cases e <;> decide +kernel

/-- Every code that is selected is one of the engine's. -/
theorem mem_of_mem_typeCodes {known : List (String × String)} {types : List Value}
    {code : String} (h : code ∈ Build.typeCodes known types) : code ∈ known.map (·.2) := by
  refine List.foldlRecOn (motive := fun codes => ∀ c ∈ codes, c ∈ known.map (·.2)) types _
    (fun c hc => absurd hc List.not_mem_nil) ?_ code h
  -- A type adds its own code or none.
  intro codes hcodes t ht
  split
  · rename_i found hlookup
    have hknown := List.mem_map_of_mem (f := (·.2)) (mem_of_lookup hlookup)
    split
    · exact hcodes
    · intro c hc
      rcases List.mem_append.mp hc with hc | hc
      · exact hcodes c hc
      · exact List.mem_singleton.mp hc ▸ hknown
  · exact hcodes

theorem silent_typeColumn (e : Engine) :
    e.silent none e.rules.search.typeColumn.toList = true := by
  cases e <;> decide +kernel

/-- A list of quoted codes is silent, by induction on the codes. -/
theorem silent_quotedCodes {e : Engine} {codes : List String}
    (h : ∀ code ∈ codes, '\'' ∉ code.toList) :
    e.silent none (", ".intercalate (codes.map fun code => "'" ++ code ++ "'")).toList = true := by
  have hquoted : ∀ code ∈ codes, e.silent none ("'" ++ code ++ "'").toList = true := by
    intro code hcode
    rw [String.toList_append, String.toList_append]
    exact Engine.silent_literal (h code hcode)
  induction codes with
  | nil => rfl
  | cons code rest ih =>
      obtain ⟨hcode, hrest⟩ := List.forall_mem_cons.mp hquoted
      have hlater := ih (fun c hc => h c (List.mem_cons_of_mem code hc)) hrest
      cases rest with
      | nil =>
          rw [List.map_singleton, String.intercalate_singleton]
          exact hcode
      | cons next more =>
          rw [List.map_cons, List.map_cons, String.intercalate_cons_cons, String.toList_append,
            String.toList_append]
          exact Engine.silent_append (Engine.silent_append hcode
            (silent_clauseWords e ", " (by simp))) hlater

/-- The restriction of a search to types is silent. -/
theorem silentPiece_typeFilter {e : Engine} {codes : List String}
    (h : ∀ code ∈ codes, '\'' ∉ code.toList) :
    ∀ p ∈ Build.typeFilter e.rules.search.typeColumn codes, e.silentPiece p = true := by
  unfold Build.typeFilter
  split
  · exact fun p hp => absurd hp List.not_mem_nil
  · rw [List.forall_mem_singleton, Engine.silentPiece]
    have hword := silent_clauseWords e
    simp only [String.toList_append]
    exact Engine.silent_append (Engine.silent_append (Engine.silent_append
      (Engine.silent_append (hword _ (by simp)) (silent_typeColumn e)) (hword _ (by simp)))
      (silent_quotedCodes h)) (hword _ (by simp))

/-- The codes that a search is restricted to are the engine's own. -/
theorem mem_typeCodes_of_search {e : Engine} {types : List Value} {code : String}
    (h : code ∈ (if (Build.typeCodes e.rules.search.typeCodes types).isEmpty
        && e.rules.search.allTypesByDefault then e.rules.search.typeCodes.map (·.2)
      else Build.typeCodes e.rules.search.typeCodes types)) :
    code ∈ e.rules.search.typeCodes.map (·.2) := by
  split at h
  · exact h
  · exact mem_of_mem_typeCodes h

/-- A search whose restriction to types is silent has its markers where they fit. -/
theorem placed_search {e : Engine} {inCode : Bool} {types : List Piece}
    (htypes : ∀ p ∈ types, e.silentPiece p = true)
    (hends : Engine.endsNumber types = true) :
    Placed e (PlaceOf (e.searchOrigins inCode) (Origin.Compared e .searchObjects)) 1
      (e.rules.server.search.fill (e.searchContent inCode types)) (e.searchIndices inCode) := by
  obtain ⟨left, right, found, more, hfill, hindices, hleft, hright⟩ := keyed_search e inCode
  have hlooks := looksBack_compared e .searchObjects (e.searchOrigins inCode)
  rw [hfill, hindices]
  exact Placed.append hlooks hleft.placed (Placed.silent_append hlooks htypes hright.placed)
    (Engine.endsNumber_append hends hright.endsNumber)

theorem endsNumber_typeFilter (column : String) (codes : List String) :
    Engine.endsNumber (Build.typeFilter column codes) = true := by
  unfold Build.typeFilter
  split
  · rfl
  · rw [Engine.endsNumber]
    simp only [String.toList_append]
    rfl

/-- As many arguments as a search without numbers has markers, and one where it has. -/
theorem lockstep_search {e : Engine} {given : Arguments} (inCode : Bool) {types : List Piece}
    {bound : Value} (hbound : Origin.value e given .term = .ok bound)
    (htypes : ∀ p ∈ types, e.silentPiece p = true)
    (hends : Engine.endsNumber types = true) :
    InLockstep e .searchObjects given ⟨.searchObjects,
      e.rules.server.search.fill (e.searchContent inCode types),
      if !(e.codeSearch inCode).isEmpty && e.rules.markers = .question then [bound, bound]
      else [bound]⟩ := by
  refine ⟨e.searchOrigins inCode, Lockstep.of_indices ?_ (placed_search htypes hends) ?_ ?_⟩
  · unfold Engine.searchOrigins
    split
    · simp only [List.map_cons, List.map_nil, hbound]
    · simp only [List.map_cons, List.map_nil, hbound]
  · -- Without numbers the term is bound once for each marker.
    intro hquestion
    unfold Engine.searchIndices
    cases (e.codeSearch inCode).isEmpty with
    | true => simp
    | false => simp [hquestion]
  · -- With numbers both markers ask for the one argument.
    intro hquestion
    unfold Engine.searchIndices
    cases (e.codeSearch inCode).isEmpty with
    | true => rfl
    | false =>
        simp only [hquestion, Bool.not_false, Bool.true_and, decide_false, Bool.false_eq_true,
          if_false]
        rfl

/-- A search is in lockstep with its term. -/
theorem lockstep_searchObjects {e : Engine} {given : Arguments} {q : Query}
    {inCode types : Value}
    (h : Build.searchObjects e (given.valueOr "search_term" (.text "")) inCode types
      = .ok (some q)) :
    InLockstep e .searchObjects given q := by
  unfold Build.searchObjects at h
  dsimp only at h
  cases hterm : (given.valueOr "search_term" (.text "")).isTruthy with
  | false =>
      rw [hterm] at h
      exact absurd h (by simp [refuse, bind, Except.bind])
  | true =>
      rw [hterm] at h
      have h := (supported_of_some h).2
      obtain ⟨named, -, h⟩ := ok_of_bind h
      obtain ⟨bound, hbound, h⟩ := ok_of_bind h
      rw [eq_of_query h]
      exact lockstep_search inCode.isTruthy hbound
        (silentPiece_typeFilter fun _ hcode => not_mem_typeCode (mem_typeCodes_of_search hcode))
        (endsNumber_typeFilter _ _)

end SqlCatalog
