import Mathlib.Data.List.Induction
import SqlCatalog.Proofs.Session.Cursors

/-!
# Who Closes a Connection

Whoever hands a connection to a session gives it away: the session closes it when it is done
with it. It is done with a connection when another one takes its place or when the session is
disconnected, and at no other time. A connection that is handed in again while it is active
stays open, a failure to close is not tried again, and a datasource whose engine is not known
is not taken over at all, so neither the connection that comes with it nor the active one is
touched.

The step lemma says just that: a step closes a connection once if it gives the connection up,
and else not. What follows for histories depends on the caller, who may hand in a connection
that was closed already. As long as nobody does, every connection that was taken over has been
closed once, except for the active one, which has not.

## Main definitions

* `Step.takes?`, `Step.leaves`: The connection that a step takes over, and the one that is
  active after it.
* `takenOver`: The connections that a session takes over in the course of a history.
* `Session.NoReturn`: No connection is handed in again after it was given up.
* `closings`: How often a connection was closed.
* `Session.Owns`: What a session has done with the connections that it took over.

## Theorems

* `Session.connection_take`: The active connection after a step.
* `Session.closings_take`: A step closes the connection that it gives up, and no other.
* `Session.Owns.take`, `Session.Owns.after`: A session owns what it took over, after a step and
  after a history.
* `closed_once_given_up`: A connection is closed once, when it is given up.
-/

namespace SqlCatalog

/-- The connection that a step takes over. An engine that is not known takes none. -/
def Step.takes? : Step → Option ConnectionName
  | .configure driver connection _ =>
    match Engine.parse driver with
    | .ok _ => connection
    | .error _ => none
  | _ => none

/-- The active connection after a step, given the one before. -/
def Step.leaves (active : Option ConnectionName) : Step → Option ConnectionName
  | .configure driver connection _ =>
    match Engine.parse driver with
    | .ok _ => connection
    | .error _ => active
  | .disconnect => none
  | _ => active

/-- The connections that are taken over in the course of a history. -/
def takenOver (history : List Step) : List ConnectionName :=
  history.filterMap Step.takes?

/-- Whether an event is the closing of a connection. -/
def Event.closes (e : Event) (c : ConnectionName) : Bool :=
  match e.action with
  | .close => e.connection == c
  | _ => false

/-- How often a connection was closed. -/
def closings (c : ConnectionName) (events : List Event) : Nat :=
  events.countP (·.closes c)

namespace Session

/-- No connection is handed in again after it was given up: if a step of the history takes over
    a connection that was taken over before, then that connection is the active one. -/
def NoReturn (s : Session Script) (history : List Step) : Prop :=
  ∀ i, (h : i < history.length) → ∀ c ∈ history[i].takes?,
    c ∈ takenOver (history.take i) → (s.after (history.take i)).context.connection = some c

instance (s : Session Script) (history : List Step) : Decidable (s.NoReturn history) :=
  inferInstanceAs (Decidable (∀ i, (h : i < history.length) → ∀ c ∈ history[i].takes?,
    c ∈ takenOver (history.take i) → (s.after (history.take i)).context.connection = some c))

/-! ### One step -/

/-- The active connection after a step. -/
theorem connection_take (s : Session Script) (step : Step) :
    (s.take step).2.context.connection = step.leaves s.context.connection := by
  cases step with
  | configure driver connection schema =>
      dsimp only [take, Step.leaves]
      rcases hparse : Engine.parse driver with f | e
      · rw [configure_of_error hparse]
      · rw [context_configure_of_ok hparse]
  | disconnect =>
      dsimp only [take, Step.leaves]
      rw [context_disconnect]
  | call m args =>
      dsimp only [take, Step.leaves]
      exact (s.learns_call m args).connection
  | rememberSchema | limit | requireConnection | prepare | failClosing => rfl

/-- No step makes the engine and the builder differ. -/
theorem builder_take (s : Session Script) (step : Step)
    (h : s.context.builder = s.context.engine) :
    (s.take step).2.context.builder = (s.take step).2.context.engine := by
  cases step with
  | configure driver connection schema =>
      dsimp only [take]
      rcases hparse : Engine.parse driver with f | e
      · rw [configure_of_error hparse]
        exact h
      · rw [context_configure_of_ok hparse]
  | disconnect =>
      dsimp only [take]
      rw [context_disconnect]
  | call m args =>
      have hlearns := s.learns_call m args
      exact hlearns.builder.trans (h.trans hlearns.engine.symm)
  | rememberSchema | limit | requireConnection | prepare | failClosing => exact h

end Session

/-- A cursor is used without the connection being closed. -/
theorem CursorUse.not_closes {c : ConnectionName} {use : List Attempt} (h : CursorUse c use)
    (d : ConnectionName) : ∀ a ∈ use, a.closes d = false := by
  cases h <;> simp [Event.closes]

theorem closings_append (c : ConnectionName) (events more : List Event) :
    closings c (events ++ more) = closings c events + closings c more :=
  List.countP_append

namespace Session

/-- A call closes no connection. -/
theorem closings_cursorUses (s : Session Script) (m : Reader.Method) (args : Arguments)
    (c : ConnectionName) : closings c ((s.cursorUses m args).flatten.map Attempt.toEvent) = 0 := by
  rw [closings, List.countP_eq_zero]
  intro event hevent
  obtain ⟨a, ha, rfl⟩ := List.mem_map.mp hevent
  obtain ⟨use, huse, hause⟩ := List.mem_flatten.mp ha
  obtain ⟨d, -, -, hshape⟩ := s.cursorUse_of_call m args use huse
  rw [hshape.not_closes c a hause]
  decide

theorem closings_closing (s : Session Script) (c d : ConnectionName) :
    closings c [(s.closing d).toEvent] = if d = c then 1 else 0 := by
  simp [closings, closing, Event.closes, List.countP_cons]

/-- A step closes the connection that it gives up, once, and no other. -/
theorem closings_take (s : Session Script) (step : Step) (c : ConnectionName) :
    closings c (s.take step).2.events = closings c s.events +
      if s.context.connection = some c ∧ step.leaves s.context.connection ≠ some c then 1
      else 0 := by
  rw [events_take, closings_append]
  congr 1
  -- What the step leaves is a name of its own, so that the condition is not taken apart with
  -- the step.
  generalize hleft : step.leaves s.context.connection = left
  cases step with
  | configure driver connection schema =>
      dsimp only [Step.leaves, attempts] at hleft ⊢
      rcases hparse : Engine.parse driver with f | e
      · simp only [hparse] at hleft
        simp [← hleft, closings]
      · simp only [hparse] at hleft
        subst hleft
        rcases s.context.connection with _ | d
        · simp [closings]
        · by_cases hkept : connection = some d
          · simp [hkept, closings]
          · simp only [if_neg hkept, List.map_cons, List.map_nil, closings_closing]
            by_cases hd : d = c
            · simp [← hd, hkept]
            · simp [hd]
  | disconnect =>
      dsimp only [Step.leaves] at hleft
      rw [← hleft]
      dsimp only [attempts]
      rcases s.context.connection with _ | d
      · simp [closings]
      · simp [closings_closing]
  | call m args =>
      dsimp only [Step.leaves] at hleft
      rw [← hleft]
      dsimp only [attempts]
      rw [closings_cursorUses]
      simp
  | rememberSchema | limit | requireConnection | prepare | failClosing =>
      dsimp only [Step.leaves] at hleft
      rw [← hleft]
      dsimp only [attempts]
      simp [closings]

/-- An engine that is not known is an error that names it, and the session stays as it is. -/
theorem configure_of_unknown {driver : Value} (h : ∀ e, Engine.parse driver ≠ .ok e)
    (s : Session Script) (connection : Option ConnectionName) (schema : Option String) :
    s.configure driver connection schema =
      (.error (.error (.configuration (.unknownDriver driver))), s) := by
  have hparse : Engine.parse driver = .error (.error (.configuration (.unknownDriver driver))) := by
    unfold Engine.parse at h ⊢
    dsimp only at h ⊢
    split
    · rename_i e hfound
      rw [hfound] at h
      exact absurd rfl (h e)
    · rfl
  exact configure_of_error hparse s connection schema

end Session

/-! ### The connections of a history -/

/-- A step that takes over a connection leaves it as the active one. -/
theorem Step.leaves_of_takes {step : Step} {c : ConnectionName} (h : step.takes? = some c)
    (active : Option ConnectionName) : step.leaves active = some c := by
  cases step with
  | configure driver connection schema =>
      dsimp only [takes?, leaves] at h ⊢
      rcases hparse : Engine.parse driver with f | e
      · rw [hparse] at h
        exact absurd h (by simp)
      · rw [hparse] at h
        exact h
  | disconnect | rememberSchema | call | limit | requireConnection | prepare | failClosing =>
      dsimp only [takes?] at h
      exact absurd h (by simp)

/-- A connection that a step leaves active was taken over by it, or was active before. -/
theorem Step.takes_or_active_of_leaves {step : Step} {active : Option ConnectionName}
    {c : ConnectionName} (h : step.leaves active = some c) :
    step.takes? = some c ∨ active = some c := by
  cases step with
  | configure driver connection schema =>
      dsimp only [takes?, leaves] at h ⊢
      rcases hparse : Engine.parse driver with f | e
      · rw [hparse] at h
        exact Or.inr h
      · rw [hparse] at h
        exact Or.inl h
  | disconnect =>
      dsimp only [leaves] at h
      exact absurd h (by simp)
  | rememberSchema | call | limit | requireConnection | prepare | failClosing => exact Or.inr h

namespace Session

/-- What a session has done with the connections that it took over so far. -/
structure Owns (s : Session Script) (taken : List ConnectionName) : Prop where
  builder : s.context.builder = s.context.engine
  active : ∀ c, s.context.connection = some c → c ∈ taken ∧ closings c s.events = 0
  givenUp : ∀ c ∈ taken, s.context.connection ≠ some c → closings c s.events = 1
  strange : ∀ c, c ∉ taken → closings c s.events = 0

theorem Owns.fresh (override : String) (limits : Limits) (server : Script) :
    Owns (fresh override limits server) [] where
  builder := rfl
  active c h := absurd h (by simp [Session.fresh])
  givenUp c h := absurd h List.not_mem_nil
  strange c _ := rfl

/-- A step keeps what is said about the connections, as long as it does not take over one that
    was given up. -/
theorem Owns.take {s : Session Script} {taken : List ConnectionName} (h : s.Owns taken)
    {step : Step}
    (hstep : ∀ c ∈ step.takes?, c ∈ taken → s.context.connection = some c) :
    (s.take step).2.Owns (taken ++ step.takes?.toList) := by
  have hclosed (c : ConnectionName) := s.closings_take step c
  refine ⟨s.builder_take step h.builder, ?_, ?_, ?_⟩
  · -- The connection that is active now was active before, or was never seen.
    intro c hactive
    rw [s.connection_take] at hactive
    rw [hclosed, if_neg fun hgone => hgone.2 hactive]
    by_cases hbefore : s.context.connection = some c
    · obtain ⟨hmem, hzero⟩ := h.active c hbefore
      exact ⟨List.mem_append_left _ hmem, hzero⟩
    · have htakes := (Step.takes_or_active_of_leaves hactive).resolve_right hbefore
      have hnew : c ∉ taken := fun hmem => hbefore (hstep c htakes hmem)
      exact ⟨List.mem_append_right _ (by simp [htakes]), h.strange c hnew⟩
  · -- One that is not active now was given up by this step or before it, since what the step
    -- takes over is active.
    intro c hmem hgone
    rw [s.connection_take] at hgone
    have htaken : c ∈ taken := by
      rcases List.mem_append.mp hmem with htaken | hnow
      · exact htaken
      · exact absurd (Step.leaves_of_takes (Option.mem_toList.mp hnow) _) hgone
    rw [hclosed]
    by_cases hbefore : s.context.connection = some c
    · rw [(h.active c hbefore).2, if_pos ⟨hbefore, hgone⟩]
    · rw [h.givenUp c htaken hbefore, if_neg fun hnow => hbefore hnow.1]
  · -- One that was never taken over was never active, so it was not given up either.
    intro c hnew
    have hnot : c ∉ taken := fun hmem => hnew (List.mem_append_left _ hmem)
    have hbefore : s.context.connection ≠ some c := fun hactive => hnot (h.active c hactive).1
    rw [hclosed, h.strange c hnot, if_neg fun hnow => hbefore hnow.1]

theorem takenOver_concat (history : List Step) (step : Step) :
    takenOver (history ++ [step]) = takenOver history ++ step.takes?.toList := by
  rw [takenOver, List.filterMap_append]
  rfl

/-- Where nothing returns, nothing returns before the last step, and the last step does not
    take over what was given up. -/
theorem NoReturn.of_concat {s : Session Script} {history : List Step} {step : Step}
    (h : s.NoReturn (history ++ [step])) :
    s.NoReturn history ∧ ∀ c ∈ step.takes?, c ∈ takenOver history →
      (s.after history).context.connection = some c := by
  constructor
  · intro i hi
    have hearlier := h i (by rw [List.length_append]; omega)
    rwa [List.getElem_append_left hi, List.take_append_of_le_length (Nat.le_of_lt hi)] at hearlier
  · have hlast := h history.length (by simp)
    rwa [List.getElem_concat_length rfl, List.take_left' rfl] at hlast

/-- The session after a history owns what it took over, by induction from the last step. -/
theorem Owns.after {s : Session Script} (h : s.Owns []) {history : List Step}
    (hreturn : s.NoReturn history) : (s.after history).Owns (takenOver history) := by
  induction history using List.reverseRecOn with
  | nil => exact h
  | append_singleton init step ih =>
      obtain ⟨hinit, hlast⟩ := hreturn.of_concat
      have hafter : s.after (init ++ [step]) = ((s.after init).take step).2 := by
        rw [Session.after, List.foldl_append]
        rfl
      rw [takenOver_concat, hafter]
      exact (ih hinit).take hlast

end Session

/-- Connections are owned by the session that they are handed to. As long as none is handed in
    again after it was given up, each that was taken over has been closed once, unless it is the
    active one, which has not been closed, whatever failed meanwhile. The engine and its builder
    are there together and agree. An engine that is not known is an error, and changes
    nothing. -/
theorem closed_once_given_up (override : String) (limits : Limits) (server : Script)
    {history : List Step} (h : (Session.fresh override limits server).NoReturn history) :
    let s := (Session.fresh override limits server).after history
    (∀ c ∈ takenOver history, s.context.connection ≠ some c → closings c s.events = 1) ∧
      (∀ c, s.context.connection = some c → closings c s.events = 0) ∧
      s.context.builder = s.context.engine ∧
      ∀ driver connection schema, (∀ e, Engine.parse driver ≠ .ok e) →
        s.configure driver connection schema =
          (.error (.error (.configuration (.unknownDriver driver))), s) := by
  intro s
  have howns := (Session.Owns.fresh override limits server).after h
  exact ⟨howns.givenUp, fun c hactive => (howns.active c hactive).2, howns.builder,
    fun driver connection schema hunknown => Session.configure_of_unknown hunknown s _ _⟩

/-- Connections that are handed in twice and replaced by none, datasources that are refused, and
    a close that fails. -/
def handovers : List Step := [
  .configure (.text "pg") (some "first") none,
  .failClosing "first" "socket gone",
  .configure (.text "postgres") (some "first") (some "sales"),
  .call .tableExists [("table", .text "orders")],
  .configure (.text "db2") (some "second") none,
  .configure (.text "mysql") none none,
  .configure (.text "sqlite") (some "second") none,
  .disconnect,
  .disconnect,
  .configure (.text "oracle") (some "third") none]

/-- Two connections were given up and closed once each, the third one is open. -/
theorem closed_once_handovers :
    let s := (Session.fresh "" {} {}).after handovers
    (Session.fresh "" {} {}).NoReturn handovers ∧ s.context.connection = some "third" ∧
      closings "first" s.events = 1 ∧ closings "second" s.events = 1 ∧
      closings "third" s.events = 0 ∧
      (s.configure (.text "db2") (some "fourth") none).2 = s := by
  intro s
  have hreturn : (Session.fresh "" {} {}).NoReturn handovers := by decide +kernel
  have hactive : s.context.connection = some "third" := by decide +kernel
  have hrefused : ∀ e, Engine.parse (.text "db2") ≠ .ok e := fun e he => nomatch he
  obtain ⟨hgone, hopen, -, hunknown⟩ := closed_once_given_up "" {} {} hreturn
  refine ⟨hreturn, hactive, ?_, ?_, hopen "third" hactive, ?_⟩
  · exact hgone "first" (by decide +kernel) (by decide +kernel)
  · exact hgone "second" (by decide +kernel) (by decide +kernel)
  · rw [hunknown (.text "db2") (some "fourth") none hrefused]

end SqlCatalog
