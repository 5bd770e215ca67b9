import SqlCatalog.Session.Inquiry

/-!
# What an Inquiry Keeps

A property of sessions that an inquiry keeps from its beginning to its end, with
something to be said about its answer. An inquiry is put together from smaller ones, and
so is the proof that it keeps a property: each part is looked at once, and `Keeps.bind`
does the rest.

A failure ends an inquiry early. The property has to hold then as well, but nothing is
said about an answer, since there is none.

## Main definitions

* `Inquiry.Keeps`: An inquiry keeps a property of sessions.

## Theorems

* `Inquiry.Keeps.bind`: One inquiry after another.
* `Inquiry.Keeps.lift`: A step that asks nothing.
* `Inquiry.Keeps.fetch`: A step that runs the query of an operation.
-/

namespace SqlCatalog

namespace Inquiry

variable {σ α β : Type} [Server σ] {inv : Session σ → Prop} {post : α → Prop}

/-- The inquiry keeps a property of sessions, and its answer has a property too. -/
def Keeps (inv : Session σ → Prop) (i : Inquiry α) (post : α → Prop) : Prop :=
  ∀ s, inv s → inv (i.exec s).2 ∧ ∀ a, (i.exec s).1 = .ok a → post a

/-- One inquiry after another. -/
theorem Keeps.bind {i : Inquiry α} {f : α → Inquiry β} {post' : β → Prop}
    (h : Keeps inv i post) (hf : ∀ a, post a → Keeps inv (f a) post') :
    Keeps inv (i >>= f) post' := by
  intro s hs
  have hi := h s hs
  have hexec : (i >>= f).exec s = _ := exec_bind i f s
  rw [hexec]
  rcases heq : i.exec s with ⟨_ | a, t⟩
  · rw [heq] at hi
    exact ⟨hi.1, fun _ ha => absurd ha (by simp)⟩
  · rw [heq] at hi
    exact hf a (hi.2 a rfl) t hi.1

theorem Keeps.weaken {i : Inquiry α} {post' : α → Prop} (h : Keeps inv i post)
    (hpost : ∀ a, post a → post' a) : Keeps inv i post' :=
  fun s hs => ⟨(h s hs).1, fun a ha => hpost a ((h s hs).2 a ha)⟩

/-- A step that asks nothing. -/
theorem Keeps.lift (outcome : Outcome α) :
    Keeps inv (liftM outcome : Inquiry α) (fun a => outcome = .ok a) :=
  fun _ hs => ⟨hs, fun _ ha => ha⟩

theorem Keeps.pure (a : α) : Keeps inv (Pure.pure a : Inquiry α) (fun b => a = b) :=
  fun _ hs => ⟨hs, fun b hb => by
    have heq : (Except.ok a : Outcome α) = .ok b := hb
    exact Except.ok.inj heq⟩

/-- A step that runs the query of an operation, when running a query keeps the
    property. -/
theorem Keeps.fetch (hrun : ∀ q s, inv s → inv (Session.run q s).2) (e : Engine)
    (operation : String) (q : Option Query) (lacking : String) :
    Keeps inv (Inquiry.fetch e operation q lacking) (fun _ => True) := by
  intro s hs
  cases q with
  | none => exact ⟨hs, fun _ _ => trivial⟩
  | some q =>
      refine ⟨?_, fun _ _ => trivial⟩
      have hnext := hrun ⟨q.sql e, q.args, operation, none⟩ s hs
      rw [Inquiry.fetch, exec]
      rcases heq : s.run ⟨q.sql e, q.args, operation, none⟩ with ⟨_ | r, t⟩
      · rw [heq] at hnext
        exact hnext
      · rw [heq] at hnext
        exact hnext

end Inquiry

end SqlCatalog
