import Mathlib.Data.List.Forall2
import SqlCatalog.Error

/-!
# Basic Facts

What the proofs share and what is about no part of the library in particular: results of
steps that may fail, entries of tables, and characters in ASCII.

## Theorems

* `ok_of_bind`: A step that gives a result has a first part that does.
* `map_eq_ok_iff`: A function of a result gives one when there is a result.
* `exists_of_forall₂`: What stands beside an item of a list.
* `mapM_eq_ok_iff`, `exists_of_mapM`: The results of steps on the items of a list come from
  the items.
* `exists_mapM_of_forall`: They are there when each step gives one.
* `foldlM_eq_ok`: A run of steps that all give a result gives one.
* `mem_of_lookup`, `ne_of_lookup_none`: What is looked up in a table stands in it, or else
  stands there under no entry.
* `nodup_keys_append`: A table without doubles stays one with a new entry.
* `drop_eq_of_room`: Making room for one more item takes one item away at most.
* `of_ascii`: What a table of ASCII shows holds of every character in it.
-/

namespace SqlCatalog

/-- A step that gives a result has a first part that does. -/
theorem ok_of_bind {α β : Type} {x : Outcome α} {f : α → Outcome β} {b : β}
    (h : x >>= f = .ok b) : ∃ a, x = .ok a ∧ f a = .ok b := by
  cases x with
  | error failure => exact absurd h (by simp [bind, Except.bind])
  | ok a => exact ⟨a, rfl, h⟩

/-- A function of a result gives one if and only if there is a result. -/
theorem map_eq_ok_iff {α β : Type} {x : Outcome α} {f : α → β} {b : β} :
    x.map f = .ok b ↔ ∃ a, x = .ok a ∧ f a = b := by
  cases x with
  | error failure => exact ⟨fun h => absurd h (by simp [Except.map]), fun ⟨_, h, _⟩ => nomatch h⟩
  | ok a =>
      rw [Except.map, Except.ok.injEq]
      exact ⟨fun h => ⟨a, rfl, h⟩, fun ⟨_, ha, h⟩ => Except.ok.inj ha ▸ h⟩

/-- Beside every item of the second list stands one of the first. -/
theorem exists_of_forall₂ {α β : Type} {R : α → β → Prop} {xs : List α} {ys : List β}
    (h : List.Forall₂ R xs ys) : ∀ y ∈ ys, ∃ x ∈ xs, R x y := by
  induction h with
  | nil => exact fun y hy => absurd hy List.not_mem_nil
  | cons hfirst _ ih =>
      intro y hy
      rcases List.mem_cons.mp hy with rfl | hy
      · exact ⟨_, List.mem_cons_self, hfirst⟩
      · obtain ⟨x, hx, hxy⟩ := ih y hy
        exact ⟨x, List.mem_cons_of_mem _ hx, hxy⟩

/-- Steps on the items of a list give results if and only if each of them does. -/
theorem mapM_eq_ok_iff {α β : Type} {f : α → Outcome β} {xs : List α} {ys : List β} :
    xs.mapM f = .ok ys ↔ List.Forall₂ (fun x y => f x = .ok y) xs ys := by
  induction xs generalizing ys with
  | nil =>
      rw [List.mapM_nil, List.forall₂_nil_left_iff]
      exact ⟨fun h => (Except.ok.inj h).symm, fun h => congrArg Except.ok h.symm⟩
  | cons x rest ih =>
      rw [List.mapM_cons, List.forall₂_cons_left_iff]
      constructor
      · intro h
        obtain ⟨y, hy, h⟩ := ok_of_bind h
        obtain ⟨more, hmore, h⟩ := ok_of_bind h
        exact ⟨y, more, hy, ih.mp hmore, (Except.ok.inj h).symm⟩
      · rintro ⟨y, more, hy, hmore, rfl⟩
        rw [hy, ih.mpr hmore]
        rfl

/-- Steps that give a result on each item of a list give results. -/
theorem exists_mapM_of_forall {α β : Type} {f : α → Outcome β} {xs : List α}
    (h : ∀ x ∈ xs, ∃ y, f x = .ok y) : ∃ ys, xs.mapM f = .ok ys := by
  induction xs with
  | nil => exact ⟨[], rfl⟩
  | cons x rest ih =>
      obtain ⟨y, hy⟩ := h x List.mem_cons_self
      obtain ⟨ys, hys⟩ := ih fun x hx => h x (List.mem_cons_of_mem _ hx)
      exact ⟨y :: ys, mapM_eq_ok_iff.mpr (.cons hy (mapM_eq_ok_iff.mp hys))⟩

/-- The results of steps on the items of a list come from the items. -/
theorem exists_of_mapM {α β : Type} {f : α → Outcome β} {xs : List α} {ys : List β}
    (h : xs.mapM f = .ok ys) : ∀ y ∈ ys, ∃ x ∈ xs, f x = .ok y :=
  exists_of_forall₂ (mapM_eq_ok_iff.mp h)

/-- Steps that give a result wherever they start from give one when they are run in a row. -/
theorem foldlM_eq_ok {α β γ : Type} {f : γ → α → Outcome γ} {step : γ → β → γ} {xs : List α}
    {ys : List β} (h : List.Forall₂ (fun x y => ∀ c, f c x = .ok (step c y)) xs ys) (c : γ) :
    xs.foldlM f c = .ok (ys.foldl step c) := by
  induction h generalizing c with
  | nil => rfl
  | @cons x y xs ys hfirst _ ih =>
      rw [List.foldlM_cons, hfirst c, List.foldl_cons]
      exact ih (step c y)

/-- What is looked up in a table stands in it. -/
theorem mem_of_lookup {α β : Type} [BEq α] [LawfulBEq α] {a : α} {b : β} {xs : List (α × β)}
    (h : xs.lookup a = some b) : (a, b) ∈ xs := by
  rcases List.lookup_eq_some_iff.mp h with ⟨before, after, heq, _⟩
  rw [heq]
  exact List.mem_append_right _ List.mem_cons_self

/-- What is not found in a table is the key of no entry. -/
theorem ne_of_lookup_none {α β : Type} [BEq α] [LawfulBEq α] {a : α} {xs : List (α × β)}
    (hmiss : xs.lookup a = none) : ∀ entry ∈ xs, entry.1 ≠ a := by
  intro entry hmem
  rintro rfl
  exact absurd (List.lookup_eq_none_iff.mp hmiss entry hmem) (by simp)

/-- A table without doubles stays one with a new entry at its end. -/
theorem nodup_keys_append {α β : Type} {xs : List (α × β)} (h : (xs.map Prod.fst).Nodup) {a : α}
    (hnew : ∀ entry ∈ xs, entry.1 ≠ a) (b : β) : ((xs ++ [(a, b)]).map Prod.fst).Nodup := by
  rw [List.map_append, List.nodup_append]
  refine ⟨h, List.pairwise_singleton _ _, ?_⟩
  intro x hx y hy
  obtain ⟨entry, hentry, rfl⟩ := List.mem_map.mp hx
  rw [List.map_singleton, List.mem_singleton] at hy
  rw [hy]
  exact hnew entry hentry

/-- The first items go until one more fits in: one when there is no room, else none. -/
theorem drop_eq_of_room {α : Type} {xs : List α} {room : Nat} (hbounded : xs.length ≤ room) :
    List.drop (xs.length + 1 - room) xs = if xs.length < room then xs else xs.tail := by
  split
  · rename_i hlt
    rw [show xs.length + 1 - room = 0 by omega, List.drop_zero]
  · rename_i hfull
    rw [show xs.length + 1 - room = 1 by omega, List.drop_one]

/-- What holds of the code points of ASCII one by one holds of every character in it. -/
theorem of_ascii {P : Char → Prop} (h : ∀ n < 0x80, P (Char.ofNat n)) {c : Char}
    (hc : c.toNat < 0x80) : P c := by
  have hcode := h c.toNat hc
  rwa [Char.ofNat_toNat] at hcode

end SqlCatalog
