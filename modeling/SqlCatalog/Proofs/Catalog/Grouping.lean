import Mathlib.Data.List.Induction
import Mathlib.Data.List.Perm.Basic
import SqlCatalog.Catalog.Group
import SqlCatalog.Proofs.Basic

/-!
# Grouping Rows

Rows that describe one object between them are collected in a table of records, row by row,
and the rows of different objects may come in any order. What is in the table in the end can
be said without the table. There is one group for each key, in the order in which the keys
first appear, and its record is what the rows of that key make of it on their own
(`Groups.gather`): a fresh record by the first of them, changed by each of them in turn.

The invariant goes over the rows that were read so far, so the induction takes rows away from
the end. A row changes the record of its own key and of no other, and a key that is new goes
behind all others.

## Main definitions

* `Groups.gather`: What the rows of one group make of its record.
* `Groups.collect`: The groups of rows.
* `Groups.Holds`: A group holds what the rows of its key make of it.

## Theorems

* `eraseDups_concat`: Items in the order of their first appearance, with one more.
* `Groups.forall₂_collect`: Every group holds what its rows make of it.
* `Groups.perm_records`: Rows that are the same group by group make the same records.
-/

namespace SqlCatalog

/-! ### First appearances -/

section FirstAppearance

variable {κ : Type} [DecidableEq κ]

/-- One more item appears for the first time when it is not there yet. -/
theorem eraseDups_concat (xs : List κ) (x : κ) :
    (xs ++ [x]).eraseDups = if x ∈ xs then xs.eraseDups else xs.eraseDups ++ [x] := by
  rw [List.eraseDups_append]
  by_cases hmem : x ∈ xs
  · rw [if_pos hmem, show [x].removeAll xs = [] by simp [List.removeAll, hmem],
      List.eraseDups_nil, List.append_nil]
  · rw [if_neg hmem, show [x].removeAll xs = [x] by simp [List.removeAll, hmem],
      List.eraseDups_cons, List.filter_nil, List.eraseDups_nil]

/-- No item appears for the first time twice, by induction from the end. -/
theorem nodup_eraseDups (xs : List κ) : xs.eraseDups.Nodup := by
  induction xs using List.reverseRecOn with
  | nil => rw [List.eraseDups_nil]; exact List.nodup_nil
  | append_singleton rest x ih =>
      rw [eraseDups_concat]
      split
      · exact ih
      · rename_i hnew
        rw [List.nodup_append]
        refine ⟨ih, List.pairwise_singleton _ x, fun y hy z hz => ?_⟩
        rw [List.mem_singleton.mp hz]
        rintro rfl
        exact hnew (List.mem_eraseDups.mp hy)

end FirstAppearance

namespace Groups

variable {ρ κ α : Type}

/-! ### One group -/

/-- What the rows of one group make of its record: a fresh one by the first row, changed by
    every row. Without rows there is no group. -/
def gather (fresh : ρ → α) (change : ρ → α → α) : List ρ → Option α
  | [] => none
  | first :: rest => some ((first :: rest).foldl (fun a r => change r a) (fresh first))

/-- One more row changes the record, which it has to make when it is the first. -/
theorem gather_concat (fresh : ρ → α) (change : ρ → α → α) (rows : List ρ) (r : ρ) :
    gather fresh change (rows ++ [r]) =
      some (change r ((gather fresh change rows).getD (fresh r))) := by
  cases rows with
  | nil => rfl
  | cons first rest =>
      rw [List.cons_append, gather, gather, ← List.cons_append, List.foldl_append]
      rfl

theorem gather_ne_none {fresh : ρ → α} {change : ρ → α → α} {rows : List ρ} {a : α}
    (h : gather fresh change rows = some a) : rows ≠ [] := by
  rintro rfl
  exact absurd h (by simp [gather])

/-! ### Updates -/

/-- The group of a key is changed where it stands, and all others stay. -/
theorem forall₂_update {P Q : κ → Value × α → Prop} {ids : List κ} {g : Groups α}
    {key : Value} {fresh : α} {change : α → α} {k : κ} (h : List.Forall₂ P ids g)
    (hnodup : ids.Nodup) (hmem : k ∈ ids)
    (hhere : ∀ group, P k group → group.1.equal key = true ∧ Q k (group.1, change group.2))
    (hother : ∀ j ≠ k, ∀ group, P j group → group.1.equal key = false ∧ Q j group) :
    List.Forall₂ Q ids (g.update key fresh change) := by
  have hrest {js : List κ} {others : Groups α} (hjs : List.Forall₂ P js others) (hk : k ∉ js) :
      List.Forall₂ Q js others := by
    induction hjs with
    | nil => exact .nil
    | cons hfirst _ ih =>
        rw [List.mem_cons, not_or] at hk
        exact .cons (hother _ (Ne.symm hk.1) _ hfirst).2 (ih hk.2)
  induction h with
  | nil => exact absurd hmem List.not_mem_nil
  | @cons j group js others hfirst htail ih =>
      rw [List.nodup_cons] at hnodup
      rw [update]
      by_cases hj : j = k
      · rw [hj] at hfirst hnodup ⊢
        obtain ⟨hequal, hq⟩ := hhere group hfirst
        rw [if_pos hequal]
        exact .cons hq (hrest htail hnodup.1)
      · obtain ⟨hequal, hq⟩ := hother j hj group hfirst
        rw [if_neg (by rw [hequal]; decide)]
        exact .cons hq (ih hnodup.2 ((List.mem_cons.mp hmem).resolve_left (Ne.symm hj)))

/-- A key that has no group gets one at the end. -/
theorem forall₂_update_new {P Q : κ → Value × α → Prop} {ids : List κ} {g : Groups α}
    {key : Value} {fresh : α} {change : α → α} {k : κ} (h : List.Forall₂ P ids g)
    (hnew : k ∉ ids) (hhere : Q k (key, change fresh))
    (hother : ∀ j ≠ k, ∀ group, P j group → group.1.equal key = false ∧ Q j group) :
    List.Forall₂ Q (ids ++ [k]) (g.update key fresh change) := by
  induction h with
  | nil => exact .cons hhere .nil
  | @cons j group js others hfirst htail ih =>
      rw [List.mem_cons, not_or] at hnew
      obtain ⟨hequal, hq⟩ := hother j (Ne.symm hnew.1) group hfirst
      rw [update, if_neg (by rw [hequal]; decide)]
      exact .cons hq (ih hnew.2)

/-! ### All groups -/

variable [DecidableEq κ]

/-- The groups of rows under the labels of their keys. -/
def collect (label : κ → String) (key : ρ → κ) (fresh : ρ → α) (change : ρ → α → α)
    (rows : List ρ) : Groups α :=
  rows.foldl (fun g r => g.update (.text (label (key r))) (fresh r) (change r)) []

/-- A group stands under the label of its key and holds what the rows of the key make of
    it. -/
def Holds (label : κ → String) (key : ρ → κ) (fresh : ρ → α) (change : ρ → α → α)
    (rows : List ρ) (k : κ) (group : Value × α) : Prop :=
  group.1 = .text (label k) ∧ gather fresh change (rows.filter (key · = k)) = some group.2

variable {label : κ → String} {key : ρ → κ} {fresh : ρ → α} {change : ρ → α → α}

/-- A group that holds something has a row. -/
theorem Holds.mem {rows : List ρ} {k : κ} {group : Value × α}
    (h : Holds label key fresh change rows k group) : k ∈ rows.map key := by
  obtain ⟨r, hr⟩ := List.exists_mem_of_ne_nil _ (gather_ne_none h.2)
  rw [List.mem_filter, decide_eq_true_eq] at hr
  exact List.mem_map.mpr ⟨r, hr.1, hr.2⟩

/-- Every key has one group, in the order in which the keys first appear, and the group holds
    what the rows of its key make of it. The labels have to tell the keys of the rows apart.
    The induction takes away the last row. -/
theorem forall₂_collect (label : κ → String) (key : ρ → κ) (fresh : ρ → α)
    (change : ρ → α → α) {rows : List ρ}
    (hlabel : ∀ i ∈ rows.map key, ∀ j ∈ rows.map key, label i = label j → i = j) :
    List.Forall₂ (Holds label key fresh change rows) (rows.map key).eraseDups
      (collect label key fresh change rows) := by
  induction rows using List.reverseRecOn with
  | nil => rw [List.map_nil, List.eraseDups_nil]; exact .nil
  | append_singleton rest r ih =>
      rw [List.map_append, List.map_singleton] at hlabel ⊢
      have hlast : key r ∈ rest.map key ++ [key r] :=
        List.mem_append_right _ (List.mem_singleton.mpr rfl)
      have ih := ih fun i hi j hj =>
        hlabel i (List.mem_append_left _ hi) j (List.mem_append_left _ hj)
      have hrow (k : κ) : (rest ++ [r]).filter (key · = k) =
          rest.filter (key · = k) ++ if key r = k then [r] else [] := by
        rw [List.filter_append, List.filter_singleton, Bool.cond_decide]
      have hnow : gather fresh change ((rest ++ [r]).filter (key · = key r)) =
          some (change r ((gather fresh change (rest.filter (key · = key r))).getD (fresh r))) := by
        rw [hrow, if_pos rfl, gather_concat]
      -- The labels of two keys that have rows are different texts.
      have hother (j : κ) (hj : j ≠ key r) (group : Value × α)
          (hgroup : Holds label key fresh change rest j group) :
          group.1.equal (.text (label (key r))) = false ∧
            Holds label key fresh change (rest ++ [r]) j group := by
        have hapart : label j ≠ label (key r) := fun h =>
          hj (hlabel j (List.mem_append_left _ hgroup.mem) (key r) hlast h)
        refine ⟨?_, hgroup.1, ?_⟩
        · rw [hgroup.1, Value.equal]
          exact beq_false_of_ne hapart
        · rw [hrow, if_neg (Ne.symm hj), List.append_nil]
          exact hgroup.2
      rw [collect, List.foldl_append, eraseDups_concat]
      split
      · rename_i hmem
        refine forall₂_update ih (nodup_eraseDups _) (List.mem_eraseDups.mpr hmem) ?_ hother
        rintro group ⟨hname, hgroup⟩
        refine ⟨by rw [hname, Value.equal]; exact beq_self_eq_true _, hname, ?_⟩
        rw [hnow, hgroup, Option.getD_some]
      · rename_i hnew
        refine forall₂_update_new ih (mt List.mem_eraseDups.mp hnew) ⟨rfl, ?_⟩ hother
        have hnone : rest.filter (key · = key r) = [] := by
          rw [List.filter_eq_nil_iff]
          intro t ht h
          exact hnew (List.mem_map.mpr ⟨t, ht, of_decide_eq_true h⟩)
        rw [hnow, hnone]
        rfl

/-- The records of the groups, one for each key. -/
theorem forall₂_records (fresh : ρ → α) (change : ρ → α → α) {rows : List ρ}
    (hlabel : ∀ i ∈ rows.map key, ∀ j ∈ rows.map key, label i = label j → i = j) :
    List.Forall₂ (fun k a => gather fresh change (rows.filter (key · = k)) = some a)
      (rows.map key).eraseDups (collect label key fresh change rows).records := by
  rw [records, List.forall₂_map_right_iff]
  exact (forall₂_collect label key fresh change hlabel).imp fun _ _ h => h.2

/-- Rows that are the same group by group, in whatever order the groups are mixed, make the
    same records. -/
theorem perm_records {rows others : List ρ}
    (hsame : ∀ k, rows.filter (key · = k) = others.filter (key · = k))
    (hrows : ∀ i ∈ rows.map key, ∀ j ∈ rows.map key, label i = label j → i = j)
    (hothers : ∀ i ∈ others.map key, ∀ j ∈ others.map key, label i = label j → i = j) :
    (collect label key fresh change rows).records.Perm
      (collect label key fresh change others).records := by
  have hmem (rows : List ρ) (k : κ) : k ∈ rows.map key ↔ rows.filter (key · = k) ≠ [] := by
    simp [List.filter_eq_nil_iff]
  have hkeys : (others.map key).eraseDups.Perm (rows.map key).eraseDups := by
    rw [List.perm_ext_iff_of_nodup (nodup_eraseDups _) (nodup_eraseDups _)]
    intro k
    rw [List.mem_eraseDups, List.mem_eraseDups, hmem, hmem, hsame]
  obtain ⟨reordered, hreordered, hperm⟩ :=
    List.perm_comp_forall₂ hkeys (forall₂_records fresh change hrows)
  -- What a key makes of its rows is one record, whatever stands around them.
  have hunique : Relator.RightUnique
      fun k a => gather fresh change (rows.filter (key · = k)) = some a :=
    fun k a b ha hb => Option.some.inj (ha.symm.trans hb)
  have hsecond := forall₂_records fresh change hothers
  simp only [← hsame] at hsecond
  rw [← List.right_unique_forall₂' hunique hreordered hsecond]
  exact hperm.symm

end Groups

end SqlCatalog
