import Mathlib
import SqlCatalog.Pagination

/-!
# Pages of a Total

A client that pages through a result goes by three numbers: where a page begins, how many pages
there are, and whether another one follows. They are computed apart, by a product, by a division
that rounds up and by a comparison, and the client is well served only if they mean the same
pages. The hinge is that a page begins before the end of the items if and only if it is one of the
pages that are told of; nothing else about the division is used.

Where the total is a multiple of the size the last page is full, and the page behind it begins
where the items end. Without items there are no pages, and a negative total, which no count should
come back with, is read as no items.

## Main definitions

* `Page.Fills`: So many pages hold a number of items, and one page less does not.
* `Page.shown`: The items that a page shows.
* `Page.Tiles`: Pages of one size lay out a number of items.

## Theorems

* `Page.fills_totalPages`, `Page.hasNext_iff`: What follows from the total.
* `Page.offset_lt_iff`: The pages that are told of are those that begin before the end.
* `pages_tile`: The pages of a total lay out its items, and they know which of them is the last.
-/

namespace SqlCatalog

namespace Page

variable {p : Page}

/-! ### What follows from a total -/

/-- So many pages hold a number of items, and one page less does not. -/
def Fills (p : Page) (total pages : Int) : Prop :=
  total ≤ 0 ∧ pages = 0 ∨ 0 < total ∧ (pages - 1) * p.size < total ∧ total ≤ pages * p.size

theorem fills_totalPages (hsize : 1 ≤ p.size) (total : Int) :
    p.Fills total (p.totalPages total) := by
  rcases Int.lt_or_le 0 total with htotal | htotal
  · have hpages : p.totalPages total = (total + p.size - 1) / p.size := by
      rw [totalPages, if_neg (by omega), Int.fdiv_eq_ediv_of_nonneg _ (by omega)]
    have hbelow := Int.ediv_mul_le (total + p.size - 1) (show p.size ≠ 0 by omega)
    have habove := Int.lt_ediv_add_one_mul_self (total + p.size - 1) (show 0 < p.size by omega)
    rw [← hpages] at hbelow habove
    rw [Int.add_mul, Int.one_mul] at habove
    refine .inr ⟨htotal, ?_, ?_⟩
    · rw [Int.sub_mul, Int.one_mul]
      omega
    · omega
  · exact .inl ⟨htotal, if_pos htotal⟩

/-- A page is followed by others if and only if there are more items than up to its end. -/
theorem hasNext_iff (hnumber : 1 ≤ p.number) (hsize : 1 ≤ p.size) (total : Int) :
    p.hasNext total = true ↔ p.number * p.size < total := by
  rw [hasNext, decide_eq_true_iff]
  rcases fills_totalPages hsize total with ⟨htotal, hpages⟩ | ⟨-, hbelow, habove⟩
  · have hpositive := Int.mul_le_mul hnumber hsize (by decide) (by omega)
    omega
  · constructor
    · intro h
      have hbefore := Int.mul_le_mul_of_nonneg_right
        (show p.number ≤ p.totalPages total - 1 by omega) (show 0 ≤ p.size by omega)
      omega
    · intro h
      exact Int.lt_of_mul_lt_mul_right (Int.lt_of_lt_of_le h habove) (by omega)

/-- Pages and their sizes count from one. -/
theorem of_make {number size : Int} (h : make number size = .ok p) :
    1 ≤ p.number ∧ 1 ≤ p.size := by
  unfold make at h
  split at h
  · cases h
  · split at h
    · cases h
    · cases h
      dsimp only
      omega

/-! ### One page and the next -/

/-- A page ends where its number times its size is. -/
theorem offset_add_limit (p : Page) : p.offset + p.limit = p.number * p.size := by
  rw [offset, limit, Int.sub_mul, Int.one_mul]
  omega

/-- The next page begins where a page ends. -/
theorem offset_succ (n size : Int) : offset ⟨n + 1, size⟩ = offset ⟨n, size⟩ + limit ⟨n, size⟩ := by
  rw [offset_add_limit, offset, Int.add_sub_cancel]

/-- Of two pages the later one begins where the other ends, or behind that. -/
theorem end_le_offset {m n size : Int} (hsize : 1 ≤ size) (h : m < n) :
    offset ⟨m, size⟩ + limit ⟨m, size⟩ ≤ offset ⟨n, size⟩ := by
  rw [offset_add_limit]
  exact Int.mul_le_mul_of_nonneg_right (show m ≤ n - 1 by omega) (show 0 ≤ size by omega)

/-- The pages that are told of are those that begin before the end. -/
theorem offset_lt_iff {n size : Int} (hn : 1 ≤ n) (hsize : 1 ≤ size) (total : Int) :
    offset ⟨n, size⟩ < total ↔ n ≤ totalPages ⟨n, size⟩ total := by
  have hstart : 0 ≤ offset ⟨n, size⟩ :=
    Int.mul_nonneg (show 0 ≤ n - 1 by omega) (show 0 ≤ size by omega)
  have hoffset : offset ⟨n, size⟩ = (n - 1) * size := rfl
  rcases fills_totalPages (p := ⟨n, size⟩) hsize total with ⟨htotal, hpages⟩ | ⟨-, hbelow, habove⟩
  · omega
  · dsimp only at hbelow habove
    constructor
    · intro h
      have hpages : n - 1 < totalPages ⟨n, size⟩ total :=
        Int.lt_of_mul_lt_mul_right (show (n - 1) * size < _ * size by omega) (by omega)
      omega
    · intro h
      have hpages := Int.mul_le_mul_of_nonneg_right
        (show n - 1 ≤ totalPages ⟨n, size⟩ total - 1 by omega) (show 0 ≤ size by omega)
      omega

/-! ### Pages side by side -/

/-- The items that a page shows of a number of items, counted from zero. -/
def shown (p : Page) (total : Int) : Set Int :=
  Set.Ico p.offset (min (p.offset + p.limit) total)

theorem mem_shown_iff {total i : Int} :
    i ∈ p.shown total ↔ p.offset ≤ i ∧ i < p.offset + p.limit ∧ i < total := by
  rw [shown, Set.mem_Ico, Int.lt_min]

/-- The first so many pages of a size lay out a number of items: each of them shows some, each
    begins where the one before ends, no two show the same one, and together they show all. A page
    behind them begins behind the items. -/
structure Tiles (size total pages : Int) : Prop where
  nonempty : ∀ n, 1 ≤ n → n ≤ pages → (shown ⟨n, size⟩ total).Nonempty
  first : offset ⟨1, size⟩ = 0
  consecutive : ∀ n, 1 ≤ n → n < pages →
    min (offset ⟨n, size⟩ + limit ⟨n, size⟩) total = offset ⟨n + 1, size⟩
  disjoint : (Set.Icc 1 pages).PairwiseDisjoint fun n => shown ⟨n, size⟩ total
  covers : ⋃ n ∈ Set.Icc 1 pages, shown ⟨n, size⟩ total = Set.Ico 0 total
  beyond : ∀ n, 1 ≤ n → pages < n → total ≤ offset ⟨n, size⟩

/-- Every item is shown by the page that it is on. -/
theorem mem_shown_of_lt {size total i : Int} (hsize : 1 ≤ size) (hi : i < total) :
    i ∈ shown ⟨i / size + 1, size⟩ total := by
  have hbelow := Int.ediv_mul_le i (show size ≠ 0 by omega)
  have habove := Int.lt_ediv_add_one_mul_self i (show 0 < size by omega)
  rw [mem_shown_iff, offset_add_limit, offset, Int.add_sub_cancel]
  exact ⟨hbelow, habove, hi⟩

/-- No two pages show the same item. -/
theorem disjoint_shown {m n size : Int} (hsize : 1 ≤ size) (h : m < n) (total : Int) :
    Disjoint (shown ⟨m, size⟩ total) (shown ⟨n, size⟩ total) := by
  rw [Set.disjoint_left]
  intro i hm hn
  have hbetween := end_le_offset hsize h
  have hend := (mem_shown_iff.mp hm).2.1
  have hstart := (mem_shown_iff.mp hn).1
  omega

theorem tiles_totalPages {size total pages : Int} (hsize : 1 ≤ size)
    (hpages : ∀ n, totalPages ⟨n, size⟩ total = pages) : Tiles size total pages where
  nonempty n hn hlast := by
    have hstart := (offset_lt_iff hn hsize total).mpr (hpages n ▸ hlast)
    exact ⟨_, mem_shown_iff.mpr
      ⟨Int.le_refl _, Int.lt_add_of_pos_right _ (show 0 < size by omega), hstart⟩⟩
  first := by rw [offset, Int.sub_self, Int.zero_mul]
  consecutive n hn hlast := by
    -- The next page is one of them, so it begins before the end.
    have hnext := (offset_lt_iff (show 1 ≤ n + 1 by omega) hsize total).mpr
      (hpages (n + 1) ▸ hlast)
    rw [offset_succ] at hnext ⊢
    exact min_eq_left (Int.le_of_lt hnext)
  disjoint := by
    intro m _ n _ hne
    rcases Int.lt_or_gt_of_ne hne with hlt | hgt
    · exact disjoint_shown hsize hlt total
    · exact (disjoint_shown hsize hgt total).symm
  covers := by
    ext i
    simp only [Set.mem_iUnion, Set.mem_Icc, Set.mem_Ico, exists_prop]
    constructor
    · rintro ⟨n, ⟨hn, -⟩, hi⟩
      obtain ⟨hstart, -, hlt⟩ := mem_shown_iff.mp hi
      have hoffset : 0 ≤ offset ⟨n, size⟩ :=
        Int.mul_nonneg (show 0 ≤ n - 1 by omega) (show 0 ≤ size by omega)
      exact ⟨Int.le_trans hoffset hstart, hlt⟩
    · rintro ⟨hi, hlt⟩
      have hshown := mem_shown_of_lt hsize hlt
      have hn : 1 ≤ i / size + 1 := by
        have := Int.ediv_nonneg hi (show 0 ≤ size by omega)
        omega
      have hstart := Int.lt_of_le_of_lt (mem_shown_iff.mp hshown).1 hlt
      exact ⟨_, ⟨hn, hpages _ ▸ (offset_lt_iff hn hsize total).mp hstart⟩, hshown⟩
  beyond n hn hlast := Int.not_lt.mp fun hstart =>
    absurd (hpages n ▸ (offset_lt_iff hn hsize total).mp hstart) (Int.not_le.mpr hlast)

end Page

/-- The pages of a total lay out its items, and they know which of them is the last. With `size`
    items to a page, the pages that are told of show each item once and in order, and every later
    page begins behind the items. A page is followed by another if and only if it ends before the
    items do. A total below zero has no pages, and none is followed by another. -/
theorem pages_tile {size : Int} (hsize : 1 ≤ size) (total : Int) :
    (∀ n, Page.Tiles size total (Page.totalPages ⟨n, size⟩ total)) ∧
      (∀ p : Page, 1 ≤ p.number → p.size = size →
        (p.hasNext total = true ↔ p.offset + p.limit < total)) ∧
      (total < 0 → ∀ p : Page, 1 ≤ p.number → p.size = size →
        p.totalPages total = 0 ∧ p.hasNext total = false) := by
  refine ⟨fun n => Page.tiles_totalPages hsize fun _ => rfl, ?_, ?_⟩
  · rintro p hnumber rfl
    rw [Page.hasNext_iff hnumber hsize, Page.offset_add_limit]
  · rintro htotal p hnumber rfl
    have hpages : p.totalPages total = 0 := if_pos (Int.le_of_lt htotal)
    refine ⟨hpages, ?_⟩
    rw [Page.hasNext, hpages, decide_eq_false_iff_not]
    omega

/-- Twenty items fill two pages of ten, and the second one is the last. -/
theorem pages_tile_twenty :
    Page.Tiles 10 20 2 ∧ (Page.hasNext ⟨1, 10⟩ 20 = true ↔ (0 : Int) + 10 < 20) ∧
      (Page.hasNext ⟨2, 10⟩ 20 = true ↔ (10 : Int) + 10 < 20) := by
  obtain ⟨htiles, hnext, -⟩ := @pages_tile 10 (by decide) 20
  exact ⟨htiles 1, hnext ⟨1, 10⟩ (by decide) rfl, hnext ⟨2, 10⟩ (by decide) rfl⟩

end SqlCatalog
