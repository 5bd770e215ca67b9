import SqlCatalog.Reader.Basic

/-!
# Pages That Callers Ask For

The page that a caller asks for comes as two values of any kind, and nothing that a caller sends
is a reason to fail. A value that stands for no number counts as missing, a number below one is
replaced, and a size above the ceiling is cut down. So the refusals are out of reach from here,
both that of a page and that of the window that the builder is handed.

The order of the two clamps matters. A size below one becomes the default before the ceiling is
applied, and a default above the ceiling is cut down like any other size.

A page that is handed out can be handed in again. Its record holds more than the two fields that
are read, and whatever the default is, they are read as they were written.

## Main definitions

* `Page.sizeWithin`: The size of a page that is asked for, within the ceiling.

## Theorems

* `Page.ofArguments_eq`: The page that a caller asks for.
* `Page.check_window`: The window of a page passes its check.
* `pages_of_arguments`: Asking for a page never fails, and numbers in range are kept.
-/

namespace SqlCatalog

namespace Page

/-- The size of a page that is asked for: the default where it is below one, and the ceiling
    where it is above that. -/
def sizeWithin (default ceiling wanted : Int) : Int :=
  min (if wanted < 1 then default else wanted) ceiling

theorem one_le_sizeWithin {default ceiling : Int} (hdefault : 1 ≤ default) (hceiling : 1 ≤ ceiling)
    (wanted : Int) : 1 ≤ sizeWithin default ceiling wanted := by
  refine Int.le_min.mpr ⟨?_, hceiling⟩
  split <;> omega

/-- A size in range is the size of the page. -/
theorem sizeWithin_of_le {wanted ceiling : Int} (hwanted : 1 ≤ wanted) (h : wanted ≤ ceiling)
    (default : Int) : sizeWithin default ceiling wanted = wanted := by
  rw [sizeWithin, if_neg (by omega), Int.min_eq_left h]

/-- The page that a caller asks for, whatever values that is said in. -/
theorem ofArguments_eq (number size : Value) {default ceiling : Int} (hdefault : 1 ≤ default)
    (hceiling : 1 ≤ ceiling) :
    ofArguments number size default ceiling =
      .ok ⟨max (numberOr 1 number) 1, sizeWithin default ceiling (numberOr default size)⟩ := by
  have hnumber : ¬max (numberOr 1 number) 1 < 1 := Int.not_lt.mpr (Int.le_max_right _ _)
  have hsize : ¬sizeWithin default ceiling (numberOr default size) < 1 :=
    Int.not_lt.mpr (one_le_sizeWithin hdefault hceiling _)
  calc ofArguments number size default ceiling
      = make (max (numberOr 1 number) 1)
          (sizeWithin default ceiling (numberOr default size)) := rfl
    _ = _ := by rw [make, if_neg hnumber, if_neg hsize]

/-- The window of a page passes its check. -/
theorem check_window {p : Page} (hnumber : 1 ≤ p.number) (hsize : 1 ≤ p.size) :
    p.window.check = .ok () := by
  have hlimit : ¬p.limit ≤ 0 := by
    rw [limit]
    omega
  have hoffset : ¬p.offset < 0 :=
    Int.not_lt.mpr (Int.mul_nonneg (show 0 ≤ p.number - 1 by omega) (show 0 ≤ p.size by omega))
  unfold Window.check window
  simp only [Value.whole?, if_neg hlimit, if_neg hoffset]
  rfl

end Page

namespace Frame

variable {default ceiling : Int}

/-- A mapping asks for the page that its two fields say. -/
theorem page_map (entries : List (Value × Value)) (hdefault : 1 ≤ default)
    (hceiling : 1 ≤ ceiling) :
    page (.map entries) default ceiling =
      .ok ⟨max (Page.numberOr 1 (Value.field "page" entries)) 1,
        Page.sizeWithin default ceiling
          (Page.numberOr default (Value.field "page_size" entries))⟩ :=
  Page.ofArguments_eq _ _ hdefault hceiling

/-- Whole numbers in range ask for the page that they are. -/
theorem page_of_fields {p : Page} {entries : List (Value × Value)} (hdefault : 1 ≤ default)
    (hnumber : 1 ≤ p.number) (hsize : 1 ≤ p.size) (hceiling : p.size ≤ ceiling)
    (hpage : Value.field "page" entries = .int p.number)
    (hpageSize : Value.field "page_size" entries = .int p.size) :
    page (.map entries) default ceiling = .ok p := by
  rw [page_map entries hdefault (Int.le_trans hsize hceiling), hpage, hpageSize, Page.numberOr,
    Page.numberOr, Int.max_eq_left hnumber, Page.sizeWithin_of_le hsize hceiling]

end Frame

/-- Asking for a page never fails. Whatever a mapping holds under the two names, and whatever else
    it holds, it asks for one of the pages with a size up to the ceiling, whose window passes the
    check of the builder, and so does no mapping at all. A whole number in range is kept as it is.
    The record of a page, with a total or without one, asks for the same page again. -/
theorem pages_of_arguments (entries : List (Value × Value)) {default ceiling : Int}
    (hdefault : 1 ≤ default) (hceiling : 1 ≤ ceiling) :
    (∃ p : Page, Frame.page (.map entries) default ceiling = .ok p ∧
      1 ≤ p.number ∧ 1 ≤ p.size ∧ p.size ≤ ceiling ∧ p.window.check = .ok () ∧
      (∀ n, Value.field "page" entries = .int n → 1 ≤ n → p.number = n) ∧
      ∀ n, Value.field "page_size" entries = .int n → 1 ≤ n → n ≤ ceiling → p.size = n) ∧
    Frame.page .null default ceiling = Frame.page (.map []) default ceiling ∧
    ∀ p : Page, 1 ≤ p.number → 1 ≤ p.size → p.size ≤ ceiling →
      Frame.page (Record.value p.record) default ceiling = .ok p ∧
      ∀ total, Frame.page (Record.value (p.recordOf total)) default ceiling = .ok p := by
  refine ⟨⟨_, Frame.page_map entries hdefault hceiling, ?_⟩, rfl, fun p hnumber hsize hle => ?_⟩
  · have hnumber := Int.le_max_right (Page.numberOr 1 (Value.field "page" entries)) 1
    have hsize := Page.one_le_sizeWithin hdefault hceiling
      (Page.numberOr default (Value.field "page_size" entries))
    refine ⟨hnumber, hsize, Int.min_le_right _ _, Page.check_window hnumber hsize, ?_, ?_⟩
    · intro n hn hle
      dsimp only
      rw [hn, Page.numberOr, Int.max_eq_left hle]
    · intro n hn hle hmax
      dsimp only
      rw [hn, Page.numberOr, Page.sizeWithin_of_le hle hmax]
  · exact ⟨Frame.page_of_fields hdefault hnumber hsize hle rfl rfl,
      fun total => Frame.page_of_fields hdefault hnumber hsize hle rfl rfl⟩

/-- What a caller may send who does not care: a text that is no number, and an infinite size. -/
def careless : List (Value × Value) :=
  [(.text "page", .text "NaN"), (.text "page_size", .float (.infinite false)),
    (.text "sort", .list [])]

/-- It asks for the first page, with a default that is cut down to the ceiling. -/
theorem pages_of_arguments_careless :
    Frame.page (.map careless) 50 20 = .ok ⟨1, 20⟩ ∧
      (∃ p : Page, Frame.page (.map careless) 50 20 = .ok p ∧ p.window.check = .ok ()) ∧
      Frame.page (Record.value (Page.recordOf ⟨7, 20⟩ 3)) 50 20 = .ok ⟨7, 20⟩ := by
  obtain ⟨⟨p, hp, -, -, -, hcheck, -⟩, -, hagain⟩ :=
    @pages_of_arguments careless 50 20 (by decide) (by decide)
  exact ⟨by rfl, ⟨p, hp, hcheck⟩,
    (hagain ⟨7, 20⟩ (by decide) (by decide) (by decide)).2 3⟩

end SqlCatalog
