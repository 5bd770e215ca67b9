import SqlCatalog.Proofs.Basic
import SqlCatalog.Text.Case

/-!
# What Letter Case Can Bring Forth

Outside ASCII letter case is a table, and what a text becomes in upper or in lower case is a
question to the whole table: whether a capital has a capital of its own, or which letters
become ASCII letters. The table has well over a thousand letters, so they are not looked up
one by one. A set of code points is written as one number, with a bit for each of them; a run
of letters is a comb of bits, which is a quotient of two numbers. Two sets have nothing in
common when their numbers share no bit.

Two answers are needed. A capital stays as it is, so upper case is taken once and for all. And
the Kelvin sign is the only character outside ASCII that becomes ASCII in lower case; a check
that looks at a text in lower case cannot tell it from the letter k.

## Main definitions

* `comb`, `bits`: Sets of code points as numbers.
* `sources`, `targets`: The code points that a table moves, and where they land.
* `capitals`, `smallLetters`: The same for upper case as a whole.
* `kelvinSign`, `plainKelvin`: The character outside ASCII with an ASCII letter as its lower
  case, and the letter it looks like.

## Theorems

* `ne_of_testBit`: Numbers without a common bit stand for disjoint sets.
* `upper_upper`: Upper case of upper case is upper case.
* `eq_of_mem_upperChar`, `eq_of_mem_lowerChar`: A mark is the other case of itself only.
* `mem_lowerChar_cases`, `ascii_of_lower`: What becomes ASCII in lower case.
-/

namespace SqlCatalog

namespace Text

/-! ### Sets of code points -/

/-- A number with so many bits, each so many places above the one before. -/
def comb (step count : Nat) : Nat :=
  (1 <<< (step * count) - 1) / (1 <<< step - 1)

theorem one_le_bit (n : Nat) : 1 ≤ 1 <<< n := by
  rw [Nat.one_shiftLeft]
  exact Nat.one_le_two_pow

theorem comb_succ {step : Nat} (hstep : 0 < step) (count : Nat) :
    comb step (count + 1) = 1 <<< (step * count) + comb step count := by
  have hpos : 0 < 1 <<< step - 1 := by
    rw [Nat.one_shiftLeft]
    exact Nat.sub_pos_of_lt (Nat.one_lt_two_pow (Nat.ne_of_gt hstep))
  have hone := one_le_bit (step * count)
  have hle : 1 <<< (step * count) ≤ 1 <<< (step * count) * 1 <<< step :=
    Nat.le_mul_of_pos_right _ (one_le_bit step)
  have hsplit : 1 <<< (step * (count + 1)) - 1 =
      1 <<< (step * count) - 1 + 1 <<< (step * count) * (1 <<< step - 1) := by
    rw [Nat.mul_succ, Nat.shiftLeft_add, Nat.shiftLeft_eq (1 <<< (step * count)),
      ← Nat.one_shiftLeft, Nat.mul_sub_one]
    omega
  rw [comb, hsplit, Nat.add_mul_div_right _ _ hpos, Nat.add_comm, comb]

theorem comb_lt (step count : Nat) : comb step count < 1 <<< (step * count) :=
  Nat.lt_of_le_of_lt (Nat.div_le_self _ _) (Nat.sub_lt (one_le_bit _) Nat.one_pos)

theorem testBit_comb {step count i : Nat} (hstep : 0 < step) (hi : i < count) :
    (comb step count).testBit (step * i) = true := by
  induction count with
  | zero => exact absurd hi (Nat.not_lt_zero i)
  | succ k ih =>
      have hlow := comb_lt step k
      rw [Nat.one_shiftLeft] at hlow
      rw [comb_succ hstep, Nat.one_shiftLeft]
      rcases Nat.lt_succ_iff_lt_or_eq.mp hi with hlt | rfl
      · rw [Nat.testBit_two_pow_add_gt (Nat.mul_lt_mul_of_pos_left hlt hstep), ih hlt]
      · rw [Nat.testBit_two_pow_add_eq, Nat.testBit_lt_two_pow hlow]
        rfl

/-- A list of code points as one number, with a bit for each of them. -/
def bits (codes : List Nat) : Nat :=
  codes.foldr (fun n set => 1 <<< n ||| set) 0

theorem testBit_bits {codes : List Nat} {n : Nat} (h : n ∈ codes) :
    (bits codes).testBit n = true := by
  induction codes with
  | nil => exact absurd h List.not_mem_nil
  | cons m rest ih =>
      have hcons : bits (m :: rest) = 1 <<< m ||| bits rest := rfl
      rw [hcons, Nat.testBit_or, Bool.or_eq_true]
      rcases List.mem_cons.mp h with rfl | h
      · rw [Nat.one_shiftLeft, Nat.testBit_two_pow_self]
        exact .inl rfl
      · exact .inr (ih h)

/-- Numbers without a common bit stand for sets without a common member. -/
theorem ne_of_testBit {xs ys : Nat} (h : xs &&& ys = 0) {m n : Nat}
    (hm : xs.testBit m = true) (hn : ys.testBit n = true) : m ≠ n := by
  rintro rfl
  have hbit := congrArg (Nat.testBit · m) h
  rw [Nat.testBit_and, hm, hn, Nat.zero_testBit] at hbit
  exact absurd hbit (by decide)

namespace CaseRun

variable {r : CaseRun} {n : Nat}

/-- A run that leads to characters: what it leads to stays clear of the surrogates and within
    the code points. -/
def Lands (r : CaseRun) : Prop :=
  0 < r.step ∧ 0 ≤ r.first + r.distance ∧
    (r.last + r.distance < 0xD800 ∨ 0xDFFF < r.first + r.distance ∧ r.last + r.distance < 0x110000)

instance (r : CaseRun) : Decidable r.Lands :=
  inferInstanceAs (Decidable (_ ∧ _ ∧ (_ ∨ _ ∧ _)))

/-- As many code points as those of a run, from another one on. -/
def bitsFrom (r : CaseRun) (start : Nat) : Nat :=
  comb r.step ((r.last - r.first) / r.step + 1) <<< start

/-- A code point of a run is some steps away from the first. -/
theorem steps_of_covers (h : r.covers n = true) :
    n ≤ r.last ∧ ∃ i < (r.last - r.first) / r.step + 1, n = r.first + r.step * i := by
  simp only [covers, Bool.and_eq_true, decide_eq_true_eq, beq_iff_eq] at h
  obtain ⟨⟨hfirst, hlast⟩, hstep⟩ := h
  refine ⟨hlast, (n - r.first) / r.step, ?_, ?_⟩
  · exact Nat.lt_succ_of_le (Nat.div_le_div_right (Nat.sub_le_sub_right hlast r.first))
  · have hdiv := Nat.div_add_mod (n - r.first) r.step
    rw [hstep, Nat.add_zero] at hdiv
    omega

theorem testBit_bitsFrom (hlands : r.Lands) (h : r.covers n = true) (start : Nat) :
    (r.bitsFrom start).testBit (start + (n - r.first)) = true := by
  obtain ⟨-, i, hi, rfl⟩ := steps_of_covers h
  rw [bitsFrom, Nat.testBit_shiftLeft, Nat.add_sub_cancel_left, Nat.add_sub_cancel_left,
    testBit_comb hlands.1 hi, Bool.and_true, decide_eq_true_iff]
  exact Nat.le_add_right _ _

theorem move_eq (hlands : r.Lands) (h : r.covers n = true) :
    r.move n = r.move r.first + (n - r.first) := by
  obtain ⟨-, i, hi, rfl⟩ := steps_of_covers h
  have hpos := hlands.2.1
  rw [move, move]
  omega

theorem isValidChar_move (hlands : r.Lands) (h : r.covers n = true) :
    (r.move n).isValidChar := by
  obtain ⟨hlast, i, -, hn⟩ := steps_of_covers h
  obtain ⟨-, hpos, hrange⟩ := hlands
  rw [Nat.isValidChar, move]
  omega

end CaseRun

/-- The code points that the runs of a table move. -/
def sources (runs : List CaseRun) : Nat :=
  runs.foldr (fun r set => r.bitsFrom r.first ||| set) 0

/-- The code points that the runs of a table lead to. -/
def targets (runs : List CaseRun) : Nat :=
  runs.foldr (fun r set => r.bitsFrom (r.move r.first) ||| set) 0

theorem testBit_foldr {runs : List CaseRun} {r : CaseRun} (hr : r ∈ runs) (f : CaseRun → Nat)
    {n : Nat} (h : (f r).testBit n = true) :
    (runs.foldr (fun r set => f r ||| set) 0).testBit n = true := by
  induction runs with
  | nil => exact absurd hr List.not_mem_nil
  | cons s rest ih =>
      rw [List.foldr_cons, Nat.testBit_or, Bool.or_eq_true]
      rcases List.mem_cons.mp hr with rfl | hr
      · exact .inl h
      · exact .inr (ih hr)

section

variable {runs : List CaseRun} (hlands : ∀ r ∈ runs, r.Lands) {r : CaseRun} {c : Char}

include hlands

/-- A character stays where it is unless a run of the table moves it. -/
theorem moveCase_of_not_source (h : (sources runs).testBit c.toNat = false) :
    moveCase runs c = c := by
  have hnone : runs.find? (·.covers c.toNat) = none := by
    rw [List.find?_eq_none]
    intro r hr hcovers
    have hbit := CaseRun.testBit_bitsFrom (hlands r hr) hcovers r.first
    have hle : r.first ≤ c.toNat := by
      obtain ⟨-, i, -, hi⟩ := CaseRun.steps_of_covers hcovers
      exact hi ▸ Nat.le_add_right _ _
    rw [Nat.add_sub_cancel' hle] at hbit
    exact absurd (testBit_foldr hr (fun r => r.bitsFrom r.first) hbit) (h ▸ Bool.false_ne_true)
  rw [moveCase, hnone]

/-- A character that is moved comes from a run, and lands where the run leads to. -/
theorem exists_run_of_moveCase (h : moveCase runs c ≠ c) :
    ∃ r ∈ runs, r.covers c.toNat = true ∧ (moveCase runs c).toNat = r.move c.toNat := by
  unfold moveCase at h ⊢
  split
  · rename_i r hfind
    have hr := List.mem_of_find?_eq_some hfind
    have hcovers : r.covers c.toNat = true := by simpa using List.find?_some hfind
    refine ⟨r, hr, hcovers, ?_⟩
    rw [Char.ofNat, dif_pos (CaseRun.isValidChar_move (hlands r hr) hcovers)]
    rfl
  · rename_i hnone
    rw [hnone] at h
    exact absurd rfl h

theorem testBit_targets (h : moveCase runs c ≠ c) :
    (targets runs).testBit (moveCase runs c).toNat = true := by
  obtain ⟨r, hr, hcovers, hmove⟩ := exists_run_of_moveCase hlands h
  have hbit := CaseRun.testBit_bitsFrom (hlands r hr) hcovers (r.move r.first)
  rw [← CaseRun.move_eq (hlands r hr) hcovers, ← hmove] at hbit
  exact testBit_foldr hr (fun r => r.bitsFrom (r.move r.first)) hbit

end

/-! ### Upper case -/

/-- What letters outside ASCII have for capitals. -/
def capitals : Nat :=
  bits (upperExpansions.flatMap (·.2)) ||| targets upperRuns

/-- The letters that have other letters for their capitals. -/
def smallLetters : Nat :=
  bits (List.range' 0x61 26 ++ upperExpansions.map (·.1)) ||| sources upperRuns

theorem lands_upperRuns : ∀ r ∈ upperRuns, r.Lands := by
  decide +kernel

theorem isValidChar_upperExpansions : ∀ x ∈ upperExpansions, ∀ n ∈ x.2, n.isValidChar := by
  decide +kernel

/-- The code points of ASCII that are no letters. -/
def asciiMarks : List Nat :=
  List.range' 0 0x41 ++ List.range' 0x5B 6 ++ List.range' 0x7B 5

/-- No capital is a letter with a capital of its own, and none is a mark. -/
theorem bits_capitals : capitals &&& (smallLetters ||| bits asciiMarks) = 0 := by
  decide +kernel

/-- Inside ASCII the small letters move to the capitals, and nothing else does. -/
theorem toUpper_ascii {c : Char} (h : c.toNat < 0x80) :
    c.toUpper = c ∨ (0x61 ≤ c.toNat ∧ c.toNat < 0x7B ∧ 0x41 ≤ c.toUpper.toNat ∧
      c.toUpper.toNat < 0x5B ∧ c.toUpper.toUpper = c.toUpper) :=
  of_ascii (P := fun c => c.toUpper = c ∨ (0x61 ≤ c.toNat ∧ c.toNat < 0x7B ∧
    0x41 ≤ c.toUpper.toNat ∧ c.toUpper.toNat < 0x5B ∧ c.toUpper.toUpper = c.toUpper))
    (by decide +kernel) h

theorem upperChar_of_not_small {c : Char} (h : smallLetters.testBit c.toNat = false) :
    upperChar c = [c] := by
  rw [smallLetters, Nat.testBit_or, Bool.or_eq_false_iff] at h
  obtain ⟨hlist, hrun⟩ := h
  have hlist : c.toNat ∉ List.range' 0x61 26 ++ upperExpansions.map (·.1) :=
    fun hmem => absurd (testBit_bits hmem) (hlist ▸ Bool.false_ne_true)
  rw [List.mem_append, not_or] at hlist
  unfold upperChar
  split
  · rename_i hlt
    rcases toUpper_ascii hlt with hsame | ⟨hlo, hhi, -⟩
    · rw [hsame]
    · exact absurd (List.mem_range'_1.mpr ⟨hlo, hhi⟩) hlist.1
  · have hlookup : upperExpansions.lookup c.toNat = none := by
      rw [List.lookup_eq_none_iff]
      intro x hx
      rw [bne_iff_ne]
      rintro heq
      exact hlist.2 (List.mem_map.mpr ⟨x, hx, heq.symm⟩)
    rw [hlookup, moveCase_of_not_source lands_upperRuns hrun]

/-- Where a character in upper case comes from: it is an ASCII capital, or it was there before,
    or the table has it. -/
theorem mem_upperChar_cases {c d : Char} (h : d ∈ upperChar c) :
    (c.toNat < 0x80 ∧ d = c.toUpper) ∨ (d = c ∧ upperChar c = [c]) ∨
      capitals.testBit d.toNat = true := by
  unfold upperChar at h ⊢
  split at h
  · rename_i hascii
    exact .inl ⟨hascii, List.mem_singleton.mp h⟩
  · rename_i hascii
    split at h
    · rename_i expansion hlookup
      obtain ⟨n, hn, rfl⟩ := List.mem_map.mp h
      have hx := mem_of_lookup hlookup
      have hcode : (Char.ofNat n).toNat = n := by
        rw [Char.ofNat, dif_pos (isValidChar_upperExpansions _ hx n hn)]
        rfl
      rw [hcode, capitals, Nat.testBit_or, testBit_bits (List.mem_flatMap.mpr ⟨_, hx, hn⟩)]
      exact .inr (.inr rfl)
    · rename_i hlookup
      rw [List.mem_singleton] at h
      by_cases hmoves : moveCase upperRuns c = c
      · rw [hmoves] at h
        exact .inr (.inl ⟨h, by rw [if_neg hascii, hmoves]⟩)
      · rw [h, capitals, Nat.testBit_or, testBit_targets lands_upperRuns hmoves, Bool.or_true]
        exact .inr (.inr rfl)

/-- A capital is its own capital. -/
theorem upperChar_of_mem_upperChar {c d : Char} (h : d ∈ upperChar c) : upperChar d = [d] := by
  rcases mem_upperChar_cases h with ⟨hascii, rfl⟩ | ⟨rfl, hsame⟩ | hcapital
  · rcases toUpper_ascii hascii with hsame | ⟨-, -, -, hhi, htwice⟩
    · rw [hsame, upperChar_ascii hascii, hsame]
    · rw [upperChar_ascii (by omega), htwice]
  · exact hsame
  · refine upperChar_of_not_small (Bool.eq_false_iff.mpr fun hsmall => ?_)
    refine ne_of_testBit bits_capitals hcapital ?_ rfl
    rw [Nat.testBit_or, hsmall, Bool.true_or]

/-- Upper case of upper case is upper case. -/
theorem upper_upper (s : List Char) : upper (upper s) = upper s := by
  have hsettled : ∀ t : List Char, (∀ d ∈ t, upperChar d = [d]) → upper t = t := by
    intro t ht
    induction t with
    | nil => rfl
    | cons d rest ih =>
        have hrest := ih fun d' hd' => ht d' (List.mem_cons_of_mem d hd')
        rw [upper] at hrest ⊢
        rw [List.flatMap_cons, ht d List.mem_cons_self, hrest, List.singleton_append]
  refine hsettled _ fun d hd => ?_
  obtain ⟨c, -, hc⟩ := List.mem_flatMap.mp hd
  exact upperChar_of_mem_upperChar hc

/-- An ASCII character that is no letter is the upper case of itself only. -/
theorem eq_of_mem_upperChar {c d : Char} (hd : d.toNat ∈ asciiMarks) (h : d ∈ upperChar c) :
    d = c := by
  rcases mem_upperChar_cases h with ⟨hascii, rfl⟩ | ⟨rfl, -⟩ | hcapital
  · rcases toUpper_ascii hascii with hsame | ⟨-, -, hlo, hhi, -⟩
    · exact hsame
    · -- A capital is none of the marks.
      simp only [asciiMarks, List.mem_append, List.mem_range'_1] at hd
      omega
  · rfl
  · refine absurd rfl (ne_of_testBit bits_capitals hcapital ?_)
    rw [Nat.testBit_or, testBit_bits hd, Bool.or_true]

/-! ### Lower case -/

/-- The character outside ASCII that has an ASCII letter for its lower case. -/
def kelvinSign : Char := Char.ofNat 0x212A

theorem lands_lowerRuns : ∀ r ∈ lowerRuns, r.Lands := by
  decide +kernel

/-- Only one letter outside ASCII moves into ASCII. -/
theorem ascii_lowerRuns : ∀ r ∈ lowerRuns,
    0x80 ≤ r.first + r.distance ∨ (r.first = 0x212A ∧ r.last = 0x212A) := by
  decide +kernel

theorem moveCase_kelvinSign : moveCase lowerRuns kelvinSign = 'k' := by
  decide +kernel

theorem lowerChar_kelvinSign : lowerChar kelvinSign = ['k'] := by
  rw [lowerChar, if_neg (by decide), if_neg (by decide), moveCase_kelvinSign]

/-- Where an ASCII character in lower case comes from: ASCII, or one of two letters outside. -/
theorem mem_lowerChar_cases {c d : Char} (h : d ∈ lowerChar c) (hd : d.toNat < 0x80) :
    (c.toNat < 0x80 ∧ d = c.toLower) ∨ (c = dottedCapitalI ∧ d = 'i') ∨
      (c = kelvinSign ∧ d = 'k') := by
  unfold lowerChar at h
  split at h
  · exact .inl ⟨‹_›, List.mem_singleton.mp h⟩
  · rename_i hascii
    split at h
    · rename_i hdotted
      rw [List.mem_cons, List.mem_singleton] at h
      rcases h with hi | hdot
      · exact .inr (.inl ⟨hdotted, hi⟩)
      · rw [hdot] at hd
        exact absurd hd (by decide)
    · rw [List.mem_singleton] at h
      rw [h] at hd ⊢
      have hmoves : moveCase lowerRuns c ≠ c := by
        intro hstays
        rw [hstays] at hd
        exact hascii hd
      obtain ⟨r, hr, hcovers, hmove⟩ := exists_run_of_moveCase lands_lowerRuns hmoves
      obtain ⟨hlast, i, -, hcode⟩ := CaseRun.steps_of_covers hcovers
      have hkelvin : c = kelvinSign := by
        rw [hmove, CaseRun.move] at hd
        rcases ascii_lowerRuns r hr with hfar | ⟨hfirst, hfinal⟩
        · omega
        · rw [← Char.ofNat_toNat c, show c.toNat = 0x212A by omega]
          rfl
      rw [hkelvin]
      exact .inr (.inr ⟨rfl, moveCase_kelvinSign⟩)

/-- Inside ASCII the capitals move to the small letters, and nothing else does. -/
theorem toLower_ascii {c : Char} (h : c.toNat < 0x80) :
    c.toLower = c ∨ (0x61 ≤ c.toLower.toNat ∧ c.toLower.toNat < 0x7B) :=
  of_ascii (P := fun c => c.toLower = c ∨ (0x61 ≤ c.toLower.toNat ∧ c.toLower.toNat < 0x7B))
    (by decide +kernel) h

/-- An ASCII character that is no letter is the lower case of itself only. -/
theorem eq_of_mem_lowerChar {c d : Char} (hd : d.toNat ∈ asciiMarks) (h : d ∈ lowerChar c) :
    d = c := by
  simp only [asciiMarks, List.mem_append, List.mem_range'_1] at hd
  rcases mem_lowerChar_cases h (by omega) with ⟨hascii, rfl⟩ | ⟨-, rfl⟩ | ⟨-, rfl⟩
  · rcases toLower_ascii hascii with hsame | ⟨hlo, hhi⟩
    · exact hsame
    · omega
  · exact absurd hd (by decide)
  · exact absurd hd (by decide)

/-- A character whose lower case is in ASCII is in ASCII itself, or it is the Kelvin sign. -/
theorem eq_kelvinSign_of_lowerChar {c : Char} (h : ∀ d ∈ lowerChar c, d.toNat < 0x80) :
    c.toNat < 0x80 ∨ c = kelvinSign := by
  obtain ⟨d, hd⟩ : ∃ d, d ∈ lowerChar c := by
    unfold lowerChar
    repeat' split
    all_goals exact ⟨_, List.mem_cons_self⟩
  rcases mem_lowerChar_cases hd (h d hd) with ⟨hascii, -⟩ | ⟨rfl, -⟩ | ⟨hkelvin, -⟩
  · exact .inl hascii
  · -- The dot of the capital I is no ASCII character.
    exact absurd (h (Char.ofNat 0x307) (by decide)) (by decide)
  · exact .inr hkelvin

/-- A Kelvin sign read as the letter it looks like, and any other character as itself. -/
def plainKelvin (c : Char) : Char :=
  if c = kelvinSign then 'K' else c

theorem plainKelvin_of_ne {c : Char} (h : c ≠ kelvinSign) : plainKelvin c = c :=
  if_neg h

/-- A text whose lower case is in ASCII is in ASCII but for its Kelvin signs, and its lower case
    is taken letter by letter. -/
theorem ascii_of_lower {s : List Char} (h : ∀ d ∈ lower s, d.toNat < 0x80) :
    (∀ c ∈ s, (plainKelvin c).toNat < 0x80) ∧ lower s = s.map fun c => (plainKelvin c).toLower := by
  have hfrom : ∀ before, (∀ d ∈ lowerFrom before s, d.toNat < 0x80) →
      (∀ c ∈ s, (plainKelvin c).toNat < 0x80) ∧
        lowerFrom before s = s.map fun c => (plainKelvin c).toLower := by
    clear h
    induction s with
    | nil => exact fun _ _ => ⟨fun c hc => absurd hc List.not_mem_nil, rfl⟩
    | cons c rest ih =>
        intro before h
        rw [lowerFrom, List.forall_mem_append] at h
        obtain ⟨hhead, htail⟩ := h
        obtain ⟨hrest, hlower⟩ := ih (c :: before) htail
        rw [lowerFrom, hlower, List.forall_mem_cons, List.map_cons]
        split at hhead
        · -- Neither form of the sigma is in ASCII.
          have hsigma := hhead _ List.mem_cons_self
          split at hsigma <;> exact absurd hsigma (by decide)
        · rename_i hsigma
          rw [if_neg hsigma]
          rcases eq_kelvinSign_of_lowerChar hhead with hascii | rfl
          · have hne : c ≠ kelvinSign := by
              rintro rfl
              exact absurd hascii (by decide)
            rw [plainKelvin_of_ne hne, lowerChar, if_pos hascii]
            exact ⟨⟨hascii, hrest⟩, rfl⟩
          · rw [lowerChar_kelvinSign]
            exact ⟨⟨by decide, hrest⟩, rfl⟩
  exact hfrom [] h

end Text

end SqlCatalog
