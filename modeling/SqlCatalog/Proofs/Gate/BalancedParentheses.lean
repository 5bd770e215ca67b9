import Mathlib.Data.List.Infix
import Mathlib.Order.Bounds.Basic
import SqlCatalog.Gate.Nesting

/-!
# Balanced Parentheses

The gate limits how deep the parentheses of a query may be nested, and it counts them with a
number that goes up and down. Whether a text is balanced and how deep it is nested is said here
without a counter: balanced parentheses are those that the grammar S → ε | ( S ) S derives, and
their depth is that of the derivation.

The counter knows less than a derivation, since it forgets what was closed. What links the two is
how the text up to some point is put together (`Opened`): balanced parentheses, then an opening
one that still waits, balanced parentheses again, and so on, with one part more than parentheses
that wait. A closing parenthesis joins the last two parts to one.

A text that is not balanced has a depth too, although no derivation. It is that of the part that
was read, which ends before the first closing parenthesis without a partner. Partners are found
by derivations: a closing parenthesis has one if balanced parentheses, and before them an opening
one, are what it follows.

## Main definitions

* `Derivation`: A derivation of balanced parentheses, with its `word` and its `depth`.
* `parentheses`: A text without all other characters.
* `Awaits`: A closing parenthesis behind the text would have a partner in it.
* `IsMatchedPart`: The part of a text before the first closing parenthesis without a partner.
* `Opened`: Parentheses of which some are not closed yet.
* `Scanned`: What is known of the part of a text that was read.

## Theorems

* `nesting_of_word`: Balanced parentheses are found to be balanced, with their depth.
* `Opened.close`: A closing parenthesis joins two balanced parts.
* `Scanned.run`: The scan stops at the end or at a closing parenthesis without a partner.
* `nesting_of_derivation`: The counter decides the grammar and finds the depth.
-/

namespace SqlCatalog

namespace Gate

/-- A derivation of balanced parentheses: there are none, or there is a pair with balanced
    parentheses inside and behind. -/
inductive Derivation where
  | empty
  | pair (inside behind : Derivation)

namespace Derivation

/-- The parentheses that are derived. -/
def word : Derivation → List Char
  | .empty => []
  | .pair inside behind => '(' :: (inside.word ++ ')' :: behind.word)

/-- How many pairs there are around one another. -/
def depth : Derivation → Nat
  | .empty => 0
  | .pair inside behind => max (inside.depth + 1) behind.depth

/-- One derivation behind another. -/
def append : Derivation → Derivation → Derivation
  | .empty, e => e
  | .pair inside behind, e => .pair inside (behind.append e)

theorem word_append (d e : Derivation) : (d.append e).word = d.word ++ e.word := by
  induction d with
  | empty => rfl
  | pair inside behind _ ih => simp [append, word, ih]

theorem depth_append (d e : Derivation) : (d.append e).depth = max d.depth e.depth := by
  induction d with
  | empty => simp [append, depth]
  | pair inside behind _ ih => simp [append, depth, ih, max_assoc]

end Derivation

/-- The parentheses of a text. -/
def parentheses (s : List Char) : List Char :=
  s.filter fun c => c = '(' || c = ')'

/-- How many parentheses are open behind a text, if every closing one has a partner. -/
def openCount (s : List Char) : ℤ :=
  s.count '(' - s.count ')'

/-- A closing parenthesis behind the text would have a partner in it: an opening one, with
    balanced parentheses in between. -/
def Awaits (p : List Char) : Prop :=
  ∃ before inside, p = before ++ '(' :: inside ∧ ∃ d : Derivation, d.word = parentheses inside

/-- The part of a text before the first closing parenthesis that has no partner, or all of it
    where each has one. -/
structure IsMatchedPart (s p : List Char) : Prop where
  matched : ∀ before, before ++ [')'] <+: p → Awaits before
  ends : p = s ∨ p ++ [')'] <+: s ∧ ¬Awaits p

/-- There is one such part: in a longer one the closing parenthesis would have a partner. -/
theorem IsMatchedPart.unique {s p q : List Char} (hp : IsMatchedPart s p)
    (hq : IsMatchedPart s q) : p = q := by
  have hpart {r : List Char} (hr : IsMatchedPart s r) : r <+: s := by
    rcases hr.ends with rfl | ⟨hnext, -⟩
    · exact List.prefix_rfl
    · exact (List.prefix_append r [')']).trans hnext
  have hlonger {q r : List Char} (hq : IsMatchedPart s q) (hr : IsMatchedPart s r)
      (hle : q.length ≤ r.length) : q = r := by
    have hqr := List.prefix_of_prefix_length_le (hpart hq) (hpart hr) hle
    by_cases heq : q.length = r.length
    · exact hqr.eq_of_length heq
    rcases hq.ends with rfl | ⟨hnext, hawaits⟩
    · exact absurd (hpart hr).length_le (by omega)
    · have hshort : (q ++ [')']).length ≤ r.length := by
        rw [List.length_append, List.length_singleton]
        omega
      have hwithin := List.prefix_of_prefix_length_le hnext (hpart hr) hshort
      exact absurd (hr.matched q hwithin) hawaits
  rcases Nat.le_total p.length q.length with hle | hle
  · exact hlonger hp hq hle
  · exact (hlonger hq hp hle).symm

/-! ### The parentheses of a text -/

theorem parentheses_append (s t : List Char) :
    parentheses (s ++ t) = parentheses s ++ parentheses t :=
  List.filter_append s t

theorem parentheses_of_ne {c : Char} (hopen : c ≠ '(') (hclose : c ≠ ')') (s : List Char) :
    parentheses (c :: s) = parentheses s :=
  List.filter_cons_of_neg (by simp [hopen, hclose])

/-! ### Steps of the scan -/

section Steps

variable (current deepest : Nat) (rest : List Char)

theorem nestingFrom_open : nestingFrom current deepest ('(' :: rest) =
    nestingFrom (current + 1) (max deepest (current + 1)) rest := by
  simp [nestingFrom]

theorem nestingFrom_close : nestingFrom (current + 1) deepest (')' :: rest) =
    nestingFrom current deepest rest := by
  simp [nestingFrom]

theorem nestingFrom_unmatched : nestingFrom 0 deepest (')' :: rest) = ⟨false, deepest⟩ := by
  simp [nestingFrom]

theorem nestingFrom_other {c : Char} (hopen : c ≠ '(') (hclose : c ≠ ')') :
    nestingFrom current deepest (c :: rest) = nestingFrom current deepest rest := by
  simp [nestingFrom, hopen, hclose]

end Steps

/-! ### Derived parentheses are counted -/

/-- The scan passes over everything that is no parenthesis. -/
theorem nestingFrom_parentheses (current deepest : Nat) (s : List Char) :
    nestingFrom current deepest (parentheses s) = nestingFrom current deepest s := by
  induction s generalizing current deepest with
  | nil => rfl
  | cons c rest ih =>
      by_cases hopen : c = '('
      · rw [hopen, show parentheses ('(' :: rest) = '(' :: parentheses rest from rfl,
          nestingFrom_open, nestingFrom_open, ih]
      by_cases hclose : c = ')'
      · rw [hclose, show parentheses (')' :: rest) = ')' :: parentheses rest from rfl]
        cases current with
        | zero => rw [nestingFrom_unmatched, nestingFrom_unmatched]
        | succ k => rw [nestingFrom_close, nestingFrom_close, ih]
      · rw [parentheses_of_ne hopen hclose, nestingFrom_other _ _ _ hopen hclose, ih]

/-- Behind balanced parentheses as many are open as before them. -/
theorem nestingFrom_word (d : Derivation) {current deepest : Nat} (h : current ≤ deepest)
    (rest : List Char) :
    nestingFrom current deepest (d.word ++ rest) =
      nestingFrom current (max deepest (current + d.depth)) rest := by
  induction d generalizing current deepest rest with
  | empty => simp [Derivation.word, Derivation.depth, h]
  | pair inside behind ihInside ihBehind =>
      have hdepth : max (max (max deepest (current + 1)) (current + 1 + inside.depth))
          (current + behind.depth) =
          max deepest (current + max (inside.depth + 1) behind.depth) := by
        omega
      rw [Derivation.word, List.cons_append, List.append_assoc, List.cons_append, nestingFrom_open,
        ihInside (Nat.le_max_right _ _), nestingFrom_close, ihBehind (by omega), hdepth,
        Derivation.depth]

/-- Balanced parentheses are found to be balanced, with the depth of their derivation. -/
theorem nesting_of_word {d : Derivation} {s : List Char} (h : d.word = parentheses s) :
    nesting s = ⟨true, d.depth⟩ := by
  have hword := nestingFrom_word d (le_refl 0) []
  rw [List.append_nil, h, nestingFrom_parentheses] at hword
  rw [nesting, hword, nestingFrom]
  simp

/-! ### Counting -/

theorem openCount_append (s t : List Char) : openCount (s ++ t) = openCount s + openCount t := by
  simp only [openCount, List.count_append]
  omega

theorem openCount_parentheses (s : List Char) : openCount (parentheses s) = openCount s := by
  rw [openCount, openCount, parentheses, List.count_filter rfl, List.count_filter rfl]

theorem openCount_word (d : Derivation) : openCount d.word = 0 := by
  induction d with
  | empty => rfl
  | pair inside behind ihInside ihBehind =>
      have hpair : ('(' :: (inside.word ++ ')' :: behind.word)) =
          ['('] ++ (inside.word ++ ([')'] ++ behind.word)) := rfl
      rw [Derivation.word, hpair, openCount_append, openCount_append, openCount_append, ihInside,
        ihBehind]
      rfl

/-- The numbers of parentheses that are open behind the parts of a text from its start. -/
def openCounts (s : List Char) : Set ℤ :=
  {n | ∃ q, q <+: s ∧ openCount q = n}

theorem openCounts_concat (s : List Char) (c : Char) :
    openCounts (s ++ [c]) = insert (openCount (s ++ [c])) (openCounts s) := by
  ext n
  simp only [openCounts, Set.mem_ofPred_eq, Set.mem_insert_iff, List.prefix_concat_iff]
  constructor
  · rintro ⟨q, rfl | hq, rfl⟩
    · exact .inl rfl
    · exact .inr ⟨q, hq, rfl⟩
  · rintro (rfl | ⟨q, hq, rfl⟩)
    · exact ⟨_, .inl rfl, rfl⟩
    · exact ⟨q, .inr hq, rfl⟩

/-! ### Parentheses that are not closed yet -/

/-- Parentheses of which some are not closed yet, with their number and with the depth of the
    whole: balanced ones, or an opening one behind others with balanced ones behind it. -/
inductive Opened : List Char → Nat → Nat → Prop
  | balanced (d : Derivation) : Opened d.word 0 d.depth
  | waiting {w : List Char} {current deepest : Nat} (h : Opened w current deepest)
      (d : Derivation) :
      Opened (w ++ '(' :: d.word) (current + 1) (max deepest (current + 1 + d.depth))

namespace Opened

variable {w : List Char} {current deepest : Nat}

/-- An opening parenthesis waits, with nothing behind it. -/
theorem push (h : Opened w current deepest) :
    Opened (w ++ ['(']) (current + 1) (max deepest (current + 1)) :=
  h.waiting .empty

/-- A closing parenthesis joins the last two balanced parts to one. -/
theorem close (h : Opened w (current + 1) deepest) : Opened (w ++ [')']) current deepest := by
  obtain ⟨before, d, e, hbefore, rfl, rfl⟩ : ∃ before d e, Opened before current e ∧
      w = before ++ '(' :: Derivation.word d ∧ deepest = max e (current + 1 + d.depth) := by
    cases h with
    | waiting hbefore d => exact ⟨_, d, _, hbefore, rfl, rfl⟩
  -- The pair goes to the end of the part before it.
  have hjoin (c : Derivation) : c.word ++ '(' :: d.word ++ [')'] =
      (c.append (.pair d .empty)).word := by
    simp [Derivation.word_append, Derivation.word]
  have hdepth (c : Derivation) : (c.append (.pair d .empty)).depth = max c.depth (d.depth + 1) := by
    simp [Derivation.depth_append, Derivation.depth]
  cases hbefore with
  | balanced c =>
      rw [hjoin, show max c.depth (0 + 1 + d.depth) = (c.append (.pair d .empty)).depth by
        rw [hdepth]; omega]
      exact .balanced _
  | @waiting first k reached hfirst c =>
      have htext : first ++ '(' :: c.word ++ '(' :: d.word ++ [')'] =
          first ++ '(' :: (c.append (.pair d .empty)).word := by
        rw [← hjoin]
        simp
      rw [htext, show max (max reached (k + 1 + c.depth)) (k + 1 + 1 + d.depth) =
          max reached (k + 1 + (c.append (.pair d .empty)).depth) by rw [hdepth]; omega]
      exact hfirst.waiting _

/-- Parentheses of which none waits are balanced. -/
theorem exists_derivation (h : Opened w 0 deepest) : ∃ d : Derivation, d.word = w := by
  cases h with
  | balanced d => exact ⟨d, rfl⟩

/-- A text of which a parenthesis waits has it before balanced ones. -/
theorem awaits {p : List Char} (h : Opened (parentheses p) (current + 1) deepest) : Awaits p := by
  generalize hw : parentheses p = w at h
  cases h with
  | waiting hbefore d =>
      obtain ⟨before, tail, rfl, -, htail⟩ := List.filter_eq_append_iff.mp hw
      obtain ⟨others, inside, rfl, -, -, hinside⟩ := List.filter_eq_cons_iff.mp htail
      exact ⟨before ++ others, inside, (List.append_assoc _ _ _).symm, d, hinside.symm⟩

end Opened

/-! ### The scan -/

/-- What is known of the part of a text that was read, given how many parentheses are open behind
    it and the depth reached in it. -/
structure Scanned (p : List Char) (current deepest : Nat) : Prop where
  opened : Opened (parentheses p) current deepest
  matched : ∀ before, before ++ [')'] <+: p → Awaits before
  count : openCount p = current
  notBelow : ∀ n ∈ openCounts p, 0 ≤ n
  greatest : IsGreatest (openCounts p) deepest

namespace Scanned

variable {p : List Char} {current deepest : Nat}

theorem nil : Scanned [] 0 0 where
  opened := .balanced .empty
  matched before h := absurd h (by simp)
  count := rfl
  notBelow := by simp [openCounts, openCount]
  greatest := by simp [openCounts, openCount, IsGreatest, upperBounds]

theorem current_le (h : Scanned p current deepest) : current ≤ deepest := by
  have hle := h.greatest.2 ⟨p, List.prefix_rfl, h.count⟩
  exact Int.ofNat_le.mp hle

/-- One more character has to be read so that its count is no less than zero, and so that it has
    a partner where it needs one. -/
theorem concat (h : Scanned p current deepest) {c : Char} {next : Nat} {reached : Nat}
    (hopened : Opened (parentheses (p ++ [c])) next reached) (hawaits : c = ')' → Awaits p)
    (hcount : openCount (p ++ [c]) = next) (hreached : reached = max next deepest) :
    Scanned (p ++ [c]) next reached where
  opened := hopened
  matched before hbefore := by
    rcases List.prefix_concat_iff.mp hbefore with heq | hbefore
    · obtain ⟨rfl, hc⟩ := List.append_inj' heq rfl
      exact hawaits (List.singleton_inj.mp hc).symm
    · exact h.matched before hbefore
  count := hcount
  notBelow n hn := by
    rw [openCounts_concat] at hn
    rcases hn with rfl | hn
    · rw [hcount]
      exact Int.natCast_nonneg next
    · exact h.notBelow n hn
  greatest := by
    have hmax : ((max next deepest : ℕ) : ℤ) = max (next : ℤ) deepest := by omega
    rw [openCounts_concat, hcount, hreached, hmax]
    exact h.greatest.insert _

/-- An opening parenthesis. -/
theorem push (h : Scanned p current deepest) :
    Scanned (p ++ ['(']) (current + 1) (max deepest (current + 1)) := by
  refine h.concat ?_ (fun hc => absurd hc (by decide)) ?_ (max_comm _ _)
  · rw [parentheses_append]
    exact h.opened.push
  · rw [openCount_append, h.count]
    rfl

/-- A closing parenthesis, when one is open. -/
theorem close (h : Scanned p (current + 1) deepest) : Scanned (p ++ [')']) current deepest := by
  have hle := h.current_le
  refine h.concat ?_ (fun _ => h.opened.awaits) ?_ (by omega)
  · rw [parentheses_append]
    exact h.opened.close
  · have hone : openCount [')'] = -1 := rfl
    rw [openCount_append, h.count, hone]
    omega

/-- Any other character. -/
theorem other (h : Scanned p current deepest) {c : Char} (hopen : c ≠ '(') (hclose : c ≠ ')') :
    Scanned (p ++ [c]) current deepest := by
  have hle := h.current_le
  refine h.concat ?_ (fun hc => absurd hc hclose) ?_ (by omega)
  · rw [parentheses_append, parentheses_of_ne hopen hclose]
    exact (List.append_nil (parentheses p)).symm ▸ h.opened
  · rw [openCount_append, h.count]
    simp [openCount, hopen, hclose]

/-- Behind a text of which no parenthesis is open a closing one has no partner. -/
theorem not_awaits (h : Scanned p 0 deepest) : ¬Awaits p := by
  rintro ⟨before, inside, rfl, d, hinside⟩
  -- The opening parenthesis makes up for one that was closed before anything was opened.
  have hnone := h.count
  have hbefore := h.notBelow _ ⟨before, List.prefix_append _ _, rfl⟩
  rw [← List.singleton_append, openCount_append, openCount_append, ← openCount_parentheses inside,
    ← hinside, openCount_word] at hnone
  have hone : openCount ['('] = 1 := rfl
  omega

/-- The scan stops at the end of the text, or at a closing parenthesis where none is open. The
    induction is on what is left, so the part that was read grows. -/
theorem run (h : Scanned p current deepest) (rest : List Char) :
    ∃ read left, Scanned read left (nestingFrom current deepest rest).depth ∧
      (read = p ++ rest ∧ (nestingFrom current deepest rest).balanced = (left == 0) ∨
        left = 0 ∧ (nestingFrom current deepest rest).balanced = false ∧
          read ++ [')'] <+: p ++ rest) := by
  induction rest generalizing p current deepest with
  | nil => exact ⟨p, current, h, .inl ⟨(List.append_nil p).symm, rfl⟩⟩
  | cons c rest ih =>
      have hnext : p ++ c :: rest = p ++ [c] ++ rest := (List.append_assoc p [c] rest).symm
      rw [hnext]
      by_cases hopen : c = '('
      · rw [hopen, nestingFrom_open]
        exact ih h.push
      by_cases hclose : c = ')'
      · rw [hclose]
        cases current with
        | zero =>
            rw [nestingFrom_unmatched]
            exact ⟨p, 0, h, .inr ⟨rfl, rfl, List.prefix_append _ _⟩⟩
        | succ k =>
            rw [nestingFrom_close]
            exact ih h.close
      · rw [nestingFrom_other _ _ _ hopen hclose]
        exact ih (h.other hopen hclose)

end Scanned

/-- The counter decides the grammar of balanced parentheses. A text is found to be balanced if and
    only if its parentheses can be derived, and the depth then is that of the derivation. In every
    text, balanced or not, the depth is the greatest number of parentheses that are open at a time
    before the first closing one that has no partner, or in the whole text when each has one. -/
theorem nesting_of_derivation (s : List Char) :
    ((nesting s).balanced = true ↔ ∃ d : Derivation, d.word = parentheses s) ∧
      (∀ d : Derivation, d.word = parentheses s → (nesting s).depth = d.depth) ∧
      (∃ p, IsMatchedPart s p) ∧
      ∀ p, IsMatchedPart s p → IsGreatest (openCounts p) (nesting s).depth := by
  obtain ⟨read, left, hread, hstop⟩ := Scanned.nil.run s
  rw [← nesting] at hread hstop
  rw [List.nil_append] at hstop
  have hpart : IsMatchedPart s read := by
    refine ⟨hread.matched, ?_⟩
    rcases hstop with ⟨hall, -⟩ | ⟨rfl, -, hnext⟩
    · exact .inl hall
    · exact .inr ⟨hnext, hread.not_awaits⟩
  refine ⟨⟨fun hbalanced => ?_, fun ⟨d, hd⟩ => by rw [nesting_of_word hd]⟩,
    fun d hd => by rw [nesting_of_word hd], ⟨read, hpart⟩, fun p hp => ?_⟩
  · rcases hstop with ⟨rfl, hleft⟩ | ⟨-, hfalse, -⟩
    · rw [hbalanced, eq_comm, beq_iff_eq] at hleft
      rw [hleft] at hread
      exact hread.opened.exists_derivation
    · exact absurd (hbalanced.symm.trans hfalse) (by decide)
  · rw [hp.unique hpart]
    exact hread.greatest

/-- Two pairs in a pair, with other characters around them. -/
example : nesting "f(a(b), (c))".toList = ⟨true, 2⟩ := by decide

/-- What follows a closing parenthesis without a partner is not read. -/
example : nesting "(a))((".toList = ⟨false, 1⟩ := by decide

end Gate

end SqlCatalog
