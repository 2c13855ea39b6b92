import Mathlib.Data.List.Basic
import PageRouter.Text.Ranges

namespace PageRouter.Text

/-- A set of code points as a number with one bit for each of them, so that whole tables are compared at once. -/
def codeSet (codes : List Nat) : Nat :=
  codes.foldr (fun code set => 1 <<< code ||| set) 0

/-- The code points of some ranges, both ends of each included. -/
def rangeSet (ranges : List (Nat × Nat)) : Nat :=
  ranges.foldr (fun range set => (1 <<< (range.2 + 1 - range.1) - 1) <<< range.1 ||| set) 0

/-- The code points of all sets that a list stands for. -/
def unionSet {α : Type} (toSet : α → Nat) (list : List α) : Nat :=
  list.foldr (fun a set => toSet a ||| set) 0

/-- The bits of a set are its code points. -/
theorem testBit_codeSet {codes : List Nat} {code : Nat} : (codeSet codes).testBit code = true ↔ code ∈ codes := by
  induction codes with
  | nil => simp [codeSet]
  | cons first more ih =>
    have hcons : codeSet (first :: more) = 1 <<< first ||| codeSet more := rfl
    rw [hcons, Nat.testBit_or, Bool.or_eq_true, ih, List.mem_cons, Nat.one_shiftLeft, Nat.testBit_two_pow,
      decide_eq_true_eq, eq_comm (a := first)]

/-- A code point is in one of the sets. -/
theorem testBit_unionSet {α : Type} {toSet : α → Nat} {list : List α} {code : Nat} :
    (unionSet toSet list).testBit code = true ↔ ∃ a ∈ list, (toSet a).testBit code = true := by
  induction list with
  | nil => simp [unionSet]
  | cons first more ih =>
    have hcons : unionSet toSet (first :: more) = toSet first ||| unionSet toSet more := rfl
    rw [hcons, Nat.testBit_or, Bool.or_eq_true, ih]
    simp

/-- A character is in one of the ranges. -/
theorem testBit_rangeSet (ranges : List (Nat × Nat)) (c : Char) : (rangeSet ranges).testBit c.toNat = isIn ranges c := by
  induction ranges with
  | nil => simp [rangeSet, isIn]
  | cons first more ih =>
    have hcons : rangeSet (first :: more) = (1 <<< (first.2 + 1 - first.1) - 1) <<< first.1 ||| rangeSet more := rfl
    have hbit : ((1 <<< (first.2 + 1 - first.1) - 1) <<< first.1).testBit c.toNat =
        (decide (first.1 ≤ c.toNat) && decide (c.toNat ≤ first.2)) := by
      rw [Nat.testBit_shiftLeft, Nat.one_shiftLeft, Nat.testBit_two_pow_sub_one, Bool.eq_iff_iff]
      simp only [Bool.and_eq_true, decide_eq_true_eq]
      omega
    rw [hcons, Nat.testBit_or, hbit, ih]
    rfl

/-- Sets without a common bit have no common code point. -/
theorem testBit_eq_false_of_disjoint {first second : Nat} (hdisjoint : first &&& second = 0) {code : Nat}
    (hfirst : first.testBit code = true) : second.testBit code = false := by
  have hboth := congrArg (Nat.testBit · code) hdisjoint
  simpa [Nat.testBit_and, hfirst] using hboth

/-- Sets that have one code point in common have no other. -/
theorem testBit_eq_false_of_common {first second common : Nat} (hcommon : first &&& second = 1 <<< common) {code : Nat}
    (hne : common ≠ code) (hsecond : second.testBit code = true) : first.testBit code = false := by
  have hboth := congrArg (Nat.testBit · code) hcommon
  simpa [Nat.testBit_and, hsecond, Nat.one_shiftLeft, Nat.testBit_two_pow, hne] using hboth

end PageRouter.Text
