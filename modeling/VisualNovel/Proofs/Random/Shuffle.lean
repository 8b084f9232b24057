import Mathlib.Data.Nat.Factorial.Basic
import VisualNovel.Random.Shuffle

/-!
Whatever a stream gives out, a shuffle stays within its items: each digit is below its base, so that
no item changes places with one that is not there.
-/

namespace VisualNovel.Random

theorem next_lt (r : Random) : r.next.1 < wordBound := UInt32.toNat_lt _

/-- The second word carries at most one into the digits that count. -/
theorem below_lt {bound : Nat} (pos : 0 < bound) (r : Random) : (r.below bound).1 < bound := by
  have word_lt := next_lt r
  have later_lt := next_lt r.next.2
  generalize hword : r.next.1 = word at word_lt
  generalize hlater : r.next.2.next.1 = later at later_lt
  have words : 0 < wordBound := Nat.pos_of_ne_zero (by omega)
  have high_lt : word * bound / wordBound < bound :=
    Nat.div_lt_of_lt_mul (Nat.mul_lt_mul_of_pos_right word_lt pos)
  unfold below
  simp only [hword, hlater]
  split
  · dsimp only
    split
    · next carries =>
      have carry_lt : later * bound / wordBound < bound :=
        Nat.div_lt_of_lt_mul (Nat.mul_lt_mul_of_pos_right later_lt pos)
      have parts := Nat.div_add_mod (word * bound) wordBound
      have product : word * bound + bound ≤ wordBound * bound := by
        rw [← Nat.succ_mul]
        exact Nat.mul_le_mul_right bound word_lt
      have total : wordBound * (word * bound / wordBound + 1) < wordBound * bound := by
        rw [Nat.mul_add, Nat.mul_one]
        omega
      exact Nat.lt_of_mul_lt_mul_left total
    · exact high_lt
  · exact high_lt

theorem ascFactorial_first (first count : Nat) :
    first.ascFactorial (count + 1) = first * (first + 1).ascFactorial count := by
  rw [Nat.ascFactorial_succ, ← Nat.succ_ascFactorial]

theorem stretch_eq (steps product next : Nat) : (stretch steps product next).1 =
    product * next.ascFactorial (stretch steps product next).2 := by
  induction steps generalizing product next with
  | zero => simp [stretch]
  | succ steps ih =>
    simp only [stretch]
    split
    · rw [ih, ascFactorial_first, Nat.mul_assoc]
    · simp

theorem longestProduct_eq (first : Nat) :
    (longestProduct first).1 = first.ascFactorial (longestProduct first).2 := by
  simp only [longestProduct, stretch_eq, ascFactorial_first]

/-- The digits that are left to give out have the given base and those above it. -/
def Digits.Fits (d : Digits) (base : Nat) : Prop :=
  d.remaining ≠ 0 → d.number < base.ascFactorial d.remaining

/-- The next digit is taken off a number that has room for it. -/
theorem Digits.next_fits {d : Digits} {base : Nat} (h : d.Fits base) (pos : 0 < base) (r : Random) :
    (d.next base r).1 < base ∧ (d.next base r).2.1.Fits (base + 1) := by
  -- the number is the one at hand, or a new one when none of its digits is left
  have supply : ∃ number remaining r', remaining ≠ 0 ∧ number < base.ascFactorial remaining ∧
      d.next base r =
        if remaining = 1 then (number, ⟨number, 0⟩, r')
        else (number % base, ⟨number / base, remaining - 1⟩, r') := by
    by_cases spent : d.remaining = 0
    · obtain ⟨base, rfl⟩ := Nat.exists_eq_add_one_of_ne_zero (Nat.ne_of_gt pos)
      have product := longestProduct_eq (base + 1)
      refine ⟨(r.below (longestProduct (base + 1)).1).1, (longestProduct (base + 1)).2,
        (r.below (longestProduct (base + 1)).1).2, Nat.succ_ne_zero _, ?_, ?_⟩
      · rw [← product]
        exact below_lt (product ▸ Nat.ascFactorial_pos base _) r
      · simp only [Digits.next, spent, if_true]
    · exact ⟨d.number, d.remaining, r, spent, h spent, by simp only [Digits.next, spent, if_false]⟩
  obtain ⟨number, remaining, r', left, fits, next⟩ := supply
  obtain ⟨count, rfl⟩ := Nat.exists_eq_add_one_of_ne_zero left
  rw [next]
  split
  · next last =>
    obtain rfl : count = 0 := by omega
    exact ⟨by simpa [ascFactorial_first] using fits, fun more => (more rfl).elim⟩
  · refine ⟨Nat.mod_lt _ pos, fun _ => ?_⟩
    rw [ascFactorial_first] at fits
    exact Nat.div_lt_of_lt_mul fits

variable {α : Type}

/-- A shuffle that fails when an item has to change places with one that is not there. -/
def shuffleFrom? : Nat → Nat → Digits → Random → Array α → Option (Array α × Random)
  | 0, _, _, r, items => some (items, r)
  | count + 1, index, digits, r, items =>
    let (other, digits, r) := digits.next (index + 1) r
    if h : index < items.size ∧ other < items.size then
      shuffleFrom? count (index + 1) digits r (items.swap index other h.1 h.2)
    else none

def shuffle? (r : Random) (items : List α) : Option (List α × Random) :=
  if items.length ≤ 1 then some (items, r)
  else (shuffleFrom? items.length 0 ⟨0, 1⟩ r items.toArray).map fun s => (s.1.toList, s.2)

theorem shuffleFrom?_eq {count index : Nat} {digits : Digits} {items : Array α}
    (fits : digits.Fits (index + 1)) (room : index + count ≤ items.size) (r : Random) :
    shuffleFrom? count index digits r items = some (shuffleFrom count index digits r items) := by
  induction count generalizing index digits r items with
  | zero => rfl
  | succ count ih =>
    obtain ⟨other_lt, later⟩ := Digits.next_fits fits (Nat.succ_pos index) r
    have index_lt : index < items.size := by omega
    have other_lt : (digits.next (index + 1) r).1 < items.size := by omega
    simp only [shuffleFrom?, shuffleFrom, index_lt, other_lt, and_self, dif_pos]
    rw [ih later (by simp only [Array.size_swap]; omega)]
    simp only [Array.swapIfInBounds, index_lt, other_lt, dif_pos]

/-- A shuffle never fails. -/
theorem shuffle?_eq (r : Random) (items : List α) : r.shuffle? items = some (r.shuffle items) := by
  unfold shuffle? shuffle
  split
  · rfl
  · rw [shuffleFrom?_eq (by simp [Digits.Fits]) (by simp)]
    rfl

end VisualNovel.Random
