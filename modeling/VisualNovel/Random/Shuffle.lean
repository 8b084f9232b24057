import VisualNovel.Powers
import VisualNovel.Random.Stream

/-!
Shuffling: each item changes places with one that does not come after it. The choices are digits of
larger random numbers, in a number system whose bases go up by one.
-/

namespace VisualNovel.Random

def wordBound : Nat := twoTo 32

/-- A number below `bound`, from one word, or from two where one would be too uneven. -/
def below (bound : Nat) (r : Random) : Nat × Random :=
  let (word, r) := r.next
  let high := word * bound / wordBound
  let low := word * bound % wordBound
  if wordBound - bound < low then
    let (word, r) := r.next
    (if wordBound ≤ low + word * bound / wordBound then high + 1 else high, r)
  else (high, r)

/-- Multiply by the next numbers while the product fits a word; also how many there are. -/
def stretch : Nat → Nat → Nat → Nat × Nat
  | 0, product, _ => (product, 0)
  | steps + 1, product, next =>
    if product * next < wordBound then
      let (product, count) := stretch steps (product * next) (next + 1)
      (product, count + 1)
    else (product, 0)

/-- The longest product of numbers from `first` on that fits a word, and the number of factors. At
each step a product from two on doubles. -/
def longestProduct (first : Nat) : Nat × Nat :=
  let (product, count) := stretch 32 first (first + 1)
  (product, count + 1)

/-- Digits that are still to be given out. -/
structure Digits where
  number : Nat
  remaining : Nat

def Digits.next (d : Digits) (base : Nat) (r : Random) : Nat × Digits × Random :=
  let (number, remaining, r) :=
    if d.remaining = 0 then
      let (product, count) := longestProduct base
      let (number, r) := r.below product
      (number, count, r)
    else (d.number, d.remaining, r)
  if remaining = 1 then (number, ⟨number, 0⟩, r)
  else (number % base, ⟨number / base, remaining - 1⟩, r)

variable {α : Type}

/-- Let the items from `index` on change places, `count` of them. -/
def shuffleFrom : Nat → Nat → Digits → Random → Array α → Array α × Random
  | 0, _, _, r, items => (items, r)
  | count + 1, index, digits, r, items =>
    let (other, digits, r) := digits.next (index + 1) r
    shuffleFrom count (index + 1) digits r (items.swapIfInBounds index other)

/-- The first digit is nought and needs no random number. -/
def shuffle (r : Random) (items : List α) : List α × Random :=
  if items.length ≤ 1 then (items, r)
  else
    let (shuffled, r) := shuffleFrom items.length 0 ⟨0, 1⟩ r items.toArray
    (shuffled.toList, r)

theorem swapIfInBounds_perm (items : Array α) (i j : Nat) :
    (items.swapIfInBounds i j).toList.Perm items.toList := by
  unfold Array.swapIfInBounds
  split
  · split
    · exact (Array.swap_perm _ _).toList
    · exact .refl _
  · exact .refl _

theorem shuffleFrom_perm (count index : Nat) (digits : Digits) (r : Random) (items : Array α) :
    (shuffleFrom count index digits r items).1.toList.Perm items.toList := by
  induction count generalizing index digits r items with
  | zero => exact .refl _
  | succ count ih => exact (ih _ _ _ _).trans (swapIfInBounds_perm _ _ _)

theorem shuffle_perm (r : Random) (items : List α) : (shuffle r items).1.Perm items := by
  unfold shuffle
  split
  · exact .refl _
  · exact shuffleFrom_perm _ _ _ _ _

end VisualNovel.Random
