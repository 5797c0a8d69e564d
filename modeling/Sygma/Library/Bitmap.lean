import Mathlib.Tactic.Common
import Mathlib.Data.Nat.Basic

/-!
# Flags packed into machine words

A set of positions kept as words of `w` bits: position `n` is bit `n % w` of word `n / w`. The
arithmetic is done on machine integers of the same width, as code that packs flags does it.
`isMarked_mark` and `position_ext` are what a client needs: marking a position adds that position
to its word and nothing else, and a position is determined by its word and its bit.
-/

namespace Bitmap

variable {w : Nat}

/-- The index of the word that holds a position. -/
def wordOf (position : BitVec w) : BitVec w :=
  position / BitVec.ofNat w w

/-- The word with only the bit of a position set. -/
def mask (position : BitVec w) : BitVec w :=
  1#w <<< (position % BitVec.ofNat w w)

/-- Whether a word has the bit of a position set. -/
def isMarked (word : BitVec w) (position : BitVec w) : Bool :=
  (word &&& mask position) != 0

/-- A word with the bit of a position set. -/
def mark (word : BitVec w) (position : BitVec w) : BitVec w :=
  word ||| mask position

/-- The width of a word is below its range, so it can be written in the word. -/
theorem toNat_width : (BitVec.ofNat w w).toNat = w := by
  rw [BitVec.toNat_ofNat]
  exact Nat.mod_eq_of_lt Nat.lt_two_pow_self

theorem toNat_wordOf (position : BitVec w) : (wordOf position).toNat = position.toNat / w := by
  rw [wordOf, BitVec.toNat_udiv, toNat_width]

/-- Bit `i` of the mask of a position is set exactly when `i` is the position's bit. -/
theorem getLsbD_mask (position : BitVec w) (i : Nat) :
    (mask position).getLsbD i = (decide (i < w) && decide (i = position.toNat % w)) := by
  unfold mask
  rw [BitVec.shiftLeft_eq', BitVec.getLsbD_shiftLeft, BitVec.toNat_umod, toNat_width,
    BitVec.getLsbD_one]
  by_cases hi : i < w
  · by_cases heq : i = position.toNat % w
    · subst heq
      simp only [hi]
      simp
      omega
    · simp only [hi, heq, decide_true, decide_false, Bool.and_false, Bool.true_and]
      by_cases hlt : i < position.toNat % w
      · simp [hlt]
      · have hpos : i - position.toNat % w ≠ 0 := by omega
        simp [hpos]
  · simp [hi]

/-- A position is marked in a word when its bit there is set. -/
theorem isMarked_eq (word : BitVec w) (position : BitVec w) (hw : 0 < w) :
    isMarked word position = word.getLsbD (position.toNat % w) := by
  have hbit : position.toNat % w < w := Nat.mod_lt _ hw
  have hmask := getLsbD_mask position
  unfold isMarked
  cases hword : word.getLsbD (position.toNat % w) with
  | false =>
      have hzero : word &&& mask position = 0 := by
        apply BitVec.eq_of_getLsbD_eq
        intro i hi
        rw [BitVec.getLsbD_and, hmask]
        by_cases heq : i = position.toNat % w
        · subst heq; simp [hword]
        · simp [heq]
      simp [hzero]
  | true =>
      have hbitset : (word &&& mask position).getLsbD (position.toNat % w) = true := by
        rw [BitVec.getLsbD_and, hmask, hword]
        simp [hbit]
      have hne : word &&& mask position ≠ 0 := by
        intro hzero
        rw [hzero] at hbitset
        simp at hbitset
      simpa using hne

/-- Marking a position adds its bit to the word and changes no other bit. -/
theorem isMarked_mark (word : BitVec w) (position other : BitVec w) (hw : 0 < w) :
    isMarked (mark word position) other =
      (isMarked word other || decide (other.toNat % w = position.toNat % w)) := by
  have hbit : other.toNat % w < w := Nat.mod_lt _ hw
  rw [isMarked_eq _ _ hw, isMarked_eq _ _ hw, mark, BitVec.getLsbD_or, getLsbD_mask]
  simp [hbit]

/-- No position is marked in the zero word. -/
@[simp] theorem isMarked_zero (position : BitVec w) : isMarked 0#w position = false := by
  simp [isMarked]

/-- A position is determined by its word and its bit. -/
theorem position_ext {position other : BitVec w} (hword : wordOf position = wordOf other)
    (hbit : position.toNat % w = other.toNat % w) : position = other := by
  apply BitVec.eq_of_toNat_eq
  have hdiv := congrArg BitVec.toNat hword
  rw [toNat_wordOf, toNat_wordOf] at hdiv
  rw [← Nat.div_add_mod position.toNat w, ← Nat.div_add_mod other.toNat w, hdiv, hbit]

/-- Marking two positions of one word in either order gives the same word. -/
theorem mark_comm (word : BitVec w) (position other : BitVec w) :
    mark (mark word position) other = mark (mark word other) position := by
  simp only [mark, BitVec.or_assoc, BitVec.or_comm (mask position)]

end Bitmap
