import Mathlib.Algebra.Group.Nat.Defs
import Mathlib.Tactic.Common
import Mathlib.Data.List.Induction

/-!
# Byte strings and fixed-width big-endian numbers

`toBigEndian width n` writes the low `width` bytes of `n`, the most significant byte first, and
`ofBigEndian` reads a byte string as a number. `of_to_big_endian` and `to_of_big_endian` are the
two round trips. `flatten_inj` recovers a list of equally long blocks from its concatenation, also
when the two lists are not known to have the same length.
-/

/-- A byte. -/
abbrev Byte := BitVec 8

/-- A byte string. -/
abbrev Bytes := List Byte

namespace Bytes

/-- The bytes of a text, one per character; the texts of the model are ASCII. -/
def ofString (text : String) : Bytes :=
  text.toList.map fun char => BitVec.ofNat 8 char.toNat

/-- The low `width` bytes of a number, the most significant first. -/
def toBigEndian : Nat → Nat → Bytes
  | 0, _ => []
  | width + 1, number => toBigEndian width (number / 256) ++ [BitVec.ofNat 8 number]

/-- The number a byte string spells, the most significant byte first. -/
def ofBigEndian (bytes : Bytes) : Nat :=
  bytes.foldl (fun value byte => value * 256 + byte.toNat) 0

@[simp] theorem length_to_big_endian (width number : Nat) :
    (toBigEndian width number).length = width := by
  induction width generalizing number with
  | zero => rfl
  | succ width ih => simp [toBigEndian, ih]

@[simp] theorem of_big_endian_nil : ofBigEndian [] = 0 := rfl

@[simp] theorem of_big_endian_append_singleton (bytes : Bytes) (byte : Byte) :
    ofBigEndian (bytes ++ [byte]) = ofBigEndian bytes * 256 + byte.toNat := by
  simp [ofBigEndian]

/-- A byte string of a given length spells a number below the corresponding power. -/
theorem of_big_endian_lt (bytes : Bytes) : ofBigEndian bytes < 256 ^ bytes.length := by
  induction bytes using List.reverseRecOn with
  | nil => simp
  | append_singleton rest byte ih =>
      have hbyte : byte.toNat < 256 := byte.isLt
      rw [of_big_endian_append_singleton, List.length_append, List.length_singleton, Nat.pow_succ]
      omega

/-- Reading back a written number gives its low bytes. -/
theorem of_to_big_endian (width number : Nat) :
    ofBigEndian (toBigEndian width number) = number % 256 ^ width := by
  induction width generalizing number with
  | zero => simp [toBigEndian, Nat.mod_one]
  | succ width ih =>
      rw [toBigEndian, of_big_endian_append_singleton, ih, Nat.pow_succ, Nat.mul_comm (256 ^ width),
        Nat.mod_mul, BitVec.toNat_ofNat]
      omega

/-- Reading back a number that fits gives the number. -/
theorem of_to_big_endian_of_lt {width number : Nat} (h : number < 256 ^ width) :
    ofBigEndian (toBigEndian width number) = number := by
  rw [of_to_big_endian, Nat.mod_eq_of_lt h]

/-- Writing back the number a byte string spells gives the byte string. -/
theorem to_of_big_endian (bytes : Bytes) :
    toBigEndian bytes.length (ofBigEndian bytes) = bytes := by
  induction bytes using List.reverseRecOn with
  | nil => rfl
  | append_singleton rest byte ih =>
      have hbyte : byte.toNat < 256 := byte.isLt
      have hdiv : (ofBigEndian rest * 256 + byte.toNat) / 256 = ofBigEndian rest := by omega
      have hlow : BitVec.ofNat 8 (ofBigEndian rest * 256 + byte.toNat) = byte := by
        apply BitVec.eq_of_toNat_eq
        rw [BitVec.toNat_ofNat]
        omega
      rw [List.length_append, List.length_singleton, of_big_endian_append_singleton, toBigEndian,
        hdiv, hlow, ih]

/-- Numbers that fit are determined by their bytes. -/
theorem to_big_endian_inj {width first second : Nat} (hfirst : first < 256 ^ width)
    (hsecond : second < 256 ^ width) (h : toBigEndian width first = toBigEndian width second) :
    first = second := by
  rw [← of_to_big_endian_of_lt hfirst, h, of_to_big_endian_of_lt hsecond]

/-- A list of blocks of one positive length is determined by its concatenation. -/
theorem flatten_inj {width : Nat} (hwidth : 0 < width) {first second : List Bytes}
    (hfirst : ∀ block ∈ first, block.length = width)
    (hsecond : ∀ block ∈ second, block.length = width)
    (h : first.flatten = second.flatten) : first = second := by
  induction first generalizing second with
  | nil =>
      cases second with
      | nil => rfl
      | cons block rest =>
          have hlen := hsecond block (by simp)
          have hnil : block = [] := by
            have := congrArg List.length h
            simp only [List.flatten_nil, List.flatten_cons, List.length_nil,
              List.length_append] at this
            exact List.eq_nil_of_length_eq_zero (by omega)
          simp [hnil] at hlen
          omega
  | cons block rest ih =>
      have hblock := hfirst block (by simp)
      cases second with
      | nil =>
          have := congrArg List.length h
          simp only [List.flatten_nil, List.flatten_cons, List.length_nil,
            List.length_append] at this
          omega
      | cons other others =>
          have hother := hsecond other (by simp)
          simp only [List.flatten_cons] at h
          obtain ⟨hhead, htail⟩ := List.append_inj h (by rw [hblock, hother])
          rw [hhead, ih (fun block hmem => hfirst block (by simp [hmem]))
            (fun block hmem => hsecond block (by simp [hmem])) htail]

end Bytes
