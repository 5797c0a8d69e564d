import Sygma.Library.Bytes

/-!
# Codecs of the SCALE format

A codec writes a value as bytes and reads one from the front of a byte string. It carries the proof
that reading takes exactly what writing put there, whatever follows, so codecs compose without
another look at their bytes. Numbers are little-endian, either of a fixed width or compact: a
compact number takes one, two or four bytes when it is small, and otherwise names the number of
bytes that follow. Only the shortest form of a compact number is read.
-/

namespace Scale

/-- How the values of a type are written, and read from the front of a byte string. -/
structure Codec (α : Type) where
  encode : α → Bytes
  read : Bytes → Option (α × Bytes)
  read_encode : ∀ value rest, read (encode value ++ rest) = some (value, rest)

variable {α β : Type}

/-- Read the content of a variant and rebuild it. -/
def Codec.readAs (codec : Codec α) (build : α → β) (bytes : Bytes) : Option (β × Bytes) :=
  (codec.read bytes).map fun (value, rest) => (build value, rest)

@[simp] theorem Codec.read_as_encode (codec : Codec α) (build : α → β) (value : α) (rest : Bytes) :
    codec.readAs build (codec.encode value ++ rest) = some (build value, rest) := by
  rw [Codec.readAs, codec.read_encode]
  rfl

/-! ## Bytes and numbers -/

/-- Split off a given number of bytes. -/
def split (count : Nat) (bytes : Bytes) : Option (Vector Byte count × Bytes) :=
  if h : count ≤ bytes.length then
    some (⟨(bytes.take count).toArray, by simp [h]⟩, bytes.drop count)
  else none

theorem split_append {count : Nat} {front : Bytes} (h : front.length = count) (rest : Bytes) :
    split count (front ++ rest) = some (⟨front.toArray, h⟩, rest) := by
  subst h
  simp [split]

/-- A byte string of fixed length is written as it is. -/
def fixed (count : Nat) : Codec (Vector Byte count) where
  encode bytes := bytes.toList
  read := split count
  read_encode _ rest := split_append Vector.length_toList rest

/-- The bytes of a number, the least significant first. -/
def littleEndian (width number : Nat) : Bytes :=
  (Bytes.toBigEndian width number).reverse

@[simp] theorem length_little_endian (width number : Nat) :
    (littleEndian width number).length = width := by
  simp [littleEndian]

/-- Read a number of a given number of bytes, the least significant first. -/
def readLittleEndian (width : Nat) (bytes : Bytes) : Option (Nat × Bytes) :=
  (split width bytes).map fun (front, rest) => (Bytes.ofBigEndian front.toList.reverse, rest)

theorem read_little_endian {width number : Nat} (h : number < 256 ^ width) (rest : Bytes) :
    readLittleEndian width (littleEndian width number ++ rest) = some (number, rest) := by
  rw [readLittleEndian, split_append (length_little_endian width number)]
  simp [littleEndian, Bytes.of_to_big_endian_of_lt h]

theorem little_endian_succ (width number : Nat) :
    littleEndian (width + 1) number =
      BitVec.ofNat 8 number :: littleEndian width (number / 256) := by
  simp [littleEndian, Bytes.toBigEndian]

/-- A number of fixed width. -/
def word (width : Nat) : Codec (BitVec (8 * width)) where
  encode number := littleEndian width number.toNat
  read bytes := (readLittleEndian width bytes).map fun (number, rest) =>
    (BitVec.ofNat (8 * width) number, rest)
  read_encode number rest := by
    have hfits : number.toNat < 256 ^ width := by
      have hlt := number.isLt
      rwa [Nat.pow_mul] at hlt
    rw [read_little_endian hfits]
    simp

/-! ## Compact numbers -/

/-- The least number of bytes that holds a number other than zero. -/
def byteLength (number : Nat) : Nat :=
  number.log2 / 8 + 1

theorem byte_length_bounds {number : Nat} (h : number ≠ 0) :
    256 ^ (byteLength number - 1) ≤ number ∧ number < 256 ^ byteLength number := by
  have hlow : 2 ^ number.log2 ≤ number := Nat.log2_self_le h
  have hhigh : number < 2 ^ (number.log2 + 1) := Nat.lt_log2_self
  have hbelow : 2 ^ (8 * (byteLength number - 1)) ≤ 2 ^ number.log2 :=
    Nat.pow_le_pow_right (by omega) (by unfold byteLength; omega)
  have habove : 2 ^ (number.log2 + 1) ≤ 2 ^ (8 * byteLength number) :=
    Nat.pow_le_pow_right (by omega) (by unfold byteLength; omega)
  rw [Nat.pow_mul] at hbelow habove
  exact ⟨Nat.le_trans hbelow hlow, Nat.lt_of_lt_of_le hhigh habove⟩

/-- A number from which on the short forms do not suffice needs at least four bytes. -/
theorem four_le_byte_length {number : Nat} (h : 2 ^ 30 ≤ number) : 4 ≤ byteLength number := by
  have hlog : 30 ≤ number.log2 := (Nat.le_log2 (by omega)).mpr h
  unfold byteLength
  omega

/-- Write a number in its compact form. The two low bits of the first byte tell the form. -/
def encodeCompact (number : Nat) : Bytes :=
  if number < 2 ^ 6 then littleEndian 1 (number * 4)
  else if number < 2 ^ 14 then littleEndian 2 (number * 4 + 1)
  else if number < 2 ^ 30 then littleEndian 4 (number * 4 + 2)
  else BitVec.ofNat 8 ((byteLength number - 4) * 4 + 3) ::
    littleEndian (byteLength number) number

/-- Read a number whose two low bits tell its form, unless a shorter form holds it. -/
def readMarked (width least : Nat) (bytes : Bytes) : Option (Nat × Bytes) := do
  let (marked, rest) ← readLittleEndian width bytes
  if least ≤ marked / 4 then some (marked / 4, rest) else none

/-- The least number that takes this many bytes after its form. Below it a shorter form exists. -/
def leastOf (count : Nat) : Nat :=
  if count = 4 then 2 ^ 30 else 256 ^ (count - 1)

/-- Read a number of at most a given number of bytes in its compact form. -/
def readCompact (width : Nat) : Bytes → Option (Nat × Bytes)
  | [] => none
  | mode :: rest =>
      if mode.toNat % 4 = 0 then some (mode.toNat / 4, rest)
      else if mode.toNat % 4 = 1 then readMarked 2 (2 ^ 6) (mode :: rest)
      else if mode.toNat % 4 = 2 then readMarked 4 (2 ^ 14) (mode :: rest)
      else if width < mode.toNat / 4 + 4 then none
      else do
        let (number, rest) ← readLittleEndian (mode.toNat / 4 + 4) rest
        if leastOf (mode.toNat / 4 + 4) ≤ number then some (number, rest) else none

theorem read_marked {width least number form : Nat} (hform : form < 4) (hleast : least ≤ number)
    (hfits : number * 4 + form < 256 ^ width) (rest : Bytes) :
    readMarked width least (littleEndian width (number * 4 + form) ++ rest) =
      some (number, rest) := by
  have hdiv : (number * 4 + form) / 4 = number := by omega
  rw [readMarked, read_little_endian hfits, Option.bind_eq_bind, Option.bind_some]
  simp only [hdiv, if_pos hleast]

/-- The two low bits of the first byte are the form. -/
theorem first_byte_mod {form : Nat} (hform : form < 4) (number : Nat) :
    (BitVec.ofNat 8 (number * 4 + form)).toNat % 4 = form := by
  rw [BitVec.toNat_ofNat]
  omega

/-- A number takes no more bytes than a width that holds it. -/
theorem byte_length_le {width number : Nat} (hne : number ≠ 0) (h : number < 256 ^ width) :
    byteLength number ≤ width := by
  by_contra hgt
  have hpow : 256 ^ width ≤ 256 ^ (byteLength number - 1) :=
    Nat.pow_le_pow_right (by omega) (by omega)
  have hlow := (byte_length_bounds hne).1
  omega

/-- A number in the long form is not below the least one of its length. -/
theorem least_of_le {number : Nat} (h : 2 ^ 30 ≤ number) :
    leastOf (byteLength number) ≤ number := by
  unfold leastOf
  split
  · exact h
  · exact (byte_length_bounds (by omega)).1

/-- The first byte of the long form has six bits for the number of bytes beyond four, so 67 bytes
are the most. -/
theorem read_compact_long {width number : Nat} (hwidth : width ≤ 67) (h : number < 256 ^ width)
    (hlarge : 2 ^ 30 ≤ number) (rest : Bytes) :
    readCompact width (BitVec.ofNat 8 ((byteLength number - 4) * 4 + 3) ::
      (littleEndian (byteLength number) number ++ rest)) = some (number, rest) := by
  have hcount := four_le_byte_length hlarge
  have hle : byteLength number ≤ width := byte_length_le (by omega) h
  have hhigh := (byte_length_bounds (by omega : number ≠ 0)).2
  have hmode : (BitVec.ofNat 8 ((byteLength number - 4) * 4 + 3)).toNat =
      (byteLength number - 4) * 4 + 3 := by
    rw [BitVec.toNat_ofNat]
    omega
  have hform : ((byteLength number - 4) * 4 + 3) % 4 = 3 := by omega
  have hdiv : ((byteLength number - 4) * 4 + 3) / 4 + 4 = byteLength number := by omega
  rw [readCompact, hmode, hform, hdiv, if_neg (by omega), if_neg (by omega), if_neg (by omega),
    if_neg (Nat.not_lt.mpr hle), read_little_endian hhigh, Option.bind_eq_bind, Option.bind_some]
  simp only [if_pos (least_of_le hlarge)]

theorem read_compact {width number : Nat} (hwidth : width ≤ 67) (h : number < 256 ^ width)
    (rest : Bytes) : readCompact width (encodeCompact number ++ rest) = some (number, rest) := by
  unfold encodeCompact
  split_ifs with hone htwo hfour
  · have hmode : (BitVec.ofNat 8 (number * 4)).toNat = number * 4 := by
      rw [BitVec.toNat_ofNat]
      omega
    have hform : number * 4 % 4 = 0 := by omega
    have hdiv : number * 4 / 4 = number := by omega
    rw [little_endian_succ, List.cons_append, readCompact, hmode, if_pos hform, hdiv]
    rfl
  · have hmarked : readMarked 2 (2 ^ 6) (littleEndian 2 (number * 4 + 1) ++ rest) =
        some (number, rest) := read_marked (by omega) (Nat.le_of_not_lt hone) (by omega) rest
    rw [little_endian_succ, List.cons_append] at hmarked ⊢
    rw [readCompact, first_byte_mod (by omega), if_neg (by omega), if_pos rfl]
    exact hmarked
  · have hmarked : readMarked 4 (2 ^ 14) (littleEndian 4 (number * 4 + 2) ++ rest) =
        some (number, rest) := read_marked (by omega) (Nat.le_of_not_lt htwo) (by omega) rest
    rw [little_endian_succ, List.cons_append] at hmarked ⊢
    rw [readCompact, first_byte_mod (by omega), if_neg (by omega), if_neg (by omega), if_pos rfl]
    exact hmarked
  · rw [List.cons_append]
    exact read_compact_long hwidth h (Nat.le_of_not_lt hfour) rest

/-- A compact number of four, eight or sixteen bytes. -/
def compact (width : Nat) (h : width ≤ 67) : Codec (BitVec (8 * width)) where
  encode number := encodeCompact number.toNat
  read bytes := (readCompact width bytes).map fun (number, rest) =>
    (BitVec.ofNat (8 * width) number, rest)
  read_encode number rest := by
    have hfits : number.toNat < 256 ^ width := by
      have hlt := number.isLt
      rwa [Nat.pow_mul] at hlt
    rw [read_compact h hfits]
    simp

/-! ## Composition -/

/-- Two values, one after the other. -/
def pair (first : Codec α) (second : Codec β) : Codec (α × β) where
  encode value := first.encode value.1 ++ second.encode value.2
  read bytes := do
    let (value, bytes) ← first.read bytes
    let (other, rest) ← second.read bytes
    some ((value, other), rest)
  read_encode value rest := by
    rw [List.append_assoc, first.read_encode]
    show (second.read (second.encode value.2 ++ rest) >>= _) = _
    rw [second.read_encode]
    rfl

/-- A value that may be absent, after a byte that tells whether it is there. -/
def option (codec : Codec α) : Codec (Option α) where
  encode
    | none => [0]
    | some value => 1 :: codec.encode value
  read
    | 0#8 :: rest => some (none, rest)
    | 1#8 :: bytes => codec.readAs some bytes
    | _ => none
  read_encode value rest := by
    cases value with
    | none => rfl
    | some value => simp

/-- Read a given number of values. -/
def readMany (codec : Codec α) : Nat → Bytes → Option (List α × Bytes)
  | 0, bytes => some ([], bytes)
  | count + 1, bytes => do
      let (value, bytes) ← codec.read bytes
      let (others, rest) ← readMany codec count bytes
      some (value :: others, rest)

theorem read_many (codec : Codec α) (values : List α) (rest : Bytes) :
    readMany codec values.length (values.flatMap codec.encode ++ rest) = some (values, rest) := by
  induction values with
  | nil => rfl
  | cons value others ih =>
      rw [List.flatMap_cons, List.append_assoc, List.length_cons, readMany, codec.read_encode]
      show (readMany codec others.length (others.flatMap codec.encode ++ rest) >>= _) = _
      rw [ih]
      rfl

end Scale
