import Sygma.Library.Scale
import Sygma.Xcm

/-!
# Encoded locations

How the chains encode a location and read it back. A proposal carries its recipient in this form.
A variant is a byte that counts the variants before it, followed by its content, and a location is
the number of its parents followed by its junctions. `decode_encode` says that every location has
an encoding that is read as that location; bytes that follow the encoding are ignored.
-/

namespace Sygma

open Scale (Codec)

def NetworkId.codec : Codec NetworkId where
  encode
    | .byGenesis hash => 0 :: (Scale.fixed 32).encode hash
    | .byFork blockNumber blockHash =>
        1 :: (Scale.pair (Scale.word 8) (Scale.fixed 32)).encode (blockNumber, blockHash)
    | .polkadot => [2]
    | .kusama => [3]
    | .westend => [4]
    | .rococo => [5]
    | .wococo => [6]
    | .ethereum chainId => 7 :: (Scale.compact 8 (by decide)).encode chainId
    | .bitcoinCore => [8]
    | .bitcoinCash => [9]
  read
    | 0#8 :: bytes => (Scale.fixed 32).readAs .byGenesis bytes
    | 1#8 :: bytes =>
        (Scale.pair (Scale.word 8) (Scale.fixed 32)).readAs
          (fun (blockNumber, blockHash) => .byFork blockNumber blockHash) bytes
    | 2#8 :: rest => some (.polkadot, rest)
    | 3#8 :: rest => some (.kusama, rest)
    | 4#8 :: rest => some (.westend, rest)
    | 5#8 :: rest => some (.rococo, rest)
    | 6#8 :: rest => some (.wococo, rest)
    | 7#8 :: bytes => (Scale.compact 8 (by decide)).readAs .ethereum bytes
    | 8#8 :: rest => some (.bitcoinCore, rest)
    | 9#8 :: rest => some (.bitcoinCash, rest)
    | _ => none
  read_encode network rest := by
    cases network <;> simp

def BodyId.codec : Codec BodyId where
  encode
    | .unit => [0]
    | .moniker name => 1 :: (Scale.fixed 4).encode name
    | .index number => 2 :: (Scale.compact 4 (by decide)).encode number
    | .executive => [3]
    | .technical => [4]
    | .legislative => [5]
    | .judicial => [6]
    | .defense => [7]
    | .administration => [8]
    | .treasury => [9]
  read
    | 0#8 :: rest => some (.unit, rest)
    | 1#8 :: bytes => (Scale.fixed 4).readAs .moniker bytes
    | 2#8 :: bytes => (Scale.compact 4 (by decide)).readAs .index bytes
    | 3#8 :: rest => some (.executive, rest)
    | 4#8 :: rest => some (.technical, rest)
    | 5#8 :: rest => some (.legislative, rest)
    | 6#8 :: rest => some (.judicial, rest)
    | 7#8 :: rest => some (.defense, rest)
    | 8#8 :: rest => some (.administration, rest)
    | 9#8 :: rest => some (.treasury, rest)
    | _ => none
  read_encode body rest := by
    cases body <;> simp

/-- A numerator and a denominator, or another pair of 32-bit numbers. -/
def ratioCodec : Codec (U32 × U32) :=
  Scale.pair (Scale.compact 4 (by decide)) (Scale.compact 4 (by decide))

def BodyPart.codec : Codec BodyPart where
  encode
    | .voice => [0]
    | .members count => 1 :: (Scale.compact 4 (by decide)).encode count
    | .fraction nom denom => 2 :: ratioCodec.encode (nom, denom)
    | .atLeastProportion nom denom => 3 :: ratioCodec.encode (nom, denom)
    | .moreThanProportion nom denom => 4 :: ratioCodec.encode (nom, denom)
  read
    | 0#8 :: rest => some (.voice, rest)
    | 1#8 :: bytes => (Scale.compact 4 (by decide)).readAs .members bytes
    | 2#8 :: bytes => ratioCodec.readAs (fun (nom, denom) => .fraction nom denom) bytes
    | 3#8 :: bytes => ratioCodec.readAs (fun (nom, denom) => .atLeastProportion nom denom) bytes
    | 4#8 :: bytes => ratioCodec.readAs (fun (nom, denom) => .moreThanProportion nom denom) bytes
    | _ => none
  read_encode part rest := by
    cases part <;> simp

/-- What is encoded together with an optional network. -/
def networked {α : Type} (content : Codec α) : Codec (Option NetworkId × α) :=
  Scale.pair (Scale.option NetworkId.codec) content

def Junction.codec : Codec Junction where
  encode
    | .parachain id => 0 :: (Scale.compact 4 (by decide)).encode id
    | .accountId32 network id => 1 :: (networked (Scale.fixed 32)).encode (network, id)
    | .accountIndex64 network index =>
        2 :: (networked (Scale.compact 8 (by decide))).encode (network, index)
    | .accountKey20 network key => 3 :: (networked (Scale.fixed 20)).encode (network, key)
    | .palletInstance index => 4 :: (Scale.word 1).encode index
    | .generalIndex index => 5 :: (Scale.compact 16 (by decide)).encode index
    | .generalKey length data =>
        6 :: (Scale.pair (Scale.word 1) (Scale.fixed 32)).encode (length, data)
    | .onlyChild => [7]
    | .plurality id part => 8 :: (Scale.pair BodyId.codec BodyPart.codec).encode (id, part)
    | .globalConsensus network => 9 :: NetworkId.codec.encode network
  read
    | 0#8 :: bytes => (Scale.compact 4 (by decide)).readAs .parachain bytes
    | 1#8 :: bytes =>
        (networked (Scale.fixed 32)).readAs (fun (network, id) => .accountId32 network id) bytes
    | 2#8 :: bytes =>
        (networked (Scale.compact 8 (by decide))).readAs
          (fun (network, index) => .accountIndex64 network index) bytes
    | 3#8 :: bytes =>
        (networked (Scale.fixed 20)).readAs (fun (network, key) => .accountKey20 network key) bytes
    | 4#8 :: bytes => (Scale.word 1).readAs .palletInstance bytes
    | 5#8 :: bytes => (Scale.compact 16 (by decide)).readAs .generalIndex bytes
    | 6#8 :: bytes =>
        (Scale.pair (Scale.word 1) (Scale.fixed 32)).readAs
          (fun (length, data) => .generalKey length data) bytes
    | 7#8 :: rest => some (.onlyChild, rest)
    | 8#8 :: bytes =>
        (Scale.pair BodyId.codec BodyPart.codec).readAs (fun (id, part) => .plurality id part) bytes
    | 9#8 :: bytes => NetworkId.codec.readAs .globalConsensus bytes
    | _ => none
  read_encode junction rest := by
    cases junction <;> simp

/-- The variant of the junctions is their number. -/
def Junctions.codec : Codec Junctions where
  encode junctions :=
    BitVec.ofNat 8 junctions.items.length :: junctions.items.flatMap Junction.codec.encode
  read
    | [] => none
    | count :: bytes => do
        let (items, rest) ← Scale.readMany Junction.codec count.toNat bytes
        if h : items.length ≤ 8 then some (⟨items, h⟩, rest) else none
  read_encode junctions rest := by
    have hcount : (BitVec.ofNat 8 junctions.items.length).toNat = junctions.items.length := by
      have hbounded := junctions.bounded
      rw [BitVec.toNat_ofNat]
      omega
    show (Scale.readMany Junction.codec (BitVec.ofNat 8 junctions.items.length).toNat
      (junctions.items.flatMap Junction.codec.encode ++ rest) >>= _) = _
    rw [hcount, Scale.read_many]
    exact dif_pos junctions.bounded

def MultiLocation.codec : Codec MultiLocation where
  encode location := (Scale.pair (Scale.word 1) Junctions.codec).encode
    (location.parents, location.interior)
  read bytes := (Scale.pair (Scale.word 1) Junctions.codec).readAs
    (fun (parents, interior) => ⟨parents, interior⟩) bytes
  read_encode location rest := by
    rw [Codec.read_as_encode]

/-- The location at the front of a byte string. -/
def decodeMultiLocation (bytes : Bytes) : Option MultiLocation :=
  (MultiLocation.codec.read bytes).map fun (location, _) => location

/-- An encoded location is decoded, whatever follows it. -/
theorem decode_encode (location : MultiLocation) (rest : Bytes) :
    decodeMultiLocation (MultiLocation.codec.encode location ++ rest) = some location := by
  rw [decodeMultiLocation, MultiLocation.codec.read_encode]
  rfl

/-- The parent chain, the chain above it, and a sibling parachain; nothing is encoded by no bytes,
and a compact number is not read in a longer form than it needs. -/
example : decodeMultiLocation [1, 0] = some .parent ∧
    decodeMultiLocation [2, 0] = some ⟨2, [], by decide⟩ ∧
    decodeMultiLocation [1, 1, 0, 0x55, 0x1f] = some (.sibling 2005) ∧
    decodeMultiLocation [] = none ∧ decodeMultiLocation [7] = none ∧
    decodeMultiLocation [1, 1, 0, 0x15, 0x00] = none := by decide

end Sygma
