import Sygma.Library.Bytes

/-!
# Locations and assets of the cross-consensus format

The data types of XCM version 3 that the pallets read: junctions, locations, asset identifiers
and amounts. A location carries at most eight junctions, so `Junctions` is a list with that bound.
-/

namespace Sygma

/-- Unsigned machine integers of the source. -/
abbrev U8 := BitVec 8
abbrev U16 := BitVec 16
abbrev U32 := BitVec 32
abbrev U64 := BitVec 64
abbrev U128 := BitVec 128
abbrev U256 := BitVec 256

/-- The 32-byte arrays of the source: account ids, resource ids and digests. -/
abbrev Bytes32 := Vector Byte 32

/-- The 20-byte arrays of the source: contract and signer addresses. -/
abbrev Bytes20 := Vector Byte 20

/-- A global consensus system. -/
inductive NetworkId where
  | byGenesis (hash : Bytes32)
  | byFork (blockNumber : U64) (blockHash : Bytes32)
  | polkadot
  | kusama
  | westend
  | rococo
  | wococo
  | ethereum (chainId : U64)
  | bitcoinCore
  | bitcoinCash
  deriving DecidableEq

/-- A body of a chain's governance. -/
inductive BodyId where
  | unit
  | moniker (name : Vector Byte 4)
  | index (index : U32)
  | executive
  | technical
  | legislative
  | judicial
  | defense
  | administration
  | treasury
  deriving DecidableEq

/-- A part of a governance body. -/
inductive BodyPart where
  | voice
  | members (count : U32)
  | fraction (nom denom : U32)
  | atLeastProportion (nom denom : U32)
  | moreThanProportion (nom denom : U32)
  deriving DecidableEq

/-- One step of a location path. The length of a `generalKey` is decoded independently of its
32 bytes of data and can be any byte. -/
inductive Junction where
  | parachain (id : U32)
  | accountId32 (network : Option NetworkId) (id : Bytes32)
  | accountIndex64 (network : Option NetworkId) (index : U64)
  | accountKey20 (network : Option NetworkId) (key : Bytes20)
  | palletInstance (index : U8)
  | generalIndex (index : U128)
  | generalKey (length : U8) (data : Bytes32)
  | onlyChild
  | plurality (id : BodyId) (part : BodyPart)
  | globalConsensus (network : NetworkId)
  deriving DecidableEq

/-- The junctions of a location, at most eight. -/
structure Junctions where
  items : List Junction
  bounded : items.length ≤ 8
  deriving DecidableEq

/-- A location relative to the local chain: go up `parents` levels, then follow `interior`. -/
structure MultiLocation where
  parents : U8
  interior : Junctions
  deriving DecidableEq

/-- The local chain itself. -/
def MultiLocation.here : MultiLocation :=
  ⟨0, [], by decide⟩

/-- The chain above the local one. -/
def MultiLocation.parent : MultiLocation :=
  ⟨1, [], by decide⟩

theorem Junctions.bounded_parachain (id : U32) : [Junction.parachain id].length ≤ 8 := by simp

/-- The parachain of the given id next to the local chain. -/
def MultiLocation.sibling (id : U32) : MultiLocation :=
  ⟨1, [.parachain id], Junctions.bounded_parachain id⟩

/-- The location of a local account. -/
def MultiLocation.ofAccount (id : Bytes32) : MultiLocation :=
  ⟨0, [.accountId32 none id], by simp⟩

/-- The identity of an asset. -/
inductive AssetId where
  | concrete (location : MultiLocation)
  | abstract (name : Bytes32)
  deriving DecidableEq

/-- An instance of a non-fungible asset. -/
inductive AssetInstance where
  | undefined
  | index (index : U128)
  | array4 (data : Vector Byte 4)
  | array8 (data : Vector Byte 8)
  | array16 (data : Vector Byte 16)
  | array32 (data : Bytes32)
  deriving DecidableEq

/-- An amount of a fungible asset, or an instance of a non-fungible one. -/
inductive Fungibility where
  | fungible (amount : U128)
  | nonFungible (instance_ : AssetInstance)
  deriving DecidableEq

/-- An asset together with how much of it. -/
structure MultiAsset where
  id : AssetId
  fun_ : Fungibility
  deriving DecidableEq

/-- An amount of computation, in time and in size of the proof. -/
structure Weight where
  refTime : U64
  proofSize : U64
  deriving DecidableEq

end Sygma
