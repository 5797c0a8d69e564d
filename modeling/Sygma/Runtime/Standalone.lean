import Sygma.FeeHandlers
import Sygma.Ledger
import Sygma.Runtime.DecimalConverter
import Sygma.XcmCodec

/-!
# The standalone runtime

How the standalone runtime configures the pallets: its constants, its asset tables, and the
reserve checker and destination parser it plugs in. What the runtime takes from its host is left as
a parameter.
-/

namespace Sygma.Standalone

open Exec (Panic)

variable {L : Type}

/-! ## Locations -/

/-- A key as a junction: its bytes, filled up with zeros. -/
def sliceToGeneralkey (key : Bytes) (h : key.length ≤ 32) : Junction :=
  .generalKey (BitVec.ofNat 8 key.length)
    ⟨(key ++ List.replicate (32 - key.length) 0).toArray, by simp; omega⟩

/-- The native asset of the chain. -/
def nativeLocation : MultiLocation := .here

/-- A foreign asset that is registered on a sibling parachain under two keys. -/
def siblingAsset (key : Bytes) (h : key.length ≤ 32) : MultiLocation where
  parents := 1
  interior :=
    ⟨[.parachain 2005, sliceToGeneralkey (Bytes.ofString "sygma") (by decide),
      sliceToGeneralkey key h], by simp⟩

def usdcLocation : MultiLocation := siblingAsset (Bytes.ofString "usdc") (by decide)

def erc20TstLocation : MultiLocation := siblingAsset (Bytes.ofString "erc20tst") (by decide)

def erc20TstD20Location : MultiLocation := siblingAsset (Bytes.ofString "erc20tstd20") (by decide)

/-! ## Accounts and tables -/

/-- A resource id given by its last two bytes. -/
def resource (high low : Byte) : ResourceId :=
  ⟨(List.replicate 30 0 ++ [high, low]).toArray, by simp⟩

/-- An account given by its first bytes. -/
def account (bytes : Bytes) (h : bytes.length ≤ 32) : AccountId :=
  ⟨(bytes ++ List.replicate (32 - bytes.length) 0).toArray, by simp; omega⟩

/-- The account fees are paid to. -/
def treasuryAccount : AccountId := Vector.replicate 32 100

/-- The account of the pallet, which holds the reserve of the native asset. -/
def bridgeAccountNative : AccountId := account (Bytes.ofString "modlsygma/01") (by decide)

/-- The first sub-account of the pallet, which holds the reserves of the other assets. -/
def bridgeAccountOtherToken : AccountId :=
  account (Bytes.ofString "modlsygma/01" ++ [1, 0, 0, 0]) (by decide)

/-- The account of the chain above. -/
def parentAccount : AccountId := account (Bytes.ofString "Parent") (by decide)

/-- The account of a parachain beside this one. -/
def siblingAccount (id : U32) : AccountId :=
  account (Bytes.ofString "sibl" ++ Scale.littleEndian 4 id.toNat) (by
    rw [List.length_append, Scale.length_little_endian]
    decide)

/-- The accounts of locations, for the network that account ids may name. -/
def accountAliases (relayNetwork : Option NetworkId) : LocationToAccount where
  convert who :=
    match who.parents, who.interior.items with
    | 1#8, [] => some parentAccount
    | 1#8, [.parachain id] => some (siblingAccount id)
    | 0#8, [.accountId32 network id] =>
        if network = none ∨ network = relayNetwork then some id else none
    | _, _ => none
  convert_of_account _ := if_pos (.inl rfl)

/-- The accounts of the locations this chain knows. -/
def locationToAccountId : LocationToAccount := accountAliases (some .polkadot)

/-- The accounts that hold the reserves. -/
def bridgeAccounts (asset : AssetId) : Option AccountId :=
  if asset = .concrete nativeLocation then some bridgeAccountNative
  else if asset = .concrete usdcLocation then some bridgeAccountOtherToken
  else if asset = .concrete erc20TstLocation then some bridgeAccountOtherToken
  else if asset = .concrete erc20TstD20Location then some bridgeAccountOtherToken
  else none

/-- The supported assets and their resource ids. -/
def resourcePairs : List (AssetId × ResourceId) :=
  [(.concrete nativeLocation, resource 0 1), (.concrete usdcLocation, resource 3 0),
    (.concrete erc20TstLocation, resource 0 0), (.concrete erc20TstD20Location, resource 9 0)]

/-- The decimals of the supported assets. -/
def assetDecimalPairs : List (AssetId × U8) :=
  [(.concrete nativeLocation, 12), (.concrete usdcLocation, 12), (.concrete erc20TstLocation, 18),
    (.concrete erc20TstD20Location, 20)]

/-- The pairs of pallet index and extrinsic name that access can be held for. -/
def registeredExtrinsics : List (U8 × Bytes) :=
  [(9, name "grant_access"), (10, name "set_fee"), (11, name "set_mpc_address"),
    (11, name "pause_bridge"), (11, name "unpause_bridge"), (11, name "register_domain"),
    (11, name "unregister_domain"), (11, name "retry"), (11, name "pause_all_bridges"),
    (11, name "unpause_all_bridges"), (12, name "set_fee_handler"), (13, name "set_fee_rate")]

/-! ## Components -/

/-- The location of a fungible asset that is identified by one. -/
def sygmaAssetId (asset : MultiAsset) : Option MultiLocation :=
  match asset.id, asset.fun_ with
  | .concrete id, .fungible _ => some id
  | _, _ => none

theorem sygma_length : (Bytes.ofString "sygma").length ≤ 32 := by decide

/-- The chain an asset is reserved on. -/
def sygmaAssetOrigin (asset : MultiAsset) : Option MultiLocation := do
  let id ← sygmaAssetId asset
  match id.parents, id.interior.items.head? with
  | 1#8, some (.parachain para) =>
      -- assets of this chain are reserved on the EVM side
      if para = 2004 then
        some ⟨0, [sliceToGeneralkey (Bytes.ofString "sygma") sygma_length], by simp⟩
      else some .here
  | 1#8, _ => some .here
  | 0#8, some (.parachain para) => some ⟨0, [.parachain para], Junctions.bounded_parachain para⟩
  | 0#8, none => some id
  | _, _ => none

/-- Whether an asset is reserved at a location. -/
def reserveChecker (asset : MultiAsset) (origin : MultiLocation) : Bool :=
  match sygmaAssetOrigin asset with
  | some id => id == origin
  | none => false

/-- The recipient and the domain of a destination with two keys. A length byte beyond the key
panics; domain zero is refused. -/
def extractDest (dest : MultiLocation) : Except Panic (Option (Bytes × DomainID)) :=
  match dest.parents, dest.interior.items with
  | 0#8, [.generalKey recipientLen recipient, .generalKey _ destDomainId] =>
      let domainId := (destDomainId.toList.head?).getD 0
      if domainId = 0 then .ok none
      else if recipientLen.toNat ≤ 32 then
        .ok (some (recipient.toList.take recipientLen.toNat, domainId))
      else .error .index
  | _, _ => .ok none

/-! ## The configuration -/

/-- What the runtime takes from its host and from the crates it is built with, and whether it is
built with debug assertions. -/
structure Host where
  keccak256 : Bytes → Bytes32
  secp256k1EcdsaRecover : Vector Byte 65 → Bytes32 → Option (Vector Byte 64)
  abiEncode : List Token → Bytes
  decodeMultiLocation : Bytes → Option MultiLocation
  debugAssertions : Bool
  usizeBits : Nat

/-- The contract address the relayers sign for. -/
def destVerifyingContractAddress : VerifyingContractAddress :=
  #v[0x6C, 0xdE, 0x2C, 0xd8, 0x2a, 0x4F, 0x8B, 0x74, 0x69, 0x3F, 0xf5, 0xe1, 0x94, 0xc1, 0x9C,
    0xA0, 0x8c, 0x2d, 0x1c, 0x68]

/-- The configuration of the pallets on a ledger that is reached through a given transactor. -/
def config (host : Host) (assetTransactor : TransactAsset L) : Config L where
  bridgeCommitteeOrigin origin := origin == .root
  extrinsics := registeredExtrinsics
  accessSegregatorIndex := 9
  basicFeeHandlerIndex := 10
  percentageFeeHandlerIndex := 13
  feeHandlerRouterIndex := 12
  bridgeIndex := 11
  transferReserveAccounts := bridgeAccounts
  destVerifyingContractAddress := destVerifyingContractAddress
  eip712ChainId := 5
  feeReserveAccount := treasuryAccount
  feeHandler := FeeHandlerRouter.getFee
  assetTransactor := assetTransactor
  resourcePairs := resourcePairs
  isReserve := reserveChecker
  extractDestData := extractDest
  -- the pallet account decoded as a byte vector: its first two bytes are read as the length 7131
  palletAccount := Bytes.ofString "dlsygma/01" ++ List.replicate 7121 0
  decimalConverter := sygmaDecimalConverter host.debugAssertions assetDecimalPairs
  keccak256 := host.keccak256
  secp256k1EcdsaRecover := host.secp256k1EcdsaRecover
  abiEncode := host.abiEncode
  decodeMultiLocation := host.decodeMultiLocation
  usizeBits := host.usizeBits
  debugAssertions := host.debugAssertions

/-! ## A chain that can be evaluated -/

/-- A host with one digest and one signer. Locations are decoded as the chains encode them. -/
def constantHost : Host where
  keccak256 _ := Vector.replicate 32 1
  secp256k1EcdsaRecover _ _ := some (Vector.replicate 64 0)
  abiEncode _ := []
  decodeMultiLocation := Sygma.decodeMultiLocation
  debugAssertions := false
  usizeBits := 32

/-- The address of the one signer. -/
def constantSigner : MpcAddress := Vector.replicate 20 1

/-- The runtime on the constant host and a plain ledger. -/
def plainConfig : Config PlainLedger :=
  config constantHost (PlainLedger.transactor locationToAccountId).lift

/-- The key of a destination on domain 1. -/
def domainKey : Junction := sliceToGeneralkey [1] (by decide)

/-- A destination on domain 1: the recipient is encoded, it is the chain above that domain. -/
def nativeDest : MultiLocation :=
  ⟨0, [sliceToGeneralkey [1, 0] (by decide), domainKey], by simp⟩

end Sygma.Standalone
