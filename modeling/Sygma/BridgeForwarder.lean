import Sygma.Config

/-!
# The forwarder and its asset transactor

The asset transactor that a parachain plugs into the bridge. It classifies the location an asset is
deposited to: a local account gets the asset from the currency or the fungibles transactor, and any
other location is served in two steps, a deposit to a temporary account and a transfer from there
by the Sygma bridge or by the XCM bridge. The two bridges are parameters, so that the transactor can
be part of the configuration of the bridge it calls.
-/

namespace Sygma.BridgeForwarder

open Exec (mapErr)

variable {L : Type}

/-! ## The forwarder -/

/-- How one pallet asks another for a transfer: the sender, the asset, the destination and the
weight it may use. -/
abbrev TransferBridge (L : Type) :=
  Bytes32 → MultiAsset → MultiLocation → Option Weight → Call L DispatchError Unit

/-- The two ways to forward an asset. -/
structure TransactorForwarder (L : Type) where
  xcmTransactorForwarder : Bytes32 → MultiAsset → MultiLocation → Call L DispatchError Unit
  otherWorldTransactorForwarder : Bytes32 → MultiAsset → MultiLocation → Call L DispatchError Unit

/-- The forwarder pallet: call the bridge, then report the transfer. -/
def forwarder (sygmaBridge xcmBridge : TransferBridge L) : TransactorForwarder L where
  xcmTransactorForwarder origin what dest := do
    let capWeight : Weight := ⟨BitVec.allOnes 64, BitVec.allOnes 64⟩
    xcmBridge origin what dest (some capWeight)
    depositEvent (.xcmTransferForward what (.ofAccount origin) dest)
  otherWorldTransactorForwarder origin what dest := do
    sygmaBridge origin what dest none
    depositEvent (.otherWorldTransferForward what (.ofAccount origin) dest)

/-! ## The asset transactor -/

/-- What the transactor is built from: the transactors of the native currency and of the other
assets, the check that tells them apart, the forwarder, and the hash and codec of the host that
derive the temporary accounts. -/
structure XcmAssetTransactor (L : Type) where
  currencyTransactor : TransactAsset L
  fungiblesTransactor : TransactAsset L
  assetTypeChecker : MultiAsset → Bool
  forwarder : TransactorForwarder L
  blake2256 : Bytes → Bytes32
  encodeMultiLocation : MultiLocation → Bytes

/-- The key that starts a location of the other world. -/
def sygmaKey : Bytes32 :=
  ⟨(Bytes.ofString "sygma" ++ List.replicate 27 0).toArray, by decide⟩

/-- The second key of a location of the other world. -/
def sygmaBridgeKey : Bytes32 :=
  ⟨(Bytes.ofString "sygma-bridge" ++ List.replicate 20 0).toArray, by decide⟩

/-- Where a deposit is sent. -/
inductive Route where
  | localChain
  | otherWorld
  | remoteChain
  deriving DecidableEq

/-- Whether a location has the pattern of the other world: two fixed keys, a domain and a
recipient. -/
def isOtherWorld (interior : Junctions) : Bool :=
  match interior.items with
  | [first, second, .generalIndex _, .generalKey _ _] =>
      first == .generalKey 5 sygmaKey && second == .generalKey 12 sygmaBridgeKey
  | _ => false

/-- The class of a location, as the arms of `deposit_asset` are tried: a local account or a sibling
parachain, then the pattern of the other world, then everything else. -/
def routeOf (who : MultiLocation) : Route :=
  match who.parents, who.interior.items with
  | 0#8, [.accountId32 _ _] | 0#8, [.accountKey20 _ _] | 1#8, [.parachain _] => .localChain
  | _, _ => if isOtherWorld who.interior then .otherWorld else .remoteChain

namespace XcmAssetTransactor

/-- The transactor that keeps the given asset. -/
def keeper (transactor : XcmAssetTransactor L) (what : MultiAsset) : TransactAsset L :=
  if transactor.assetTypeChecker what then transactor.currencyTransactor
  else transactor.fungiblesTransactor

/-- The account that holds an asset while it is forwarded, derived from a key of equal bytes. -/
def temporaryAccount (transactor : XcmAssetTransactor L) (byte : Byte) : AccountId :=
  transactor.blake2256 (transactor.encodeMultiLocation
    ⟨0, [.generalKey 8 (Vector.replicate 32 byte)], by simp⟩)

/-- Deposit an asset to a temporary account and forward it from there. An error of the forwarder is
reported by its text; the deposit is kept. -/
def forward (transactor : XcmAssetTransactor L) (byte : Byte)
    (send : Bytes32 → MultiAsset → MultiLocation → Call L DispatchError Unit)
    (what : MultiAsset) (who : MultiLocation) : Call L XcmError Unit := do
  let account := transactor.temporaryAccount byte
  -- this deposit is not undone when the forwarder fails
  (transactor.keeper what).depositAsset what (.ofAccount account)
  mapErr (fun error => .failedToTransactAsset error.message) (send account what who)

/-- Deposit an asset at a location. -/
def depositAsset (transactor : XcmAssetTransactor L) (what : MultiAsset) (who : MultiLocation) :
    Call L XcmError Unit :=
  match routeOf who with
  | .localChain => (transactor.keeper what).depositAsset what who
  | .otherWorld =>
      transactor.forward 1 transactor.forwarder.otherWorldTransactorForwarder what who
  | .remoteChain => transactor.forward 2 transactor.forwarder.xcmTransactorForwarder what who

/-- Withdraw an asset from a location. -/
def withdrawAsset (transactor : XcmAssetTransactor L) (what : MultiAsset) (who : MultiLocation) :
    Call L XcmError Unit :=
  (transactor.keeper what).withdrawAsset what who

/-- The transactor as the bridge is configured with it. -/
def transactAsset (transactor : XcmAssetTransactor L) : TransactAsset L where
  withdrawAsset := transactor.withdrawAsset
  depositAsset := transactor.depositAsset

end XcmAssetTransactor

/-- The location of a local account is local. -/
@[simp] theorem route_of_account (account : AccountId) :
    routeOf (.ofAccount account) = .localChain := rfl

end Sygma.BridgeForwarder
