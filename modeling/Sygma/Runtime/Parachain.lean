import Sygma.Bridge.Specs
import Sygma.BridgeForwarder
import Sygma.Runtime.Standalone
import Sygma.XcmBridge

/-!
# The parachain runtime

How the parachain runtime configures the pallets. It has the constants of the standalone runtime
with another foreign asset, its own destination parser, and the forwarding asset transactor, which
calls the bridge that it is part of. `asset_transactor_eq` is the equation of that loop: a transfer
deposits to local accounts only, so the transactor under the bridge never forwards again.
`confined` is what the runs of a chain ask of it: besides calling `transfer` it moves balances only.
-/

namespace Sygma.Parachain

open Exec (Panic)
open BridgeForwarder (TransferBridge XcmAssetTransactor forwarder)

variable {L : Type}

/-! ## Tables -/

def usdtLocation : MultiLocation := Standalone.siblingAsset (Bytes.ofString "usdt") (by decide)

/-- The accounts that hold the reserves. -/
def bridgeAccounts (asset : AssetId) : Option AccountId :=
  if asset = .concrete Standalone.nativeLocation then some Standalone.bridgeAccountNative
  else if asset = .concrete usdtLocation then some Standalone.bridgeAccountOtherToken
  else if asset = .concrete Standalone.erc20TstLocation then
    some Standalone.bridgeAccountOtherToken
  else if asset = .concrete Standalone.erc20TstD20Location then
    some Standalone.bridgeAccountOtherToken
  else none

/-- The supported assets and their resource ids. -/
def resourcePairs : List (AssetId × ResourceId) :=
  [(.concrete Standalone.nativeLocation, Standalone.resource 0 1),
    (.concrete usdtLocation, Standalone.resource 3 0),
    (.concrete Standalone.erc20TstLocation, Standalone.resource 0 0),
    (.concrete Standalone.erc20TstD20Location, Standalone.resource 9 0)]

/-- The decimals of the supported assets. -/
def assetDecimalPairs : List (AssetId × U8) :=
  [(.concrete Standalone.nativeLocation, 12), (.concrete usdtLocation, 12),
    (.concrete Standalone.erc20TstLocation, 18), (.concrete Standalone.erc20TstD20Location, 20)]

/-- The least fees of the XCM bridge: one unit of the native asset. -/
def minXcmFee : List (AssetId × U128) :=
  [(.concrete Standalone.nativeLocation, 1000000000000)]

/-! ## Components -/

/-- The first bytes of a key. A length beyond the key panics. -/
def sliceKey (key : Bytes32) (length : U8) : Except Panic Bytes :=
  if length.toNat ≤ 32 then .ok (key.toList.take length.toNat) else .error .index

/-- The recipient and the domain of a destination that starts with the key of the bridge. The
recipient is sliced only for a domain that fits its type. -/
def extractDest (dest : MultiLocation) : Except Panic (Option (Bytes × DomainID)) :=
  match dest.parents, dest.interior.items with
  | 0#8, [.generalKey pathLen sygmaPath, .generalIndex destDomainId,
      .generalKey recipientLen recipient] => do
      let path ← sliceKey sygmaPath pathLen
      if path = Bytes.ofString "sygma" then
        if destDomainId.toNat < 256 then do
          let bytes ← sliceKey recipient recipientLen
          .ok (some (bytes, destDomainId.setWidth 8))
        else .ok none
      else .ok none
  | _, _ => .ok none

/-- Whether an asset is the native one of the parachain, named from inside or from a sibling. -/
def isNativeAsset (parachainId : U32) (asset : MultiAsset) : Bool :=
  match asset.id, asset.fun_ with
  | .concrete id, .fungible _ => [MultiLocation.here, .sibling parachainId].contains id
  | _, _ => false

/-! ## The configuration -/

/-- What the runtime takes from its host and from other crates: the hash and codec behind the
temporary accounts, the transactors of the two kinds of assets, and the XCM executor. -/
structure Host (L : Type) extends Standalone.Host where
  parachainId : U32
  blake2256 : Bytes → Bytes32
  encodeMultiLocation : MultiLocation → Bytes
  currencyTransactor : TransactAsset L
  fungiblesTransactor : TransactAsset L
  weigher : XcmBridge.Xcm → Option Weight
  executeXcmInCredit :
    MultiLocation → XcmBridge.Xcm → Bytes32 → Weight → Weight → Call L XcmError Unit
  hashOf : XcmBridge.Xcm → Bytes32
  reanchored : MultiAsset → MultiLocation → Junctions → Option MultiAsset

/-- The configuration of the bridge, given its asset transactor. -/
def bridgeConfig (host : Host L) (assetTransactor : TransactAsset L) : Config L :=
  { Standalone.config host.toHost assetTransactor with
    transferReserveAccounts := bridgeAccounts
    resourcePairs := resourcePairs
    extractDestData := extractDest
    decimalConverter := sygmaDecimalConverter host.debugAssertions assetDecimalPairs }

/-- The configuration of the XCM bridge. -/
def xcmBridgeConfig (host : Host L) : XcmBridge.Config L where
  weigher := host.weigher
  executeXcmInCredit := host.executeXcmInCredit
  hashOf := host.hashOf
  reanchored := host.reanchored
  assetReservedChecker := isNativeAsset host.parachainId
  selfLocation := .sibling host.parachainId
  minXcmFee := minXcmFee
  debugAssertions := host.debugAssertions

/-- The asset transactor, given the bridge that it forwards to. -/
def transactorOver (host : Host L) (sygmaBridge : TransferBridge L) : XcmAssetTransactor L where
  currencyTransactor := host.currencyTransactor
  fungiblesTransactor := host.fungiblesTransactor
  assetTypeChecker := isNativeAsset host.parachainId
  forwarder := forwarder sygmaBridge (XcmBridge.transfer (xcmBridgeConfig host))
  blake2256 := host.blake2256
  encodeMultiLocation := host.encodeMultiLocation

/-- The part of the asset transactor that does not forward. -/
def localTransactor (host : Host L) : TransactAsset L where
  withdrawAsset what who :=
    (if isNativeAsset host.parachainId what then host.currencyTransactor
      else host.fungiblesTransactor).withdrawAsset what who
  depositAsset what who :=
    (if isNativeAsset host.parachainId what then host.currencyTransactor
      else host.fungiblesTransactor).depositAsset what who

/-- The bridge as the forwarder calls it, on top of a transactor. The weight is not used. -/
def sygmaBridgeOver (host : Host L) (assetTransactor : TransactAsset L) : TransferBridge L :=
  fun sender asset dest _ => Bridge.transfer (bridgeConfig host assetTransactor) sender asset dest

/-- The asset transactor of the runtime. -/
def assetTransactor (host : Host L) : XcmAssetTransactor L :=
  transactorOver host (sygmaBridgeOver host (localTransactor host))

/-- The configuration of the runtime. -/
def config (host : Host L) : Config L :=
  bridgeConfig host (assetTransactor host).transactAsset

/-- A deposit calls the asset transactor at local accounts only. -/
theorem deposit_congr {cfg other : Config L}
    (h : other = { cfg with assetTransactor := other.assetTransactor })
    (hwithdraw : other.assetTransactor.withdrawAsset = cfg.assetTransactor.withdrawAsset)
    (hdeposit : ∀ what account, other.assetTransactor.depositAsset what (.ofAccount account) =
      cfg.assetTransactor.depositAsset what (.ofAccount account)) :
    Bridge.deposit other = Bridge.deposit cfg := by
  funext origin asset dest
  unfold Bridge.deposit
  rw [h]
  simp only [hwithdraw, hdeposit]
  rfl

/-- A deposit never forwards. -/
theorem deposit_local (host : Host L) :
    Bridge.deposit (config host) = Bridge.deposit (bridgeConfig host (localTransactor host)) :=
  deposit_congr rfl rfl fun _ _ => rfl

/-- The asset transactor forwards to the bridge that is configured with it. -/
theorem asset_transactor_eq (host : Host L) :
    assetTransactor host =
      transactorOver host (sygmaBridgeOver host (assetTransactor host).transactAsset) := by
  have hbridge : sygmaBridgeOver host (localTransactor host) =
      sygmaBridgeOver host (assetTransactor host).transactAsset := by
    funext sender asset dest _
    exact (congrArg (fun call => call (.signed sender) asset dest) (deposit_local host)).symm
  rw [← hbridge]
  rfl

/-! ## The transactor is confined -/

section

open Bridge

/-- The transactors of the host move balances only. -/
structure Balances (transactor : TransactAsset L) : Prop where
  withdraw : ∀ what who, Exec.Leaves Moves (transactor.withdrawAsset what who)
  deposit : ∀ what who, Exec.Leaves Moves (transactor.depositAsset what who)

variable {host : Host L}

/-- Reporting a transfer is no more than a change of balances. -/
theorem deposit_event_leaves {cfg : Config L} {event : Event} (h : event.isForeign = true) :
    Exec.Leaves (Transfers cfg) (depositEvent event : Call L DispatchError Unit) := by
  intro state
  refine .moves .refl ⟨rfl, [event], rfl, ?_⟩
  intro added hmem
  rw [List.mem_singleton.mp hmem]
  exact h

/-- The XCM bridge leaves what the executor leaves. -/
theorem xcm_transfer_leaves {cfg : Config L}
    (hexecutor : ∀ origin program hash limit credit,
      Exec.Leaves (Transfers cfg) (host.executeXcmInCredit origin program hash limit credit))
    (sender : Bytes32) (what : MultiAsset) (dest : MultiLocation) (maxWeight : Option Weight) :
    Exec.Leaves (Transfers cfg)
      (XcmBridge.transfer (xcmBridgeConfig host) sender what dest maxWeight) := by
  have hrefl : ∀ state, Transfers cfg state state := fun _ => .refl
  have htrans : ∀ state middle final, Transfers cfg state middle → Transfers cfg middle final →
      Transfers cfg state final := fun _ _ _ => .trans
  refine (Exec.leaves_okOr hrefl _ _).bind htrans fun _ => ?_
  refine (Exec.leaves_ensure hrefl _ _).bind htrans fun _ => ?_
  refine (Exec.leaves_orPanic hrefl _).bind htrans fun _ => ?_
  refine (Exec.leaves_orPanic hrefl _).bind htrans fun _ => ?_
  refine (Exec.leaves_lift hrefl _).bind htrans fun _ => ?_
  refine Exec.Leaves.bind htrans ?_ fun _ => deposit_event_leaves rfl
  exact (Exec.leaves_okOr hrefl _ _).bind htrans fun _ => (hexecutor _ _ _ _ _).mapErr

/-- The forwarding transactor is confined, if the transactors of the host move balances only and the
executor moves balances and calls `transfer` only. -/
theorem confined (hcurrency : Balances host.currencyTransactor)
    (hfungibles : Balances host.fungiblesTransactor)
    (hexecutor : ∀ origin program hash limit credit, Exec.Leaves (Transfers (config host))
      (host.executeXcmInCredit origin program hash limit credit)) :
    Confined (config host) := by
  have htrans : ∀ state middle final, Transfers (config host) state middle →
      Transfers (config host) middle final → Transfers (config host) state final :=
    fun _ _ _ => .trans
  have hkeeper : ∀ what, Balances ((assetTransactor host).keeper what) := by
    intro what
    unfold XcmAssetTransactor.keeper
    split
    · exact hcurrency
    · exact hfungibles
  have hkept : ∀ what who, Exec.Leaves (Transfers (config host))
      (((assetTransactor host).keeper what).depositAsset what who) :=
    fun what who state => .moves .refl ((hkeeper what).deposit what who state)
  -- the bridge under the forwarder is the one that is configured with it
  have hbridge : (assetTransactor host).forwarder = forwarder
      (sygmaBridgeOver host (assetTransactor host).transactAsset)
      (XcmBridge.transfer (xcmBridgeConfig host)) :=
    congrArg XcmAssetTransactor.forwarder (asset_transactor_eq host)
  refine ⟨?_, ?_, ?_⟩
  · intro what who
    exact (hkeeper what).withdraw what who
  · intro what account
    exact (hkeeper what).deposit what (.ofAccount account)
  · intro what who
    show Exec.Leaves (Transfers (config host)) ((assetTransactor host).depositAsset what who)
    unfold XcmAssetTransactor.depositAsset
    cases BridgeForwarder.routeOf who with
    | localChain => exact hkept what who
    | otherWorld =>
        refine (hkept what _).bind htrans fun _ => Exec.Leaves.mapErr ?_
        rw [hbridge]
        refine Exec.Leaves.bind htrans ?_ fun _ => deposit_event_leaves rfl
        exact fun state => .transfer .refl rfl
    | remoteChain =>
        refine (hkept what _).bind htrans fun _ => Exec.Leaves.mapErr ?_
        rw [hbridge]
        refine Exec.Leaves.bind htrans ?_ fun _ => deposit_event_leaves rfl
        exact xcm_transfer_leaves hexecutor _ _ _ _

end

end Sygma.Parachain
