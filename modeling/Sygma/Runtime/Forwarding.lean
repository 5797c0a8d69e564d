import Sygma.Runtime.Conservation
import Sygma.Runtime.Destinations
import Sygma.Runtime.Pallets
import Sygma.Runtime.Routing

/-!
# Deposits in two steps

The forwarding transactor serves a recipient on another chain in two steps: it credits a temporary
account and then has the forwarder send the asset from there. `deposit_atomic_iff` is about the
second step failing: the credit of the first is not undone, so a failed deposit leaves the balances
as they were except when it strands the asset on the temporary account.
`forwarded_transfer_no_residue` is about both steps succeeding through the Sygma bridge, which calls
the same transactor again: the credit and the debit of the temporary account cancel, and what is
left is one deposit with that account as its sender.
-/

namespace Sygma.BridgeForwarder

open Bridge (Receipt Collects createDepositData)

variable {L K : Type}

/-! ## Failing in the second step -/

/-- A call that returns an error leaves the ledger as it was. -/
def LedgerAtomic {ε : Type} (call : Call L ε Unit) : Prop :=
  ∀ state error final, call state = (.error (.error error), final) → final.ledger = state.ledger

/-- Reporting an event does not fail, so a call that is followed by it fails as the call does. -/
theorem LedgerAtomic.then_event {call : Call L DispatchError Unit} (h : LedgerAtomic call)
    (event : Event) : LedgerAtomic (call >>= fun _ => depositEvent event) := by
  intro state error final hfailed
  obtain hcall | ⟨_, middle, -, hevent⟩ := Exec.bind_error.mp hfailed
  · exact h state error final hcall
  · cases hevent

/-- A ledger operation that is atomic stays so on the ledger of a chain. -/
theorem LedgerAtomic.on_ledger {operation : L → Except XcmError Unit × L}
    (h : ∀ ledger error final, operation ledger = (.error error, final) → final = ledger) :
    LedgerAtomic (onLedger operation) := by
  intro state error final hfailed
  unfold onLedger at hfailed
  rcases hoperation : operation state.ledger with ⟨outcome, ledger⟩
  rw [hoperation] at hfailed
  cases outcome with
  | ok done => cases hfailed
  | error inner =>
      cases hfailed
      exact h _ _ _ hoperation

theorem LedgerAtomic.of_lift {transactor : LedgerTransactor L} (h : transactor.Atomic)
    (what : MultiAsset) (who : MultiLocation) :
    LedgerAtomic (transactor.lift.depositAsset what who) :=
  .on_ledger (h.deposit what who)

namespace XcmAssetTransactor

variable {transactor : XcmAssetTransactor L}

/-- How a location that is not local is served: the byte of the temporary account, and the way the
forwarder sends from there. -/
def forwards (transactor : XcmAssetTransactor L) (who : MultiLocation) :
    Option (Byte × (Bytes32 → MultiAsset → MultiLocation → Call L DispatchError Unit)) :=
  match routeOf who with
  | .localChain => none
  | .otherWorld => some (1, transactor.forwarder.otherWorldTransactorForwarder)
  | .remoteChain => some (2, transactor.forwarder.xcmTransactorForwarder)

theorem deposit_asset_eq (transactor : XcmAssetTransactor L) (what : MultiAsset)
    (who : MultiLocation) :
    transactor.depositAsset what who =
      match transactor.forwards who with
      | none => (transactor.keeper what).depositAsset what who
      | some (byte, send) => transactor.forward byte send what who := by
  unfold depositAsset forwards
  cases routeOf who <;> rfl

/-- The parts of the transactor are atomic: the transactors of the two kinds of assets, and the two
ways of the forwarder. -/
structure PartsAtomic (transactor : XcmAssetTransactor L) : Prop where
  currency : ∀ what who, LedgerAtomic (transactor.currencyTransactor.depositAsset what who)
  fungibles : ∀ what who, LedgerAtomic (transactor.fungiblesTransactor.depositAsset what who)
  xcm : ∀ origin what dest,
    LedgerAtomic (transactor.forwarder.xcmTransactorForwarder origin what dest)
  otherWorld : ∀ origin what dest,
    LedgerAtomic (transactor.forwarder.otherWorldTransactorForwarder origin what dest)

theorem PartsAtomic.keeper (h : transactor.PartsAtomic) (what : MultiAsset) (who : MultiLocation) :
    LedgerAtomic ((transactor.keeper what).depositAsset what who) := by
  unfold XcmAssetTransactor.keeper
  split
  · exact h.currency what who
  · exact h.fungibles what who

theorem PartsAtomic.send (h : transactor.PartsAtomic) {who : MultiLocation} {byte : Byte}
    {send : Bytes32 → MultiAsset → MultiLocation → Call L DispatchError Unit}
    (hforwards : transactor.forwards who = some (byte, send)) (origin : Bytes32)
    (what : MultiAsset) (dest : MultiLocation) : LedgerAtomic (send origin what dest) := by
  unfold forwards at hforwards
  split at hforwards
  · cases hforwards
  · cases hforwards
    exact h.otherWorld origin what dest
  · cases hforwards
    exact h.xcm origin what dest

/-- A deposit strands its asset: the temporary account is credited, which shows in the holdings, and
then the forwarder fails. -/
def Strands (transactor : XcmAssetTransactor L) (holdings : Holdings L K) (what : MultiAsset)
    (who : MultiLocation) (state : State L) : Prop :=
  ∃ byte send credited error sent,
    transactor.forwards who = some (byte, send) ∧
    (transactor.keeper what).depositAsset what (.ofAccount (transactor.temporaryAccount byte))
      state = (.ok (), credited) ∧
    send (transactor.temporaryAccount byte) what who credited = (.error (.error error), sent) ∧
    ¬ holdings.Same state.ledger credited.ledger

/-- A deposit that fails leaves all balances and total issuances as they were, exactly if it does
not strand the asset. -/
theorem deposit_atomic_iff (hparts : transactor.PartsAtomic) (holdings : Holdings L K)
    (what : MultiAsset) (who : MultiLocation) (state : State L) :
    (∀ error final, transactor.depositAsset what who state = (.error (.error error), final) →
      holdings.Same state.ledger final.ledger) ↔
    ¬ transactor.Strands holdings what who state := by
  rw [deposit_asset_eq]
  constructor
  · rintro h ⟨byte, send, credited, error, sent, hforwards, hcredited, hsent, hdiffers⟩
    rw [hforwards] at h
    have hfailed : transactor.forward byte send what who state =
        (.error (.error (.failedToTransactAsset error.message)), sent) :=
      Exec.bind_error.mpr (.inr ⟨(), credited, hcredited,
        Exec.mapErr_error.mpr ⟨error, hsent, rfl⟩⟩)
    have hsame := h _ _ hfailed
    rw [hparts.send hforwards _ _ _ _ _ _ hsent] at hsame
    exact hdiffers hsame
  · intro h error final hfailed
    cases hforwards : transactor.forwards who with
    | none =>
        rw [hforwards] at hfailed
        rw [hparts.keeper _ _ _ _ _ hfailed]
        exact .refl holdings state.ledger
    | some route =>
        obtain ⟨byte, send⟩ := route
        rw [hforwards] at hfailed
        obtain hcredit | ⟨_, credited, hcredited, hsend⟩ := Exec.bind_error.mp hfailed
        · rw [hparts.keeper _ _ _ _ _ hcredit]
          exact .refl holdings state.ledger
        · -- the forwarder failed, so what is left is what the credit left
          obtain ⟨inner, hsent, -⟩ := Exec.mapErr_error.mp hsend
          by_contra hdiffers
          rw [hparts.send hforwards _ _ _ _ _ _ hsent] at hdiffers
          exact h ⟨byte, send, credited, inner, final, hforwards, hcredited, hsent, hdiffers⟩

end XcmAssetTransactor

/-! ## Assets on the ledger -/

/-- The two kinds of assets are kept on the ledger. -/
structure OnLedger (transactor : XcmAssetTransactor L) (currency fungibles : LedgerTransactor L) :
    Prop where
  currency : transactor.currencyTransactor = currency.lift
  fungibles : transactor.fungiblesTransactor = fungibles.lift

section OnLedger

variable {transactor : XcmAssetTransactor L} {currency fungibles : LedgerTransactor L}

theorem OnLedger.keeper_eq (h : OnLedger transactor currency fungibles) (what : MultiAsset) :
    transactor.keeper what =
      (if transactor.assetTypeChecker what then currency else fungibles).lift := by
  unfold XcmAssetTransactor.keeper
  split
  · exact h.currency
  · exact h.fungibles

/-- A fungible asset is stranded by every failure of the forwarder, unless its amount is zero. -/
theorem OnLedger.strands_iff [DecidableEq K] {holdings : Holdings L K}
    (h : OnLedger transactor currency fungibles) (currencyView : PooledLedger holdings currency)
    (fungiblesView : PooledLedger holdings fungibles) (id : AssetId) (amount : U128)
    (who : MultiLocation) (state : State L) :
    transactor.Strands holdings ⟨id, .fungible amount⟩ who state ↔
      amount.toNat ≠ 0 ∧ ∃ byte send credited error sent,
        transactor.forwards who = some (byte, send) ∧
        (transactor.keeper ⟨id, .fungible amount⟩).depositAsset ⟨id, .fungible amount⟩
          (.ofAccount (transactor.temporaryAccount byte)) state = (.ok (), credited) ∧
        send (transactor.temporaryAccount byte) ⟨id, .fungible amount⟩ who credited =
          (.error (.error error), sent) := by
  have hcredit : ∀ byte credited,
      (transactor.keeper ⟨id, .fungible amount⟩).depositAsset ⟨id, .fungible amount⟩
        (.ofAccount (transactor.temporaryAccount byte)) state = (.ok (), credited) →
      (holdings.Same state.ledger credited.ledger ↔ amount.toNat = 0) := by
    intro byte credited hcredited
    rw [h.keeper_eq] at hcredited
    obtain ⟨ledger, hledger, rfl⟩ := on_ledger_ok.mp hcredited
    exact (PooledLedger.choose transactor.assetTypeChecker currencyView fungiblesView).same_iff
      hledger
  constructor
  · rintro ⟨byte, send, credited, error, sent, hforwards, hcredited, hsent, hdiffers⟩
    exact ⟨fun hzero => hdiffers ((hcredit byte credited hcredited).mpr hzero),
      byte, send, credited, error, sent, hforwards, hcredited, hsent⟩
  · rintro ⟨hpositive, byte, send, credited, error, sent, hforwards, hcredited, hsent⟩
    exact ⟨byte, send, credited, error, sent, hforwards, hcredited, hsent,
      fun hsame => hpositive ((hcredit byte credited hcredited).mp hsame)⟩

end OnLedger

/-! ## The parts on the parachain -/

section Parachain

open Parachain (Host)

variable {host : Host L}

/-- The XCM bridge fails before it gives a program to the executor, or with the executor. -/
theorem xcm_transfer_atomic {cfg : XcmBridge.Config L}
    (hexecutor : ∀ origin program hash limit credit,
      LedgerAtomic (cfg.executeXcmInCredit origin program hash limit credit))
    (sender : Bytes32) (asset : MultiAsset) (dest : MultiLocation) (maxWeight : Option Weight) :
    LedgerAtomic (XcmBridge.transfer cfg sender asset dest maxWeight) := by
  intro state error final hfailed
  rw [XcmBridge.transfer_eq] at hfailed
  cases hprepare : XcmBridge.prepare cfg sender asset dest maxWeight with
  | error inner =>
      rw [hprepare] at hfailed
      cases hfailed
      rfl
  | ok submission =>
      rw [hprepare] at hfailed
      refine LedgerAtomic.then_event ?_ _ state error final hfailed
      intro state error final hmapped
      obtain ⟨inner, hexecuted, -⟩ := Exec.mapErr_error.mp hmapped
      exact hexecutor _ _ _ _ _ _ _ _ hexecuted

/-- On the parachain the forwarder is atomic if the executor is, because a deposit of the bridge is
undone when it fails. -/
theorem parachain_parts_atomic
    (hcurrency : ∀ what who, LedgerAtomic (host.currencyTransactor.depositAsset what who))
    (hfungibles : ∀ what who, LedgerAtomic (host.fungiblesTransactor.depositAsset what who))
    (hexecutor : ∀ origin program hash limit credit,
      LedgerAtomic (host.executeXcmInCredit origin program hash limit credit)) :
    (Parachain.assetTransactor host).PartsAtomic where
  currency := hcurrency
  fungibles := hfungibles
  xcm origin what dest := (xcm_transfer_atomic hexecutor origin what dest _).then_event _
  otherWorld origin what dest := by
    refine LedgerAtomic.then_event ?_ _
    intro state error final hfailed
    rw [Exec.transactional_error hfailed]

/-- The executor of the parachain is atomic on the programs of the XCM bridge. -/
theorem execute_xcm_atomic (parachainId : U32) (origin : MultiLocation) (program : XcmBridge.Xcm)
    (hash : Bytes32) (limit credit : Weight) :
    LedgerAtomic (Parachain.executeXcmInCredit parachainId origin program hash limit credit) := by
  -- a program that cannot be sent fails before anything is taken
  have hsend : ∀ (dest : MultiLocation) {operation : Accounts → Except XcmError Unit × Accounts},
      (∀ ledger error final, operation ledger = (.error error, final) → final = ledger) →
      LedgerAtomic (Exec.lift ((Parachain.reachable dest).mapError .error) >>= fun _ =>
        onLedger operation) := by
    intro dest operation hatomic state error final hfailed
    obtain hbarred | ⟨_, middle, hpassed, hmoved⟩ := Exec.bind_error.mp hfailed
    · rw [← (Prod.mk.inj hbarred).2]
    · rw [← (Prod.mk.inj hpassed).2] at hmoved
      exact LedgerAtomic.on_ledger hatomic _ _ _ hmoved
  have hrefuse : ∀ error, LedgerAtomic (Exec.raise error : Call Accounts XcmError Unit) := by
    intro error state found final hfailed
    cases hfailed
    rfl
  unfold Parachain.executeXcmInCredit
  split
  · exact hrefuse _
  · split
    · exact hsend _ fun _ _ _ => Parachain.transfer_asset_atomic
    · exact hsend _ ((adapter_atomic (balances_atomic _)).withdraw _ _)
    · exact hrefuse _

theorem runtime_parts_atomic :
    (Parachain.assetTransactor Parachain.runtimeHost).PartsAtomic :=
  parachain_parts_atomic (LedgerAtomic.of_lift (adapter_atomic (balances_atomic _)))
    (LedgerAtomic.of_lift (adapter_atomic (assets_atomic _))) (execute_xcm_atomic _)

/-- The balances of the pallets, with their sum as the issuance of a class. -/
noncomputable def accountHoldings : Holdings Accounts (Option U32) where
  balance ledger := ledger
  issuance ledger class_ := ∑ account : AccountId, ledger class_ account

/-- The parachain with a key and without any balances. -/
def keyedState : State Accounts :=
  (Bridge.setMpcAddress (Parachain.config Parachain.runtimeHost) .root Standalone.constantSigner
    (.genesis 1 .empty)).2

/-- A collectible is not taken by the pallets, so a deposit of one fails in its first step. -/
theorem deposit_atomic_collectible :
    (∃ error final, (Parachain.assetTransactor Parachain.runtimeHost).depositAsset
      ⟨Standalone.native, .nonFungible .undefined⟩ Parachain.assetDepositDest
      keyedState = (.error (.error error), final)) ∧
    ∀ error final, (Parachain.assetTransactor Parachain.runtimeHost).depositAsset
      ⟨Standalone.native, .nonFungible .undefined⟩ Parachain.assetDepositDest
      keyedState = (.error (.error error), final) →
      accountHoldings.Same keyedState.ledger final.ledger := by
  refine ⟨⟨_, _, rfl⟩, (XcmAssetTransactor.deposit_atomic_iff runtime_parts_atomic accountHoldings _
    _ _).mpr ?_⟩
  rintro ⟨byte, send, credited, error, sent, -, hcredited, -⟩
  cases hcredited

/-- A deposit of USDT to the destination of the scripts fails in its second step, because the parser
of the runtime finds nothing in it. The asset stays on the temporary account. -/
theorem failed_forward_strands_asset :
    (Parachain.assetTransactor Parachain.runtimeHost).PartsAtomic ∧
    ∃ error final, (Parachain.assetTransactor Parachain.runtimeHost).depositAsset
        ⟨.concrete Parachain.usdtLocation, .fungible 100⟩ Parachain.assetDepositDest keyedState =
          (.error (.error error), final) ∧
      keyedState.ledger (some 2000)
        ((Parachain.assetTransactor Parachain.runtimeHost).temporaryAccount 1) = 0 ∧
      final.ledger (some 2000)
        ((Parachain.assetTransactor Parachain.runtimeHost).temporaryAccount 1) = 100 ∧
      ¬ accountHoldings.Same keyedState.ledger final.ledger := by
  have hbefore : keyedState.ledger (some 2000)
      ((Parachain.assetTransactor Parachain.runtimeHost).temporaryAccount 1) = 0 := rfl
  refine ⟨runtime_parts_atomic, _, _, rfl, hbefore, by decide +kernel, ?_⟩
  intro hsame
  have hbalance := hsame.balance (some 2000)
    ((Parachain.assetTransactor Parachain.runtimeHost).temporaryAccount 1)
  exact absurd (hbalance.trans hbefore) (by decide +kernel)

end Parachain

/-! ## Succeeding in both steps -/

/-- The transactor is the one that a bridge is configured with, and its forwarder calls that
bridge. -/
structure PluggedIn (transactor : XcmAssetTransactor L) (cfg : Config L)
    (currency fungibles : LedgerTransactor L) (xcmBridge : TransferBridge L) : Prop extends
    OnLedger transactor currency fungibles where
  configured : cfg.assetTransactor = transactor.transactAsset
  forwarder : transactor.forwarder =
    forwarder (fun sender asset dest _ => Bridge.transfer cfg sender asset dest) xcmBridge

section NoResidue

variable {transactor : XcmAssetTransactor L} {cfg : Config L}
  {currency fungibles : LedgerTransactor L} {xcmBridge : TransferBridge L}

/-- A deposit of the bridge is one over the ledger: it withdraws, and deposits to accounts only. -/
theorem PluggedIn.deposit_eq (h : PluggedIn transactor cfg currency fungibles xcmBridge) :
    Bridge.deposit cfg = Bridge.deposit
      { cfg with
        assetTransactor :=
          (LedgerTransactor.choose transactor.assetTypeChecker currency fungibles).lift } := by
  refine Parachain.deposit_congr rfl ?_ ?_
  · rw [h.configured]
    funext what who
    show (transactor.keeper what).withdrawAsset what who = _
    rw [h.keeper_eq]
    rfl
  · intro what account
    rw [h.configured]
    show (transactor.keeper what).depositAsset what _ = _
    rw [h.keeper_eq]
    rfl

variable [DecidableEq K] {holdings : Holdings L K}

/-- What a forwarded transfer comes to, in terms of the pools of a view: a deposit with the
temporary account as its sender, which leaves the balance of that account as it was. -/
structure Forwarded (cfg : Config L) (holdings : Holdings L K) (pool : MultiAsset → K)
    (temporary : AccountId) (id : AssetId) (amount : U128) (who : MultiLocation)
    (receipt : Receipt) (state final : State L) : Prop where
  destination : cfg.extractDestData who = .ok (some (receipt.recipient, receipt.destDomainId))
  fee : cfg.feeHandler state.storage receipt.destDomainId ⟨id, .fungible amount⟩ = some receipt.fee
  affordable : receipt.fee < amount
  reserveAccount : cfg.transferReserveAccounts id = some receipt.reserveAccount
  temporaryBalance : ∀ key,
    holdings.balance final.ledger key temporary = holdings.balance state.ledger key temporary
  feeBalance :
    holdings.balance final.ledger (pool ⟨id, .fungible receipt.fee⟩) cfg.feeReserveAccount =
      holdings.balance state.ledger (pool ⟨id, .fungible receipt.fee⟩) cfg.feeReserveAccount +
        receipt.fee.toNat
  reserveBalance : cfg.isReserve ⟨id, .fungible amount⟩ .here = true →
    holdings.balance final.ledger (pool ⟨id, .fungible (amount - receipt.fee)⟩)
        receipt.reserveAccount =
      holdings.balance state.ledger (pool ⟨id, .fungible (amount - receipt.fee)⟩)
        receipt.reserveAccount + (amount.toNat - receipt.fee.toNat)
  otherBalances : ∀ key other,
    (key, other) ≠ (pool ⟨id, .fungible receipt.fee⟩, cfg.feeReserveAccount) →
    (cfg.isReserve ⟨id, .fungible amount⟩ .here = true →
      (key, other) ≠ (pool ⟨id, .fungible (amount - receipt.fee)⟩, receipt.reserveAccount)) →
    holdings.balance final.ledger key other = holdings.balance state.ledger key other
  issuance : ∀ key, holdings.issuance final.ledger key = holdings.issuance state.ledger key +
    amountOf (pool ⟨id, .fungible receipt.fee⟩) receipt.fee.toNat key +
    if cfg.isReserve ⟨id, .fungible amount⟩ .here then
      amountOf (pool ⟨id, .fungible (amount - receipt.fee)⟩)
        (amount.toNat - receipt.fee.toNat) key
    else 0
  nonce : (state.storage.depositCount receipt.destDomainId + 1).toNat =
    (state.storage.depositCount receipt.destDomainId).toNat + 1
  storage : final.storage =
    { state.storage with
      depositCounts := state.storage.depositCounts.insert receipt.destDomainId
        (state.storage.depositCount receipt.destDomainId + 1) }
  events : final.events = state.events ++
    [.deposit receipt.destDomainId receipt.resourceId
        (state.storage.depositCount receipt.destDomainId) temporary .fungibleTransfer
        (createDepositData receipt.published receipt.recipient) [],
      .feeCollected temporary receipt.destDomainId receipt.resourceId receipt.fee id,
      .otherWorldTransferForward ⟨id, .fungible amount⟩ (.ofAccount temporary) who]

/-- The two steps of a transfer that is forwarded to the Sygma bridge: the credit on the ledger, and
the deposit from there with its receipt. -/
theorem PluggedIn.forwarded_steps (h : PluggedIn transactor cfg currency fungibles xcmBridge)
    {what : MultiAsset} {who : MultiLocation} (hwho : Parachain.OtherWorldPattern who)
    {state final : State L} (hdeposit : transactor.depositAsset what who state = (.ok (), final)) :
    ∃ ledger receipt moved,
      (LedgerTransactor.choose transactor.assetTypeChecker currency fungibles).depositAsset what
        (.ofAccount (transactor.temporaryAccount 1)) state.ledger = (.ok (), ledger) ∧
      Bridge.Deposits
        { cfg with
          assetTransactor :=
            (LedgerTransactor.choose transactor.assetTypeChecker currency fungibles).lift }
        (.signed (transactor.temporaryAccount 1)) what who receipt
        { state with ledger := ledger } moved ∧
      depositEvent
        (.otherWorldTransferForward what (.ofAccount (transactor.temporaryAccount 1)) who)
        (receipt.issue what.id moved) =
        ((.ok (), final) : Except (Exec.Fault DispatchError) Unit × State L) := by
  unfold XcmAssetTransactor.depositAsset at hdeposit
  rw [Parachain.route_of_other_world.mpr hwho, h.forwarder] at hdeposit
  obtain ⟨_, credited, hcredit, hsend⟩ := Exec.bind_ok.mp hdeposit
  rw [h.keeper_eq] at hcredit
  obtain ⟨ledger, hledger, rfl⟩ := on_ledger_ok.mp hcredit
  obtain ⟨_, sent, htransfer, hevent⟩ := Exec.bind_ok.mp (Exec.mapErr_ok.mp hsend)
  have hdeposited : Bridge.deposit cfg (.signed (transactor.temporaryAccount 1)) what who
      { state with ledger := ledger } = (.ok (), sent) := htransfer
  rw [h.deposit_eq] at hdeposited
  obtain ⟨receipt, moved, hdeposits, rfl⟩ := Bridge.deposit_ok.mp hdeposited
  exact ⟨ledger, receipt, moved, hledger, hdeposits, hevent⟩

/-- When the sender of a deposit was credited the amount just before, the credit and the debit
cancel: only the fee and the reserve are left. -/
theorem collected_after_credit {ledgerTransactor : LedgerTransactor L}
    (view : PooledLedger holdings ledgerTransactor) {asset : MultiAsset} {receipt : Receipt}
    {before ledger paid charged final : L} (hasset : asset = ⟨asset.id, .fungible receipt.amount⟩)
    (hcredit : ledgerTransactor.depositAsset asset (.ofAccount receipt.sender) before =
      (.ok (), ledger))
    (h : Collects cfg ledgerTransactor asset receipt ledger paid charged final) :
    (∀ key other, holdings.balance final key other = holdings.balance before key other +
      amountIn (view.pool ⟨asset.id, .fungible receipt.fee⟩) cfg.feeReserveAccount
        receipt.fee.toNat key other +
      if cfg.isReserve asset .here then
        amountIn (view.pool ⟨asset.id, .fungible receipt.bridged⟩) receipt.reserveAccount
          receipt.bridged.toNat key other
      else 0) ∧
    ∀ key, holdings.issuance final key = holdings.issuance before key +
      amountOf (view.pool ⟨asset.id, .fungible receipt.fee⟩) receipt.fee.toNat key +
      if cfg.isReserve asset .here then
        amountOf (view.pool ⟨asset.id, .fungible receipt.bridged⟩) receipt.bridged.toNat key
      else 0 := by
  rw [hasset] at hcredit
  have hkeeps := view.keeps asset.id receipt.amount
  refine ⟨?_, ?_⟩
  · intro key other
    have hcredited := hkeeps.deposited hcredit key other
    have hcollected := h.balance view hasset key other
    rw [← hasset] at hcredited
    omega
  · intro key
    have hcredited := hkeeps.minted hcredit key
    have hcollected := h.issuance view hasset key
    rw [← hasset] at hcredited
    omega

/-- A transfer that is forwarded to the Sygma bridge and succeeds leaves nothing on the temporary
account. -/
theorem forwarded_transfer_no_residue
    (h : PluggedIn transactor cfg currency fungibles xcmBridge)
    (currencyView : PooledLedger holdings currency)
    (fungiblesView : PooledLedger holdings fungibles) {id : AssetId} {amount : U128}
    {who : MultiLocation} (hwho : Parachain.OtherWorldPattern who)
    (hfee : transactor.temporaryAccount 1 ≠ cfg.feeReserveAccount)
    (hreserve : ∀ reserve, cfg.transferReserveAccounts id = some reserve →
      transactor.temporaryAccount 1 ≠ reserve ∧ cfg.feeReserveAccount ≠ reserve)
    {state final : State L}
    (hdeposit : transactor.depositAsset ⟨id, .fungible amount⟩ who state = (.ok (), final)) :
    ∃ receipt, Forwarded cfg holdings
      (PooledLedger.choose transactor.assetTypeChecker currencyView fungiblesView).pool
      (transactor.temporaryAccount 1) id amount who receipt state final := by
  obtain ⟨ledger, receipt, moved, hcredit, hdeposits, hevent⟩ := h.forwarded_steps hwho hdeposit
  obtain ⟨hasset, htype, -⟩ := Bridge.extract_asset_some hdeposits.bound
  obtain rfl : amount = receipt.amount := Fungibility.fungible.inj (congrArg MultiAsset.fun_ hasset)
  have hsender : transactor.temporaryAccount 1 = receipt.sender :=
    Origin.signed.inj hdeposits.signed
  obtain ⟨hreserveSender, hreserveFee⟩ := hreserve _ hdeposits.reserve
  have hbridged := Receipt.bridged_toNat hdeposits.affordable
  obtain ⟨⟨paid, charged, hcollects⟩, hmoved⟩ := Bridge.collect_lift rfl hdeposits.collected
  rw [hsender] at hcredit
  obtain ⟨hbalance, hissuance⟩ := collected_after_credit
    (PooledLedger.choose transactor.assetTypeChecker currencyView fungiblesView) rfl hcredit
    hcollects
  obtain ⟨hfeeBalance, hreserveBalance, hother⟩ := balances_of_credits hreserveFee hbalance
  have hstorage : moved.storage = state.storage := by rw [hmoved]
  have hevents : moved.events = state.events := by rw [hmoved]
  have hnonce : moved.storage.depositCount receipt.destDomainId =
      state.storage.depositCount receipt.destDomainId := by rw [hstorage]
  obtain rfl := (Prod.mk.inj hevent).2
  exact ⟨receipt,
    { destination := hdeposits.destination
      fee := hdeposits.charged
      affordable := hdeposits.affordable
      reserveAccount := hdeposits.reserve
      -- the temporary account is neither the one of the fee nor the one of the reserve
      temporaryBalance := fun key => hother key _ (fun heq => hfee (congrArg Prod.snd heq))
        fun _ heq => hreserveSender (congrArg Prod.snd heq)
      feeBalance := hfeeBalance
      reserveBalance := fun hisReserve => by
        rw [← hbridged]
        exact hreserveBalance hisReserve
      otherBalances := hother
      issuance := fun key => by
        rw [← hbridged]
        exact hissuance key
      nonce := by
        rw [← hnonce]
        exact Bridge.toNat_succ_of_ne hdeposits.counted
      storage := by
        show (receipt.issue id moved).storage = _
        rw [Receipt.issue, State.put_storage, hstorage]
      events := by
        show (receipt.issue id moved).events ++ _ = _
        rw [Receipt.issue, State.put_events, Receipt.events, hnonce, hevents, htype, hsender,
          List.append_assoc]
        rfl }⟩

end NoResidue

/-! ## A parser that accepts what the router sends -/

section Example

/-- The recipient and the domain of a location with the pattern of the router. -/
def extractRouted (dest : MultiLocation) : Except Exec.Panic (Option (Bytes × DomainID)) :=
  match dest.interior.items with
  | [_, _, .generalIndex domain, .generalKey length recipient] =>
      .ok (some (recipient.toList.take length.toNat, domain.setWidth 8))
  | _ => .ok none

/-- The bridge of the parachain with that parser. -/
def routedConfig (assetTransactor : TransactAsset PlainLedger) : Config PlainLedger :=
  { Parachain.bridgeConfig Parachain.plainHost assetTransactor with
    extractDestData := extractRouted }

/-- The transactor of the parachain, forwarding to that bridge. -/
def routedTransactor : XcmAssetTransactor PlainLedger :=
  Parachain.transactorOver Parachain.plainHost fun sender asset dest _ =>
    Bridge.transfer (routedConfig (Parachain.localTransactor Parachain.plainHost)) sender asset dest

theorem routed_plugged_in :
    PluggedIn routedTransactor (routedConfig routedTransactor.transactAsset)
      (PlainLedger.transactor Standalone.locationToAccountId)
      (PlainLedger.transactor Standalone.locationToAccountId)
      (XcmBridge.transfer (Parachain.xcmBridgeConfig Parachain.plainHost)) where
  toOnLedger := ⟨rfl, rfl⟩
  configured := rfl
  forwarder := by
    have hdeposit : Bridge.deposit (routedConfig routedTransactor.transactAsset) =
        Bridge.deposit (routedConfig (Parachain.localTransactor Parachain.plainHost)) :=
      Parachain.deposit_congr rfl rfl fun _ _ => rfl
    have htransfer : Bridge.transfer (routedConfig routedTransactor.transactAsset) =
        Bridge.transfer (routedConfig (Parachain.localTransactor Parachain.plainHost)) := by
      funext sender asset dest
      exact congrArg (fun call => call (.signed sender) asset dest) hdeposit
    rw [htransfer]
    rfl

/-- The state after 1003 of the native asset were deposited to the destination of the scripts. -/
def forwardedState : State PlainLedger :=
  (routedTransactor.depositAsset ⟨Standalone.native, .fungible 1003⟩ Parachain.assetDepositDest
    Standalone.feeState).2

/-- The holdings of the plain ledger, with the sum of all balances as the issuance. -/
noncomputable def plainHoldings : Holdings PlainLedger AssetId :=
  (PlainLedger.keyed Standalone.locationToAccountId).issuing.holdings

/-- They leave the temporary account again, for a fee of 3. -/
theorem forwarded_no_residue_native :
    ∃ receipt, receipt.fee = 3 ∧
      Forwarded (routedConfig routedTransactor.transactAsset) plainHoldings MultiAsset.id
        (routedTransactor.temporaryAccount 1) Standalone.native 1003 Parachain.assetDepositDest
        receipt Standalone.feeState forwardedState := by
  have hdeposit : routedTransactor.depositAsset ⟨Standalone.native, .fungible 1003⟩
      Parachain.assetDepositDest Standalone.feeState = (.ok (), forwardedState) :=
    Prod.ext (by decide +kernel) rfl
  have hreserve : ∀ reserve, (routedConfig routedTransactor.transactAsset).transferReserveAccounts
      Standalone.native = some reserve →
      routedTransactor.temporaryAccount 1 ≠ reserve ∧
        (routedConfig routedTransactor.transactAsset).feeReserveAccount ≠ reserve := by
    intro reserve hsome
    obtain rfl : Standalone.bridgeAccountNative = reserve := Option.some.inj hsome
    decide +kernel
  obtain ⟨receipt, hforwarded⟩ := forwarded_transfer_no_residue routed_plugged_in
    (PlainLedger.keyed Standalone.locationToAccountId).issuing.pooled
    (PlainLedger.keyed Standalone.locationToAccountId).issuing.pooled ⟨_, _, _, rfl⟩
    (by decide +kernel) hreserve hdeposit
  have hpool : (PooledLedger.choose routedTransactor.assetTypeChecker
      (PlainLedger.keyed Standalone.locationToAccountId).issuing.pooled
      (PlainLedger.keyed Standalone.locationToAccountId).issuing.pooled).pool = MultiAsset.id :=
    funext fun _ => ite_self _
  rw [hpool] at hforwarded
  have hdomain : (1 : DomainID) = receipt.destDomainId :=
    congrArg Prod.snd (Option.some.inj (Except.ok.inj hforwarded.destination))
  have hquoted : (routedConfig routedTransactor.transactAsset).feeHandler
      Standalone.feeState.storage 1 ⟨Standalone.native, .fungible 1003⟩ = some 3 := by
    decide +kernel
  have hfee := hforwarded.fee
  rw [← hdomain] at hfee
  exact ⟨receipt, Option.some.inj (hfee.symm.trans hquoted), hforwarded⟩

end Example

end Sygma.BridgeForwarder
