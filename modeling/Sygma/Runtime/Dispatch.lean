import Sygma.FeeHandlers
import Sygma.Bridge.Specs

/-!
# Dispatching the extrinsics

All extrinsics of the five pallets, and `dispatch`, which runs one of them in a storage layer of
its own. Every extrinsic other than `deposit` and `executeProposal` is guarded by the access
segregator; `dispatch_guarded` describes all of these at once, by the guard it checks, what it
requires of storage, what it writes there and what it reports. `dispatch_cases` lists what a
dispatch can come to.
-/

namespace Sygma

open Exec (Fault bind_ok)

variable {L : Type}

/-- The extrinsics of the bridge, the access segregator, the fee handlers and the fee router, with
their arguments. -/
inductive Extrinsic where
  | pauseBridge (destDomainId : DomainID)
  | unpauseBridge (destDomainId : DomainID)
  | setMpcAddress (addr : MpcAddress)
  | registerDomain (destDomainId : DomainID) (destChainId : ChainID)
  | unregisterDomain (destDomainId : DomainID) (destChainId : ChainID)
  | deposit (asset : MultiAsset) (dest : MultiLocation)
  | retry (depositOnBlockHeight : U128) (destDomainId : DomainID)
  | executeProposal (proposals : List Proposal) (signature : Bytes)
  | pauseAllBridges
  | unpauseAllBridges
  | grantAccess (palletIndex : U8) (extrinsicName : Bytes) (who : AccountId)
  | setFee (domain : DomainID) (asset : AssetId) (amount : U128)
  | setFeeRate (domain : DomainID) (asset : AssetId) (feeRateBasisPoint : U32)
      (feeLowerBound feeUpperBound : U128)
  | setFeeHandler (domain : DomainID) (asset : AssetId) (handlerType : FeeHandlerType)

namespace Extrinsic

/-- The call an extrinsic makes. -/
def call (cfg : Config L) (origin : Origin) : Extrinsic → Call L DispatchError Unit
  | pauseBridge domain => Bridge.pauseBridge cfg origin domain
  | unpauseBridge domain => Bridge.unpauseBridge cfg origin domain
  | setMpcAddress addr => Bridge.setMpcAddress cfg origin addr
  | registerDomain domain chainId => Bridge.registerDomain cfg origin domain chainId
  | unregisterDomain domain chainId => Bridge.unregisterDomain cfg origin domain chainId
  | deposit asset dest => Bridge.deposit cfg origin asset dest
  | retry height domain => Bridge.retry cfg origin height domain
  | executeProposal proposals signature => Bridge.executeProposal cfg origin proposals signature
  | pauseAllBridges => Bridge.pauseAllBridges cfg origin
  | unpauseAllBridges => Bridge.unpauseAllBridges cfg origin
  | grantAccess palletIndex extrinsicName who =>
      Sygma.grantAccess cfg origin palletIndex extrinsicName who
  | setFee domain asset amount => BasicFeeHandler.setFee cfg origin domain asset amount
  | setFeeRate domain asset rate lower upper =>
      PercentageFeeHandler.setFeeRate cfg origin domain asset rate lower upper
  | setFeeHandler domain asset handlerType =>
      FeeHandlerRouter.setFeeHandler cfg origin domain asset handlerType

/-- Whether an extrinsic executes a batch of proposals. -/
def isBatch : Extrinsic → Bool
  | executeProposal _ _ => true
  | _ => false

/-- The pair of pallet index and name the access check of an extrinsic looks up. Anybody may call
`deposit` and `executeProposal`. -/
def guard (cfg : Config L) : Extrinsic → Option (U8 × Bytes)
  | pauseBridge _ => some (cfg.bridgeIndex, name "pause_bridge")
  | unpauseBridge _ => some (cfg.bridgeIndex, name "unpause_bridge")
  | setMpcAddress _ => some (cfg.bridgeIndex, name "set_mpc_address")
  | registerDomain _ _ => some (cfg.bridgeIndex, name "register_domain")
  | unregisterDomain _ _ => some (cfg.bridgeIndex, name "unregister_domain")
  | retry _ _ => some (cfg.bridgeIndex, name "retry")
  | pauseAllBridges => some (cfg.bridgeIndex, name "pause_all_bridges")
  | unpauseAllBridges => some (cfg.bridgeIndex, name "unpause_all_bridges")
  | grantAccess _ _ _ => some (cfg.accessSegregatorIndex, name "grant_access")
  | setFee _ _ _ => some (cfg.basicFeeHandlerIndex, name "set_fee")
  | setFeeRate _ _ _ _ _ => some (cfg.percentageFeeHandlerIndex, name "set_fee_rate")
  | setFeeHandler _ _ _ => some (cfg.feeHandlerRouterIndex, name "set_fee_handler")
  | deposit _ _ | executeProposal _ _ => none

/-- The error with which an extrinsic refuses an origin that has no access. -/
def refusal : Extrinsic → DispatchError
  | grantAccess _ _ _ => .access .grantAccessFailed
  | setFee _ _ _ => .basicFee .accessDenied
  | setFeeRate _ _ _ _ _ => .percentageFee .accessDenied
  | setFeeHandler _ _ _ => .feeRouter .accessDenied
  | _ => .bridge .accessDenied

/-- What a guarded extrinsic requires beyond access. -/
def requires (storage : Storage) : Extrinsic → Prop
  | pauseBridge domain => storage.registered domain = true
  | unpauseBridge domain => storage.registered domain = true ∧ storage.paused domain = true
  | setMpcAddress _ => storage.mpcClear = true
  | unregisterDomain domain chainId =>
      storage.registered domain = true ∧ storage.destChainIds.get domain = some chainId
  | retry _ domain =>
      storage.mpcClear = false ∧ storage.paused domain = false ∧ storage.registered domain = true
  | unpauseAllBridges => storage.mpcClear = false
  | setFeeRate _ _ rate lower upper => rate < 10000#32 ∧ lower < upper
  | _ => True

/-- The storage a guarded extrinsic leaves. -/
def write (storage : Storage) : Extrinsic → Storage
  | pauseBridge domain => { storage with isPaused := storage.isPaused.insert domain true }
  | unpauseBridge domain => { storage with isPaused := storage.isPaused.insert domain false }
  | setMpcAddress addr =>
      { storage with mpcAddr := addr, isPaused := Bridge.flagAll storage false }
  | registerDomain domain chainId =>
      { storage with
        destDomainIds := storage.destDomainIds.insert domain true
        destChainIds := storage.destChainIds.insert domain chainId }
  | unregisterDomain domain _ =>
      { storage with
        destDomainIds := storage.destDomainIds.remove domain
        destChainIds := storage.destChainIds.remove domain }
  | pauseAllBridges => { storage with isPaused := Bridge.flagAll storage true }
  | unpauseAllBridges => { storage with isPaused := Bridge.flagAll storage false }
  | grantAccess palletIndex extrinsicName who =>
      { storage with
        extrinsicAccess := storage.extrinsicAccess.insert (palletIndex, extrinsicName) who }
  | setFee domain asset amount =>
      { storage with assetFees := storage.assetFees.insert (domain, asset) amount }
  | setFeeRate domain asset rate lower upper =>
      { storage with
        assetFeeRate := storage.assetFeeRate.insert (domain, asset) (rate, lower, upper) }
  | setFeeHandler domain asset handlerType =>
      { storage with handlerType := storage.handlerType.insert (domain, asset) handlerType }
  | deposit _ _ | retry _ _ | executeProposal _ _ => storage

/-- The events a guarded extrinsic deposits. -/
def report (origin : Origin) : Extrinsic → List Event
  | pauseBridge domain => [.bridgePaused domain]
  | unpauseBridge domain => [.bridgeUnpaused domain]
  | registerDomain domain chainId => [.registerDestDomain (senderOrZero origin) domain chainId]
  | unregisterDomain domain chainId =>
      [.unregisterDestDomain (senderOrZero origin) domain chainId]
  | retry height domain => [.retry height domain (senderOrZero origin)]
  | pauseAllBridges => [.allBridgePaused (senderOrZero origin)]
  | unpauseAllBridges => [.allBridgeUnpaused (senderOrZero origin)]
  | grantAccess palletIndex extrinsicName who =>
      [.accessGranted palletIndex extrinsicName who]
  | setFee domain asset amount => [.feeSet domain asset amount]
  | setFeeRate domain asset rate lower upper => [.feeRateSet domain asset rate lower upper]
  | setFeeHandler domain asset handlerType => [.feeHandlerSet domain asset handlerType]
  | setMpcAddress _ | deposit _ _ | executeProposal _ _ => []

end Extrinsic

/-- Dispatch an extrinsic: its call runs in a storage layer, so a fault undoes its writes. -/
def dispatch (cfg : Config L) (origin : Origin) (extrinsic : Extrinsic) :
    Call L DispatchError Unit :=
  Exec.transactional (extrinsic.call cfg origin)

variable {cfg : Config L} {origin : Origin} {extrinsic : Extrinsic} {state final : State L}
  {palletIndex : U8} {extrinsicName : Bytes}

/-- A dispatch that fails changes nothing. -/
theorem dispatch_error {fault : Fault DispatchError}
    (h : dispatch cfg origin extrinsic state = (.error fault, final)) : final = state :=
  Exec.transactional_error h

theorem dispatch_ok :
    dispatch cfg origin extrinsic state = (.ok (), final) ↔
      extrinsic.call cfg origin state = (.ok (), final) :=
  Exec.transactional_ok

/-- A batch is accepted when it passes the checks and its proposals are executed. -/
theorem dispatch_batch_ok {proposals : List Proposal} {signature : Bytes} :
    dispatch cfg origin (.executeProposal proposals signature) state = (.ok (), final) ↔
      state.storage.mpcClear = false ∧ proposals ≠ [] ∧
        Bridge.verifyByMpcAddress cfg state.storage
          (Bridge.constructEcdsaSigningProposalsData cfg proposals) signature = true ∧
        Exec.forEach proposals (Bridge.executeOne cfg) state = (.ok (), final) := by
  rw [dispatch_ok, Extrinsic.call, Bridge.execute_proposal_ok]

/-- A guarded extrinsic succeeds exactly when the origin has access and its requirements hold, and
then does its write and its report and nothing else. -/
theorem dispatch_guarded (hguard : extrinsic.guard cfg = some (palletIndex, extrinsicName)) :
    dispatch cfg origin extrinsic state = (.ok (), final) ↔
      hasAccess cfg state.storage palletIndex extrinsicName origin = true ∧
        extrinsic.requires state.storage ∧
        state.put (extrinsic.write state.storage) (extrinsic.report origin) = final := by
  rw [dispatch_ok]
  cases extrinsic with
  | deposit | executeProposal => cases hguard
  | pauseBridge | unpauseBridge | setMpcAddress | registerDomain | unregisterDomain | retry
    | pauseAllBridges | unpauseAllBridges =>
      cases hguard
      simp [Extrinsic.call, Extrinsic.requires, Extrinsic.write, Extrinsic.report, and_assoc,
        Bridge.pause_bridge_ok, Bridge.unpause_bridge_ok, Bridge.set_mpc_address_ok,
        Bridge.register_domain_ok, Bridge.unregister_domain_ok, Bridge.retry_ok,
        Bridge.pause_all_bridges_ok, Bridge.unpause_all_bridges_ok]
  | grantAccess | setFee | setFeeRate | setFeeHandler =>
      cases hguard
      simp [Extrinsic.call, Extrinsic.requires, Extrinsic.write, Extrinsic.report, State.put,
        grantAccess, BasicFeeHandler.setFee, PercentageFeeHandler.setFeeRate,
        FeeHandlerRouter.setFeeHandler, bind_ok, readStorage, writeStorage, depositEvent, and_assoc]

/-- A guarded extrinsic refuses an origin without access. -/
theorem dispatch_refused (hguard : extrinsic.guard cfg = some (palletIndex, extrinsicName))
    (haccess : hasAccess cfg state.storage palletIndex extrinsicName origin = false) :
    dispatch cfg origin extrinsic state = (.error (.error extrinsic.refusal), state) := by
  unfold dispatch Exec.transactional
  cases extrinsic with
  | deposit | executeProposal => cases hguard
  | pauseBridge | unpauseBridge | setMpcAddress | registerDomain | unregisterDomain
    | pauseAllBridges | unpauseAllBridges =>
      cases hguard
      simp [Extrinsic.call, Extrinsic.refusal, Bridge.pauseBridge, Bridge.unpauseBridge,
        Bridge.setMpcAddress, Bridge.registerDomain, Bridge.unregisterDomain,
        Bridge.pauseAllBridges, Bridge.unpauseAllBridges, Bridge.ensure_access_refused, haccess]
  | retry =>
      cases hguard
      simp [Extrinsic.call, Extrinsic.refusal, Bridge.retry, Exec.transactional,
        Bridge.ensure_access_refused, haccess]
  | grantAccess | setFee | setFeeRate | setFeeHandler =>
      cases hguard
      simp [Extrinsic.call, Extrinsic.refusal, grantAccess, BasicFeeHandler.setFee,
        PercentageFeeHandler.setFeeRate, FeeHandlerRouter.setFeeHandler, readStorage,
        Exec.ensure_bind_apply, haccess]

/-- A guarded extrinsic opens no batch. -/
theorem Extrinsic.is_batch_of_guard {pair : U8 × Bytes} (h : extrinsic.guard cfg = some pair) :
    extrinsic.isBatch = false := by
  cases extrinsic with
  | executeProposal => cases h
  | _ => rfl

/-- What a dispatch that opens no batch comes to: it fails and changes nothing, it is guarded and
does its write and its report, or it is a deposit. -/
inductive Dispatched (cfg : Config L) (origin : Origin) (state : State L) :
    Extrinsic → Except (Fault DispatchError) Unit → State L → Prop where
  | failed {extrinsic : Extrinsic} {fault : Fault DispatchError} :
      Dispatched cfg origin state extrinsic (.error fault) state
  | guarded {extrinsic : Extrinsic} {palletIndex : U8} {extrinsicName : Bytes}
      (hguard : extrinsic.guard cfg = some (palletIndex, extrinsicName))
      (haccess : hasAccess cfg state.storage palletIndex extrinsicName origin = true)
      (hrequires : extrinsic.requires state.storage) :
      Dispatched cfg origin state extrinsic (.ok ())
        (state.put (extrinsic.write state.storage) (extrinsic.report origin))
  | deposited {asset : MultiAsset} {dest : MultiLocation} {final : State L}
      (hdeposit : Bridge.deposit cfg origin asset dest state = (.ok (), final)) :
      Dispatched cfg origin state (.deposit asset dest) (.ok ()) final

theorem dispatch_cases {outcome : Except (Fault DispatchError) Unit}
    (h : dispatch cfg origin extrinsic state = (outcome, final))
    (hbatch : extrinsic.isBatch = true → outcome ≠ .ok ()) :
    Dispatched cfg origin state extrinsic outcome final := by
  cases outcome with
  | error fault =>
      rw [dispatch_error h]
      exact .failed
  | ok done =>
      cases hguard : extrinsic.guard cfg with
      | some pair =>
          obtain ⟨haccess, hrequires, rfl⟩ := (dispatch_guarded hguard).mp h
          exact .guarded hguard haccess hrequires
      | none =>
          cases extrinsic with
          | deposit asset dest => exact .deposited (dispatch_ok.mp h)
          -- the two extrinsics without a guard are the deposit and the batch
          | executeProposal => exact absurd rfl (hbatch rfl)
          | _ => cases hguard

end Sygma
