import Sygma.AccessSegregator
import Sygma.Library.Bitmap
import Sygma.Bridge.Digest
import Sygma.Bridge.DepositData

/-!
# The bridge pallet

The ten extrinsics of the bridge pallet and the functions they call. A function that fails keeps
the writes it made; `deposit`, `retry` and `executeProposal` are marked transactional in the
source and undo theirs. `executeProposalInternal` is not, and `executeProposal` handles its error
by depositing an event, so what a failed proposal wrote stays.
-/

namespace Sygma.Bridge

open Exec (ensure when okOr orPanic mapErr transactional mapOrElse forEach)

variable {L : Type}

/-! ## Pausing -/

/-- Write the pause flag of each listed domain. -/
def setPaused (domains : List DomainID) (flag : Bool) : Call L DispatchError Unit :=
  forEach domains fun domain => writeStorage fun storage =>
    { storage with isPaused := storage.isPaused.insert domain flag }

/-- Write the pause flag of all registered domains, then of all domains that have one. -/
def setAllPaused (flag : Bool) : Call L DispatchError Unit := do
  let registered ← readStorage fun storage => storage.destDomainIds.iterKeys DomainID.all
  setPaused registered flag
  let flagged ← readStorage fun storage => storage.isPaused.iterKeys DomainID.all
  setPaused flagged flag

/-- Unpause all domains in the storage. -/
def unpauseAllDomains : Call L DispatchError Unit := setAllPaused false

/-- Pause all domains in the storage. -/
def pauseAllDomains : Call L DispatchError Unit := setAllPaused true

/-- Check that the origin may call an extrinsic of this pallet. -/
def ensureAccess (cfg : Config L) (extrinsicName : Bytes) (origin : Origin) :
    Call L DispatchError Unit := do
  let access ← readStorage fun storage =>
    hasAccess cfg storage cfg.bridgeIndex extrinsicName origin
  ensure access (.bridge .accessDenied)

/-- Pause the bridge to a registered domain. -/
def pauseBridge (cfg : Config L) (origin : Origin) (destDomainId : DomainID) :
    Call L DispatchError Unit := do
  ensureAccess cfg (name "pause_bridge") origin
  let registered ← readStorage fun storage => storage.registered destDomainId
  ensure registered (.bridge .destDomainNotSupported)
  writeStorage fun storage => { storage with isPaused := storage.isPaused.insert destDomainId true }
  depositEvent (.bridgePaused destDomainId)

/-- Unpause the bridge to a registered domain that is paused. -/
def unpauseBridge (cfg : Config L) (origin : Origin) (destDomainId : DomainID) :
    Call L DispatchError Unit := do
  ensureAccess cfg (name "unpause_bridge") origin
  let registered ← readStorage fun storage => storage.registered destDomainId
  ensure registered (.bridge .destDomainNotSupported)
  let paused ← readStorage fun storage => storage.paused destDomainId
  ensure paused (.bridge .bridgeUnpaused)
  writeStorage fun storage =>
    { storage with isPaused := storage.isPaused.insert destDomainId false }
  depositEvent (.bridgeUnpaused destDomainId)

/-- Pause all registered bridges. -/
def pauseAllBridges (cfg : Config L) (origin : Origin) : Call L DispatchError Unit := do
  ensureAccess cfg (name "pause_all_bridges") origin
  pauseAllDomains
  depositEvent (.allBridgePaused (senderOrZero origin))

/-- Unpause all registered bridges once the MPC address is set. -/
def unpauseAllBridges (cfg : Config L) (origin : Origin) : Call L DispatchError Unit := do
  ensureAccess cfg (name "unpause_all_bridges") origin
  let clear ← readStorage Storage.mpcClear
  ensure (!clear) (.bridge .missingMpcAddress)
  unpauseAllDomains
  depositEvent (.allBridgeUnpaused (senderOrZero origin))

/-! ## Administration -/

/-- Set the MPC address while it is unset, and unpause all domains. No event is deposited. -/
def setMpcAddress (cfg : Config L) (origin : Origin) (addr : MpcAddress) :
    Call L DispatchError Unit := do
  ensureAccess cfg (name "set_mpc_address") origin
  let clear ← readStorage Storage.mpcClear
  ensure clear (.bridge .mpcAddrNotUpdatable)
  writeStorage fun storage => { storage with mpcAddr := addr }
  unpauseAllDomains

/-- Register a destination domain with its chain id. -/
def registerDomain (cfg : Config L) (origin : Origin) (destDomainId : DomainID)
    (destChainId : ChainID) : Call L DispatchError Unit := do
  ensureAccess cfg (name "register_domain") origin
  writeStorage fun storage =>
    { storage with destDomainIds := storage.destDomainIds.insert destDomainId true }
  writeStorage fun storage =>
    { storage with destChainIds := storage.destChainIds.insert destDomainId destChainId }
  depositEvent (.registerDestDomain (senderOrZero origin) destDomainId destChainId)

/-- Unregister a destination domain whose chain id is given correctly. -/
def unregisterDomain (cfg : Config L) (origin : Origin) (destDomainId : DomainID)
    (destChainId : ChainID) : Call L DispatchError Unit := do
  ensureAccess cfg (name "unregister_domain") origin
  let registered ← readStorage fun storage => storage.registered destDomainId
  let chainId ← readStorage fun storage => storage.destChainIds.get destDomainId
  ensure (registered && chainId.isSome) (.bridge .destDomainNotSupported)
  -- the `unwrap` of the source, which the check before it keeps from panicking
  let coChainId ← orPanic (chainId.elim (.error .unwrap) .ok)
  ensure (coChainId == destChainId) (.bridge .destChainIDNotMatch)
  writeStorage fun storage =>
    { storage with destDomainIds := storage.destDomainIds.remove destDomainId }
  writeStorage fun storage =>
    { storage with destChainIds := storage.destChainIds.remove destDomainId }
  depositEvent (.unregisterDestDomain (senderOrZero origin) destDomainId destChainId)

/-! ## Deposits -/

/-- Call the asset transactor, reporting any of its errors as a failed transaction. -/
def transact (body : Call L XcmError Unit) : Call L DispatchError Unit :=
  mapErr (fun _ => .bridge .transactFailed) body

/-- One more than a nonce, unless it is the greatest one. -/
def checkedSucc (nonce : DepositNonce) : Option DepositNonce :=
  if nonce = BitVec.allOnes 64 then none else some (nonce + 1)

/-- Start a transfer to another domain. -/
def deposit (cfg : Config L) (origin : Origin) (asset : MultiAsset) (dest : MultiLocation) :
    Call L DispatchError Unit := transactional do
  let sender ← ensureSigned origin
  let clear ← readStorage Storage.mpcClear
  ensure (!clear) (.bridge .missingMpcAddress)
  let extracted ← orPanic (cfg.extractDestData dest)
  let (recipient, destDomainId) ← okOr extracted (.bridge .extractDestDataFailed)
  let paused ← readStorage fun storage => storage.paused destDomainId
  ensure (!paused) (.bridge .bridgePaused)
  let registered ← readStorage fun storage => storage.registered destDomainId
  ensure registered (.bridge .destDomainNotSupported)
  let (resourceId, amount, transferType) ← okOr (extractAsset cfg asset) (.bridge .assetNotBound)
  let quoted ← readStorage fun storage => cfg.feeHandler storage destDomainId asset
  let fee ← okOr quoted (.bridge .missingFeeConfig)
  ensure (decide (amount > fee)) (.bridge .feeTooExpensive)
  -- everything above only reads; from here on the storage layer is needed to undo
  transact (cfg.assetTransactor.withdrawAsset asset (.ofAccount sender))
  transact (cfg.assetTransactor.depositAsset ⟨asset.id, .fungible fee⟩
    (.ofAccount cfg.feeReserveAccount))
  let bridgeAmount := amount - fee
  let tokenReservedAccount ← okOr (getTokenReservedAccount cfg asset.id)
    (.bridge .noLiquidityHolderAccountBound)
  -- an asset of another reserve is not deposited again: its withdrawal burned it
  when (cfg.isReserve asset .here) (transact
    (cfg.assetTransactor.depositAsset ⟨asset.id, .fungible bridgeAmount⟩
      (.ofAccount tokenReservedAccount)))
  let depositNonce ← readStorage fun storage => storage.depositCount destDomainId
  let bumped ← okOr (checkedSucc depositNonce) (.bridge .depositNonceOverflow)
  writeStorage fun storage =>
    { storage with depositCounts := storage.depositCounts.insert destDomainId bumped }
  -- the counter is already written when the conversion can still fail; the amount is not zero, as
  -- it was found to exceed the fee
  let converted ← orPanic (cfg.decimalConverter.convertTo ⟨asset.id, .fungible bridgeAmount⟩)
  let decimalConvertedAmount ← okOr converted (.bridge .decimalConversionFail)
  depositEvent (.deposit destDomainId resourceId depositNonce sender transferType
    (createDepositData decimalConvertedAmount recipient) [])
  depositEvent (.feeCollected sender destDomainId resourceId fee asset.id)

/-- The bridge as other pallets call it: a deposit signed by the given account. -/
def transfer (cfg : Config L) (sender : Bytes32) (asset : MultiAsset) (dest : MultiLocation) :
    Call L DispatchError Unit :=
  deposit cfg (.signed sender) asset dest

/-- Ask the relayers to retry the deposits of a block. -/
def retry (cfg : Config L) (origin : Origin) (depositOnBlockHeight : U128)
    (destDomainId : DomainID) : Call L DispatchError Unit := transactional do
  ensureAccess cfg (name "retry") origin
  let clear ← readStorage Storage.mpcClear
  ensure (!clear) (.bridge .missingMpcAddress)
  let paused ← readStorage fun storage => storage.paused destDomainId
  ensure (!paused) (.bridge .bridgePaused)
  let registered ← readStorage fun storage => storage.registered destDomainId
  ensure registered (.bridge .destDomainNotSupported)
  depositEvent (.retry depositOnBlockHeight destDomainId (senderOrZero origin))

/-! ## Proposals -/

/-- Whether a nonce of a domain has been used. -/
def isProposalExecuted (storage : Storage) (nonce : DepositNonce) (domainId : DomainID) : Bool :=
  (storage.usedNonceWord domainId (nonce / 64#64) &&& (1#64 <<< (nonce % 64#64))) != 0

/-- Mark a nonce of a domain as used. -/
def setProposalExecuted (storage : Storage) (nonce : DepositNonce) (domainId : DomainID) :
    Storage :=
  let currentNonces :=
    storage.usedNonceWord domainId (nonce / 64#64) ||| (1#64 <<< (nonce % 64#64))
  { storage with usedNonces := storage.usedNonces.insert (domainId, nonce / 64#64) currentNonces }

/-- Execute a single proposal. -/
def executeProposalInternal (cfg : Config L) (proposal : Proposal) :
    Call L DispatchError Unit := do
  let paused ← readStorage fun storage => storage.paused proposal.originDomainId
  ensure (!paused) (.bridge .bridgePaused)
  let registered ← readStorage fun storage => storage.registered proposal.originDomainId
  ensure registered (.bridge .destDomainNotSupported)
  let executed ← readStorage fun storage =>
    isProposalExecuted storage proposal.depositNonce proposal.originDomainId
  ensure (!executed) (.bridge .proposalAlreadyComplete)
  let assetId ← okOr (ridToAssetid cfg proposal.resourceId) (.bridge .assetNotBound)
  let (amount, location) ← Exec.lift (extractDepositData cfg proposal.data)
  let converted ← orPanic
    (MultiAsset.ofAmount cfg.debugAssertions assetId amount >>= cfg.decimalConverter.convertFrom)
  let decimalConvertedAsset ← okOr converted (.bridge .decimalConversionFail)
  let tokenReservedAccount ← okOr (getTokenReservedAccount cfg assetId)
    (.bridge .noLiquidityHolderAccountBound)
  -- no storage layer here: if the second call fails, the first one is kept
  when (cfg.isReserve decimalConvertedAsset .here) (transact
    (cfg.assetTransactor.withdrawAsset decimalConvertedAsset (.ofAccount tokenReservedAccount)))
  transact (cfg.assetTransactor.depositAsset decimalConvertedAsset location)

/-- The event of a proposal that was executed. -/
def executionEvent (cfg : Config L) (proposal : Proposal) : Event :=
  .proposalExecution proposal.originDomainId proposal.depositNonce
    (cfg.keccak256 (proposal.data ++ cfg.palletAccount))

/-- The event of a proposal that failed. -/
def failureEvent (error : DispatchError) (proposal : Proposal) : Event :=
  .failedHandlerExecution (Bytes.ofString error.message) proposal.originDomainId
    proposal.depositNonce

/-- One round of the loop over a batch: execute a proposal, then mark it and report it, or report
its error. -/
def executeOne (cfg : Config L) (proposal : Proposal) : Call L DispatchError Unit :=
  mapOrElse (executeProposalInternal cfg proposal)
    (fun error => depositEvent (failureEvent error proposal))
    (fun _ => do
      -- a proposal that failed is not marked, so it can be submitted again
      writeStorage fun storage =>
        setProposalExecuted storage proposal.depositNonce proposal.originDomainId
      depositEvent (executionEvent cfg proposal))

/-- Execute a batch of proposals signed by the MPC. -/
def executeProposal (cfg : Config L) (_origin : Origin) (proposals : List Proposal)
    (signature : Bytes) : Call L DispatchError Unit := transactional do
  let clear ← readStorage Storage.mpcClear
  ensure (!clear) (.bridge .missingMpcAddress)
  ensure (!proposals.isEmpty) (.bridge .emptyProposalList)
  let finalMessage := constructEcdsaSigningProposalsData cfg proposals
  let verified ← readStorage fun storage =>
    verifyByMpcAddress cfg storage finalMessage signature
  ensure verified (.bridge .badMpcSignature)
  forEach proposals (executeOne cfg)

end Sygma.Bridge
