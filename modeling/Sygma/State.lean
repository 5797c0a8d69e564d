import Sygma.Library.Exec
import Sygma.Library.StorageMap
import Sygma.Xcm

/-!
# The state the pallets share

Storage, events, errors and origins of the five pallets that administer and run the bridge: the
access segregator, the two fee handlers, the fee router and the bridge itself. The forwarder and
the XCM bridge, which have no storage, add their events and errors. `Storage` has one field per
storage item of the source, under its name. A `State` adds the events deposited so far and the
ledger, which is a type parameter: balances live in other pallets and are reached only through the
asset transactor.
-/

namespace Sygma

abbrev DomainID := U8
abbrev DepositNonce := U64
abbrev ResourceId := Bytes32
abbrev ChainID := U256
abbrev VerifyingContractAddress := Bytes20
abbrev MpcAddress := Bytes20
abbrev AccountId := Bytes32

/-- The unset MPC address, and the value `is_clear` tests for. -/
def MpcAddress.clear : MpcAddress := Vector.replicate 20 0

/-- The account reported as sender when an origin is not signed: 32 zero bytes. -/
def AccountId.zero : AccountId := Vector.replicate 32 0

/-- Every domain id, as the keys of a domain-indexed storage map are enumerated. -/
def DomainID.all : List DomainID := List.ofFn fun index : Fin 256 => BitVec.ofFin index

theorem DomainID.mem_all (domain : DomainID) : domain ∈ DomainID.all :=
  List.mem_ofFn.mpr ⟨domain.toFin, rfl⟩

/-- Who makes a call. `other` stands for the further origins a runtime may define. -/
inductive Origin where
  | root
  | signed (who : AccountId)
  | none
  | other (tag : Nat)
  deriving DecidableEq

/-- The kind of a transfer. -/
inductive TransferType where
  | fungibleTransfer
  | nonFungibleTransfer
  | genericTransfer
  deriving DecidableEq

/-- The fee handlers an asset can be routed to. -/
inductive FeeHandlerType where
  | basicFeeHandler
  | percentageFeeHandler
  | dynamicFeeHandler
  deriving DecidableEq

/-- A transfer from another domain, as relayed and signed. -/
structure Proposal where
  originDomainId : DomainID
  depositNonce : DepositNonce
  resourceId : ResourceId
  data : Bytes
  deriving DecidableEq

/-! ## Errors -/

/-- The errors of the bridge pallet. -/
inductive BridgeError where
  | accessDenied
  | badMpcSignature
  | insufficientBalance
  | transactFailed
  | feeTooExpensive
  | missingMpcAddress
  | mpcAddrNotUpdatable
  | bridgePaused
  | bridgeUnpaused
  | missingFeeConfig
  | assetNotBound
  | proposalAlreadyComplete
  | emptyProposalList
  | transactorFailed
  | invalidDepositData
  | destDomainNotSupported
  | destChainIDNotMatch
  | extractDestDataFailed
  | decimalConversionFail
  | depositNonceOverflow
  | noLiquidityHolderAccountBound
  | unimplemented
  deriving DecidableEq

/-- The errors of the access segregator. -/
inductive AccessError where
  | unimplemented
  | grantAccessFailed
  deriving DecidableEq

/-- The errors of the percentage fee handler. The basic fee handler and the fee router have the
first two of them. -/
inductive FeeError where
  | unimplemented
  | accessDenied
  | feeRateOutOfRange
  | invalidFeeBound
  deriving DecidableEq

/-- The errors of the XCM bridge. -/
inductive XcmBridgeError where
  | failToWeightMessage
  | xcmExecutionFailed
  | invalidDestination
  | unknownTransferType
  | cannotReanchor
  | noXcmMinFeeSet
  | assetReservedLocationNotFound
  deriving DecidableEq

/-- The error of a dispatched call: a bad origin, or an error of one of the pallets. -/
inductive DispatchError where
  | badOrigin
  | bridge (error : BridgeError)
  | access (error : AccessError)
  | basicFee (error : FeeError)
  | percentageFee (error : FeeError)
  | feeRouter (error : FeeError)
  | xcmBridge (error : XcmBridgeError)
  deriving DecidableEq

/-- The text of a bridge error: the name of its variant. -/
def BridgeError.message : BridgeError → String
  | .accessDenied => "AccessDenied"
  | .badMpcSignature => "BadMpcSignature"
  | .insufficientBalance => "InsufficientBalance"
  | .transactFailed => "TransactFailed"
  | .feeTooExpensive => "FeeTooExpensive"
  | .missingMpcAddress => "MissingMpcAddress"
  | .mpcAddrNotUpdatable => "MpcAddrNotUpdatable"
  | .bridgePaused => "BridgePaused"
  | .bridgeUnpaused => "BridgeUnpaused"
  | .missingFeeConfig => "MissingFeeConfig"
  | .assetNotBound => "AssetNotBound"
  | .proposalAlreadyComplete => "ProposalAlreadyComplete"
  | .emptyProposalList => "EmptyProposalList"
  | .transactorFailed => "TransactorFailed"
  | .invalidDepositData => "InvalidDepositData"
  | .destDomainNotSupported => "DestDomainNotSupported"
  | .destChainIDNotMatch => "DestChainIDNotMatch"
  | .extractDestDataFailed => "ExtractDestDataFailed"
  | .decimalConversionFail => "DecimalConversionFail"
  | .depositNonceOverflow => "DepositNonceOverflow"
  | .noLiquidityHolderAccountBound => "NoLiquidityHolderAccountBound"
  | .unimplemented => "Unimplemented"

/-- The text of an access segregator error. -/
def AccessError.message : AccessError → String
  | .unimplemented => "Unimplemented"
  | .grantAccessFailed => "GrantAccessFailed"

/-- The text of a fee handler error. -/
def FeeError.message : FeeError → String
  | .unimplemented => "Unimplemented"
  | .accessDenied => "AccessDenied"
  | .feeRateOutOfRange => "FeeRateOutOfRange"
  | .invalidFeeBound => "InvalidFeeBound"

/-- The text of an XCM bridge error. -/
def XcmBridgeError.message : XcmBridgeError → String
  | .failToWeightMessage => "FailToWeightMessage"
  | .xcmExecutionFailed => "XcmExecutionFailed"
  | .invalidDestination => "InvalidDestination"
  | .unknownTransferType => "UnknownTransferType"
  | .cannotReanchor => "CannotReanchor"
  | .noXcmMinFeeSet => "NoXcmMinFeeSet"
  | .assetReservedLocationNotFound => "AssetReservedLocationNotFound"

/-- The text a dispatch error is converted to. -/
def DispatchError.message : DispatchError → String
  | .badOrigin => "Bad origin"
  | .bridge error => error.message
  | .access error => error.message
  | .basicFee error | .percentageFee error | .feeRouter error => error.message
  | .xcmBridge error => error.message

/-- The errors of asset transactors and of the XCM executor. The bridge maps every error of its
transactor to `transactFailed`. -/
inductive XcmError where
  | assetNotFound
  | failedToTransactAsset (reason : String)
  | barrier
  | weightLimitReached
  | unimplemented
  deriving DecidableEq

/-! ## Events -/

/-- The events of the pallets. `foreign` stands for the events of pallets that are not modelled,
such as those that keep the balances. -/
inductive Event where
  | deposit (destDomainId : DomainID) (resourceId : ResourceId) (depositNonce : DepositNonce)
      (sender : AccountId) (transferType : TransferType) (depositData handlerResponse : Bytes)
  | proposalExecution (originDomainId : DomainID) (depositNonce : DepositNonce)
      (dataHash : Bytes32)
  | failedHandlerExecution (error : Bytes) (originDomainId : DomainID)
      (depositNonce : DepositNonce)
  | retry (depositOnBlockHeight : U128) (destDomainId : DomainID) (sender : AccountId)
  | bridgePaused (destDomainId : DomainID)
  | bridgeUnpaused (destDomainId : DomainID)
  | registerDestDomain (sender : AccountId) (domainId : DomainID) (chainId : ChainID)
  | unregisterDestDomain (sender : AccountId) (domainId : DomainID) (chainId : ChainID)
  | feeCollected (feePayer : AccountId) (destDomainId : DomainID) (resourceId : ResourceId)
      (feeAmount : U128) (feeAssetId : AssetId)
  | allBridgePaused (sender : AccountId)
  | allBridgeUnpaused (sender : AccountId)
  | accessGranted (palletIndex : U8) (extrinsicName : Bytes) (who : AccountId)
  | feeSet (domain : DomainID) (asset : AssetId) (amount : U128)
  | feeRateSet (domain : DomainID) (asset : AssetId) (rateBasisPoint : U32)
      (feeLowerBound feeUpperBound : U128)
  | feeHandlerSet (domain : DomainID) (asset : AssetId) (handlerType : FeeHandlerType)
  | xcmTransferForward (asset : MultiAsset) (origin dest : MultiLocation)
  | otherWorldTransferForward (asset : MultiAsset) (origin dest : MultiLocation)
  | xcmTransferSend (asset : MultiAsset) (origin dest : MultiLocation)
  | foreign (palletIndex : U8) (data : Bytes)
  deriving DecidableEq

/-! ## Storage -/

/-- The storage items of the five pallets and the storage version of the bridge pallet. -/
structure Storage where
  extrinsicAccess : StorageMap (U8 × Bytes) AccountId
  assetFees : StorageMap (DomainID × AssetId) U128
  assetFeeRate : StorageMap (DomainID × AssetId) (U32 × U128 × U128)
  handlerType : StorageMap (DomainID × AssetId) FeeHandlerType
  depositCounts : StorageMap DomainID DepositNonce
  isPaused : StorageMap DomainID Bool
  mpcAddr : MpcAddress
  usedNonces : StorageMap (DomainID × DepositNonce) U64
  destDomainIds : StorageMap DomainID Bool
  destChainIds : StorageMap DomainID ChainID
  storageVersion : U16

namespace Storage

/-- The storage before any call, at a given storage version. -/
def empty (version : U16) : Storage where
  extrinsicAccess := .empty
  assetFees := .empty
  assetFeeRate := .empty
  handlerType := .empty
  depositCounts := .empty
  isPaused := .empty
  mpcAddr := .clear
  usedNonces := .empty
  destDomainIds := .empty
  destChainIds := .empty
  storageVersion := version

/-- The deposit counter of a domain, zero when it has no entry. -/
def depositCount (storage : Storage) (domain : DomainID) : DepositNonce :=
  storage.depositCounts.getD domain 0

/-- Whether a domain is paused; a domain without an entry is not. -/
def paused (storage : Storage) (domain : DomainID) : Bool :=
  storage.isPaused.getD domain false

/-- Whether a domain is registered as a destination. -/
def registered (storage : Storage) (domain : DomainID) : Bool :=
  storage.destDomainIds.getD domain false

/-- A word of the bitmap of executed nonces, zero when it has no entry. -/
def usedNonceWord (storage : Storage) (domain : DomainID) (word : DepositNonce) : U64 :=
  storage.usedNonces.getD (domain, word) 0

/-- Whether the MPC address is unset. -/
def mpcClear (storage : Storage) : Bool :=
  storage.mpcAddr == .clear

end Storage

/-- The state of a chain: pallet storage, the events deposited so far, and the ledger. -/
structure State (L : Type) where
  storage : Storage
  events : List Event
  ledger : L

/-- The state before any call: empty storage, no events, and a given ledger. -/
def State.genesis {L : Type} (version : U16) (ledger : L) : State L where
  storage := .empty version
  events := []
  ledger := ledger

/-- A computation on the state of a chain. -/
abbrev Call (L ε α : Type) := Exec (State L) ε α

variable {L ε : Type}

/-- Read from storage. -/
def readStorage {α : Type} (query : Storage → α) : Call L ε α :=
  Exec.read fun state => query state.storage

/-- Write to storage. -/
def writeStorage (update : Storage → Storage) : Call L ε Unit :=
  Exec.modify fun state => { state with storage := update state.storage }

/-- Deposit an event. -/
def depositEvent (event : Event) : Call L ε Unit :=
  Exec.modify fun state => { state with events := state.events ++ [event] }

/-- The signer of an origin, or a bad origin. -/
def ensureSigned : Origin → Call L DispatchError AccountId
  | .signed who => pure who
  | _ => Exec.raise .badOrigin

/-- The account reported as the sender of an administrative call. -/
def senderOrZero : Origin → AccountId
  | .signed who => who
  | _ => .zero

@[simp] theorem ensure_signed_ok {origin : Origin} {state final : State L} {who : AccountId} :
    ensureSigned origin state = (.ok who, final) ↔ origin = .signed who ∧ state = final := by
  cases origin <;> simp [ensureSigned]

end Sygma
