import Sygma.State

/-!
# Configuration of the pallets

The configuration traits of the five pallets, joined in one structure: the constants a runtime
chooses, and the components it plugs in. Code outside the repository enters the model here only,
as the host functions `keccak256`, `secp256k1EcdsaRecover`, `abiEncode` and `decodeMultiLocation`
and as the asset transactor. Nothing is assumed about them in this module.
-/

namespace Sygma

open Exec (Panic)

/-- The asset transactor of a runtime. A call may change any part of the state, also when it
fails: the transactor of a runtime can itself call back into the pallets. -/
structure TransactAsset (L : Type) where
  withdrawAsset : MultiAsset → MultiLocation → Call L XcmError Unit
  depositAsset : MultiAsset → MultiLocation → Call L XcmError Unit

/-- An amount of an asset, as the crate of the format builds it from a number. It asserts that the
number is not zero, where debug assertions are compiled in. -/
def MultiAsset.ofAmount (debugAssertions : Bool) (id : AssetId) (amount : U128) :
    Except Panic MultiAsset :=
  if debugAssertions && amount == 0 then .error .assertion else .ok ⟨id, .fungible amount⟩

theorem MultiAsset.of_amount_ok {debugAssertions : Bool} {id : AssetId} {amount : U128}
    {asset : MultiAsset} :
    MultiAsset.ofAmount debugAssertions id amount = .ok asset ↔
      (debugAssertions = true → amount ≠ 0) ∧ asset = ⟨id, .fungible amount⟩ := by
  unfold MultiAsset.ofAmount
  split <;> rename_i h
  · rw [Bool.and_eq_true, beq_iff_eq] at h
    simp only [reduceCtorEq, false_iff]
    rintro ⟨hnonzero, -⟩
    exact hnonzero h.1 h.2
  · rw [Bool.and_eq_true, beq_iff_eq, not_and] at h
    rw [Except.ok.injEq, eq_comm]
    exact (and_iff_right h).symm

theorem MultiAsset.of_amount_error {debugAssertions : Bool} {id : AssetId} {amount : U128}
    {reason : Panic} :
    MultiAsset.ofAmount debugAssertions id amount = .error reason ↔
      debugAssertions = true ∧ amount = 0 ∧ reason = .assertion := by
  unfold MultiAsset.ofAmount
  split <;> rename_i h
  · rw [Bool.and_eq_true, beq_iff_eq] at h
    rw [Except.error.injEq, eq_comm]
    simp [h]
  · rw [Bool.and_eq_true, beq_iff_eq] at h
    simp only [reduceCtorEq, false_iff]
    rintro ⟨hchecks, hzero, -⟩
    exact h ⟨hchecks, hzero⟩

/-- Conversion between the decimals of a local asset and the 18 decimals of the relayers. -/
structure DecimalConverter where
  convertTo : MultiAsset → Except Panic (Option U128)
  convertFrom : MultiAsset → Except Panic (Option MultiAsset)

/-- The tokens the source passes to the ABI encoder. -/
inductive Token where
  | uint (value : U256)
  | fixedBytes (bytes : Bytes)
  | address (address : Bytes20)

/-- What a runtime configures. The pallet indices are those of the access segregator, the basic
and the percentage fee handler, the fee router and the bridge. -/
structure Config (L : Type) where
  bridgeCommitteeOrigin : Origin → Bool
  extrinsics : List (U8 × Bytes)
  accessSegregatorIndex : U8
  basicFeeHandlerIndex : U8
  percentageFeeHandlerIndex : U8
  feeHandlerRouterIndex : U8
  bridgeIndex : U8
  /-- The account that holds the reserve of each asset. -/
  transferReserveAccounts : AssetId → Option AccountId
  destVerifyingContractAddress : VerifyingContractAddress
  eip712ChainId : ChainID
  feeReserveAccount : AccountId
  feeHandler : Storage → DomainID → MultiAsset → Option U128
  assetTransactor : TransactAsset L
  resourcePairs : List (AssetId × ResourceId)
  isReserve : MultiAsset → MultiLocation → Bool
  extractDestData : MultiLocation → Except Panic (Option (Bytes × DomainID))
  /-- The bytes the pallet id converts to where it is appended to a proposal's data. -/
  palletAccount : Bytes
  decimalConverter : DecimalConverter
  keccak256 : Bytes → Bytes32
  secp256k1EcdsaRecover : Vector Byte 65 → Bytes32 → Option (Vector Byte 64)
  abiEncode : List Token → Bytes
  decodeMultiLocation : Bytes → Option MultiLocation
  /-- The number of bits of `usize` on the platform the runtime is compiled for. -/
  usizeBits : Nat
  /-- Whether the runtime is compiled with debug assertions. -/
  debugAssertions : Bool

/-- A transactor that acts on the ledger alone: it reads no storage, calls no pallet and deposits
no event of a pallet. -/
structure LedgerTransactor (L : Type) where
  withdrawAsset : MultiAsset → MultiLocation → L → Except XcmError Unit × L
  depositAsset : MultiAsset → MultiLocation → L → Except XcmError Unit × L

/-- Run a ledger operation on the ledger of a chain. -/
def onLedger {L : Type} (operation : L → Except XcmError Unit × L) : Call L XcmError Unit :=
  fun state =>
    match operation state.ledger with
    | (.ok (), ledger) => (.ok (), { state with ledger := ledger })
    | (.error error, ledger) => (.error (.error error), { state with ledger := ledger })

theorem on_ledger_ok {L : Type} {operation : L → Except XcmError Unit × L} {state final : State L} :
    onLedger operation state = (.ok (), final) ↔
      ∃ ledger, operation state.ledger = (.ok (), ledger) ∧
        { state with ledger := ledger } = final := by
  unfold onLedger
  rcases operation state.ledger with ⟨outcome, ledger⟩
  cases outcome <;> simp

/-- The asset transactor of a chain whose ledger is moved by a ledger transactor. -/
def LedgerTransactor.lift {L : Type} (transactor : LedgerTransactor L) : TransactAsset L where
  withdrawAsset asset who := onLedger (transactor.withdrawAsset asset who)
  depositAsset asset who := onLedger (transactor.depositAsset asset who)

/-- Each call of the transactor either succeeds or leaves the ledger as it was. -/
structure LedgerTransactor.Atomic {L : Type} (transactor : LedgerTransactor L) : Prop where
  withdraw : ∀ asset who ledger error final,
    transactor.withdrawAsset asset who ledger = (.error error, final) → final = ledger
  deposit : ∀ asset who ledger error final,
    transactor.depositAsset asset who ledger = (.error error, final) → final = ledger

end Sygma
