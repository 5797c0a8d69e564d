import Sygma.Bridge.Specs
import Sygma.Ledger

/-!
# Calls over a ledger transactor

When the asset transactor acts on the ledger alone, the three transactor calls of a deposit are
operations on the ledger, and `Collects.balance` adds up what they do to every balance. The outcome
of a proposal and the ledger it leaves are a function of storage and ledger, `settle`. A round of
the loop over a batch then marks the proposal if it was executed and deposits exactly one event:
`execute_one_lift`.
-/

namespace Sygma.Bridge

open Exec (Fault)

variable {L : Type}

/-- The transactor calls of a proposal, on the ledger. -/
def payLedger (cfg : Config L) (transactor : LedgerTransactor L) (payout : Payout) (ledger : L) :
    Except XcmError Unit × L :=
  if cfg.isReserve payout.asset .here then
    match transactor.withdrawAsset payout.asset (.ofAccount payout.reserveAccount) ledger with
    | (.ok (), withdrawn) => transactor.depositAsset payout.asset payout.location withdrawn
    | (.error error, left) => (.error error, left)
  else transactor.depositAsset payout.asset payout.location ledger

/-- The outcome of a proposal and the ledger it leaves. -/
def settle (cfg : Config L) (transactor : LedgerTransactor L) (proposal : Proposal)
    (storage : Storage) (ledger : L) : Except (Fault DispatchError) Unit × L :=
  match resolve cfg storage proposal with
  | .error fault => (.error fault, ledger)
  | .ok payout =>
      match payLedger cfg transactor payout ledger with
      | (.ok (), final) => (.ok (), final)
      | (.error _, final) => (.error (.error (.bridge .transactFailed)), final)

/-- The storage after a proposal with the given outcome: it is marked if it was executed. -/
def markOutcome (proposal : Proposal) (storage : Storage) :
    Except (Fault DispatchError) Unit → Storage
  | .ok () => setProposalExecuted storage proposal.depositNonce proposal.originDomainId
  | .error _ => storage

/-- The events a proposal with the given outcome is reported by. A panic is not reported. -/
def outcomeEvents (cfg : Config L) (proposal : Proposal) :
    Except (Fault DispatchError) Unit → List Event
  | .ok () => [executionEvent cfg proposal]
  | .error (.error error) => [failureEvent error proposal]
  | .error (.panic _) => []

variable {cfg : Config L} {transactor : LedgerTransactor L} {proposal : Proposal}
  {state final : State L}

/-- A transactor call on the ledger, with its error translated. -/
theorem transact_on_ledger (operation : L → Except XcmError Unit × L) (state : State L) :
    transact (onLedger operation) state =
      match operation state.ledger with
      | (.ok (), ledger) => (.ok (), { state with ledger := ledger })
      | (.error _, ledger) =>
          (.error (.error (.bridge .transactFailed)), { state with ledger := ledger }) := by
  unfold transact Exec.mapErr onLedger
  rcases operation state.ledger with ⟨outcome, ledger⟩
  cases outcome <;> rfl

theorem transact_on_ledger_ok {operation : L → Except XcmError Unit × L} :
    transact (onLedger operation) state = (.ok (), final) ↔
      ∃ ledger, operation state.ledger = (.ok (), ledger) ∧
        { state with ledger := ledger } = final :=
  Exec.mapErr_ok.trans on_ledger_ok

/-- The transactor calls of a deposit, on the ledger. -/
structure Collects (cfg : Config L) (transactor : LedgerTransactor L) (asset : MultiAsset)
    (receipt : Receipt) (ledger paid charged final : L) : Prop where
  withdrawn : transactor.withdrawAsset asset (.ofAccount receipt.sender) ledger = (.ok (), paid)
  feePaid : transactor.depositAsset ⟨asset.id, .fungible receipt.fee⟩
    (.ofAccount cfg.feeReserveAccount) paid = (.ok (), charged)
  reserved : cfg.isReserve asset .here = true →
    transactor.depositAsset ⟨asset.id, .fungible receipt.bridged⟩
      (.ofAccount receipt.reserveAccount) charged = (.ok (), final)
  unreserved : cfg.isReserve asset .here = false → final = charged

/-- Collecting a deposit changes the ledger only. -/
theorem collect_lift (hcfg : cfg.assetTransactor = transactor.lift) {asset : MultiAsset}
    {receipt : Receipt} (h : collect cfg asset receipt state = (.ok (), final)) :
    (∃ paid charged, Collects cfg transactor asset receipt state.ledger paid charged
      final.ledger) ∧ final = { state with ledger := final.ledger } := by
  unfold collect at h
  rw [hcfg] at h
  obtain ⟨_, afterPaid, hpaid, h⟩ := Exec.bind_ok.mp h
  obtain ⟨_, afterCharged, hcharged, hreserve⟩ := Exec.bind_ok.mp h
  obtain ⟨paid, hwithdraw, rfl⟩ := transact_on_ledger_ok.mp hpaid
  obtain ⟨charged, hcharge, rfl⟩ := transact_on_ledger_ok.mp hcharged
  unfold Exec.when at hreserve
  split at hreserve
  · rename_i hisReserve
    obtain ⟨reserved, hdeposit, rfl⟩ := transact_on_ledger_ok.mp hreserve
    refine ⟨⟨paid, charged, hwithdraw, hcharge, fun _ => hdeposit, fun hnot => ?_⟩, rfl⟩
    rw [hisReserve] at hnot
    cases hnot
  · rename_i hisReserve
    obtain ⟨-, rfl⟩ := Exec.pure_ok.mp hreserve
    exact ⟨⟨paid, charged, hwithdraw, hcharge, fun htrue => absurd htrue hisReserve,
      fun _ => rfl⟩, rfl⟩

section Pooled

variable {K : Type} [DecidableEq K] {holdings : Holdings L K}

/-- What the transactor calls of a deposit do to every balance. -/
theorem Collects.balance (view : PooledLedger holdings transactor) {asset : MultiAsset}
    {receipt : Receipt} {ledger paid charged final : L}
    (hasset : asset = ⟨asset.id, .fungible receipt.amount⟩)
    (h : Collects cfg transactor asset receipt ledger paid charged final) (key : K)
    (other : AccountId) :
    holdings.balance final key other +
        amountIn (view.pool asset) receipt.sender receipt.amount.toNat key other =
      holdings.balance ledger key other +
        amountIn (view.pool ⟨asset.id, .fungible receipt.fee⟩) cfg.feeReserveAccount
          receipt.fee.toNat key other +
        if cfg.isReserve asset .here then
          amountIn (view.pool ⟨asset.id, .fungible receipt.bridged⟩) receipt.reserveAccount
            receipt.bridged.toNat key other
        else 0 := by
  have hwithdrawn := h.withdrawn
  rw [hasset] at hwithdrawn
  have hpaid := (view.keeps asset.id receipt.amount).withdrawn hwithdrawn key other
  rw [← hasset] at hpaid
  have hcharged := (view.keeps asset.id receipt.fee).deposited h.feePaid key other
  cases hreserve : cfg.isReserve asset .here with
  | true =>
      have hfinal := (view.keeps asset.id receipt.bridged).deposited (h.reserved hreserve) key other
      simp only [if_true]
      omega
  | false =>
      rw [h.unreserved hreserve]
      simp only [Bool.false_eq_true, if_false]
      omega

/-- What the transactor calls of a deposit do to the total issuance of every pool. -/
theorem Collects.issuance (view : PooledLedger holdings transactor) {asset : MultiAsset}
    {receipt : Receipt} {ledger paid charged final : L}
    (hasset : asset = ⟨asset.id, .fungible receipt.amount⟩)
    (h : Collects cfg transactor asset receipt ledger paid charged final) (key : K) :
    holdings.issuance final key + amountOf (view.pool asset) receipt.amount.toNat key =
      holdings.issuance ledger key +
        amountOf (view.pool ⟨asset.id, .fungible receipt.fee⟩) receipt.fee.toNat key +
        if cfg.isReserve asset .here then
          amountOf (view.pool ⟨asset.id, .fungible receipt.bridged⟩) receipt.bridged.toNat key
        else 0 := by
  have hwithdrawn := h.withdrawn
  rw [hasset] at hwithdrawn
  -- the withdrawal burns the amount; the two deposits mint the fee and the rest
  have hburned := (view.keeps asset.id receipt.amount).burned hwithdrawn key
  rw [← hasset] at hburned
  have hcharged := (view.keeps asset.id receipt.fee).minted h.feePaid key
  cases hreserve : cfg.isReserve asset .here with
  | true =>
      have hfinal := (view.keeps asset.id receipt.bridged).minted (h.reserved hreserve) key
      simp only [if_true]
      omega
  | false =>
      rw [h.unreserved hreserve]
      simp only [Bool.false_eq_true, if_false]
      omega

end Pooled

/-- Paying out runs the transactor calls on the ledger. -/
theorem pay_lift (hcfg : cfg.assetTransactor = transactor.lift) (payout : Payout)
    (state : State L) :
    pay cfg payout state =
      match payLedger cfg transactor payout state.ledger with
      | (.ok (), ledger) => (.ok (), { state with ledger := ledger })
      | (.error _, ledger) =>
          (.error (.error (.bridge .transactFailed)), { state with ledger := ledger }) := by
  unfold pay payLedger Exec.when
  rw [hcfg]
  split
  · rw [Exec.bind_apply, show transactor.lift.withdrawAsset payout.asset
      (.ofAccount payout.reserveAccount) = onLedger (transactor.withdrawAsset payout.asset
        (.ofAccount payout.reserveAccount)) from rfl, transact_on_ledger]
    rcases transactor.withdrawAsset payout.asset (.ofAccount payout.reserveAccount) state.ledger
      with ⟨outcome, withdrawn⟩
    cases outcome with
    | error error => rfl
    | ok done => exact transact_on_ledger _ _
  · exact transact_on_ledger _ _

/-- Executing a proposal changes the ledger only, as `settle` says. -/
theorem execute_proposal_internal_lift (hcfg : cfg.assetTransactor = transactor.lift)
    (proposal : Proposal) (state : State L) :
    executeProposalInternal cfg proposal state =
      ((settle cfg transactor proposal state.storage state.ledger).1,
        { state with
          ledger := (settle cfg transactor proposal state.storage state.ledger).2 }) := by
  rw [execute_proposal_internal_eq, settle]
  cases resolve cfg state.storage proposal with
  | error fault => rfl
  | ok payout =>
      simp only [pay_lift hcfg]
      rcases payLedger cfg transactor payout state.ledger with ⟨outcome, ledger⟩
      cases outcome <;> rfl

/-- An executed proposal passed its checks and was paid out. -/
theorem settle_ok {storage : Storage} {ledger paid : L} :
    settle cfg transactor proposal storage ledger = (.ok (), paid) ↔
      ∃ payout, resolve cfg storage proposal = .ok payout ∧
        payLedger cfg transactor payout ledger = (.ok (), paid) := by
  unfold settle
  cases resolve cfg storage proposal with
  | error fault => simp
  | ok payout =>
      rcases hpay : payLedger cfg transactor payout ledger with ⟨outcome, left⟩
      cases outcome <;> simp [hpay]

/-- A round of the loop over a batch: the ledger of `settle`, the mark and the one event of its
outcome. A proposal that panics stops the batch. -/
theorem execute_one_lift (hcfg : cfg.assetTransactor = transactor.lift) :
    executeOne cfg proposal state = (.ok (), final) ↔
      (∀ reason, (settle cfg transactor proposal state.storage state.ledger).1 ≠
        .error (.panic reason)) ∧
      final =
        { storage := markOutcome proposal state.storage
            (settle cfg transactor proposal state.storage state.ledger).1
          events := state.events ++ outcomeEvents cfg proposal
            (settle cfg transactor proposal state.storage state.ledger).1
          ledger := (settle cfg transactor proposal state.storage state.ledger).2 } := by
  rw [execute_one_ok, execute_proposal_internal_lift hcfg]
  rcases settle cfg transactor proposal state.storage state.ledger with ⟨outcome, ledger⟩
  rcases outcome with fault | done
  · cases fault with
    | error error => simp [markOutcome, outcomeEvents, State.put, eq_comm]
    | panic reason => simp
  · simp [markOutcome, outcomeEvents, State.put, eq_comm]

end Sygma.Bridge
