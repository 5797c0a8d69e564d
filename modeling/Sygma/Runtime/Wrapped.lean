import Mathlib.Data.Rat.Cast.Order
import Mathlib.Tactic.GCongr
import Mathlib.Tactic.Linarith
import Mathlib.Tactic.Positivity
import Sygma.Runtime.Conservation
import Sygma.Runtime.Conversion
import Sygma.Runtime.Solvency

/-!
# Accounting in 18 decimals

A chain either holds the reserve of a bridged asset or issues a wrapped version of it: a deposit of
a wrapped asset burns it, and an executed proposal mints it. `value` measures amounts in the 18
decimals of the relayers. `Accounted` is the balance of one transition: what it publishes in deposit
events it gave up of its stake, and its stake grows only by what it executes. The stake is the
supply of a wrapped asset, `Step.accounted_wrapped`, and the reserve counted negatively on the
other side, `Step.accounted_reserve`.
-/

namespace Sygma

open Bridge

variable {L : Type}

/-! ## Values -/

/-- An amount of an asset with the given decimals, in units of 18 decimals. -/
def value (decimal : U8) (amount : Nat) : ℚ :=
  amount * finer decimal / coarser decimal

theorem value_add (decimal : U8) (amount more : Nat) :
    value decimal (amount + more) = value decimal amount + value decimal more := by
  unfold value
  push_cast
  ring

theorem value_mono (decimal : U8) {amount more : Nat} (h : amount ≤ more) :
    value decimal amount ≤ value decimal more := by
  unfold value
  gcongr

theorem coarser_cast_pos (decimal : U8) : (0 : ℚ) < coarser decimal :=
  Nat.cast_pos.mpr (coarser_pos decimal)

/-- What is published for an amount is at most its value. -/
theorem le_value {decimal : U8} {published amount : Nat}
    (h : published * coarser decimal ≤ amount * finer decimal) :
    (published : ℚ) ≤ value decimal amount := by
  rw [value, le_div_iff₀ (coarser_cast_pos decimal)]
  exact_mod_cast h

/-- What is paid for an amount in 18 decimals is worth at most that. -/
theorem value_le {decimal : U8} {executed amount : Nat}
    (h : amount * finer decimal ≤ executed * coarser decimal) :
    value decimal amount ≤ executed := by
  rw [value, div_le_iff₀ (coarser_cast_pos decimal)]
  exact_mod_cast h

/-- Equal decimals compare amounts by their values. -/
theorem le_of_value_le {decimal : U8} {amount more : Nat}
    (h : value decimal amount ≤ value decimal more) : amount ≤ more := by
  by_contra hlt
  have hfiner : (0 : ℚ) < finer decimal := Nat.cast_pos.mpr (finer_pos decimal)
  have hless : value decimal more < value decimal amount := by
    unfold value
    have hcast : (more : ℚ) < amount := by exact_mod_cast Nat.lt_of_not_le hlt
    have := coarser_cast_pos decimal
    gcongr
  exact absurd h (not_le_of_gt hless)

/-- Part of a run balances: its deposit events publish at most what the stake fell by, apart from
what was executed in it. -/
def Accounted (cfg : Config L) (asset : AssetId) (stake : L → ℚ) (before after : State L)
    (executed : Nat) : Prop :=
  ∃ added, after.events = before.events ++ added ∧
    stake after.ledger + published cfg asset added ≤ stake before.ledger + executed

/-- Events that are no deposits publish nothing. -/
theorem published_eq_zero (cfg : Config L) (asset : AssetId) {events : List Event}
    (h : ∀ event ∈ events, event.depositTo = none) : published cfg asset events = 0 := by
  refine List.sum_eq_zero fun amount hmem => ?_
  obtain ⟨event, hevent, rfl⟩ := List.mem_map.mp hmem
  have hno := h event hevent
  cases event with
  | deposit => cases hno
  | _ => rfl

/-- A transition without deposits balances if its stake grows by no more than it executes. -/
theorem Accounted.of_no_deposit {cfg : Config L} {asset : AssetId} {stake : L → ℚ}
    {before after : State L} {executed : Nat} {added : List Event}
    (hevents : after.events = before.events ++ added)
    (hnone : ∀ event ∈ added, event.depositTo = none)
    (hstake : stake after.ledger ≤ stake before.ledger + executed) :
    Accounted cfg asset stake before after executed :=
  ⟨added, hevents, by simpa [published_eq_zero cfg asset hnone] using hstake⟩

theorem Accounted.same (cfg : Config L) (asset : AssetId) (stake : L → ℚ) (state : State L) :
    Accounted cfg asset stake state state 0 :=
  .of_no_deposit (List.append_nil _).symm (by simp) (by simp)

/-! ## Wrapped assets -/

/-- An asset that a chain issues itself: the reserve check refuses it, so deposits burn it and
executed proposals mint it. A deposit of the transactor to any location issues at most its amount,
and its calls change nothing when they fail. -/
structure WrappedAsset (cfg : Config L) {transactor : LedgerTransactor L}
    (view : IssuingLedger transactor) (debugAssertions : Bool) (decimalPairs : List (AssetId × U8))
    (asset : AssetId) : Prop where
  ledgerOnly : cfg.assetTransactor = transactor.lift
  atomic : transactor.Atomic
  converter : cfg.decimalConverter = sygmaDecimalConverter debugAssertions decimalPairs
  uniqueResources : (cfg.resourcePairs.map Prod.snd).Nodup
  unreserved : ∀ amount, cfg.isReserve ⟨asset, .fungible amount⟩ .here = false
  issued : ∀ {id amount who ledger final},
    transactor.depositAsset ⟨id, .fungible amount⟩ who ledger = (.ok (), final) →
    view.issuance final asset ≤ view.issuance ledger asset + amountOf id amount.toNat asset

/-- Nobody but the pallet issues an asset in a transition. -/
def Entry.IssuesNothing {transactor : LedgerTransactor L} (view : IssuingLedger transactor)
    (asset : AssetId) (entry : Entry L) : Prop :=
  ∀ changed, entry.action = .external changed →
    view.issuance changed asset ≤ view.issuance entry.before.ledger asset

variable {cfg : Config L} {transactor : LedgerTransactor L} {view : IssuingLedger transactor}
  {debugAssertions : Bool} {decimalPairs : List (AssetId × U8)} {asset : AssetId}

/-- The stake of a chain that issues an asset: the value of its supply. -/
def supplyStake (view : IssuingLedger transactor) (decimalPairs : List (AssetId × U8))
    (asset : AssetId) (ledger : L) : ℚ :=
  value (decimals decimalPairs asset) (view.issuance ledger asset)

/-- What a deposit publishes for an asset is worth at most what it bridges of it. -/
theorem Bridge.Deposits.published_le
    (hunique : (cfg.resourcePairs.map Prod.snd).Nodup)
    (hconverter : cfg.decimalConverter = sygmaDecimalConverter debugAssertions decimalPairs)
    {origin : Origin} {deposited : MultiAsset} {dest : MultiLocation} {receipt : Receipt}
    {state moved : State L} (hdeposits : Deposits cfg origin deposited dest receipt state moved)
    (asset : AssetId) (nonce : DepositNonce) :
    (published cfg asset (receipt.events deposited.id nonce) : ℚ) ≤
      value (decimals decimalPairs asset)
        (if deposited.id = asset then receipt.bridged.toNat else 0) := by
  have hsum : published cfg asset (receipt.events deposited.id nonce) =
      if ridToAssetid cfg receipt.resourceId = some asset then receipt.published.toNat else 0 := by
    simp [published, publishedAmount, Receipt.events, of_big_endian_take_create]
  refine le_value ?_
  rw [hsum]
  by_cases hrid : ridToAssetid cfg receipt.resourceId = some asset
  · have hid : deposited.id = asset :=
      (rid_to_assetid_extract_asset hunique hdeposits.bound hrid).symm
    have hconverted := hdeposits.converted
    rw [hconverter, hid] at hconverted
    obtain ⟨decimal, hdecimal, hle⟩ := convert_to_le hconverted
    rw [if_pos hrid, if_pos hid, decimals, hdecimal, Option.getD_some]
    exact hle
  · rw [if_neg hrid, Nat.zero_mul]
    exact Nat.zero_le _

/-- A deposit burns what it bridges of a wrapped asset. -/
theorem WrappedAsset.deposit_accounted
    (h : WrappedAsset cfg view debugAssertions decimalPairs asset) {origin : Origin}
    {deposited : MultiAsset} {dest : MultiLocation} {state final : State L}
    (hdeposit : deposit cfg origin deposited dest state = (.ok (), final)) :
    Accounted cfg asset (supplyStake view decimalPairs asset) state final 0 := by
  obtain ⟨receipt, moved, hdeposits, rfl⟩ := deposit_ok.mp hdeposit
  obtain ⟨hfungible, -⟩ := extract_asset_some hdeposits.bound
  obtain ⟨⟨paid, charged, hcollects⟩, hmoved⟩ := collect_lift h.ledgerOnly hdeposits.collected
  have hevents : moved.events = state.events := by rw [hmoved]
  have hburned := hcollects.destroyed view hfungible hdeposits.affordable asset
  have hbridged : (if asset = deposited.id ∧ cfg.isReserve deposited .here = false then
      receipt.bridged.toNat else 0) =
        if deposited.id = asset then receipt.bridged.toNat else 0 := by
    by_cases hid : deposited.id = asset
    · have hunreserved : cfg.isReserve deposited .here = false := by
        rw [hfungible, hid]
        exact h.unreserved _
      simp [hid, hunreserved]
    · simp [hid, Ne.symm hid]
  have hpublished := hdeposits.published_le h.uniqueResources h.converter asset
    (moved.storage.depositCount receipt.destDomainId)
  rw [hbridged] at hburned
  refine ⟨_, by rw [Receipt.issue, State.put_events, hevents], ?_⟩
  have hstake : supplyStake view decimalPairs asset state.ledger =
      supplyStake view decimalPairs asset moved.ledger +
        value (decimals decimalPairs asset)
          (if deposited.id = asset then receipt.bridged.toNat else 0) := by
    rw [supplyStake, supplyStake, ← value_add, hburned]
  rw [hstake]
  simp only [Receipt.issue, State.put_ledger, Nat.cast_zero, add_zero]
  linarith

/-- Paying out issues at most what is paid of a wrapped asset, and nothing when it fails. -/
theorem WrappedAsset.pay_issuance (h : WrappedAsset cfg view debugAssertions decimalPairs asset)
    {id : AssetId} {paid : U128} {location : MultiLocation} {account : AccountId} {start final : L}
    {outcome : Except XcmError Unit}
    (hpay : payLedger cfg transactor ⟨⟨id, .fungible paid⟩, location, account⟩ start =
      (outcome, final)) :
    view.issuance final asset ≤ view.issuance start asset +
      if outcome = .ok () then amountOf id paid.toNat asset else 0 := by
  -- a deposit at the location, from a ledger that holds no more of the asset
  have hdeposit : ∀ {middle : L}, view.issuance middle asset ≤ view.issuance start asset →
      transactor.depositAsset ⟨id, .fungible paid⟩ location middle = (outcome, final) →
      view.issuance final asset ≤ view.issuance start asset +
        if outcome = .ok () then amountOf id paid.toNat asset else 0 := by
    intro middle hmiddle hcall
    cases outcome with
    | ok done =>
        have hissued := h.issued hcall
        simp only [if_true]
        omega
    | error error =>
        rw [h.atomic.deposit _ _ _ _ _ hcall]
        exact Nat.le_add_right_of_le hmiddle
  unfold payLedger at hpay
  split at hpay
  · split at hpay
    · rename_i withdrawn hwithdraw
      have hburned := view.burn hwithdraw asset
      exact hdeposit (by omega) hpay
    · rename_i error left hwithdraw
      cases hpay
      rw [h.atomic.withdraw _ _ _ _ _ hwithdraw]
      exact Nat.le_add_right _ _
  · exact hdeposit (Nat.le_refl _) hpay

/-- A proposal mints at most what it executes of a wrapped asset. -/
theorem WrappedAsset.proposal_accounted
    (h : WrappedAsset cfg view debugAssertions decimalPairs asset) {proposal : Proposal}
    {state final : State L} (hexecute : executeOne cfg proposal state = (.ok (), final)) :
    Accounted cfg asset (supplyStake view decimalPairs asset) state final
      (executedAmount cfg asset
        ⟨state, .proposal proposal, (executeProposalInternal cfg proposal state).1, final⟩) := by
  obtain ⟨-, rfl⟩ := (execute_one_lift h.ledgerOnly).mp hexecute
  rw [execute_proposal_internal_lift h.ledgerOnly]
  have hevents : ∀ outcome, ∀ event ∈ outcomeEvents cfg proposal outcome,
      event.depositTo = none := by
    intro outcome event hmem
    rcases outcome with (error | reason) | done
    · obtain rfl := List.mem_singleton.mp hmem
      rfl
    · cases hmem
    · obtain rfl := List.mem_singleton.mp hmem
      rfl
  refine .of_no_deposit rfl (hevents _) ?_
  show supplyStake view decimalPairs asset
    (settle cfg transactor proposal state.storage state.ledger).2 ≤ _
  unfold settle
  cases hresolve : resolve cfg state.storage proposal with
  | error fault => exact le_add_of_nonneg_right (Nat.cast_nonneg _)
  | ok payout =>
      obtain ⟨-, -, -, id, amount, hrid, hextract, hconvert, -⟩ := resolve_ok.mp hresolve
      obtain ⟨decimal, paid, hdecimal, hasset, hle⟩ := convert_from_le (h.converter ▸ hconvert)
      obtain ⟨payoutAsset, location, account⟩ := payout
      subst hasset
      rcases hpay : payLedger cfg transactor ⟨⟨id, .fungible paid⟩, location, account⟩
        state.ledger with ⟨outcome, left⟩
      have hissued := h.pay_issuance hpay
      simp only [hpay]
      cases outcome with
      | error error =>
          exact le_add_of_le_of_nonneg (value_mono _ (by simpa using hissued))
            (Nat.cast_nonneg _)
      | ok done =>
          have hexecuted : value (decimals decimalPairs asset) (amountOf id paid.toNat asset) ≤
              (if ridToAssetid cfg proposal.resourceId = some asset then amount.toNat else 0 :
                Nat) := by
            rw [hrid]
            by_cases hid : id = asset
            · subst hid
              rw [amountOf, if_pos rfl, if_pos rfl, decimals, hdecimal, Option.getD_some]
              exact value_le hle
            · simp [amountOf, hid, Ne.symm hid, value]
          calc supplyStake view decimalPairs asset left
              ≤ value (decimals decimalPairs asset)
                  (view.issuance state.ledger asset + amountOf id paid.toNat asset) :=
                value_mono _ (by simpa using hissued)
            _ = supplyStake view decimalPairs asset state.ledger +
                  value (decimals decimalPairs asset) (amountOf id paid.toNat asset) :=
                value_add _ _ _
            _ ≤ _ := by
                simp only [executedAmount, hextract]
                exact add_le_add_right hexecuted _

/-- A transition of a chain that issues an asset balances. -/
theorem Step.accounted_wrapped (h : WrappedAsset cfg view debugAssertions decimalPairs asset)
    {point next : Point L} {entry : Entry L} (hstep : Step cfg point entry next)
    (hissues : entry.IssuesNothing view asset) :
    Accounted cfg asset (supplyStake view decimalPairs asset) point.state next.state
      (executedAmount cfg asset entry) := by
  cases hstep with
  | call hdispatch hbatch =>
      rename_i origin extrinsic before after outcome
      cases dispatch_cases hdispatch hbatch with
      | failed => exact .same _ _ _ _
      | guarded hguard =>
          exact .of_no_deposit rfl (deposit_to_report _ _) (by simp [executedAmount])
      | deposited hdeposit => exact h.deposit_accounted hdeposit
  | batch hdispatch => exact .same _ _ _ _
  | proposal hexecute => exact h.proposal_accounted hexecute
  | transfer htransfer =>
      rename_i sender deposited dest before after outcome
      cases outcome with
      | error fault =>
          obtain rfl := Exec.transactional_error htransfer
          exact .same _ _ _ _
      | ok done => exact h.deposit_accounted htransfer
  | upgrade before => exact .of_no_deposit rfl (by simp) (by simp [executedAmount])
  | external before changed =>
      refine .of_no_deposit (List.append_nil _).symm (by simp) ?_
      simpa [executedAmount, supplyStake] using value_mono _ (hissues changed rfl)

/-! ## Reserved assets -/

/-- The stake of a chain that holds the reserve of an asset: the value of the reserve, counted
negatively. -/
def reserveStake (ledger : KeyedLedger transactor) (decimalPairs : List (AssetId × U8))
    (asset : AssetId) (reserve : AccountId) (held : L) : ℚ :=
  -value (decimals decimalPairs asset) (ledger.balance held asset reserve)

/-- A transition of a chain that holds the reserve of an asset balances. -/
theorem Step.accounted_reserve {ledger : KeyedLedger transactor} {reserve : AccountId}
    (h : ReservedAsset cfg transactor debugAssertions decimalPairs asset reserve)
    {point next : Point L} {entry : Entry L} (hstep : Step cfg point entry next)
    (hhonest : entry.Honest ledger asset reserve) :
    Accounted cfg asset (reserveStake ledger decimalPairs asset reserve) point.state next.state
      (executedAmount cfg asset entry) := by
  obtain ⟨⟨added, hevents, hpublished⟩, hcovered, hbalance⟩ := hstep.flow h hhonest
  refine ⟨added, hevents, ?_⟩
  have hin := le_value hpublished
  have hout := value_le hcovered
  have hmoved := value_mono (decimals decimalPairs asset) hbalance
  rw [value_add, value_add] at hmoved
  unfold reserveStake
  linarith

end Sygma
