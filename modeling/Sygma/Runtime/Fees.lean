import Sygma.Runtime.Machine
import Sygma.Runtime.Standalone

/-!
# Percentage fees

The percentage of an amount is formed as a product that is held at the greatest amount, divided by
10000, and clamped to the bounds of the asset. `percentage_fee_exact_iff` says when that is the
clamped percentage itself. `percentage_fees_leave` is about the fees a chain charges: the rates and
bounds it stores were checked when they were set, so a fee lies within its bounds, grows with the
amount, and takes all of it exactly up to the lower bound.
-/

namespace Sygma

open Bridge

/-! ## The fee as a number -/

/-- A product held at the greatest amount. -/
theorem saturating_mul_toNat (first second : U128) :
    (saturatingMul first second).toNat = min (first.toNat * second.toNat) (2 ^ 128 - 1) := by
  unfold saturatingMul
  split
  · rename_i hlt
    rw [BitVec.toNat_mul, Nat.mod_eq_of_lt hlt]
    omega
  · rw [BitVec.toNat_allOnes]
    omega

namespace PercentageFeeHandler

/-- The percentage of an amount as the handler computes it, before it is clamped. -/
def percentage (amount : U128) (rate : U32) : Nat :=
  min (amount.toNat * rate.toNat) (2 ^ 128 - 1) / 10000

variable {storage : Storage} {domain : DomainID} {id : AssetId} {rate : U32} {lower upper : U128}

/-- The fee is the computed percentage, clamped to the bounds. -/
theorem get_fee_eq (hrate : storage.assetFeeRate.get (domain, id) = some (rate, lower, upper))
    (hbounds : lower < upper) (amount : U128) :
    ∃ fee, getFee storage domain ⟨id, .fungible amount⟩ = some fee ∧
      fee.toNat = min upper.toNat (max lower.toNat (percentage amount rate)) := by
  have hless : lower.toNat < upper.toNat := hbounds
  have hfee : (saturatingMul amount (rate.setWidth 128) / 10000#128).toNat =
      percentage amount rate := by
    have hwidth : (rate.setWidth 128).toNat = rate.toNat := by
      rw [BitVec.toNat_setWidth]
      exact Nat.mod_eq_of_lt (by have hlt := rate.isLt; omega)
    rw [BitVec.toNat_udiv, saturating_mul_toNat, hwidth]
    rfl
  simp only [getFee, hrate, Option.bind_eq_bind, Option.bind_some]
  by_cases hupper : saturatingMul amount (rate.setWidth 128) / 10000#128 > upper
  · have habove : upper.toNat < percentage amount rate := by
      rw [← hfee]
      exact hupper
    rw [if_pos hupper]
    exact ⟨upper, rfl, by omega⟩
  · have hnot : ¬ upper.toNat < percentage amount rate := by
      rw [← hfee]
      exact hupper
    rw [if_neg hupper]
    by_cases hlower : saturatingMul amount (rate.setWidth 128) / 10000#128 < lower
    · have hbelow : percentage amount rate < lower.toNat := by
        rw [← hfee]
        exact hlower
      rw [if_pos hlower]
      exact ⟨lower, rfl, by omega⟩
    · have hnot' : ¬ percentage amount rate < lower.toNat := by
        rw [← hfee]
        exact hlower
      rw [if_neg hlower]
      exact ⟨_, rfl, by omega⟩

/-- A rate below 10000 takes less than the whole of an amount. -/
theorem percentage_lt (hrate : rate < 10000#32) {amount : U128} (hamount : 0 < amount.toNat) :
    percentage amount rate < amount.toNat := by
  have hless : rate.toNat < 10000 := hrate
  have hproduct : amount.toNat * rate.toNat < amount.toNat * 10000 :=
    Nat.mul_lt_mul_of_pos_left hless hamount
  unfold percentage
  omega

theorem percentage_mono (rate : U32) {amount more : U128} (h : amount ≤ more) :
    percentage amount rate ≤ percentage more rate := by
  have hproduct : amount.toNat * rate.toNat ≤ more.toNat * rate.toNat :=
    Nat.mul_le_mul_right _ h
  unfold percentage
  omega

/-! ## Exactness -/

/-- The fee of an amount is its exact percentage, clamped to the bounds. -/
def ExactFee (storage : Storage) (domain : DomainID) (id : AssetId) (rate : U32)
    (lower upper amount : U128) : Prop :=
  ∃ fee, getFee storage domain ⟨id, .fungible amount⟩ = some fee ∧
    fee.toNat = min upper.toNat (max lower.toNat (amount.toNat * rate.toNat / 10000))

/-- After a rate was set, and as long as it stays, fees are exact if the upper bound is at most the
greatest percentage that can be computed, or the percentage of the amount is at most that or the
lower bound; otherwise they are not. -/
theorem percentage_fee_exact_iff {L : Type} {cfg : Config L} {origin : Origin}
    {before after : State L}
    (hset : setFeeRate cfg origin domain id rate lower upper before = (.ok (), after))
    (hkept : storage.assetFeeRate.get (domain, id) = after.storage.assetFeeRate.get (domain, id))
    (amount : U128) :
    ExactFee storage domain id rate lower upper amount ↔
      upper.toNat ≤ (2 ^ 128 - 1) / 10000 ∨
        amount.toNat * rate.toNat / 10000 ≤ max lower.toNat ((2 ^ 128 - 1) / 10000) := by
  have hdispatch : dispatch cfg origin (.setFeeRate domain id rate lower upper) before =
      (.ok (), after) := dispatch_ok.mpr hset
  obtain ⟨-, ⟨-, hbounds⟩, hafter⟩ := (dispatch_guarded rfl).mp hdispatch
  have hrate : storage.assetFeeRate.get (domain, id) = some (rate, lower, upper) := by
    rw [hkept, ← hafter, State.put_storage, Extrinsic.write, StorageMap.get_insert, if_pos rfl]
  have hless : lower.toNat < upper.toNat := hbounds
  obtain ⟨fee, hfee, hvalue⟩ := get_fee_eq hrate hbounds amount
  unfold percentage at hvalue
  constructor
  · rintro ⟨exact, hexact, hvalue'⟩
    rw [hfee] at hexact
    cases hexact
    omega
  · intro hcondition
    exact ⟨fee, hfee, by omega⟩

end PercentageFeeHandler

namespace Standalone

open PercentageFeeHandler

/-- The chain after the committee set a rate of two percent with the widest bounds. -/
def widestState : State PlainLedger :=
  (setFeeRate plainConfig .root 1 (.concrete nativeLocation) 200 0 (BitVec.allOnes 128)
    (.genesis 1 .empty)).2

theorem widest_state_eq :
    setFeeRate plainConfig .root 1 (.concrete nativeLocation) 200 0 (BitVec.allOnes 128)
      (.genesis 1 .empty) = (.ok (), widestState) :=
  Prod.ext (by decide +kernel) rfl

/-- Two percent of 1000 are charged exactly. -/
theorem percentage_fee_exact_iff_native :
    setFeeRate plainConfig .root 1 (.concrete nativeLocation) 200 0 (BitVec.allOnes 128)
        (.genesis 1 .empty) = (.ok (), widestState) ∧
      ExactFee widestState.storage 1 (.concrete nativeLocation) 200 0 (BitVec.allOnes 128) 1000 :=
  ⟨widest_state_eq, (percentage_fee_exact_iff widest_state_eq rfl 1000).mpr (.inr (by decide))⟩

/-- Two percent of the greatest amount are not: the product is held at the greatest amount before it
is divided, so the fee is one hundredth of a percent. -/
theorem percentage_fee_saturated :
    setFeeRate plainConfig .root 1 (.concrete nativeLocation) 200 0 (BitVec.allOnes 128)
        (.genesis 1 .empty) = (.ok (), widestState) ∧
      getFee widestState.storage 1 ⟨.concrete nativeLocation, .fungible (BitVec.allOnes 128)⟩ =
        some 34028236692093846346337460743176821 ∧
      ¬ ExactFee widestState.storage 1 (.concrete nativeLocation) 200 0 (BitVec.allOnes 128)
        (BitVec.allOnes 128) := by
  have hfee : getFee widestState.storage 1
      ⟨.concrete nativeLocation, .fungible (BitVec.allOnes 128)⟩ =
        some 34028236692093846346337460743176821 := by decide +kernel
  refine ⟨widest_state_eq, hfee, ?_⟩
  rintro ⟨fee, hexact, hvalue⟩
  rw [hfee] at hexact
  cases hexact
  exact absurd hvalue (by decide)

end Standalone

/-! ## The rates of a chain -/

variable {L : Type} {cfg : Config L}

/-- Every stored rate is below 10000, and its bounds are in order. -/
def FeeRates (storage : Storage) : Prop :=
  ∀ key rate lower upper, storage.assetFeeRate.get key = some (rate, lower, upper) →
    rate < 10000#32 ∧ lower < upper

theorem write_fee_rates {storage : Storage} (h : FeeRates storage) {extrinsic : Extrinsic}
    (hrequires : extrinsic.requires storage) : FeeRates (extrinsic.write storage) := by
  intro key rate lower upper hget
  cases extrinsic with
  | setFeeRate =>
      simp only [Extrinsic.write, StorageMap.get_insert] at hget
      split at hget
      · cases hget
        exact hrequires
      · exact h key rate lower upper hget
  | _ => exact h key rate lower upper hget

theorem Step.fee_rates {point next : Point L} {entry : Entry L} (hcfg : Confined cfg)
    (hstep : Step cfg point entry next) (h : FeeRates point.state.storage) :
    FeeRates next.state.storage := by
  refine hstep.keeps hcfg FeeRates (fun _ _ _ hkept => hkept) (fun _ _ _ hkept => hkept) ?_ h
  intro _ extrinsic _ _ storage hrequires hkept
  exact write_fee_rates hkept hrequires

theorem fee_rates_run (hcfg : Confined cfg) {version : U16} {ledger : L} {final : Point L}
    {trace : List (Entry L)} (hrun : Run (Step cfg) (.genesis version ledger) trace final) :
    FeeRates final.state.storage := by
  refine hrun.invariant (fun p => FeeRates p.state.storage) ?_ ?_
  · intro key rate lower upper hget
    cases hget
  · intro _ _ _ hstep
    exact hstep.fee_rates hcfg

/-! ## The fee check -/

/-- After the fee check no deposit is refused for its fee. -/
theorem carry_out_faults (asset : MultiAsset) (quote : Quote) :
    Exec.FaultsIn (fun fault => fault ≠ .error (.bridge .feeTooExpensive))
      (carryOut cfg asset quote) := by
  rw [carry_out_eq]
  refine (until_conversion_faultsIn ?_ ?_ ?_).bind fun nonce => publish_faultsIn nofun ?_ nonce
  · intro error hother hsame
    cases hsame
    exact hother rfl
  · intro what who store fault final _ reason _
    nofun
  · intro what account store fault final _ reason _
    nofun
  · intro reason _
    nofun

/-- What the fees of an asset and a domain with the given bounds are like in a state. -/
structure ChargesWithin (cfg : Config L) (state : State L) (domain : DomainID) (id : AssetId)
    (lower upper : U128) : Prop where
  fee : ∀ amount, ∃ fee,
    PercentageFeeHandler.getFee state.storage domain ⟨id, .fungible amount⟩ = some fee ∧
      lower ≤ fee ∧ fee ≤ upper ∧ (fee < amount ↔ lower < amount)
  monotone : ∀ amount more fee fee', amount ≤ more →
    PercentageFeeHandler.getFee state.storage domain ⟨id, .fungible amount⟩ = some fee →
    PercentageFeeHandler.getFee state.storage domain ⟨id, .fungible more⟩ = some fee' → fee ≤ fee'
  /-- A deposit that comes to the fee check is refused there up to the lower bound. -/
  refused : ∀ origin amount dest quote,
    Bridge.quote cfg state.storage origin ⟨id, .fungible amount⟩ dest = .ok quote →
    quote.destDomainId = domain → amount ≤ lower →
      deposit cfg origin ⟨id, .fungible amount⟩ dest state =
        (.error (.error (.bridge .feeTooExpensive)), state)
  /-- Above the lower bound it is not, and if it succeeds it bridges a positive amount. -/
  bridged : ∀ origin amount dest quote,
    Bridge.quote cfg state.storage origin ⟨id, .fungible amount⟩ dest = .ok quote →
    quote.destDomainId = domain → lower < amount →
      (∀ final, deposit cfg origin ⟨id, .fungible amount⟩ dest state ≠
        (.error (.error (.bridge .feeTooExpensive)), final)) ∧
      0 < amount - quote.fee ∧
      deposit cfg origin ⟨id, .fungible amount⟩ dest state =
        Exec.transactional (carryOut cfg ⟨id, .fungible amount⟩ quote) state ∧
      ∀ final, deposit cfg origin ⟨id, .fungible amount⟩ dest state = (.ok (), final) →
        ∃ receipt moved, Deposits cfg origin ⟨id, .fungible amount⟩ dest receipt state moved ∧
          receipt.issue id moved = final ∧ 0 < receipt.bridged

/-- What is left of an amount after a smaller fee is positive. -/
theorem sub_fee_pos {amount fee : U128} (h : fee < amount) : 0 < amount - fee := by
  have hless : fee.toNat < amount.toNat := h
  have hsub : (amount - fee).toNat = amount.toNat - fee.toNat :=
    BitVec.toNat_sub_of_le (BitVec.le_of_lt h)
  show 0 < (amount - fee).toNat
  omega

variable {state : State L} {domain : DomainID} {id : AssetId} {rate : U32} {lower upper : U128}

/-- A fee is less than the amount exactly above the lower bound. -/
theorem fee_lt_iff (hrate : rate < 10000#32) (hbounds : lower < upper) (amount : U128) :
    min upper.toNat (max lower.toNat (PercentageFeeHandler.percentage amount rate)) <
        amount.toNat ↔
      lower.toNat < amount.toNat := by
  have hless : lower.toNat < upper.toNat := hbounds
  by_cases hamount : 0 < amount.toNat
  · have hpercentage := PercentageFeeHandler.percentage_lt hrate hamount
    omega
  · omega

/-- A quote for an asset that is routed to the percentage handler is affordable exactly above the
lower bound. -/
theorem quote_affordable_iff (hrouter : cfg.feeHandler = FeeHandlerRouter.getFee)
    (hrate : rate < 10000#32) (hbounds : lower < upper)
    (hstored : state.storage.assetFeeRate.get (domain, id) = some (rate, lower, upper))
    (hrouted : state.storage.handlerType.get (domain, id) = some .percentageFeeHandler)
    {origin : Origin} {amount : U128} {dest : MultiLocation} {quote : Quote}
    (hquote : Bridge.quote cfg state.storage origin ⟨id, .fungible amount⟩ dest = .ok quote)
    (hdomain : quote.destDomainId = domain) :
    quote.amount = amount ∧ (quote.fee < quote.amount ↔ lower < amount) := by
  obtain ⟨-, -, -, -, -, hbound, hfee⟩ := quote_ok.mp hquote
  have hamount := congrArg MultiAsset.fun_ (extract_asset_some hbound).1
  cases hamount
  rw [hrouter, hdomain, FeeHandlerRouter.getFee] at hfee
  simp only [hrouted] at hfee
  obtain ⟨fee, hget, hvalue⟩ := PercentageFeeHandler.get_fee_eq hstored hbounds quote.amount
  rw [hget] at hfee
  cases hfee
  refine ⟨rfl, ?_⟩
  rw [BitVec.lt_def, BitVec.lt_def, hvalue]
  exact fee_lt_iff hrate hbounds _

/-- Fees with a checked rate and checked bounds are within them. -/
theorem charges_within (hrouter : cfg.feeHandler = FeeHandlerRouter.getFee)
    (hrate : rate < 10000#32) (hbounds : lower < upper)
    (hstored : state.storage.assetFeeRate.get (domain, id) = some (rate, lower, upper))
    (hrouted : state.storage.handlerType.get (domain, id) = some .percentageFeeHandler) :
    ChargesWithin cfg state domain id lower upper := by
  have hless : lower.toNat < upper.toNat := hbounds
  refine ⟨?_, ?_, ?_, ?_⟩
  · intro amount
    obtain ⟨fee, hget, hvalue⟩ := PercentageFeeHandler.get_fee_eq hstored hbounds amount
    refine ⟨fee, hget, ?_, ?_, ?_⟩
    · rw [BitVec.le_def, hvalue]
      omega
    · rw [BitVec.le_def, hvalue]
      omega
    · rw [BitVec.lt_def, BitVec.lt_def, hvalue]
      exact fee_lt_iff hrate hbounds _
  · intro amount more fee fee' hle hfee hfee'
    obtain ⟨_, hget, hvalue⟩ := PercentageFeeHandler.get_fee_eq hstored hbounds amount
    obtain ⟨_, hget', hvalue'⟩ := PercentageFeeHandler.get_fee_eq hstored hbounds more
    rw [hget] at hfee
    rw [hget'] at hfee'
    cases hfee
    cases hfee'
    have hmono := PercentageFeeHandler.percentage_mono rate hle
    rw [BitVec.le_def, hvalue, hvalue']
    omega
  · intro origin amount dest quote hquote hdomain hle
    obtain ⟨-, hiff⟩ := quote_affordable_iff hrouter hrate hbounds hstored hrouted hquote hdomain
    have hnot : ¬ quote.amount > quote.fee := by
      intro hafford
      have hlower : lower.toNat < amount.toNat := hiff.mp hafford
      have hamount : amount.toNat ≤ lower.toNat := hle
      omega
    rw [deposit_eq, hquote]
    exact if_neg hnot
  · intro origin amount dest quote hquote hdomain hlt
    obtain ⟨hamount, hiff⟩ :=
      quote_affordable_iff hrouter hrate hbounds hstored hrouted hquote hdomain
    have hafford : quote.fee < quote.amount := hiff.mpr hlt
    have hdeposit : deposit cfg origin ⟨id, .fungible amount⟩ dest state =
        Exec.transactional (carryOut cfg ⟨id, .fungible amount⟩ quote) state := by
      rw [deposit_eq, hquote]
      exact if_pos hafford
    refine ⟨?_, ?_, hdeposit, ?_⟩
    · intro final h
      rw [hdeposit] at h
      exact (carry_out_faults _ quote).transactional state _ final h rfl
    · rw [← hamount]
      exact sub_fee_pos hafford
    · intro final h
      obtain ⟨receipt, moved, hdeposits, hfinal⟩ := deposit_ok.mp h
      exact ⟨receipt, moved, hdeposits, hfinal, sub_fee_pos hdeposits.affordable⟩

/-- In every state of a chain, stored rates are below 10000 and stored bounds in order; and the fees
of what is routed to the percentage handler stay within the bounds, grow with the amount, and
consume exactly the deposits up to the lower bound. -/
theorem percentage_fees_leave (hcfg : Confined cfg)
    (hrouter : cfg.feeHandler = FeeHandlerRouter.getFee) {version : U16} {ledger : L}
    {final : Point L} {trace : List (Entry L)}
    (hrun : Run (Step cfg) (.genesis version ledger) trace final) :
    ∀ domain id rate lower upper,
      final.state.storage.assetFeeRate.get (domain, id) = some (rate, lower, upper) →
        rate < 10000#32 ∧ lower < upper ∧
        (final.state.storage.handlerType.get (domain, id) = some .percentageFeeHandler →
          ChargesWithin cfg final.state domain id lower upper) := by
  intro domain id rate lower upper hstored
  obtain ⟨hrate, hbounds⟩ := fee_rates_run hcfg hrun (domain, id) rate lower upper hstored
  exact ⟨hrate, hbounds, charges_within hrouter hrate hbounds hstored⟩

namespace Standalone

/-- The calls that route the native asset to a rate of two percent, between 10 and 100. -/
def percentageCalls : List (Origin × Extrinsic) :=
  [(.root, .setFeeHandler 1 (.concrete nativeLocation) .percentageFeeHandler),
    (.root, .setFeeRate 1 (.concrete nativeLocation) 200 10 100)]

def percentageState : State PlainLedger :=
  dispatchAll plainConfig percentageCalls (.genesis 1 .empty)

theorem percentage_fees_leave_native :
    percentageState.storage.assetFeeRate.get (1, .concrete nativeLocation) =
        some (200, 10, 100) ∧
      ChargesWithin plainConfig percentageState 1 (.concrete nativeLocation) 10 100 := by
  have hstored : percentageState.storage.assetFeeRate.get (1, .concrete nativeLocation) =
      some (200, 10, 100) := by decide +kernel
  have hrouted : percentageState.storage.handlerType.get (1, .concrete nativeLocation) =
      some .percentageFeeHandler := by decide +kernel
  obtain ⟨trace, hrun⟩ := dispatch_all_run plainConfig percentageCalls (.genesis 1 .empty)
  have hleave := percentage_fees_leave (confined_of_lift rfl) rfl hrun _ _ _ _ _ hstored
  exact ⟨hstored, hleave.2.2 hrouted⟩

end Standalone

end Sygma
