import Sygma.Runtime.Solvency

/-!
# Deposits conserve value

A deposit makes three calls to the ledger: it withdraws the amount from the sender, pays the fee,
and puts the rest into the reserve of the asset or leaves it destroyed. Any two of the accounts
involved may be the same, so the effect is stated as one equation for every balance, in which the
three amounts add up. `deposit_conserves` adds what the deposit reports, and
that a deposit that fails changes nothing.
-/

namespace Sygma

namespace Bridge

variable {L : Type} {cfg : Config L} {transactor : LedgerTransactor L}

/-- An amount, at one asset and one account only. -/
def amountAt (asset : AssetId) (account : AccountId) (amount : Nat) (otherAsset : AssetId)
    (other : AccountId) : Nat :=
  if otherAsset = asset ∧ other = account then amount else 0

/-- What is left after the fee, as a number. -/
theorem Receipt.bridged_toNat {receipt : Receipt} (h : receipt.fee < receipt.amount) :
    receipt.bridged.toNat = receipt.amount.toNat - receipt.fee.toNat :=
  BitVec.toNat_sub_of_le (BitVec.le_of_lt h)

/-- When each asset has a pool of its own, a deposit destroys what it does not put into a
reserve. -/
theorem Collects.destroyed (view : IssuingLedger transactor) {asset : MultiAsset}
    {receipt : Receipt} {ledger paid charged final : L}
    (hasset : asset = ⟨asset.id, .fungible receipt.amount⟩) (hfee : receipt.fee < receipt.amount)
    (h : Collects cfg transactor asset receipt ledger paid charged final) (otherId : AssetId) :
    view.issuance final otherId +
        (if otherId = asset.id ∧ cfg.isReserve asset .here = false then receipt.bridged.toNat
          else 0) =
      view.issuance ledger otherId := by
  have hbridged := Receipt.bridged_toNat hfee
  have hless : receipt.fee.toNat < receipt.amount.toNat := BitVec.lt_def.mp hfee
  have hissuance : view.issuance final otherId + amountOf asset.id receipt.amount.toNat otherId =
      view.issuance ledger otherId + amountOf asset.id receipt.fee.toNat otherId +
        if cfg.isReserve asset .here then amountOf asset.id receipt.bridged.toNat otherId else 0 :=
    h.issuance view.pooled hasset otherId
  by_cases hid : otherId = asset.id
  · simp only [amountOf, hid, if_true] at hissuance
    cases hreserve : cfg.isReserve asset .here with
    | true =>
        simp only [hid, hreserve, Bool.true_eq_false, and_false, if_true, if_false] at hissuance ⊢
        omega
    | false =>
        simp only [hid, hreserve, Bool.false_eq_true, and_self, if_true, if_false] at hissuance ⊢
        omega
  · simpa [amountOf, hid] using hissuance

/-- What a deposit with the given receipt does. The sender pays the amount, the fee account gets
the fee, and the rest goes to the reserve account of a reserved asset and is destroyed otherwise.
Nothing else changes but the counter of the domain, and the two events carry the receipt. -/
structure Conserves (cfg : Config L) (view : IssuingLedger transactor) (asset : MultiAsset)
    (dest : MultiLocation) (receipt : Receipt) (state final : State L) : Prop where
  amount : asset.fun_ = .fungible receipt.amount
  resource : extractAsset cfg asset = some (receipt.resourceId, receipt.amount, .fungibleTransfer)
  destination : cfg.extractDestData dest = .ok (some (receipt.recipient, receipt.destDomainId))
  fee : cfg.feeHandler state.storage receipt.destDomainId asset = some receipt.fee
  affordable : receipt.fee < receipt.amount
  reserveAccount : cfg.transferReserveAccounts asset.id = some receipt.reserveAccount
  published : cfg.decimalConverter.convertTo
    ⟨asset.id, .fungible (receipt.amount - receipt.fee)⟩ = .ok (some receipt.published)
  balances : ∀ otherId other,
    view.balance final.ledger otherId other +
        amountAt asset.id receipt.sender receipt.amount.toNat otherId other =
      view.balance state.ledger otherId other +
        amountAt asset.id cfg.feeReserveAccount receipt.fee.toNat otherId other +
        if cfg.isReserve asset .here then
          amountAt asset.id receipt.reserveAccount (receipt.amount.toNat - receipt.fee.toNat)
            otherId other
        else 0
  issuance : ∀ otherId,
    view.issuance final.ledger otherId +
        (if otherId = asset.id ∧ cfg.isReserve asset .here = false then
          receipt.amount.toNat - receipt.fee.toNat else 0) =
      view.issuance state.ledger otherId
  storage : final.storage =
    { state.storage with
      depositCounts := state.storage.depositCounts.insert receipt.destDomainId
        (state.storage.depositCount receipt.destDomainId + 1) }
  events : final.events = state.events ++
    [.deposit receipt.destDomainId receipt.resourceId
        (state.storage.depositCount receipt.destDomainId) receipt.sender .fungibleTransfer
        (createDepositData receipt.published receipt.recipient) [],
      .feeCollected receipt.sender receipt.destDomainId receipt.resourceId receipt.fee asset.id]

/-- A deposit that succeeds has a receipt, and does what it says. -/
theorem Deposits.conserves (hcfg : cfg.assetTransactor = transactor.lift)
    (view : IssuingLedger transactor) {origin : Origin} {asset : MultiAsset} {dest : MultiLocation}
    {receipt : Receipt} {state moved : State L}
    (h : Deposits cfg origin asset dest receipt state moved) :
    Conserves cfg view asset dest receipt state (receipt.issue asset.id moved) := by
  obtain ⟨hasset, htype, -⟩ := extract_asset_some h.bound
  have hfee : receipt.fee < receipt.amount := h.affordable
  have hbridged := Receipt.bridged_toNat hfee
  obtain ⟨⟨paid, charged, hcollects⟩, hmoved⟩ := collect_lift hcfg h.collected
  have hstorage : moved.storage = state.storage := by rw [hmoved]
  have hevents : moved.events = state.events := by rw [hmoved]
  exact
    { amount := congrArg MultiAsset.fun_ hasset
      resource := by rw [h.bound, htype]
      destination := h.destination
      fee := h.charged
      affordable := hfee
      reserveAccount := h.reserve
      published := h.converted
      balances := fun otherId other => by
        rw [← hbridged]
        exact hcollects.balance view.pooled hasset otherId other
      issuance := fun otherId => by
        rw [← hbridged]
        exact hcollects.destroyed view hasset hfee otherId
      storage := by rw [Receipt.issue, State.put_storage, hstorage]
      events := by rw [Receipt.issue, State.put_events, hstorage, hevents, Receipt.events, htype] }

/-- Deposits conserve value and are all or nothing: one that succeeds moves exactly its amount, and
one that fails, wherever it fails, leaves the whole state as it was. -/
theorem deposit_conserves (hcfg : cfg.assetTransactor = transactor.lift)
    (view : IssuingLedger transactor) (origin : Origin) (asset : MultiAsset) (dest : MultiLocation)
    (state final : State L) :
    (deposit cfg origin asset dest state = (.ok (), final) →
      ∃ receipt, origin = .signed receipt.sender ∧
        Conserves cfg view asset dest receipt state final) ∧
    ∀ fault, deposit cfg origin asset dest state = (.error fault, final) → final = state := by
  refine ⟨?_, ?_⟩
  · intro h
    obtain ⟨receipt, moved, hdeposits, rfl⟩ := deposit_ok.mp h
    exact ⟨receipt, hdeposits.signed, hdeposits.conserves hcfg view⟩
  · intro fault h
    exact Exec.transactional_error h

end Bridge

namespace Standalone

open Bridge

/-- A deposit of 1003 of the native asset pays the fee of 3. -/
theorem deposit_conserves_native :
    ∃ receipt, receipt.amount = 1003 ∧ receipt.fee = 3 ∧
      Conserves plainConfig (PlainLedger.keyed locationToAccountId).issuing ⟨native, .fungible 1003⟩
        nativeDest receipt feeState depositedState := by
  have hdeposit : deposit plainConfig (.signed (Vector.replicate 32 7)) ⟨native, .fungible 1003⟩
      nativeDest feeState = (.ok (), depositedState) := Prod.ext (by decide +kernel) rfl
  obtain ⟨receipt, _, hconserves⟩ := (deposit_conserves rfl
    (PlainLedger.keyed locationToAccountId).issuing _ _ _ _ _).1 hdeposit
  have hdest : plainConfig.extractDestData nativeDest = .ok (some ([1, 0], 1)) := by decide +kernel
  have hdomain : receipt.destDomainId = 1 := by
    have hsame := hconserves.destination.symm.trans hdest
    exact congrArg Prod.snd (Option.some.inj (Except.ok.inj hsame))
  have hquoted : plainConfig.feeHandler feeState.storage 1 ⟨native, .fungible 1003⟩ = some 3 := by
    decide +kernel
  have hfee := hconserves.fee
  rw [hdomain] at hfee
  exact ⟨receipt, (Fungibility.fungible.inj hconserves.amount).symm,
    Option.some.inj (hfee.symm.trans hquoted), hconserves⟩

end Standalone

end Sygma
