import Sygma.Runtime.Solvency

/-!
# Deposit nonces

The counter of a domain is read and written in the middle of a deposit, before steps that can still
fail. `Effect.numbered` says that any transition continues the numbering of every domain without a
gap, and `deposit_nonces_gapless` that the nonces of a domain are therefore 0, 1, 2 and so on in
the order of their events, with the counter behind the last of them.
-/

namespace Sygma

open Bridge

variable {L : Type} {cfg : Config L}

/-- The deposits to every domain are numbered from zero without a gap, and its counter is their
number. -/
def Gapless (state : State L) : Prop :=
  ∀ domain, depositNonces domain state.events =
    List.range (state.storage.depositCount domain).toNat

/-- No guarded extrinsic writes a counter. -/
theorem write_deposit_counts (storage : Storage) (extrinsic : Extrinsic) :
    (extrinsic.write storage).depositCounts = storage.depositCounts := by
  cases extrinsic <;> rfl

/-- An upgrade writes no counter. -/
theorem upgrade_deposit_counts (storage : Storage) :
    (onRuntimeUpgrade storage).depositCounts = storage.depositCounts := by
  rw [on_runtime_upgrade_frame]

/-- The log of one state continues that of another, and so do the deposit nonces in it. -/
def Continues (state final : State L) : Prop :=
  ∃ added, final.events = state.events ++ added ∧
    ∀ domain, Numbered domain state.storage final.storage added

/-- Writes outside the counters, and events that are no deposits, continue the numbering. -/
theorem Continues.put {state middle : State L} (h : Continues state middle) (storage : Storage)
    (hcounts : storage.depositCounts = middle.storage.depositCounts) {events : List Event}
    (hnone : ∀ event ∈ events, event.depositTo = none) :
    Continues state (middle.put storage events) := by
  obtain ⟨added, hevents, hnumbered⟩ := h
  refine ⟨added ++ events, by rw [State.put_events, hevents, List.append_assoc], ?_⟩
  intro domain
  exact (hnumbered domain).trans (.of_no_deposit hcounts hnone)

theorem Continues.refl (state : State L) : Continues state state :=
  ⟨[], by simp, fun _ => .of_no_deposit rfl (by simp)⟩

theorem Bridge.Carries.continues {state final : State L} (h : Carries cfg state final) :
    Continues state final := by
  obtain ⟨added, hevents, -, hnumbered⟩ := h.events
  exact ⟨added, hevents, hnumbered⟩

/-- Every transition continues the numbering of every domain. -/
theorem Effect.numbered {state final : State L} (h : Effect cfg state final) :
    Continues state final := by
  cases h with
  | none => exact .refl state
  | administer =>
      exact (Continues.refl state).put _ (write_deposit_counts _ _) (deposit_to_report _ _)
  | carry hcarries => exact hcarries.continues
  | execute hresolve hcarries =>
      refine hcarries.continues.put _ ?_ ?_
      · rfl
      · simp [executionEvent, Event.depositTo]
  | fail hcarries =>
      refine hcarries.continues.put _ rfl ?_
      simp [failureEvent, Event.depositTo]
  | upgrade => exact (Continues.refl state).put _ (upgrade_deposit_counts _) (by simp)

theorem Gapless.continue {state final : State L} (h : Gapless state)
    (hnext : Continues state final) : Gapless final := by
  obtain ⟨added, hevents, hnumbered⟩ := hnext
  intro domain
  have hadded := hnumbered domain
  have happend := @List.range'_append_1 0 (state.storage.depositCount domain).toNat
    (depositNonces domain added).length
  rw [Nat.zero_add] at happend
  rw [hevents, deposit_nonces_append, h domain, hadded.nonces, hadded.count,
    List.range_eq_range', List.range_eq_range', happend]

theorem gapless_genesis (version : U16) (ledger : L) : Gapless (State.genesis version ledger) := by
  intro domain
  rfl

/-- What one transition does to the counters. A deposit that fails changes nothing at all; one that
succeeds adds one to the counter of its own domain; one to a domain whose counter is exhausted
fails; and guarded extrinsics leave the counters alone. -/
structure Entry.Counts (cfg : Config L) (entry : Entry L) : Prop where
  failed : ∀ origin asset dest, entry.action.asDeposit = some (origin, asset, dest) →
    entry.outcome ≠ .ok () → entry.after = entry.before
  succeeded : ∀ origin asset dest, entry.action.asDeposit = some (origin, asset, dest) →
    entry.outcome = .ok () → ∃ recipient domain,
      cfg.extractDestData dest = .ok (some (recipient, domain)) ∧
      (entry.after.storage.depositCount domain).toNat =
        (entry.before.storage.depositCount domain).toNat + 1 ∧
      ∀ other, other ≠ domain →
        entry.after.storage.depositCount other = entry.before.storage.depositCount other
  exhausted : ∀ origin asset dest recipient domain,
    entry.action.asDeposit = some (origin, asset, dest) →
    cfg.extractDestData dest = .ok (some (recipient, domain)) →
    entry.before.storage.depositCount domain = BitVec.allOnes 64 →
      entry.outcome ≠ .ok () ∧ entry.after = entry.before
  administered : ∀ origin extrinsic, entry.action = .call origin extrinsic →
    (extrinsic.guard cfg).isSome = true →
      entry.after.storage.depositCounts = entry.before.storage.depositCounts

/-- A deposit that fails changes nothing. -/
theorem deposit_failed {origin : Origin} {asset : MultiAsset} {dest : MultiLocation}
    {state final : State L} {outcome : Except (Exec.Fault DispatchError) Unit}
    (h : deposit cfg origin asset dest state = (outcome, final)) (hfailed : outcome ≠ .ok ()) :
    final = state := by
  cases outcome with
  | ok done => exact absurd rfl hfailed
  | error fault => exact Exec.transactional_error h

/-- A deposit that succeeds adds one to the counter of its domain. -/
theorem deposit_counts (hcfg : Confined cfg) {origin : Origin} {asset : MultiAsset}
    {dest : MultiLocation} {state final : State L}
    (h : deposit cfg origin asset dest state = (.ok (), final)) :
    ∃ recipient domain, cfg.extractDestData dest = .ok (some (recipient, domain)) ∧
      state.storage.depositCount domain ≠ BitVec.allOnes 64 ∧
      (final.storage.depositCount domain).toNat = (state.storage.depositCount domain).toNat + 1 ∧
      ∀ other, other ≠ domain →
        final.storage.depositCount other = state.storage.depositCount other := by
  obtain ⟨receipt, moved, hdeposits, rfl⟩ := deposit_ok.mp h
  -- collecting the assets leaves the counters alone
  have hstorage := (collect_moves hcfg hdeposits.collected).storage
  have hcounted := hdeposits.counted
  refine ⟨receipt.recipient, receipt.destDomainId, hdeposits.destination, ?_, ?_, ?_⟩
  · rw [← hstorage]
    exact hcounted
  · rw [← hstorage, ← toNat_succ_of_ne hcounted]
    simp [Receipt.issue, Storage.depositCount]
  · intro other hother
    rw [← hstorage]
    simp [Receipt.issue, Storage.depositCount, hother]

theorem Step.counts (hcfg : Confined cfg) {point next : Point L} {entry : Entry L}
    (h : Step cfg point entry next) : entry.Counts cfg where
  failed origin asset dest hdeposit hfailed := deposit_failed (h.deposit_eq hdeposit) hfailed
  succeeded origin asset dest hdeposit hok := by
    have hdone := h.deposit_eq hdeposit
    rw [hok] at hdone
    obtain ⟨recipient, domain, hdest, -, hcount, hothers⟩ := deposit_counts hcfg hdone
    exact ⟨recipient, domain, hdest, hcount, hothers⟩
  exhausted origin asset dest recipient domain hdeposit hdest hfull := by
    have hfailed : entry.outcome ≠ .ok () := by
      intro hok
      have hdone := h.deposit_eq hdeposit
      rw [hok] at hdone
      obtain ⟨_, counted, hcounted, hroom, -⟩ := deposit_counts hcfg hdone
      rw [hdest] at hcounted
      cases hcounted
      exact hroom hfull
    exact ⟨hfailed, deposit_failed (h.deposit_eq hdeposit) hfailed⟩
  administered origin extrinsic haction hguard := by
    obtain ⟨⟨palletIndex, extrinsicName⟩, hguard⟩ := Option.isSome_iff_exists.mp hguard
    have hdispatch := h.dispatch_eq haction (.inl (Extrinsic.is_batch_of_guard hguard))
    cases houtcome : entry.outcome with
    | error fault =>
        rw [houtcome] at hdispatch
        rw [dispatch_error hdispatch]
    | ok done =>
        obtain ⟨-, -, hafter⟩ := h.guarded haction houtcome hguard
        rw [← hafter]
        exact write_deposit_counts _ _

/-- In every run from the empty storage, the nonces of the deposits to each domain are 0, 1, 2 and
so on in the order of their events, and the counter of the domain is their number. No transition
gives a nonce to a deposit that fails, touches another domain's counter, resets or wraps one. -/
theorem deposit_nonces_gapless (hcfg : Confined cfg) {version : U16} {ledger : L}
    {trace : List (Entry L)} {point : Point L}
    (hrun : Run (Step cfg) (.genesis version ledger) trace point) :
    (∀ domain, depositNonces domain point.state.events =
      List.range (point.state.storage.depositCount domain).toNat) ∧
    ∀ entry ∈ trace, entry.Counts cfg := by
  constructor
  · exact hrun.invariant (fun p => Gapless p.state) (gapless_genesis version ledger)
      fun _ _ _ hstep hgapless => hgapless.continue (hstep.effect hcfg).numbered
  · intro entry hmem
    obtain ⟨before, after, hstep⟩ := hrun.exists_step hmem
    exact hstep.counts hcfg

namespace Standalone

/-- Two deposits to domain 1, around one that exceeds the balance of its sender. -/
def countedCalls : List (Origin × Extrinsic) :=
  let large : Extrinsic := .deposit ⟨native, .fungible 100000⟩ nativeDest
  [(.signed (Vector.replicate 32 7), nativeDeposit), (.signed (Vector.replicate 32 7), large),
    (.signed (Vector.replicate 32 8), nativeDeposit)]

def countedState : State PlainLedger := dispatchAll plainConfig countedCalls feeState

theorem deposit_nonces_gapless_counted :
    ∃ trace, Run (Step plainConfig) (.genesis 1 ⟨fun _ _ => 2000⟩) trace ⟨countedState, []⟩ ∧
      (countedState.storage.depositCount 1).toNat = 2 ∧
      depositNonces 1 countedState.events = List.range 2 := by
  obtain ⟨setup, hsetup⟩ := dispatch_all_run plainConfig
    [(.root, .setMpcAddress constantSigner), (.root, .registerDomain 1 1),
      (.root, .setFee 1 native 3), (.root, .setFeeHandler 1 native .basicFeeHandler)]
    (.genesis 1 ⟨fun _ _ => 2000⟩)
  obtain ⟨trace, hrun⟩ := dispatch_all_run plainConfig countedCalls feeState
  have hall := hsetup.append hrun
  have hcount : (countedState.storage.depositCount 1).toNat = 2 := by decide +kernel
  refine ⟨_, hall, hcount, ?_⟩
  rw [← hcount]
  exact (deposit_nonces_gapless (confined_of_lift rfl) hall).1 1

end Standalone

end Sygma
