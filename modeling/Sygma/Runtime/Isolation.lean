import Sygma.Bridge.Settlement
import Sygma.Runtime.Machine
import Sygma.Runtime.Standalone

/-!
# Failure isolation in a batch

A batch reports each proposal by one event and goes on after a failed one. A failed proposal should
leave balances and storage as they were, but `execute_proposal_internal` first withdraws from the
reserve and then deposits, and nothing undoes the withdrawal when the deposit fails.
`batch_isolated_iff` says that this is the only way isolation is lost: over a transactor whose
calls are atomic, a batch is isolated exactly when no proposal of it is half paid.
-/

namespace Sygma

open Bridge

variable {L : Type}

/-- A proposal of a batch, its outcome, and the states around it. -/
structure Round (L : Type) where
  proposal : Proposal
  outcome : Except (Exec.Fault DispatchError) Unit
  before : State L
  after : State L

/-- The rounds of the loop over a batch. -/
def rounds (cfg : Config L) : List Proposal → State L → List (Round L)
  | [], _ => []
  | proposal :: rest, state =>
      ⟨proposal, (executeProposalInternal cfg proposal state).1, state,
        (executeOne cfg proposal state).2⟩ ::
      rounds cfg rest (executeOne cfg proposal state).2

/-- The round ended with the execution of its proposal. -/
def Round.executed (round : Round L) : Bool :=
  match round.outcome with
  | .ok () => true
  | .error _ => false

/-- The proposals of a batch that were executed, in order. -/
def executedProposals (cfg : Config L) (proposals : List Proposal) (state : State L) :
    List Proposal :=
  ((rounds cfg proposals state).filter Round.executed).map Round.proposal

/-- Failure isolation: one event per proposal, a failed proposal leaves ledger and storage as they
were, and the batch ends as if only the executed proposals had been submitted. -/
structure Isolated (cfg : Config L) (proposals : List Proposal) (state final : State L) : Prop where
  events : final.events = state.events ++
    (rounds cfg proposals state).flatMap fun round => outcomeEvents cfg round.proposal round.outcome
  single : ∀ round ∈ rounds cfg proposals state,
    ∃ event, outcomeEvents cfg round.proposal round.outcome = [event]
  failed : ∀ round ∈ rounds cfg proposals state, round.executed = false →
    round.after.ledger = round.before.ledger ∧ round.after.storage = round.before.storage
  sublist : ∃ alone,
    Exec.forEach (executedProposals cfg proposals state) (executeOne cfg) state = (.ok (), alone) ∧
      alone.ledger = final.ledger ∧ alone.storage = final.storage

/-- A proposal whose asset left the reserve and did not arrive: the withdrawal changed the ledger,
and the deposit from there failed. -/
def HalfPaid (cfg : Config L) (transactor : LedgerTransactor L) (round : Round L) : Prop :=
  ∃ payout withdrawn error left,
    resolve cfg round.before.storage round.proposal = .ok payout ∧
    cfg.isReserve payout.asset .here = true ∧
    transactor.withdrawAsset payout.asset (.ofAccount payout.reserveAccount) round.before.ledger =
      (.ok (), withdrawn) ∧
    transactor.depositAsset payout.asset payout.location withdrawn = (.error error, left) ∧
    withdrawn ≠ round.before.ledger

variable {cfg : Config L} {transactor : LedgerTransactor L}

/-- Over an atomic transactor, a proposal that fails changes the ledger only if it is half paid. -/
theorem settle_failed (hatomic : transactor.Atomic) {proposal : Proposal} {storage : Storage}
    {ledger : L} {fault : Exec.Fault DispatchError}
    (hfail : (settle cfg transactor proposal storage ledger).1 = .error fault) :
    (settle cfg transactor proposal storage ledger).2 ≠ ledger ↔
      ∃ payout withdrawn error left, resolve cfg storage proposal = .ok payout ∧
        cfg.isReserve payout.asset .here = true ∧
        transactor.withdrawAsset payout.asset (.ofAccount payout.reserveAccount) ledger =
          (.ok (), withdrawn) ∧
        transactor.depositAsset payout.asset payout.location withdrawn = (.error error, left) ∧
        withdrawn ≠ ledger := by
  unfold settle at hfail ⊢
  cases hresolve : resolve cfg storage proposal with
  | error fault => simp
  | ok payout =>
      simp only [hresolve, payLedger] at hfail ⊢
      by_cases hreserve : cfg.isReserve payout.asset .here = true
      · simp only [hreserve, if_true] at hfail ⊢
        rcases hwithdraw : transactor.withdrawAsset payout.asset
          (.ofAccount payout.reserveAccount) ledger with ⟨outcome, withdrawn⟩
        cases outcome with
        | error error =>
            have hsame := hatomic.withdraw _ _ _ _ _ hwithdraw
            simp [hwithdraw, hsame]
        | ok done =>
            rcases hdeposit : transactor.depositAsset payout.asset payout.location withdrawn with
              ⟨outcome, left⟩
            cases outcome with
            | ok done => simp [hwithdraw, hdeposit] at hfail
            | error error =>
                have hsame := hatomic.deposit _ _ _ _ _ hdeposit
                simp [hwithdraw, hdeposit, hsame, hreserve]
      · have hnot : cfg.isReserve payout.asset .here = false := by simpa using hreserve
        simp only [hnot] at hfail ⊢
        rcases hdeposit : transactor.depositAsset payout.asset payout.location ledger with
          ⟨outcome, left⟩
        cases outcome with
        | ok done => simp [hdeposit] at hfail
        | error error =>
            have hsame := hatomic.deposit _ _ _ _ _ hdeposit
            simp [hsame, hnot]

/-- The outcome of a round and the state after it, when its batch goes through. -/
theorem rounds_cons_ok (hcfg : cfg.assetTransactor = transactor.lift) {proposal : Proposal}
    {rest : List Proposal} {state final : State L}
    (h : Exec.forEach (proposal :: rest) (executeOne cfg) state = (.ok (), final)) :
    let settled := settle cfg transactor proposal state.storage state.ledger
    let after : State L :=
      ⟨markOutcome proposal state.storage settled.1,
        state.events ++ outcomeEvents cfg proposal settled.1, settled.2⟩
    (∀ reason, settled.1 ≠ .error (.panic reason)) ∧
      rounds cfg (proposal :: rest) state =
        ⟨proposal, settled.1, state, after⟩ :: rounds cfg rest after ∧
      Exec.forEach rest (executeOne cfg) after = (.ok (), final) := by
  obtain ⟨_, middle, hone, hrest⟩ := Exec.bind_ok.mp h
  obtain ⟨hpanic, rfl⟩ := (execute_one_lift hcfg).mp hone
  refine ⟨hpanic, ?_, hrest⟩
  rw [rounds, hone, execute_proposal_internal_lift hcfg]

/-- A round as the settlement of its proposal from the state before it. -/
structure Settles (cfg : Config L) (transactor : LedgerTransactor L) (round : Round L) : Prop where
  outcome : round.outcome =
    (settle cfg transactor round.proposal round.before.storage round.before.ledger).1
  noPanic : ∀ reason, round.outcome ≠ .error (.panic reason)
  storage : round.after.storage = markOutcome round.proposal round.before.storage round.outcome
  ledger : round.after.ledger =
    (settle cfg transactor round.proposal round.before.storage round.before.ledger).2

theorem rounds_settle (hcfg : cfg.assetTransactor = transactor.lift) {proposals : List Proposal}
    {state final : State L}
    (h : Exec.forEach proposals (executeOne cfg) state = (.ok (), final)) :
    ∀ round ∈ rounds cfg proposals state, Settles cfg transactor round := by
  induction proposals generalizing state with
  | nil =>
      intro round hmem
      cases hmem
  | cons proposal rest ih =>
      obtain ⟨hpanic, hrounds, hrest⟩ := rounds_cons_ok hcfg h
      intro round hmem
      rw [hrounds] at hmem
      rcases List.mem_cons.mp hmem with rfl | hmem
      · exact ⟨rfl, hpanic, rfl, rfl⟩
      · exact ih hrest round hmem

/-- A batch adds the events of its rounds, in order. -/
theorem rounds_events (hcfg : cfg.assetTransactor = transactor.lift) {proposals : List Proposal}
    {state final : State L}
    (h : Exec.forEach proposals (executeOne cfg) state = (.ok (), final)) :
    final.events = state.events ++ (rounds cfg proposals state).flatMap fun round =>
      outcomeEvents cfg round.proposal round.outcome := by
  induction proposals generalizing state with
  | nil =>
      obtain ⟨-, rfl⟩ := Exec.pure_ok.mp h
      simp [rounds]
  | cons proposal rest ih =>
      obtain ⟨-, hrounds, hrest⟩ := rounds_cons_ok hcfg h
      rw [ih hrest, hrounds, List.flatMap_cons, List.append_assoc]

/-- If failed rounds change nothing, executing only the executed proposals ends with the same
storage and ledger, also from a state that differs in its events. -/
theorem executed_alone (hcfg : cfg.assetTransactor = transactor.lift) {proposals : List Proposal}
    {state final start : State L}
    (h : Exec.forEach proposals (executeOne cfg) state = (.ok (), final))
    (hfailed : ∀ round ∈ rounds cfg proposals state, round.executed = false →
      round.after.ledger = round.before.ledger ∧ round.after.storage = round.before.storage)
    (hstorage : start.storage = state.storage) (hledger : start.ledger = state.ledger) :
    ∃ alone,
      Exec.forEach (executedProposals cfg proposals state) (executeOne cfg) start =
          (.ok (), alone) ∧
        alone.ledger = final.ledger ∧ alone.storage = final.storage := by
  induction proposals generalizing state start with
  | nil =>
      obtain ⟨-, rfl⟩ := Exec.pure_ok.mp h
      exact ⟨start, rfl, hledger, hstorage⟩
  | cons proposal rest ih =>
      obtain ⟨hpanic, hrounds, hrest⟩ := rounds_cons_ok hcfg h
      rw [hrounds] at hfailed
      have hlater := fun round hmem => hfailed round (List.mem_cons_of_mem _ hmem)
      have hfirst := hfailed _ List.mem_cons_self
      rw [executedProposals, hrounds]
      cases hsettle : (settle cfg transactor proposal state.storage state.ledger).1 with
      | error fault =>
          -- the failed proposal is left out: both sides stay where they are
          rw [hsettle] at hfirst hlater hrest
          obtain ⟨hsameLedger, hsameStorage⟩ := hfirst rfl
          exact ih hrest hlater (hstorage.trans hsameStorage.symm) (hledger.trans hsameLedger.symm)
      | ok done =>
          rw [hsettle] at hlater hrest
          let middle : State L :=
            ⟨markOutcome proposal state.storage (.ok done),
              start.events ++ outcomeEvents cfg proposal (.ok done),
              (settle cfg transactor proposal state.storage state.ledger).2⟩
          have hone : executeOne cfg proposal start = (.ok (), middle) := by
            refine (execute_one_lift hcfg).mpr ?_
            rw [hstorage, hledger]
            exact ⟨hpanic, by rw [hsettle]⟩
          obtain ⟨alone, hloop, hsame⟩ : ∃ alone,
              Exec.forEach (executedProposals cfg rest _) (executeOne cfg) middle =
                  (.ok (), alone) ∧ alone.ledger = final.ledger ∧ alone.storage = final.storage :=
            ih hrest hlater rfl rfl
          exact ⟨alone, Exec.bind_ok.mpr ⟨(), middle, hone, hloop⟩, hsame⟩

/-- A half paid proposal fails, and leaves the ledger of the withdrawal. -/
theorem HalfPaid.settle_eq (hatomic : transactor.Atomic) {round : Round L}
    (h : HalfPaid cfg transactor round) :
    (settle cfg transactor round.proposal round.before.storage round.before.ledger).1 =
        .error (.error (.bridge .transactFailed)) ∧
      (settle cfg transactor round.proposal round.before.storage round.before.ledger).2 ≠
        round.before.ledger := by
  have hfail : (settle cfg transactor round.proposal round.before.storage
      round.before.ledger).1 = .error (.error (.bridge .transactFailed)) := by
    obtain ⟨payout, withdrawn, error, left, hresolve, hreserve, hwithdraw, hdeposit, -⟩ := h
    simp [settle, payLedger, hresolve, hreserve, hwithdraw, hdeposit]
  exact ⟨hfail, (settle_failed hatomic hfail).mpr h⟩

/-- A round that did not execute its proposal ended with a fault. -/
theorem Round.executed_eq_false {round : Round L} (h : round.executed = false) :
    ∃ fault, round.outcome = .error fault := by
  unfold Round.executed at h
  split at h
  · cases h
  · exact ⟨_, ‹_›⟩

/-- A round that is settled is reported by one event. -/
theorem Settles.single {round : Round L} (h : Settles cfg transactor round) :
    ∃ event, outcomeEvents cfg round.proposal round.outcome = [event] := by
  rcases houtcome : round.outcome with fault | done
  · cases fault with
    | error error => exact ⟨_, rfl⟩
    | panic reason => exact absurd houtcome (h.noPanic reason)
  · exact ⟨_, rfl⟩

/-- Over an atomic transactor, an accepted batch is isolated exactly when no proposal of it is half
paid: withdrawn from the reserve, and then refused at its location. -/
theorem batch_isolated_iff (hatomic : transactor.Atomic)
    (hcfg : cfg.assetTransactor = transactor.lift) {origin : Origin} {proposals : List Proposal}
    {signature : Bytes} {state final : State L}
    (haccepted : dispatch cfg origin (.executeProposal proposals signature) state =
      (.ok (), final)) :
    Isolated cfg proposals state final ↔
      ∀ round ∈ rounds cfg proposals state, ¬ HalfPaid cfg transactor round := by
  obtain ⟨-, -, -, hloop⟩ := dispatch_batch_ok.mp haccepted
  have hsettles := rounds_settle hcfg hloop
  constructor
  · intro hisolated round hmem hhalf
    have hsettled := hsettles round hmem
    obtain ⟨hfail, hchanged⟩ := hhalf.settle_eq hatomic
    have hunexecuted : round.executed = false := by
      rw [Round.executed, hsettled.outcome, hfail]
    obtain ⟨hsame, -⟩ := hisolated.failed round hmem hunexecuted
    exact hchanged (hsettled.ledger.symm.trans hsame)
  · intro hwhole
    have hfailed : ∀ round ∈ rounds cfg proposals state, round.executed = false →
        round.after.ledger = round.before.ledger ∧
          round.after.storage = round.before.storage := by
      intro round hmem hunexecuted
      have hsettled := hsettles round hmem
      obtain ⟨fault, hfault⟩ := Round.executed_eq_false hunexecuted
      refine ⟨?_, by rw [hsettled.storage, hfault]; rfl⟩
      by_contra hchanged
      rw [hsettled.ledger] at hchanged
      exact hwhole round hmem ((settle_failed hatomic (hsettled.outcome ▸ hfault)).mp hchanged)
    exact
      { events := rounds_events hcfg hloop
        single := fun round hmem => (hsettles round hmem).single
        failed := hfailed
        sublist := executed_alone hcfg hloop hfailed rfl rfl }

/-- A chain with a signer and one registered domain, on which everybody holds ten of every asset. -/
def readyState : State PlainLedger :=
  dispatchAll Standalone.plainConfig
    [(.root, .setMpcAddress Standalone.constantSigner), (.root, .registerDomain 1 1)]
    (.genesis 1 ⟨fun _ _ => 10⟩)

/-- A proposal that is paid out, followed by one for an unknown resource. -/
def mixedBatch : List Proposal :=
  [⟨1, 0, Standalone.resource 0 0, createDepositData 5 [1, 0]⟩,
    ⟨1, 1, Standalone.resource 7 7, createDepositData 5 [1, 0]⟩]

/-- A proposal to the location two levels above the chain, which has no account. -/
def strandedProposal : Proposal :=
  ⟨1, 0, Standalone.resource 0 0, createDepositData 5 [2, 0]⟩

theorem batch_isolated_iff_mixed :
    ∃ final, dispatch Standalone.plainConfig .none
        (.executeProposal mixedBatch (List.replicate 65 0)) readyState = (.ok (), final) ∧
      Isolated Standalone.plainConfig mixedBatch readyState final := by
  have hok : (dispatch Standalone.plainConfig .none
      (.executeProposal mixedBatch (List.replicate 65 0)) readyState).1 = .ok () := by
    decide +kernel
  refine ⟨_, Prod.ext hok rfl, ?_⟩
  refine (batch_isolated_iff (PlainLedger.transactor_atomic Standalone.locationToAccountId) rfl
    (Prod.ext hok rfl)).mpr ?_
  intro round hmem hhalf
  have hfail := (hhalf.settle_eq (PlainLedger.transactor_atomic _)).1
  rcases List.mem_cons.mp hmem with rfl | hmem
  · exact absurd hfail (by decide +kernel)
  · obtain rfl := List.mem_singleton.mp hmem
    exact absurd hfail (by decide +kernel)

theorem stranded_proposal_drains_reserve :
    (PlainLedger.transactor Standalone.locationToAccountId).Atomic ∧
    ∃ final, dispatch Standalone.plainConfig .none
        (.executeProposal [strandedProposal] (List.replicate 65 0)) readyState = (.ok (), final) ∧
      final.events = readyState.events ++
        [failureEvent (.bridge .transactFailed) strandedProposal] ∧
      readyState.ledger.balance (.concrete Standalone.erc20TstLocation)
        Standalone.bridgeAccountOtherToken = 10 ∧
      final.ledger.balance (.concrete Standalone.erc20TstLocation)
        Standalone.bridgeAccountOtherToken = 5 ∧
      ¬ Isolated Standalone.plainConfig [strandedProposal] readyState final := by
  have hok : (dispatch Standalone.plainConfig .none
      (.executeProposal [strandedProposal] (List.replicate 65 0)) readyState).1 = .ok () := by
    decide +kernel
  refine ⟨PlainLedger.transactor_atomic _, _, Prod.ext hok rfl, by decide +kernel,
    by decide +kernel, by decide +kernel, ?_⟩
  intro hisolated
  obtain ⟨hledger, -⟩ := hisolated.failed _ List.mem_cons_self (by decide +kernel)
  have hbalance := congrArg (fun ledger => ledger.balance (.concrete Standalone.erc20TstLocation)
    Standalone.bridgeAccountOtherToken) hledger
  exact absurd hbalance (by decide +kernel)

end Sygma
