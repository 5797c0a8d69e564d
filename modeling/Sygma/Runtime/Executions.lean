import Sygma.Runtime.Machine
import Sygma.Runtime.Standalone

/-!
# Exactly-once execution

The executed flag of an origin domain and nonce is set exactly when an execution event for them was
deposited, and at most one ever is. `Effect.executions` says what a transition does to flags and
events, `Recorded` is the invariant that ties them together, and `executions_at_most_once` is the
result over whole runs.
-/

namespace Sygma

open Bridge

/-- Whether an event reports the execution of a nonce of a domain. -/
def Event.isExecution (domain : DomainID) (nonce : DepositNonce) : Event → Bool
  | .proposalExecution originDomainId depositNonce _ =>
      domain == originDomainId && nonce == depositNonce
  | _ => false

/-- How many events report the execution of a nonce of a domain. -/
def executions (domain : DomainID) (nonce : DepositNonce) (events : List Event) : Nat :=
  events.countP (Event.isExecution domain nonce)

variable {L : Type} {cfg : Config L} {domain : DomainID} {nonce : DepositNonce}

@[simp] theorem executions_append (events more : List Event) :
    executions domain nonce (events ++ more) =
      executions domain nonce events + executions domain nonce more :=
  List.countP_append

theorem executions_eq_zero {events : List Event}
    (h : ∀ event ∈ events, event.isExecution domain nonce = false) :
    executions domain nonce events = 0 := by
  refine List.countP_eq_zero.mpr fun event hmem => ?_
  simp [h event hmem]

/-- No guarded extrinsic reports an execution. -/
theorem executions_report (origin : Origin) (extrinsic : Extrinsic) :
    executions domain nonce (extrinsic.report origin) = 0 := by
  cases extrinsic <;> rfl

/-- No transfer reports an execution. -/
theorem executions_carried {state final : State L} {added : List Event}
    (h : ∀ event ∈ added, Carried cfg state final event) :
    executions domain nonce added = 0 := by
  refine executions_eq_zero fun event hmem => ?_
  have hcarried := h event hmem
  cases event with
  | proposalExecution => cases hcarried
  | _ => rfl

/-- The executed flags read the bitmap only. -/
theorem is_proposal_executed_congr {storage other : Storage}
    (h : storage.usedNonces = other.usedNonces) (nonce : DepositNonce) (domain : DomainID) :
    isProposalExecuted storage nonce domain = isProposalExecuted other nonce domain := by
  simp only [isProposalExecuted, Storage.usedNonceWord, h]

/-- No guarded extrinsic writes the bitmap. -/
theorem write_used_nonces (storage : Storage) (extrinsic : Extrinsic) :
    (extrinsic.write storage).usedNonces = storage.usedNonces := by
  cases extrinsic <;> rfl

/-- Transfers leave flags and execution events alone. -/
theorem Bridge.Carries.executions {state final : State L} (h : Carries cfg state final)
    (domain : DomainID) (nonce : DepositNonce) :
    isProposalExecuted final.storage nonce domain =
        isProposalExecuted state.storage nonce domain ∧
      executions domain nonce final.events = executions domain nonce state.events := by
  obtain ⟨-, hstorage, added, hevents, hcarried, -⟩ := h
  refine ⟨is_proposal_executed_congr (by rw [hstorage]) _ _, ?_⟩
  rw [hevents, executions_append, executions_carried hcarried, Nat.add_zero]

/-- A transition either leaves all flags and execution events alone, or marks one proposal whose
flag was not set and reports its execution. -/
theorem Effect.executions {state final : State L} (h : Effect cfg state final) :
    (∀ domain nonce,
      isProposalExecuted final.storage nonce domain =
          isProposalExecuted state.storage nonce domain ∧
        executions domain nonce final.events = executions domain nonce state.events) ∨
    (∃ proposal : Proposal,
      isProposalExecuted state.storage proposal.depositNonce proposal.originDomainId = false ∧
      ∀ domain nonce,
        isProposalExecuted final.storage nonce domain =
            (isProposalExecuted state.storage nonce domain ||
              decide (domain = proposal.originDomainId ∧ nonce = proposal.depositNonce)) ∧
          executions domain nonce final.events = executions domain nonce state.events +
            if domain = proposal.originDomainId ∧ nonce = proposal.depositNonce then 1 else 0) := by
  cases h with
  | none => exact .inl fun _ _ => ⟨rfl, rfl⟩
  | administer =>
      refine .inl fun domain nonce => ⟨?_, by simp [executions_report]⟩
      rw [State.put_storage, is_proposal_executed_congr (write_used_nonces _ _)]
  | carry hcarries => exact .inl hcarries.executions
  | execute hresolve hcarries =>
      rename_i paid proposal payout
      refine .inr ⟨proposal, (resolve_ok.mp hresolve).2.2.1, fun domain nonce => ?_⟩
      obtain ⟨hflag, hcount⟩ := hcarries.executions domain nonce
      refine ⟨?_, ?_⟩
      · rw [State.put_storage, is_proposal_executed_set, hflag]
      · rw [State.put_events, executions_append, hcount]
        simp [Sygma.executions, executionEvent, Event.isExecution, List.countP_cons]
  | fail hcarries =>
      refine .inl fun domain nonce => ?_
      obtain ⟨hflag, hcount⟩ := hcarries.executions domain nonce
      refine ⟨hflag, ?_⟩
      rw [State.put_events, executions_append, hcount]
      simp [Sygma.executions, failureEvent, Event.isExecution]
  | upgrade =>
      refine .inl fun domain nonce => ⟨?_, by simp [Sygma.executions]⟩
      rw [State.put_storage, on_runtime_upgrade_frame]
      rfl

/-- Every flag agrees with the event log: one execution event if it is set, none otherwise. -/
def Recorded (state : State L) : Prop :=
  ∀ domain nonce, executions domain nonce state.events =
    if isProposalExecuted state.storage nonce domain then 1 else 0

theorem recorded_genesis (version : U16) (ledger : L) : Recorded (.genesis version ledger) := by
  intro domain nonce
  have hflag : isProposalExecuted (Storage.empty version) nonce domain = false :=
    Bitmap.isMarked_zero nonce
  simp [State.genesis, executions, hflag]

theorem Effect.recorded {state final : State L} (h : Effect cfg state final)
    (hrecorded : Recorded state) : Recorded final := by
  intro domain nonce
  rcases h.executions with hsame | ⟨proposal, hunset, hmark⟩
  · obtain ⟨hflag, hcount⟩ := hsame domain nonce
    rw [hcount, hflag, hrecorded]
  · obtain ⟨hflag, hcount⟩ := hmark domain nonce
    rw [hcount, hflag, hrecorded]
    by_cases hthis : domain = proposal.originDomainId ∧ nonce = proposal.depositNonce
    -- its checks found the flag unset, so this is the first execution event
    · obtain ⟨rfl, rfl⟩ := hthis
      simp [hunset]
    · simp [hthis]

/-- A flag that is set stays set. -/
theorem Effect.executed_mono {state final : State L} (h : Effect cfg state final)
    (hset : isProposalExecuted state.storage nonce domain = true) :
    isProposalExecuted final.storage nonce domain = true := by
  rcases h.executions with hsame | ⟨proposal, -, hmark⟩
  · rw [(hsame domain nonce).1, hset]
  · rw [(hmark domain nonce).1, hset, Bool.true_or]

theorem executed_mono_run (hcfg : Confined cfg) {trace : List (Entry L)} {point final : Point L}
    (hrun : Run (Step cfg) point trace final)
    (hset : isProposalExecuted point.state.storage nonce domain = true) :
    isProposalExecuted final.state.storage nonce domain = true := by
  induction hrun with
  | refl => exact hset
  | snoc _ hstep ih => exact (hstep.effect hcfg).executed_mono ih

/-- A proposal whose flag is set fails one of its checks. -/
theorem resolve_of_executed {storage : Storage} {proposal : Proposal}
    (hset : isProposalExecuted storage proposal.depositNonce proposal.originDomainId = true) :
    ∃ error, resolve cfg storage proposal = .error (.error error) := by
  unfold resolve
  rw [hset]
  split
  · exact ⟨_, rfl⟩
  · split <;> exact ⟨_, rfl⟩

/-- Over every run from the empty storage, at most one execution event is deposited for an origin
domain and nonce, the flag is set exactly when one was, and once it is set every later proposal
with this domain and nonce fails and changes nothing but the event log. Marking a nonce changes no
other flag. -/
theorem executions_at_most_once (hcfg : Confined cfg) {version : U16} {ledger : L}
    {trace : List (Entry L)} {point : Point L}
    (hrun : Run (Step cfg) (.genesis version ledger) trace point)
    (domain : DomainID) (nonce : DepositNonce) :
    executions domain nonce point.state.events ≤ 1 ∧
    (isProposalExecuted point.state.storage nonce domain = true ↔
      ∃ event ∈ point.state.events, event.isExecution domain nonce = true) ∧
    (isProposalExecuted point.state.storage nonce domain = true →
      ∀ later final, Run (Step cfg) point later final →
        isProposalExecuted final.state.storage nonce domain = true ∧
        ∀ entry ∈ later, ∀ proposal, entry.action = .proposal proposal →
          proposal.originDomainId = domain → proposal.depositNonce = nonce →
          ∃ error, entry.outcome = .error (.error error) ∧
            entry.after = entry.before.put entry.before.storage [failureEvent error proposal]) ∧
    (∀ storage other otherDomain,
      isProposalExecuted (setProposalExecuted storage nonce domain) other otherDomain =
        (isProposalExecuted storage other otherDomain ||
          decide (otherDomain = domain ∧ other = nonce))) := by
  have hrecorded : Recorded point.state :=
    hrun.invariant (fun p => Recorded p.state) (recorded_genesis version ledger)
      fun _ _ _ hstep => (hstep.effect hcfg).recorded
  have hcount := hrecorded domain nonce
  refine ⟨?_, ?_, ?_, fun storage other otherDomain =>
    is_proposal_executed_set storage nonce other domain otherDomain⟩
  · rw [hcount]
    split <;> omega
  · rw [show (∃ event ∈ point.state.events, event.isExecution domain nonce = true) ↔
      0 < executions domain nonce point.state.events from List.countP_pos_iff.symm, hcount]
    split <;> simp_all
  · intro hset later final hlater
    refine ⟨executed_mono_run hcfg hlater hset, ?_⟩
    intro entry hmem proposal haction hdomain hnonce
    -- the flag holds up to this entry, so the proposal in it is refused
    obtain ⟨front, back, rfl⟩ := List.append_of_mem hmem
    obtain ⟨before, after, hfront, hstep, -⟩ := hlater.at_entry
    have hflag := executed_mono_run hcfg hfront hset
    rw [← hstep.entry_eq.1, ← hdomain, ← hnonce] at hflag
    obtain ⟨error, hresolve⟩ := resolve_of_executed hflag
    exact ⟨error, hstep.proposal_refused haction hresolve⟩

/-- A batch that carries the same proposal twice, on a chain where its domain is registered. -/
def duplicateBatch : List (Origin × Extrinsic) :=
  let proposal : Proposal :=
    ⟨1, 64, Standalone.resource 0 0, createDepositData 5 [1, 0]⟩
  [(.root, .setMpcAddress Standalone.constantSigner), (.root, .registerDomain 1 1),
    (.none, .executeProposal [proposal, proposal] (List.replicate 65 0))]

theorem executions_at_most_once_duplicate :
    ∃ trace point, Run (Step Standalone.plainConfig) (.genesis 1 ⟨fun _ _ => 10⟩) trace point ∧
      isProposalExecuted point.state.storage 64 1 = true ∧
      executions 1 64 point.state.events ≤ 1 := by
  obtain ⟨trace, hrun⟩ := dispatch_all_run Standalone.plainConfig duplicateBatch
    (.genesis 1 ⟨fun _ _ => 10⟩)
  have hset : isProposalExecuted (dispatchAll Standalone.plainConfig duplicateBatch
      (.genesis 1 ⟨fun _ _ => 10⟩)).storage 64 1 = true := by decide +kernel
  exact ⟨trace, _, hrun, hset, (executions_at_most_once (confined_of_lift rfl) hrun 1 64).1⟩

end Sygma
