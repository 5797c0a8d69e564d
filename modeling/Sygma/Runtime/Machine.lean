import Sygma.Library.Run
import Sygma.Bridge.Migration
import Sygma.Bridge.Transfers
import Sygma.Runtime.Dispatch

/-!
# Runs of a chain

A chain as a transition system. Extrinsics, calls of `transfer` by other pallets, runtime upgrades
and changes of the ledger by anybody else happen in any order; a batch of proposals is opened by
the extrinsic that submits it and then executed one proposal at a time, so that a run passes
through the states inside a batch. `dispatch_run` says that every dispatch is such a run, and
`Step.effect` says once what a transition can do to the state. Invariants of storage go through
`Step.keeps`, which leaves only the guarded extrinsics to look at.
-/

namespace Sygma

open Bridge

variable {L : Type}

/-- What happens on a chain. -/
inductive Action (L : Type) where
  | call (origin : Origin) (extrinsic : Extrinsic)
  | transfer (sender : Bytes32) (asset : MultiAsset) (dest : MultiLocation)
  | proposal (proposal : Proposal)
  | upgrade
  | external (ledger : L)

/-- The deposit an action asks for. -/
def Action.asDeposit : Action L → Option (Origin × MultiAsset × MultiLocation)
  | .call origin (.deposit asset dest) => some (origin, asset, dest)
  | .transfer sender asset dest => some (.signed sender, asset, dest)
  | _ => none

/-- A point of a run: the state, and the proposals of an accepted batch that are still to be
executed. -/
structure Point (L : Type) where
  state : State L
  pending : List Proposal

/-- The point before anything happened. -/
def Point.genesis (version : U16) (ledger : L) : Point L :=
  ⟨.genesis version ledger, []⟩

/-- What a run records of a transition: the action, its outcome, and the states around it. -/
structure Entry (L : Type) where
  before : State L
  action : Action L
  outcome : Except (Exec.Fault DispatchError) Unit
  after : State L

/-- One transition. Between the proposals of a batch nothing else happens. -/
inductive Step (cfg : Config L) : Point L → Entry L → Point L → Prop where
  | call {origin : Origin} {extrinsic : Extrinsic} {before after : State L}
      {outcome : Except (Exec.Fault DispatchError) Unit}
      (hdispatch : dispatch cfg origin extrinsic before = (outcome, after))
      (hbatch : extrinsic.isBatch = true → outcome ≠ .ok ()) :
      Step cfg ⟨before, []⟩ ⟨before, .call origin extrinsic, outcome, after⟩ ⟨after, []⟩
  /-- A batch that is accepted is opened; the call itself writes nothing else. -/
  | batch {origin : Origin} {proposals : List Proposal} {signature : Bytes}
      {before after : State L}
      (hdispatch : dispatch cfg origin (.executeProposal proposals signature) before =
        (.ok (), after)) :
      Step cfg ⟨before, []⟩
        ⟨before, .call origin (.executeProposal proposals signature), .ok (), before⟩
        ⟨before, proposals⟩
  /-- The next proposal of an open batch is executed. -/
  | proposal {proposal : Proposal} {rest : List Proposal} {before after : State L}
      (hexecute : executeOne cfg proposal before = (.ok (), after)) :
      Step cfg ⟨before, proposal :: rest⟩
        ⟨before, .proposal proposal, (executeProposalInternal cfg proposal before).1, after⟩
        ⟨after, rest⟩
  | transfer {sender : Bytes32} {asset : MultiAsset} {dest : MultiLocation}
      {before after : State L} {outcome : Except (Exec.Fault DispatchError) Unit}
      (htransfer : transfer cfg sender asset dest before = (outcome, after)) :
      Step cfg ⟨before, []⟩ ⟨before, .transfer sender asset dest, outcome, after⟩ ⟨after, []⟩
  | upgrade (before : State L) :
      Step cfg ⟨before, []⟩
        ⟨before, .upgrade, .ok (), before.put (onRuntimeUpgrade before.storage) []⟩
        ⟨before.put (onRuntimeUpgrade before.storage) [], []⟩
  | external (before : State L) (ledger : L) :
      Step cfg ⟨before, []⟩
        ⟨before, .external ledger, .ok (), { before with ledger := ledger }⟩
        ⟨{ before with ledger := ledger }, []⟩

variable {cfg : Config L} {point next : Point L} {entry : Entry L}

/-- An entry records the states around its transition. -/
theorem Step.entry_eq (h : Step cfg point entry next) :
    entry.before = point.state ∧ entry.after = next.state := by
  cases h <;> exact ⟨rfl, rfl⟩

/-- A call that opens no batch is a dispatch. -/
theorem Step.dispatch_eq (h : Step cfg point entry next) {origin : Origin} {extrinsic : Extrinsic}
    (haction : entry.action = .call origin extrinsic)
    (hbatch : extrinsic.isBatch = false ∨ entry.outcome ≠ .ok ()) :
    dispatch cfg origin extrinsic entry.before = (entry.outcome, entry.after) := by
  cases h with
  | call hdispatch =>
      cases haction
      exact hdispatch
  | batch =>
      cases haction
      rcases hbatch with hbatch | hbatch
      · cases hbatch
      · exact absurd rfl hbatch
  | proposal | transfer | upgrade | external => cases haction

/-- A batch that is accepted would be executed to its end. -/
theorem Step.batch_dispatch (h : Step cfg point entry next) {origin : Origin}
    {proposals : List Proposal} {signature : Bytes}
    (haction : entry.action = .call origin (.executeProposal proposals signature))
    (hok : entry.outcome = .ok ()) :
    ∃ final, dispatch cfg origin (.executeProposal proposals signature) entry.before =
      (.ok (), final) := by
  cases h with
  | call hdispatch hbatch =>
      cases haction
      exact absurd hok (hbatch rfl)
  | batch hdispatch =>
      cases haction
      exact ⟨_, hdispatch⟩
  | proposal | transfer | upgrade | external => cases haction

/-- An action that asks for a deposit runs it, in a storage layer. -/
theorem Step.deposit_eq (h : Step cfg point entry next) {origin : Origin} {asset : MultiAsset}
    {dest : MultiLocation} (haction : entry.action.asDeposit = some (origin, asset, dest)) :
    deposit cfg origin asset dest entry.before = (entry.outcome, entry.after) := by
  cases h with
  | call hdispatch hbatch =>
      rename_i caller extrinsic before after outcome
      cases extrinsic with
      | deposit =>
          cases haction
          rw [← hdispatch]
          unfold dispatch Extrinsic.call deposit
          rw [Exec.transactional_transactional]
      | _ => cases haction
  | transfer htransfer =>
      cases haction
      exact htransfer
  | batch | proposal | upgrade | external => cases haction

/-- Executing a list of proposals is a run through them. -/
theorem forEach_run {proposals : List Proposal} {state final : State L}
    (h : Exec.forEach proposals (executeOne cfg) state = (.ok (), final)) :
    ∃ trace, Run (Step cfg) ⟨state, proposals⟩ trace ⟨final, []⟩ := by
  induction proposals generalizing state with
  | nil =>
      obtain ⟨-, rfl⟩ := Exec.pure_ok.mp h
      exact ⟨[], .refl⟩
  | cons proposal rest ih =>
      obtain ⟨_, middle, hexecute, hrest⟩ := Exec.bind_ok.mp h
      obtain ⟨trace, hrun⟩ := ih hrest
      exact ⟨_, Run.cons (.proposal hexecute) hrun⟩

/-- Every dispatch is a run between points with no open batch. -/
theorem dispatch_run {origin : Origin} {extrinsic : Extrinsic} {state final : State L}
    {outcome : Except (Exec.Fault DispatchError) Unit}
    (h : dispatch cfg origin extrinsic state = (outcome, final)) :
    ∃ trace, Run (Step cfg) ⟨state, []⟩ trace ⟨final, []⟩ := by
  by_cases hbatch : extrinsic.isBatch = true ∧ outcome = .ok ()
  · obtain ⟨hbatch, rfl⟩ := hbatch
    cases extrinsic with
    | executeProposal proposals signature =>
        obtain ⟨-, -, -, hloop⟩ := dispatch_batch_ok.mp h
        obtain ⟨trace, hrun⟩ := forEach_run hloop
        exact ⟨_, Run.cons (.batch h) hrun⟩
    | _ => cases hbatch
  · have hother : extrinsic.isBatch = true → outcome ≠ .ok () := fun htrue hok =>
      hbatch ⟨htrue, hok⟩
    exact ⟨_, Run.snoc .refl (.call h hother)⟩

/-- Dispatch a list of extrinsics one after the other, whatever their outcomes. -/
def dispatchAll (cfg : Config L) (calls : List (Origin × Extrinsic)) (state : State L) : State L :=
  calls.foldl (fun current call => (dispatch cfg call.1 call.2 current).2) state

/-- Dispatching extrinsics one after the other is a run. -/
theorem dispatch_all_run (cfg : Config L) (calls : List (Origin × Extrinsic)) (state : State L) :
    ∃ trace, Run (Step cfg) ⟨state, []⟩ trace ⟨dispatchAll cfg calls state, []⟩ := by
  induction calls generalizing state with
  | nil => exact ⟨[], .refl⟩
  | cons call rest ih =>
      have hcall : dispatch cfg call.1 call.2 state =
          ((dispatch cfg call.1 call.2 state).1, (dispatch cfg call.1 call.2 state).2) := rfl
      obtain ⟨first, hfirst⟩ := dispatch_run hcall
      obtain ⟨trace, hrun⟩ := ih _
      exact ⟨first ++ trace, hfirst.append hrun⟩

/-- What a transition can do to the state. -/
inductive Effect (cfg : Config L) : State L → State L → Prop where
  | none (state : State L) : Effect cfg state state
  | administer {state : State L} {origin : Origin} {extrinsic : Extrinsic} {palletIndex : U8}
      {extrinsicName : Bytes}
      (hguard : extrinsic.guard cfg = some (palletIndex, extrinsicName))
      (haccess : hasAccess cfg state.storage palletIndex extrinsicName origin = true)
      (hrequires : extrinsic.requires state.storage) :
      Effect cfg state (state.put (extrinsic.write state.storage) (extrinsic.report origin))
  | carry {state final : State L} (hcarries : Carries cfg state final) : Effect cfg state final
  | execute {state paid : State L} {proposal : Proposal} {payout : Payout}
      (hresolve : resolve cfg state.storage proposal = .ok payout)
      (hcarries : Carries cfg state paid) :
      Effect cfg state
        (paid.put (setProposalExecuted paid.storage proposal.depositNonce proposal.originDomainId)
          [executionEvent cfg proposal])
  | fail {state left : State L} {proposal : Proposal} {error : DispatchError}
      (hcarries : Carries cfg state left) :
      Effect cfg state (left.put left.storage [failureEvent error proposal])
  | upgrade (state : State L) : Effect cfg state (state.put (onRuntimeUpgrade state.storage) [])

/-- Executing one proposal pays it out, marks it and reports it, or only reports its failure. -/
theorem execute_one_cases (hcfg : Confined cfg) {proposal : Proposal} {state final : State L}
    (h : executeOne cfg proposal state = (.ok (), final)) :
    (∃ payout paid, resolve cfg state.storage proposal = .ok payout ∧ Carries cfg state paid ∧
      final = paid.put
        (setProposalExecuted paid.storage proposal.depositNonce proposal.originDomainId)
        [executionEvent cfg proposal]) ∨
    ∃ error left, Carries cfg state left ∧
      final = left.put left.storage [failureEvent error proposal] := by
  rcases execute_one_ok.mp h with ⟨paid, hpaid, hfinal⟩ | ⟨error, left, hleft, hfinal⟩
  · rw [execute_proposal_internal_eq] at hpaid
    cases hresolve : resolve cfg state.storage proposal with
    | error fault => simp [hresolve] at hpaid
    | ok payout =>
        simp only [hresolve] at hpaid
        have htransfers := pay_transfers hcfg payout state
        rw [hpaid] at htransfers
        exact .inl ⟨payout, paid, rfl, htransfers.carries hcfg, hfinal.symm⟩
  · rw [execute_proposal_internal_eq] at hleft
    cases hresolve : resolve cfg state.storage proposal with
    | error fault =>
        simp only [hresolve, Prod.mk.injEq] at hleft
        obtain ⟨-, rfl⟩ := hleft
        exact .inr ⟨error, state, (Moves.refl state).carries, hfinal.symm⟩
    | ok payout =>
        simp only [hresolve] at hleft
        -- a failed payout may have called the transactor, which can transfer
        have htransfers := pay_transfers hcfg payout state
        rw [hleft] at htransfers
        exact .inr ⟨error, left, htransfers.carries hcfg, hfinal.symm⟩

/-- What dispatching an extrinsic that is no accepted batch does to the state. -/
theorem dispatch_effect (hcfg : Confined cfg) {origin : Origin} {extrinsic : Extrinsic}
    {state final : State L} {outcome : Except (Exec.Fault DispatchError) Unit}
    (h : dispatch cfg origin extrinsic state = (outcome, final))
    (hbatch : extrinsic.isBatch = true → outcome ≠ .ok ()) : Effect cfg state final := by
  cases dispatch_cases h hbatch with
  | failed => exact .none state
  | guarded hguard haccess hrequires => exact .administer hguard haccess hrequires
  | deposited hdeposit => exact .carry (deposit_carries hcfg hdeposit)

/-- Every transition has one of the listed effects. -/
theorem Step.effect (hcfg : Confined cfg) (h : Step cfg point entry next) :
    Effect cfg point.state next.state := by
  cases h with
  | call hdispatch hbatch => exact dispatch_effect hcfg hdispatch hbatch
  | batch => exact .none _
  | proposal hexecute =>
      rcases execute_one_cases hcfg hexecute with
        ⟨payout, paid, hresolve, hcarries, rfl⟩ | ⟨error, left, hcarries, rfl⟩
      · exact .execute hresolve hcarries
      · exact .fail hcarries
  | transfer htransfer =>
      exact .carry ((Transfers.transfer .refl htransfer).carries hcfg)
  | upgrade before => exact .upgrade before
  -- changes by anybody else are moves of balances without events
  | external before ledger => exact .carry (Moves.carries ⟨rfl, [], by simp⟩)

/-- The storage a transition leaves, and on whose authority: users change counters and executed
nonces only, an upgrade runs the migration, and a guarded extrinsic needs access for its write. -/
inductive Writes (cfg : Config L) (entry : Entry L) : Prop where
  | user
      (hstorage : entry.after.storage =
        { entry.before.storage with
          depositCounts := entry.after.storage.depositCounts
          usedNonces := entry.after.storage.usedNonces })
  | upgrade (haction : entry.action = .upgrade)
      (hstorage : entry.after.storage = onRuntimeUpgrade entry.before.storage)
  | administer {origin : Origin} {extrinsic : Extrinsic} {palletIndex : U8} {extrinsicName : Bytes}
      (haction : entry.action = .call origin extrinsic) (hok : entry.outcome = .ok ())
      (hguard : extrinsic.guard cfg = some (palletIndex, extrinsicName))
      (haccess : hasAccess cfg entry.before.storage palletIndex extrinsicName origin = true)
      (hrequires : extrinsic.requires entry.before.storage)
      (hstorage : entry.after.storage = extrinsic.write entry.before.storage)

/-- Transfers are within what users may write. -/
theorem Bridge.Carries.user {state final : State L} (h : Carries cfg state final) :
    final.storage =
      { state.storage with
        depositCounts := final.storage.depositCounts
        usedNonces := final.storage.usedNonces } := by
  have hstorage := h.storage
  rw [hstorage]

theorem Step.writes (hcfg : Confined cfg) (h : Step cfg point entry next) : Writes cfg entry := by
  cases h with
  | call hdispatch hbatch =>
      cases dispatch_cases hdispatch hbatch with
      | failed => exact .user rfl
      | guarded hguard haccess hrequires =>
          exact .administer rfl rfl hguard haccess hrequires rfl
      | deposited hdeposit => exact .user (deposit_carries hcfg hdeposit).user
  | batch => exact .user rfl
  | proposal hexecute =>
      rcases execute_one_cases hcfg hexecute with
        ⟨payout, paid, -, hcarries, rfl⟩ | ⟨error, left, hcarries, rfl⟩
      · refine .user ?_
        have hstorage := hcarries.storage
        simp only [State.put_storage, setProposalExecuted]
        rw [hstorage]
      · exact .user hcarries.user
  | transfer htransfer => exact .user ((Transfers.transfer .refl htransfer).carries hcfg).user
  | upgrade before => exact .upgrade rfl rfl
  | external before ledger => exact .user rfl

/-- An invariant of storage that reads neither counters, executed nonces, key nor version is kept
by a transition if the guarded extrinsic it may dispatch keeps it. -/
theorem Step.keeps (hcfg : Confined cfg) (h : Step cfg point entry next) (inv : Storage → Prop)
    (huser : ∀ storage counts nonces, inv storage →
      inv { storage with depositCounts := counts, usedNonces := nonces })
    (hupgrade : ∀ storage addr version, inv storage →
      inv { storage with mpcAddr := addr, storageVersion := version })
    (hadminister : ∀ origin extrinsic, entry.action = .call origin extrinsic →
      entry.outcome = .ok () → ∀ storage, extrinsic.requires storage → inv storage →
        inv (extrinsic.write storage))
    (hbefore : inv point.state.storage) : inv next.state.storage := by
  rw [← h.entry_eq.1] at hbefore
  rw [← h.entry_eq.2]
  cases h.writes hcfg with
  | user hstorage =>
      rw [hstorage]
      exact huser _ _ _ hbefore
  | upgrade _ hstorage =>
      rw [hstorage, on_runtime_upgrade_frame]
      exact hupgrade _ _ _ hbefore
  | administer haction hok _ _ hrequires hstorage =>
      rw [hstorage]
      exact hadminister _ _ haction hok _ hrequires hbefore

/-- A guarded extrinsic that succeeded had access and its requirements, and did its write and its
report. -/
theorem Step.guarded (h : Step cfg point entry next) {origin : Origin} {extrinsic : Extrinsic}
    {palletIndex : U8} {extrinsicName : Bytes} (haction : entry.action = .call origin extrinsic)
    (hok : entry.outcome = .ok ())
    (hguard : extrinsic.guard cfg = some (palletIndex, extrinsicName)) :
    hasAccess cfg entry.before.storage palletIndex extrinsicName origin = true ∧
      extrinsic.requires entry.before.storage ∧
      entry.before.put (extrinsic.write entry.before.storage) (extrinsic.report origin) =
        entry.after := by
  have hdispatch := h.dispatch_eq haction (.inl (Extrinsic.is_batch_of_guard hguard))
  rw [hok] at hdispatch
  exact (dispatch_guarded hguard).mp hdispatch

/-- A deposit that was issued on the way from one state to another. Marking and reporting a
proposal may follow it. -/
def Deposited (cfg : Config L) (state final : State L) (asset : MultiAsset) (receipt : Receipt)
    (event : Event) : Prop :=
  ∃ left, Issued cfg state left asset receipt event ∧ left.ledger = final.ledger ∧
    left.events <+: final.events

/-- The log of one state continues that of another, and every deposit event in between belongs to
a deposit to a domain that was open in the first. -/
def Extends (cfg : Config L) (state final : State L) : Prop :=
  ∃ added, final.events = state.events ++ added ∧
    ∀ event ∈ added, ∀ domain nonce, event.depositTo = some (domain, nonce) →
      state.storage.mpcClear = false ∧ state.storage.paused domain = false ∧
        state.storage.registered domain = true ∧
        ∃ asset receipt, Deposited cfg state final asset receipt event

theorem Bridge.Carries.extends_ {state final : State L} (h : Carries cfg state final) :
    Extends cfg state final := by
  obtain ⟨added, hevents, hcarried, -⟩ := h.events
  refine ⟨added, hevents, ?_⟩
  intro event hmem domain nonce hevent
  have hguards := hcarried event hmem
  cases event with
  | deposit =>
      cases hevent
      obtain ⟨hmpc, hopen, hregistered, asset, receipt, hissued⟩ := hguards
      exact ⟨hmpc, hopen, hregistered, asset, receipt, final, hissued, rfl, List.prefix_rfl⟩
  | _ => cases hevent

/-- Reporting something that is no deposit extends the log. -/
theorem Extends.put {state middle : State L} (h : Extends cfg state middle) (storage : Storage)
    {events : List Event} (hnone : ∀ event ∈ events, event.depositTo = none) :
    Extends cfg state (middle.put storage events) := by
  obtain ⟨added, hevents, hissued⟩ := h
  refine ⟨added ++ events, by rw [State.put_events, hevents, List.append_assoc], ?_⟩
  intro event hmem domain nonce hevent
  rcases List.mem_append.mp hmem with hmem | hmem
  · obtain ⟨hmpc, hopen, hregistered, asset, receipt, left, hissued, hledger, hprefix⟩ :=
      hissued event hmem domain nonce hevent
    exact ⟨hmpc, hopen, hregistered, asset, receipt, left, hissued, hledger,
      hprefix.trans (List.prefix_append _ _)⟩
  · rw [hnone event hmem] at hevent
    cases hevent

theorem Extends.refl (state : State L) : Extends cfg state state :=
  ⟨[], by simp⟩

/-- No guarded extrinsic reports a deposit. -/
theorem deposit_to_report (origin : Origin) (extrinsic : Extrinsic) :
    ∀ event ∈ extrinsic.report origin, event.depositTo = none := by
  cases extrinsic <;> simp [Extrinsic.report, Event.depositTo]

/-- A transition only adds to the event log, and every deposit event it adds belongs to a deposit
to an open domain. -/
theorem Effect.extends_ {state final : State L} (h : Effect cfg state final) :
    Extends cfg state final := by
  cases h with
  | none => exact .refl state
  | administer => exact (Extends.refl state).put _ (deposit_to_report _ _)
  | carry hcarries => exact hcarries.extends_
  | execute hresolve hcarries =>
      exact hcarries.extends_.put _ (by simp [executionEvent, Event.depositTo])
  | fail hcarries => exact hcarries.extends_.put _ (by simp [failureEvent, Event.depositTo])
  | upgrade => exact (Extends.refl state).put _ (by simp)

/-- A proposal that fails its checks is reported as failed, and changes nothing else. -/
theorem Step.proposal_refused {proposal : Proposal} {error : DispatchError}
    (h : Step cfg point entry next)
    (haction : entry.action = .proposal proposal)
    (hresolve : resolve cfg entry.before.storage proposal = .error (.error error)) :
    entry.outcome = .error (.error error) ∧
      entry.after = entry.before.put entry.before.storage [failureEvent error proposal] := by
  cases h with
  | proposal hexecute =>
      cases haction
      obtain ⟨hinternal, hone⟩ := execute_one_refused hresolve
      rw [hexecute] at hone
      exact ⟨by rw [hinternal], (Prod.mk.inj hone).2⟩
  | call | batch | transfer | upgrade | external => cases haction

/-- A proposal that was executed passed its checks, was paid out, and is marked. -/
theorem Step.proposal_executed {proposal : Proposal} (h : Step cfg point entry next)
    (haction : entry.action = .proposal proposal) (houtcome : entry.outcome = .ok ()) :
    ∃ payout, resolve cfg point.state.storage proposal = .ok payout ∧
      (pay cfg payout point.state).1 = .ok () ∧
      isProposalExecuted next.state.storage proposal.depositNonce proposal.originDomainId =
        true := by
  cases h with
  | proposal hexecute =>
      rename_i executed rest before after
      cases haction
      rcases execute_one_ok.mp hexecute with ⟨paid, hpaid, rfl⟩ | ⟨error, left, hleft, -⟩
      · rw [execute_proposal_internal_eq] at hpaid
        cases hresolve : resolve cfg before.storage proposal with
        | error fault => simp [hresolve] at hpaid
        | ok payout =>
            simp only [hresolve] at hpaid
            refine ⟨payout, rfl, by rw [hpaid], ?_⟩
            rw [State.put_storage, is_proposal_executed_set]
            simp
      · rw [hleft] at houtcome
        cases houtcome
  | call | batch | transfer | upgrade | external => cases haction

end Sygma
