import Sygma.Runtime.Machine
import Sygma.Runtime.Standalone

/-!
# Pausing

The flag of a paused domain lives in a map of its own, apart from the registered domains, and is
read by deposits, retries and proposals. `Step.keeps_paused` says which transitions can clear it;
`pause_safe` concludes that until one of them succeeds the domain is closed, whatever happens to it
and to other domains in between.
-/

namespace Sygma

open Bridge

variable {L : Type} {cfg : Config L}

/-- A call that pauses a domain. -/
def Entry.Pauses (domain : DomainID) (entry : Entry L) : Prop :=
  entry.outcome = .ok () ∧ ∃ origin, entry.action = .call origin (.pauseBridge domain) ∨
    entry.action = .call origin .pauseAllBridges ∧ entry.before.storage.registered domain = true

/-- A call that may open a paused domain again. -/
def Entry.Reopens (domain : DomainID) (entry : Entry L) : Prop :=
  entry.outcome = .ok () ∧ ∃ origin, entry.action = .call origin (.unpauseBridge domain) ∨
    entry.action = .call origin .unpauseAllBridges ∨
    ∃ addr, entry.action = .call origin (.setMpcAddress addr)

/-- A transition leaves a domain closed: deposits to it and retries for it fail and change nothing,
also those inside another transition, and its proposals only report their failure. -/
structure Entry.Closed (cfg : Config L) (domain : DomainID) (entry : Entry L) : Prop where
  deposit : ∀ origin asset dest recipient,
    entry.action.asDeposit = some (origin, asset, dest) →
    cfg.extractDestData dest = .ok (some (recipient, domain)) →
      entry.outcome ≠ .ok () ∧ entry.after = entry.before
  issued : depositNonces domain entry.after.events = depositNonces domain entry.before.events
  retry : ∀ origin height, entry.action = .call origin (.retry height domain) →
    entry.outcome ≠ .ok () ∧ entry.after = entry.before
  proposal : ∀ proposal, entry.action = .proposal proposal → proposal.originDomainId = domain →
    ∃ error, entry.outcome = .error (.error error) ∧
      entry.after = entry.before.put entry.before.storage [failureEvent error proposal]

/-- A call of `pause_all_bridges` flags the domains that are registered or have a flag, and changes
nothing else. -/
structure Entry.PausesAll (entry : Entry L) (origin : Origin) : Prop where
  paused : ∀ domain, entry.before.storage.registered domain = true ∨
    (entry.before.storage.isPaused.get domain).isSome = true →
      entry.after.storage.paused domain = true
  others : ∀ domain, entry.before.storage.registered domain = false →
    entry.before.storage.isPaused.get domain = none →
      entry.after.storage.isPaused.get domain = none
  frame : entry.after = entry.before.put
    { entry.before.storage with isPaused := entry.after.storage.isPaused }
    [.allBridgePaused (senderOrZero origin)]

variable {point next : Point L} {entry : Entry L} {domain : DomainID}

/-! ## Flags and registrations -/

/-- A domain with an entry is registered: unregistering removes the entry. -/
def Registrations (storage : Storage) : Prop :=
  ∀ domain, storage.destDomainIds.get domain ≠ some false

theorem write_registrations {storage : Storage} (h : Registrations storage)
    (extrinsic : Extrinsic) : Registrations (extrinsic.write storage) := by
  intro domain
  cases extrinsic with
  | registerDomain registered chainId =>
      simp only [Extrinsic.write, StorageMap.get_insert]
      split
      · simp
      · exact h domain
  | unregisterDomain removed chainId =>
      simp only [Extrinsic.write, StorageMap.get_remove]
      split
      · simp
      · exact h domain
  | _ => exact h domain

theorem Step.registrations (hcfg : Confined cfg) (hstep : Step cfg point entry next)
    (h : Registrations point.state.storage) : Registrations next.state.storage := by
  refine hstep.keeps hcfg Registrations (fun _ _ _ hkept => hkept) (fun _ _ _ hkept => hkept) ?_ h
  intro _ extrinsic _ _ storage _ hkept
  exact write_registrations hkept extrinsic

theorem registrations_run (hcfg : Confined cfg) {version : U16} {ledger : L} {final : Point L}
    {trace : List (Entry L)} (hrun : Run (Step cfg) (.genesis version ledger) trace final) :
    Registrations final.state.storage :=
  hrun.invariant (fun p => Registrations p.state.storage) (fun _ => by simp [Point.genesis,
    State.genesis, Storage.empty]) fun _ _ _ hstep => hstep.registrations hcfg

theorem Registrations.get_eq_none {storage : Storage} (h : Registrations storage)
    (hdomain : storage.registered domain = false) : storage.destDomainIds.get domain = none := by
  have hentry := h domain
  unfold Storage.registered StorageMap.getD at hdomain
  cases hget : storage.destDomainIds.get domain with
  | none => rfl
  | some registered =>
      rw [hget] at hdomain hentry
      cases registered with
      | true => cases hdomain
      | false => exact absurd rfl hentry

theorem Step.pauses_all (h : Step cfg point entry next)
    (hregistrations : Registrations point.state.storage) {origin : Origin}
    (haction : entry.action = .call origin .pauseAllBridges) (hok : entry.outcome = .ok ()) :
    entry.PausesAll origin := by
  obtain ⟨-, -, hafter⟩ := h.guarded haction hok rfl
  have hflags : entry.after.storage.isPaused = flagAll entry.before.storage true := by
    rw [← hafter]
    rfl
  rw [← h.entry_eq.1] at hregistrations
  refine ⟨?_, ?_, ?_⟩
  · intro domain hdomain
    unfold Storage.paused StorageMap.getD
    rw [hflags]
    rcases hdomain with hregistered | hflagged
    · rw [flag_all_of_registered true hregistered]
      rfl
    · simp [flagAll, hflagged]
  · intro domain hregistered hflag
    rw [hflags]
    simp [flagAll, hregistrations.get_eq_none hregistered, hflag]
  · rw [hflags, ← hafter]
    rfl

/-! ## A paused domain stays paused -/

/-- A guarded extrinsic clears the flag of a domain only if it may open the domain. -/
theorem write_keeps_paused {storage : Storage} (h : storage.paused domain = true)
    {extrinsic : Extrinsic} (hunpause : extrinsic ≠ .unpauseBridge domain)
    (hall : extrinsic ≠ .unpauseAllBridges) (hmpc : ∀ addr, extrinsic ≠ .setMpcAddress addr) :
    (extrinsic.write storage).paused domain = true := by
  have hflag : (storage.isPaused.get domain).isSome = true := by
    unfold Storage.paused StorageMap.getD at h
    cases hget : storage.isPaused.get domain with
    | none => simp [hget] at h
    | some flag => rfl
  cases extrinsic with
  | pauseBridge paused =>
      unfold Storage.paused at h ⊢
      simp only [Extrinsic.write, StorageMap.getD_insert]
      split
      · rfl
      · exact h
  | unpauseBridge opened =>
      have hother : domain ≠ opened := by
        rintro rfl
        exact hunpause rfl
      unfold Storage.paused at h ⊢
      simp only [Extrinsic.write, StorageMap.getD_insert, if_neg hother]
      exact h
  | pauseAllBridges => simp [Extrinsic.write, Storage.paused, StorageMap.getD, flagAll, hflag]
  | unpauseAllBridges => exact absurd rfl hall
  | setMpcAddress addr => exact absurd rfl (hmpc addr)
  | _ => exact h

theorem Step.keeps_paused (hcfg : Confined cfg) (hstep : Step cfg point entry next)
    (hopens : ¬ entry.Reopens domain) (h : point.state.storage.paused domain = true) :
    next.state.storage.paused domain = true := by
  refine hstep.keeps hcfg (fun storage => storage.paused domain = true) (fun _ _ _ hkept => hkept)
    (fun _ _ _ hkept => hkept) ?_ h
  intro origin extrinsic haction hok storage _ hkept
  refine write_keeps_paused hkept ?_ ?_ ?_
  · rintro rfl
    exact hopens ⟨hok, _, .inl haction⟩
  · rintro rfl
    exact hopens ⟨hok, _, .inr (.inl haction)⟩
  · rintro addr rfl
    exact hopens ⟨hok, _, .inr (.inr ⟨addr, haction⟩)⟩

/-- A call that pauses a domain leaves it paused. -/
theorem Step.pauses (hstep : Step cfg point entry next) (h : entry.Pauses domain) :
    next.state.storage.paused domain = true := by
  rw [← hstep.entry_eq.2]
  obtain ⟨hok, origin, haction | ⟨haction, hregistered⟩⟩ := h
  · obtain ⟨-, -, hafter⟩ := hstep.guarded haction hok rfl
    rw [← hafter]
    simp [Extrinsic.write, Storage.paused]
  · obtain ⟨-, -, hafter⟩ := hstep.guarded haction hok rfl
    rw [← hafter]
    simp [Extrinsic.write, Storage.paused, StorageMap.getD, flag_all_of_registered true hregistered]

/-! ## A paused domain is closed -/

theorem resolve_of_paused {storage : Storage} {proposal : Proposal}
    (h : storage.paused proposal.originDomainId = true) :
    resolve cfg storage proposal = .error (.error (.bridge .bridgePaused)) := by
  simp [resolve, h]

/-- No deposit to a paused domain is issued, also not by a transactor. -/
theorem Effect.issues_none {state final : State L} (h : Effect cfg state final)
    (hpaused : state.storage.paused domain = true) :
    depositNonces domain final.events = depositNonces domain state.events := by
  obtain ⟨added, hevents, hguards⟩ := h.extends_
  have hnone : depositNonces domain added = [] := by
    refine List.filterMap_eq_nil_iff.mpr ?_
    intro event hmem
    cases hevent : event.depositTo with
    | none => rfl
    | some target =>
        obtain ⟨destDomainId, nonce⟩ := target
        obtain ⟨-, hopen, -⟩ := hguards event hmem destDomainId nonce hevent
        -- a deposit found its own domain open, so it went to another
        have hother : destDomainId ≠ domain := by
          rintro rfl
          rw [hpaused] at hopen
          cases hopen
        simp [hother]
  rw [hevents, deposit_nonces_append, hnone, List.append_nil]

theorem Step.closed (hcfg : Confined cfg) (h : Step cfg point entry next)
    (hpaused : point.state.storage.paused domain = true) : entry.Closed cfg domain where
  deposit origin asset dest recipient haction hdest := by
    have hdeposit := h.deposit_eq haction
    rw [← h.entry_eq.1] at hpaused
    cases houtcome : entry.outcome with
    | error fault =>
        rw [houtcome] at hdeposit
        exact ⟨nofun, Exec.transactional_error hdeposit⟩
    | ok done =>
        rw [houtcome] at hdeposit
        obtain ⟨receipt, moved, hdeposits, -⟩ := deposit_ok.mp hdeposit
        have hsame := hdest.symm.trans hdeposits.destination
        cases hsame
        rw [hdeposits.open_] at hpaused
        cases hpaused
  issued := by
    rw [h.entry_eq.1, h.entry_eq.2]
    exact (h.effect hcfg).issues_none hpaused
  retry origin height haction := by
    have hdispatch := h.dispatch_eq haction (.inl rfl)
    rw [← h.entry_eq.1] at hpaused
    cases houtcome : entry.outcome with
    | error fault =>
        rw [houtcome] at hdispatch
        exact ⟨nofun, dispatch_error hdispatch⟩
    | ok done =>
        obtain ⟨-, ⟨-, hopen, -⟩, -⟩ := h.guarded haction houtcome rfl
        rw [hopen] at hpaused
        cases hpaused
  proposal proposal haction hdomain := by
    rw [← h.entry_eq.1, ← hdomain] at hpaused
    exact ⟨_, h.proposal_refused haction (resolve_of_paused hpaused)⟩

/-- A successful `pause_all_bridges` flags exactly the domains that are registered or have a flag.
From any call that pauses a domain to the next one that may open it, the domain is closed. -/
theorem pause_safe (hcfg : Confined cfg) {version : U16} {ledger : L} {final : Point L}
    {trace : List (Entry L)} (hrun : Run (Step cfg) (.genesis version ledger) trace final) :
    (∀ entry ∈ trace, ∀ origin, entry.action = .call origin .pauseAllBridges →
      entry.outcome = .ok () → entry.PausesAll origin) ∧
    ∀ front pause later domain, trace = front ++ pause :: later → pause.Pauses domain →
      (∀ entry ∈ later, ¬ entry.Reopens domain) → ∀ entry ∈ later, entry.Closed cfg domain := by
  constructor
  · intro entry hmem origin haction hok
    obtain ⟨front, back, rfl⟩ := List.append_of_mem hmem
    obtain ⟨before, after, hfront, hstep, -⟩ := hrun.at_entry
    exact hstep.pauses_all (registrations_run hcfg hfront) haction hok
  · intro front pause later domain htrace hpauses hopens entry hmem
    rw [htrace] at hrun
    obtain ⟨before, after, -, hpause, hlater⟩ := hrun.at_entry
    -- the flag is an invariant of the transitions that do not reopen the domain
    obtain ⟨current, next, hpaused, hstep⟩ := hlater.invariant_at
      (fun p => p.state.storage.paused domain = true) (fun entry => ¬ entry.Reopens domain)
      (hpause.pauses hpauses) hopens
      (fun _ _ _ hstep hopens => hstep.keeps_paused hcfg hopens) entry hmem
    exact hstep.closed hcfg hpaused

namespace Standalone

/-- The entry of a call on the plain ledger. -/
def callEntry (origin : Origin) (extrinsic : Extrinsic) (state : State PlainLedger) :
    Entry PlainLedger :=
  ⟨state, .call origin extrinsic, (dispatch plainConfig origin extrinsic state).1,
    (dispatch plainConfig origin extrinsic state).2⟩

theorem call_entry_step {origin : Origin} {extrinsic : Extrinsic} (state : State PlainLedger)
    (hbatch : extrinsic.isBatch = false) :
    Step plainConfig ⟨state, []⟩ (callEntry origin extrinsic state)
      ⟨(callEntry origin extrinsic state).after, []⟩ :=
  .call rfl (by rw [hbatch]; nofun)

def registeredState : State PlainLedger :=
  dispatchAll plainConfig
    [(.root, .setMpcAddress constantSigner), (.root, .registerDomain 1 1)] (.genesis 1 .empty)

/-- A domain is paused, unregistered, registered again with another chain id, and then a deposit to
it is tried. -/
def closingEntry : Entry PlainLedger := callEntry .root (.pauseBridge 1) registeredState

def unregisterEntry : Entry PlainLedger :=
  callEntry .root (.unregisterDomain 1 1) closingEntry.after

def reregisterEntry : Entry PlainLedger :=
  callEntry .root (.registerDomain 1 7) unregisterEntry.after

def depositEntry : Entry PlainLedger :=
  callEntry (.signed treasuryAccount)
    (.deposit ⟨.concrete nativeLocation, .fungible 5⟩ nativeDest) reregisterEntry.after

theorem pause_safe_reregistered :
    reregisterEntry.outcome = .ok () ∧
      ∃ front, Run (Step plainConfig) (.genesis 1 .empty)
          (front ++ closingEntry :: [unregisterEntry, reregisterEntry, depositEntry])
          ⟨depositEntry.after, []⟩ ∧
        ∀ entry ∈ [unregisterEntry, reregisterEntry, depositEntry], entry.Closed plainConfig 1 := by
  refine ⟨by decide +kernel, ?_⟩
  obtain ⟨front, hfront⟩ := dispatch_all_run plainConfig
    [(.root, .setMpcAddress constantSigner), (.root, .registerDomain 1 1)] (.genesis 1 .empty)
  have hlater : Run (Step plainConfig) ⟨registeredState, []⟩
      (closingEntry :: [unregisterEntry, reregisterEntry, depositEntry])
      ⟨depositEntry.after, []⟩ :=
    .cons (call_entry_step _ rfl) (.cons (call_entry_step _ rfl) (.cons (call_entry_step _ rfl)
      (.cons (call_entry_step _ rfl) .refl)))
  have hrun := hfront.append hlater
  have hpauses : closingEntry.Pauses 1 := ⟨by decide +kernel, .root, .inl rfl⟩
  have hopens : ∀ entry ∈ [unregisterEntry, reregisterEntry, depositEntry],
      ¬ entry.Reopens 1 := by
    intro entry hmem ⟨_, origin, haction⟩
    simp only [List.mem_cons, List.not_mem_nil, or_false] at hmem
    rcases hmem with rfl | rfl | rfl <;> rcases haction with haction | haction | ⟨_, haction⟩ <;>
      cases haction
  exact ⟨front, hrun, (pause_safe (confined_of_lift rfl) hrun).2 front closingEntry _ 1 rfl hpauses
    hopens⟩

end Standalone

end Sygma
