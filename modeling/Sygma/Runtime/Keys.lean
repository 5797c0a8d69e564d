import Sygma.Runtime.Executions
import Sygma.Runtime.Nonces
import Sygma.Runtime.Pausing

/-!
# The life of the MPC key

The key is set by `set_mpc_address`, which asks that it is unset, and by the migration, which runs
on every upgrade but acts at storage version 0 only. `key_lifecycle` says what this leaves possible
over a run with upgrades at any place: a key that is set at version 1 or later stays, and before a
key is set nothing is transferred.
-/

namespace Sygma

open Bridge

variable {L : Type} {cfg : Config L} {point next : Point L} {entry : Entry L}

/-! ## How the key changes -/

/-- A transition that sets the key where none was set, or an upgrade from version 0. -/
def Entry.Rekeys (entry : Entry L) : Prop :=
  (∃ origin addr, entry.action = .call origin (.setMpcAddress addr) ∧ entry.outcome = .ok () ∧
    entry.before.storage.mpcAddr = .clear ∧ entry.after.storage.mpcAddr = addr) ∨
  entry.action = .upgrade ∧ entry.before.storage.storageVersion = 0

/-- Only `set_mpc_address` writes the key, and no guarded extrinsic writes the version. -/
theorem write_mpc_addr (storage : Storage) (extrinsic : Extrinsic)
    (h : ∀ addr, extrinsic ≠ .setMpcAddress addr) :
    (extrinsic.write storage).mpcAddr = storage.mpcAddr := by
  cases extrinsic with
  | setMpcAddress addr => exact absurd rfl (h addr)
  | _ => rfl

theorem write_storage_version (storage : Storage) (extrinsic : Extrinsic) :
    (extrinsic.write storage).storageVersion = storage.storageVersion := by
  cases extrinsic <;> rfl

theorem Step.rekeys (hcfg : Confined cfg) (h : Step cfg point entry next)
    (hchanged : entry.after.storage.mpcAddr ≠ entry.before.storage.mpcAddr) : entry.Rekeys := by
  cases h.writes hcfg with
  | user hstorage =>
      rw [hstorage] at hchanged
      exact absurd rfl hchanged
  | upgrade haction hstorage =>
      refine .inr ⟨haction, ?_⟩
      by_contra hversion
      rw [hstorage, on_runtime_upgrade_other hversion] at hchanged
      exact hchanged rfl
  | administer haction hok hguard haccess hrequires hstorage =>
      rename_i origin extrinsic palletIndex extrinsicName
      by_cases hset : ∃ addr, extrinsic = .setMpcAddress addr
      · obtain ⟨addr, rfl⟩ := hset
        have hclear : entry.before.storage.mpcClear = true := hrequires
        refine .inl ⟨origin, addr, haction, hok, by simpa [Storage.mpcClear] using hclear, ?_⟩
        rw [hstorage]
        rfl
      · have hother : ∀ addr, extrinsic ≠ .setMpcAddress addr := fun addr heq => hset ⟨addr, heq⟩
        rw [hstorage, write_mpc_addr _ _ hother] at hchanged
        exact absurd rfl hchanged

/-! ## Versions -/

/-- A version other than 0 stays, and every upgrade leaves one. -/
theorem Step.storage_version (hcfg : Confined cfg) (h : Step cfg point entry next)
    (hversion : point.state.storage.storageVersion ≠ 0 ∨ entry.action = .upgrade) :
    next.state.storage.storageVersion ≠ 0 := by
  rw [← h.entry_eq.1] at hversion
  rw [← h.entry_eq.2]
  have hkept : entry.action ≠ .upgrade →
      entry.after.storage.storageVersion = entry.before.storage.storageVersion := by
    intro hother
    cases h.writes hcfg with
    | user hstorage => rw [hstorage]
    | upgrade haction _ => exact absurd haction hother
    | administer _ _ _ _ _ hstorage => rw [hstorage, write_storage_version]
  by_cases hupgrade : entry.action = .upgrade
  · cases h with
    | upgrade before =>
        show (onRuntimeUpgrade before.storage).storageVersion ≠ 0
        by_cases hzero : before.storage.storageVersion = 0
        · rw [on_runtime_upgrade_zero hzero]
          show (1 : U16) ≠ 0
          decide
        · rw [on_runtime_upgrade_other hzero]
          exact hzero
    | call | batch | proposal | transfer | external => cases hupgrade
  · rw [hkept hupgrade]
    exact hversion.resolve_right hupgrade

theorem storage_version_run (hcfg : Confined cfg) {start final : Point L} {trace : List (Entry L)}
    (hrun : Run (Step cfg) start trace final) (h : start.state.storage.storageVersion ≠ 0) :
    final.state.storage.storageVersion ≠ 0 :=
  hrun.invariant (fun p => p.state.storage.storageVersion ≠ 0) h
    fun _ _ _ hstep hversion => hstep.storage_version hcfg (.inl hversion)

/-- An upgrade at any other version changes nothing. -/
theorem Step.upgrade_eq (h : Step cfg point entry next) (haction : entry.action = .upgrade)
    (hversion : point.state.storage.storageVersion ≠ 0) : entry.after = entry.before := by
  cases h with
  | upgrade before =>
      show before.put (onRuntimeUpgrade before.storage) [] = before
      rw [on_runtime_upgrade_other hversion]
      simp [State.put]
  | call | batch | proposal | transfer | external => cases haction

/-- A key that is set at a version other than 0 stays. -/
theorem mpc_addr_run (hcfg : Confined cfg) {start final : Point L} {trace : List (Entry L)}
    (hrun : Run (Step cfg) start trace final) (hversion : start.state.storage.storageVersion ≠ 0)
    (hset : start.state.storage.mpcAddr ≠ .clear) :
    final.state.storage.mpcAddr = start.state.storage.mpcAddr := by
  induction hrun with
  | refl => rfl
  | snoc hfront hstep ih =>
      rename_i middle entry last
      by_contra hchanged
      rw [← ih, ← hstep.entry_eq.1, ← hstep.entry_eq.2] at hchanged
      rcases hstep.rekeys hcfg hchanged with ⟨_, _, _, _, hclear, _⟩ | ⟨_, hzero⟩
      · rw [hstep.entry_eq.1, ih] at hclear
        exact hset hclear
      · rw [hstep.entry_eq.1] at hzero
        exact storage_version_run hcfg hfront hversion hzero

/-! ## Before a key is set -/

/-- What a transition does while no key is set: nothing is deposited, retried, opened or executed,
and neither counters and executed nonces nor the ledger change, unless somebody else changes the
ledger. -/
structure Entry.Keyless (entry : Entry L) : Prop where
  deposit : ∀ origin asset dest, entry.action.asDeposit = some (origin, asset, dest) →
    entry.outcome ≠ .ok () ∧ entry.after = entry.before
  call : ∀ origin extrinsic, entry.action = .call origin extrinsic →
    (∃ height domain, extrinsic = .retry height domain) ∨ extrinsic = .unpauseAllBridges ∨
      (∃ proposals signature, extrinsic = .executeProposal proposals signature) →
    entry.outcome ≠ .ok () ∧ entry.after = entry.before
  counts : entry.after.storage.depositCounts = entry.before.storage.depositCounts
  executed : entry.after.storage.usedNonces = entry.before.storage.usedNonces
  ledger : (∀ ledger, entry.action ≠ .external ledger) → entry.after.ledger = entry.before.ledger

/-- Without a key no batch is open. -/
def Idle (point : Point L) : Prop :=
  point.state.storage.mpcClear = true → point.pending = []

theorem Step.idle (hcfg : Confined cfg) (h : Step cfg point entry next) (hidle : Idle point) :
    Idle next := by
  intro hclear
  cases h with
  | batch hdispatch =>
      obtain ⟨hset, -⟩ := dispatch_batch_ok.mp hdispatch
      rw [hset] at hclear
      cases hclear
  | proposal hexecute =>
      rename_i proposal rest before after
      have hstep : Step cfg ⟨before, proposal :: rest⟩ _ ⟨after, rest⟩ := .proposal hexecute
      have hkey : after.storage.mpcAddr = before.storage.mpcAddr := by
        by_contra hchanged
        rcases hstep.rekeys hcfg hchanged with ⟨_, _, haction, _⟩ | ⟨haction, _⟩ <;> cases haction
      have hbefore : before.storage.mpcClear = true := by
        unfold Storage.mpcClear at hclear ⊢
        rw [← hkey]
        exact hclear
      cases hidle hbefore
  | call | transfer | upgrade | external => rfl

theorem deposit_keyless {origin : Origin} {asset : MultiAsset} {dest : MultiLocation}
    {state final : State L} {outcome : Except (Exec.Fault DispatchError) Unit}
    (h : deposit cfg origin asset dest state = (outcome, final))
    (hclear : state.storage.mpcClear = true) : outcome ≠ .ok () ∧ final = state := by
  have hfailed : outcome ≠ .ok () := by
    rintro rfl
    obtain ⟨receipt, moved, hdeposits, -⟩ := deposit_ok.mp h
    rw [hdeposits.mpc] at hclear
    cases hclear
  exact ⟨hfailed, deposit_failed h hfailed⟩

/-- The three calls that ask for a key fail without one. -/
theorem Step.call_keyless (h : Step cfg point entry next)
    (hclear : entry.before.storage.mpcClear = true) {origin : Origin} {extrinsic : Extrinsic}
    (haction : entry.action = .call origin extrinsic)
    (hcall : (∃ height domain, extrinsic = .retry height domain) ∨
      extrinsic = .unpauseAllBridges ∨
      ∃ proposals signature, extrinsic = .executeProposal proposals signature) :
    entry.outcome ≠ .ok () ∧ entry.after = entry.before := by
  have hfailed : entry.outcome ≠ .ok () := by
    intro hok
    rcases hcall with ⟨height, domain, rfl⟩ | rfl | ⟨proposals, signature, rfl⟩
    · obtain ⟨-, ⟨hset, -⟩, -⟩ := h.guarded haction hok rfl
      rw [hset] at hclear
      cases hclear
    · obtain ⟨-, hset, -⟩ := h.guarded haction hok rfl
      have hset : entry.before.storage.mpcClear = false := hset
      rw [hset] at hclear
      cases hclear
    · obtain ⟨final, hdispatch⟩ := h.batch_dispatch haction hok
      obtain ⟨hset, -⟩ := dispatch_batch_ok.mp hdispatch
      rw [hset] at hclear
      cases hclear
  have hdispatch := h.dispatch_eq haction (.inr hfailed)
  cases houtcome : entry.outcome with
  | ok done => exact absurd houtcome hfailed
  | error fault =>
      rw [houtcome] at hdispatch
      exact ⟨nofun, dispatch_error hdispatch⟩

theorem Step.keyless (h : Step cfg point entry next) (hidle : Idle point)
    (hclear : entry.before.storage.mpcClear = true) : entry.Keyless := by
  have hdeposit : ∀ origin asset dest, entry.action.asDeposit = some (origin, asset, dest) →
      entry.outcome ≠ .ok () ∧ entry.after = entry.before :=
    fun origin asset dest haction => deposit_keyless (h.deposit_eq haction) hclear
  have hframe : entry.after.storage.depositCounts = entry.before.storage.depositCounts ∧
      entry.after.storage.usedNonces = entry.before.storage.usedNonces ∧
      ((∀ ledger, entry.action ≠ .external ledger) → entry.after.ledger = entry.before.ledger) := by
    cases h with
    | call hdispatch hbatch =>
        cases dispatch_cases hdispatch hbatch with
        | failed => exact ⟨rfl, rfl, fun _ => rfl⟩
        | guarded => exact ⟨write_deposit_counts _ _, write_used_nonces _ _, fun _ => rfl⟩
        | deposited => exact absurd rfl (hdeposit _ _ _ rfl).1
    | batch => exact ⟨rfl, rfl, fun _ => rfl⟩
    -- no batch is open while no key is set
    | proposal => cases hidle hclear
    | transfer =>
        obtain ⟨-, hsame⟩ := hdeposit _ _ _ rfl
        rw [hsame]
        exact ⟨rfl, rfl, fun _ => rfl⟩
    | upgrade before =>
        refine ⟨upgrade_deposit_counts _, ?_, fun _ => rfl⟩
        show (onRuntimeUpgrade before.storage).usedNonces = before.storage.usedNonces
        rw [on_runtime_upgrade_frame]
    | external before ledger => exact ⟨rfl, rfl, fun hother => absurd rfl (hother ledger)⟩
  obtain ⟨hcounts, hexecuted, hledger⟩ := hframe
  exact ⟨hdeposit, fun _ _ haction hcall => h.call_keyless hclear haction hcall, hcounts, hexecuted,
    hledger⟩

/-- The key changes only where none was set, by `set_mpc_address`, or by an upgrade from version 0.
Of any two upgrades the second changes nothing, and at any other version a key that is set stays.
While no key is set, nothing is transferred. -/
theorem key_lifecycle (hcfg : Confined cfg) {state : State L} {trace : List (Entry L)}
    {final : Point L} (hrun : Run (Step cfg) ⟨state, []⟩ trace final) :
    (∀ entry ∈ trace, entry.after.storage.mpcAddr ≠ entry.before.storage.mpcAddr →
      entry.Rekeys) ∧
    (∀ front upgrade middle later back,
      trace = front ++ upgrade :: (middle ++ later :: back) → upgrade.action = .upgrade →
      later.action = .upgrade → later.after = later.before) ∧
    (final.state.storage.storageVersion ≠ 0 → final.state.storage.mpcAddr ≠ .clear →
      ∀ more last, Run (Step cfg) final more last →
        last.state.storage.mpcAddr = final.state.storage.mpcAddr) ∧
    ∀ entry ∈ trace, entry.before.storage.mpcClear = true → entry.Keyless := by
  refine ⟨?_, ?_, ?_, ?_⟩
  · intro entry hmem hchanged
    obtain ⟨before, after, hstep⟩ := hrun.exists_step hmem
    exact hstep.rekeys hcfg hchanged
  · intro front upgrade middle later back htrace hupgrade hlater
    rw [htrace] at hrun
    obtain ⟨before, after, -, hfirst, hrest⟩ := hrun.at_entry
    obtain ⟨current, next, hmiddle, hsecond, -⟩ := hrest.at_entry
    have hversion := storage_version_run hcfg hmiddle (hfirst.storage_version hcfg (.inr hupgrade))
    exact hsecond.upgrade_eq hlater hversion
  · intro hversion hset more last hmore
    exact mpc_addr_run hcfg hmore hversion hset
  · intro entry hmem hclear
    obtain ⟨before, after, hidle, hstep⟩ := hrun.invariant_at Idle (fun _ => True) (fun _ => rfl)
      (fun _ _ => trivial) (fun _ _ _ hstep _ => hstep.idle hcfg) entry hmem
    exact hstep.keyless hidle hclear

namespace Standalone

/-- A chain at version 0 without a key, and the same chain after an upgrade. -/
def unkeyedState : State PlainLedger := .genesis 0 .empty

def upgradedState : State PlainLedger :=
  unkeyedState.put (onRuntimeUpgrade unkeyedState.storage) []

/-- A retry that is tried before the upgrade. -/
def earlyRetry : Entry PlainLedger := callEntry .root (.retry 5 1) unkeyedState

theorem key_lifecycle_upgraded :
    earlyRetry.outcome ≠ .ok () ∧ upgradedState.storage.mpcAddr ≠ .clear ∧
      ∀ more last, Run (Step plainConfig) ⟨upgradedState, []⟩ more last →
        last.state.storage.mpcAddr = migratedMpcAddr := by
  have hfault : earlyRetry.outcome = .error (.error (.bridge .missingMpcAddress)) := by
    decide +kernel
  have hunchanged : earlyRetry.after = unkeyedState := dispatch_error (Prod.ext hfault rfl)
  have hretry : Step plainConfig ⟨unkeyedState, []⟩ earlyRetry ⟨unkeyedState, []⟩ := by
    rw [← hunchanged]
    exact call_entry_step unkeyedState rfl
  have hrun := (Run.refl.snoc hretry).snoc (.upgrade unkeyedState)
  obtain ⟨-, -, hstays, hkeyless⟩ := key_lifecycle (confined_of_lift rfl) hrun
  have hset : upgradedState.storage.mpcAddr ≠ .clear := by decide
  exact ⟨((hkeyless earlyRetry (by simp) rfl).call .root (.retry 5 1) rfl
    (.inl ⟨5, 1, rfl⟩)).1, hset, hstays (by decide) hset⟩

end Standalone

end Sygma
