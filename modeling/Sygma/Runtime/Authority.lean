import Sygma.Runtime.Machine
import Sygma.Runtime.Standalone

/-!
# Who may administer the bridge

Access to an extrinsic is held by the account that the most recent grant for it named, and a grant
needs access itself. `access_rooted` follows this back over a run from an empty access map: whoever
passes an access check is the committee or holds a grant, and whoever made that grant was the
committee or held one in turn. Without any call of the committee nobody holds anything, and what
the guarded extrinsics write stays as it was.
-/

namespace Sygma

open Bridge

variable {L : Type} {cfg : Config L}

/-- The pair a successful grant gives access to, and the account that gets it. -/
def Entry.granted (entry : Entry L) : Option ((U8 × Bytes) × AccountId) :=
  match entry.action, entry.outcome with
  | .call _ (.grantAccess palletIndex extrinsicName who), .ok () =>
      some ((palletIndex, extrinsicName), who)
  | _, _ => none

/-- The account that the most recent successful grant for a pair named. -/
def lastGrant (pair : U8 × Bytes) (trace : List (Entry L)) : Option AccountId :=
  ((trace.filterMap Entry.granted).filter fun grant => grant.1 == pair).getLast?.map Prod.snd

/-- An origin is the committee, or signed by the account that holds the registered pair. -/
def Authorised (cfg : Config L) (trace : List (Entry L)) (origin : Origin) (pair : U8 × Bytes) :
    Prop :=
  cfg.bridgeCommitteeOrigin origin = true ∨
    ∃ account, origin = .signed account ∧ pair ∈ cfg.extrinsics ∧
      lastGrant pair trace = some account

theorem last_grant_snoc (pair : U8 × Bytes) (trace : List (Entry L)) (entry : Entry L) :
    lastGrant pair (trace ++ [entry]) =
      match entry.granted with
      | some (granted, who) => if granted = pair then some who else lastGrant pair trace
      | none => lastGrant pair trace := by
  cases hgranted : entry.granted with
  | none => simp [lastGrant, hgranted]
  | some grant =>
      by_cases hpair : grant.1 = pair
      · simp [lastGrant, hgranted, hpair]
      · simp [lastGrant, hgranted, hpair]

theorem Entry.granted_eq_some {entry : Entry L} {pair : U8 × Bytes} {who : AccountId}
    (h : entry.granted = some (pair, who)) :
    ∃ origin, entry.action = .call origin (.grantAccess pair.1 pair.2 who) ∧
      entry.outcome = .ok () := by
  unfold Entry.granted at h
  split at h
  · rename_i origin palletIndex extrinsicName account haction houtcome
    cases h
    exact ⟨origin, haction, houtcome⟩
  · cases h

/-- Only `grant_access` writes the access map. -/
theorem write_extrinsic_access (storage : Storage) (extrinsic : Extrinsic)
    (h : ∀ palletIndex extrinsicName who,
      extrinsic ≠ .grantAccess palletIndex extrinsicName who) :
    (extrinsic.write storage).extrinsicAccess = storage.extrinsicAccess := by
  cases extrinsic with
  | grantAccess palletIndex extrinsicName who => exact absurd rfl (h _ _ _)
  | _ => rfl

theorem upgrade_extrinsic_access (storage : Storage) :
    (onRuntimeUpgrade storage).extrinsicAccess = storage.extrinsicAccess := by
  rw [on_runtime_upgrade_frame]

variable {point next : Point L} {entry : Entry L}

/-- A guarded call that is not refused came from an origin with access. -/
theorem Step.has_access (h : Step cfg point entry next) {origin : Origin} {extrinsic : Extrinsic}
    {palletIndex : U8} {extrinsicName : Bytes} (haction : entry.action = .call origin extrinsic)
    (hguard : extrinsic.guard cfg = some (palletIndex, extrinsicName))
    (hpassed : entry.outcome ≠ .error (.error extrinsic.refusal)) :
    hasAccess cfg entry.before.storage palletIndex extrinsicName origin = true := by
  have hdispatch := h.dispatch_eq haction (.inl (Extrinsic.is_batch_of_guard hguard))
  by_contra hdenied
  rw [dispatch_refused hguard (by simpa using hdenied)] at hdispatch
  exact hpassed (congrArg Prod.fst hdispatch).symm

/-- A transition changes the access map by its grant, if it makes one. -/
theorem Step.extrinsic_access (hcfg : Confined cfg) (h : Step cfg point entry next)
    (pair : U8 × Bytes) :
    next.state.storage.extrinsicAccess.get pair =
      match entry.granted with
      | some (granted, who) =>
          if granted = pair then some who else point.state.storage.extrinsicAccess.get pair
      | none => point.state.storage.extrinsicAccess.get pair := by
  rw [← h.entry_eq.1, ← h.entry_eq.2]
  cases hgranted : entry.granted with
  | some grant =>
      obtain ⟨granted, who⟩ := grant
      obtain ⟨origin, haction, hok⟩ := Entry.granted_eq_some hgranted
      obtain ⟨-, -, hafter⟩ := h.guarded haction hok rfl
      rw [← hafter]
      simp only [State.put_storage, Extrinsic.write, StorageMap.get_insert]
      by_cases hpair : granted = pair
      · simp [hpair]
      · simp [hpair, Ne.symm hpair]
  | none =>
      cases h.writes hcfg with
      | user hstorage => rw [hstorage]
      | upgrade _ hstorage => rw [hstorage, upgrade_extrinsic_access]
      | administer haction hok _ _ _ hstorage =>
          rw [hstorage, write_extrinsic_access]
          rintro palletIndex extrinsicName who rfl
          simp [Entry.granted, haction, hok] at hgranted

/-- The access map holds the most recent grants. -/
theorem access_eq_last_grant (hcfg : Confined cfg) {start final : Point L} {trace : List (Entry L)}
    (hempty : start.state.storage.extrinsicAccess = .empty)
    (hrun : Run (Step cfg) start trace final) (pair : U8 × Bytes) :
    final.state.storage.extrinsicAccess.get pair = lastGrant pair trace := by
  induction hrun with
  | refl =>
      rw [hempty, StorageMap.get_empty]
      rfl
  -- map and trace take the last entry by the same case distinction
  | snoc _ hstep ih => rw [hstep.extrinsic_access hcfg, last_grant_snoc, ih]

/-- An origin that has access at the end of a run is authorised by its trace. -/
theorem authorised_of_access (hcfg : Confined cfg) {start final : Point L} {trace : List (Entry L)}
    (hempty : start.state.storage.extrinsicAccess = .empty)
    (hrun : Run (Step cfg) start trace final) {palletIndex : U8} {extrinsicName : Bytes}
    {origin : Origin}
    (haccess : hasAccess cfg final.state.storage palletIndex extrinsicName origin = true) :
    Authorised cfg trace origin (palletIndex, extrinsicName) := by
  rcases has_access_iff.mp haccess with hcommittee | ⟨account, horigin, hregistered, hholder⟩
  · exact .inl hcommittee
  · rw [access_eq_last_grant hcfg hempty hrun] at hholder
    exact .inr ⟨account, horigin, hregistered, hholder⟩

/-! ## Without the committee -/

/-- An entry that is no call of the committee. -/
def Entry.Uncommitted (cfg : Config L) (entry : Entry L) : Prop :=
  ∀ origin extrinsic, entry.action = .call origin extrinsic →
    cfg.bridgeCommitteeOrigin origin = false

/-- While nobody holds access, only the committee passes a check. -/
theorem has_access_of_empty {storage : Storage} (hempty : storage.extrinsicAccess = .empty)
    {palletIndex : U8} {extrinsicName : Bytes} {origin : Origin}
    (horigin : cfg.bridgeCommitteeOrigin origin = false) :
    hasAccess cfg storage palletIndex extrinsicName origin = false := by
  by_contra haccess
  rcases has_access_iff.mp (by simpa using haccess) with hcommittee | ⟨account, -, -, hholder⟩
  · rw [horigin] at hcommittee
    cases hcommittee
  · rw [hempty, StorageMap.get_empty] at hholder
    cases hholder

/-- While nobody holds access, what is no call of the committee keeps the access map empty, and
changes counters and executed nonces only unless it is an upgrade. -/
theorem Step.uncommitted (hcfg : Confined cfg) (h : Step cfg point entry next)
    (hcaller : entry.Uncommitted cfg) (hempty : point.state.storage.extrinsicAccess = .empty) :
    next.state.storage.extrinsicAccess = .empty ∧
      (entry.action ≠ .upgrade → next.state.storage =
        { point.state.storage with
          depositCounts := next.state.storage.depositCounts
          usedNonces := next.state.storage.usedNonces }) := by
  rw [← h.entry_eq.1] at hempty ⊢
  rw [← h.entry_eq.2]
  cases h.writes hcfg with
  | user hstorage =>
      refine ⟨?_, fun _ => hstorage⟩
      rw [hstorage]
      exact hempty
  | upgrade haction hstorage =>
      refine ⟨?_, fun hother => absurd haction hother⟩
      rw [hstorage, upgrade_extrinsic_access]
      exact hempty
  | administer haction _ _ haccess _ _ =>
      -- a guarded call would need access, which nobody has
      rw [has_access_of_empty hempty (hcaller _ _ haction)] at haccess
      cases haccess

/-- In a run without a call of the committee the access map stays empty. -/
theorem access_empty_run (hcfg : Confined cfg) {start final : Point L} {trace : List (Entry L)}
    (hrun : Run (Step cfg) start trace final)
    (hempty : start.state.storage.extrinsicAccess = .empty)
    (hcallers : ∀ entry ∈ trace, entry.Uncommitted cfg) :
    final.state.storage.extrinsicAccess = .empty :=
  hrun.invariant_of_forall (fun p => p.state.storage.extrinsicAccess = .empty)
    (Entry.Uncommitted cfg) hempty hcallers
    fun _ _ _ hstep hcaller hcurrent => (hstep.uncommitted hcfg hcaller hcurrent).1

/-- In a run of extrinsics without a call of the committee, storage changes in the counters and the
executed nonces only. -/
theorem user_storage_run (hcfg : Confined cfg) {start final : Point L} {trace : List (Entry L)}
    (hrun : Run (Step cfg) start trace final)
    (hempty : start.state.storage.extrinsicAccess = .empty)
    (hcallers : ∀ entry ∈ trace, entry.Uncommitted cfg)
    (hupgrade : ∀ entry ∈ trace, entry.action ≠ .upgrade) :
    final.state.storage =
      { start.state.storage with
        depositCounts := final.state.storage.depositCounts
        usedNonces := final.state.storage.usedNonces } := by
  induction hrun with
  | refl => rfl
  | snoc hfront hstep ih =>
      have hcallers' := fun entry hmem => hcallers entry (List.mem_append_left _ hmem)
      have hcurrent := access_empty_run hcfg hfront hempty hcallers'
      have hlast :=
        (hstep.uncommitted hcfg (hcallers _ (by simp)) hcurrent).2 (hupgrade _ (by simp))
      rw [hlast, ih hcallers' fun entry hmem => hupgrade entry (List.mem_append_left _ hmem)]

/-- Every guarded call that is not refused comes from the committee, or from the account that the
most recent grant for its registered pair named, and so does every grant. In a run without a call
of the committee no other account has access, and nothing that is guarded changes. -/
theorem access_rooted (hcfg : Confined cfg) {start final : Point L} {trace : List (Entry L)}
    (hempty : start.state.storage.extrinsicAccess = .empty)
    (hrun : Run (Step cfg) start trace final) :
    (∀ front entry back origin extrinsic palletIndex extrinsicName,
      trace = front ++ entry :: back → entry.action = .call origin extrinsic →
      extrinsic.guard cfg = some (palletIndex, extrinsicName) →
      entry.outcome ≠ .error (.error extrinsic.refusal) →
        Authorised cfg front origin (palletIndex, extrinsicName)) ∧
    (∀ front entry back pair who, trace = front ++ entry :: back →
      entry.granted = some (pair, who) →
        ∃ origin, entry.action = .call origin (.grantAccess pair.1 pair.2 who) ∧
          Authorised cfg front origin (cfg.accessSegregatorIndex, name "grant_access")) ∧
    ((∀ entry ∈ trace, entry.Uncommitted cfg) →
      (∀ palletIndex extrinsicName account,
        cfg.bridgeCommitteeOrigin (.signed account) = false →
          hasAccess cfg final.state.storage palletIndex extrinsicName (.signed account) = false) ∧
      ((∀ entry ∈ trace, entry.action ≠ .upgrade) →
        final.state.storage =
          { start.state.storage with
            depositCounts := final.state.storage.depositCounts
            usedNonces := final.state.storage.usedNonces })) := by
  have hpassed : ∀ front entry back origin extrinsic palletIndex extrinsicName,
      trace = front ++ entry :: back → entry.action = .call origin extrinsic →
      extrinsic.guard cfg = some (palletIndex, extrinsicName) →
      entry.outcome ≠ .error (.error extrinsic.refusal) →
        Authorised cfg front origin (palletIndex, extrinsicName) := by
    intro front entry back origin extrinsic palletIndex extrinsicName htrace haction hguard houtcome
    rw [htrace] at hrun
    obtain ⟨before, after, hfront, hstep, -⟩ := hrun.at_entry
    have haccess := hstep.has_access haction hguard houtcome
    rw [hstep.entry_eq.1] at haccess
    exact authorised_of_access hcfg hempty hfront haccess
  refine ⟨hpassed, ?_, ?_⟩
  · intro front entry back pair who htrace hgranted
    obtain ⟨origin, haction, hok⟩ := Entry.granted_eq_some hgranted
    exact ⟨origin, haction, hpassed front entry back origin _ _ _ htrace haction rfl
      (by rw [hok]; nofun)⟩
  · intro hcallers
    refine ⟨?_, user_storage_run hcfg hrun hempty hcallers⟩
    intro palletIndex extrinsicName account horigin
    exact has_access_of_empty (access_empty_run hcfg hrun hempty hcallers) horigin

namespace Standalone

/-- The committee lets an account pause all bridges, and the account does. -/
def grantedState : State PlainLedger :=
  (dispatch plainConfig .root
    (.grantAccess 11 (name "pause_all_bridges") treasuryAccount) (.genesis 1 .empty)).2

def grantEntry : Entry PlainLedger :=
  ⟨.genesis 1 .empty,
    .call .root (.grantAccess 11 (name "pause_all_bridges") treasuryAccount), .ok (), grantedState⟩

def pauseEntry : Entry PlainLedger :=
  ⟨grantedState, .call (.signed treasuryAccount) .pauseAllBridges, .ok (),
    (dispatch plainConfig (.signed treasuryAccount) .pauseAllBridges grantedState).2⟩

theorem access_rooted_granted :
    Run (Step plainConfig) (.genesis 1 .empty) [grantEntry, pauseEntry] ⟨pauseEntry.after, []⟩ ∧
      Authorised plainConfig [grantEntry] (.signed treasuryAccount)
        (11, name "pause_all_bridges") := by
  have hgrant : dispatch plainConfig .root
      (.grantAccess 11 (name "pause_all_bridges") treasuryAccount) (.genesis 1 .empty) =
        (.ok (), grantedState) := Prod.ext (by decide +kernel) rfl
  have hpause : dispatch plainConfig (.signed treasuryAccount) .pauseAllBridges grantedState =
      (.ok (), pauseEntry.after) := Prod.ext (by decide +kernel) rfl
  have hrun : Run (Step plainConfig) (.genesis 1 .empty) [grantEntry, pauseEntry]
      ⟨pauseEntry.after, []⟩ :=
    (Run.refl.snoc (.call hgrant (by decide))).snoc (.call hpause (by decide))
  exact ⟨hrun, (access_rooted (confined_of_lift rfl) rfl hrun).1 [grantEntry] pauseEntry []
    (.signed treasuryAccount) .pauseAllBridges 11 (name "pause_all_bridges") rfl rfl rfl nofun⟩

end Standalone

end Sygma
