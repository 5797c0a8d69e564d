import Sygma.Runtime.Authority
import Sygma.Runtime.Parachain

/-!
# What a coalition can reach

The committee hands out access extrinsic by extrinsic, and access to `grant_access` is access to
everything else. `coalition_power` says exactly what a set of accounts can bring about by calls of
its own, after any run from an empty access map: one of them gets through the check of a registered
extrinsic, now or later, if and only if the last grant for that extrinsic or the last grant for
`grant_access` named one of them. Both runtimes register every extrinsic that is guarded, so this
covers all of them, and whatever the committee grants can be used.
-/

namespace Sygma

open Bridge

variable {L : Type} {cfg : Config L} {point next : Point L} {entry : Entry L}

/-- The pair that guards `grant_access`. -/
def grantPair (cfg : Config L) : U8 × Bytes := (cfg.accessSegregatorIndex, name "grant_access")

/-- Every extrinsic that is guarded is registered. -/
def RegistersAll (cfg : Config L) : Prop :=
  ∀ (extrinsic : Extrinsic) pair, extrinsic.guard cfg = some pair → pair ∈ cfg.extrinsics

theorem RegistersAll.grant_pair (h : RegistersAll cfg) : grantPair cfg ∈ cfg.extrinsics :=
  h (.grantAccess 0 [] (Vector.replicate 32 0)) _ rfl

/-- Accounts that are not the committee. -/
def Outsiders (cfg : Config L) (coalition : Set AccountId) : Prop :=
  ∀ account ∈ coalition, cfg.bridgeCommitteeOrigin (.signed account) = false

/-- A transition that is no call, or a call by a member of a coalition. -/
def Entry.CalledBy (coalition : Set AccountId) (entry : Entry L) : Prop :=
  ∀ origin extrinsic, entry.action = .call origin extrinsic →
    ∃ account ∈ coalition, origin = .signed account

/-- A member of a coalition holds a pair. -/
def Storage.HeldBy (storage : Storage) (coalition : Set AccountId) (pair : U8 × Bytes) : Prop :=
  ∃ account ∈ coalition, storage.extrinsicAccess.get pair = some account

section Coalition

variable {coalition : Set AccountId}

/-- A member passes the check of a registered pair exactly when it holds the pair. -/
theorem member_access_iff {storage : Storage} {pair : U8 × Bytes} {account : AccountId}
    (hregistered : pair ∈ cfg.extrinsics)
    (houtside : cfg.bridgeCommitteeOrigin (.signed account) = false) :
    hasAccess cfg storage pair.1 pair.2 (.signed account) = true ↔
      storage.extrinsicAccess.get pair = some account := by
  rw [has_access_iff]
  constructor
  · rintro (hcommittee | ⟨who, horigin, -, hholder⟩)
    · rw [houtside] at hcommittee
      cases hcommittee
    · cases horigin
      exact hholder
  · intro hholder
    exact .inr ⟨account, rfl, hregistered, hholder⟩

/-- A coalition that does not hold `grant_access` does not change the access map. -/
theorem Step.coalition_access (hcfg : Confined cfg) (houtside : Outsiders cfg coalition)
    (h : Step cfg point entry next) (hcaller : entry.CalledBy coalition)
    (hpowerless : ¬ point.state.storage.HeldBy coalition (grantPair cfg)) (pair : U8 × Bytes) :
    next.state.storage.extrinsicAccess.get pair = point.state.storage.extrinsicAccess.get pair := by
  rw [h.extrinsic_access hcfg pair]
  cases hgranted : entry.granted with
  | none => rfl
  | some grant =>
      -- a grant by a member would need the access that no member has
      obtain ⟨origin, haction, hok⟩ := Entry.granted_eq_some hgranted
      obtain ⟨account, hmember, rfl⟩ := hcaller _ _ haction
      have haccess := h.has_access haction rfl (by rw [hok]; exact fun heq => by cases heq)
      rw [h.entry_eq.1] at haccess
      rcases has_access_iff.mp haccess with hcommittee | ⟨who, horigin, -, hholder⟩
      · rw [houtside account hmember] at hcommittee
        cases hcommittee
      · cases horigin
        exact absurd ⟨account, hmember, hholder⟩ hpowerless

/-- Over a run of its own calls, a coalition that does not hold `grant_access` leaves the access map
as it was. -/
theorem coalition_access_run (hcfg : Confined cfg) (houtside : Outsiders cfg coalition)
    {start final : Point L} {trace : List (Entry L)} (hrun : Run (Step cfg) start trace final)
    (hcallers : ∀ entry ∈ trace, entry.CalledBy coalition)
    (hpowerless : ¬ start.state.storage.HeldBy coalition (grantPair cfg)) (pair : U8 × Bytes) :
    final.state.storage.extrinsicAccess.get pair =
      start.state.storage.extrinsicAccess.get pair := by
  have hsame := hrun.invariant_of_forall
    (fun point => ∀ pair, point.state.storage.extrinsicAccess.get pair =
      start.state.storage.extrinsicAccess.get pair)
    (Entry.CalledBy coalition) (fun _ => rfl) hcallers ?_
  · exact hsame pair
  · intro before entry after hstep hcaller hbefore pair
    have hstill : ¬ before.state.storage.HeldBy coalition (grantPair cfg) := by
      rintro ⟨account, hmember, hholder⟩
      exact hpowerless ⟨account, hmember, (hbefore _).symm.trans hholder⟩
    rw [hstep.coalition_access hcfg houtside hcaller hstill, hbefore]

/-- Whoever holds `grant_access` gives itself any pair with one call. -/
theorem grant_self {state : State L} {account : AccountId}
    (hregisters : RegistersAll cfg)
    (hholder : state.storage.extrinsicAccess.get (grantPair cfg) = some account)
    (pair : U8 × Bytes) :
    ∃ entry final, Step cfg ⟨state, []⟩ entry ⟨final, []⟩ ∧
      entry.action = .call (.signed account) (.grantAccess pair.1 pair.2 account) ∧
      final.storage.extrinsicAccess.get pair = some account := by
  have haccess : hasAccess cfg state.storage cfg.accessSegregatorIndex (name "grant_access")
      (.signed account) = true :=
    has_access_iff.mpr (.inr ⟨account, rfl, hregisters.grant_pair, hholder⟩)
  have hdispatch : dispatch cfg (.signed account) (.grantAccess pair.1 pair.2 account) state =
      (.ok (), _) := (dispatch_guarded rfl).mpr ⟨haccess, trivial, rfl⟩
  refine ⟨_, _, .call hdispatch (fun hbatch => by cases hbatch), rfl, ?_⟩
  simp [Extrinsic.write]

/-- After any run from an empty access map, a coalition of outsiders can get one of its members
through the check of a guarded extrinsic by its own calls if and only if the last grant for that
extrinsic or the last grant for `grant_access` named a member. -/
theorem coalition_power (hcfg : Confined cfg) (hregisters : RegistersAll cfg)
    (houtside : Outsiders cfg coalition) {start : Point L} {reached : State L}
    {trace : List (Entry L)} (hempty : start.state.storage.extrinsicAccess = .empty)
    (hrun : Run (Step cfg) start trace ⟨reached, []⟩) {extrinsic : Extrinsic} {pair : U8 × Bytes}
    (hguard : extrinsic.guard cfg = some pair) :
    (∃ more final, Run (Step cfg) ⟨reached, []⟩ more final ∧
      (∀ entry ∈ more, entry.CalledBy coalition) ∧
      ∃ account ∈ coalition,
        hasAccess cfg final.state.storage pair.1 pair.2 (.signed account) = true) ↔
    ∃ account ∈ coalition,
      lastGrant pair trace = some account ∨ lastGrant (grantPair cfg) trace = some account := by
  have hmap := access_eq_last_grant hcfg hempty hrun
  have hregistered := hregisters extrinsic pair hguard
  constructor
  · rintro ⟨more, final, hmore, hcallers, account, hmember, haccess⟩
    by_cases hpower : reached.storage.HeldBy coalition (grantPair cfg)
    · obtain ⟨holder, hholds, hholder⟩ := hpower
      exact ⟨holder, hholds, .inr ((hmap _).symm.trans hholder)⟩
    · have hheld := (member_access_iff hregistered (houtside account hmember)).mp haccess
      rw [coalition_access_run hcfg houtside hmore hcallers hpower] at hheld
      exact ⟨account, hmember, .inl ((hmap _).symm.trans hheld)⟩
  · rintro ⟨account, hmember, hlast | hlast⟩
    · refine ⟨[], _, .refl, by simp, account, hmember, ?_⟩
      exact (member_access_iff hregistered (houtside account hmember)).mpr ((hmap _).trans hlast)
    · obtain ⟨entry, final, hstep, haction, hheld⟩ :=
        grant_self hregisters ((hmap _).trans hlast) pair
      refine ⟨[entry], _, .snoc .refl hstep, ?_, account, hmember, ?_⟩
      · intro other hother origin called hcall
        rw [List.mem_singleton.mp hother, haction] at hcall
        cases hcall
        exact ⟨account, hmember, rfl⟩
      · exact (member_access_iff hregistered (houtside account hmember)).mpr hheld

end Coalition

/-! ## The runtimes -/

/-- The table of the standalone runtime has every guarded extrinsic, under the indices of its
pallets. -/
theorem registers_all_of_indices (hextrinsics : cfg.extrinsics = Standalone.registeredExtrinsics)
    (haccess : cfg.accessSegregatorIndex = 9) (hbasic : cfg.basicFeeHandlerIndex = 10)
    (hbridge : cfg.bridgeIndex = 11) (hrouter : cfg.feeHandlerRouterIndex = 12)
    (hpercentage : cfg.percentageFeeHandlerIndex = 13) : RegistersAll cfg := by
  intro extrinsic pair hguard
  rw [hextrinsics]
  cases extrinsic with
  | deposit | executeProposal => cases hguard
  | _ =>
      simp only [Extrinsic.guard, haccess, hbasic, hbridge, hrouter, hpercentage,
        Option.some.injEq] at hguard
      subst hguard
      decide +kernel

/-- Both runtimes register every extrinsic that is guarded. -/
theorem Standalone.registers_all (host : Standalone.Host) (transactor : TransactAsset L) :
    RegistersAll (Standalone.config host transactor) :=
  registers_all_of_indices rfl rfl rfl rfl rfl rfl

theorem Parachain.registers_all (host : Parachain.Host L) :
    RegistersAll (Parachain.config host) :=
  registers_all_of_indices rfl rfl rfl rfl rfl rfl

namespace Standalone

/-- The committee lets an account grant access. -/
def deputyState : State PlainLedger :=
  (dispatch plainConfig .root (.grantAccess 9 (name "grant_access") treasuryAccount)
    (.genesis 1 .empty)).2

def deputyEntry : Entry PlainLedger :=
  ⟨.genesis 1 .empty, .call .root (.grantAccess 9 (name "grant_access") treasuryAccount), .ok (),
    deputyState⟩

/-- The account can bring itself to set the key of the bridge, and a coalition without it cannot. -/
theorem coalition_power_deputy :
    (∃ more final, Run (Step plainConfig) ⟨deputyState, []⟩ more final ∧
      (∀ entry ∈ more, entry.CalledBy {treasuryAccount}) ∧
      hasAccess plainConfig final.state.storage 11 (name "set_mpc_address")
        (.signed treasuryAccount) = true) ∧
    ∀ coalition : Set AccountId, treasuryAccount ∉ coalition →
      ¬ ∃ more final, Run (Step plainConfig) ⟨deputyState, []⟩ more final ∧
        (∀ entry ∈ more, entry.CalledBy coalition) ∧
        ∃ account ∈ coalition, hasAccess plainConfig final.state.storage 11
          (name "set_mpc_address") (.signed account) = true := by
  have hgrant : dispatch plainConfig .root (.grantAccess 9 (name "grant_access") treasuryAccount)
      (.genesis 1 .empty) = (.ok (), deputyState) := Prod.ext (by decide +kernel) rfl
  have hrun : Run (Step plainConfig) ⟨.genesis 1 .empty, []⟩ [deputyEntry] ⟨deputyState, []⟩ :=
    Run.refl.snoc (.call hgrant (by decide))
  have hpower := fun coalition : Set AccountId =>
    coalition_power (confined_of_lift rfl) (registers_all _ _)
      (show Outsiders plainConfig coalition from fun _ _ => rfl) rfl hrun
      (show (Extrinsic.setMpcAddress constantSigner).guard plainConfig =
        some (11, name "set_mpc_address") from rfl)
  have hlast : lastGrant (grantPair plainConfig) [deputyEntry] = some treasuryAccount := by
    decide +kernel
  have hnone : lastGrant (11, name "set_mpc_address") [deputyEntry] = none := by decide +kernel
  refine ⟨?_, ?_⟩
  · obtain ⟨more, final, hmore, hcallers, account, rfl, haccess⟩ :=
      (hpower {treasuryAccount}).mpr ⟨treasuryAccount, rfl, .inr hlast⟩
    exact ⟨more, final, hmore, hcallers, haccess⟩
  · intro coalition houtside hreach
    obtain ⟨account, hmember, hgranted | hgranted⟩ := (hpower coalition).mp hreach
    · cases hnone.symm.trans hgranted
    · cases hlast.symm.trans hgranted
      exact houtside hmember

end Standalone

end Sygma
