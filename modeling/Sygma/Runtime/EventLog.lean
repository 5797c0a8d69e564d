import Sygma.Library.Replay
import Sygma.Runtime.Solvency

/-!
# The event log as the record of the chain

Everybody outside a chain follows it by its events. `Storage.record` is what a follower does with
an event: the write that it reports. Over every run, the tables of the pallets are the replay of the
event log, `tables_replayed`; only the MPC address, the storage version and the pause flags are not,
because setting the address reports nothing and clears all flags. Once the address is set on a
migrated chain no such call can succeed again, and from there on the whole storage is the replay of
the events since: `storage_replayed`. Two consequences: what a domain sees of the storage depends on
its own events only, `domain_view_local`, and every fee that was collected can be checked against
the log before it, `fees_auditable`.
-/

namespace Sygma

open Bridge

variable {L M : Type}

/-! ## Following the events -/

/-- The storage after an event, as a follower of the log knows it: the write the event reports. -/
def Storage.record (storage : Storage) : Event → Storage
  | .bridgePaused domain => (Extrinsic.pauseBridge domain).write storage
  | .bridgeUnpaused domain => (Extrinsic.unpauseBridge domain).write storage
  | .allBridgePaused _ => Extrinsic.pauseAllBridges.write storage
  | .allBridgeUnpaused _ => Extrinsic.unpauseAllBridges.write storage
  | .registerDestDomain _ domain chainId => (Extrinsic.registerDomain domain chainId).write storage
  | .unregisterDestDomain _ domain chainId =>
      (Extrinsic.unregisterDomain domain chainId).write storage
  | .accessGranted palletIndex extrinsicName who =>
      (Extrinsic.grantAccess palletIndex extrinsicName who).write storage
  | .feeSet domain asset amount => (Extrinsic.setFee domain asset amount).write storage
  | .feeRateSet domain asset rate lower upper =>
      (Extrinsic.setFeeRate domain asset rate lower upper).write storage
  | .feeHandlerSet domain asset handlerType =>
      (Extrinsic.setFeeHandler domain asset handlerType).write storage
  -- the nonce of a deposit is the counter before it
  | .deposit domain _ nonce _ _ _ _ =>
      { storage with depositCounts := storage.depositCounts.insert domain (nonce + 1) }
  | .proposalExecution domain nonce _ => setProposalExecuted storage nonce domain
  | .failedHandlerExecution _ _ _ | .retry _ _ _ | .feeCollected _ _ _ _ _
  | .xcmTransferForward _ _ _ | .otherWorldTransferForward _ _ _ | .xcmTransferSend _ _ _
  | .foreign _ _ => storage

/-- Two storages with the same tables: they differ at most in the MPC address, the storage version
and the pause flags. -/
def Storage.SameTables (storage other : Storage) : Prop :=
  storage =
    { other with
      mpcAddr := storage.mpcAddr
      storageVersion := storage.storageVersion
      isPaused := storage.isPaused }

/-- Events write the tables without looking at address, version and flags. -/
theorem same_tables_stable : Replay.Stable Storage.record Storage.SameTables where
  refl _ := rfl
  trans hfirst hsecond := by
    unfold Storage.SameTables at *
    rw [hfirst, hsecond]
  step event h := by
    unfold Storage.SameTables at *
    rw [h]
    cases event <;> rfl

/-- The storage that a log reports, from an empty one. -/
def replayed (version : U16) (events : List Event) : Storage :=
  events.foldl Storage.record (Storage.empty version)

/-- A state is the replay of its new events from an earlier state, up to a relation. -/
abbrev Logged (rel : Storage → Storage → Prop) (before after : State L) : Prop :=
  Replay.Sourced Storage.record rel State.storage State.events before after

theorem Logged.refl (state : State L) : Logged Eq state state := .of_silent rfl rfl

/-- A write that its events report. -/
theorem Logged.put {state middle : State L} (h : Logged Eq state middle) {storage : Storage}
    {events : List Event} (hstorage : events.foldl Storage.record middle.storage = storage) :
    Logged Eq state (middle.put storage events) :=
  h.trans (Replay.stable_eq _) ⟨events, rfl, hstorage.symm⟩

/-- Events of other pallets report no write. -/
theorem record_foreign {events : List Event} (h : ∀ event ∈ events, event.isForeign = true)
    (storage : Storage) : events.foldl Storage.record storage = storage := by
  induction events with
  | nil => rfl
  | cons event rest ih =>
      have hevent : storage.record event = storage := by
        have hforeign := h event List.mem_cons_self
        cases event <;> first | rfl | cases hforeign
      rw [List.foldl_cons, hevent]
      exact ih fun other hmem => h other (List.mem_cons_of_mem _ hmem)

/-- A change of balances is logged. -/
theorem Bridge.Moves.logged {state final : State L} (h : Moves state final) :
    Logged Eq state final := by
  obtain ⟨hstorage, added, hevents, hforeign⟩ := h
  exact ⟨added, hevents, by rw [hstorage, record_foreign hforeign]⟩

variable {cfg : Config L}

/-- A deposit is logged: its event carries the nonce its counter is set behind. -/
theorem deposit_logged (hcfg : Confined cfg) {origin : Origin} {asset : MultiAsset}
    {dest : MultiLocation} {state final : State L}
    (h : deposit cfg origin asset dest state = (.ok (), final)) : Logged Eq state final := by
  obtain ⟨receipt, moved, hdeposits, rfl⟩ := deposit_ok.mp h
  exact (collect_moves hcfg hdeposits.collected).logged.put rfl

/-- Whatever a transactor does is logged. -/
theorem Bridge.Transfers.logged (hcfg : Confined cfg) {state final : State L}
    (h : Transfers cfg state final) : Logged Eq state final := by
  induction h with
  | refl => exact .refl state
  | moves _ hmoves ih => exact ih.trans (Replay.stable_eq _) hmoves.logged
  | transfer _ htransfer ih =>
      rename_i outcome _
      cases outcome with
      | ok done => exact ih.trans (Replay.stable_eq _) (deposit_logged hcfg htransfer)
      | error fault =>
          have hsame := Exec.transactional_error htransfer
          exact hsame ▸ ih

/-- The events of a guarded extrinsic report its write, unless it sets the MPC address. -/
theorem report_recorded (storage : Storage) (origin : Origin) {extrinsic : Extrinsic}
    (h : ∀ addr, extrinsic ≠ .setMpcAddress addr) :
    (extrinsic.report origin).foldl Storage.record storage = extrinsic.write storage := by
  cases extrinsic with
  | setMpcAddress addr => exact absurd rfl (h addr)
  | _ => rfl

/-- A transition that the log does not show: the MPC address is set, or the migration runs. -/
def Entry.Silent (entry : Entry L) : Prop :=
  (∃ origin addr, entry.action = .call origin (.setMpcAddress addr) ∧ entry.outcome = .ok () ∧
    entry.before.storage.mpcClear = true) ∨
  entry.action = .upgrade ∧ entry.before.storage.storageVersion = 0

/-- Every transition is logged, or is silent and leaves the tables as they are. -/
theorem Step.logged (hcfg : Confined cfg) {point next : Point L} {entry : Entry L}
    (h : Step cfg point entry next) :
    Logged Eq point.state next.state ∨
      entry.Silent ∧ Logged Storage.SameTables point.state next.state := by
  cases h with
  | call hdispatch hbatch =>
      cases dispatch_cases hdispatch hbatch with
      | failed => exact .inl (.refl _)
      | guarded hguard haccess hrequires =>
          rename_i origin extrinsic before palletIndex extrinsicName
          by_cases hset : ∃ addr, extrinsic = .setMpcAddress addr
          · obtain ⟨addr, rfl⟩ := hset
            exact .inr ⟨.inl ⟨origin, addr, rfl, rfl, hrequires⟩, [], rfl, rfl⟩
          · refine .inl ((Logged.refl before).put (report_recorded _ _ ?_))
            exact fun addr heq => hset ⟨addr, heq⟩
      | deposited hdeposit => exact .inl (deposit_logged hcfg hdeposit)
  | batch => exact .inl (.refl _)
  | proposal hexecute =>
      rcases execute_one_cases hcfg hexecute with
        ⟨payout, paid, -, hcarries, rfl⟩ | ⟨error, left, hcarries, rfl⟩
      · exact .inl ((hcarries.transfers.logged hcfg).put rfl)
      · exact .inl ((hcarries.transfers.logged hcfg).put rfl)
  | transfer htransfer => exact .inl ((Transfers.transfer .refl htransfer).logged hcfg)
  | upgrade before =>
      by_cases hversion : before.storage.storageVersion = 0
      · refine .inr ⟨.inr ⟨rfl, hversion⟩, [], rfl, ?_⟩
        rw [State.put_storage, on_runtime_upgrade_zero hversion]
        rfl
      · exact .inl ((Logged.refl before).put (on_runtime_upgrade_other hversion).symm)
  | external before ledger => exact .inl (.of_silent rfl rfl)

/-- In any case the tables are logged. -/
theorem Step.logged_tables (hcfg : Confined cfg) {point next : Point L} {entry : Entry L}
    (h : Step cfg point entry next) : Logged Storage.SameTables point.state next.state := by
  rcases h.logged hcfg with hlogged | ⟨-, htables⟩
  · exact hlogged.weaken same_tables_stable
  · exact htables

/-- The tables are logged over a whole run. -/
theorem logged_run (hcfg : Confined cfg) {start point : Point L} {trace : List (Entry L)}
    (hrun : Run (Step cfg) start trace point) :
    Logged Storage.SameTables start.state point.state := by
  have hsourced : Replay.Sourced Storage.record Storage.SameTables
      (fun p : Point L => p.state.storage) (fun p => p.state.events) start point :=
    .of_run same_tables_stable (fun _ _ _ hstep => hstep.logged_tables hcfg) hrun
  exact hsourced

/-- In every reachable state, the tables of the pallets are those that its events report: only the
MPC address, the storage version and the pause flags cannot be read off the log. -/
theorem tables_replayed (hcfg : Confined cfg) {version : U16} {ledger : L}
    {trace : List (Entry L)} {point : Point L}
    (hrun : Run (Step cfg) (.genesis version ledger) trace point) :
    point.state.storage.SameTables (replayed version point.state.events) := by
  obtain ⟨added, hevents, htables⟩ := logged_run hcfg hrun
  rw [hevents]
  exact htables

namespace Standalone

/-- The calls that open domain 1 to a fee of 3 on the native asset, and a deposit. -/
def loggedCalls : List (Origin × Extrinsic) :=
  [(.root, .setMpcAddress constantSigner), (.root, .registerDomain 1 1),
    (.root, .setFee 1 native 3), (.root, .setFeeHandler 1 native .basicFeeHandler),
    (.signed (Vector.replicate 32 7), nativeDeposit)]

def loggedState : State PlainLedger :=
  dispatchAll plainConfig loggedCalls (.genesis 1 ⟨fun _ _ => 2000⟩)

/-- The counter of the deposit is read off the log; the address is not in it. -/
theorem tables_replayed_deposit :
    loggedState.storage.SameTables (replayed 1 loggedState.events) ∧
      loggedState.storage.depositCount 1 = 1 ∧
      (replayed 1 loggedState.events).mpcClear = true ∧ loggedState.storage.mpcClear = false := by
  obtain ⟨trace, hrun⟩ := dispatch_all_run plainConfig loggedCalls (.genesis 1 ⟨fun _ _ => 2000⟩)
  exact ⟨tables_replayed (confined_of_lift rfl) hrun, by decide +kernel, by decide +kernel,
    by decide +kernel⟩

end Standalone

/-! ## Since the address is set -/

/-- The MPC address is set and the migration is done. -/
def Keyed (point : Point L) : Prop :=
  point.state.storage.mpcClear = false ∧ point.state.storage.storageVersion ≠ 0

/-- No event reports a write to the address or the version. -/
theorem record_key (events : List Event) (storage : Storage) :
    (events.foldl Storage.record storage).mpcAddr = storage.mpcAddr ∧
      (events.foldl Storage.record storage).storageVersion = storage.storageVersion := by
  induction events generalizing storage with
  | nil => exact ⟨rfl, rfl⟩
  | cons event rest ih =>
      have hevent : (storage.record event).mpcAddr = storage.mpcAddr ∧
          (storage.record event).storageVersion = storage.storageVersion := by
        cases event <;> exact ⟨rfl, rfl⟩
      rw [List.foldl_cons, (ih _).1, (ih _).2]
      exact hevent

/-- From a point with an address, a transition is logged and keeps the address. -/
theorem Step.logged_keyed (hcfg : Confined cfg) {point next : Point L} {entry : Entry L}
    (h : Step cfg point entry next) (hkeyed : Keyed point) :
    Logged Eq point.state next.state ∧ Keyed next := by
  rcases h.logged hcfg with hlogged | ⟨hsilent, -⟩
  · refine ⟨hlogged, ?_⟩
    obtain ⟨added, -, hstorage⟩ := hlogged
    unfold Keyed Storage.mpcClear
    rw [hstorage, (record_key _ _).1, (record_key _ _).2]
    exact hkeyed
  · -- a silent transition needs an unset address or the old version
    rw [Entry.Silent, h.entry_eq.1] at hsilent
    rcases hsilent with ⟨_, _, _, _, hclear⟩ | ⟨_, hversion⟩
    · rw [hkeyed.1] at hclear
      cases hclear
    · exact absurd hversion hkeyed.2

/-- Once the MPC address is set on a migrated chain, the whole storage is the replay of the events
since then. -/
theorem storage_replayed (hcfg : Confined cfg) {start point : Point L} {trace : List (Entry L)}
    (hkeyed : Keyed start) (hrun : Run (Step cfg) start trace point) :
    ∃ added, point.state.events = start.state.events ++ added ∧
      point.state.storage = added.foldl Storage.record start.state.storage := by
  have hboth : Logged Eq start.state point.state ∧ Keyed point := by
    induction hrun with
    | refl => exact ⟨.refl _, hkeyed⟩
    | snoc _ hlast ih =>
        obtain ⟨hlogged, hkept⟩ := hlast.logged_keyed hcfg ih.2
        exact ⟨ih.1.trans (Replay.stable_eq _) hlogged, hkept⟩
  exact hboth.1

namespace Standalone

/-- A deposit and its return are replayed from the state before them. -/
theorem storage_replayed_return :
    Keyed ⟨feeState, []⟩ ∧
      ∃ added, returnedState.events = feeState.events ++ added ∧
        returnedState.storage = added.foldl Storage.record feeState.storage := by
  have hkeyed : Keyed ⟨feeState, []⟩ := ⟨by decide +kernel, by decide +kernel⟩
  exact ⟨hkeyed, storage_replayed (confined_of_lift rfl) hkeyed return_trace_run⟩

end Standalone

/-! ## What a domain sees -/

/-- What the tables say about a domain: whether it is registered and as which chain, its deposit
counter, the words of its executed nonces, and its fees. -/
@[ext] structure DomainView where
  registered : Bool
  chainId : Option ChainID
  depositCount : DepositNonce
  usedNonceWord : DepositNonce → U64
  fee : AssetId → Option U128
  feeRate : AssetId → Option (U32 × U128 × U128)
  handlerType : AssetId → Option FeeHandlerType

def Storage.domainView (storage : Storage) (domain : DomainID) : DomainView where
  registered := storage.registered domain
  chainId := storage.destChainIds.get domain
  depositCount := storage.depositCount domain
  usedNonceWord word := storage.usedNonceWord domain word
  fee asset := storage.assetFees.get (domain, asset)
  feeRate asset := storage.assetFeeRate.get (domain, asset)
  handlerType asset := storage.handlerType.get (domain, asset)

/-- Whether an event is about a domain. -/
def Event.concerns (domain : DomainID) : Event → Bool
  | .registerDestDomain _ other _ | .unregisterDestDomain _ other _ | .feeSet other _ _
  | .feeRateSet other _ _ _ _ | .feeHandlerSet other _ _ | .deposit other _ _ _ _ _ _
  | .proposalExecution other _ _ => other == domain
  | _ => false

/-- What a domain knows after an event about it. -/
def DomainView.record (view : DomainView) : Event → DomainView
  | .registerDestDomain _ _ chainId => { view with registered := true, chainId := some chainId }
  | .unregisterDestDomain _ _ _ => { view with registered := false, chainId := none }
  | .feeSet _ asset amount => { view with fee := Function.update view.fee asset (some amount) }
  | .feeRateSet _ asset rate lower upper =>
      { view with feeRate := Function.update view.feeRate asset (some (rate, lower, upper)) }
  | .feeHandlerSet _ asset handlerType =>
      { view with handlerType := Function.update view.handlerType asset (some handlerType) }
  | .deposit _ _ nonce _ _ _ _ => { view with depositCount := nonce + 1 }
  | .proposalExecution _ nonce _ =>
      { view with
        usedNonceWord := Function.update view.usedNonceWord (nonce / 64#64)
          (view.usedNonceWord (nonce / 64#64) ||| (1#64 <<< (nonce % 64#64))) }
  | _ => view

theorem Storage.SameTables.domain_view {storage other : Storage} (h : storage.SameTables other)
    (domain : DomainID) : storage.domainView domain = other.domainView domain := by
  rw [h]
  rfl

/-- What a domain sees after an event is what it knows if the event is about it, and what it saw
before otherwise. -/
theorem domain_view_record (domain : DomainID) (storage : Storage) (event : Event) :
    (storage.record event).domainView domain =
      if event.concerns domain then (storage.domainView domain).record event
      else storage.domainView domain := by
  cases event with
  | registerDestDomain _ other | unregisterDestDomain _ other | feeSet other | feeRateSet other
    | feeHandlerSet other | deposit other =>
      by_cases hdomain : domain = other
      · subst hdomain
        -- field by field; the fees are compared asset by asset
        ext <;> simp [Event.concerns, DomainView.record, Storage.record, Extrinsic.write,
          Storage.domainView, Storage.registered, Storage.depositCount, Storage.usedNonceWord,
          StorageMap.getD, Function.update_apply]
      · ext <;> simp [Event.concerns, Storage.record, Extrinsic.write, Storage.domainView,
          Storage.registered, Storage.depositCount, Storage.usedNonceWord, StorageMap.getD,
          hdomain, Ne.symm hdomain]
  | proposalExecution other =>
      by_cases hdomain : domain = other
      · subst hdomain
        ext1
        case usedNonceWord =>
          funext word
          simp [Event.concerns, DomainView.record, Storage.record, Storage.domainView,
            Storage.usedNonceWord, setProposalExecuted, Function.update_apply]
        all_goals simp [Event.concerns, DomainView.record, Storage.record, Storage.domainView,
          Storage.registered, Storage.depositCount, setProposalExecuted]
      · ext1 <;> simp [Event.concerns, Storage.record, Storage.domainView, Storage.registered,
          Storage.depositCount, Storage.usedNonceWord, setProposalExecuted, hdomain,
          Ne.symm hdomain]
  | _ => rfl

/-- What the tables say about a domain follows from the events about that domain, whatever else
happens on the chain. -/
theorem domain_view_local (hcfg : Confined cfg) {start point : Point L} {trace : List (Entry L)}
    (hrun : Run (Step cfg) start trace point) :
    ∃ added, point.state.events = start.state.events ++ added ∧
      ∀ domain, point.state.storage.domainView domain =
        (added.filter fun event => event.concerns domain).foldl DomainView.record
          (start.state.storage.domainView domain) := by
  obtain ⟨added, hevents, htables⟩ := logged_run hcfg hrun
  refine ⟨added, hevents, ?_⟩
  intro domain
  rw [htables.domain_view domain]
  exact Replay.look_foldl_filter (fun storage : Storage => storage.domainView domain)
    (fun event => event.concerns domain) DomainView.record (domain_view_record domain) added _

namespace Standalone

/-- A deposit to domain 1 and its return: the counter and the executed nonce of the domain follow
from the two events about it. -/
theorem domain_view_local_return :
    ∃ added, returnedState.events = feeState.events ++ added ∧
      ∀ domain, returnedState.storage.domainView domain =
        (added.filter fun event => event.concerns domain).foldl DomainView.record
          (feeState.storage.domainView domain) :=
  domain_view_local (confined_of_lift rfl) return_trace_run

end Standalone

/-! ## Auditing the fees -/

/-- Whether an event reports a collected fee. -/
def Event.isFee : Event → Bool
  | .feeCollected _ _ _ _ _ => true
  | _ => false

/-- A reported fee is in order behind a log: the log ends with the deposit it was charged for, which
carries the next nonce of its domain, and the fee is what the router asks for some amount of the
asset according to the log before. The data of the deposit carries what is left of that amount. -/
def Charged (cfg : Config L) (version : U16) (log : List Event) (payer : AccountId)
    (domain : DomainID) (resourceId : ResourceId) (fee : U128) (asset : AssetId) : Prop :=
  ∃ earlier amount published recipient,
    log = earlier ++ [.deposit domain resourceId ((replayed version earlier).depositCount domain)
      payer .fungibleTransfer (createDepositData published recipient) []] ∧
    (replayed version earlier).registered domain = true ∧
    extractAsset cfg ⟨asset, .fungible amount⟩ = some (resourceId, amount, .fungibleTransfer) ∧
    FeeHandlerRouter.getFee (replayed version earlier) domain ⟨asset, .fungible amount⟩ =
      some fee ∧
    fee < amount ∧
    cfg.decimalConverter.convertTo ⟨asset, .fungible (amount - fee)⟩ = .ok (some published)

/-- Every fee reported in a log is in order behind the events before it. -/
def Audited (cfg : Config L) (version : U16) (log : List Event) : Prop :=
  ∀ front payer domain resourceId fee asset back,
    log = front ++ .feeCollected payer domain resourceId fee asset :: back →
      Charged cfg version front payer domain resourceId fee asset

/-- An audit continues with an event that reports no fee, or one that is in order. -/
theorem Audited.snoc {version : U16} {log : List Event} {event : Event}
    (h : Audited cfg version log)
    (hevent : ∀ payer domain resourceId fee asset,
      event = .feeCollected payer domain resourceId fee asset →
        Charged cfg version log payer domain resourceId fee asset) :
    Audited cfg version (log ++ [event]) := by
  intro front payer domain resourceId fee asset back hsplit
  cases back using List.reverseRecOn with
  | nil =>
      obtain ⟨rfl, hlast⟩ := List.append_inj' hsplit rfl
      exact hevent payer domain resourceId fee asset (List.head_eq_of_cons_eq hlast)
  | append_singleton back last =>
      rw [← List.cons_append, ← List.append_assoc] at hsplit
      obtain ⟨hlog, -⟩ := List.append_inj' hsplit rfl
      exact h front payer domain resourceId fee asset back hlog

/-- Other events do not disturb an audit. -/
theorem Audited.append {version : U16} {log more : List Event} (h : Audited cfg version log)
    (hmore : ∀ event ∈ more, event.isFee = false) : Audited cfg version (log ++ more) := by
  induction more using List.reverseRecOn with
  | nil => simpa using h
  | append_singleton rest event ih =>
      have hrest := ih fun other hmem => hmore other (List.mem_append_left _ hmem)
      rw [← List.append_assoc]
      refine hrest.snoc ?_
      rintro payer domain resourceId fee asset rfl
      cases hmore (.feeCollected payer domain resourceId fee asset) (by simp)

/-- The books of a chain: its tables are the replay of its log, and the log is audited. -/
structure Books (cfg : Config L) (version : U16) (storage : Storage) (log : List Event) :
    Prop where
  tables : storage.SameTables (replayed version log)
  audited : Audited cfg version log

variable {version : U16} {state final : State L}

/-- Events that report no fee continue the books. -/
theorem Books.append {storage after : Storage} {log more : List Event}
    (h : Books cfg version storage log) (hmore : ∀ event ∈ more, event.isFee = false)
    (htables : after.SameTables (more.foldl Storage.record storage)) :
    Books cfg version after (log ++ more) := by
  refine ⟨?_, h.audited.append hmore⟩
  rw [replayed, List.foldl_append]
  exact same_tables_stable.trans htables (same_tables_stable.foldl more h.tables)

theorem Books.moves (h : Books cfg version state.storage state.events)
    (hmoves : Moves state final) : Books cfg version final.storage final.events := by
  obtain ⟨hstorage, added, hevents, hforeign⟩ := hmoves
  rw [hevents]
  refine h.append ?_ ?_
  · intro event hmem
    have hevent := hforeign event hmem
    cases event <;> first | rfl | cases hevent
  · rw [hstorage, record_foreign hforeign]
    exact same_tables_stable.refl _

/-- The router reads tables only. -/
theorem Storage.SameTables.get_fee {storage other : Storage} (h : storage.SameTables other)
    (domain : DomainID) (asset : MultiAsset) :
    FeeHandlerRouter.getFee storage domain asset = FeeHandlerRouter.getFee other domain asset := by
  rw [h]
  rfl

/-- The fee of a deposit is in order behind the event of the deposit. -/
theorem Bridge.Deposits.fee_charged (hrouter : cfg.feeHandler = FeeHandlerRouter.getFee)
    {origin : Origin} {asset : MultiAsset} {dest : MultiLocation} {receipt : Receipt}
    {moved : State L} (h : Deposits cfg origin asset dest receipt state moved)
    (hstorage : moved.storage = state.storage)
    (htables : moved.storage.SameTables (replayed version moved.events)) :
    Charged cfg version
      (moved.events ++ [.deposit receipt.destDomainId receipt.resourceId
        (moved.storage.depositCount receipt.destDomainId) receipt.sender receipt.transferType
        (createDepositData receipt.published receipt.recipient) []])
      receipt.sender receipt.destDomainId receipt.resourceId receipt.fee asset.id := by
  have hview := htables.domain_view receipt.destDomainId
  have hcount := congrArg DomainView.depositCount hview
  have hregistered := congrArg DomainView.registered hview
  obtain ⟨hasset, htype, -⟩ := extract_asset_some h.bound
  refine ⟨moved.events, receipt.amount, receipt.published, receipt.recipient, ?_, ?_, ?_, ?_,
    h.affordable, h.converted⟩
  · rw [htype]
    congr 3
  · exact hregistered.symm.trans (hstorage ▸ h.registered)
  · rw [← hasset, h.bound, htype]
  · rw [← htables.get_fee, ← hasset, hstorage, ← hrouter]
    exact h.charged

/-- A deposit continues the books. -/
theorem Books.deposit (hcfg : Confined cfg) (hrouter : cfg.feeHandler = FeeHandlerRouter.getFee)
    (h : Books cfg version state.storage state.events) {origin : Origin} {asset : MultiAsset}
    {dest : MultiLocation} (hdeposit : deposit cfg origin asset dest state = (.ok (), final)) :
    Books cfg version final.storage final.events := by
  obtain ⟨added, hevents, htables⟩ := deposit_logged hcfg hdeposit
  obtain ⟨receipt, moved, hdeposits, rfl⟩ := deposit_ok.mp hdeposit
  have hmoves := collect_moves hcfg hdeposits.collected
  have hbooks := h.moves hmoves
  refine ⟨?_, ?_⟩
  · rw [hevents, replayed, List.foldl_append, htables]
    exact same_tables_stable.foldl added h.tables
  · -- the event of the deposit first, then the one of its fee
    have hcharged := hdeposits.fee_charged hrouter hmoves.storage hbooks.tables
    rw [Receipt.issue, State.put_events, Receipt.events, List.append_cons]
    refine (hbooks.audited.append (by simp [Event.isFee])).snoc ?_
    rintro _ _ _ _ _ ⟨⟩
    exact hcharged

theorem Books.transfers (hcfg : Confined cfg)
    (hrouter : cfg.feeHandler = FeeHandlerRouter.getFee)
    (h : Books cfg version state.storage state.events) (htransfers : Transfers cfg state final) :
    Books cfg version final.storage final.events := by
  induction htransfers with
  | refl => exact h
  | moves _ hmoves ih => exact ih.moves hmoves
  | transfer _ htransfer ih =>
      rename_i outcome _
      cases outcome with
      | ok done => exact ih.deposit hcfg hrouter htransfer
      | error fault =>
          have hsame := Exec.transactional_error htransfer
          exact hsame ▸ ih

/-- No guarded extrinsic reports a collected fee. -/
theorem is_fee_report (origin : Origin) (extrinsic : Extrinsic) :
    ∀ event ∈ extrinsic.report origin, event.isFee = false := by
  cases extrinsic <;> simp [Extrinsic.report, Event.isFee]

/-- The events of a guarded extrinsic report its tables. -/
theorem report_tables (storage : Storage) (origin : Origin) (extrinsic : Extrinsic) :
    (extrinsic.write storage).SameTables
      ((extrinsic.report origin).foldl Storage.record storage) := by
  cases extrinsic <;> rfl

/-- Whatever a transition does continues the books. -/
theorem Effect.books (hcfg : Confined cfg) (hrouter : cfg.feeHandler = FeeHandlerRouter.getFee)
    (heffect : Effect cfg state final) (h : Books cfg version state.storage state.events) :
    Books cfg version final.storage final.events := by
  cases heffect with
  | none => exact h
  | administer =>
      exact h.append (is_fee_report _ _) (report_tables _ _ _)
  | carry hcarries => exact h.transfers hcfg hrouter hcarries.transfers
  | execute _ hcarries | fail hcarries =>
      have hpaid := h.transfers hcfg hrouter hcarries.transfers
      exact hpaid.append (by simp [executionEvent, failureEvent, Event.isFee])
        (same_tables_stable.refl _)
  | upgrade =>
      refine h.append (by simp) ?_
      rw [on_runtime_upgrade_frame]
      rfl

/-- On a chain with the fee router, every fee that was collected can be checked against the log: it
follows the event of its deposit, is what the router asks for an amount of the asset in the tables
that the log before it reports, is less than that amount, and what is left stands in the deposit. -/
theorem fees_auditable (hcfg : Confined cfg) (hrouter : cfg.feeHandler = FeeHandlerRouter.getFee)
    {ledger : L} {trace : List (Entry L)} {point : Point L}
    (hrun : Run (Step cfg) (.genesis version ledger) trace point) {front back : List Event}
    {payer : AccountId} {domain : DomainID} {resourceId : ResourceId} {fee : U128}
    {asset : AssetId}
    (hevent : point.state.events =
      front ++ .feeCollected payer domain resourceId fee asset :: back) :
    Charged cfg version front payer domain resourceId fee asset := by
  have hbooks : Books cfg version point.state.storage point.state.events := by
    refine hrun.invariant (fun p => Books cfg version p.state.storage p.state.events) ?_ ?_
    · exact ⟨rfl, fun front _ _ _ _ _ _ hnil => by cases front <;> cases hnil⟩
    · intro _ _ _ hstep h
      exact (hstep.effect hcfg).books hcfg hrouter h
  exact hbooks.audited front payer domain resourceId fee asset back hevent

namespace Standalone

/-- The fee of 3 on the logged deposit is in order behind the event of the deposit. -/
theorem fees_auditable_deposit :
    loggedState.events =
        loggedState.events.take 4 ++
          [.feeCollected (Vector.replicate 32 7) 1 (resource 0 1) 3 native] ∧
      Charged plainConfig 1 (loggedState.events.take 4) (Vector.replicate 32 7) 1 (resource 0 1) 3
        native := by
  obtain ⟨trace, hrun⟩ := dispatch_all_run plainConfig loggedCalls (.genesis 1 ⟨fun _ _ => 2000⟩)
  have hevents : loggedState.events = loggedState.events.take 4 ++
      [.feeCollected (Vector.replicate 32 7) 1 (resource 0 1) 3 native] := by decide +kernel
  exact ⟨hevents, fees_auditable (confined_of_lift rfl) rfl hrun hevents⟩

end Standalone

end Sygma
