import Mathlib.Algebra.BigOperators.Fin
import Mathlib.Algebra.Order.BigOperators.Group.Finset
import Mathlib.Data.Fintype.BigOperators
import Sygma.Library.Transit
import Sygma.Runtime.Ordering
import Sygma.Runtime.Relays
import Sygma.Runtime.Wrapped

/-!
# A network of chains

Any number of chains bridge one resource to each other. Each binds it to an asset of its own, with
its own decimals, and either holds a reserve of the asset or issues it. The chains run side by side
in any interleaving; relayers submit proposals for the resource that are built from deposit events
of the chains, in any order, grouping and number, and late or never.

Both results are about runs whose transitions are sound (`Member.Sound`). On a chain that issues the
asset, nobody else issues it. On a chain that holds a reserve, nobody else takes from it, it signs
no deposits of its own, and no proposal fails with `TransactFailed`, which would take its amount out
of the reserve and pay it to nobody. `network_backed` says that value is then never created: what
the chains issue, and what is in transit between them, grows by no more than the reserves do.
`transfers_deliverable` is the other half: if the start is backed and there is one reserve, it
covers whatever is on its way to it, so that transfers that pass their checks, to locations that
take deposits, can be paid out, in any batch.
-/

namespace Sygma

open Bridge

/-- How a chain keeps the asset of a resource: an account holds its reserve, or the chain issues
it. -/
inductive Custody where
  | reserve (account : AccountId)
  | wrapped

/-- A chain that bridges a resource, with the asset it binds to it. -/
structure Member (resource : ResourceId) (L : Type) where
  cfg : Config L
  transactor : LedgerTransactor L
  view : IssuingLedger transactor
  debugAssertions : Bool
  decimalPairs : List (AssetId × U8)
  asset : AssetId
  custody : Custody
  bound : ∀ rid, ridToAssetid cfg rid = some asset ↔ rid = resource
  reserved : ∀ account, custody = .reserve account →
    ReservedAsset cfg transactor debugAssertions decimalPairs asset account
  wrapped : custody = .wrapped → WrappedAsset cfg view debugAssertions decimalPairs asset

namespace Member

variable {resource : ResourceId} {L : Type} (member : Member resource L)

/-- The value of what a chain issues. -/
def supply (ledger : L) : ℚ :=
  match member.custody with
  | .reserve _ => 0
  | .wrapped =>
      value (decimals member.decimalPairs member.asset) (member.view.issuance ledger member.asset)

/-- The value of what a chain holds in reserve. -/
def holding (ledger : L) : ℚ :=
  match member.custody with
  | .reserve account =>
      value (decimals member.decimalPairs member.asset)
        (member.view.balance ledger member.asset account)
  | .wrapped => 0

/-- A transition that leaves the asset of the resource to the pallet. Where a reserve is held, no
other code takes from it, it is not the sender of a deposit, and no proposal fails with
`TransactFailed`. Where the asset is issued, no other code issues it. -/
def Sound (entry : Entry L) : Prop :=
  match member.custody with
  | .reserve account => entry.Honest member.view.toKeyedLedger member.asset account
  | .wrapped => entry.IssuesNothing member.view member.asset

theorem supply_nonneg (ledger : L) : 0 ≤ member.supply ledger := by
  unfold supply
  split
  · exact le_refl 0
  · unfold value
    positivity

/-- The asset transactor acts on the ledger alone. -/
theorem ledger_only : member.cfg.assetTransactor = member.transactor.lift := by
  cases hcustody : member.custody with
  | reserve account => exact (member.reserved account hcustody).ledgerOnly
  | wrapped => exact (member.wrapped hcustody).ledgerOnly

theorem confined : Confined member.cfg := confined_of_lift member.ledger_only

/-- A sound transition balances: what is issued less what is held in reserve falls by what it
publishes and grows by no more than it executes. -/
theorem accounted {point next : Point L} {entry : Entry L}
    (hstep : Step member.cfg point entry next) (hsound : member.Sound entry) :
    Accounted member.cfg member.asset (fun ledger => member.supply ledger - member.holding ledger)
      point.state next.state (executedAmount member.cfg member.asset entry) := by
  unfold Sound at hsound
  unfold supply holding
  cases hcustody : member.custody with
  | reserve account =>
      simp only [hcustody] at hsound
      obtain ⟨added, hevents, hstake⟩ :=
        hstep.accounted_reserve (member.reserved account hcustody) hsound
      exact ⟨added, hevents, by simpa [reserveStake] using hstake⟩
  | wrapped =>
      simp only [hcustody] at hsound
      obtain ⟨added, hevents, hstake⟩ :=
        hstep.accounted_wrapped (member.wrapped hcustody) hsound
      exact ⟨added, hevents, by simpa [supplyStake] using hstake⟩

end Member

/-- Chains that bridge a resource to each other under different domain ids. -/
structure Network (resource : ResourceId) (ι : Type) (L : ι → Type) where
  member : ∀ i, Member resource (L i)
  domain : ι → DomainID
  chainOf : DomainID → Option ι
  chain_of_iff : ∀ {id i}, chainOf id = some i ↔ domain i = id

/-- A proposal that was executed for an asset is one of the resource, and what is counted for it
stands in its data. -/
theorem executed_amount_cases {L : Type} (cfg : Config L) (asset : AssetId) (entry : Entry L) :
    executedAmount cfg asset entry = 0 ∨ ∃ proposal, entry.action = .proposal proposal ∧
      entry.outcome = .ok () ∧ ridToAssetid cfg proposal.resourceId = some asset ∧
      executedAmount cfg asset entry = Bytes.ofBigEndian (proposal.data.take 32) := by
  obtain ⟨before, action, outcome, after⟩ := entry
  cases action with
  | proposal proposal =>
      rcases outcome with fault | done
      · exact .inl rfl
      · by_cases hrid : ridToAssetid cfg proposal.resourceId = some asset
        · cases hextract : extractDepositData cfg proposal.data with
          | error fault => exact .inl (by simp [executedAmount, hrid, hextract])
          | ok extracted =>
              obtain ⟨-, hamount, -⟩ := extract_deposit_data_ok.mp hextract
              exact .inr ⟨proposal, rfl, rfl, hrid,
                by simp [executedAmount, hrid, hextract, hamount]⟩
        · exact .inl (by simp [executedAmount, hrid])
  | call | transfer | upgrade | external => exact .inl rfl

namespace Network

open Chains (statesOf states_of_update)

variable {resource : ResourceId} {ι : Type} {L : ι → Type}

section Transit

variable (net : Network resource ι L)

/-- The message a deposit event of the resource sends to a chain of the network. -/
def messageOf : Event → Option (Message ι DepositNonce)
  | .deposit destDomainId resourceId depositNonce _ _ depositData _ =>
      if resourceId = resource then
        (net.chainOf destDomainId).map fun dest =>
          ⟨dest, depositNonce, Bytes.ofBigEndian (depositData.take 32)⟩
      else none
  | _ => none

/-- The network as parties that send each other values: deposit events are messages, and the
executed nonces are what was received. -/
def transit (states : ∀ i, State (L i)) : Transit ι DepositNonce where
  sent sender := (states sender).events.filterMap net.messageOf
  received receiver sender nonce :=
    isProposalExecuted (states receiver).storage nonce (net.domain sender)

/-- The chains of the network. -/
def chains : Chains ι L where
  cfg i := (net.member i).cfg
  confined i := (net.member i).confined
  domain := net.domain
  chainOf := net.chainOf
  chain_of_iff := net.chain_of_iff

/-- Relayers have reason to sign a proposal: if it is one of the resource, it is built from a
deposit event of a chain of the network. -/
abbrev Genuine : (∀ i, State (L i)) → ι → Proposal → Prop :=
  net.chains.Genuine fun proposal => proposal.resourceId = resource

/-- A transition of one chain. A batch is accepted only if its proposals are genuine. -/
abbrev NetStep [DecidableEq ι] :
    (∀ i, Point (L i)) → ((i : ι) × Entry (L i)) → (∀ i, Point (L i)) → Prop :=
  net.chains.Relayed fun proposal => proposal.resourceId = resource

/-- What the chains issue and what is in transit, less what is held in reserve. -/
def exposure [Fintype ι] (states : ∀ i, State (L i)) : ℚ :=
  ∑ i, ((net.member i).supply (states i).ledger - (net.member i).holding (states i).ledger) +
    (net.transit states).total

end Transit

variable {net : Network resource ι L}

/-- What new events send through the network is part of what they publish. -/
theorem messages_le (net : Network resource ι L) (i : ι) (events : List Event) :
    ((events.filterMap net.messageOf).map Message.amount).sum ≤
      published (net.member i).cfg (net.member i).asset events := by
  induction events with
  | nil => exact Nat.zero_le _
  | cons event rest ih =>
      have hevent : ((net.messageOf event).toList.map Message.amount).sum ≤
          publishedAmount (net.member i).cfg (net.member i).asset event := by
        cases event with
        | deposit destDomainId resourceId =>
            unfold messageOf publishedAmount
            by_cases hresource : resourceId = resource
            · simp only [hresource, (net.member i).bound, if_true]
              cases net.chainOf destDomainId <;> simp
            · simp [hresource]
        | _ => exact Nat.zero_le _
      have hcons : ((event :: rest).filterMap net.messageOf) =
          (net.messageOf event).toList ++ rest.filterMap net.messageOf := by
        cases hmessage : net.messageOf event <;> simp [hmessage]
      rw [hcons, List.map_append, List.sum_append]
      simp only [published, List.map_cons, List.sum_cons] at ih ⊢
      omega

/-- A proposal that was built from an event of the network is a message of its sender. -/
theorem message_of_built {states : ∀ i, State (L i)} {sender receiver : ι} {proposal : Proposal}
    {event : Event} (hmem : event ∈ (states sender).events)
    (hresource : proposal.resourceId = resource)
    (hbuilt : BuiltFrom (net.domain sender) (net.domain receiver) proposal event) :
    (⟨receiver, proposal.depositNonce, Bytes.ofBigEndian (proposal.data.take 32)⟩ :
      Message ι DepositNonce) ∈ (net.transit states).sent sender := by
  obtain ⟨account, transferType, response, rfl, -⟩ := hbuilt
  refine List.mem_filterMap.mpr ⟨_, hmem, ?_⟩
  simp [messageOf, hresource, net.chain_of_iff.mpr rfl]

variable [DecidableEq ι]

/-- What one transition does to the transit: its events are sent, and what it executed of the
resource has arrived. -/
theorem transit_advances {states : ∀ i, State (L i)} {i : ι} {point next : Point (L i)}
    {entry : Entry (L i)} {added : List Event} (hstate : point.state = states i)
    (hstep : Step (net.member i).cfg point entry next)
    (hpending : ∀ proposal ∈ point.pending, net.Genuine states i proposal)
    (hevents : next.state.events = point.state.events ++ added) :
    Transit.Advances (net.transit states) (net.transit (Function.update states i next.state)) i
      (added.filterMap net.messageOf) (executedAmount (net.member i).cfg (net.member i).asset entry)
      where
  sent := by simp [transit, hevents, hstate]
  others sender hsender := by simp [transit, hsender]
  keeps receiver sender nonce hset := by
    by_cases hreceiver : receiver = i
    · subst hreceiver
      simp only [transit, Function.update_self, ← hstate] at hset ⊢
      exact (hstep.effect (net.member receiver).confined).executed_mono hset
    · simpa [transit, hreceiver] using hset
  arrives := by
    rcases executed_amount_cases (net.member i).cfg (net.member i).asset entry with
      hzero | ⟨proposal, haction, hok, hrid, hamount⟩
    · exact .inl hzero
    · have hresource := ((net.member i).bound _).mp hrid
      obtain ⟨sender, event, hmem, hbuilt⟩ :=
        hpending proposal (hstep.proposal_pending haction) hresource
      have horigin : proposal.originDomainId = net.domain sender := by
        obtain ⟨-, -, -, -, horigin⟩ := hbuilt
        exact horigin
      obtain ⟨payout, hresolve, -, hmarked⟩ := hstep.proposal_executed haction hok
      have hopen := (resolve_ok.mp hresolve).2.2.1
      refine .inr ⟨sender, _, message_of_built hmem hresource hbuilt, hamount.symm, ?_, ?_⟩
      · rwa [hstate, horigin] at hopen
      · simpa [transit, ← horigin] using hmarked

section Exposure

variable [Fintype ι]

/-- A change at one chain changes its summand only. -/
theorem sum_update (states : ∀ i, State (L i)) (i : ι) (after : State (L i))
    (stake : ∀ i, L i → ℚ) :
    ∑ j, stake j (Function.update states i after j).ledger + stake i (states i).ledger =
      ∑ j, stake j (states j).ledger + stake i after.ledger := by
  rw [← Finset.add_sum_erase _ _ (Finset.mem_univ i),
    ← Finset.add_sum_erase Finset.univ (fun j => stake j (states j).ledger) (Finset.mem_univ i)]
  have hothers : ∑ j ∈ Finset.univ.erase i, stake j (Function.update states i after j).ledger =
      ∑ j ∈ Finset.univ.erase i, stake j (states j).ledger :=
    Finset.sum_congr rfl fun j hj => by rw [Function.update_of_ne (Finset.ne_of_mem_erase hj)]
  rw [hothers, Function.update_self]
  ring

/-- A sound transition does not raise the exposure. -/
theorem exposure_step {states : ∀ i, State (L i)} {i : ι} {point next : Point (L i)}
    {entry : Entry (L i)} (hstate : point.state = states i)
    (hstep : Step (net.member i).cfg point entry next) (hsound : (net.member i).Sound entry)
    (hpending : ∀ proposal ∈ point.pending, net.Genuine states i proposal) :
    net.exposure (Function.update states i next.state) ≤ net.exposure states := by
  obtain ⟨added, hevents, hstake⟩ := (net.member i).accounted hstep hsound
  have htransit := (transit_advances hstate hstep hpending hevents).total_le
  have hmessages := messages_le net i added
  have hsum := sum_update states i next.state
    fun j ledger => (net.member j).supply ledger - (net.member j).holding ledger
  have htotal : ((net.transit (Function.update states i next.state)).total : ℚ) +
      executedAmount (net.member i).cfg (net.member i).asset entry ≤
      (net.transit states).total + published (net.member i).cfg (net.member i).asset added := by
    exact_mod_cast htransit.trans (Nat.add_le_add_left hmessages _)
  rw [hstate] at hstake
  unfold exposure
  linarith

/-- No run of sound transitions raises the exposure. -/
theorem exposure_run {start final : ∀ i, Point (L i)} {trace : List ((i : ι) × Entry (L i))}
    (hrun : Run net.NetStep start trace final) (hstart : ∀ i, (start i).pending = [])
    (hsound : ∀ entry ∈ trace, (net.member entry.1).Sound entry.2) :
    net.exposure (statesOf final) ≤ net.exposure (statesOf start) := by
  induction hrun with
  | refl => exact le_refl _
  | snoc hprefix hlast ih =>
      have hbefore := ih fun entry hmem => hsound entry (List.mem_append_left _ hmem)
      have hpending := Chains.pending_genuine hprefix hstart
      obtain ⟨hstep, hrelay⟩ := hlast
      rename_i world i entry next
      have hentry : (net.member i).Sound entry := hsound ⟨i, entry⟩ (by simp)
      rw [states_of_update]
      exact (exposure_step rfl hstep hentry (hpending i)).trans hbefore

/-- Whatever the chains and the relayers do, value is never created: what the chains issue and what
is in transit between them grows by no more than what they hold in reserve. -/
theorem network_backed {start final : ∀ i, Point (L i)} {trace : List ((i : ι) × Entry (L i))}
    (hrun : Run net.NetStep start trace final) (hstart : ∀ i, (start i).pending = [])
    (hsound : ∀ entry ∈ trace, (net.member entry.1).Sound entry.2) :
    ∑ i, (net.member i).supply (final i).state.ledger + (net.transit (statesOf final)).total +
        ∑ i, (net.member i).holding (start i).state.ledger ≤
      ∑ i, (net.member i).supply (start i).state.ledger + (net.transit (statesOf start)).total +
        ∑ i, (net.member i).holding (final i).state.ledger := by
  have hexposure := exposure_run hrun hstart hsound
  simp only [exposure, Finset.sum_sub_distrib, statesOf] at hexposure ⊢
  linarith

end Exposure

/-! ## Delivery from the reserve -/

/-- An account can always pay out what it holds of the asset. -/
def Liquid {L : Type} (member : Member resource L) (account : AccountId) : Prop :=
  ∀ amount ledger, amount.toNat ≤ member.view.balance ledger member.asset account →
    ∃ left, member.transactor.withdrawAsset ⟨member.asset, .fungible amount⟩ (.ofAccount account)
      ledger = (.ok (), left)

/-- A proposal that can be paid out at a chain: it is a genuine one of the resource, it passes its
checks, and its location takes deposits. -/
structure Ready (net : Network resource ι L) (states : ∀ i, State (L i)) (home : ι)
    (proposal : Proposal) : Prop where
  resource : proposal.resourceId = resource
  genuine : net.Genuine states home proposal
  payable : ∃ payout,
    resolve (net.member home).cfg (states home).storage proposal = .ok payout ∧
    ∀ ledger, ∃ final, (net.member home).transactor.depositAsset payout.asset payout.location
      ledger = (.ok (), final)

/-- Executing a proposal leaves those with another key ready. -/
theorem Ready.after_other {states : ∀ i, State (L i)} {home : ι} {proposal other : Proposal}
    (hother : net.Ready states home other) (hkey : other.key ≠ proposal.key)
    {after : State (L home)} {added : List Event}
    (hstorage : after.storage = setProposalExecuted (states home).storage proposal.depositNonce
      proposal.originDomainId)
    (hevents : after.events = (states home).events ++ added) :
    net.Ready (Function.update states home after) home other := by
  refine ⟨hother.resource, hother.genuine.mono hevents, ?_⟩
  obtain ⟨payout, hresolve, haccepts⟩ := hother.payable
  refine ⟨payout, ?_, haccepts⟩
  rw [Function.update_self, hstorage, ← hresolve]
  exact resolve_set_executed hkey

variable [Fintype ι]

/-- The only reserve of a backed network covers what is in transit. -/
theorem total_le_holding {states : ∀ i, State (L i)} {home : ι}
    (hsole : ∀ i, i ≠ home → (net.member i).custody = .wrapped)
    (hbacked : net.exposure states ≤ 0) :
    ((net.transit states).total : ℚ) ≤ (net.member home).holding (states home).ledger := by
  have hothers : 0 ≤ ∑ i ∈ Finset.univ.erase home, ((net.member i).supply (states i).ledger -
      (net.member i).holding (states i).ledger) := by
    refine Finset.sum_nonneg fun i hi => ?_
    have hwrapped : (net.member i).holding (states i).ledger = 0 := by
      simp [Member.holding, hsole i (Finset.ne_of_mem_erase hi)]
    rw [hwrapped, sub_zero]
    exact (net.member i).supply_nonneg _
  have hissued := (net.member home).supply_nonneg (states home).ledger
  unfold exposure at hbacked
  rw [← Finset.add_sum_erase _ _ (Finset.mem_univ home)] at hbacked
  linarith

section Reserve

variable {states : ∀ i, State (L i)} {home : ι} {account : AccountId}
  (hcustody : (net.member home).custody = .reserve account)
  (hsole : ∀ i, i ≠ home → (net.member i).custody = .wrapped)
  (hliquid : Liquid (net.member home) account) (hbacked : net.exposure states ≤ 0)

include hcustody hsole hliquid hbacked

/-- In a backed network, a proposal that is ready is settled. -/
theorem settle_ready {proposal : Proposal} (hready : net.Ready states home proposal) :
    ∃ paid, settle (net.member home).cfg (net.member home).transactor proposal
      (states home).storage (states home).ledger = (.ok (), paid) := by
  have hreserved := (net.member home).reserved account hcustody
  obtain ⟨payout, hresolve, haccepts⟩ := hready.payable
  obtain ⟨-, -, hopen, id, amount, hrid, hextract, hconvert, haccount, -⟩ := resolve_ok.mp hresolve
  have hid : id = (net.member home).asset :=
    Option.some.inj (hrid.symm.trans (((net.member home).bound _).mpr hready.resource))
  subst hid
  obtain ⟨decimal, paid, hdecimal, hasset, hle⟩ := convert_from_le (hreserved.converter ▸ hconvert)
  -- the amount of the proposal is in transit, so the reserve covers it
  obtain ⟨sender, event, hmem, hbuilt⟩ := hready.genuine hready.resource
  have horigin : proposal.originDomainId = net.domain sender := by
    obtain ⟨-, -, -, -, horigin⟩ := hbuilt
    exact horigin
  have htransit : amount.toNat ≤ (net.transit states).total := by
    rw [← (extract_deposit_data_ok.mp hextract).2.1]
    refine Transit.amount_le_total (message_of_built hmem hready.resource hbuilt) ?_
    rw [horigin] at hopen
    exact hopen
  have hcovered : value decimal paid.toNat ≤ value decimal ((net.member home).view.balance
      (states home).ledger (net.member home).asset account) := by
    have hheld := total_le_holding hsole hbacked
    rw [Member.holding, hcustody] at hheld
    simp only [decimals, hdecimal, Option.getD_some] at hheld
    have hamount : (amount.toNat : ℚ) ≤ (net.transit states).total := by exact_mod_cast htransit
    exact (value_le hle).trans (hamount.trans hheld)
  obtain ⟨left, hwithdraw⟩ := hliquid paid _ (le_of_value_le hcovered)
  obtain ⟨final, hdeposit⟩ := haccepts left
  refine ⟨final, settle_ok.mpr ⟨payout, hresolve, ?_⟩⟩
  have hpayer : payout.reserveAccount = account :=
    Option.some.inj (haccount.symm.trans hreserved.account)
  unfold payLedger
  rw [hasset] at hdeposit ⊢
  rw [if_pos (hreserved.is_reserve paid), hpayer, hwithdraw]
  exact hdeposit

/-- In a backed network, a proposal that is ready is executed, and the network stays backed. -/
theorem execute_ready {proposal : Proposal} (hready : net.Ready states home proposal) :
    ∃ after, executeOne (net.member home).cfg proposal (states home) = (.ok (), after) ∧
      after.storage = setProposalExecuted (states home).storage proposal.depositNonce
        proposal.originDomainId ∧
      after.events = (states home).events ++ [executionEvent (net.member home).cfg proposal] ∧
      net.exposure (Function.update states home after) ≤ 0 := by
  obtain ⟨paid, hsettle⟩ := settle_ready hcustody hsole hliquid hbacked hready
  let after : State (L home) :=
    { storage := setProposalExecuted (states home).storage proposal.depositNonce
        proposal.originDomainId
      events := (states home).events ++ [executionEvent (net.member home).cfg proposal]
      ledger := paid }
  have hexecute : executeOne (net.member home).cfg proposal (states home) = (.ok (), after) := by
    refine (execute_one_lift (net.member home).ledger_only).mpr ⟨?_, ?_⟩
    · simp [hsettle]
    · simp [hsettle, after, markOutcome, outcomeEvents]
  have hstep : Step (net.member home).cfg ⟨states home, [proposal]⟩
      ⟨states home, .proposal proposal,
        (executeProposalInternal (net.member home).cfg proposal (states home)).1, after⟩
      ⟨after, []⟩ := .proposal hexecute
  have hsound : (net.member home).Sound
      ⟨states home, .proposal proposal,
        (executeProposalInternal (net.member home).cfg proposal (states home)).1, after⟩ := by
    unfold Member.Sound
    rw [hcustody]
    refine ⟨?_, ?_, ?_⟩
    · intro ledger haction
      cases haction
    · intro origin deposited dest haction
      cases haction
    · intro _ _ hfailed
      rw [execute_proposal_internal_lift (net.member home).ledger_only, hsettle] at hfailed
      cases hfailed
  refine ⟨after, hexecute, rfl, rfl, (exposure_step rfl hstep hsound ?_).trans hbacked⟩
  intro listed hmem
  rw [List.mem_singleton.mp hmem]
  exact hready.genuine

/-- In a backed network, proposals that are ready and have different keys are executed one after the
other: executing one keeps the network backed and the others ready. -/
theorem forEach_ready {proposals : List Proposal} (hdistinct : (proposals.map Proposal.key).Nodup)
    (hready : ∀ proposal ∈ proposals, net.Ready states home proposal) :
    ∃ final, Exec.forEach proposals (executeOne (net.member home).cfg) (states home) =
        (.ok (), final) ∧
      final.events = (states home).events ++
        proposals.map (executionEvent (net.member home).cfg) ∧
      ∀ proposal ∈ proposals, isProposalExecuted final.storage proposal.depositNonce
        proposal.originDomainId = true := by
  induction proposals generalizing states with
  | nil => exact ⟨states home, rfl, by simp, by simp⟩
  | cons proposal rest ih =>
      obtain ⟨middle, hexecute, hstorage, hexecuted, hkept⟩ :=
        execute_ready hcustody hsole hliquid hbacked (hready proposal List.mem_cons_self)
      rw [List.map_cons, List.nodup_cons] at hdistinct
      have hrest : ∀ other ∈ rest, net.Ready (Function.update states home middle) home other := by
        intro other hmem
        have hkey : other.key ≠ proposal.key := fun heq =>
          hdistinct.1 (heq ▸ List.mem_map_of_mem hmem)
        exact (hready other (List.mem_cons_of_mem _ hmem)).after_other hkey hstorage hexecuted
      obtain ⟨final, hloop, hevents, hmarked⟩ := ih hkept hdistinct.2 hrest
      rw [Function.update_self] at hloop hevents
      refine ⟨final, Exec.bind_ok.mpr ⟨(), middle, hexecute, hloop⟩, ?_, ?_⟩
      · simp [hevents, hexecuted]
      · intro other hmem
        rcases List.mem_cons.mp hmem with rfl | hmem
        · obtain ⟨trace, hrun⟩ := forEach_run hloop
          refine executed_mono_run (net.member home).confined hrun ?_
          simp [hstorage, is_proposal_executed_set]
        · exact hmarked other hmem

end Reserve

/-- In every state that a backed network can reach, the only reserve covers what is on its way to
it: a signed batch of proposals that are built from undelivered deposits, pass their checks and name
locations that take deposits is accepted, and every one of them is executed. -/
theorem transfers_deliverable {start world : ∀ i, Point (L i)}
    {trace : List ((i : ι) × Entry (L i))} (hrun : Run net.NetStep start trace world)
    (hstart : ∀ i, (start i).pending = [])
    (hsound : ∀ entry ∈ trace, (net.member entry.1).Sound entry.2)
    (hbacked : net.exposure (statesOf start) ≤ 0) {home : ι} {account : AccountId}
    (hcustody : (net.member home).custody = .reserve account)
    (hsole : ∀ i, i ≠ home → (net.member i).custody = .wrapped)
    (hliquid : Liquid (net.member home) account)
    {proposals : List Proposal} {signature : Bytes} (origin : Origin)
    (hkey : (world home).state.storage.mpcClear = false) (hne : proposals ≠ [])
    (hsigned : verifyByMpcAddress (net.member home).cfg (world home).state.storage
      (constructEcdsaSigningProposalsData (net.member home).cfg proposals) signature = true)
    (hdistinct : (proposals.map Proposal.key).Nodup)
    (hready : ∀ proposal ∈ proposals, net.Ready (statesOf world) home proposal) :
    ∃ final, dispatch (net.member home).cfg origin (.executeProposal proposals signature)
        (world home).state = (.ok (), final) ∧
      final.events = (world home).state.events ++
        proposals.map (executionEvent (net.member home).cfg) ∧
      ∀ proposal ∈ proposals, isProposalExecuted final.storage proposal.depositNonce
        proposal.originDomainId = true := by
  have hheld := (exposure_run hrun hstart hsound).trans hbacked
  obtain ⟨final, hloop, hevents, hmarked⟩ :=
    forEach_ready hcustody hsole hliquid hheld hdistinct hready
  exact ⟨final, dispatch_batch_ok.mpr ⟨hkey, hne, hsigned, hloop⟩, hevents, hmarked⟩

end Network

/-- In a table with unique assets and resources, a resource is bound to its asset alone. -/
theorem rid_to_assetid_iff {L : Type} {cfg : Config L} {asset : AssetId} {resource : ResourceId}
    (hassets : (cfg.resourcePairs.map Prod.fst).Nodup)
    (hfound : ridToAssetid cfg resource = some asset) (rid : ResourceId) :
    ridToAssetid cfg rid = some asset ↔ rid = resource := by
  constructor
  · intro h
    have hpair := List.inj_on_of_nodup_map hassets (rid_to_assetid_mem h)
      (rid_to_assetid_mem hfound) rfl
    exact congrArg Prod.snd hpair
  · rintro rfl
    exact hfound

/-! ## A transfer and its return -/

namespace Standalone

open Chains (statesOf)

/-- The chain that holds the reserve of the native asset. -/
noncomputable def homeMember : Member (resource 0 1) PlainLedger where
  cfg := plainConfig
  transactor := PlainLedger.transactor locationToAccountId
  view := (PlainLedger.keyed locationToAccountId).issuing
  debugAssertions := false
  decimalPairs := assetDecimalPairs
  asset := native
  custody := .reserve bridgeAccountNative
  bound := rid_to_assetid_iff (by decide +kernel) (by decide +kernel)
  reserved := by
    intro account haccount
    cases haccount
    exact reserved_native
  wrapped := nofun

/-- A chain that issues the asset. -/
def wrappedConfig : Config PlainLedger := { plainConfig with isReserve := fun _ _ => false }

/-- A deposit on the plain ledger issues at most its amount, at whatever location. -/
theorem plain_issued (accounts : LocationToAccount) {id asset : AssetId} {amount : U128}
    {who : MultiLocation} {ledger final : PlainLedger}
    (h : (PlainLedger.transactor accounts).depositAsset ⟨id, .fungible amount⟩ who ledger =
      (.ok (), final)) :
    (PlainLedger.keyed accounts).issuing.issuance final asset ≤
      (PlainLedger.keyed accounts).issuing.issuance ledger asset +
        amountOf id amount.toNat asset := by
  cases hwho : accounts.convert who with
  | none => simp [PlainLedger.transactor, hwho] at h
  | some account =>
      -- the location stands for an account, where the deposit could as well have gone
      have hsame : (PlainLedger.transactor accounts).depositAsset ⟨id, .fungible amount⟩
          (.ofAccount account) ledger = (.ok (), final) := by
        rw [← h]
        simp [PlainLedger.transactor, hwho, accounts.convert_of_account]
      exact Nat.le_of_eq ((PlainLedger.keyed accounts).issuing.mint hsame asset)

noncomputable def wrappedMember : Member (resource 0 1) PlainLedger where
  cfg := wrappedConfig
  transactor := PlainLedger.transactor locationToAccountId
  view := (PlainLedger.keyed locationToAccountId).issuing
  debugAssertions := false
  decimalPairs := assetDecimalPairs
  asset := native
  custody := .wrapped
  bound := rid_to_assetid_iff (by decide +kernel) (by decide +kernel)
  reserved := nofun
  wrapped _ :=
    { ledgerOnly := rfl
      atomic := PlainLedger.transactor_atomic locationToAccountId
      converter := rfl
      uniqueResources := by decide +kernel
      unreserved := fun _ => rfl
      issued := plain_issued locationToAccountId }

/-- The two chains: the home chain is domain 2, the other one is domain 1. -/
noncomputable def twoChains : Network (resource 0 1) Bool fun _ => PlainLedger where
  member home := if home then homeMember else wrappedMember
  domain home := if home then 2#8 else 1#8
  chainOf id := if id = 2#8 then some true else if id = 1#8 then some false else none
  chain_of_iff := by
    intro id home
    by_cases htwo : id = 2#8
    · cases home <;> simp [htwo]
    · by_cases hone : id = 1#8
      · cases home <;> simp [hone]
      · cases home <;> simp [htwo, hone, Ne.symm htwo, Ne.symm hone]

/-- The issuing chain with a signer, an open domain and a fee of 3. -/
def issuingState : State PlainLedger :=
  { State.genesis 1 PlainLedger.empty with
    storage :=
      { Storage.empty 1 with
        mpcAddr := constantSigner
        destDomainIds := StorageMap.empty.insert 2 true
        assetFees := StorageMap.empty.insert (2, native) 3
        handlerType := StorageMap.empty.insert (2, native) .basicFeeHandler } }

/-- The issuing chain after it has executed the transfer, and after its receiver has sent half of
it back. -/
def mintedState : State PlainLedger :=
  (executeOne wrappedConfig forwardedProposal issuingState).2

theorem two_junctions (first second : Junction) : [first, second].length ≤ 8 := by
  simp

theorem key_length (domain : Byte) : [domain].length ≤ 32 := by
  simp

theorem location_length (parents junctions : Byte) : [parents, junctions].length ≤ 32 := by
  simp

/-- The chain above domain 2, as it is encoded. -/
def homeDest : MultiLocation :=
  ⟨0, [sliceToGeneralkey [1#8, 0#8] (location_length 1#8 0#8),
    sliceToGeneralkey [2#8] (key_length 2#8)], two_junctions _ _⟩

def sendBack : Extrinsic :=
  .deposit ⟨native, .fungible 503⟩ homeDest

def burnedState : State PlainLedger :=
  (dispatch wrappedConfig (.signed parentAccount) sendBack mintedState).2

def networkStart (home : Bool) : Point PlainLedger :=
  if home then ⟨feeState, []⟩ else ⟨issuingState, []⟩

def networkEnd (home : Bool) : Point PlainLedger :=
  if home then ⟨depositedState, []⟩ else ⟨burnedState, []⟩

/-- The three transitions of the issuing chain after the deposit on the home chain. -/
def networkTrace : List ((_ : Bool) × Entry PlainLedger) :=
  [⟨true, ⟨feeState, .call (.signed (Vector.replicate 32 7)) nativeDeposit, .ok (),
      depositedState⟩⟩,
    ⟨false, ⟨issuingState, .call .none (.executeProposal [forwardedProposal]
      (List.replicate 65 0)), .ok (), issuingState⟩⟩,
    ⟨false, ⟨issuingState, .proposal forwardedProposal,
      (executeProposalInternal wrappedConfig forwardedProposal issuingState).1, mintedState⟩⟩,
    ⟨false, ⟨mintedState, .call (.signed parentAccount) sendBack, .ok (), burnedState⟩⟩]

theorem network_trace_run : Run twoChains.NetStep networkStart networkTrace networkEnd := by
  have hdeposit : dispatch plainConfig (.signed (Vector.replicate 32 7)) nativeDeposit feeState =
      (.ok (), depositedState) := Prod.ext (by decide +kernel) rfl
  have hexecute : executeOne wrappedConfig forwardedProposal issuingState = (.ok (), mintedState) :=
    Prod.ext (by decide +kernel) rfl
  have hbatch : dispatch wrappedConfig .none
      (.executeProposal [forwardedProposal] (List.replicate 65 0)) issuingState =
        (.ok (), mintedState) :=
    dispatch_batch_ok.mpr ⟨by decide +kernel, by decide, by decide +kernel,
      Exec.bind_ok.mpr ⟨(), _, hexecute, rfl⟩⟩
  have hreturn : dispatch wrappedConfig (.signed parentAccount) sendBack mintedState =
      (.ok (), burnedState) := Prod.ext (by decide +kernel) rfl
  have hrun : Run twoChains.NetStep networkStart networkTrace
      (Function.update (Function.update (Function.update (Function.update networkStart true
        ⟨depositedState, []⟩) false ⟨issuingState, [forwardedProposal]⟩) false ⟨mintedState, []⟩)
          false ⟨burnedState, []⟩) := by
    refine Run.cons (.step (i := true) (.call hdeposit (by decide)) ?_) (Run.cons
      (.step (i := false) (.batch hbatch) ?_) (Run.cons (.step (i := false) (.proposal hexecute)
        ?_) (Run.cons (.step (i := false) (.call hreturn (by decide)) ?_) .refl)))
    all_goals
      intro caller proposals signature haction _ proposal hmem _
      cases haction
    obtain rfl := List.mem_singleton.mp hmem
    exact ⟨true, .deposit 1 (resource 0 1) 0 (Vector.replicate 32 7) .fungibleTransfer
      (createDepositData 1000000000 [1, 0]) [], by decide +kernel, _, _, _, rfl, rfl⟩
  have hend : Function.update (Function.update (Function.update (Function.update networkStart true
      ⟨depositedState, []⟩) false ⟨issuingState, [forwardedProposal]⟩) false ⟨mintedState, []⟩)
        false ⟨burnedState, []⟩ = networkEnd := by
    funext home
    cases home <;> rfl
  rwa [hend] at hrun

theorem network_trace_sound : ∀ entry ∈ networkTrace,
    (twoChains.member entry.1).Sound entry.2 := by
  intro entry hmem
  simp only [networkTrace, List.mem_cons, List.not_mem_nil, or_false] at hmem
  rcases hmem with rfl | rfl | rfl | rfl
  · refine ⟨nofun, ?_, nofun⟩
    intro origin deposited dest hdeposit
    cases hdeposit
    decide +kernel
  · exact nofun
  · exact nofun
  · exact nofun

theorem network_start_pending (home : Bool) : (networkStart home).pending = [] := by
  cases home <;> rfl

/-- No deposit was made yet, so nothing is in transit. -/
theorem network_start_transit : (twoChains.transit (statesOf networkStart)).total = 0 := by
  have hnone : ∀ event ∈ feeState.events, event.depositTo = none := by decide +kernel
  have hmessages : ∀ event ∈ feeState.events, twoChains.messageOf event = none := by
    intro event hmem
    have hevent := hnone event hmem
    cases event with
    | deposit => cases hevent
    | _ => rfl
  have hstate : statesOf networkStart true = feeState := by
    simp only [statesOf, networkStart, if_true]
  have hhome : (twoChains.transit (statesOf networkStart)).sent true = [] := by
    simp only [Network.transit, hstate]
    exact List.filterMap_eq_nil_iff.mpr hmessages
  have hissuer : (twoChains.transit (statesOf networkStart)).sent false = [] := rfl
  simp [Transit.total, Transit.outstanding, hhome, hissuer]

/-- Nothing was issued yet either, so the network starts out backed. -/
theorem network_start_backed :
    twoChains.exposure (statesOf networkStart) ≤ 0 := by
  have hissued : (twoChains.member false).supply (statesOf networkStart false).ledger =
      0 := by
    have hempty : (statesOf networkStart false).ledger = PlainLedger.empty := rfl
    have hsum : wrappedMember.view.issuance PlainLedger.empty native = 0 :=
      Finset.sum_eq_zero fun _ _ => rfl
    show value (decimals assetDecimalPairs native) (wrappedMember.view.issuance _ native) = 0
    rw [hempty, hsum]
    simp [value]
  have hheld : 0 ≤ (twoChains.member true).holding (statesOf networkStart true).ledger := by
    show 0 ≤ value _ _
    unfold value
    positivity
  have hhome : (twoChains.member true).supply (statesOf networkStart true).ledger = 0 := rfl
  have hissuer : (twoChains.member false).holding (statesOf networkStart false).ledger =
      0 := rfl
  rw [Network.exposure, Fintype.sum_bool, network_start_transit, hissued, hhome, hissuer]
  simpa using hheld

/-- The home chain keeps 3000 in reserve, of which the other one has issued 500, a fee of 3 among
them, and owes 500. -/
theorem network_backed_return :
    depositedState.ledger.balance native bridgeAccountNative = 3000 ∧
    burnedState.ledger.balance native parentAccount = 497 ∧
    ∑ home, (twoChains.member home).supply (networkEnd home).state.ledger +
        (twoChains.transit (statesOf networkEnd)).total +
        ∑ home, (twoChains.member home).holding (networkStart home).state.ledger ≤
      ∑ home, (twoChains.member home).supply (networkStart home).state.ledger +
        (twoChains.transit (statesOf networkStart)).total +
        ∑ home, (twoChains.member home).holding (networkEnd home).state.ledger :=
  ⟨by decide +kernel, by decide +kernel,
    Network.network_backed network_trace_run network_start_pending network_trace_sound⟩

/-- The proposal that pays the half that was sent back. -/
def returnedProposal : Proposal := ⟨1, 0, resource 0 1, createDepositData 500000000 [1, 0]⟩

theorem returned_proposal_ready :
    twoChains.Ready (statesOf networkEnd) true returnedProposal where
  resource := rfl
  genuine _ := ⟨false, .deposit 2 (resource 0 1) 0 parentAccount .fungibleTransfer
    (createDepositData 500000000 [1, 0]) [], by decide +kernel, _, _, _, rfl, rfl⟩
  payable := by
    refine ⟨⟨⟨native, .fungible 500⟩, .parent, bridgeAccountNative⟩, ?_, ?_⟩
    · exact resolve_ok.mpr ⟨by decide +kernel, by decide +kernel, by decide +kernel, native,
        500000000, by decide +kernel, extract_deposit_data_ok.mpr ⟨by decide +kernel,
          by decide +kernel, by decide +kernel, by decide +kernel, by decide +kernel⟩,
        by decide +kernel, by decide +kernel, nofun⟩
    · exact fun ledger => ⟨_, rfl⟩

theorem home_liquid : Network.Liquid (twoChains.member true) bridgeAccountNative := by
  intro amount ledger henough
  exact ⟨_, if_pos henough⟩

theorem home_sole (home : Bool) (h : home ≠ true) :
    (twoChains.member home).custody = .wrapped := by
  cases home with
  | false => rfl
  | true => exact absurd rfl h

theorem transfers_deliverable_return :
    ∃ final, dispatch plainConfig .none (.executeProposal [returnedProposal]
        (List.replicate 65 0)) depositedState = (.ok (), final) ∧
      final.events = depositedState.events ++ [executionEvent plainConfig returnedProposal] ∧
      isProposalExecuted final.storage 0 1 = true := by
  have hcustody : (twoChains.member true).custody = .reserve bridgeAccountNative := rfl
  have hready : ∀ proposal ∈ [returnedProposal],
      twoChains.Ready (statesOf networkEnd) true proposal := by
    intro proposal hmem
    rw [List.mem_singleton.mp hmem]
    exact returned_proposal_ready
  have hsigned : verifyByMpcAddress (twoChains.member true).cfg (networkEnd true).state.storage
      (constructEcdsaSigningProposalsData (twoChains.member true).cfg [returnedProposal])
      (List.replicate 65 0) = true := by
    decide +kernel
  obtain ⟨final, haccepted, hevents, hmarked⟩ := Network.transfers_deliverable network_trace_run
    network_start_pending network_trace_sound network_start_backed hcustody home_sole home_liquid
    .none (by decide +kernel) (List.cons_ne_nil _ _) hsigned (by decide) hready
  exact ⟨final, haccepted, hevents, hmarked _ (List.mem_singleton.mpr rfl)⟩

end Standalone

end Sygma
