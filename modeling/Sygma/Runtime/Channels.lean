import Sygma.Library.Channel
import Sygma.Runtime.Network
import Sygma.Runtime.Nonces

/-!
# Chains as parties of numbered channels

Any number of chains run side by side and bridge any resources to each other. What they are for is
to carry payloads, a resource id with its data, over a channel per ordered pair of chains: a deposit
event sends one, and an executed proposal takes one. `channels_refined` says that they do just that:
every run of the chains, in any interleaving, with payouts that deposit again, batches that fail in
part and late, repeated or missing relays, is a run of the channels, whose actions can be read off
its entries. So nothing that was deposited is lost, paid twice or made up on the way.
-/

namespace Sygma

open Bridge

/-! ## The payloads in a log -/

/-- What a transfer carries from one chain to another. -/
structure Payload where
  resourceId : ResourceId
  data : Bytes
  deriving DecidableEq

/-- The payload of a deposit event, with its nonce. -/
def Event.payloadTo (domain : DomainID) : Event → Option (Nat × Payload)
  | .deposit destDomainId resourceId depositNonce _ _ depositData _ =>
      if destDomainId = domain then some (depositNonce.toNat, ⟨resourceId, depositData⟩) else none
  | _ => none

/-- The payloads that a log sends to a domain, in order. -/
def payloadsTo (domain : DomainID) (events : List Event) : List Payload :=
  (events.filterMap (Event.payloadTo domain)).map Prod.snd

theorem payloads_to_append (domain : DomainID) (events more : List Event) :
    payloadsTo domain (events ++ more) = payloadsTo domain events ++ payloadsTo domain more := by
  simp [payloadsTo]

/-- The nonces of the payloads are those of the deposits. -/
theorem payload_nonces (domain : DomainID) (events : List Event) :
    (events.filterMap (Event.payloadTo domain)).map Prod.fst = depositNonces domain events := by
  unfold depositNonces
  rw [List.map_filterMap]
  refine List.filterMap_congr fun event _ => ?_
  cases event with
  | deposit destDomainId =>
      by_cases hdomain : destDomainId = domain <;>
        simp [Event.payloadTo, Event.depositTo, hdomain]
  | _ => rfl

/-- When the deposits of a log are numbered without a gap, the nonce of a deposit is the number of
its payload. -/
theorem payload_at_nonce {L : Type} {state : State L} (hgapless : Gapless state)
    {domain : DomainID} {nonce : Nat} {payload : Payload} {event : Event}
    (hmem : event ∈ state.events) (hpayload : event.payloadTo domain = some (nonce, payload)) :
    (payloadsTo domain state.events)[nonce]? = some payload := by
  have hlisted : (nonce, payload) ∈ state.events.filterMap (Event.payloadTo domain) :=
    List.mem_filterMap.mpr ⟨event, hmem, hpayload⟩
  obtain ⟨index, hindex⟩ := List.mem_iff_getElem?.mp hlisted
  have hnonce : (depositNonces domain state.events)[index]? = some nonce := by
    rw [← payload_nonces, List.getElem?_map, hindex]
    rfl
  -- the nonce at an index of a gapless log is the index
  rw [hgapless domain] at hnonce
  obtain ⟨hlt, heq⟩ := List.getElem?_eq_some_iff.mp hnonce
  rw [List.getElem_range] at heq
  unfold payloadsTo
  rw [List.getElem?_map, ← heq, hindex]
  rfl

/-! ## The flags of executed proposals -/

section Marks

variable {L : Type} {cfg : Config L}

/-- Whatever a proposal comes to, it changes flags by transfers only, that is not at all. -/
theorem execute_proposal_internal_carries (hcfg : Confined cfg) {proposal : Proposal}
    {state final : State L} {outcome : Except (Exec.Fault DispatchError) Unit}
    (h : executeProposalInternal cfg proposal state = (outcome, final)) :
    Carries cfg state final := by
  rw [execute_proposal_internal_eq] at h
  cases hresolve : resolve cfg state.storage proposal with
  | error fault =>
      simp only [hresolve, Prod.mk.injEq] at h
      rw [← h.2]
      exact (Moves.refl state).carries
  | ok payout =>
      simp only [hresolve] at h
      have htransfers := pay_transfers hcfg payout state
      rw [h] at htransfers
      exact htransfers.carries hcfg

/-- A transition that executes a proposal sets its flag, which was not set, and any other one leaves
all flags as they were. -/
inductive Marks (point next : Point L) (entry : Entry L) : Prop where
  | executed {proposal : Proposal} (haction : entry.action = .proposal proposal)
      (hok : entry.outcome = .ok ())
      (hfresh : isProposalExecuted point.state.storage proposal.depositNonce
        proposal.originDomainId = false)
      (hflags : ∀ domain nonce, isProposalExecuted next.state.storage nonce domain =
        (isProposalExecuted point.state.storage nonce domain ||
          decide (domain = proposal.originDomainId ∧ nonce = proposal.depositNonce)))
  | unmarked (hnone : ∀ proposal, entry.action = .proposal proposal → entry.outcome ≠ .ok ())
      (hflags : ∀ domain nonce, isProposalExecuted next.state.storage nonce domain =
        isProposalExecuted point.state.storage nonce domain)

theorem Step.marks (hcfg : Confined cfg) {point next : Point L} {entry : Entry L}
    (h : Step cfg point entry next) : Marks point next entry := by
  cases h with
  | call hdispatch hbatch =>
      refine .unmarked (fun _ haction => by cases haction) fun domain nonce => ?_
      cases dispatch_cases hdispatch hbatch with
      | failed => rfl
      | guarded => exact is_proposal_executed_congr (write_used_nonces _ _) nonce domain
      | deposited hdeposit => exact ((deposit_carries hcfg hdeposit).executions domain nonce).1
  | batch => exact .unmarked (fun _ haction => by cases haction) fun _ _ => rfl
  | proposal hexecute =>
      rename_i proposal rest before after
      rcases execute_one_ok.mp hexecute with ⟨paid, hpaid, rfl⟩ | ⟨error, left, hleft, rfl⟩
      · have hresolve : ∃ payout, resolve cfg before.storage proposal = .ok payout := by
          rw [execute_proposal_internal_eq] at hpaid
          cases hresolve : resolve cfg before.storage proposal with
          | error fault => simp [hresolve] at hpaid
          | ok payout => exact ⟨payout, rfl⟩
        obtain ⟨payout, hresolve⟩ := hresolve
        refine .executed rfl (by rw [hpaid]) (resolve_ok.mp hresolve).2.2.1 ?_
        intro domain nonce
        have hflag := ((execute_proposal_internal_carries hcfg hpaid).executions domain nonce).1
        rw [State.put_storage, is_proposal_executed_set, hflag]
      · refine .unmarked ?_ ?_
        · intro other _ hok
          rw [hleft] at hok
          cases hok
        · intro domain nonce
          exact ((execute_proposal_internal_carries hcfg hleft).executions domain nonce).1
  | transfer htransfer =>
      refine .unmarked (fun _ haction => by cases haction) fun domain nonce => ?_
      exact (((Transfers.transfer .refl htransfer).carries hcfg).executions domain nonce).1
  | upgrade before =>
      refine .unmarked (fun _ haction => by cases haction) fun domain nonce => ?_
      refine is_proposal_executed_congr ?_ nonce domain
      rw [State.put_storage, on_runtime_upgrade_frame]
  | external => exact .unmarked (fun _ haction => by cases haction) fun _ _ => rfl

end Marks

/-! ## The channels between chains -/

namespace Chains

variable {ι : Type} {L : ι → Type} (chains : Chains ι L)

/-- The channels between chains: deposit events are what was sent, and the flags of executed
proposals are what was received. -/
def channels (states : ∀ i, State (L i)) : Channels ι Payload where
  sent sender receiver := payloadsTo (chains.domain receiver) (states sender).events
  received sender receiver :=
    {number | ∃ nonce : DepositNonce, nonce.toNat = number ∧
      isProposalExecuted (states receiver).storage nonce (chains.domain sender) = true}

/-- The proposals that name one of the chains as their origin. -/
def Named (proposal : Proposal) : Prop :=
  ∃ sender, proposal.originDomainId = chains.domain sender

/-- A transition of one chain. A batch is accepted only if its proposals that name one of the chains
are built from deposit events. -/
abbrev WorldStep [DecidableEq ι] :
    (∀ i, Point (L i)) → ((i : ι) × Entry (L i)) → (∀ i, Point (L i)) → Prop :=
  chains.Relayed chains.Named

/-- What an event sends, and to which chain. -/
def messageOf : Event → Option (ι × Payload)
  | .deposit destDomainId resourceId _ _ _ depositData _ =>
      (chains.chainOf destDomainId).map fun receiver => (receiver, ⟨resourceId, depositData⟩)
  | _ => none

/-- What an entry takes. -/
def takenBy {M : Type} (receiver : ι) (entry : Entry M) : List (Channels.Action ι Payload) :=
  match entry.action, entry.outcome with
  | .proposal proposal, .ok () =>
      ((chains.chainOf proposal.originDomainId).map fun sender =>
        .receive sender receiver proposal.depositNonce.toNat
          ⟨proposal.resourceId, proposal.data⟩).toList
  | _, _ => []

/-- The actions on the channels that an entry stands for: its new deposit events, and the proposal
it executed. -/
def actions (entry : (i : ι) × Entry (L i)) : List (Channels.Action ι Payload) :=
  ((entry.2.after.events.drop entry.2.before.events.length).filterMap chains.messageOf).map
      (fun message => .send entry.1 message.1 message.2) ++
    chains.takenBy entry.1 entry.2

variable {chains}

/-- What events send to one chain of all is what they send to its domain. -/
theorem messages_to [DecidableEq ι] (receiver : ι) (events : List Event) :
    ((events.filterMap chains.messageOf).filterMap fun message =>
        if message.1 = receiver then some message.2 else none) =
      payloadsTo (chains.domain receiver) events := by
  unfold payloadsTo
  rw [List.filterMap_filterMap, List.map_filterMap]
  refine List.filterMap_congr fun event _ => ?_
  cases event with
  | deposit destDomainId =>
      by_cases hdomain : destDomainId = chains.domain receiver
      · subst hdomain
        have hchain : chains.chainOf (chains.domain receiver) = some receiver :=
          chains.chain_of_iff.mpr rfl
        simp [messageOf, Event.payloadTo, hchain]
      · cases hchain : chains.chainOf destDomainId with
        | none => simp [messageOf, Event.payloadTo, hdomain, hchain]
        | some other =>
            have hother : other ≠ receiver := by
              rintro rfl
              exact hdomain (chains.chain_of_iff.mp hchain).symm
            simp [messageOf, Event.payloadTo, hdomain, hchain, hother]
  | _ => rfl

/-- A proposal that is genuine takes a payload that was sent under its nonce. -/
theorem Genuine.sent {states : ∀ i, State (L i)} {receiver sender : ι} {proposal : Proposal}
    (h : chains.Genuine chains.Named states receiver proposal)
    (hgapless : ∀ j, Gapless (states j))
    (horigin : proposal.originDomainId = chains.domain sender) :
    ((chains.channels states).sent sender receiver)[proposal.depositNonce.toNat]? =
      some ⟨proposal.resourceId, proposal.data⟩ := by
  obtain ⟨actual, event, hmem, account, transferType, response, rfl, hactual⟩ := h ⟨sender, horigin⟩
  obtain rfl : actual = sender := eq_of_domain (hactual.symm.trans horigin)
  exact payload_at_nonce (hgapless actual) hmem (by simp [Event.payloadTo])

/-- A proposal whose flag is not set was not received. -/
theorem not_received {states : ∀ i, State (L i)} {receiver sender : ι} {proposal : Proposal}
    (horigin : proposal.originDomainId = chains.domain sender)
    (hfresh : isProposalExecuted (states receiver).storage proposal.depositNonce
      proposal.originDomainId = false) :
    proposal.depositNonce.toNat ∉ (chains.channels states).received sender receiver := by
  rintro ⟨nonce, hnonce, hset⟩
  obtain rfl := BitVec.eq_of_toNat_eq hnonce
  rw [horigin, hset] at hfresh
  cases hfresh

variable [DecidableEq ι]

section Simulation

variable {states : ∀ i, State (L i)} {i : ι} {point next : Point (L i)} {entry : Entry (L i)}

/-- The deposit events that a transition adds are sent, one after the other. -/
theorem sent_after (hstate : point.state = states i) {added : List Event}
    (hevents : next.state.events = point.state.events ++ added) :
    (chains.channels (Function.update states i next.state)).sent =
      ((chains.channels states).pushAll i (added.filterMap chains.messageOf)).sent := by
  funext sender receiver
  simp only [Channels.pushAll, messages_to]
  by_cases hsender : sender = i
  · subst hsender
    simp [channels, hevents, hstate, payloads_to_append]
  · simp [channels, hsender]

/-- Where no flag changes, nothing is received. -/
theorem received_unmarked (hstate : point.state = states i)
    (hflags : ∀ sender nonce,
      isProposalExecuted next.state.storage nonce (chains.domain sender) =
        isProposalExecuted point.state.storage nonce (chains.domain sender)) :
    (chains.channels (Function.update states i next.state)).received =
      (chains.channels states).received := by
  funext sender receiver
  by_cases hreceiver : receiver = i
  · subst hreceiver
    simp [channels, hflags, hstate]
  · simp [channels, hreceiver]

/-- The flag of a proposal is the receipt of its nonce. -/
theorem received_marked (hstate : point.state = states i) {proposal : Proposal} {sender : ι}
    (horigin : proposal.originDomainId = chains.domain sender)
    (hflags : ∀ domain nonce, isProposalExecuted next.state.storage nonce domain =
      (isProposalExecuted point.state.storage nonce domain ||
        decide (domain = proposal.originDomainId ∧ nonce = proposal.depositNonce))) :
    (chains.channels (Function.update states i next.state)).received =
      ((chains.channels states).take sender i proposal.depositNonce.toNat).received := by
  funext other receiver
  by_cases hreceiver : receiver = i
  · subst hreceiver
    by_cases hother : other = sender
    · subst hother
      ext number
      simp only [channels, Channels.take, Function.update_self, hflags, horigin, hstate,
        Set.mem_ofPred_eq, true_and, and_self, if_true, Set.mem_insert_iff, Bool.or_eq_true,
        decide_eq_true_eq]
      constructor
      · rintro ⟨nonce, rfl, hold | rfl⟩
        · exact .inr ⟨nonce, rfl, hold⟩
        · exact .inl rfl
      · rintro (rfl | ⟨nonce, rfl, hold⟩)
        · exact ⟨_, rfl, .inr rfl⟩
        · exact ⟨nonce, rfl, .inl hold⟩
    · have hdomain : chains.domain other ≠ proposal.originDomainId := fun heq =>
        hother (eq_of_domain (heq.trans horigin))
      simp [channels, Channels.take, hflags, hother, hdomain, hstate]
  · simp [channels, Channels.take, hreceiver]

/-- After the deposits of a transition, what it takes leads to the channels after it. -/
theorem taken_run (hstate : point.state = states i)
    (hstep : Step (chains.cfg i) point entry next)
    (hpending : ∀ proposal ∈ point.pending, chains.Genuine chains.Named states i proposal)
    (hgapless : ∀ j, Gapless (states j)) {added : List Event}
    (hevents : next.state.events = point.state.events ++ added) :
    Run Channels.Step ((chains.channels states).pushAll i (added.filterMap chains.messageOf))
      (chains.takenBy i entry) (chains.channels (Function.update states i next.state)) := by
  have hsent : (chains.channels (Function.update states i next.state)).sent =
      ((chains.channels states).pushAll i (added.filterMap chains.messageOf)).sent :=
    sent_after hstate hevents
  -- without a receipt, what was sent is all there is
  have hsilent : chains.takenBy i entry = [] → (∀ sender nonce,
      isProposalExecuted next.state.storage nonce (chains.domain sender) =
        isProposalExecuted point.state.storage nonce (chains.domain sender)) →
      Run Channels.Step ((chains.channels states).pushAll i (added.filterMap chains.messageOf))
        (chains.takenBy i entry) (chains.channels (Function.update states i next.state)) := by
    intro htaken hflags
    have hfinal : chains.channels (Function.update states i next.state) =
        (chains.channels states).pushAll i (added.filterMap chains.messageOf) :=
      Channels.ext hsent (received_unmarked hstate hflags)
    rw [htaken, hfinal]
    exact .refl
  cases hstep.marks (chains.confined i) with
  | unmarked hnone hflags =>
      refine hsilent ?_ fun sender nonce => hflags _ nonce
      unfold takenBy
      split
      · rename_i proposal haction hok
        exact absurd hok (hnone proposal haction)
      · rfl
  | executed haction hok hfresh hflags =>
      rename_i proposal
      have htaken : chains.takenBy i entry =
          ((chains.chainOf proposal.originDomainId).map fun sender =>
            .receive sender i proposal.depositNonce.toNat
              ⟨proposal.resourceId, proposal.data⟩).toList := by
        simp only [takenBy, haction, hok]
      cases hchain : chains.chainOf proposal.originDomainId with
      | none =>
          refine hsilent (by rw [htaken, hchain]; rfl) fun sender nonce => ?_
          have hdomain : chains.domain sender ≠ proposal.originDomainId := by
            intro heq
            rw [chains.chain_of_iff.mpr heq] at hchain
            cases hchain
          simp [hflags, hdomain]
      | some sender =>
          have horigin : proposal.originDomainId = chains.domain sender :=
            (chains.chain_of_iff.mp hchain).symm
          have hgenuine := hpending proposal (hstep.proposal_pending haction)
          rw [hstate] at hfresh
          have hfinal : chains.channels (Function.update states i next.state) =
              ((chains.channels states).pushAll i (added.filterMap chains.messageOf)).take sender i
                proposal.depositNonce.toNat :=
            Channels.ext hsent (received_marked hstate horigin hflags)
          rw [htaken, hchain, hfinal]
          exact Run.snoc .refl (.receive
            (Channels.getElem?_push_all (hgenuine.sent hgapless horigin) _ _)
            (not_received horigin hfresh))

/-- A transition of a chain is a few actions on the channels. -/
theorem simulates (hstate : point.state = states i)
    (hstep : Step (chains.cfg i) point entry next)
    (hpending : ∀ proposal ∈ point.pending, chains.Genuine chains.Named states i proposal)
    (hgapless : ∀ j, Gapless (states j)) :
    Run Channels.Step (chains.channels states) (chains.actions ⟨i, entry⟩)
      (chains.channels (Function.update states i next.state)) := by
  obtain ⟨added, hevents, -⟩ := (hstep.effect (chains.confined i)).extends_
  have hadded : entry.after.events.drop entry.before.events.length = added := by
    rw [hstep.entry_eq.1, hstep.entry_eq.2, hevents, List.drop_left]
  have hsends := (chains.channels states).run_sends i (added.filterMap chains.messageOf)
  unfold actions
  simp only [hadded]
  exact hsends.append (taken_run hstate hstep hpending hgapless hevents)

end Simulation

/-- What holds of the chains along a run: their deposits are numbered without a gap, and the
proposals of open batches are genuine. -/
structure Ordered (chains : Chains ι L) (world : ∀ i, Point (L i)) : Prop where
  gapless : ∀ i, Gapless (world i).state
  genuine : chains.PendingGenuine chains.Named world

theorem Relayed.ordered {world after : ∀ i, Point (L i)} {entry : (i : ι) × Entry (L i)}
    (h : chains.WorldStep world entry after) (hordered : chains.Ordered world) :
    chains.Ordered after := by
  refine ⟨?_, h.pending_genuine hordered.genuine⟩
  obtain ⟨hstep, -⟩ := h
  rename_i i entry next
  intro j
  by_cases hj : j = i
  · subst hj
    rw [Function.update_self]
    exact (hordered.gapless j).continue (hstep.effect (chains.confined j)).numbered
  · rw [Function.update_of_ne hj]
    exact hordered.gapless j

/-- A run of the chains is a run of the channels between them. -/
theorem run_simulates {start world : ∀ i, Point (L i)} {trace : List ((i : ι) × Entry (L i))}
    (hrun : Run chains.WorldStep start trace world) (hordered : chains.Ordered start) :
    Run Channels.Step (chains.channels (statesOf start)) (trace.flatMap chains.actions)
      (chains.channels (statesOf world)) := by
  induction hrun with
  | refl => exact .refl
  | snoc hprefix hlast ih =>
      have hmiddle := hprefix.invariant chains.Ordered hordered fun _ _ _ h => h.ordered
      obtain ⟨hstep, hrelay⟩ := hlast
      rename_i earlier middle i entry next
      rw [List.flatMap_append, List.flatMap_singleton, states_of_update]
      exact ih.append (simulates rfl hstep (hmiddle.genuine i) hmiddle.gapless)

/-- Every run of the chains, in any interleaving, is a run of the channels between them, with the
actions that its entries stand for. So on every channel what was in flight and what was deposited
since is, with multiplicities, what was paid out and what is in flight now. -/
theorem channels_refined {start world : ∀ i, Point (L i)} {trace : List ((i : ι) × Entry (L i))}
    (hrun : Run chains.WorldStep start trace world) (hordered : chains.Ordered start)
    (hvalid : (chains.channels (statesOf start)).Valid) :
    Run Channels.Step (chains.channels (statesOf start)) (trace.flatMap chains.actions)
        (chains.channels (statesOf world)) ∧
      ∀ sender receiver,
        (chains.channels (statesOf world)).inFlight sender receiver +
            (trace.flatMap chains.actions).filterMap
              (Channels.Action.receivedOn sender receiver) =
          (chains.channels (statesOf start)).inFlight sender receiver +
            (trace.flatMap chains.actions).filterMap (Channels.Action.sentOn sender receiver) := by
  have hsimulated := run_simulates hrun hordered
  exact ⟨hsimulated, fun sender receiver => Channels.conserved hsimulated hvalid sender receiver⟩

end Chains

/-! ## The chains of a network -/

namespace Network

variable {resource : ResourceId} {ι : Type} {L : ι → Type}

variable {net : Network resource ι L}

/-- A run of a network whose batches are about the resource only is a run of its chains. -/
theorem chains_run [DecidableEq ι] {start world : ∀ i, Point (L i)}
    {trace : List ((i : ι) × Entry (L i))} (hrun : Run net.NetStep start trace world)
    (honly : ∀ entry ∈ trace, ∀ caller proposals signature,
      entry.2.action = .call caller (.executeProposal proposals signature) →
      ∀ proposal ∈ proposals, proposal.resourceId = resource) :
    Run net.chains.WorldStep start trace world := by
  induction hrun with
  | refl => exact .refl
  | snoc hprefix hlast ih =>
      have hearlier := ih fun entry hmem => honly entry (List.mem_append_left _ hmem)
      obtain ⟨hstep, hrelay⟩ := hlast
      refine hearlier.snoc (.step hstep ?_)
      intro caller proposals signature haction hok proposal hmem _
      exact hrelay caller proposals signature haction hok proposal hmem
        (honly _ (List.mem_append_right _ (List.mem_singleton.mpr rfl)) caller proposals signature
          haction proposal hmem)

end Network

namespace Standalone

open Chains (statesOf)

/-- The home chain has numbered its deposits and flagged its executions from the start on. -/
theorem fee_state_recorded : Gapless feeState ∧ Recorded feeState := by
  have hconfined : Confined plainConfig := confined_of_lift rfl
  obtain ⟨trace, hrun⟩ := dispatch_all_run plainConfig
    [(.root, .setMpcAddress constantSigner), (.root, .registerDomain 1 1),
      (.root, .setFee 1 native 3), (.root, .setFeeHandler 1 native .basicFeeHandler)]
    (.genesis 1 ⟨fun _ _ => 2000⟩)
  refine hrun.invariant (fun point => Gapless point.state ∧ Recorded point.state)
    ⟨gapless_genesis _ _, recorded_genesis _ _⟩ ?_
  rintro before entry after hstep ⟨hgapless, hrecorded⟩
  have heffect := hstep.effect hconfined
  exact ⟨hgapless.continue heffect.numbered, heffect.recorded hrecorded⟩

theorem network_start_ordered : twoChains.chains.Ordered networkStart := by
  constructor
  · intro home
    cases home with
    | true => exact fee_state_recorded.1
    | false => exact fun _ => rfl
  · intro home proposal hmem
    rw [network_start_pending home] at hmem
    cases hmem

/-- Nothing was received at the start. -/
theorem network_start_valid :
    (twoChains.chains.channels (statesOf networkStart)).Valid := by
  have hevents : feeState.events = [.registerDestDomain (Vector.replicate 32 0) 1 1,
      .feeSet 1 native 3, .feeHandlerSet 1 native .basicFeeHandler] := by decide +kernel
  have hhome : statesOf networkStart true = feeState := by
    simp only [statesOf, networkStart, if_true]
  rintro sender receiver number ⟨nonce, -, hset⟩
  exfalso
  cases receiver with
  | true =>
      have hrecorded := fee_state_recorded.2 (twoChains.chains.domain sender) nonce
      rw [hhome] at hset
      rw [hset, hevents] at hrecorded
      cases hrecorded
  | false =>
      have hflag : isProposalExecuted issuingState.storage nonce (twoChains.chains.domain sender) =
          false := Bitmap.isMarked_zero nonce
      exact Bool.false_ne_true (hflag.symm.trans hset)

/-- At the end of the run of the two chains the transfer to the issuing chain has arrived, and the
half that was sent back is in flight. -/
theorem channels_refined_return :
    (twoChains.chains.channels (statesOf networkEnd)).inFlight true false = 0 ∧
    (twoChains.chains.channels (statesOf networkEnd)).inFlight false true =
      {⟨resource 0 1, createDepositData 500000000 [1, 0]⟩} := by
  have honly : ∀ entry ∈ networkTrace, ∀ caller proposals signature,
      entry.2.action = .call caller (.executeProposal proposals signature) →
      ∀ proposal ∈ proposals, proposal.resourceId = resource 0 1 := by
    intro entry hmem caller proposals signature haction proposal hlisted
    simp only [networkTrace, List.mem_cons, List.not_mem_nil, or_false] at hmem
    rcases hmem with rfl | rfl | rfl | rfl
    · cases haction
    · cases haction
      rw [List.mem_singleton.mp hlisted]
      rfl
    · cases haction
    · cases haction
  obtain ⟨-, hconserved⟩ := Chains.channels_refined
    (Network.chains_run network_trace_run honly) network_start_ordered network_start_valid
  -- no chain had deposited anything before the run
  have hhome : (twoChains.chains.channels (statesOf networkStart)).sent true false =
      [] := by decide +kernel
  have hissuer : (twoChains.chains.channels (statesOf networkStart)).sent false true = [] :=
    rfl
  have hthere := hconserved true false
  have hback := hconserved false true
  rw [Channels.in_flight_nil hhome,
    show (networkTrace.flatMap twoChains.chains.actions).filterMap
      (Channels.Action.receivedOn true false) =
        [⟨resource 0 1, createDepositData 1000000000 [1, 0]⟩] by decide +kernel,
    show (networkTrace.flatMap twoChains.chains.actions).filterMap
      (Channels.Action.sentOn true false) =
        [⟨resource 0 1, createDepositData 1000000000 [1, 0]⟩] by decide +kernel] at hthere
  rw [Channels.in_flight_nil hissuer,
    show (networkTrace.flatMap twoChains.chains.actions).filterMap
      (Channels.Action.receivedOn false true) = [] by decide +kernel,
    show (networkTrace.flatMap twoChains.chains.actions).filterMap
      (Channels.Action.sentOn false true) =
        [⟨resource 0 1, createDepositData 500000000 [1, 0]⟩] by decide +kernel] at hback
  exact ⟨by simpa using hthere, by simpa using hback⟩

end Standalone

end Sygma
