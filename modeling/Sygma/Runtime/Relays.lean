import Sygma.Runtime.TwoChains

/-!
# Chains side by side

Any number of chains run side by side under different domain ids, in any interleaving. Relayers sign
a batch for a chain only if they have reason to: every proposal of it that is at issue is built from
a deposit event of one of the chains. Which proposals are at issue is a parameter of the step, since
it differs with what is to be proved: those of one resource, or those that name one of the chains as
their origin. `pending_genuine` says that along a run the open batches keep to it, however late they
are executed.
-/

namespace Sygma

open Bridge

/-- Chains under different domain ids. -/
structure Chains (ι : Type) (L : ι → Type) where
  cfg : ∀ i, Config (L i)
  confined : ∀ i, Confined (cfg i)
  domain : ι → DomainID
  chainOf : DomainID → Option ι
  chain_of_iff : ∀ {id i}, chainOf id = some i ↔ domain i = id

namespace Chains

variable {ι : Type} {L : ι → Type}

/-- The states of the chains at a point of a run. -/
def statesOf (world : ∀ i, Point (L i)) (i : ι) : State (L i) := (world i).state

section Relay

variable (chains : Chains ι L) (atIssue : Proposal → Prop)

/-- Relayers have reason to sign a proposal for a chain: if it is at issue, it is built from a
deposit event of one of the chains. -/
def Genuine (states : ∀ i, State (L i)) (receiver : ι) (proposal : Proposal) : Prop :=
  atIssue proposal → ∃ sender, ∃ event ∈ (states sender).events,
    BuiltFrom (chains.domain sender) (chains.domain receiver) proposal event

/-- A transition of one chain. A batch is accepted only if its proposals are genuine. -/
inductive Relayed [DecidableEq ι] :
    (∀ i, Point (L i)) → ((i : ι) × Entry (L i)) → (∀ i, Point (L i)) → Prop where
  | step {world : ∀ i, Point (L i)} {i : ι} {entry : Entry (L i)} {next : Point (L i)}
      (hstep : Step (chains.cfg i) (world i) entry next)
      (hrelay : ∀ caller proposals signature,
        entry.action = .call caller (.executeProposal proposals signature) →
        entry.outcome = .ok () → ∀ proposal ∈ proposals,
          chains.Genuine atIssue (statesOf world) i proposal) :
      Relayed world ⟨i, entry⟩ (Function.update world i next)

end Relay

variable {chains : Chains ι L} {atIssue : Proposal → Prop}

theorem eq_of_domain {i j : ι} (h : chains.domain i = chains.domain j) : i = j :=
  Option.some.inj ((chains.chain_of_iff.mpr rfl).symm.trans (chains.chain_of_iff.mpr h.symm))

/-- The proposals of open batches are genuine. -/
def PendingGenuine (chains : Chains ι L) (atIssue : Proposal → Prop) (world : ∀ i, Point (L i)) :
    Prop :=
  ∀ i, ∀ proposal ∈ (world i).pending, chains.Genuine atIssue (statesOf world) i proposal

/-- Where no batch is open, there is nothing to be genuine. -/
theorem pending_genuine_start {start : ∀ i, Point (L i)} (hstart : ∀ i, (start i).pending = []) :
    chains.PendingGenuine atIssue start := by
  intro i proposal hmem
  rw [hstart i] at hmem
  cases hmem

variable [DecidableEq ι]

theorem states_of_update (world : ∀ i, Point (L i)) (i : ι) (next : Point (L i)) :
    statesOf (Function.update world i next) = Function.update (statesOf world) i next.state := by
  funext j
  exact Function.apply_update (fun _ point => point.state) world i next j

/-- Events stay in the logs of the chains. -/
theorem Genuine.mono {states : ∀ i, State (L i)} {i receiver : ι} {proposal : Proposal}
    {after : State (L i)} {added : List Event}
    (h : chains.Genuine atIssue states receiver proposal)
    (hevents : after.events = (states i).events ++ added) :
    chains.Genuine atIssue (Function.update states i after) receiver proposal := by
  intro hissue
  obtain ⟨sender, event, hmem, hbuilt⟩ := h hissue
  refine ⟨sender, event, ?_, hbuilt⟩
  by_cases hsender : sender = i
  · subst hsender
    simp [hevents, hmem]
  · simpa [hsender] using hmem

theorem Relayed.pending_genuine {world after : ∀ i, Point (L i)} {entry : (i : ι) × Entry (L i)}
    (h : chains.Relayed atIssue world entry after)
    (hbefore : chains.PendingGenuine atIssue world) : chains.PendingGenuine atIssue after := by
  obtain ⟨hstep, hrelay⟩ := h
  rename_i i entry next
  obtain ⟨added, hevents, -⟩ := (hstep.effect (chains.confined i)).extends_
  intro j proposal hmem
  rw [states_of_update]
  refine Genuine.mono ?_ hevents
  by_cases hj : j = i
  · subst hj
    rw [Function.update_self] at hmem
    rcases hstep.pending hmem with hold | ⟨caller, proposals, signature, haction, hok, hlisted⟩
    · exact hbefore j proposal hold
    · exact hrelay caller proposals signature haction hok proposal hlisted
  · rw [Function.update_of_ne hj] at hmem
    exact hbefore j proposal hmem

/-- Along a run from chains without open batches, the proposals of open batches are genuine. -/
theorem pending_genuine {start world : ∀ i, Point (L i)} {trace : List ((i : ι) × Entry (L i))}
    (hrun : Run (chains.Relayed atIssue) start trace world)
    (hstart : ∀ i, (start i).pending = []) : chains.PendingGenuine atIssue world :=
  hrun.invariant (chains.PendingGenuine atIssue) (pending_genuine_start hstart)
    fun _ _ _ hstep => hstep.pending_genuine

end Chains

end Sygma
