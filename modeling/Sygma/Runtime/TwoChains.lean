import Sygma.Runtime.Executions
import Sygma.Runtime.Solvency

/-!
# Transfers between two chains

Two chains run side by side. Relayers submit to the second chain batches whose proposals for the
first chain's domain are built from deposit events of the first chain, in any order and grouping
and as often as they like; everything else on both chains is unconstrained. `payouts_backed` says
that the payouts for the first chain then map injectively to its deposits, and that each payout
goes to the recipient of its deposit, in the asset bound to the deposit's resource id, and is worth
at most what was bridged.
-/

namespace Sygma

open Bridge

variable {L M : Type}

/-- The points of two chains. -/
structure Pair (L M : Type) where
  source : Point L
  dest : Point M

/-- A transition of one of two chains. -/
inductive PairEntry (L M : Type) where
  | source (entry : Entry L)
  | dest (entry : Entry M)

/-- A proposal carries the nonce, resource id and data of a deposit event: the event is for domain
`dest`, and the proposal names `origin` as its origin. -/
def BuiltFrom (origin dest : DomainID) (proposal : Proposal) (event : Event) : Prop :=
  ∃ sender transferType handlerResponse,
    event = .deposit dest proposal.resourceId proposal.depositNonce sender transferType
      proposal.data handlerResponse ∧ proposal.originDomainId = origin

/-- A transition of two chains. A batch is accepted on the second chain only if its proposals for
the first chain's domain are built from deposit events that the first chain has emitted. -/
inductive PairStep (cfgSource : Config L) (cfgDest : Config M) (origin dest : DomainID) :
    Pair L M → PairEntry L M → Pair L M → Prop where
  | source {pair : Pair L M} {entry : Entry L} {next : Point L}
      (hstep : Step cfgSource pair.source entry next) :
      PairStep cfgSource cfgDest origin dest pair (.source entry) ⟨next, pair.dest⟩
  | dest {pair : Pair L M} {entry : Entry M} {next : Point M}
      (hstep : Step cfgDest pair.dest entry next)
      (hrelay : ∀ caller proposals signature,
        entry.action = .call caller (.executeProposal proposals signature) →
        entry.outcome = .ok () → ∀ proposal ∈ proposals, proposal.originDomainId = origin →
          ∃ event ∈ pair.source.state.events, BuiltFrom origin dest proposal event) :
      PairStep cfgSource cfgDest origin dest pair (.dest entry) ⟨pair.source, next⟩

/-- The transitions of the first chain. -/
def sourceEntries (trace : List (PairEntry L M)) : List (Entry L) :=
  trace.filterMap fun entry =>
    match entry with
    | .source entry => some entry
    | .dest _ => none

/-- The transitions of the second chain. -/
def destEntries (trace : List (PairEntry L M)) : List (Entry M) :=
  trace.filterMap fun entry =>
    match entry with
    | .source _ => none
    | .dest entry => some entry

/-- An entry is a payout for a proposal of the given origin. -/
def Entry.PaysFor (origin : DomainID) (entry : Entry M) (proposal : Proposal) : Prop :=
  entry.action = .proposal proposal ∧ entry.outcome = .ok () ∧ proposal.originDomainId = origin

/-- A payout is backed by a deposit: the deposit was made by a transition of the source chain, the
payout goes to the location its recipient bytes encode, in the asset bound to its resource id, and
its value is at most that of the amount less the fee. -/
def Backed (cfgSource : Config L) (cfgDest : Config M) (tableSource tableDest : List (AssetId × U8))
    (dest : DomainID) (made : Entry L) (event : Event) (entry : Entry M) (proposal : Proposal) :
    Prop :=
  ∃ deposited receipt payout amount decimalSource decimalDest,
    Deposited cfgSource made.before made.after deposited receipt event ∧
    event.depositTo = some (dest, proposal.depositNonce) ∧
    resolve cfgDest entry.before.storage proposal = .ok payout ∧
    (pay cfgDest payout entry.before).1 = .ok () ∧
    cfgDest.decodeMultiLocation receipt.recipient = some payout.location ∧
    ridToAssetid cfgDest receipt.resourceId = some payout.asset.id ∧
    payout.asset.fun_ = .fungible amount ∧
    decimalsOf tableSource deposited.id = some decimalSource ∧
    decimalsOf tableDest payout.asset.id = some decimalDest ∧
    amount.toNat * 10 ^ decimalSource.toNat ≤ receipt.bridged.toNat * 10 ^ decimalDest.toNat

variable {cfgSource : Config L} {cfgDest : Config M} {origin dest : DomainID}

/-- What two chains keep while they run. -/
structure Attributed (cfgSource : Config L) (cfgDest : Config M) (origin dest : DomainID)
    (trace : List (PairEntry L M)) (pair : Pair L M) : Prop where
  issued : ∀ event ∈ pair.source.state.events, event.depositTo.isSome = true →
    ∃ made ∈ sourceEntries trace, ∃ asset receipt,
      Deposited cfgSource made.before made.after asset receipt event
  pending : ∀ proposal ∈ pair.dest.pending, proposal.originDomainId = origin →
    ∃ event ∈ pair.source.state.events, BuiltFrom origin dest proposal event
  built : ∀ entry ∈ destEntries trace, ∀ proposal, entry.PaysFor origin proposal →
    ∃ event ∈ pair.source.state.events, BuiltFrom origin dest proposal event
  paid : ∀ entry ∈ destEntries trace, ∀ proposal, entry.PaysFor origin proposal →
    ∃ payout, resolve cfgDest entry.before.storage proposal = .ok payout ∧
      (pay cfgDest payout entry.before).1 = .ok ()
  marked : ∀ entry ∈ destEntries trace, ∀ proposal, entry.PaysFor origin proposal →
    isProposalExecuted pair.dest.state.storage proposal.depositNonce origin = true
  distinct : (destEntries trace).Pairwise fun entry later => ∀ proposal other,
    entry.PaysFor origin proposal → later.PaysFor origin other →
      proposal.depositNonce ≠ other.depositNonce

theorem attributed_genesis (versionSource versionDest : U16) (ledgerSource : L) (ledgerDest : M) :
    Attributed cfgSource cfgDest origin dest []
      ⟨.genesis versionSource ledgerSource, .genesis versionDest ledgerDest⟩ where
  issued := by
    intro event hmem
    cases hmem
  pending := by
    intro proposal hmem
    cases hmem
  built := by
    intro entry hmem
    cases hmem
  paid := by
    intro entry hmem
    cases hmem
  marked := by
    intro entry hmem
    cases hmem
  distinct := .nil

/-- A transition of the source chain keeps the attribution: its log only grows, by deposits that
were issued. -/
theorem Attributed.source_step (hsource : Confined cfgSource) {trace : List (PairEntry L M)}
    {pair : Pair L M} {entry : Entry L} {next : Point L}
    (h : Attributed cfgSource cfgDest origin dest trace pair)
    (hstep : Step cfgSource pair.source entry next) :
    Attributed cfgSource cfgDest origin dest (trace ++ [.source entry]) ⟨next, pair.dest⟩ := by
  have hentries : destEntries (trace ++ [.source entry]) = destEntries trace := by
    simp [destEntries]
  have hmade : sourceEntries (trace ++ [.source entry]) = sourceEntries trace ++ [entry] := by
    simp [sourceEntries]
  obtain ⟨added, hevents, hadded⟩ := (hstep.effect hsource).extends_
  have hgrows : ∀ {proposal : Proposal},
      (∃ event ∈ pair.source.state.events, BuiltFrom origin dest proposal event) →
      ∃ event ∈ next.state.events, BuiltFrom origin dest proposal event := by
    rintro proposal ⟨event, hmem, hbuilt⟩
    exact ⟨event, by rw [hevents]; exact List.mem_append_left _ hmem, hbuilt⟩
  refine ⟨?_, ?_, ?_, ?_, ?_, ?_⟩
  · intro event hmem hsome
    have hmem : event ∈ pair.source.state.events ++ added := hevents ▸ hmem
    rw [hmade]
    rcases List.mem_append.mp hmem with hmem | hmem
    · obtain ⟨made, hlisted, hdeposited⟩ := h.issued event hmem hsome
      exact ⟨made, List.mem_append_left _ hlisted, hdeposited⟩
    · refine ⟨entry, by simp, ?_⟩
      obtain ⟨⟨domain, nonce⟩, hevent⟩ := Option.isSome_iff_exists.mp hsome
      obtain ⟨-, -, -, hdeposited⟩ := hadded event hmem domain nonce hevent
      rw [hstep.entry_eq.1, hstep.entry_eq.2]
      exact hdeposited
  · intro proposal hmem hdomain
    exact hgrows (h.pending proposal hmem hdomain)
  · intro other hmem proposal hpays
    rw [hentries] at hmem
    exact hgrows (h.built other hmem proposal hpays)
  · rw [hentries]
    exact h.paid
  · rw [hentries]
    exact h.marked
  · rw [hentries]
    exact h.distinct

/-- The proposals that are pending after a transition were pending before it, or stand in a batch
that it accepted. -/
theorem Step.pending {cfg : Config M} {point next : Point M} {entry : Entry M}
    (h : Step cfg point entry next) {proposal : Proposal} (hmem : proposal ∈ next.pending) :
    proposal ∈ point.pending ∨ ∃ caller proposals signature,
      entry.action = .call caller (.executeProposal proposals signature) ∧
        entry.outcome = .ok () ∧ proposal ∈ proposals := by
  cases h with
  | batch => exact .inr ⟨_, _, _, rfl, rfl, hmem⟩
  | proposal => exact .inl (List.mem_cons_of_mem _ hmem)
  | call | transfer | upgrade | external => cases hmem

/-- A proposal that is executed was pending. -/
theorem Step.proposal_pending {cfg : Config M} {point next : Point M} {entry : Entry M}
    (h : Step cfg point entry next) {proposal : Proposal}
    (haction : entry.action = .proposal proposal) : proposal ∈ point.pending := by
  cases h with
  | proposal =>
      cases haction
      exact List.mem_cons_self
  | call | batch | transfer | upgrade | external => cases haction

/-- A transition of the destination chain keeps the attribution: a proposal is paid only if it was
pending and its flag was not set, and sets the flag. -/
theorem Attributed.dest_step (hdest : Confined cfgDest) {trace : List (PairEntry L M)}
    {pair : Pair L M} {entry : Entry M} {next : Point M}
    (h : Attributed cfgSource cfgDest origin dest trace pair)
    (hstep : Step cfgDest pair.dest entry next)
    (hrelay : ∀ caller proposals signature,
      entry.action = .call caller (.executeProposal proposals signature) →
      entry.outcome = .ok () → ∀ proposal ∈ proposals, proposal.originDomainId = origin →
        ∃ event ∈ pair.source.state.events, BuiltFrom origin dest proposal event) :
    Attributed cfgSource cfgDest origin dest (trace ++ [.dest entry]) ⟨pair.source, next⟩ := by
  have hentries : destEntries (trace ++ [.dest entry]) = destEntries trace ++ [entry] := by
    simp [destEntries]
  have hnew : ∀ other ∈ destEntries (trace ++ [.dest entry]),
      other ∈ destEntries trace ∨ other = entry := by
    intro other hmem
    rw [hentries] at hmem
    simpa using hmem
  have hmade : sourceEntries (trace ++ [.dest entry]) = sourceEntries trace := by
    simp [sourceEntries]
  refine ⟨by rw [hmade]; exact h.issued, ?_, ?_, ?_, ?_, ?_⟩
  · intro proposal hmem hdomain
    rcases hstep.pending hmem with hpending | ⟨caller, proposals, signature, haction, hok, hlisted⟩
    · exact h.pending proposal hpending hdomain
    · exact hrelay caller proposals signature haction hok proposal hlisted hdomain
  · intro other hmem proposal hpays
    rcases hnew other hmem with hold | rfl
    · exact h.built other hold proposal hpays
    · exact h.pending proposal (hstep.proposal_pending hpays.1) hpays.2.2
  · intro other hmem proposal hpays
    rcases hnew other hmem with hold | rfl
    · exact h.paid other hold proposal hpays
    · obtain ⟨payout, hresolve, hpay, -⟩ := hstep.proposal_executed hpays.1 hpays.2.1
      rw [hstep.entry_eq.1]
      exact ⟨payout, hresolve, hpay⟩
  · intro other hmem proposal hpays
    rcases hnew other hmem with hold | rfl
    · exact (hstep.effect hdest).executed_mono (h.marked other hold proposal hpays)
    · obtain ⟨payout, -, -, hmarked⟩ := hstep.proposal_executed hpays.1 hpays.2.1
      rw [hpays.2.2] at hmarked
      exact hmarked
  · rw [hentries, List.pairwise_append]
    refine ⟨h.distinct, List.pairwise_singleton _ _, ?_⟩
    intro earlier hearlier later hlater proposal other hpays hpaysLater hsame
    obtain rfl := List.mem_singleton.mp hlater
    -- the earlier payout set the flag that the later one found unset
    have hset := h.marked earlier hearlier proposal hpays
    obtain ⟨payout, hresolve, -⟩ := hstep.proposal_executed hpaysLater.1 hpaysLater.2.1
    have hunset := (resolve_ok.mp hresolve).2.2.1
    rw [hpaysLater.2.2, ← hsame, hset] at hunset
    cases hunset

/-- Two chains that start empty stay attributed. -/
theorem attributed_run (hsource : Confined cfgSource) (hdest : Confined cfgDest)
    {versionSource versionDest : U16} {ledgerSource : L} {ledgerDest : M}
    {trace : List (PairEntry L M)} {pair : Pair L M}
    (hrun : Run (PairStep cfgSource cfgDest origin dest)
      ⟨.genesis versionSource ledgerSource, .genesis versionDest ledgerDest⟩ trace pair) :
    Attributed cfgSource cfgDest origin dest trace pair := by
  induction hrun with
  | refl => exact attributed_genesis _ _ _ _
  | snoc _ hstep ih =>
      cases hstep with
      | source hstep => exact ih.source_step hsource hstep
      | dest hstep hrelay => exact ih.dest_step hdest hstep hrelay

/-- A payout for a proposal that was built from the event of a deposit is backed by the deposit:
what the event publishes is worth at most what was bridged, and what is paid for it is worth at most
what was published. -/
theorem backed_of_built {debugAssertionsSource debugAssertionsDest : Bool}
    {tableSource tableDest : List (AssetId × U8)}
    (hsource : cfgSource.decimalConverter = sygmaDecimalConverter debugAssertionsSource tableSource)
    (hdest : cfgDest.decimalConverter = sygmaDecimalConverter debugAssertionsDest tableDest)
    (hsmallSource : SmallDecimals tableSource) (hsmallDest : SmallDecimals tableDest)
    {made : Entry L} {entry : Entry M} {event : Event} {proposal : Proposal} {asset : MultiAsset}
    {receipt : Receipt} {payout : Payout}
    (hdeposited : Deposited cfgSource made.before made.after asset receipt event)
    (hbuilt : BuiltFrom origin dest proposal event)
    (hresolve : resolve cfgDest entry.before.storage proposal = .ok payout)
    (hpay : (pay cfgDest payout entry.before).1 = .ok ()) :
    Backed cfgSource cfgDest tableSource tableDest dest made event entry proposal := by
  obtain ⟨left, ⟨caller, target, before, moved, -, hdeposits, -, hevent⟩, -⟩ := id hdeposited
  obtain ⟨sender, transferType, handlerResponse, hproposal, -⟩ := hbuilt
  have hsame := hevent.symm.trans hproposal
  injection hsame with hdomain hresource hnonce _ _ hdata
  obtain ⟨-, -, -, assetId, published, hasset, hextract, hfrom, -⟩ := resolve_ok.mp hresolve
  rw [← hdata] at hextract
  obtain ⟨rfl, hlocation⟩ := extract_create_deposit_data hextract
  have hto := hdeposits.converted
  rw [hsource] at hto
  rw [hdest] at hfrom
  obtain ⟨decimalSource, hdecimalSource, hpublished⟩ := convert_to_value hsmallSource hto
  obtain ⟨decimalDest, amount, hdecimalDest, hpaid, hamount⟩ := convert_from_value hsmallDest hfrom
  have hid : payout.asset.id = assetId := by rw [hpaid]
  refine ⟨asset, receipt, payout, amount, decimalSource, decimalDest, hdeposited, ?_, hresolve,
    hpay, hlocation, ?_, by rw [hpaid], hdecimalSource, by rw [hid]; exact hdecimalDest, ?_⟩
  · rw [hproposal]
    rfl
  · rw [hid, hresource]
    exact hasset
  · refine Nat.le_of_mul_le_mul_right (c := 10 ^ 18) ?_ (Nat.pow_pos (by decide))
    calc amount.toNat * 10 ^ decimalSource.toNat * 10 ^ 18
        = amount.toNat * 10 ^ 18 * 10 ^ decimalSource.toNat := by ring
      _ ≤ receipt.published.toNat * 10 ^ decimalDest.toNat * 10 ^ decimalSource.toNat :=
          Nat.mul_le_mul_right _ hamount
      _ = receipt.published.toNat * 10 ^ decimalSource.toNat * 10 ^ decimalDest.toNat := by ring
      _ ≤ receipt.bridged.toNat * 10 ^ 18 * 10 ^ decimalDest.toNat :=
          Nat.mul_le_mul_right _ hpublished
      _ = receipt.bridged.toNat * 10 ^ decimalDest.toNat * 10 ^ 18 := by ring

/-- Two payouts for one origin that are built from the same event are the same payout. -/
theorem Attributed.index_inj {trace : List (PairEntry L M)} {pair : Pair L M}
    (h : Attributed cfgSource cfgDest origin dest trace pair) {i j : Nat} {entry later : Entry M}
    {proposal other : Proposal} {event : Event}
    (hi : (destEntries trace)[i]? = some entry) (hpays : entry.PaysFor origin proposal)
    (hj : (destEntries trace)[j]? = some later) (hpaysLater : later.PaysFor origin other)
    (hbuilt : BuiltFrom origin dest proposal event)
    (hbuiltLater : BuiltFrom origin dest other event) : i = j := by
  obtain ⟨_, _, _, hevent, -⟩ := hbuilt
  obtain ⟨_, _, _, heventLater, -⟩ := hbuiltLater
  have hsame := hevent.symm.trans heventLater
  injection hsame with _ _ hnonce
  obtain ⟨hlength, rfl⟩ := List.getElem?_eq_some_iff.mp hi
  obtain ⟨hlengthLater, rfl⟩ := List.getElem?_eq_some_iff.mp hj
  have hdistinct := List.pairwise_iff_getElem.mp h.distinct
  rcases Nat.lt_trichotomy i j with hlt | heq | hgt
  · exact absurd hnonce (hdistinct i j hlength hlengthLater hlt _ _ hpays hpaysLater)
  · exact heq
  · exact absurd hnonce.symm (hdistinct j i hlengthLater hlength hgt _ _ hpaysLater hpays)

/-- Whatever two chains do, and however relayers order, group and repeat the proposals they build
from the deposits of the first, the payouts on the second for the first map injectively to these
deposits, and each is backed by its own. -/
theorem payouts_backed {debugAssertionsSource debugAssertionsDest : Bool}
    {tableSource tableDest : List (AssetId × U8)} {versionSource versionDest : U16}
    {ledgerSource : L} {ledgerDest : M} {trace : List (PairEntry L M)} {final : Pair L M}
    (hconfinedSource : Confined cfgSource) (hconfinedDest : Confined cfgDest)
    (hsource : cfgSource.decimalConverter = sygmaDecimalConverter debugAssertionsSource tableSource)
    (hdest : cfgDest.decimalConverter = sygmaDecimalConverter debugAssertionsDest tableDest)
    (hsmallSource : SmallDecimals tableSource) (hsmallDest : SmallDecimals tableDest)
    (hrun : Run (PairStep cfgSource cfgDest origin dest)
      ⟨.genesis versionSource ledgerSource, .genesis versionDest ledgerDest⟩ trace final) :
    ∃ deposit : Nat → Nat,
      (∀ i (entry : Entry M) proposal, (destEntries trace)[i]? = some entry →
        entry.PaysFor origin proposal →
        ∃ event, final.source.state.events[deposit i]? = some event ∧
          ∃ made ∈ sourceEntries trace,
            Backed cfgSource cfgDest tableSource tableDest dest made event entry proposal) ∧
      ∀ i j (entry later : Entry M) proposal other,
        (destEntries trace)[i]? = some entry → entry.PaysFor origin proposal →
        (destEntries trace)[j]? = some later → later.PaysFor origin other →
          deposit i = deposit j → i = j := by
  have h := attributed_run hconfinedSource hconfinedDest hrun
  -- every payout has an event it was built from
  have hevent : ∀ i : Nat, ∃ k : Nat, ∀ (entry : Entry M) proposal,
      (destEntries trace)[i]? = some entry → entry.PaysFor origin proposal →
        ∃ event, final.source.state.events[k]? = some event ∧
        BuiltFrom origin dest proposal event := by
    intro i
    by_cases hpayout : ∃ (entry : Entry M) (proposal : Proposal),
        (destEntries trace)[i]? = some entry ∧ entry.PaysFor origin proposal
    · obtain ⟨entry, proposal, hi, hpays⟩ := hpayout
      obtain ⟨event, hmem, hbuilt⟩ := h.built entry (List.mem_of_getElem? hi) proposal hpays
      obtain ⟨k, hk⟩ := List.getElem?_of_mem hmem
      refine ⟨k, fun entry' proposal' hi' hpays' => ⟨event, hk, ?_⟩⟩
      obtain rfl := Option.some.inj (hi.symm.trans hi')
      obtain rfl := Action.proposal.inj (hpays.1.symm.trans hpays'.1)
      exact hbuilt
    · exact ⟨0, fun entry proposal hi hpays => absurd ⟨entry, proposal, hi, hpays⟩ hpayout⟩
  choose deposit hdeposit using hevent
  refine ⟨deposit, ?_, ?_⟩
  · intro i entry proposal hi hpays
    have hmem := List.mem_of_getElem? hi
    obtain ⟨event, hk, hbuilt⟩ := hdeposit i entry proposal hi hpays
    obtain ⟨payout, hresolve, hpay⟩ := h.paid entry hmem proposal hpays
    have hsome : event.depositTo.isSome = true := by
      obtain ⟨_, _, _, rfl, -⟩ := hbuilt
      rfl
    obtain ⟨made, hmade, asset, receipt, hdeposited⟩ :=
      h.issued event (List.mem_of_getElem? hk) hsome
    exact ⟨event, hk, made, hmade, backed_of_built hsource hdest hsmallSource hsmallDest hdeposited
      hbuilt hresolve hpay⟩
  · intro i j entry later proposal other hi hpays hj hpaysLater hsame
    obtain ⟨event, hk, hbuilt⟩ := hdeposit i entry proposal hi hpays
    obtain ⟨event', hk', hbuilt'⟩ := hdeposit j later other hj hpaysLater
    rw [← hsame] at hk'
    obtain rfl := Option.some.inj (hk.symm.trans hk')
    exact h.index_inj hi hpays hj hpaysLater hbuilt hbuilt'

/-- Transitions of the first chain are transitions of the pair. -/
theorem source_run {start next : Point L} {trace : List (Entry L)}
    (hrun : Run (Step cfgSource) start trace next) (other : Point M) :
    Run (PairStep cfgSource cfgDest origin dest) ⟨start, other⟩ (trace.map .source)
      ⟨next, other⟩ := by
  induction hrun with
  | refl => exact .refl
  | snoc _ hstep ih =>
      rw [List.map_append]
      exact ih.snoc (.source hstep)

namespace Standalone

/-- A new chain on which every account holds something. -/
def fundedPoint : Point PlainLedger := .genesis 1 ⟨fun _ _ => 2000⟩

/-- The second chain after it was set up for domain 2, with the state in between. -/
def keyedState : State PlainLedger :=
  (dispatch plainConfig .root (.setMpcAddress constantSigner) fundedPoint.state).2

def receivingState : State PlainLedger :=
  (dispatch plainConfig .root (.registerDomain 2 2) keyedState).2

/-- The proposal a relayer builds from `nativeDeposit` when the first chain is domain 2. -/
def forwardedProposal : Proposal := ⟨2, 0, resource 0 1, createDepositData 1000000000 [1, 0]⟩

def forwardedState : State PlainLedger :=
  (executeOne plainConfig forwardedProposal receivingState).2

/-- The payout of the forwarded proposal. -/
def forwardedEntry : Entry PlainLedger :=
  ⟨receivingState, .proposal forwardedProposal,
    (executeProposalInternal plainConfig forwardedProposal receivingState).1, forwardedState⟩

/-- The decimals of the runtime are in the range of its fixed-point type. -/
theorem small_decimals : SmallDecimals assetDecimalPairs := by decide

theorem forwarded_run :
    ∃ trace, Run (PairStep plainConfig plainConfig 2 1)
      ⟨fundedPoint, fundedPoint⟩ (trace ++ [.dest forwardedEntry])
      ⟨⟨depositedState, []⟩, ⟨forwardedState, []⟩⟩ := by
  obtain ⟨setup, hsetup⟩ := dispatch_all_run plainConfig
    [(.root, .setMpcAddress constantSigner), (.root, .registerDomain 1 1),
      (.root, .setFee 1 native 3), (.root, .setFeeHandler 1 native .basicFeeHandler)]
    fundedPoint.state
  have hdeposit : dispatch plainConfig (.signed (Vector.replicate 32 7)) nativeDeposit feeState =
      (.ok (), depositedState) := Prod.ext (by decide +kernel) rfl
  have hkey : dispatch plainConfig .root (.setMpcAddress constantSigner) fundedPoint.state =
      (.ok (), keyedState) := Prod.ext (by decide +kernel) rfl
  have hregister : dispatch plainConfig .root (.registerDomain 2 2) keyedState =
      (.ok (), receivingState) := Prod.ext (by decide +kernel) rfl
  have hexecute : executeOne plainConfig forwardedProposal receivingState =
      (.ok (), forwardedState) := Prod.ext (by decide +kernel) rfl
  have hbatch : dispatch plainConfig .none
      (.executeProposal [forwardedProposal] (List.replicate 65 0)) receivingState =
        (.ok (), forwardedState) :=
    dispatch_batch_ok.mpr ⟨by decide +kernel, by decide, by decide +kernel,
      Exec.bind_ok.mpr ⟨(), _, hexecute, rfl⟩⟩
  have hsource : Run (PairStep plainConfig plainConfig 2 1) ⟨fundedPoint, fundedPoint⟩ _
      ⟨⟨depositedState, []⟩, fundedPoint⟩ :=
    source_run (hsetup.snoc (.call hdeposit (by decide))) fundedPoint
  refine ⟨_, (((hsource.snoc (.dest (.call hkey (by decide)) nofun)).snoc
    (.dest (.call hregister (by decide)) nofun)).snoc (.dest (.batch hbatch) ?_)).snoc
      (.dest (.proposal hexecute) nofun)⟩
  intro caller proposals signature haction _ proposal hmem _
  cases haction
  obtain rfl := List.mem_singleton.mp hmem
  exact ⟨.deposit 1 (resource 0 1) 0 (Vector.replicate 32 7) .fungibleTransfer
    (createDepositData 1000000000 [1, 0]) [], by decide +kernel, _, _, _, rfl, rfl⟩

theorem payouts_backed_forwarded :
    ∃ trace, Run (PairStep plainConfig plainConfig 2 1)
        ⟨fundedPoint, fundedPoint⟩ trace ⟨⟨depositedState, []⟩, ⟨forwardedState, []⟩⟩ ∧
      forwardedEntry ∈ destEntries trace ∧
      ∃ event ∈ depositedState.events, ∃ made ∈ sourceEntries trace,
        Backed plainConfig plainConfig assetDecimalPairs assetDecimalPairs 1 made event
          forwardedEntry forwardedProposal := by
  obtain ⟨trace, hrun⟩ := forwarded_run
  have hmem : forwardedEntry ∈ destEntries (trace ++ [.dest forwardedEntry]) := by
    simp [destEntries]
  obtain ⟨i, hi⟩ := List.getElem?_of_mem hmem
  have hconfined : Confined plainConfig := confined_of_lift rfl
  obtain ⟨deposit, hbacked, -⟩ := payouts_backed hconfined hconfined rfl rfl small_decimals
    small_decimals hrun
  obtain ⟨event, hk, made, hmade, hevent⟩ :=
    hbacked i forwardedEntry forwardedProposal hi ⟨rfl, by decide +kernel, rfl⟩
  exact ⟨_, hrun, hmem, event, List.mem_of_getElem? hk, made, hmade, hevent⟩

end Standalone

end Sygma
