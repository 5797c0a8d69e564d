import Sygma.Runtime.Ordering
import Sygma.Runtime.Pallets
import Sygma.Runtime.Routing

/-!
# Proposals that are submitted again

A proposal that fails is not marked as executed, so its signed batch can be submitted again, by
anybody. That is meant for failures that leave nothing behind; but a payout that cannot be delivered
fails after its amount was taken out of the reserve, and nothing undoes that. `resubmit` is what any
number of submissions comes to, in terms of what one of them does to the ledger.
`resubmission_drains` is the plain case: the amount is gone, as often as the reserve can pay it.
`resubmission_diverts` is the case of a parachain, on which every payout that is routed to the Sygma
bridge fails: the same amount moves to the temporary account of the forwarder. Both are about any
ledger on which withdrawals draw on a balance (`Draws`), with the minimum balance it may have.
-/

namespace Sygma

open Bridge

variable {L K : Type}

/-- A batch that can be submitted in the given storage: it consists of the one proposal, and its
signature is valid. -/
structure Submission.Signs (cfg : Config L) (storage : Storage) (proposal : Proposal)
    (batch : Submission) : Prop where
  alone : batch.proposals = [proposal]
  signed : verifyByMpcAddress cfg storage (constructEcdsaSigningProposalsData cfg [proposal])
    batch.signature = true

/-- In the given storage a proposal always fails with the same error, and does to the ledger what
`lose` says. -/
def AlwaysFails (cfg : Config L) (storage : Storage) (proposal : Proposal)
    (error : DispatchError) (lose : L → L) : Prop :=
  ∀ events ledger, executeProposalInternal cfg proposal ⟨storage, events, ledger⟩ =
    (.error (.error error), ⟨storage, events, lose ledger⟩)

variable {cfg : Config L} {storage : Storage} {proposal : Proposal} {error : DispatchError}
  {lose : L → L}

/-- A proposal that always fails can be submitted any number of times. Each submission is accepted,
reports one failure, does the same to the ledger, and leaves the storage as it was. -/
theorem resubmit (hfails : AlwaysFails cfg storage proposal error lose)
    (hmpc : storage.mpcClear = false) {batches : List Submission}
    (hbatches : ∀ batch ∈ batches, batch.Signs cfg storage proposal) (events : List Event)
    (ledger : L) :
    Exec.forEach batches (submit cfg) ⟨storage, events, ledger⟩ =
      (.ok (), ⟨storage,
        events ++ List.replicate batches.length (failureEvent error proposal),
        lose^[batches.length] ledger⟩) := by
  induction batches generalizing events ledger with
  | nil => simp
  | cons batch rest ih =>
      obtain ⟨halone, hsigned⟩ := hbatches batch List.mem_cons_self
      have hone : executeOne cfg proposal ⟨storage, events, ledger⟩ =
          (.ok (), ⟨storage, events ++ [failureEvent error proposal], lose ledger⟩) :=
        execute_one_ok.mpr (.inr ⟨error, _, hfails events ledger, rfl⟩)
      have hfirst : submit cfg batch ⟨storage, events, ledger⟩ =
          (.ok (), ⟨storage, events ++ [failureEvent error proposal], lose ledger⟩) := by
        refine dispatch_batch_ok.mpr ⟨hmpc, by simp [halone], by rwa [halone], ?_⟩
        rw [halone]
        exact Exec.bind_ok.mpr ⟨(), _, hone, rfl⟩
      have hrest := ih (fun other hmem => hbatches other (List.mem_cons_of_mem _ hmem))
        (events ++ [failureEvent error proposal]) (lose ledger)
      refine Exec.bind_ok.mpr ⟨(), _, hfirst, ?_⟩
      rw [hrest, List.length_cons, List.replicate_succ, Function.iterate_succ_apply]
      simp

/-! ## Taking the same amount again and again -/

/-- What is left of a balance when an amount is taken out of it a number of times, as long as it is
there. A rest below the minimum is removed. -/
def remaining (minimum amount times balance : Nat) : Nat :=
  if times = 0 ∨ balance < amount then balance
  else kept minimum (balance - min times (balance / amount) * amount)

theorem remaining_succ {amount : Nat} (hamount : 0 < amount) (minimum times balance : Nat) :
    remaining minimum amount times
        (if amount ≤ balance then kept minimum (balance - amount) else balance) =
      remaining minimum amount (times + 1) balance := by
  unfold remaining
  by_cases henough : amount ≤ balance
  · obtain ⟨rest, rfl⟩ := Nat.exists_eq_add_of_le' henough
    have hquotient : (rest + amount) / amount = rest / amount + 1 := Nat.add_div_right rest hamount
    have hright : rest + amount - min (times + 1) (rest / amount + 1) * amount =
        rest - min times (rest / amount) * amount := by
      rw [Nat.add_min_add_right, Nat.add_mul, Nat.one_mul, Nat.add_sub_add_right]
    have hnot : ¬ (times + 1 = 0 ∨ rest + amount < amount) := by omega
    rw [if_pos henough, if_neg hnot, Nat.add_sub_cancel, hquotient, hright]
    by_cases hdust : rest < minimum
    · -- the rest of the first time is removed, and later times find nothing
      have hless : rest - min times (rest / amount) * amount < minimum := by omega
      have hnothing : kept minimum rest = 0 := if_pos hdust
      rw [hnothing, if_pos (.inr hamount), kept, if_pos hless]
    · have hstays : kept minimum rest = rest := if_neg hdust
      rw [hstays]
      split
      · rename_i hstop
        have hnone : min times (rest / amount) = 0 := by
          rcases hstop with rfl | hless
          · exact Nat.zero_min _
          · rw [Nat.div_eq_of_lt hless, Nat.min_zero]
        rw [hnone, Nat.zero_mul, Nat.sub_zero, hstays]
      · rfl
  · have hless : balance < amount := by omega
    rw [if_neg henough, if_pos (.inr hless), if_pos (.inr hless)]

/-- An amount is taken out of a balance whenever it is there. -/
def Takes (lose : L → L) (held : L → Nat) (minimum amount : Nat) : Prop :=
  ∀ ledger, held (lose ledger) =
    if amount ≤ held ledger then kept minimum (held ledger - amount) else held ledger

variable {held : L → Nat} {minimum amount : Nat}

/-- What is left of the balance after a number of times. -/
theorem Takes.iterate (h : Takes lose held minimum amount) (hamount : 0 < amount) (times : Nat)
    (ledger : L) :
    held (lose^[times] ledger) = remaining minimum amount times (held ledger) := by
  induction times generalizing ledger with
  | zero => simp [remaining]
  | succ times ih =>
      rw [Function.iterate_succ_apply, ih, h]
      exact remaining_succ hamount minimum times _

/-- Where the minimum is not above the amount, what it removes would not have been taken. -/
theorem kept_div (hminimum : minimum ≤ amount) (rest : Nat) :
    kept minimum rest / amount = rest / amount := by
  unfold kept
  split
  · rename_i hdust
    rw [Nat.zero_div, Nat.div_eq_of_lt (by omega)]
  · rfl

/-- A second balance that gets the amount each time it is taken gets it as often as the first can
pay it. -/
theorem Takes.gained (h : Takes lose held minimum amount) (hamount : 0 < amount)
    (hminimum : minimum ≤ amount) (gains : L → Nat)
    (hgains : ∀ ledger, gains (lose ledger) =
      if amount ≤ held ledger then gains ledger + amount else gains ledger)
    (times : Nat) (ledger : L) :
    gains (lose^[times] ledger) =
      gains ledger + min times (held ledger / amount) * amount := by
  induction times generalizing ledger with
  | zero => simp
  | succ times ih =>
      rw [Function.iterate_succ_apply, ih, hgains, h]
      by_cases henough : amount ≤ held ledger
      · obtain ⟨rest, hrest⟩ := Nat.exists_eq_add_of_le' henough
        rw [if_pos henough, if_pos henough, hrest, Nat.add_sub_cancel, kept_div hminimum,
          Nat.add_div_right rest hamount, Nat.add_min_add_right, Nat.add_mul, Nat.one_mul]
        omega
      · have hnone : held ledger / amount = 0 := Nat.div_eq_of_lt (by omega)
        rw [if_neg henough, if_neg henough, hnone]
        simp

/-! ## Payouts to nobody -/

variable {transactor : LedgerTransactor L} {balance : L → K → AccountId → Nat} {key : K}
  {payout : Payout}

/-- A payout that cannot be delivered: deposits to its location are refused. -/
def Bridge.Payout.Undeliverable (transactor : LedgerTransactor L) (payout : Payout) : Prop :=
  ∀ ledger, ∃ error,
    transactor.depositAsset payout.asset payout.location ledger = (.error error, ledger)

/-- What such a payout of a reserved asset does to the ledger: it is taken out of the reserve. -/
def drained (transactor : LedgerTransactor L) (payout : Payout) (ledger : L) : L :=
  (transactor.withdrawAsset payout.asset (.ofAccount payout.reserveAccount) ledger).2

/-- Such a proposal always fails. -/
theorem drained_fails (hcfg : cfg.assetTransactor = transactor.lift)
    (hresolve : resolve cfg storage proposal = .ok payout)
    (hreserve : cfg.isReserve payout.asset .here = true)
    (hlost : payout.Undeliverable transactor) :
    AlwaysFails cfg storage proposal (.bridge .transactFailed) (drained transactor payout) := by
  intro events ledger
  have hpay : ∃ error, payLedger cfg transactor payout ledger =
      (.error error, drained transactor payout ledger) := by
    unfold payLedger drained
    rw [if_pos hreserve]
    rcases transactor.withdrawAsset payout.asset (.ofAccount payout.reserveAccount) ledger with
      ⟨outcome, left⟩
    cases outcome with
    | ok done => exact hlost left
    | error error => exact ⟨error, rfl⟩
  obtain ⟨error, hpay⟩ := hpay
  rw [execute_proposal_internal_lift hcfg]
  simp only [settle, hresolve, hpay]

variable {asset : MultiAsset} {account : AccountId}

/-- A withdrawal takes from the balance it draws on. -/
theorem Draws.takes (h : Draws transactor balance key minimum asset amount account) :
    Takes (fun ledger => (transactor.withdrawAsset asset (.ofAccount account) ledger).2)
      (fun ledger => balance ledger key account) minimum amount := by
  intro ledger
  dsimp only
  by_cases henough : amount ≤ balance ledger key account
  · obtain ⟨final, hwithdraw, hbalance, -⟩ := h.covered ledger henough
    rw [if_pos henough, hwithdraw, hbalance]
  · obtain ⟨error, hwithdraw⟩ := h.uncovered ledger (by omega)
    rw [if_neg henough, hwithdraw]

/-- A withdrawal leaves every other balance. -/
theorem Draws.others (h : Draws transactor balance key minimum asset amount account) (ledger : L)
    {other : K} {holder : AccountId} (hother : ¬ (other = key ∧ holder = account)) :
    balance (transactor.withdrawAsset asset (.ofAccount account) ledger).2 other holder =
      balance ledger other holder := by
  by_cases henough : amount ≤ balance ledger key account
  · obtain ⟨final, hwithdraw, -, hothers⟩ := h.covered ledger henough
    rw [hwithdraw]
    exact hothers other holder hother
  · obtain ⟨error, hwithdraw⟩ := h.uncovered ledger (by omega)
    rw [hwithdraw]

/-- A signed proposal for a reserved asset whose recipient cannot be paid can be submitted any
number of times, by anybody. Every submission is accepted and reports the same failure, the proposal
is never marked, and the reserve loses the amount each time until it is smaller than the amount.
Nobody gets it. -/
theorem resubmission_drains (hcfg : cfg.assetTransactor = transactor.lift)
    {state : State L} (hmpc : state.storage.mpcClear = false)
    (hresolve : resolve cfg state.storage proposal = .ok payout)
    (hreserve : cfg.isReserve payout.asset .here = true)
    (hdraws : Draws transactor balance key minimum payout.asset amount payout.reserveAccount)
    (hamount : 0 < amount) (hlost : payout.Undeliverable transactor) {batches : List Submission}
    (hbatches : ∀ batch ∈ batches, batch.Signs cfg state.storage proposal) :
    ∃ final, Exec.forEach batches (submit cfg) state = (.ok (), final) ∧
      final.storage = state.storage ∧
      isProposalExecuted final.storage proposal.depositNonce proposal.originDomainId = false ∧
      final.events = state.events ++
        List.replicate batches.length (failureEvent (.bridge .transactFailed) proposal) ∧
      balance final.ledger key payout.reserveAccount =
        remaining minimum amount batches.length
          (balance state.ledger key payout.reserveAccount) ∧
      ∀ other holder, ¬ (other = key ∧ holder = payout.reserveAccount) →
        balance final.ledger other holder = balance state.ledger other holder := by
  have hrun := resubmit (drained_fails hcfg hresolve hreserve hlost) hmpc hbatches state.events
    state.ledger
  obtain ⟨-, -, hopen, -⟩ := resolve_ok.mp hresolve
  refine ⟨_, hrun, rfl, hopen, rfl, hdraws.takes.iterate hamount _ _, ?_⟩
  intro other holder hother
  have hkept : (fun ledger => balance ledger other holder) ∘ drained transactor payout =
      fun ledger => balance ledger other holder := funext fun ledger => hdraws.others ledger hother
  exact congrFun (Function.iterate_invariant hkept batches.length) state.ledger

namespace Standalone

/-- The runtime over its two pallets. -/
def palletConfig : Config Accounts := config constantHost palletTransactors.lift

/-- The storage of the covered state, and a reserve of 1200. -/
def palletState : State Accounts :=
  ⟨coveredState.storage, [], Accounts.empty.put none bridgeAccountNative 1200⟩

/-- The same batch three times, from three origins. -/
def lostBatches : List Submission :=
  [⟨.none, [lostProposal], List.replicate 65 0⟩, ⟨.root, [lostProposal], List.replicate 65 0⟩,
    ⟨.signed treasuryAccount, [lostProposal], List.replicate 65 0⟩]

/-- A proposal over 1000 to nobody takes all of a reserve of 1200: what is left after the first time
is below the existential deposit. -/
theorem resubmission_drains_lost :
    ∃ final, Exec.forEach lostBatches (submit palletConfig) palletState = (.ok (), final) ∧
      palletState.ledger none bridgeAccountNative = 1200 ∧
      final.ledger none bridgeAccountNative = 0 ∧
      isProposalExecuted final.storage 1 1 = false := by
  have hresolve : resolve palletConfig palletState.storage lostProposal =
      .ok ⟨⟨.concrete nativeLocation, .fungible 1000⟩, ⟨2, [], Nat.zero_le 8⟩,
        bridgeAccountNative⟩ :=
    resolve_ok.mpr ⟨by decide +kernel, by decide +kernel, by decide +kernel, _, 1000000000,
      rfl, rfl, by decide +kernel, rfl, nofun⟩
  have hbatches : ∀ batch ∈ lostBatches,
      batch.Signs palletConfig palletState.storage lostProposal := by
    intro batch hmem
    simp only [lostBatches, List.mem_cons, List.not_mem_nil, or_false] at hmem
    rcases hmem with rfl | rfl | rfl
    all_goals exact ⟨rfl, by decide +kernel⟩
  have hdraws : Draws palletTransactors (fun ledger : Accounts => ledger) none existentialDeposit
      ⟨.concrete nativeLocation, .fungible 1000⟩ 1000 bridgeAccountNative :=
    pallet_draws (by decide) (withdraw_native 1000 bridgeAccountNative)
  -- the location is the grandparent of the chain, which has no account
  have hlost : Payout.Undeliverable palletTransactors
      ⟨⟨.concrete nativeLocation, .fungible 1000⟩, ⟨2, [], Nat.zero_le 8⟩,
        bridgeAccountNative⟩ := fun _ => ⟨_, rfl⟩
  obtain ⟨final, hrun, -, hopen, -, hbalance, -⟩ := resubmission_drains rfl (by decide +kernel)
    hresolve (by decide +kernel) hdraws (by decide) hlost hbatches
  have hreserve : palletState.ledger none bridgeAccountNative = 1200 := by decide +kernel
  rw [hreserve] at hbalance
  exact ⟨final, hrun, hreserve, hbalance, hopen⟩

end Standalone

/-! ## The parachain -/

namespace Parachain

open BridgeForwarder (XcmAssetTransactor routeOf)

/-- A transfer to a location the parser finds nothing in is refused. -/
theorem transfer_refused_unparsed {state : State L} {dest : MultiLocation}
    (hmpc : state.storage.mpcClear = false) (hdest : cfg.extractDestData dest = .ok none)
    (sender : Bytes32) (asset : MultiAsset) :
    transfer cfg sender asset dest state =
      (.error (.error (.bridge .extractDestDataFailed)), state) := by
  have hquote : quote cfg state.storage (.signed sender) asset dest =
      .error (.error (.bridge .extractDestDataFailed)) := by
    simp [quote, hmpc, hdest]
  rw [transfer, deposit_eq, hquote]

variable {host : Host L}

/-- Foreign assets are kept by the fungibles transactor. -/
theorem keeper_foreign (hfungibles : host.fungiblesTransactor = transactor.lift)
    {what : MultiAsset} (hforeign : isNativeAsset host.parachainId what = false) :
    (assetTransactor host).keeper what = transactor.lift := by
  unfold XcmAssetTransactor.keeper
  rw [if_neg (by simp [assetTransactor, transactorOver, hforeign])]
  exact hfungibles

/-- A deposit that is routed to the Sygma bridge reaches the temporary account and fails there. -/
theorem other_world_deposit_strands (hfungibles : host.fungiblesTransactor = transactor.lift)
    (hforeign : isNativeAsset host.parachainId asset = false)
    {who : MultiLocation} (hroute : routeOf who = .otherWorld)
    (hmpc : storage.mpcClear = false) {ledger credited : L}
    (hcredited : transactor.depositAsset asset
      (.ofAccount ((assetTransactor host).temporaryAccount 1)) ledger = (.ok (), credited))
    (events : List Event) :
    (config host).assetTransactor.depositAsset asset who ⟨storage, events, ledger⟩ =
      (.error (.error (.failedToTransactAsset "ExtractDestDataFailed")),
        ⟨storage, events, credited⟩) := by
  have hreached : ((assetTransactor host).keeper asset).depositAsset asset
      (.ofAccount ((assetTransactor host).temporaryAccount 1)) ⟨storage, events, ledger⟩ =
        (.ok (), ⟨storage, events, credited⟩) := by
    rw [keeper_foreign hfungibles hforeign]
    exact on_ledger_ok.mpr ⟨credited, hcredited, rfl⟩
  -- the parser of the runtime finds nothing in the location, so the bridge refuses it
  have hsent : (assetTransactor host).forwarder.otherWorldTransactorForwarder
      ((assetTransactor host).temporaryAccount 1) asset who ⟨storage, events, credited⟩ =
        (.error (.error (.bridge .extractDestDataFailed)), ⟨storage, events, credited⟩) :=
    Exec.bind_error.mpr (.inl (transfer_refused_unparsed hmpc
      (other_world_not_parsed (route_of_other_world.mp hroute)) _ _))
  show XcmAssetTransactor.depositAsset (assetTransactor host) asset who _ = _
  unfold XcmAssetTransactor.depositAsset
  rw [hroute]
  exact Exec.bind_error.mpr (.inr ⟨(), _, hreached, Exec.mapErr_error.mpr ⟨_, hsent, rfl⟩⟩)

/-- What a payout does that is withdrawn from a reserve and gets no further than a temporary
account. -/
def diverted (transactor : LedgerTransactor L) (payout : Payout) (temporary : AccountId)
    (ledger : L) : L :=
  match transactor.withdrawAsset payout.asset (.ofAccount payout.reserveAccount) ledger with
  | (.ok (), paid) => (transactor.depositAsset payout.asset (.ofAccount temporary) paid).2
  | (.error _, left) => left

variable {temporary : AccountId}

/-- A proposal for a foreign asset that is routed to the Sygma bridge always fails. -/
theorem diverted_fails (hfungibles : host.fungiblesTransactor = transactor.lift)
    (hmpc : storage.mpcClear = false)
    (hresolve : resolve (config host) storage proposal = .ok payout)
    (hreserve : (config host).isReserve payout.asset .here = true)
    (hforeign : isNativeAsset host.parachainId payout.asset = false)
    (hroute : routeOf payout.location = .otherWorld)
    (hcredits : Credits transactor balance key payout.asset amount
      ((assetTransactor host).temporaryAccount 1)) :
    AlwaysFails (config host) storage proposal (.bridge .transactFailed)
      (diverted transactor payout ((assetTransactor host).temporaryAccount 1)) := by
  intro events ledger
  have hwithdraw : (config host).assetTransactor.withdrawAsset payout.asset
      (.ofAccount payout.reserveAccount) ⟨storage, events, ledger⟩ =
        onLedger (transactor.withdrawAsset payout.asset (.ofAccount payout.reserveAccount))
          ⟨storage, events, ledger⟩ := by
    show ((assetTransactor host).keeper _).withdrawAsset _ _ _ = _
    rw [keeper_foreign hfungibles hforeign]
    rfl
  rw [execute_proposal_internal_eq]
  simp only [hresolve]
  unfold pay Exec.when diverted
  rw [if_pos hreserve]
  rcases hledger : transactor.withdrawAsset payout.asset (.ofAccount payout.reserveAccount)
    ledger with ⟨outcome, left⟩
  cases outcome with
  | ok done =>
      have hpaid : (config host).assetTransactor.withdrawAsset payout.asset
          (.ofAccount payout.reserveAccount) ⟨storage, events, ledger⟩ =
            (.ok (), ⟨storage, events, left⟩) := by
        rw [hwithdraw]
        exact on_ledger_ok.mpr ⟨left, hledger, rfl⟩
      obtain ⟨credited, hcredited, -⟩ := hcredits.credited left
      have hfailed := other_world_deposit_strands hfungibles hforeign hroute hmpc hcredited events
      simp only [hcredited]
      exact Exec.bind_error.mpr (.inr ⟨(), _, Exec.mapErr_ok.mpr hpaid,
        Exec.mapErr_error.mpr ⟨_, hfailed, rfl⟩⟩)
  | error error =>
      have hrefused : (config host).assetTransactor.withdrawAsset payout.asset
          (.ofAccount payout.reserveAccount) ⟨storage, events, ledger⟩ =
            (.error (.error error), ⟨storage, events, left⟩) := by
        rw [hwithdraw]
        simp only [onLedger, hledger]
      exact Exec.bind_error.mpr (.inl (Exec.mapErr_error.mpr ⟨_, hrefused, rfl⟩))

/-- What a payout that is diverted does to each balance. -/
theorem diverted_balance
    (hdraws : Draws transactor balance key minimum payout.asset amount payout.reserveAccount)
    (hcredits : Credits transactor balance key payout.asset amount temporary)
    (hne : payout.reserveAccount ≠ temporary) (ledger : L) :
    (balance (diverted transactor payout temporary ledger) key payout.reserveAccount =
      if amount ≤ balance ledger key payout.reserveAccount then
        kept minimum (balance ledger key payout.reserveAccount - amount)
      else balance ledger key payout.reserveAccount) ∧
    (balance (diverted transactor payout temporary ledger) key temporary =
      if amount ≤ balance ledger key payout.reserveAccount then
        balance ledger key temporary + amount
      else balance ledger key temporary) ∧
    ∀ other holder, ¬ (other = key ∧ holder = payout.reserveAccount) →
      ¬ (other = key ∧ holder = temporary) →
        balance (diverted transactor payout temporary ledger) other holder =
          balance ledger other holder := by
  unfold diverted
  by_cases henough : amount ≤ balance ledger key payout.reserveAccount
  · obtain ⟨paid, hwithdraw, htaken, hkept⟩ := hdraws.covered ledger henough
    obtain ⟨credited, hdeposit, hgot, hsame⟩ := hcredits.credited paid
    simp only [hwithdraw, hdeposit, if_pos henough]
    refine ⟨?_, ?_, ?_⟩
    · rw [hsame key payout.reserveAccount (fun h => hne h.2), htaken]
    · rw [hgot, hkept key temporary (fun h => hne h.2.symm)]
    · intro other holder hnotReserve hnotTemporary
      rw [hsame other holder hnotTemporary, hkept other holder hnotReserve]
  · obtain ⟨error, hwithdraw⟩ := hdraws.uncovered ledger (by omega)
    simp only [hwithdraw, if_neg henough]
    exact ⟨trivial, trivial, fun _ _ _ _ => trivial⟩

/-- On the parachain every signed proposal for a foreign asset whose recipient has the pattern of
the other world can be submitted any number of times, by anybody: each submission is accepted, fails
after the amount has moved from the reserve to the temporary account of the forwarder, and leaves
the proposal unmarked. The amount has to be one that can open the temporary account. -/
theorem resubmission_diverts (hfungibles : host.fungiblesTransactor = transactor.lift)
    {state : State L} (hmpc : state.storage.mpcClear = false)
    (hresolve : resolve (config host) state.storage proposal = .ok payout)
    (hreserve : (config host).isReserve payout.asset .here = true)
    (hforeign : isNativeAsset host.parachainId payout.asset = false)
    (hroute : routeOf payout.location = .otherWorld)
    (hdraws : Draws transactor balance key minimum payout.asset amount payout.reserveAccount)
    (hcredits : Credits transactor balance key payout.asset amount
      ((assetTransactor host).temporaryAccount 1))
    (hamount : 0 < amount) (hminimum : minimum ≤ amount)
    (hne : payout.reserveAccount ≠ (assetTransactor host).temporaryAccount 1)
    {batches : List Submission}
    (hbatches : ∀ batch ∈ batches, batch.Signs (config host) state.storage proposal) :
    ∃ final, Exec.forEach batches (submit (config host)) state = (.ok (), final) ∧
      final.storage = state.storage ∧
      isProposalExecuted final.storage proposal.depositNonce proposal.originDomainId = false ∧
      final.events = state.events ++
        List.replicate batches.length (failureEvent (.bridge .transactFailed) proposal) ∧
      balance final.ledger key payout.reserveAccount =
        remaining minimum amount batches.length
          (balance state.ledger key payout.reserveAccount) ∧
      balance final.ledger key ((assetTransactor host).temporaryAccount 1) =
        balance state.ledger key ((assetTransactor host).temporaryAccount 1) +
          min batches.length (balance state.ledger key payout.reserveAccount / amount) * amount ∧
      ∀ other holder, ¬ (other = key ∧ holder = payout.reserveAccount) →
        ¬ (other = key ∧ holder = (assetTransactor host).temporaryAccount 1) →
        balance final.ledger other holder = balance state.ledger other holder := by
  have hfails := diverted_fails hfungibles hmpc hresolve hreserve hforeign hroute hcredits
  have hrun := resubmit hfails hmpc hbatches state.events state.ledger
  have hone := diverted_balance hdraws hcredits hne
  have htakes : Takes (diverted transactor payout ((assetTransactor host).temporaryAccount 1))
      (fun ledger => balance ledger key payout.reserveAccount) minimum amount :=
    fun ledger => (hone ledger).1
  obtain ⟨-, -, hopen, -⟩ := resolve_ok.mp hresolve
  refine ⟨_, hrun, rfl, hopen, rfl, htakes.iterate hamount _ _, ?_, ?_⟩
  · exact htakes.gained hamount hminimum
      (fun ledger => balance ledger key ((assetTransactor host).temporaryAccount 1))
      (fun ledger => (hone ledger).2.1) _ _
  · intro other holder hnotReserve hnotTemporary
    have hkept : (fun ledger => balance ledger other holder) ∘
        diverted transactor payout ((assetTransactor host).temporaryAccount 1) =
          fun ledger => balance ledger other holder :=
      funext fun ledger => (hone ledger).2.2 other holder hnotReserve hnotTemporary
    exact congrFun (Function.iterate_invariant hkept batches.length) state.ledger

/-- A payout of 1000 USDT to the destination of the scripts. -/
def forwardedPayout : Proposal :=
  ⟨1, 1, Standalone.resource 3 0, createDepositData 1000000000
    (MultiLocation.codec.encode assetDepositDest)⟩

/-- The storage of the covered state, and a reserve of 2050 USDT. -/
def reserveState : State Accounts :=
  ⟨Standalone.coveredState.storage, [],
    Accounts.empty.put (some 2000) Standalone.bridgeAccountOtherToken 2050⟩

/-- Of three submissions two find 1000 in the reserve, and the last 50 are below the minimum balance
of USDT. -/
theorem resubmission_diverts_forwarded :
    ∃ final, Exec.forEach
        (List.replicate 3 ⟨.none, [forwardedPayout], List.replicate 65 0⟩)
        (submit (config runtimeHost)) reserveState = (.ok (), final) ∧
      final.ledger (some 2000) Standalone.bridgeAccountOtherToken = 0 ∧
      final.ledger (some 2000) ((assetTransactor runtimeHost).temporaryAccount 1) = 2000 := by
  have hresolve : resolve (config runtimeHost) reserveState.storage forwardedPayout =
      .ok ⟨⟨.concrete usdtLocation, .fungible 1000⟩, assetDepositDest,
        Standalone.bridgeAccountOtherToken⟩ :=
    resolve_ok.mpr ⟨by decide +kernel, by decide +kernel, by decide +kernel,
      .concrete usdtLocation, 1000000000, by decide +kernel, by decide +kernel, by decide +kernel,
      by decide +kernel, nofun⟩
  have hbatches : ∀ batch ∈ List.replicate 3
      (⟨.none, [forwardedPayout], List.replicate 65 0⟩ : Submission),
      batch.Signs (config runtimeHost) reserveState.storage forwardedPayout := by
    intro batch hmem
    rw [List.eq_of_mem_replicate hmem]
    exact ⟨rfl, by decide +kernel⟩
  have hmatch : simpleForeignAssetConverter ⟨.concrete usdtLocation, .fungible 1000⟩ =
      .ok (2000, 1000) := by simp [simpleForeignAssetConverter, matchesFungibles]
  have hpositive : (1000 : U128) ≠ 0 := by decide
  have hdraws : Draws (fungiblesTransactor locationToAccountId (assetsPallet Standalone.minBalance))
      (fun ledger : Accounts => ledger) (some 2000) 100 ⟨.concrete usdtLocation, .fungible 1000⟩
      1000 Standalone.bridgeAccountOtherToken :=
    pallet_draws hpositive (adapter_withdraw hmatch _)
  have hcredits : Credits
      (fungiblesTransactor locationToAccountId (assetsPallet Standalone.minBalance))
      (fun ledger : Accounts => ledger) (some 2000) ⟨.concrete usdtLocation, .fungible 1000⟩
      1000 ((assetTransactor runtimeHost).temporaryAccount 1) :=
    pallet_credits hpositive (by decide) (adapter_deposit hmatch _)
  obtain ⟨final, hrun, -, -, -, hreserve, htemporary, -⟩ := resubmission_diverts rfl
    (by decide +kernel) hresolve (by decide +kernel) (by decide +kernel) (by decide +kernel) hdraws
    hcredits (by decide) (by decide) (by decide +kernel) hbatches
  have hbefore : reserveState.ledger (some 2000) Standalone.bridgeAccountOtherToken = 2050 := by
    decide +kernel
  have hempty : reserveState.ledger (some 2000)
      ((assetTransactor runtimeHost).temporaryAccount 1) = 0 := by decide +kernel
  rw [hbefore] at hreserve htemporary
  rw [hempty] at htemporary
  exact ⟨final, hrun, hreserve, htemporary⟩

end Parachain

end Sygma
