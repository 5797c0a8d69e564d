import Mathlib.Algebra.BigOperators.Group.List.Basic
import Sygma.Bridge.Settlement
import Sygma.Runtime.Dispatch
import Sygma.Runtime.Standalone

/-!
# The order of proposals

Over the plain ledger, and with reserves that cover what a set of proposals withdraws, the outcome
of each proposal depends on the storage before all of them only: `settle_plain`. What they do to
balances adds up, and what they do to the executed nonces commutes, so that neither their order nor
their grouping into batches matters: `batch_order_irrelevant`.
-/

namespace Sygma

open Bridge

/-! ## What a proposal moves -/

/-- The amount of a fungible asset. -/
def MultiAsset.value (asset : MultiAsset) : Nat :=
  match asset.fun_ with
  | .fungible amount => amount.toNat
  | .nonFungible _ => 0

/-- Whether the plain ledger accepts the asset of a payout at its location. -/
def Bridge.Payout.arrives (accounts : LocationToAccount) (payout : Payout) : Bool :=
  match payout.asset.fun_, accounts.convert payout.location with
  | .fungible _, some _ => true
  | _, _ => false

/-- What a payout takes out of a balance. -/
def Bridge.Payout.takes (cfg : Config PlainLedger) (payout : Payout) (asset : AssetId)
    (account : AccountId) : Nat :=
  if cfg.isReserve payout.asset .here = true ∧ asset = payout.asset.id ∧
      account = payout.reserveAccount then payout.asset.value
  else 0

/-- What a payout puts into a balance. -/
def Bridge.Payout.gives (accounts : LocationToAccount) (payout : Payout) (asset : AssetId)
    (account : AccountId) : Nat :=
  match accounts.convert payout.location with
  | some who => if asset = payout.asset.id ∧ account = who then payout.asset.value else 0
  | none => 0

/-- The outcome of a proposal whose reserve suffices. -/
def outcomeOf (cfg : Config PlainLedger) (accounts : LocationToAccount) (storage : Storage)
    (proposal : Proposal) : Except (Exec.Fault DispatchError) Unit :=
  match resolve cfg storage proposal with
  | .error fault => .error fault
  | .ok payout =>
      if payout.arrives accounts then .ok () else .error (.error (.bridge .transactFailed))

/-- What a proposal takes out of a balance, once it has passed its checks. -/
def outflow (cfg : Config PlainLedger) (storage : Storage) (asset : AssetId) (account : AccountId)
    (proposal : Proposal) : Nat :=
  match resolve cfg storage proposal with
  | .error _ => 0
  | .ok payout => payout.takes cfg asset account

/-- What a proposal puts into a balance, once it has passed its checks. -/
def inflow (cfg : Config PlainLedger) (accounts : LocationToAccount) (storage : Storage)
    (asset : AssetId) (account : AccountId) (proposal : Proposal) : Nat :=
  match resolve cfg storage proposal with
  | .error _ => 0
  | .ok payout => payout.gives accounts asset account

variable {cfg : Config PlainLedger} {accounts : LocationToAccount}

/-- A deposit on the plain ledger succeeds if the asset arrives, and adds what it gives. -/
theorem deposit_plain (accounts : LocationToAccount) (payout : Payout) (ledger : PlainLedger) :
    (((PlainLedger.transactor accounts).depositAsset payout.asset payout.location ledger).1 =
        .ok () ↔ payout.arrives accounts = true) ∧
      ∀ asset account,
        ((PlainLedger.transactor accounts).depositAsset payout.asset payout.location
          ledger).2.balance asset account =
            ledger.balance asset account + payout.gives accounts asset account := by
  unfold Payout.arrives Payout.gives MultiAsset.value PlainLedger.transactor
  cases hasset : payout.asset.fun_ with
  | nonFungible instance_ =>
      cases hwho : accounts.convert payout.location <;> simp [hasset, hwho]
  | fungible amount =>
      cases hwho : accounts.convert payout.location with
      | none => simp [hasset, hwho]
      | some who => simp [hasset, hwho, PlainLedger.credit_balance]

/-- A payout whose reserve suffices succeeds if its asset arrives, and moves what it takes and
gives, also when the asset does not arrive. -/
theorem pay_plain (accounts : LocationToAccount) (payout : Payout) (ledger : PlainLedger)
    (hcovered : payout.takes cfg payout.asset.id payout.reserveAccount ≤
      ledger.balance payout.asset.id payout.reserveAccount) :
    ((payLedger cfg (PlainLedger.transactor accounts) payout ledger).1 = .ok () ↔
        payout.arrives accounts = true) ∧
      ∀ asset account,
        (payLedger cfg (PlainLedger.transactor accounts) payout ledger).2.balance asset account +
            payout.takes cfg asset account =
          ledger.balance asset account + payout.gives accounts asset account := by
  by_cases hreserve : cfg.isReserve payout.asset .here = true
  · cases hasset : payout.asset.fun_ with
    | nonFungible instance_ =>
        -- the withdrawal fails, and nothing is moved
        have hpay : payLedger cfg (PlainLedger.transactor accounts) payout ledger =
            (.error .assetNotFound, ledger) := by
          simp [payLedger, hreserve, PlainLedger.transactor, hasset]
        rw [hpay]
        constructor
        · simp [Payout.arrives, hasset]
        · intro asset account
          cases hwho : accounts.convert payout.location <;>
            simp [Payout.takes, Payout.gives, MultiAsset.value, hasset, hwho]
    | fungible amount =>
        have hvalue : payout.asset.value = amount.toNat := by simp [MultiAsset.value, hasset]
        have henough : amount.toNat ≤ ledger.balance payout.asset.id payout.reserveAccount := by
          simpa [Payout.takes, hreserve, hvalue] using hcovered
        have hpay : payLedger cfg (PlainLedger.transactor accounts) payout ledger =
            (PlainLedger.transactor accounts).depositAsset payout.asset payout.location
              (ledger.debit payout.asset.id payout.reserveAccount amount.toNat) := by
          simp [payLedger, hreserve, PlainLedger.transactor, hasset, accounts.convert_of_account,
            henough]
        obtain ⟨harrives, hgives⟩ := deposit_plain accounts payout
          (ledger.debit payout.asset.id payout.reserveAccount amount.toNat)
        rw [hpay]
        refine ⟨harrives, ?_⟩
        intro asset account
        have hdebit := PlainLedger.debit_balance henough asset account
        have htakes : payout.takes cfg asset account =
            if asset = payout.asset.id ∧ account = payout.reserveAccount then amount.toNat
            else 0 := by
          simp [Payout.takes, hreserve, hvalue]
        rw [hgives, htakes]
        omega
  · have hpay : payLedger cfg (PlainLedger.transactor accounts) payout ledger =
        (PlainLedger.transactor accounts).depositAsset payout.asset payout.location ledger := by
      simp [payLedger, hreserve]
    obtain ⟨harrives, hgives⟩ := deposit_plain accounts payout ledger
    rw [hpay]
    refine ⟨harrives, ?_⟩
    intro asset account
    rw [hgives]
    simp [Payout.takes, hreserve]

/-- A proposal whose reserve suffices has the outcome of `outcomeOf`, whatever else the ledger
holds, and moves what flows out and in. -/
theorem settle_plain (accounts : LocationToAccount) (proposal : Proposal) (storage : Storage)
    (ledger : PlainLedger)
    (hcovered : ∀ asset account,
      outflow cfg storage asset account proposal ≤ ledger.balance asset account) :
    (settle cfg (PlainLedger.transactor accounts) proposal storage ledger).1 =
        outcomeOf cfg accounts storage proposal ∧
      ∀ asset account,
        (settle cfg (PlainLedger.transactor accounts) proposal storage ledger).2.balance asset
              account + outflow cfg storage asset account proposal =
          ledger.balance asset account + inflow cfg accounts storage asset account proposal := by
  unfold settle outcomeOf outflow inflow at *
  cases hresolve : resolve cfg storage proposal with
  | error fault => simp
  | ok payout =>
      simp only [hresolve] at hcovered ⊢
      obtain ⟨harrives, hmoves⟩ := pay_plain accounts payout ledger (hcovered _ _)
      rcases hpay : payLedger cfg (PlainLedger.transactor accounts) payout ledger with
        ⟨outcome, final⟩
      rw [hpay] at harrives hmoves
      cases outcome with
      | ok done =>
          refine ⟨?_, hmoves⟩
          rw [if_pos (harrives.mp rfl)]
      | error error =>
          refine ⟨?_, hmoves⟩
          have hlost : ¬ payout.arrives accounts = true := fun harrived => by
            cases harrives.mpr harrived
          rw [if_neg hlost]

/-! ## Marks -/

/-- The origin domain and nonce of a proposal. -/
def Proposal.key (proposal : Proposal) : DomainID × DepositNonce :=
  (proposal.originDomainId, proposal.depositNonce)

/-- The storage after a proposal whose reserve suffices, as `outcomeOf` in `storage` says. -/
def markSettled (cfg : Config PlainLedger) (accounts : LocationToAccount)
    (storage current : Storage) (proposal : Proposal) : Storage :=
  markOutcome proposal current (outcomeOf cfg accounts storage proposal)

/-- Marking a proposal does not change the checks of one with another key. -/
theorem resolve_set_executed {M : Type} {cfg : Config M} {storage : Storage}
    {proposal other : Proposal} (hkey : other.key ≠ proposal.key) :
    resolve cfg (setProposalExecuted storage proposal.depositNonce proposal.originDomainId) other =
      resolve cfg storage other := by
  have hflag : isProposalExecuted
      (setProposalExecuted storage proposal.depositNonce proposal.originDomainId)
        other.depositNonce other.originDomainId =
      isProposalExecuted storage other.depositNonce other.originDomainId := by
    have hne : ¬ (other.originDomainId = proposal.originDomainId ∧
        other.depositNonce = proposal.depositNonce) := by
      intro ⟨hdomain, hnonce⟩
      exact hkey (Prod.ext hdomain hnonce)
    simp [is_proposal_executed_set, hne]
  unfold resolve
  rw [hflag]
  rfl

/-- Marking the outcome of a proposal does not either. -/
theorem resolve_mark_outcome {storage : Storage} {proposal other : Proposal}
    (hkey : other.key ≠ proposal.key) (outcome : Except (Exec.Fault DispatchError) Unit) :
    resolve cfg (markOutcome proposal storage outcome) other = resolve cfg storage other := by
  cases outcome with
  | error fault => rfl
  | ok done => exact resolve_set_executed hkey

/-- Marks of two nonces commute, in one word and in different ones. -/
theorem set_proposal_executed_comm (storage : Storage) (nonce other : DepositNonce)
    (domain otherDomain : DomainID) :
    setProposalExecuted (setProposalExecuted storage nonce domain) other otherDomain =
      setProposalExecuted (setProposalExecuted storage other otherDomain) nonce domain := by
  have hset : ∀ (store : Storage) (n : DepositNonce) (d : DomainID),
      setProposalExecuted store n d =
        { store with
          usedNonces := store.usedNonces.insert (d, Bitmap.wordOf n)
            (Bitmap.mark (store.usedNonces.getD (d, Bitmap.wordOf n) 0) n) } := fun _ _ _ => rfl
  simp only [hset, StorageMap.getD_insert]
  by_cases hkey : (domain, Bitmap.wordOf nonce) = (otherDomain, Bitmap.wordOf other)
  · rw [hkey]
    simp only [if_true, StorageMap.insert_insert, Bitmap.mark_comm]
  · rw [if_neg hkey, if_neg (Ne.symm hkey), StorageMap.insert_comm _ _ _ hkey]

instance (storage : Storage) : RightCommutative (markSettled cfg accounts storage) where
  right_comm current proposal other := by
    unfold markSettled
    cases outcomeOf cfg accounts storage proposal with
    | error fault => rfl
    | ok done =>
        cases outcomeOf cfg accounts storage other with
        | error fault => rfl
        | ok done => exact set_proposal_executed_comm _ _ _ _ _

/-! ## A list of proposals -/

/-- The ledger after a proposal that is checked in `storage`. -/
def settleLedger (cfg : Config PlainLedger) (accounts : LocationToAccount) (storage : Storage)
    (ledger : PlainLedger) (proposal : Proposal) : PlainLedger :=
  (settle cfg (PlainLedger.transactor accounts) proposal storage ledger).2

/-- The reserves cover everything a list of proposals takes out. -/
def Covered (cfg : Config PlainLedger) (storage : Storage) (proposals : List Proposal)
    (ledger : PlainLedger) : Prop :=
  ∀ asset account,
    (proposals.map (outflow cfg storage asset account)).sum ≤ ledger.balance asset account

/-- What covers a list covers its first proposal, and after it the rest. -/
theorem Covered.cons (accounts : LocationToAccount) {storage : Storage} {proposal : Proposal}
    {rest : List Proposal} {ledger : PlainLedger}
    (h : Covered cfg storage (proposal :: rest) ledger) :
    (∀ asset account, outflow cfg storage asset account proposal ≤ ledger.balance asset account) ∧
      Covered cfg storage rest (settleLedger cfg accounts storage ledger proposal) := by
  have hfirst : ∀ asset account,
      outflow cfg storage asset account proposal ≤ ledger.balance asset account := by
    intro asset account
    have hsum := h asset account
    rw [List.map_cons, List.sum_cons] at hsum
    omega
  refine ⟨hfirst, ?_⟩
  intro asset account
  have hsum := h asset account
  rw [List.map_cons, List.sum_cons] at hsum
  have hmoves := (settle_plain accounts proposal storage ledger hfirst).2 asset account
  unfold settleLedger
  omega

/-- What a covered list of proposals does to a balance is the sum of what its proposals do. -/
theorem foldl_settle_balance (accounts : LocationToAccount) {storage : Storage} (asset : AssetId)
    (account : AccountId) {proposals : List Proposal} {ledger : PlainLedger}
    (h : Covered cfg storage proposals ledger) :
    (proposals.foldl (settleLedger cfg accounts storage) ledger).balance asset account +
        (proposals.map (outflow cfg storage asset account)).sum =
      ledger.balance asset account +
        (proposals.map (inflow cfg accounts storage asset account)).sum := by
  induction proposals generalizing ledger with
  | nil => simp
  | cons proposal rest ih =>
      obtain ⟨hfirst, hrest⟩ := h.cons accounts
      have hmoves := (settle_plain accounts proposal storage ledger hfirst).2 asset account
      have hlater := ih hrest
      rw [List.foldl_cons, List.map_cons, List.map_cons, List.sum_cons, List.sum_cons]
      unfold settleLedger at hlater ⊢
      omega

/-- The state after a covered proposal that is resolved in `storage`. -/
def settleState (cfg : Config PlainLedger) (accounts : LocationToAccount) (storage : Storage)
    (current : State PlainLedger) (proposal : Proposal) : State PlainLedger where
  storage := markSettled cfg accounts storage current.storage proposal
  events := current.events ++
    outcomeEvents cfg proposal (outcomeOf cfg accounts storage proposal)
  ledger := settleLedger cfg accounts storage current.ledger proposal

/-- A round of the loop for a covered proposal. -/
theorem execute_one_plain (hcfg : cfg.assetTransactor = (PlainLedger.transactor accounts).lift)
    {storage : Storage} {proposal : Proposal} {current after : State PlainLedger}
    (hsame : resolve cfg current.storage proposal = resolve cfg storage proposal)
    (hcovered : ∀ asset account,
      outflow cfg storage asset account proposal ≤ current.ledger.balance asset account) :
    executeOne cfg proposal current = (.ok (), after) ↔
      (∀ reason, outcomeOf cfg accounts storage proposal ≠ .error (.panic reason)) ∧
        after = settleState cfg accounts storage current proposal := by
  have hsettle : settle cfg (PlainLedger.transactor accounts) proposal current.storage
      current.ledger = (outcomeOf cfg accounts storage proposal,
        settleLedger cfg accounts storage current.ledger proposal) := by
    unfold settle
    rw [hsame]
    exact Prod.ext (settle_plain accounts proposal storage current.ledger hcovered).1 rfl
  rw [execute_one_lift hcfg, hsettle]
  rfl

/-- The state that a covered list of proposals with different keys leaves, and when it goes
through: every proposal has the outcome it has in `storage`. -/
theorem forEach_plain (hcfg : cfg.assetTransactor = (PlainLedger.transactor accounts).lift)
    {storage : Storage} {proposals : List Proposal} {current final : State PlainLedger}
    (hsame : ∀ proposal ∈ proposals,
      resolve cfg current.storage proposal = resolve cfg storage proposal)
    (hdistinct : (proposals.map Proposal.key).Nodup)
    (hcovered : Covered cfg storage proposals current.ledger) :
    Exec.forEach proposals (executeOne cfg) current = (.ok (), final) ↔
      (∀ proposal ∈ proposals, ∀ reason,
        outcomeOf cfg accounts storage proposal ≠ .error (.panic reason)) ∧
      final =
        { storage := proposals.foldl (markSettled cfg accounts storage) current.storage
          events := current.events ++ proposals.flatMap fun proposal =>
            outcomeEvents cfg proposal (outcomeOf cfg accounts storage proposal)
          ledger := proposals.foldl (settleLedger cfg accounts storage) current.ledger } := by
  induction proposals generalizing current with
  | nil => simp [eq_comm]
  | cons proposal rest ih =>
      obtain ⟨hfirst, hrest⟩ := hcovered.cons accounts
      rw [List.map_cons, List.nodup_cons] at hdistinct
      have hlater : ∀ other ∈ rest,
          resolve cfg (settleState cfg accounts storage current proposal).storage other =
            resolve cfg storage other := by
        intro other hmem
        have hkey : other.key ≠ proposal.key := by
          intro heq
          exact hdistinct.1 (heq ▸ List.mem_map_of_mem hmem)
        rw [← hsame other (List.mem_cons_of_mem _ hmem)]
        exact resolve_mark_outcome hkey _
      have hone : ∀ after, executeOne cfg proposal current = (.ok (), after) ↔
          (∀ reason, outcomeOf cfg accounts storage proposal ≠ .error (.panic reason)) ∧
            after = settleState cfg accounts storage current proposal :=
        fun _ => execute_one_plain hcfg (hsame proposal List.mem_cons_self) hfirst
      have hloop := @ih (settleState cfg accounts storage current proposal) hlater hdistinct.2 hrest
      rw [Exec.forEach_cons, Exec.bind_ok]
      constructor
      · rintro ⟨done, after, hafter, hrun⟩
        obtain ⟨hpanic, rfl⟩ := (hone after).mp hafter
        obtain ⟨hpanics, rfl⟩ := hloop.mp hrun
        refine ⟨?_, ?_⟩
        · intro other hmem
          rcases List.mem_cons.mp hmem with rfl | hmem
          · exact hpanic
          · exact hpanics other hmem
        · simp [settleState]
      · rintro ⟨hpanics, rfl⟩
        refine ⟨(), _, (hone _).mpr ⟨hpanics proposal List.mem_cons_self, rfl⟩, ?_⟩
        refine hloop.mpr ⟨fun other hmem => hpanics other (List.mem_cons_of_mem _ hmem), ?_⟩
        simp [settleState]

/-- Executing a covered list of proposals in another order ends with the same storage and ledger,
and gives every proposal the same outcome. -/
theorem forEach_perm (hcfg : cfg.assetTransactor = (PlainLedger.transactor accounts).lift)
    {first second : List Proposal} {state final : State PlainLedger} (hperm : second.Perm first)
    (hdistinct : (first.map Proposal.key).Nodup)
    (hcovered : Covered cfg state.storage first state.ledger)
    (h : Exec.forEach first (executeOne cfg) state = (.ok (), final)) :
    ∃ other, Exec.forEach second (executeOne cfg) state = (.ok (), other) ∧
      other.ledger = final.ledger ∧ other.storage = final.storage ∧
      final.events = state.events ++ first.flatMap (fun proposal =>
        outcomeEvents cfg proposal (outcomeOf cfg accounts state.storage proposal)) ∧
      other.events = state.events ++ second.flatMap (fun proposal =>
        outcomeEvents cfg proposal (outcomeOf cfg accounts state.storage proposal)) := by
  obtain ⟨hpanics, rfl⟩ := (forEach_plain hcfg (fun _ _ => rfl) hdistinct hcovered).mp h
  have hcovered' : Covered cfg state.storage second state.ledger := by
    intro asset account
    rw [(hperm.map _).sum_eq]
    exact hcovered asset account
  have hdistinct' : (second.map Proposal.key).Nodup := (hperm.map _).nodup_iff.mpr hdistinct
  refine ⟨_, (forEach_plain hcfg (fun _ _ => rfl) hdistinct' hcovered').mpr
    ⟨fun proposal hmem => hpanics proposal (hperm.mem_iff.mp hmem), rfl⟩, ?_, ?_, rfl, rfl⟩
  · ext asset account
    have hfirst := foldl_settle_balance accounts asset account hcovered
    have hsecond := foldl_settle_balance accounts asset account hcovered'
    rw [(hperm.map _).sum_eq, (hperm.map (inflow cfg accounts state.storage asset account)).sum_eq]
      at hsecond
    show (second.foldl (settleLedger cfg accounts state.storage) state.ledger).balance asset
      account = (first.foldl (settleLedger cfg accounts state.storage) state.ledger).balance asset
        account
    omega
  · exact hperm.foldl_eq _

/-! ## Batches -/

/-- A batch as it is submitted. -/
structure Submission where
  origin : Origin
  proposals : List Proposal
  signature : Bytes

/-- Submit a batch. -/
def submit {L : Type} (cfg : Config L) (batch : Submission) : Call L DispatchError Unit :=
  dispatch cfg batch.origin (.executeProposal batch.proposals batch.signature)

/-- Executing proposals keeps the key. -/
theorem forEach_mpc_addr (hcfg : cfg.assetTransactor = (PlainLedger.transactor accounts).lift)
    {proposals : List Proposal} {state final : State PlainLedger}
    (h : Exec.forEach proposals (executeOne cfg) state = (.ok (), final)) :
    final.storage.mpcAddr = state.storage.mpcAddr := by
  induction proposals generalizing state with
  | nil =>
      obtain ⟨-, rfl⟩ := Exec.pure_ok.mp h
      rfl
  | cons proposal rest ih =>
      obtain ⟨_, middle, hone, hrest⟩ := Exec.bind_ok.mp h
      obtain ⟨-, rfl⟩ := (execute_one_lift hcfg).mp hone
      rw [ih hrest]
      show (markOutcome proposal state.storage _).mpcAddr = state.storage.mpcAddr
      cases (settle cfg (PlainLedger.transactor accounts) proposal state.storage state.ledger).1 <;>
        rfl

/-- Batches that are all accepted execute their proposals one after the other. -/
theorem submit_all_ok {batches : List Submission} {state final : State PlainLedger}
    (h : Exec.forEach batches (submit cfg) state = (.ok (), final)) :
    (batches ≠ [] → state.storage.mpcClear = false) ∧
      Exec.forEach (batches.flatMap Submission.proposals) (executeOne cfg) state =
        (.ok (), final) := by
  induction batches generalizing state with
  | nil => exact ⟨fun hne => absurd rfl hne, h⟩
  | cons batch rest ih =>
      obtain ⟨_, middle, hfirst, hrest⟩ := Exec.bind_ok.mp h
      obtain ⟨hmpc, -, -, hloop⟩ := dispatch_batch_ok.mp hfirst
      refine ⟨fun _ => hmpc, ?_⟩
      rw [List.flatMap_cons]
      exact Exec.forEach_append_ok.mpr ⟨middle, hloop, (ih hrest).2⟩

/-- Batches that are signed for are accepted when their proposals can be executed one after the
other. -/
theorem submit_all_of_signed
    (hcfg : cfg.assetTransactor = (PlainLedger.transactor accounts).lift)
    {batches : List Submission} {state final : State PlainLedger}
    (hmpc : batches ≠ [] → state.storage.mpcClear = false)
    (hsigned : ∀ batch ∈ batches, batch.proposals ≠ [] ∧
      verifyByMpcAddress cfg state.storage
        (constructEcdsaSigningProposalsData cfg batch.proposals) batch.signature = true)
    (h : Exec.forEach (batches.flatMap Submission.proposals) (executeOne cfg) state =
      (.ok (), final)) :
    Exec.forEach batches (submit cfg) state = (.ok (), final) := by
  induction batches generalizing state with
  | nil => exact h
  | cons batch rest ih =>
      rw [List.flatMap_cons] at h
      obtain ⟨middle, hloop, hrest⟩ := Exec.forEach_append_ok.mp h
      obtain ⟨hne, hverify⟩ := hsigned batch List.mem_cons_self
      have hkey := forEach_mpc_addr hcfg hloop
      have hclear := hmpc (List.cons_ne_nil _ _)
      refine Exec.bind_ok.mpr ⟨(), middle,
        dispatch_batch_ok.mpr ⟨hclear, hne, hverify, hloop⟩, ih ?_ ?_ hrest⟩
      · intro _
        unfold Storage.mpcClear
        rw [hkey]
        exact hclear
      · intro other hmem
        obtain ⟨hother, hsignature⟩ := hsigned other (List.mem_cons_of_mem _ hmem)
        refine ⟨hother, ?_⟩
        unfold verifyByMpcAddress
        rw [hkey]
        exact hsignature

/-- Over the plain ledger, proposals with different origins or nonces whose reserves suffice can be
submitted in any order and in any grouping into signed batches: balances, executed nonces and the
outcome of every proposal are the same. -/
theorem batch_order_irrelevant
    (hcfg : cfg.assetTransactor = (PlainLedger.transactor accounts).lift)
    {first second : List Submission} {state final : State PlainLedger}
    (hfirst : Exec.forEach first (submit cfg) state = (.ok (), final))
    (hdistinct : ((first.flatMap Submission.proposals).map Proposal.key).Nodup)
    (hcovered : Covered cfg state.storage (first.flatMap Submission.proposals) state.ledger)
    (hperm : (second.flatMap Submission.proposals).Perm (first.flatMap Submission.proposals))
    (hsigned : ∀ batch ∈ second, batch.proposals ≠ [] ∧
      verifyByMpcAddress cfg state.storage
        (constructEcdsaSigningProposalsData cfg batch.proposals) batch.signature = true) :
    ∃ other, Exec.forEach second (submit cfg) state = (.ok (), other) ∧
      other.ledger = final.ledger ∧ other.storage = final.storage ∧
      final.events = state.events ++ (first.flatMap Submission.proposals).flatMap (fun proposal =>
        outcomeEvents cfg proposal (outcomeOf cfg accounts state.storage proposal)) ∧
      other.events = state.events ++ (second.flatMap Submission.proposals).flatMap (fun proposal =>
        outcomeEvents cfg proposal (outcomeOf cfg accounts state.storage proposal)) := by
  obtain ⟨hmpc, hloop⟩ := submit_all_ok hfirst
  obtain ⟨other, hother, hsame⟩ := forEach_perm hcfg hperm hdistinct hcovered hloop
  refine ⟨other, submit_all_of_signed hcfg ?_ hsigned hother, hsame⟩
  intro hne
  refine hmpc ?_
  -- a batch of the second grouping has a proposal, so the first grouping has one
  intro hnil
  rw [hnil, List.flatMap_nil] at hperm
  obtain ⟨batch, rest, rfl⟩ := List.exists_cons_of_ne_nil hne
  have hempty := hperm.eq_nil
  rw [List.flatMap_cons, List.append_eq_nil_iff] at hempty
  exact (hsigned batch List.mem_cons_self).1 hempty.1

/-- A proposal takes at most what it pays. -/
theorem outflow_le (cfg : Config PlainLedger) (storage : Storage) (asset : AssetId)
    (account : AccountId) (proposal : Proposal) :
    outflow cfg storage asset account proposal ≤
      match resolve cfg storage proposal with
      | .error _ => 0
      | .ok payout => payout.asset.value := by
  unfold outflow Payout.takes
  cases resolve cfg storage proposal with
  | error fault => exact Nat.le_refl 0
  | ok payout =>
      show (if _ then _ else 0) ≤ payout.asset.value
      split
      · exact Nat.le_refl _
      · exact Nat.zero_le _

namespace Standalone

/-- A chain with a key and a registered domain, on which every account holds 2000. -/
def coveredState : State PlainLedger :=
  let start : State PlainLedger := .genesis 1 ⟨fun _ _ => 2000⟩
  { start with
    storage :=
      { start.storage with
        mpcAddr := constantSigner
        destDomainIds := start.storage.destDomainIds.insert 1 true } }

/-- A proposal that is paid out, and one to a location that has no account. -/
def arrivingProposal : Proposal :=
  ⟨1, 0, resource 0 1, createDepositData 1000000000
    (MultiLocation.codec.encode (.ofAccount treasuryAccount))⟩

def lostProposal : Proposal := ⟨1, 1, resource 0 1, createDepositData 1000000000 [2, 0]⟩

def jointBatch : List Submission :=
  [⟨.none, [arrivingProposal, lostProposal], List.replicate 65 0⟩]

/-- The same proposals in two batches, in the other order. -/
def splitBatches : List Submission :=
  [⟨.none, [lostProposal], List.replicate 65 0⟩, ⟨.none, [arrivingProposal], List.replicate 65 0⟩]

def jointState : State PlainLedger :=
  (Exec.forEach jointBatch (submit plainConfig) coveredState).2

theorem covered_joint : Covered plainConfig coveredState.storage
    (jointBatch.flatMap Submission.proposals) coveredState.ledger := by
  intro asset account
  have harriving := outflow_le plainConfig coveredState.storage asset account arrivingProposal
  have hlost := outflow_le plainConfig coveredState.storage asset account lostProposal
  show outflow _ _ _ _ arrivingProposal + (outflow _ _ _ _ lostProposal + 0) ≤ 2000
  have hvalue : (match resolve plainConfig coveredState.storage arrivingProposal with
      | .error _ => 0
      | .ok payout => payout.asset.value) = 1000 := by decide +kernel
  have hvalue' : (match resolve plainConfig coveredState.storage lostProposal with
      | .error _ => 0
      | .ok payout => payout.asset.value) = 1000 := by decide +kernel
  omega

theorem batch_order_irrelevant_split :
    ∃ other, Exec.forEach splitBatches (submit plainConfig) coveredState = (.ok (), other) ∧
      other.ledger = jointState.ledger ∧ other.storage = jointState.storage ∧
      jointState.ledger.balance (.concrete nativeLocation) bridgeAccountNative = 0 := by
  have hjoint : Exec.forEach jointBatch (submit plainConfig) coveredState = (.ok (), jointState) :=
    Prod.ext (by decide +kernel) rfl
  have hsigned : ∀ batch ∈ splitBatches, batch.proposals ≠ [] ∧
      verifyByMpcAddress plainConfig coveredState.storage
        (constructEcdsaSigningProposalsData plainConfig batch.proposals) batch.signature =
          true := by
    decide +kernel
  have hperm : (splitBatches.flatMap Submission.proposals).Perm
      (jointBatch.flatMap Submission.proposals) :=
    .swap arrivingProposal lostProposal []
  obtain ⟨other, hother, hledger, hstorage, -⟩ := batch_order_irrelevant rfl hjoint
    (by decide +kernel) covered_joint hperm hsigned
  exact ⟨other, hother, hledger, hstorage, by decide +kernel⟩

end Standalone

end Sygma
