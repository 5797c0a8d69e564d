import Sygma.Runtime.Machine
import Sygma.Runtime.Ordering
import Sygma.Runtime.Solvency

/-!
# The order of traffic

Users deposit and relayers submit batches, and a block may hold these calls in any order. Over the
plain ledger, what a deposit moves and reports depends on the tables the committee writes and not on
other traffic, except for the nonce it gets; the same holds for proposals.
`traffic_order_irrelevant` draws the conclusion: calls that go through in one order, and are covered
by the balances before all of them, go through in every order and leave the same balances and the
same storage. Only the order of the log and the nonces of deposits to one domain differ.
-/

namespace Sygma

open Bridge

/-! ## What a deposit moves -/

section Deposit

variable {L : Type} {cfg : Config L}

/-- The receipt that the checks of a deposit give, in a given storage. -/
def receiptOf (cfg : Config L) (storage : Storage) (sender : AccountId) (asset : MultiAsset)
    (dest : MultiLocation) : Option Receipt :=
  match quote cfg storage (.signed sender) asset dest with
  | .error _ => none
  | .ok found =>
      if found.amount > found.fee then
        match getTokenReservedAccount cfg asset.id,
          cfg.decimalConverter.convertTo ⟨asset.id, .fungible (found.amount - found.fee)⟩ with
        | some reserve, .ok (some published) =>
            some ⟨found.sender, found.recipient, found.destDomainId, found.resourceId, found.amount,
              found.transferType, found.fee, reserve, published⟩
        | _, _ => none
      else none

/-- A deposit passes its checks when there is a receipt, its transactor calls succeed, and there is
a nonce left. -/
theorem deposits_iff {sender : AccountId} {asset : MultiAsset} {dest : MultiLocation}
    {receipt : Receipt} {state moved : State L} :
    Deposits cfg (.signed sender) asset dest receipt state moved ↔
      receiptOf cfg state.storage sender asset dest = some receipt ∧
        collect cfg asset receipt state = (.ok (), moved) ∧
        moved.storage.depositCount receipt.destDomainId ≠ BitVec.allOnes 64 := by
  constructor
  · intro h
    refine ⟨?_, h.collected, h.counted⟩
    have hquote : quote cfg state.storage (.signed sender) asset dest =
        .ok ⟨receipt.sender, receipt.recipient, receipt.destDomainId, receipt.resourceId,
          receipt.amount, receipt.transferType, receipt.fee⟩ :=
      quote_ok.mpr ⟨h.signed, h.mpc, h.destination, h.open_, h.registered, h.bound, h.charged⟩
    have hconverted : cfg.decimalConverter.convertTo
        ⟨asset.id, .fungible (receipt.amount - receipt.fee)⟩ = .ok (some receipt.published) :=
      h.converted
    simp only [receiptOf, hquote, if_pos h.affordable, h.reserve, hconverted]
  · rintro ⟨hreceipt, hcollected, hcounted⟩
    unfold receiptOf at hreceipt
    cases hquote : quote cfg state.storage (.signed sender) asset dest with
    | error fault => simp [hquote] at hreceipt
    | ok found =>
        simp only [hquote] at hreceipt
        split at hreceipt
        · rename_i haffordable
          split at hreceipt
          · rename_i reserve published hreserve hconverted
            cases hreceipt
            obtain ⟨hsigned, hmpc, hdest, hopen, hregistered, hbound, hfee⟩ := quote_ok.mp hquote
            exact ⟨hsigned, hmpc, hdest, hopen, hregistered, hbound, hfee, haffordable, hreserve,
              hconverted, hcollected, hcounted⟩
          · cases hreceipt
        · cases hreceipt

/-- What a receipt says about the sender and the asset. -/
theorem receipt_of_some {storage : Storage} {sender : AccountId} {asset : MultiAsset}
    {dest : MultiLocation} {receipt : Receipt}
    (h : receiptOf cfg storage sender asset dest = some receipt) :
    receipt.sender = sender ∧ asset = ⟨asset.id, .fungible receipt.amount⟩ ∧
      receipt.fee < receipt.amount := by
  unfold receiptOf at h
  cases hquote : quote cfg storage (.signed sender) asset dest with
  | error fault => simp [hquote] at h
  | ok found =>
      simp only [hquote] at h
      split at h
      · rename_i haffordable
        split at h
        · cases h
          obtain ⟨hsigned, -, -, -, -, hbound, -⟩ := quote_ok.mp hquote
          cases hsigned
          exact ⟨rfl, (extract_asset_some hbound).1, haffordable⟩
        · cases h
      · cases h

end Deposit

variable {cfg : Config PlainLedger} {accounts : LocationToAccount}

/-- The balances after the transactor calls of a deposit. -/
def Bridge.Receipt.move (cfg : Config PlainLedger) (receipt : Receipt) (asset : AssetId)
    (ledger : PlainLedger) : PlainLedger :=
  let charged := (ledger.debit asset receipt.sender receipt.amount.toNat).credit asset
    cfg.feeReserveAccount receipt.fee.toNat
  if cfg.isReserve ⟨asset, .fungible receipt.amount⟩ .here then
    charged.credit asset receipt.reserveAccount receipt.bridged.toNat
  else charged

/-- What a deposit takes out of a balance. -/
def Bridge.Receipt.takes (receipt : Receipt) (id asset : AssetId) (account : AccountId) : Nat :=
  if asset = id ∧ account = receipt.sender then receipt.amount.toNat else 0

/-- What a deposit puts into a balance. -/
def Bridge.Receipt.gives (cfg : Config PlainLedger) (receipt : Receipt) (id asset : AssetId)
    (account : AccountId) : Nat :=
  (if asset = id ∧ account = cfg.feeReserveAccount then receipt.fee.toNat else 0) +
    if cfg.isReserve ⟨id, .fungible receipt.amount⟩ .here ∧ asset = id ∧
        account = receipt.reserveAccount then receipt.bridged.toNat
    else 0

theorem Bridge.Receipt.move_balance (cfg : Config PlainLedger) {receipt : Receipt} {id : AssetId}
    {ledger : PlainLedger}
    (henough : receipt.amount.toNat ≤ ledger.balance id receipt.sender) (asset : AssetId)
    (account : AccountId) :
    (receipt.move cfg id ledger).balance asset account + receipt.takes id asset account =
      ledger.balance asset account + receipt.gives cfg id asset account := by
  have hdebit := PlainLedger.debit_balance henough asset account
  unfold Receipt.move Receipt.takes Receipt.gives
  by_cases hreserve : cfg.isReserve ⟨id, .fungible receipt.amount⟩ .here = true
  · simp only [hreserve, if_true, PlainLedger.credit_balance, true_and]
    omega
  · simp only [hreserve, if_false, PlainLedger.credit_balance, false_and, Bool.false_eq_true]
    omega

section Calls

variable (hcfg : cfg.assetTransactor = (PlainLedger.transactor accounts).lift)
  {id : AssetId} {amount : U128} {account : AccountId} {state final : State PlainLedger}

include hcfg

/-- A withdrawal from an account succeeds exactly when the balance suffices. -/
theorem withdraw_account_plain :
    cfg.assetTransactor.withdrawAsset ⟨id, .fungible amount⟩ (.ofAccount account) state =
        (.ok (), final) ↔
      amount.toNat ≤ state.ledger.balance id account ∧
        { state with ledger := state.ledger.debit id account amount.toNat } = final := by
  rw [hcfg]
  show onLedger _ state = _ ↔ _
  rw [on_ledger_ok]
  by_cases henough : amount.toNat ≤ state.ledger.balance id account
  · simp [PlainLedger.transactor, accounts.convert_of_account, henough]
  · simp [PlainLedger.transactor, accounts.convert_of_account, henough]

/-- A deposit to an account succeeds. -/
theorem deposit_account_plain :
    cfg.assetTransactor.depositAsset ⟨id, .fungible amount⟩ (.ofAccount account) state =
        (.ok (), final) ↔
      { state with ledger := state.ledger.credit id account amount.toNat } = final := by
  rw [hcfg]
  show onLedger _ state = _ ↔ _
  rw [on_ledger_ok]
  simp [PlainLedger.transactor, accounts.convert_of_account]

/-- The transactor calls of a deposit succeed exactly when the sender holds the amount. -/
theorem collect_plain {asset : MultiAsset} {receipt : Receipt}
    (hasset : asset = ⟨asset.id, .fungible receipt.amount⟩) :
    collect cfg asset receipt state = (.ok (), final) ↔
      receipt.amount.toNat ≤ state.ledger.balance asset.id receipt.sender ∧
        { state with ledger := receipt.move cfg asset.id state.ledger } = final := by
  obtain ⟨id, value⟩ := asset
  cases hasset
  unfold collect Receipt.move Exec.when
  simp only [transact, Exec.bind_ok, Exec.mapErr_ok, withdraw_account_plain hcfg,
    deposit_account_plain hcfg]
  constructor
  · rintro ⟨-, paid, ⟨henough, rfl⟩, -, charged, rfl, hrest⟩
    refine ⟨henough, ?_⟩
    split at hrest
    · rename_i hreserve
      rw [Exec.mapErr_ok, deposit_account_plain hcfg] at hrest
      simpa [hreserve] using hrest
    · rename_i hreserve
      obtain ⟨-, rfl⟩ := Exec.pure_ok.mp hrest
      simp [hreserve]
  · rintro ⟨henough, rfl⟩
    refine ⟨(), _, ⟨henough, rfl⟩, (), _, rfl, ?_⟩
    split
    · rw [Exec.mapErr_ok, deposit_account_plain hcfg]
    · rfl

end Calls

/-! ## One call -/

/-- A call of a user or of a relayer. -/
inductive Traffic where
  | deposit (sender : AccountId) (asset : MultiAsset) (dest : MultiLocation)
  | batch (submission : Submission)

namespace Traffic

/-- Make a call. -/
def perform (cfg : Config PlainLedger) : Traffic → Call PlainLedger DispatchError Unit
  | .deposit sender asset dest => dispatch cfg (.signed sender) (.deposit asset dest)
  | .batch submission => submit cfg submission

/-- The proposals of a call. -/
def proposals : Traffic → List Proposal
  | .deposit _ _ _ => []
  | .batch submission => submission.proposals

/-- The domain that a call deposits to. -/
def target (cfg : Config PlainLedger) (storage : Storage) : Traffic → Option DomainID
  | .deposit sender asset dest => (receiptOf cfg storage sender asset dest).map Receipt.destDomainId
  | .batch _ => none

/-- Whether a call goes through in a storage, as far as balances and nonces suffice. -/
def Planned (cfg : Config PlainLedger) (accounts : LocationToAccount) (storage : Storage) :
    Traffic → Prop
  | .deposit sender asset dest => (receiptOf cfg storage sender asset dest).isSome = true
  | .batch submission =>
      storage.mpcClear = false ∧ submission.proposals ≠ [] ∧
        verifyByMpcAddress cfg storage (constructEcdsaSigningProposalsData cfg submission.proposals)
          submission.signature = true ∧
        ∀ proposal ∈ submission.proposals, ∀ reason,
          outcomeOf cfg accounts storage proposal ≠ .error (.panic reason)

/-- What a call takes out of a balance. -/
def takes (cfg : Config PlainLedger) (storage : Storage) (asset : AssetId) (account : AccountId) :
    Traffic → Nat
  | .deposit sender what dest =>
      ((receiptOf cfg storage sender what dest).map fun receipt =>
        receipt.takes what.id asset account).getD 0
  | .batch submission => (submission.proposals.map (outflow cfg storage asset account)).sum

/-- What a call puts into a balance. -/
def gives (cfg : Config PlainLedger) (accounts : LocationToAccount) (storage : Storage)
    (asset : AssetId) (account : AccountId) : Traffic → Nat
  | .deposit sender what dest =>
      ((receiptOf cfg storage sender what dest).map fun receipt =>
        receipt.gives cfg what.id asset account).getD 0
  | .batch submission => (submission.proposals.map (inflow cfg accounts storage asset account)).sum

/-- The ledger after a call that is checked in `storage`. -/
def move (cfg : Config PlainLedger) (accounts : LocationToAccount) (storage : Storage)
    (ledger : PlainLedger) : Traffic → PlainLedger
  | .deposit sender asset dest =>
      match receiptOf cfg storage sender asset dest with
      | some receipt => receipt.move cfg asset.id ledger
      | none => ledger
  | .batch submission => submission.proposals.foldl (settleLedger cfg accounts storage) ledger

/-- Count one more deposit to a domain. -/
def bump (storage : Storage) (domain : DomainID) : Storage :=
  { storage with
    depositCounts := storage.depositCounts.insert domain (storage.depositCount domain + 1) }

/-- The storage after a call that is checked in `storage`. -/
def write (cfg : Config PlainLedger) (accounts : LocationToAccount) (storage current : Storage)
    (call : Traffic) : Storage :=
  match call with
  | .deposit sender asset dest =>
      match receiptOf cfg storage sender asset dest with
      | some receipt => bump current receipt.destDomainId
      | none => current
  | .batch submission => submission.proposals.foldl (markSettled cfg accounts storage) current

/-- What a call reports, given the count of deposits so far. -/
def report (cfg : Config PlainLedger) (accounts : LocationToAccount) (storage : Storage)
    (count : DomainID → DepositNonce) : Traffic → List Event
  | .deposit sender asset dest =>
      match receiptOf cfg storage sender asset dest with
      | some receipt => receipt.events asset.id (count receipt.destDomainId)
      | none => []
  | .batch submission => submission.proposals.flatMap fun proposal =>
      outcomeEvents cfg proposal (outcomeOf cfg accounts storage proposal)

/-- The state after a call that is checked in `storage`. -/
def result (cfg : Config PlainLedger) (accounts : LocationToAccount) (storage : Storage)
    (current : State PlainLedger) (call : Traffic) : State PlainLedger where
  storage := call.write cfg accounts storage current.storage
  events := current.events ++ call.report cfg accounts storage current.storage.depositCount
  ledger := call.move cfg accounts storage current.ledger

end Traffic

/-- A storage differs from another one in the counters and the executed nonces only. -/
def Storage.Untouched (storage current : Storage) : Prop :=
  current =
    { storage with
      depositCounts := current.depositCounts
      usedNonces := current.usedNonces }

/-- The checks of a deposit do not read counters and executed nonces. -/
theorem Storage.Untouched.receipt_of {storage current : Storage} (h : storage.Untouched current)
    (hrouter : cfg.feeHandler = FeeHandlerRouter.getFee) (sender : AccountId) (asset : MultiAsset)
    (dest : MultiLocation) :
    receiptOf cfg current sender asset dest = receiptOf cfg storage sender asset dest := by
  have hquote : quote cfg current (.signed sender) asset dest =
      quote cfg storage (.signed sender) asset dest := by
    unfold quote
    rw [hrouter, h]
    rfl
  unfold receiptOf
  rw [hquote]

/-- A call that is covered goes through exactly when it is planned and there is a nonce left for its
deposit. -/
theorem perform_plain (hcfg : cfg.assetTransactor = (PlainLedger.transactor accounts).lift)
    (hrouter : cfg.feeHandler = FeeHandlerRouter.getFee) {storage : Storage}
    {current final : State PlainLedger} {call : Traffic}
    (huntouched : storage.Untouched current.storage)
    (hsame : ∀ proposal ∈ call.proposals,
      resolve cfg current.storage proposal = resolve cfg storage proposal)
    (hdistinct : (call.proposals.map Proposal.key).Nodup)
    (hcovered : ∀ asset account,
      call.takes cfg storage asset account ≤ current.ledger.balance asset account) :
    call.perform cfg current = (.ok (), final) ↔
      call.Planned cfg accounts storage ∧
        (∀ domain, call.target cfg storage = some domain →
          current.storage.depositCount domain ≠ BitVec.allOnes 64) ∧
        call.result cfg accounts storage current = final := by
  cases call with
  | deposit sender asset dest =>
      show dispatch cfg _ (.deposit asset dest) current = _ ↔ _
      rw [dispatch_ok, Extrinsic.call, deposit_ok]
      simp only [deposits_iff, huntouched.receipt_of hrouter]
      constructor
      · rintro ⟨receipt, moved, ⟨hreceipt, hcollect, hcounted⟩, rfl⟩
        obtain ⟨-, hasset, -⟩ := receipt_of_some hreceipt
        obtain ⟨henough, rfl⟩ := (collect_plain hcfg hasset).mp hcollect
        refine ⟨by simp [Traffic.Planned, hreceipt], ?_, ?_⟩
        · intro domain htarget
          simp only [Traffic.target, hreceipt, Option.map_some, Option.some.injEq] at htarget
          rw [← htarget]
          exact hcounted
        · simp only [Traffic.result, Traffic.write, Traffic.report, Traffic.move, hreceipt]
          rfl
      · rintro ⟨hplanned, hcounted, rfl⟩
        obtain ⟨receipt, hreceipt⟩ := Option.isSome_iff_exists.mp hplanned
        obtain ⟨hsender, hasset, -⟩ := receipt_of_some hreceipt
        have henough : receipt.amount.toNat ≤ current.ledger.balance asset.id receipt.sender := by
          simpa [Traffic.takes, hreceipt, Receipt.takes] using hcovered asset.id receipt.sender
        refine ⟨receipt, _, ⟨hreceipt, (collect_plain hcfg hasset).mpr ⟨henough, rfl⟩, ?_⟩, ?_⟩
        · exact hcounted _ (by simp [Traffic.target, hreceipt])
        · simp only [Traffic.result, Traffic.write, Traffic.report, Traffic.move, hreceipt]
          rfl
  | batch submission =>
      have hkey : current.storage.mpcAddr = storage.mpcAddr := by rw [huntouched]
      have hclear : current.storage.mpcClear = storage.mpcClear := by
        unfold Storage.mpcClear
        rw [hkey]
      have hverify : ∀ message signature, verifyByMpcAddress cfg current.storage message signature =
          verifyByMpcAddress cfg storage message signature := by
        intro message signature
        unfold verifyByMpcAddress
        rw [hkey]
      have hloop : Exec.forEach submission.proposals (executeOne cfg) current = (.ok (), final) ↔
          _ := forEach_plain hcfg hsame hdistinct hcovered
      show dispatch cfg _ (.executeProposal _ _) current = _ ↔ _
      rw [dispatch_batch_ok, hloop, hclear, hverify]
      constructor
      · rintro ⟨hset, hne, hsigned, hpanics, rfl⟩
        refine ⟨⟨hset, hne, hsigned, hpanics⟩, ?_, rfl⟩
        intro domain htarget
        cases htarget
      · rintro ⟨⟨hset, hne, hsigned, hpanics⟩, -, rfl⟩
        exact ⟨hset, hne, hsigned, hpanics, rfl⟩

/-! ## A list of calls -/

section List

variable {storage : Storage}

/-- The balances cover everything that a list of calls takes out. -/
def CoveredTraffic (cfg : Config PlainLedger) (storage : Storage) (calls : List Traffic)
    (ledger : PlainLedger) : Prop :=
  ∀ asset account,
    (calls.map (Traffic.takes cfg storage asset account)).sum ≤ ledger.balance asset account

/-- A covered call moves what it takes and gives. -/
theorem Traffic.move_balance (accounts : LocationToAccount) {call : Traffic} {ledger : PlainLedger}
    (hcovered : ∀ asset account, call.takes cfg storage asset account ≤
      ledger.balance asset account) (asset : AssetId) (account : AccountId) :
    (call.move cfg accounts storage ledger).balance asset account +
        call.takes cfg storage asset account =
      ledger.balance asset account + call.gives cfg accounts storage asset account := by
  cases call with
  | deposit sender what dest =>
      cases hreceipt : receiptOf cfg storage sender what dest with
      | none => simp [Traffic.move, Traffic.takes, Traffic.gives, hreceipt]
      | some receipt =>
          have henough : receipt.amount.toNat ≤ ledger.balance what.id receipt.sender := by
            simpa [Traffic.takes, hreceipt, Receipt.takes] using hcovered what.id receipt.sender
          have hmoves := Receipt.move_balance cfg henough asset account
          simpa [Traffic.move, Traffic.takes, Traffic.gives, hreceipt] using hmoves
  | batch submission => exact foldl_settle_balance accounts asset account hcovered

/-- What covers a list covers its first call, and after it the rest. -/
theorem CoveredTraffic.cons (accounts : LocationToAccount) {call : Traffic} {rest : List Traffic}
    {ledger : PlainLedger} (h : CoveredTraffic cfg storage (call :: rest) ledger) :
    (∀ asset account, call.takes cfg storage asset account ≤ ledger.balance asset account) ∧
      CoveredTraffic cfg storage rest (call.move cfg accounts storage ledger) := by
  have hfirst : ∀ asset account,
      call.takes cfg storage asset account ≤ ledger.balance asset account := by
    intro asset account
    have hsum := h asset account
    rw [List.map_cons, List.sum_cons] at hsum
    omega
  refine ⟨hfirst, ?_⟩
  intro asset account
  have hsum := h asset account
  rw [List.map_cons, List.sum_cons] at hsum
  have hmoves := Traffic.move_balance accounts hfirst asset account
  omega

/-- What a covered list of calls does to a balance is the sum of what its calls do. -/
theorem foldl_move_balance (accounts : LocationToAccount) (asset : AssetId) (account : AccountId)
    {calls : List Traffic} {ledger : PlainLedger} (h : CoveredTraffic cfg storage calls ledger) :
    (calls.foldl (Traffic.move cfg accounts storage) ledger).balance asset account +
        (calls.map (Traffic.takes cfg storage asset account)).sum =
      ledger.balance asset account +
        (calls.map (Traffic.gives cfg accounts storage asset account)).sum := by
  induction calls generalizing ledger with
  | nil => rfl
  | cons call rest ih =>
      obtain ⟨hfirst, hrest⟩ := h.cons accounts
      have hmoves := Traffic.move_balance accounts hfirst asset account
      have hlater := ih hrest
      rw [List.foldl_cons, List.map_cons, List.map_cons, List.sum_cons, List.sum_cons]
      omega

/-- How many calls of a list deposit to a domain. -/
def depositsTo (cfg : Config PlainLedger) (storage : Storage) (domain : DomainID)
    (calls : List Traffic) : Nat :=
  calls.countP fun call => call.target cfg storage == some domain

/-- Marking proposals leaves everything but the executed nonces as it was. -/
theorem foldl_mark_settled (proposals : List Proposal) (current : Storage) :
    proposals.foldl (markSettled cfg accounts storage) current =
      { current with
        usedNonces :=
          (proposals.foldl (markSettled cfg accounts storage) current).usedNonces } := by
  induction proposals generalizing current with
  | nil => rfl
  | cons proposal rest ih =>
      have hone : markSettled cfg accounts storage current proposal =
          { current with
            usedNonces := (markSettled cfg accounts storage current proposal).usedNonces } := by
        unfold markSettled
        cases outcomeOf cfg accounts storage proposal <;> rfl
      rw [List.foldl_cons, ih, hone]

/-- A call changes the count of the domain it deposits to. -/
theorem write_deposit_count (call : Traffic) (current : Storage) (domain : DomainID) :
    (call.write cfg accounts storage current).depositCount domain =
      if call.target cfg storage = some domain then current.depositCount domain + 1
      else current.depositCount domain := by
  cases call with
  | deposit sender asset dest =>
      cases hreceipt : receiptOf cfg storage sender asset dest with
      | none => simp [Traffic.write, Traffic.target, hreceipt]
      | some receipt =>
          by_cases hdomain : domain = receipt.destDomainId
          · simp [Traffic.write, Traffic.target, hreceipt, hdomain, Traffic.bump,
              Storage.depositCount]
          · simp [Traffic.write, Traffic.target, hreceipt, hdomain, Ne.symm hdomain, Traffic.bump,
              Storage.depositCount]
  | batch submission =>
      show (submission.proposals.foldl (markSettled cfg accounts storage) current).depositCount
        domain = _
      rw [foldl_mark_settled]
      rfl

/-- Marking proposals does not change the checks of another one. -/
theorem resolve_foldl_mark {proposals : List Proposal} {other : Proposal}
    (hkey : other.key ∉ proposals.map Proposal.key) (current : Storage) :
    resolve cfg (proposals.foldl (markSettled cfg accounts storage) current) other =
      resolve cfg current other := by
  induction proposals generalizing current with
  | nil => rfl
  | cons proposal rest ih =>
      rw [List.map_cons, List.mem_cons, not_or] at hkey
      rw [List.foldl_cons, ih hkey.2]
      exact resolve_mark_outcome hkey.1 _

/-- The checks of a proposal that is not in a call are those before it. -/
theorem resolve_write {call : Traffic} {current : Storage} {other : Proposal}
    (hkey : other.key ∉ call.proposals.map Proposal.key) :
    resolve cfg (call.write cfg accounts storage current) other = resolve cfg current other := by
  cases call with
  | deposit sender asset dest =>
      unfold Traffic.write
      cases hreceipt : receiptOf cfg storage sender asset dest with
      | none => simp [hreceipt]
      | some receipt =>
          simp only [hreceipt]
          rfl
  | batch submission => exact resolve_foldl_mark hkey current

theorem write_untouched {call : Traffic} {current : Storage} (h : storage.Untouched current) :
    storage.Untouched (call.write cfg accounts storage current) := by
  unfold Storage.Untouched at *
  cases call with
  | deposit sender asset dest =>
      unfold Traffic.write
      cases hreceipt : receiptOf cfg storage sender asset dest with
      | none => simpa [hreceipt] using h
      | some receipt =>
          simp only [hreceipt, Traffic.bump]
          rw [h]
  | batch submission =>
      show submission.proposals.foldl (markSettled cfg accounts storage) current =
        { storage with
          depositCounts :=
            (submission.proposals.foldl (markSettled cfg accounts storage) current).depositCounts
          usedNonces :=
            (submission.proposals.foldl (markSettled cfg accounts storage) current).usedNonces }
      rw [foldl_mark_settled, h]

/-- There is a nonce left for a call and for those after it exactly when their deposits do not
overflow a count. -/
theorem counts_cons (cfg : Config PlainLedger) (accounts : LocationToAccount) (storage : Storage)
    (call : Traffic) (rest : List Traffic) (current : Storage) :
    ((∀ domain, call.target cfg storage = some domain →
        current.depositCount domain ≠ BitVec.allOnes 64) ∧
      ∀ domain, ((call.write cfg accounts storage current).depositCount domain).toNat +
        depositsTo cfg storage domain rest < 2 ^ 64) ↔
    ∀ domain, (current.depositCount domain).toNat +
      depositsTo cfg storage domain (call :: rest) < 2 ^ 64 := by
  have hlast : ∀ nonce : DepositNonce, nonce ≠ BitVec.allOnes 64 ↔ nonce.toNat + 1 < 2 ^ 64 := by
    intro nonce
    have hbound := nonce.isLt
    rw [ne_eq, ← BitVec.toNat_inj, BitVec.toNat_allOnes]
    omega
  have hsucc : ∀ nonce : DepositNonce, nonce.toNat + 1 < 2 ^ 64 →
      (nonce + 1).toNat = nonce.toNat + 1 := by
    intro nonce hless
    rw [BitVec.toNat_add, Nat.mod_eq_of_lt]
    · rfl
    · exact hless
  constructor
  · rintro ⟨hnext, hrest⟩ domain
    have hdomain := hrest domain
    rw [write_deposit_count] at hdomain
    unfold depositsTo at hdomain ⊢
    rw [List.countP_cons]
    by_cases htarget : call.target cfg storage = some domain
    · have hless := (hlast _).mp (hnext domain htarget)
      rw [if_pos htarget, hsucc _ hless] at hdomain
      simp only [htarget, beq_self_eq_true, if_true]
      omega
    · rw [if_neg htarget] at hdomain
      have hother : (call.target cfg storage == some domain) = false := by simpa using htarget
      simpa [hother] using hdomain
  · intro hall
    refine ⟨?_, ?_⟩
    · intro domain htarget
      have hdomain := hall domain
      unfold depositsTo at hdomain
      rw [List.countP_cons] at hdomain
      simp only [htarget, beq_self_eq_true, if_true] at hdomain
      exact (hlast _).mpr (by omega)
    · intro domain
      have hdomain := hall domain
      rw [write_deposit_count]
      unfold depositsTo at hdomain ⊢
      rw [List.countP_cons] at hdomain
      by_cases htarget : call.target cfg storage = some domain
      · simp only [htarget, beq_self_eq_true, if_true] at hdomain
        rw [if_pos htarget, hsucc _ (by omega)]
        omega
      · have hother : (call.target cfg storage == some domain) = false := by simpa using htarget
        rw [if_neg htarget]
        simpa [hother] using hdomain

/-- A covered list of calls whose proposals have different keys goes through exactly when all its
calls are planned and no count overflows, and the state it leaves is the result of its calls. -/
theorem perform_all_plain (hcfg : cfg.assetTransactor = (PlainLedger.transactor accounts).lift)
    (hrouter : cfg.feeHandler = FeeHandlerRouter.getFee) {calls : List Traffic}
    {current final : State PlainLedger} (huntouched : storage.Untouched current.storage)
    (hsame : ∀ proposal ∈ calls.flatMap Traffic.proposals,
      resolve cfg current.storage proposal = resolve cfg storage proposal)
    (hdistinct : ((calls.flatMap Traffic.proposals).map Proposal.key).Nodup)
    (hcovered : CoveredTraffic cfg storage calls current.ledger) :
    Exec.forEach calls (Traffic.perform cfg) current = (.ok (), final) ↔
      (∀ call ∈ calls, call.Planned cfg accounts storage) ∧
        (∀ domain, (current.storage.depositCount domain).toNat +
          depositsTo cfg storage domain calls < 2 ^ 64) ∧
        calls.foldl (Traffic.result cfg accounts storage) current = final := by
  induction calls generalizing current with
  | nil =>
      constructor
      · intro h
        exact ⟨by simp, fun domain => BitVec.isLt _, (Exec.pure_ok.mp h).2⟩
      · rintro ⟨-, -, rfl⟩
        rfl
  | cons call rest ih =>
      obtain ⟨hfirst, hrest⟩ := hcovered.cons accounts
      rw [List.flatMap_cons, List.map_append, List.nodup_append] at hdistinct
      obtain ⟨hnodup, hlater, hdisjoint⟩ := hdistinct
      have hone : ∀ after, call.perform cfg current = (.ok (), after) ↔
          call.Planned cfg accounts storage ∧
            (∀ domain, call.target cfg storage = some domain →
              current.storage.depositCount domain ≠ BitVec.allOnes 64) ∧
            call.result cfg accounts storage current = after :=
        fun after => perform_plain hcfg hrouter huntouched
          (fun proposal hmem => hsame proposal (by simp [hmem])) hnodup hfirst
      have hsame' : ∀ proposal ∈ rest.flatMap Traffic.proposals,
          resolve cfg (call.result cfg accounts storage current).storage proposal =
            resolve cfg storage proposal := by
        intro proposal hmem
        rw [← hsame proposal (by rw [List.flatMap_cons]; exact List.mem_append_right _ hmem)]
        refine resolve_write fun hkey => ?_
        exact hdisjoint _ hkey _ (List.mem_map_of_mem hmem) rfl
      have hloop := @ih (call.result cfg accounts storage current) (write_untouched huntouched)
        hsame' hlater hrest
      have hcounts := counts_cons cfg accounts storage call rest current.storage
      rw [Exec.forEach_cons, Exec.bind_ok]
      constructor
      · rintro ⟨done, after, hafter, hrun⟩
        obtain ⟨hplanned, hnonce, rfl⟩ := (hone after).mp hafter
        obtain ⟨hplans, hnonces, rfl⟩ := hloop.mp hrun
        refine ⟨?_, hcounts.mp ⟨hnonce, hnonces⟩, rfl⟩
        intro other hmem
        rcases List.mem_cons.mp hmem with rfl | hmem
        · exact hplanned
        · exact hplans other hmem
      · rintro ⟨hplans, hnonces, rfl⟩
        obtain ⟨hnonce, hnonces⟩ := hcounts.mpr hnonces
        refine ⟨(), _, (hone _).mpr ⟨hplans call List.mem_cons_self, hnonce, rfl⟩, ?_⟩
        exact hloop.mpr ⟨fun other hmem => hplans other (List.mem_cons_of_mem _ hmem), hnonces, rfl⟩

/-- Deposits are counted in any order. -/
theorem bump_comm (current : Storage) (domain other : DomainID) :
    Traffic.bump (Traffic.bump current domain) other =
      Traffic.bump (Traffic.bump current other) domain := by
  by_cases hsame : domain = other
  · rw [hsame]
  · simp only [Traffic.bump, Storage.depositCount, StorageMap.getD_insert, if_neg hsame,
      if_neg (Ne.symm hsame), StorageMap.insert_comm _ _ _ hsame]

/-- Deposits are counted apart from proposals. -/
theorem foldl_mark_bump (proposals : List Proposal) (current : Storage) (domain : DomainID) :
    proposals.foldl (markSettled cfg accounts storage) (Traffic.bump current domain) =
      Traffic.bump (proposals.foldl (markSettled cfg accounts storage) current) domain := by
  induction proposals generalizing current with
  | nil => rfl
  | cons proposal rest ih =>
      have hone : markSettled cfg accounts storage (Traffic.bump current domain) proposal =
          Traffic.bump (markSettled cfg accounts storage current proposal) domain := by
        unfold markSettled
        cases outcomeOf cfg accounts storage proposal <;> rfl
      rw [List.foldl_cons, hone, ih, List.foldl_cons]

instance trafficRightCommutative : RightCommutative (Traffic.write cfg accounts storage) where
  right_comm current call other := by
    cases call with
    | deposit sender asset dest =>
        cases hreceipt : receiptOf cfg storage sender asset dest with
        | none => simp [Traffic.write, hreceipt]
        | some receipt =>
            cases other with
            | deposit otherSender otherAsset otherDest =>
                cases hother : receiptOf cfg storage otherSender otherAsset otherDest with
                | none => simp [Traffic.write, hother]
                | some otherReceipt =>
                    simp only [Traffic.write, hreceipt, hother]
                    exact bump_comm _ _ _
            | batch submission =>
                simp only [Traffic.write, hreceipt]
                exact foldl_mark_bump _ _ _
    | batch submission =>
        cases other with
        | deposit otherSender otherAsset otherDest =>
            cases hother : receiptOf cfg storage otherSender otherAsset otherDest with
            | none => simp [Traffic.write, hother]
            | some otherReceipt =>
                simp only [Traffic.write, hother]
                exact (foldl_mark_bump _ _ _).symm
        | batch otherSubmission =>
            simp only [Traffic.write, ← List.foldl_append]
            exact List.perm_append_comm.foldl_eq _

end List

/-! ## The log -/

/-- An event without the nonce that a deposit was given. -/
def Event.unnumbered : Event → Event
  | .deposit destDomainId resourceId _ sender transferType depositData handlerResponse =>
      .deposit destDomainId resourceId 0 sender transferType depositData handlerResponse
  | event => event

/-- What a call reports is the same for all counts, up to nonces. -/
theorem report_unnumbered (storage : Storage) (count : DomainID → DepositNonce) (call : Traffic) :
    (call.report cfg accounts storage count).map Event.unnumbered =
      (call.report cfg accounts storage fun _ => 0).map Event.unnumbered := by
  cases call with
  | deposit sender asset dest =>
      cases hreceipt : receiptOf cfg storage sender asset dest with
      | none => simp [Traffic.report, hreceipt]
      | some receipt => simp [Traffic.report, hreceipt, Receipt.events, Event.unnumbered]
  | batch submission => rfl

theorem foldl_result (cfg : Config PlainLedger) (accounts : LocationToAccount) (storage : Storage)
    (calls : List Traffic) (current : State PlainLedger) :
    (calls.foldl (Traffic.result cfg accounts storage) current).storage =
        calls.foldl (Traffic.write cfg accounts storage) current.storage ∧
      (calls.foldl (Traffic.result cfg accounts storage) current).ledger =
        calls.foldl (Traffic.move cfg accounts storage) current.ledger ∧
      (calls.foldl (Traffic.result cfg accounts storage) current).events.map Event.unnumbered =
        current.events.map Event.unnumbered ++ calls.flatMap fun call =>
          (call.report cfg accounts storage fun _ => 0).map Event.unnumbered := by
  induction calls generalizing current with
  | nil => simp
  | cons call rest ih =>
      obtain ⟨hstorage, hledger, hevents⟩ := ih (call.result cfg accounts storage current)
      refine ⟨hstorage, hledger, ?_⟩
      rw [List.foldl_cons, hevents, List.flatMap_cons]
      simp only [Traffic.result, List.map_append, report_unnumbered, List.append_assoc]

/-- Calls of users and relayers that go through in one order, have different proposals and are
covered by the balances before them go through in every order: the balances and the storage after
them are the same, and the log is up to its order and the nonces of deposits. -/
theorem traffic_order_irrelevant
    (hcfg : cfg.assetTransactor = (PlainLedger.transactor accounts).lift)
    (hrouter : cfg.feeHandler = FeeHandlerRouter.getFee) {first second : List Traffic}
    {state final : State PlainLedger}
    (hfirst : Exec.forEach first (Traffic.perform cfg) state = (.ok (), final))
    (hdistinct : ((first.flatMap Traffic.proposals).map Proposal.key).Nodup)
    (hcovered : CoveredTraffic cfg state.storage first state.ledger)
    (hperm : second.Perm first) :
    ∃ other, Exec.forEach second (Traffic.perform cfg) state = (.ok (), other) ∧
      other.ledger = final.ledger ∧ other.storage = final.storage ∧
      (other.events.map Event.unnumbered).Perm (final.events.map Event.unnumbered) := by
  have huntouched : state.storage.Untouched state.storage := rfl
  obtain ⟨hplans, hnonces, rfl⟩ := (perform_all_plain hcfg hrouter huntouched (fun _ _ => rfl)
    hdistinct hcovered).mp hfirst
  have hcovered' : CoveredTraffic cfg state.storage second state.ledger := by
    intro asset account
    rw [(hperm.map _).sum_eq]
    exact hcovered asset account
  have hdistinct' : ((second.flatMap Traffic.proposals).map Proposal.key).Nodup :=
    ((hperm.flatMap_right _).map _).nodup_iff.mpr hdistinct
  have hnonces' : ∀ domain, (state.storage.depositCount domain).toNat +
      depositsTo cfg state.storage domain second < 2 ^ 64 := by
    intro domain
    unfold depositsTo
    rw [hperm.countP_eq]
    exact hnonces domain
  obtain ⟨hstorage, hledger, hevents⟩ := foldl_result cfg accounts state.storage first state
  obtain ⟨hstorage', hledger', hevents'⟩ := foldl_result cfg accounts state.storage second state
  have hplans' : ∀ call ∈ second, call.Planned cfg accounts state.storage :=
    fun call hmem => hplans call (hperm.mem_iff.mp hmem)
  refine ⟨_, (perform_all_plain hcfg hrouter huntouched (fun _ _ => rfl) hdistinct'
    hcovered').mpr ⟨hplans', hnonces', rfl⟩, ?_, ?_, ?_⟩
  · rw [hledger, hledger']
    ext asset account
    have hbalance := foldl_move_balance accounts asset account hcovered
    have hbalance' := foldl_move_balance accounts asset account hcovered'
    rw [(hperm.map _).sum_eq,
      (hperm.map (Traffic.gives cfg accounts state.storage asset account)).sum_eq] at hbalance'
    omega
  · rw [hstorage, hstorage']
    exact hperm.foldl_eq _
  · rw [hevents, hevents']
    exact (hperm.flatMap_right _).append_left _

/-- A deposit takes at most its amount. -/
theorem takes_deposit_le (cfg : Config PlainLedger) (storage : Storage) (sender account : AccountId)
    (asset : MultiAsset) (dest : MultiLocation) (id : AssetId) :
    (Traffic.deposit sender asset dest).takes cfg storage id account ≤ asset.value := by
  cases hreceipt : receiptOf cfg storage sender asset dest with
  | none => simp [Traffic.takes, hreceipt]
  | some receipt =>
      obtain ⟨-, hasset, -⟩ := receipt_of_some hreceipt
      have hvalue : asset.value = receipt.amount.toNat := by rw [hasset]; rfl
      simp only [Traffic.takes, hreceipt, Option.map_some, Option.getD_some, Receipt.takes, hvalue]
      split
      · exact Nat.le_refl _
      · exact Nat.zero_le _

namespace Standalone

/-- A chain on which every account holds 2000, with a signer, an open domain and a fee. -/
def busyState : State PlainLedger :=
  dispatchAll plainConfig
    [(.root, .setFee 1 native 3), (.root, .setFeeHandler 1 native .basicFeeHandler)] coveredState

/-- Two deposits to one domain with a payout between them. -/
def busyCalls : List Traffic :=
  [.deposit (Vector.replicate 32 7) ⟨native, .fungible 503⟩ nativeDest,
    .batch ⟨.none, [arrivingProposal], List.replicate 65 0⟩,
    .deposit (Vector.replicate 32 8) ⟨native, .fungible 403⟩ nativeDest]

theorem busy_covered : CoveredTraffic plainConfig busyState.storage busyCalls busyState.ledger := by
  intro asset account
  have hfirst := takes_deposit_le plainConfig busyState.storage (Vector.replicate 32 7) account
    ⟨native, .fungible 503⟩ nativeDest asset
  have hlast := takes_deposit_le plainConfig busyState.storage (Vector.replicate 32 8) account
    ⟨native, .fungible 403⟩ nativeDest asset
  have harriving : outflow plainConfig busyState.storage asset account arrivingProposal ≤ 1000 :=
    Nat.le_trans (outflow_le ..) (by decide +kernel)
  have hamount : (⟨native, .fungible 503⟩ : MultiAsset).value = 503 := rfl
  have hamount' : (⟨native, .fungible 403⟩ : MultiAsset).value = 403 := rfl
  show Traffic.takes _ _ _ _ _ + (outflow _ _ _ _ arrivingProposal + 0 +
    (Traffic.takes _ _ _ _ _ + 0)) ≤ 2000
  omega

/-- In the reverse order everything goes through as well, and the treasury gets the same fees. -/
theorem traffic_order_irrelevant_busy :
    ∃ final other, Exec.forEach busyCalls (Traffic.perform plainConfig) busyState =
        (.ok (), final) ∧
      Exec.forEach busyCalls.reverse (Traffic.perform plainConfig) busyState = (.ok (), other) ∧
      other.storage = final.storage ∧ final.storage.depositCount 1 = 2 ∧
      other.ledger.balance native treasuryAccount = final.ledger.balance native treasuryAccount ∧
      final.ledger.balance native treasuryAccount = 3006 := by
  have hbusy : Exec.forEach busyCalls (Traffic.perform plainConfig) busyState =
      (.ok (), (Exec.forEach busyCalls (Traffic.perform plainConfig) busyState).2) :=
    Prod.ext (by decide +kernel) rfl
  obtain ⟨other, hother, hledger, hstorage, -⟩ := traffic_order_irrelevant rfl rfl hbusy
    (by decide +kernel) busy_covered (List.reverse_perm busyCalls)
  exact ⟨_, other, hbusy, hother, hstorage, by decide +kernel, by rw [hledger], by decide +kernel⟩

end Standalone

end Sygma
