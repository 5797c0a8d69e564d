import Mathlib.Algebra.BigOperators.Group.List.Basic
import Sygma.Bridge.Settlement
import Sygma.Runtime.Machine
import Sygma.Runtime.Standalone

/-!
# Reserve solvency

Deposits fill the reserve of an asset and executed proposals empty it, and each converts between
local and 18 decimals in its own direction. `Step.flow` says what one transition does to the
reserve and to the two sums of 18-decimal amounts; `reserve_solvent` adds this up over a run: as
long as no more was executed than was published, the reserve is not below what it was.
-/

namespace Sygma

open Bridge

variable {L : Type}

/-! ## What a run moves -/

/-- The 18-decimal amount an event publishes for an asset. -/
def publishedAmount (cfg : Config L) (asset : AssetId) : Event → Nat
  | .deposit _ resourceId _ _ _ depositData _ =>
      if ridToAssetid cfg resourceId = some asset then Bytes.ofBigEndian (depositData.take 32)
      else 0
  | _ => 0

/-- The sum of the 18-decimal amounts that events publish for an asset. -/
def published (cfg : Config L) (asset : AssetId) (events : List Event) : Nat :=
  (events.map (publishedAmount cfg asset)).sum

theorem published_append (cfg : Config L) (asset : AssetId) (events more : List Event) :
    published cfg asset (events ++ more) =
      published cfg asset events + published cfg asset more := by
  simp [published]

/-- The 18-decimal amount of a proposal that was executed for an asset. -/
def executedAmount (cfg : Config L) (asset : AssetId) (entry : Entry L) : Nat :=
  match entry.action, entry.outcome with
  | .proposal proposal, .ok () =>
      if ridToAssetid cfg proposal.resourceId = some asset then
        match extractDepositData cfg proposal.data with
        | .ok (amount, _) => amount.toNat
        | .error _ => 0
      else 0
  | _, _ => 0

/-- What a proposal that was executed for an asset paid out, in local decimals. -/
def paidAmount (cfg : Config L) (asset : AssetId) (entry : Entry L) : Nat :=
  match entry.action, entry.outcome with
  | .proposal proposal, .ok () =>
      if ridToAssetid cfg proposal.resourceId = some asset then
        match extractDepositData cfg proposal.data with
        | .ok (amount, _) =>
            match cfg.decimalConverter.convertFrom ⟨asset, .fungible amount⟩ with
            | .ok (some ⟨_, .fungible paid⟩) => paid.toNat
            | _ => 0
        | .error _ => 0
      else 0
  | _, _ => 0

/-- The amount less the fee of a deposit of an asset, in a given storage. -/
def lessFee (cfg : Config L) (storage : Storage) (asset : AssetId) (deposited : MultiAsset)
    (dest : MultiLocation) : Nat :=
  if deposited.id = asset then
    match deposited.fun_, cfg.extractDestData dest with
    | .fungible amount, .ok (some (_, domain)) =>
        match cfg.feeHandler storage domain deposited with
        | some fee => (amount - fee).toNat
        | none => 0
    | _, _ => 0
  else 0

/-- What a deposit of an asset that succeeded bridged, in local decimals. -/
def bridgedAmount (cfg : Config L) (asset : AssetId) (entry : Entry L) : Nat :=
  match entry.action.asDeposit, entry.outcome with
  | some (_, deposited, dest), .ok () => lessFee cfg entry.before.storage asset deposited dest
  | _, _ => 0

/-! ## The setting -/

/-- A reserved asset of a chain with the decimal converter of the runtimes: the transactor acts on
the ledger, the reserve check looks only at the asset id, and resource ids are unique. -/
structure ReservedAsset (cfg : Config L) (transactor : LedgerTransactor L)
    (debugAssertions : Bool) (decimalPairs : List (AssetId × U8)) (asset : AssetId)
    (reserve : AccountId) : Prop where
  ledgerOnly : cfg.assetTransactor = transactor.lift
  converter : cfg.decimalConverter = sygmaDecimalConverter debugAssertions decimalPairs
  checkById : ∀ id amount other,
    cfg.isReserve ⟨id, .fungible amount⟩ .here = cfg.isReserve ⟨id, .fungible other⟩ .here
  uniqueResources : (cfg.resourcePairs.map Prod.snd).Nodup
  reserved : ∃ amount, cfg.isReserve ⟨asset, .fungible amount⟩ .here = true
  account : cfg.transferReserveAccounts asset = some reserve

/-- An entry of a run in which only the pallet debits the reserve: nobody else lowers it, its
account signs no deposit, and no proposal fails with `TransactFailed`. -/
structure Entry.Honest {transactor : LedgerTransactor L} (ledger : KeyedLedger transactor)
    (asset : AssetId) (reserve : AccountId) (entry : Entry L) : Prop where
  external : ∀ changed, entry.action = .external changed →
    ledger.balance entry.before.ledger asset reserve ≤ ledger.balance changed asset reserve
  sender : ∀ origin deposited dest, entry.action.asDeposit = some (origin, deposited, dest) →
    origin ≠ .signed reserve
  transacted : ∀ proposal, entry.action = .proposal proposal →
    entry.outcome ≠ .error (.error (.bridge .transactFailed))

variable {cfg : Config L} {transactor : LedgerTransactor L} {ledger : KeyedLedger transactor}
  {debugAssertions : Bool} {decimalPairs : List (AssetId × U8)} {asset : AssetId}
  {reserve : AccountId}

/-- The decimals of an asset; an asset without an entry is never converted. -/
def decimals (decimalPairs : List (AssetId × U8)) (asset : AssetId) : U8 :=
  (decimalsOf decimalPairs asset).getD 18

/-- What a part of a run did to the reserve of an asset, given the amounts it executed, paid out
and bridged: the published amounts are covered by what was bridged, what was paid out is covered by
the executed amounts, and the reserve gained what was bridged and lost at most what was paid. -/
structure Flow (cfg : Config L) (ledger : KeyedLedger transactor)
    (decimalPairs : List (AssetId × U8)) (asset : AssetId) (reserve : AccountId)
    (before after : State L) (executed paid bridged : Nat) : Prop where
  events : ∃ added, after.events = before.events ++ added ∧
    published cfg asset added * coarser (decimals decimalPairs asset) ≤
      bridged * finer (decimals decimalPairs asset)
  covered : paid * finer (decimals decimalPairs asset) ≤
    executed * coarser (decimals decimalPairs asset)
  balance : ledger.balance before.ledger asset reserve + bridged ≤
    ledger.balance after.ledger asset reserve + paid

theorem Flow.trans {before middle after : State L} {executed paid bridged : Nat}
    {executed' paid' bridged' : Nat}
    (first : Flow cfg ledger decimalPairs asset reserve before middle executed paid bridged)
    (second : Flow cfg ledger decimalPairs asset reserve middle after executed' paid' bridged') :
    Flow cfg ledger decimalPairs asset reserve before after (executed + executed')
      (paid + paid') (bridged + bridged') := by
  obtain ⟨⟨added, hevents, hpublished⟩, hpaid, hbalance⟩ := first
  obtain ⟨⟨added', hevents', hpublished'⟩, hpaid', hbalance'⟩ := second
  refine ⟨⟨added ++ added', by rw [hevents', hevents, List.append_assoc], ?_⟩, ?_, by omega⟩
  · rw [published_append, Nat.add_mul, Nat.add_mul]
    exact Nat.add_le_add hpublished hpublished'
  · rw [Nat.add_mul, Nat.add_mul]
    exact Nat.add_le_add hpaid hpaid'

/-- A transition that adds no deposit event bridges nothing. -/
theorem Flow.of_no_deposit {before after : State L} {added : List Event} {executed paid : Nat}
    (hevents : after.events = before.events ++ added)
    (hnone : ∀ event ∈ added, event.depositTo = none)
    (hcovered : paid * finer (decimals decimalPairs asset) ≤
      executed * coarser (decimals decimalPairs asset))
    (hbalance : ledger.balance before.ledger asset reserve ≤
      ledger.balance after.ledger asset reserve + paid) :
    Flow cfg ledger decimalPairs asset reserve before after executed paid 0 := by
  have hzero : published cfg asset added = 0 := by
    refine List.sum_eq_zero fun amount hmem => ?_
    obtain ⟨event, hevent, rfl⟩ := List.mem_map.mp hmem
    have hno := hnone event hevent
    cases event with
    | deposit => cases hno
    | _ => rfl
  exact ⟨⟨added, hevents, by simp [hzero]⟩, hcovered, by simpa using hbalance⟩

/-- A transition that adds no deposit event and does not lower the reserve moves nothing. -/
theorem Flow.still {before after : State L} {added : List Event}
    (hevents : after.events = before.events ++ added)
    (hnone : ∀ event ∈ added, event.depositTo = none)
    (hbalance : ledger.balance before.ledger asset reserve ≤
      ledger.balance after.ledger asset reserve) :
    Flow cfg ledger decimalPairs asset reserve before after 0 0 0 :=
  .of_no_deposit hevents hnone (by simp) (by simpa using hbalance)

theorem Flow.same (state : State L) :
    Flow cfg ledger decimalPairs asset reserve state state 0 0 0 :=
  .still (List.append_nil _).symm (by simp) (Nat.le_refl _)

theorem ReservedAsset.is_reserve
    (h : ReservedAsset cfg transactor debugAssertions decimalPairs asset reserve) (amount : U128) :
    cfg.isReserve ⟨asset, .fungible amount⟩ .here = true := by
  obtain ⟨accepted, haccepted⟩ := h.reserved
  rw [h.checkById asset amount accepted, haccepted]

/-! ## Deposits -/

/-- What a receipt publishes for an asset is covered by what it bridges of it. -/
theorem receipt_published
    (h : ReservedAsset cfg transactor debugAssertions decimalPairs asset reserve)
    {origin : Origin} {deposited : MultiAsset} {dest : MultiLocation} {receipt : Receipt}
    {state moved : State L} (hdeposits : Deposits cfg origin deposited dest receipt state moved)
    (nonce : DepositNonce) :
    published cfg asset (receipt.events deposited.id nonce) *
        coarser (decimals decimalPairs asset) ≤
      (if deposited.id = asset then receipt.bridged.toNat else 0) *
        finer (decimals decimalPairs asset) := by
  have hsum : published cfg asset (receipt.events deposited.id nonce) =
      if ridToAssetid cfg receipt.resourceId = some asset then receipt.published.toNat else 0 := by
    simp [published, publishedAmount, Receipt.events, of_big_endian_take_create]
  rw [hsum]
  by_cases hrid : ridToAssetid cfg receipt.resourceId = some asset
  · have hid : deposited.id = asset :=
      (rid_to_assetid_extract_asset h.uniqueResources hdeposits.bound hrid).symm
    have hconverted := hdeposits.converted
    rw [h.converter, hid] at hconverted
    obtain ⟨decimal, hdecimal, hle⟩ := convert_to_le hconverted
    rw [if_pos hrid, if_pos hid, decimals, hdecimal, Option.getD_some]
    exact hle
  · rw [if_neg hrid, Nat.zero_mul]
    exact Nat.zero_le _

/-- The transactor calls of a deposit add what is bridged of an asset to its reserve. -/
theorem collect_balance
    (h : ReservedAsset cfg transactor debugAssertions decimalPairs asset reserve)
    {deposited : MultiAsset} {receipt : Receipt} {start paid charged final : L}
    (hfungible : deposited = ⟨deposited.id, .fungible receipt.amount⟩)
    (hreserve : cfg.transferReserveAccounts deposited.id = some receipt.reserveAccount)
    (hsender : receipt.sender ≠ reserve)
    (hcollects : Collects cfg transactor deposited receipt start paid charged final) :
    ledger.balance start asset reserve +
        (if deposited.id = asset then receipt.bridged.toNat else 0) ≤
      ledger.balance final asset reserve := by
  have hbalance : ledger.balance final asset reserve +
      amountIn deposited.id receipt.sender receipt.amount.toNat asset reserve =
      ledger.balance start asset reserve +
        amountIn deposited.id cfg.feeReserveAccount receipt.fee.toNat asset reserve +
        if cfg.isReserve deposited .here then
          amountIn deposited.id receipt.reserveAccount receipt.bridged.toNat asset reserve
        else 0 := hcollects.balance ledger.issuing.pooled hfungible asset reserve
  -- the withdrawal takes from the sender, who is not the reserve
  have hpaid : (asset, reserve) ≠ (deposited.id, receipt.sender) :=
    fun hsame => hsender (congrArg Prod.snd hsame).symm
  rw [amountIn_of_ne hpaid, Nat.add_zero] at hbalance
  by_cases hid : deposited.id = asset
  · have haccount : receipt.reserveAccount = reserve := by
      rw [hid, h.account] at hreserve
      exact (Option.some.inj hreserve).symm
    have hisReserve : cfg.isReserve deposited .here = true := by
      rw [hfungible, hid]
      exact h.is_reserve _
    rw [if_pos hisReserve, haccount, hid, amountIn_self] at hbalance
    rw [if_pos hid]
    omega
  · rw [if_neg hid]
    omega

/-- A deposit that succeeds. -/
theorem deposit_flow (h : ReservedAsset cfg transactor debugAssertions decimalPairs asset reserve)
    {origin : Origin} {deposited : MultiAsset} {dest : MultiLocation} {state final : State L}
    (hsender : origin ≠ .signed reserve)
    (hdeposit : deposit cfg origin deposited dest state = (.ok (), final)) :
    Flow cfg ledger decimalPairs asset reserve state final 0 0
      (lessFee cfg state.storage asset deposited dest) := by
  obtain ⟨receipt, moved, hdeposits, rfl⟩ := deposit_ok.mp hdeposit
  obtain ⟨hfungible, -⟩ := extract_asset_some hdeposits.bound
  obtain ⟨⟨paid, charged, hcollects⟩, hmoved⟩ := collect_lift h.ledgerOnly hdeposits.collected
  have hlessFee : lessFee cfg state.storage asset deposited dest =
      if deposited.id = asset then receipt.bridged.toNat else 0 := by
    have hfun : deposited.fun_ = .fungible receipt.amount := congrArg MultiAsset.fun_ hfungible
    simp only [lessFee, hfun, hdeposits.destination, hdeposits.charged, Receipt.bridged]
  have hother : receipt.sender ≠ reserve := by
    intro hsame
    exact hsender (hsame ▸ hdeposits.signed)
  have hevents : moved.events = state.events := by rw [hmoved]
  rw [hlessFee]
  refine ⟨⟨_, ?_, receipt_published h hdeposits
    (moved.storage.depositCount receipt.destDomainId)⟩, by simp, ?_⟩
  · rw [Receipt.issue, State.put_events, hevents]
  · exact collect_balance h hfungible hdeposits.reserve hother hcollects

/-! ## Proposals -/

/-- Paying out takes at most the paid amount of an asset out of its reserve. -/
theorem pay_balance (h : ReservedAsset cfg transactor debugAssertions decimalPairs asset reserve)
    {id : AssetId} {paid : U128} {location : MultiLocation} {account : AccountId} {start final : L}
    (haccount : cfg.transferReserveAccounts id = some account)
    (hpay : payLedger cfg transactor ⟨⟨id, .fungible paid⟩, location, account⟩ start =
      (.ok (), final)) :
    ledger.balance start asset reserve ≤
      ledger.balance final asset reserve + if id = asset then paid.toNat else 0 := by
  unfold payLedger at hpay
  split at hpay
  · split at hpay
    · rename_i withdrawn hwithdraw
      have hdeposit := ledger.deposit hpay asset reserve
      have htaken : ledger.balance start id account =
          ledger.balance withdrawn id account + paid.toNat := (ledger.withdraw hwithdraw).1
      by_cases hid : id = asset
      · subst hid
        rw [h.account] at haccount
        cases haccount
        rw [if_pos rfl]
        omega
      · have hkept : ledger.balance withdrawn asset reserve = ledger.balance start asset reserve :=
          (ledger.withdraw hwithdraw).2 asset reserve fun hsame =>
            hid (congrArg Prod.fst hsame).symm
        omega
    · cases hpay
  · have hdeposit := ledger.deposit hpay asset reserve
    omega

/-- A proposal that does not fail with `TransactFailed`. -/
theorem proposal_flow (h : ReservedAsset cfg transactor debugAssertions decimalPairs asset reserve)
    {proposal : Proposal} {state final : State L}
    (htransacted : (executeProposalInternal cfg proposal state).1 ≠
      .error (.error (.bridge .transactFailed)))
    (hexecute : executeOne cfg proposal state = (.ok (), final)) :
    let entry : Entry L :=
      ⟨state, .proposal proposal, (executeProposalInternal cfg proposal state).1, final⟩
    Flow cfg ledger decimalPairs asset reserve state final (executedAmount cfg asset entry)
      (paidAmount cfg asset entry) 0 := by
  obtain ⟨hpanic, rfl⟩ := (execute_one_lift h.ledgerOnly).mp hexecute
  have houtcome : (executeProposalInternal cfg proposal state).1 =
      (settle cfg transactor proposal state.storage state.ledger).1 := by
    rw [execute_proposal_internal_lift h.ledgerOnly]
  rw [houtcome] at htransacted ⊢
  rcases hsettle : settle cfg transactor proposal state.storage state.ledger with ⟨outcome, left⟩
  rw [hsettle] at htransacted hpanic
  rcases outcome with fault | done
  · -- a fault other than `TransactFailed` was raised before any transactor call
    have hleft : left = state.ledger := by
      unfold settle at hsettle
      split at hsettle
      · exact (congrArg Prod.snd hsettle).symm
      · split at hsettle
        · cases hsettle
        · cases hsettle
          exact absurd rfl htransacted
    cases fault with
    | panic reason => exact absurd rfl (hpanic reason)
    | error error =>
        refine .still rfl ?_ (by rw [hleft])
        intro event hmem
        obtain rfl := List.mem_singleton.mp hmem
        rfl
  · obtain ⟨payout, hresolve, hpay⟩ := settle_ok.mp hsettle
    obtain ⟨-, -, -, id, amount, hrid, hextract, hconvert, haccount, -⟩ := resolve_ok.mp hresolve
    obtain ⟨decimal, paid, hdecimal, hasset, hle⟩ := convert_from_le (h.converter ▸ hconvert)
    obtain ⟨payoutAsset, location, account⟩ := payout
    subst hasset
    have hbalance : ledger.balance state.ledger asset reserve ≤
        ledger.balance left asset reserve + if id = asset then paid.toNat else 0 :=
      pay_balance h haccount hpay
    have hevents : ∀ event ∈ outcomeEvents cfg proposal (.ok done), event.depositTo = none := by
      intro event hmem
      obtain rfl := List.mem_singleton.mp hmem
      rfl
    by_cases hid : id = asset
    · subst hid
      simp only [executedAmount, paidAmount, hrid, hextract, hconvert, if_true]
      refine .of_no_deposit rfl hevents ?_ (by simpa using hbalance)
      rw [decimals, hdecimal, Option.getD_some]
      exact hle
    · have hne : ¬ ridToAssetid cfg proposal.resourceId = some asset := by
        rw [hrid]
        exact fun hsame => hid (Option.some.inj hsame)
      simp only [executedAmount, paidAmount, hne, if_false]
      exact .still rfl hevents (by simpa [hid] using hbalance)

/-! ## Runs -/

/-- What one transition of an honest run moves. -/
theorem Step.flow (h : ReservedAsset cfg transactor debugAssertions decimalPairs asset reserve)
    {point next : Point L} {entry : Entry L} (hstep : Step cfg point entry next)
    (hhonest : entry.Honest ledger asset reserve) :
    Flow cfg ledger decimalPairs asset reserve point.state next.state
      (executedAmount cfg asset entry) (paidAmount cfg asset entry)
      (bridgedAmount cfg asset entry) := by
  cases hstep with
  | call hdispatch hbatch =>
      rename_i origin extrinsic before after outcome
      cases dispatch_cases hdispatch hbatch with
      | failed => cases extrinsic <;> exact .same _
      | guarded hguard =>
          cases extrinsic with
          | deposit | executeProposal => cases hguard
          | _ => exact .still rfl (deposit_to_report _ _) (Nat.le_refl _)
      | deposited hdeposit => exact deposit_flow h (hhonest.sender _ _ _ rfl) hdeposit
  | batch hdispatch => exact .same _
  | proposal hexecute => exact proposal_flow h (hhonest.transacted _ rfl) hexecute
  | transfer htransfer =>
      rename_i sender deposited dest before after outcome
      cases outcome with
      | error fault =>
          obtain rfl := Exec.transactional_error htransfer
          exact .same _
      | ok done => exact deposit_flow h (hhonest.sender _ _ _ rfl) htransfer
  | upgrade before => exact .still rfl (by simp) (Nat.le_refl _)
  | external before changed =>
      exact .still (List.append_nil _).symm (by simp) (hhonest.external changed rfl)

/-- What a whole honest run moves. -/
theorem run_flow (h : ReservedAsset cfg transactor debugAssertions decimalPairs asset reserve)
    {start final : Point L} {trace : List (Entry L)} (hrun : Run (Step cfg) start trace final)
    (hhonest : ∀ entry ∈ trace, entry.Honest ledger asset reserve) :
    Flow cfg ledger decimalPairs asset reserve start.state final.state
      (trace.map (executedAmount cfg asset)).sum (trace.map (paidAmount cfg asset)).sum
      (trace.map (bridgedAmount cfg asset)).sum := by
  induction hrun with
  | refl => exact .same _
  | snoc hprefix hstep ih =>
      have hfirst := ih fun entry hmem => hhonest entry (by simp [hmem])
      have hlast := hstep.flow h (hhonest _ (by simp))
      simpa using hfirst.trans hlast

/-- As long as the 18-decimal amounts of the executed proposals for a reserved asset do not exceed
those published in its deposit events, no more was paid out than was bridged, and the reserve holds
at least what it held at the start. -/
theorem reserve_solvent
    (h : ReservedAsset cfg transactor debugAssertions decimalPairs asset reserve)
    {start final : Point L} {trace : List (Entry L)} (hrun : Run (Step cfg) start trace final)
    (hhonest : ∀ entry ∈ trace, entry.Honest ledger asset reserve) :
    ∃ added, final.state.events = start.state.events ++ added ∧
      ((trace.map (executedAmount cfg asset)).sum ≤ published cfg asset added →
        (trace.map (paidAmount cfg asset)).sum ≤ (trace.map (bridgedAmount cfg asset)).sum ∧
        ledger.balance start.state.ledger asset reserve ≤
          ledger.balance final.state.ledger asset reserve) := by
  obtain ⟨⟨added, hevents, hpublished⟩, hcovered, hbalance⟩ := run_flow h hrun hhonest
  refine ⟨added, hevents, ?_⟩
  intro hexecuted
  have hsums : (trace.map (paidAmount cfg asset)).sum ≤
      (trace.map (bridgedAmount cfg asset)).sum := by
    refine Nat.le_of_mul_le_mul_right ?_ (finer_pos (decimals decimalPairs asset))
    calc (trace.map (paidAmount cfg asset)).sum * finer (decimals decimalPairs asset)
        ≤ (trace.map (executedAmount cfg asset)).sum * coarser (decimals decimalPairs asset) :=
          hcovered
      _ ≤ published cfg asset added * coarser (decimals decimalPairs asset) :=
          Nat.mul_le_mul_right _ hexecuted
      _ ≤ (trace.map (bridgedAmount cfg asset)).sum * finer (decimals decimalPairs asset) :=
          hpublished
  exact ⟨hsums, by omega⟩

/-! ## A deposit that comes back -/

namespace Standalone

/-- The native asset, which has 12 decimals. -/
def native : AssetId := .concrete nativeLocation

/-- A chain with a signer, an open domain, and a fee of 3 on the native asset. -/
def feeState : State PlainLedger :=
  dispatchAll plainConfig
    [(.root, .setMpcAddress constantSigner), (.root, .registerDomain 1 1),
      (.root, .setFee 1 native 3), (.root, .setFeeHandler 1 native .basicFeeHandler)]
    (.genesis 1 ⟨fun _ _ => 2000⟩)

/-- A deposit of 1003 to recipient 7 on domain 1. It bridges 1000, and publishes it in 18
decimals. -/
def nativeDeposit : Extrinsic :=
  .deposit ⟨native, .fungible 1003⟩ nativeDest

/-- A proposal that pays it out again. -/
def nativeProposal : Proposal := ⟨1, 0, resource 0 1, createDepositData 1000000000 [1, 0]⟩

/-- The state after the deposit, and after the proposal. -/
def depositedState : State PlainLedger :=
  (dispatch plainConfig (.signed (Vector.replicate 32 7)) nativeDeposit feeState).2

def returnedState : State PlainLedger :=
  (executeOne plainConfig nativeProposal depositedState).2

/-- The deposit, the batch that submits the proposal, and the proposal. -/
def returnTrace : List (Entry PlainLedger) :=
  [⟨feeState, .call (.signed (Vector.replicate 32 7)) nativeDeposit, .ok (), depositedState⟩,
    ⟨depositedState, .call .none (.executeProposal [nativeProposal] (List.replicate 65 0)), .ok (),
      depositedState⟩,
    ⟨depositedState, .proposal nativeProposal,
      (executeProposalInternal plainConfig nativeProposal depositedState).1, returnedState⟩]

theorem reserved_native :
    ReservedAsset plainConfig (PlainLedger.transactor locationToAccountId) false assetDecimalPairs
      native bridgeAccountNative where
  ledgerOnly := rfl
  converter := rfl
  checkById id _ _ := by cases id <;> rfl
  uniqueResources := by decide +kernel
  reserved := ⟨0, by decide +kernel⟩
  account := by decide +kernel

theorem return_trace_run :
    Run (Step plainConfig) ⟨feeState, []⟩ returnTrace ⟨returnedState, []⟩ := by
  have hdeposit : dispatch plainConfig (.signed (Vector.replicate 32 7)) nativeDeposit feeState =
      (.ok (), depositedState) := Prod.ext (by decide +kernel) rfl
  have hexecute : executeOne plainConfig nativeProposal depositedState =
      (.ok (), returnedState) := Prod.ext (by decide +kernel) rfl
  have hbatch : dispatch plainConfig .none
      (.executeProposal [nativeProposal] (List.replicate 65 0)) depositedState =
        (.ok (), returnedState) :=
    dispatch_batch_ok.mpr ⟨by decide +kernel, by decide, by decide +kernel,
      Exec.bind_ok.mpr ⟨(), _, hexecute, rfl⟩⟩
  exact ((Run.refl.snoc (.call hdeposit (by decide))).snoc (.batch hbatch)).snoc
    (.proposal hexecute)

theorem return_trace_honest : ∀ entry ∈ returnTrace,
    entry.Honest (PlainLedger.keyed locationToAccountId) native bridgeAccountNative := by
  intro entry hmem
  simp only [returnTrace, List.mem_cons, List.not_mem_nil, or_false] at hmem
  rcases hmem with rfl | rfl | rfl
  · refine ⟨nofun, ?_, nofun⟩
    intro origin deposited dest hdeposit
    cases hdeposit
    decide +kernel
  · exact ⟨nofun, nofun, nofun⟩
  · exact ⟨nofun, nofun, fun _ _ => by decide +kernel⟩

theorem reserve_solvent_return :
    (returnTrace.map (executedAmount plainConfig native)).sum = 1000000000 ∧
      (returnTrace.map (paidAmount plainConfig native)).sum = 1000 ∧
      (returnTrace.map (paidAmount plainConfig native)).sum ≤
        (returnTrace.map (bridgedAmount plainConfig native)).sum ∧
      feeState.ledger.balance native bridgeAccountNative ≤
        returnedState.ledger.balance native bridgeAccountNative := by
  have hexecuted : (returnTrace.map (executedAmount plainConfig native)).sum = 1000000000 := by
    decide +kernel
  obtain ⟨added, hevents, hsolvent⟩ :=
    reserve_solvent reserved_native return_trace_run return_trace_honest
  have hpublished : published plainConfig native returnedState.events = 1000000000 := by
    decide +kernel
  have hbefore : published plainConfig native feeState.events = 0 := by decide +kernel
  have hadded : published plainConfig native added = 1000000000 := by
    rw [show returnedState.events = feeState.events ++ added from hevents,
      published_append, hbefore, Nat.zero_add] at hpublished
    exact hpublished
  exact ⟨hexecuted, by decide +kernel, hsolvent (by rw [hexecuted, hadded])⟩

end Standalone

end Sygma
