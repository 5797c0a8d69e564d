import Sygma.Runtime.EventLog
import Sygma.Runtime.Fees
import Sygma.Runtime.Solvency

/-!
# What the fee account collects

Every deposit reports the fee it paid. `splitting_bounded` is about what the reports add up to:
whoever splits a transfer into several deposits pays together at least the fee for one deposit of
the sum, less one unit for every further deposit, whatever else happens in between, as long as the
fee of the route is not set anew. `treasury_audited` says that the reports are covered, on a ledger
that credits what is deposited in full: over every run in which nobody but the pallet lowers it, the
fee account, if it is no reserve, has gained at least what the log reports.
-/

namespace Sygma

open Bridge

variable {L : Type} {cfg : Config L}

/-! ## Reported fees -/

/-- The fee that an event reports, if its payer, domain and asset are counted. -/
def Event.feeOf (counted : AccountId → DomainID → AssetId → Bool) : Event → Nat
  | .feeCollected feePayer destDomainId _ feeAmount feeAssetId =>
      if counted feePayer destDomainId feeAssetId then feeAmount.toNat else 0
  | _ => 0

/-- The sum of the fees that events report. -/
def reportedFees (counted : AccountId → DomainID → AssetId → Bool) (events : List Event) : Nat :=
  (events.map (Event.feeOf counted)).sum

theorem reported_fees_append (counted : AccountId → DomainID → AssetId → Bool)
    (events more : List Event) :
    reportedFees counted (events ++ more) =
      reportedFees counted events + reportedFees counted more := by
  simp [reportedFees]

/-- Events other than `FeeCollected` report no fee. -/
theorem reported_fees_zero (counted : AccountId → DomainID → AssetId → Bool) {events : List Event}
    (h : ∀ event ∈ events, event.isFee = false) : reportedFees counted events = 0 := by
  refine List.sum_eq_zero fun amount hmem => ?_
  obtain ⟨event, hevent, rfl⟩ := List.mem_map.mp hmem
  have hno := h event hevent
  cases event with
  | feeCollected => cases hno
  | _ => rfl

/-- A deposit reports its fee. -/
theorem reported_fees_receipt (counted : AccountId → DomainID → AssetId → Bool) (receipt : Receipt)
    (asset : AssetId) (nonce : DepositNonce) :
    reportedFees counted (receipt.events asset nonce) =
      if counted receipt.sender receipt.destDomainId asset then receipt.fee.toNat else 0 := by
  simp [reportedFees, Receipt.events, Event.feeOf]

/-! ## Splitting a transfer -/

/-- Where splitting in two loses at most one, splitting in any number of parts loses at most one for
each further part. -/
theorem schedule_sum_le {schedule : Nat → Nat}
    (hsplit : ∀ first second, schedule (first + second) ≤ schedule first + schedule second + 1)
    {parts : List Nat} (hparts : parts ≠ []) :
    schedule parts.sum ≤ (parts.map schedule).sum + (parts.length - 1) := by
  induction parts with
  | nil => exact absurd rfl hparts
  | cons part rest ih =>
      cases rest with
      | nil => simp
      | cons next others =>
          have hrest : schedule (next :: others).sum ≤
              ((next :: others).map schedule).sum + others.length := ih (List.cons_ne_nil _ _)
          have hfirst := hsplit part (next :: others).sum
          have hsum : ((part :: next :: others).map schedule).sum =
              schedule part + ((next :: others).map schedule).sum := by
            rw [List.map_cons, List.sum_cons]
          rw [List.sum_cons, hsum]
          show _ ≤ _ + (others.length + 1)
          omega

/-- The fee of a route in a storage as a function of the amount. Splitting an amount in two saves at
most one. -/
theorem fee_schedule {storage : Storage} (hrates : FeeRates storage) (domain : DomainID)
    (asset : AssetId) :
    ∃ schedule : Nat → Nat,
      (∀ first second, schedule (first + second) ≤ schedule first + schedule second + 1) ∧
      ∀ amount fee, FeeHandlerRouter.getFee storage domain ⟨asset, .fungible amount⟩ = some fee →
        fee.toNat = schedule amount.toNat := by
  unfold FeeHandlerRouter.getFee
  dsimp only
  cases storage.handlerType.get (domain, asset) with
  | none => exact ⟨fun _ => 0, by simp, by simp⟩
  | some handler =>
  cases handler with
  | basicFeeHandler =>
      refine ⟨fun _ => ((storage.assetFees.get (domain, asset)).map BitVec.toNat).getD 0, ?_, ?_⟩
      · intro first second
        dsimp only
        omega
      · intro amount fee hfee
        have hset : storage.assetFees.get (domain, asset) = some fee := hfee
        simp [hset]
  | percentageFeeHandler =>
      cases hrate : storage.assetFeeRate.get (domain, asset) with
      | none => exact ⟨fun _ => 0, by simp, by simp [PercentageFeeHandler.getFee, hrate]⟩
      | some entry =>
          obtain ⟨rate, lower, upper⟩ := entry
          have hbounds := (hrates _ _ _ _ hrate).2
          refine ⟨fun amount => min upper.toNat
            (max lower.toNat (min (amount * rate.toNat) (2 ^ 128 - 1) / 10000)), ?_, ?_⟩
          · intro first second
            simp only [Nat.add_mul]
            omega
          · intro amount fee hfee
            obtain ⟨found, hfound, hvalue⟩ :=
              PercentageFeeHandler.get_fee_eq hrate hbounds amount
            have hsame : some found = some fee := hfound.symm.trans hfee
            cases hsame
            exact hvalue
  | dynamicFeeHandler => exact ⟨fun _ => 0, by simp, by simp⟩

/-- The route whose fee an extrinsic sets. -/
def Extrinsic.route : Extrinsic → Option (DomainID × AssetId)
  | .setFee domain asset _ => some (domain, asset)
  | .setFeeRate domain asset _ _ _ => some (domain, asset)
  | .setFeeHandler domain asset _ => some (domain, asset)
  | _ => none

/-- Two storages say the same about the fee of a route. -/
structure SameRoute (route : DomainID × AssetId) (storage other : Storage) : Prop where
  fee : other.assetFees.get route = storage.assetFees.get route
  rate : other.assetFeeRate.get route = storage.assetFeeRate.get route
  handler : other.handlerType.get route = storage.handlerType.get route

theorem SameRoute.get_fee {domain : DomainID} {asset : AssetId} {storage other : Storage}
    (h : SameRoute (domain, asset) storage other) (amount : U128) :
    FeeHandlerRouter.getFee other domain ⟨asset, .fungible amount⟩ =
      FeeHandlerRouter.getFee storage domain ⟨asset, .fungible amount⟩ := by
  simp only [FeeHandlerRouter.getFee, BasicFeeHandler.getFee, PercentageFeeHandler.getFee, h.fee,
    h.rate, h.handler]

/-- An extrinsic that sets no fee of a route leaves what is said about it. -/
theorem SameRoute.write {route : DomainID × AssetId} {storage other : Storage}
    (h : SameRoute route storage other) {extrinsic : Extrinsic}
    (hroute : extrinsic.route ≠ some route) : SameRoute route storage (extrinsic.write other) := by
  cases extrinsic with
  | setFee domain asset | setFeeRate domain asset | setFeeHandler domain asset =>
      have hne : route ≠ (domain, asset) := fun heq => hroute (by rw [heq]; rfl)
      constructor
      · simpa [Extrinsic.write, hne] using h.fee
      · simpa [Extrinsic.write, hne] using h.rate
      · simpa [Extrinsic.write, hne] using h.handler
  | _ => exact ⟨h.fee, h.rate, h.handler⟩

/-- A call that succeeded and set the fee of a route. -/
def Entry.Reprices (route : DomainID × AssetId) (entry : Entry L) : Prop :=
  entry.outcome = .ok () ∧
    ∃ origin extrinsic, entry.action = .call origin extrinsic ∧ extrinsic.route = some route

/-- The amount of an asset that an entry deposits for a sender to a domain. -/
def Entry.depositBy (cfg : Config L) (sender : AccountId) (domain : DomainID) (asset : AssetId)
    (entry : Entry L) : Option U128 :=
  match entry.action.asDeposit, entry.outcome with
  | some (.signed who, ⟨id, .fungible amount⟩, dest), .ok () =>
      match cfg.extractDestData dest with
      | .ok (some (_, destDomainId)) =>
          if who = sender ∧ destDomainId = domain ∧ id = asset then some amount else none
      | _ => none
  | _, _ => none

/-- The amounts of an asset that a run deposits for a sender to a domain. -/
def depositsBy (cfg : Config L) (sender : AccountId) (domain : DomainID) (asset : AssetId)
    (trace : List (Entry L)) : List Nat :=
  (trace.filterMap (Entry.depositBy cfg sender domain asset)).map BitVec.toNat

/-- The fees of one sender on one route. -/
def paidBy (sender : AccountId) (domain : DomainID) (asset : AssetId) (feePayer : AccountId)
    (destDomainId : DomainID) (feeAssetId : AssetId) : Bool :=
  feePayer = sender ∧ destDomainId = domain ∧ feeAssetId = asset

section Splitting

variable {point next : Point L} {entry : Entry L} {sender : AccountId} {domain : DomainID}
  {asset : AssetId} {amount : U128}

theorem Entry.deposit_by_some (h : entry.depositBy cfg sender domain asset = some amount) :
    entry.outcome = .ok () ∧ ∃ dest recipient,
      entry.action.asDeposit = some (.signed sender, ⟨asset, .fungible amount⟩, dest) ∧
      cfg.extractDestData dest = .ok (some (recipient, domain)) := by
  unfold Entry.depositBy at h
  split at h
  · rename_i who id found dest haction houtcome
    split at h
    · rename_i recipient destDomainId hdest
      split at h
      · rename_i hsame
        obtain ⟨rfl, rfl, rfl⟩ := hsame
        cases h
        exact ⟨houtcome, dest, recipient, haction, hdest⟩
      · cases h
    · cases h
  · cases h

/-- A deposit reports at least the fee of its amount. -/
theorem Step.charges (hcfg : Confined cfg) (hstep : Step cfg point entry next)
    (hdeposit : entry.depositBy cfg sender domain asset = some amount) :
    ∃ added fee, next.state.events = point.state.events ++ added ∧
      cfg.feeHandler point.state.storage domain ⟨asset, .fungible amount⟩ = some fee ∧
      fee.toNat ≤ reportedFees (paidBy sender domain asset) added := by
  obtain ⟨houtcome, dest, recipient, haction, hdest⟩ := Entry.deposit_by_some hdeposit
  have hcall := hstep.deposit_eq haction
  rw [houtcome, hstep.entry_eq.1, hstep.entry_eq.2] at hcall
  obtain ⟨receipt, moved, hdeposits, hissue⟩ := deposit_ok.mp hcall
  obtain ⟨-, foreign, hevents, -⟩ := collect_moves hcfg hdeposits.collected
  have hdomain : receipt.destDomainId = domain := by
    have hsame := hdeposits.destination.symm.trans hdest
    cases hsame
    rfl
  have hsender : receipt.sender = sender := by
    have hsigned := hdeposits.signed
    cases hsigned
    rfl
  have hcharged := hdeposits.charged
  rw [hdomain] at hcharged
  refine ⟨foreign ++ receipt.events asset (moved.storage.depositCount receipt.destDomainId),
    receipt.fee, ?_, hcharged, ?_⟩
  · rw [← hissue, Receipt.issue, State.put_events, hevents, List.append_assoc]
  · rw [reported_fees_append, reported_fees_receipt, hsender, hdomain]
    simp [paidBy]

/-- A transition that does not set the fee of a route leaves what is said about it. -/
theorem Step.same_route (hcfg : Confined cfg) {route : DomainID × AssetId} {storage : Storage}
    (hstep : Step cfg point entry next) (hprice : ¬ entry.Reprices route)
    (h : SameRoute route storage point.state.storage) :
    SameRoute route storage next.state.storage := by
  refine hstep.keeps hcfg (SameRoute route storage) ?_ ?_ ?_ h
  · intro _ _ _ hkept
    exact ⟨hkept.fee, hkept.rate, hkept.handler⟩
  · intro _ _ _ hkept
    exact ⟨hkept.fee, hkept.rate, hkept.handler⟩
  · intro origin extrinsic haction hok _ _ hkept
    exact hkept.write fun hroute => hprice ⟨hok, origin, extrinsic, haction, hroute⟩

/-- What a run reports for a sender on a route is at least the sum of the fees of the deposits, each
by the schedule that held at the start. -/
theorem run_charges (hcfg : Confined cfg) (hrouter : cfg.feeHandler = FeeHandlerRouter.getFee)
    (sender : AccountId) {start final : Point L} {trace : List (Entry L)}
    (hrun : Run (Step cfg) start trace final)
    (hprice : ∀ entry ∈ trace, ¬ entry.Reprices (domain, asset)) {schedule : Nat → Nat}
    (hschedule : ∀ amount fee, FeeHandlerRouter.getFee start.state.storage domain
      ⟨asset, .fungible amount⟩ = some fee → fee.toNat = schedule amount.toNat) :
    SameRoute (domain, asset) start.state.storage final.state.storage ∧
      ∃ added, final.state.events = start.state.events ++ added ∧
        ((depositsBy cfg sender domain asset trace).map schedule).sum ≤
          reportedFees (paidBy sender domain asset) added := by
  induction hrun with
  | refl => exact ⟨⟨rfl, rfl, rfl⟩, [], (List.append_nil _).symm, Nat.le_refl 0⟩
  | snoc hprefix hstep ih =>
      rename_i earlier middle last entry
      obtain ⟨hroute, added, hevents, hsum⟩ := ih fun entry hmem => hprice entry (by simp [hmem])
      refine ⟨hstep.same_route hcfg (hprice entry (by simp)) hroute, ?_⟩
      cases hdeposit : entry.depositBy cfg sender domain asset with
      | none =>
          -- whatever else happens only adds reports
          obtain ⟨more, hmore, -⟩ := (hstep.effect hcfg).extends_
          refine ⟨added ++ more, by rw [hmore, hevents, List.append_assoc], ?_⟩
          rw [reported_fees_append]
          have hnone : depositsBy cfg sender domain asset (earlier ++ [entry]) =
              depositsBy cfg sender domain asset earlier := by
            simp [depositsBy, hdeposit]
          rw [hnone]
          omega
      | some amount =>
          obtain ⟨more, fee, hmore, hcharged, hreported⟩ := hstep.charges hcfg hdeposit
          rw [hrouter, hroute.get_fee] at hcharged
          refine ⟨added ++ more, by rw [hmore, hevents, List.append_assoc], ?_⟩
          have hfee := hschedule amount fee hcharged
          rw [reported_fees_append]
          have hone : depositsBy cfg sender domain asset (earlier ++ [entry]) =
              depositsBy cfg sender domain asset earlier ++ [amount.toNat] := by
            simp [depositsBy, hdeposit]
          rw [hone, List.map_append, List.sum_append, List.map_singleton, List.sum_singleton]
          omega

/-- Splitting saves little: the deposits of a sender on a route report together at least the fee
for one deposit of their sum, less one for each deposit after the first, over any run in which the
fee of the route is not set. -/
theorem splitting_bounded (hcfg : Confined cfg)
    (hrouter : cfg.feeHandler = FeeHandlerRouter.getFee) {version : U16} {ledger : L}
    {start final : Point L} {earlier trace : List (Entry L)}
    (hreached : Run (Step cfg) (.genesis version ledger) earlier start)
    (hrun : Run (Step cfg) start trace final)
    (hprice : ∀ entry ∈ trace, ¬ entry.Reprices (domain, asset)) {total fee : U128}
    (hsome : depositsBy cfg sender domain asset trace ≠ [])
    (htotal : total.toNat = (depositsBy cfg sender domain asset trace).sum)
    (hfee : cfg.feeHandler start.state.storage domain ⟨asset, .fungible total⟩ = some fee) :
    ∃ added, final.state.events = start.state.events ++ added ∧
      fee.toNat ≤ reportedFees (paidBy sender domain asset) added +
        ((depositsBy cfg sender domain asset trace).length - 1) := by
  obtain ⟨schedule, hsplit, hschedule⟩ :=
    fee_schedule (fee_rates_run hcfg hreached) domain asset
  obtain ⟨-, added, hevents, hsum⟩ := run_charges hcfg hrouter sender hrun hprice hschedule
  refine ⟨added, hevents, ?_⟩
  rw [hrouter] at hfee
  have hwhole : fee.toNat = schedule total.toNat := hschedule total fee hfee
  have hparts := schedule_sum_le hsplit hsome
  rw [← htotal] at hparts
  omega

end Splitting

namespace Standalone

/-- A chain with a signer, an open domain, and a fee of one percent on the native asset. -/
def rateCalls : List (Origin × Extrinsic) :=
  [(.root, .setMpcAddress constantSigner), (.root, .registerDomain 1 1),
    (.root, .setFeeRate 1 native 100 0 1000),
    (.root, .setFeeHandler 1 native .percentageFeeHandler)]

def rateState : State PlainLedger :=
  dispatchAll plainConfig rateCalls (.genesis 1 ⟨fun _ _ => 2000⟩)

/-- The states after one and after two deposits of 99. -/
def splitDeposit : Extrinsic := .deposit ⟨native, .fungible 99⟩ nativeDest

def splitOnce : State PlainLedger :=
  (dispatch plainConfig (.signed (Vector.replicate 32 7)) splitDeposit rateState).2

def splitTwice : State PlainLedger :=
  (dispatch plainConfig (.signed (Vector.replicate 32 7)) splitDeposit splitOnce).2

def splitTrace : List (Entry PlainLedger) :=
  [⟨rateState, .call (.signed (Vector.replicate 32 7)) splitDeposit, .ok (), splitOnce⟩,
    ⟨splitOnce, .call (.signed (Vector.replicate 32 7)) splitDeposit, .ok (), splitTwice⟩]

/-- One deposit of 198 pays a fee of 1. Two of 99 pay none, which is the one that a second deposit
can save. -/
theorem splitting_bounded_twice :
    depositsBy plainConfig (Vector.replicate 32 7) 1 native splitTrace = [99, 99] ∧
      plainConfig.feeHandler rateState.storage 1 ⟨native, .fungible 198⟩ = some 1 ∧
      reportedFees (paidBy (Vector.replicate 32 7) 1 native) splitTwice.events = 0 ∧
      ∃ added, splitTwice.events = rateState.events ++ added ∧
        1 ≤ reportedFees (paidBy (Vector.replicate 32 7) 1 native) added + 1 := by
  have hdeposits : depositsBy plainConfig (Vector.replicate 32 7) 1 native splitTrace =
      [99, 99] := by decide +kernel
  have hfee : plainConfig.feeHandler rateState.storage 1 ⟨native, .fungible 198⟩ = some 1 := by
    decide +kernel
  have hfirst : dispatch plainConfig (.signed (Vector.replicate 32 7)) splitDeposit rateState =
      (.ok (), splitOnce) := Prod.ext (by decide +kernel) rfl
  have hsecond : dispatch plainConfig (.signed (Vector.replicate 32 7)) splitDeposit splitOnce =
      (.ok (), splitTwice) := Prod.ext (by decide +kernel) rfl
  have hrun : Run (Step plainConfig) ⟨rateState, []⟩ splitTrace ⟨splitTwice, []⟩ :=
    (Run.refl.snoc (.call hfirst (by decide))).snoc (.call hsecond (by decide))
  have hprice : ∀ entry ∈ splitTrace, ¬ entry.Reprices (1, native) := by
    intro entry hmem hreprices
    obtain ⟨-, origin, extrinsic, haction, hroute⟩ := hreprices
    simp only [splitTrace, List.mem_cons, List.not_mem_nil, or_false] at hmem
    rcases hmem with rfl | rfl
    · cases haction
      cases hroute
    · cases haction
      cases hroute
  obtain ⟨earlier, hreached⟩ :=
    dispatch_all_run plainConfig rateCalls (.genesis 1 ⟨fun _ _ => 2000⟩)
  refine ⟨hdeposits, hfee, by decide +kernel, ?_⟩
  obtain ⟨added, hevents, hbound⟩ := splitting_bounded (confined_of_lift rfl) rfl hreached hrun
    hprice (by rw [hdeposits]; decide) (by rw [hdeposits]; decide) hfee
  rw [hdeposits] at hbound
  exact ⟨added, hevents, hbound⟩

end Standalone

/-! ## The fee account -/

/-- A chain whose transactor acts on the ledger and leaves it as it was when it fails, and whose fee
account is not the reserve of any asset. -/
structure FeeAccount (cfg : Config L) (transactor : LedgerTransactor L) (debugAssertions : Bool)
    (decimalPairs : List (AssetId × U8)) : Prop where
  ledgerOnly : cfg.assetTransactor = transactor.lift
  atomic : transactor.Atomic
  converter : cfg.decimalConverter = sygmaDecimalConverter debugAssertions decimalPairs
  apart : ∀ id reserve, cfg.transferReserveAccounts id = some reserve →
    reserve ≠ cfg.feeReserveAccount

/-- An entry of a run in which an account loses nothing of an asset but by the pallet: nobody else
lowers its balance, and it signs no deposit. -/
structure Entry.Spares {transactor : LedgerTransactor L} (ledger : KeyedLedger transactor)
    (asset : AssetId) (account : AccountId) (entry : Entry L) : Prop where
  external : ∀ changed, entry.action = .external changed →
    ledger.balance entry.before.ledger asset account ≤ ledger.balance changed asset account
  sender : ∀ origin deposited dest, entry.action.asDeposit = some (origin, deposited, dest) →
    origin ≠ .signed account

/-- The fees in an asset, whoever pays them. -/
def paidIn (asset : AssetId) (_ : AccountId) (_ : DomainID) (feeAssetId : AssetId) : Bool :=
  feeAssetId = asset

section Auditing

variable {transactor : LedgerTransactor L} {ledger : KeyedLedger transactor}
  {debugAssertions : Bool} {decimalPairs : List (AssetId × U8)} {asset : AssetId}

/-- The fee account gained at least the fees reported between two states. -/
def Gains (cfg : Config L) (ledger : KeyedLedger transactor) (asset : AssetId)
    (before after : State L) : Prop :=
  ∃ added, after.events = before.events ++ added ∧
    ledger.balance before.ledger asset cfg.feeReserveAccount + reportedFees (paidIn asset) added ≤
      ledger.balance after.ledger asset cfg.feeReserveAccount

theorem Gains.trans {before middle after : State L} (first : Gains cfg ledger asset before middle)
    (second : Gains cfg ledger asset middle after) : Gains cfg ledger asset before after := by
  obtain ⟨added, hevents, hfirst⟩ := first
  obtain ⟨more, hmore, hsecond⟩ := second
  refine ⟨added ++ more, by rw [hmore, hevents, List.append_assoc], ?_⟩
  rw [reported_fees_append]
  omega

/-- A transition that reports no fee and does not lower the fee account. -/
theorem Gains.of_no_fee {before after : State L} {added : List Event}
    (hevents : after.events = before.events ++ added)
    (hnone : ∀ event ∈ added, event.isFee = false)
    (hbalance : ledger.balance before.ledger asset cfg.feeReserveAccount ≤
      ledger.balance after.ledger asset cfg.feeReserveAccount) :
    Gains cfg ledger asset before after :=
  ⟨added, hevents, by rw [reported_fees_zero _ hnone]; exact hbalance⟩

theorem Gains.same (state : State L) : Gains cfg ledger asset state state :=
  .of_no_fee (List.append_nil _).symm (by simp) (Nat.le_refl _)

/-- A deposit pays its fee into the fee account. -/
theorem deposit_gains (h : FeeAccount cfg transactor debugAssertions decimalPairs)
    {origin : Origin} {deposited : MultiAsset} {dest : MultiLocation} {state final : State L}
    (hsender : origin ≠ .signed cfg.feeReserveAccount)
    (hdeposit : deposit cfg origin deposited dest state = (.ok (), final)) :
    Gains cfg ledger asset state final := by
  obtain ⟨receipt, moved, hdeposits, rfl⟩ := deposit_ok.mp hdeposit
  obtain ⟨hfungible, -⟩ := extract_asset_some hdeposits.bound
  obtain ⟨⟨paid, charged, hcollects⟩, hmoved⟩ := collect_lift h.ledgerOnly hdeposits.collected
  have hevents : moved.events = state.events := by rw [hmoved]
  refine ⟨_, by rw [Receipt.issue, State.put_events, hevents], ?_⟩
  rw [reported_fees_receipt]
  -- the withdrawal takes from the sender, who is not the fee account
  have hother : (asset, cfg.feeReserveAccount) ≠ (deposited.id, receipt.sender) := by
    intro hsame
    have haccount : cfg.feeReserveAccount = receipt.sender := congrArg Prod.snd hsame
    exact hsender (haccount ▸ hdeposits.signed)
  have hbalance : ledger.balance moved.ledger asset cfg.feeReserveAccount +
      amountIn deposited.id receipt.sender receipt.amount.toNat asset cfg.feeReserveAccount =
      ledger.balance state.ledger asset cfg.feeReserveAccount +
        amountIn deposited.id cfg.feeReserveAccount receipt.fee.toNat asset
          cfg.feeReserveAccount +
        if cfg.isReserve deposited .here then
          amountIn deposited.id receipt.reserveAccount receipt.bridged.toNat asset
            cfg.feeReserveAccount
        else 0 :=
    hcollects.balance ledger.issuing.pooled hfungible asset cfg.feeReserveAccount
  rw [amountIn_of_ne hother, Nat.add_zero] at hbalance
  have hfee : (if paidIn asset receipt.sender receipt.destDomainId deposited.id = true
      then receipt.fee.toNat else 0) = amountIn deposited.id cfg.feeReserveAccount
        receipt.fee.toNat asset cfg.feeReserveAccount := by
    by_cases hid : deposited.id = asset
    · simp [paidIn, hid, amountIn_self]
    · rw [amountIn_of_ne fun hsame => hid (congrArg Prod.fst hsame).symm]
      simp [paidIn, hid]
  rw [hfee]
  exact Nat.le.intro hbalance.symm

/-- The transactor calls of a proposal take nothing from the fee account, whether they succeed or
not. -/
theorem pay_spares (h : FeeAccount cfg transactor debugAssertions decimalPairs) {id : AssetId}
    {account : AccountId} (haccount : cfg.transferReserveAccounts id = some account)
    (paid : U128) (location : MultiLocation) (start : L) :
    ledger.balance start asset cfg.feeReserveAccount ≤
      ledger.balance (payLedger cfg transactor ⟨⟨id, .fungible paid⟩, location, account⟩ start).2
        asset cfg.feeReserveAccount := by
  have hdeposit : ∀ middle, ledger.balance middle asset cfg.feeReserveAccount ≤
      ledger.balance (transactor.depositAsset ⟨id, .fungible paid⟩ location middle).2 asset
        cfg.feeReserveAccount := by
    intro middle
    rcases hcall : transactor.depositAsset ⟨id, .fungible paid⟩ location middle with
      ⟨outcome, final⟩
    cases outcome with
    | ok done => exact ledger.deposit hcall asset cfg.feeReserveAccount
    | error error =>
        obtain rfl := h.atomic.deposit _ _ _ _ _ hcall
        exact Nat.le_refl _
  unfold payLedger
  split
  · rcases hcall : transactor.withdrawAsset ⟨id, .fungible paid⟩ (.ofAccount account) start with
      ⟨outcome, withdrawn⟩
    cases outcome with
    | error error =>
        obtain rfl := h.atomic.withdraw _ _ _ _ _ hcall
        exact Nat.le_refl _
    | ok done =>
        have hother : (asset, cfg.feeReserveAccount) ≠ (id, account) := fun hsame =>
          h.apart id account haccount (congrArg Prod.snd hsame).symm
        have hkept := (ledger.withdraw hcall).2 asset cfg.feeReserveAccount hother
        exact hkept ▸ hdeposit withdrawn
  · exact hdeposit start

/-- Paying a proposal out takes nothing from the fee account, whether it succeeds or not. -/
theorem settle_balance (h : FeeAccount cfg transactor debugAssertions decimalPairs)
    (proposal : Proposal) (storage : Storage) (start : L) :
    ledger.balance start asset cfg.feeReserveAccount ≤
      ledger.balance (settle cfg transactor proposal storage start).2 asset
        cfg.feeReserveAccount := by
  unfold settle
  cases hresolve : resolve cfg storage proposal with
  | error fault => exact Nat.le_refl _
  | ok payout =>
      obtain ⟨-, -, -, id, amount, -, -, hconvert, haccount, -⟩ := resolve_ok.mp hresolve
      obtain ⟨_, paid, -, hasset, -⟩ := convert_from_le (h.converter ▸ hconvert)
      obtain ⟨payoutAsset, location, account⟩ := payout
      subst hasset
      have hpay : ledger.balance start asset cfg.feeReserveAccount ≤
          ledger.balance (payLedger cfg transactor ⟨⟨id, .fungible paid⟩, location, account⟩
            start).2 asset cfg.feeReserveAccount := pay_spares h haccount paid location start
      rcases hcall : payLedger cfg transactor ⟨⟨id, .fungible paid⟩, location, account⟩ start with
        ⟨outcome, final⟩
      rw [hcall] at hpay
      cases outcome with
      | ok done => simpa only [hcall] using hpay
      | error error => simpa only [hcall] using hpay

/-- What one transition brings the fee account. -/
theorem Step.gains (h : FeeAccount cfg transactor debugAssertions decimalPairs)
    {point next : Point L} {entry : Entry L} (hstep : Step cfg point entry next)
    (hspares : entry.Spares ledger asset cfg.feeReserveAccount) :
    Gains cfg ledger asset point.state next.state := by
  cases hstep with
  | call hdispatch hbatch =>
      cases dispatch_cases hdispatch hbatch with
      | failed => exact .same _
      | guarded => exact .of_no_fee rfl (is_fee_report _ _) (Nat.le_refl _)
      | deposited hdeposit => exact deposit_gains h (hspares.sender _ _ _ rfl) hdeposit
  | batch => exact .same _
  | proposal hexecute =>
      rename_i proposal rest before after
      obtain ⟨-, rfl⟩ := (execute_one_lift h.ledgerOnly).mp hexecute
      refine .of_no_fee rfl ?_ (settle_balance h proposal before.storage before.ledger)
      rcases (settle cfg transactor proposal before.storage before.ledger).1 with fault | done
      · cases fault <;> simp [outcomeEvents, failureEvent, Event.isFee]
      · simp [outcomeEvents, executionEvent, Event.isFee]
  | transfer htransfer =>
      rename_i sender deposited dest before after outcome
      cases outcome with
      | error fault =>
          obtain rfl := Exec.transactional_error htransfer
          exact .same _
      | ok done => exact deposit_gains h (hspares.sender _ _ _ rfl) htransfer
  | upgrade => exact .of_no_fee rfl (by simp) (Nat.le_refl _)
  | external before changed =>
      exact .of_no_fee (List.append_nil _).symm (by simp) (hspares.external changed rfl)

/-- The log can be held against the fee account: over every run in which nobody else takes from
the account, it gains at least the fees that the run reports. -/
theorem treasury_audited (h : FeeAccount cfg transactor debugAssertions decimalPairs)
    {start final : Point L} {trace : List (Entry L)} (hrun : Run (Step cfg) start trace final)
    (hspares : ∀ entry ∈ trace, entry.Spares ledger asset cfg.feeReserveAccount) :
    ∃ added, final.state.events = start.state.events ++ added ∧
      ledger.balance start.state.ledger asset cfg.feeReserveAccount +
          reportedFees (paidIn asset) added ≤
        ledger.balance final.state.ledger asset cfg.feeReserveAccount := by
  show Gains cfg ledger asset start.state final.state
  induction hrun with
  | refl => exact .same _
  | snoc hprefix hstep ih =>
      have hfirst := ih fun entry hmem => hspares entry (by simp [hmem])
      exact hfirst.trans (hstep.gains h (hspares _ (by simp)))

end Auditing

namespace Standalone

theorem fee_account_treasury :
    FeeAccount plainConfig (PlainLedger.transactor locationToAccountId) false
      assetDecimalPairs where
  ledgerOnly := rfl
  atomic := PlainLedger.transactor_atomic locationToAccountId
  converter := rfl
  apart id reserve haccount := by
    have hreserve : bridgeAccounts id = some reserve := haccount
    unfold bridgeAccounts at hreserve
    split_ifs at hreserve <;> cases hreserve <;> decide +kernel

/-- The deposit of 1003 that is paid out again brings the fee account its fee of 3. -/
theorem treasury_audited_return :
    reportedFees (paidIn native) returnedState.events = 3 ∧
      feeState.ledger.balance native treasuryAccount + 3 ≤
        returnedState.ledger.balance native treasuryAccount := by
  have hspares : ∀ entry ∈ returnTrace,
      entry.Spares (PlainLedger.keyed locationToAccountId) native
        plainConfig.feeReserveAccount := by
    intro entry hmem
    simp only [returnTrace, List.mem_cons, List.not_mem_nil, or_false] at hmem
    rcases hmem with rfl | rfl | rfl <;> constructor
    case inl.sender =>
      intro origin deposited dest hdeposit
      cases hdeposit
      decide +kernel
    all_goals
      intros
      contradiction
  obtain ⟨added, hevents, hgained⟩ :=
    treasury_audited fee_account_treasury return_trace_run hspares
  have hreported : reportedFees (paidIn native) returnedState.events = 3 := by decide +kernel
  have hbefore : reportedFees (paidIn native) feeState.events = 0 := by decide +kernel
  have hadded : reportedFees (paidIn native) added = 3 := by
    rw [show returnedState.events = feeState.events ++ added from hevents,
      reported_fees_append, hbefore, Nat.zero_add] at hreported
    exact hreported
  rw [hadded] at hgained
  exact ⟨hreported, hgained⟩

end Standalone

end Sygma
