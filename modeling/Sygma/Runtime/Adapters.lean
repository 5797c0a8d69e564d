import Sygma.Runtime.Conservation
import Sygma.Runtime.Pallets

/-!
# What the adapters under the bridge issue

On the standalone runtime every asset that the bridge knows is matched by exactly one adapter and
has its reserve there, so that nothing that happens through the bridge raises a total issuance:
`standalone_never_mints`. The same holds on the parachain runtime, whose transactor forwards payouts
to the bridge itself and to the XCM bridge: `parachain_never_mints`. There the adapter of the
currency matches the token of the relay chain, while the bridge knows the native token by another
location: `native_resource_dead` says that its resource can be neither deposited nor paid out.
-/

namespace Sygma

open Bridge

variable {L C K : Type}

/-! ## What adapters issue -/

/-- A pallet issues at most what is deposited and destroys at least what is withdrawn, in the class
of the call, and a call that fails leaves the ledger as it was. -/
structure BalancePallet.Bounded [DecidableEq K] (pallet : BalancePallet L C)
    (issuance : L → K → Nat) (key : C → K) : Prop where
  withdraw : ∀ {class_ account amount ledger final},
    pallet.withdraw class_ account amount ledger = (.ok (), final) →
    ∀ other, issuance final other + amountOf (key class_) amount.toNat other ≤
      issuance ledger other
  deposit : ∀ {class_ account amount ledger final},
    pallet.deposit class_ account amount ledger = (.ok (), final) →
    ∀ other, issuance final other ≤
      issuance ledger other + amountOf (key class_) amount.toNat other
  withdrawRefused : ∀ {class_ account amount ledger error final},
    pallet.withdraw class_ account amount ledger = (.error error, final) → final = ledger
  depositRefused : ∀ {class_ account amount ledger error final},
    pallet.deposit class_ account amount ledger = (.error error, final) → final = ledger

/-- A transactor serves the assets that have a key, and issues and destroys under that key. -/
structure LedgerTransactor.Serves [DecidableEq K] (transactor : LedgerTransactor L)
    (issuance : L → K → Nat) (keyOf : AssetId → Option K) : Prop where
  withdraw : ∀ {id amount who ledger final},
    transactor.withdrawAsset ⟨id, .fungible amount⟩ who ledger = (.ok (), final) →
    ∃ key, keyOf id = some key ∧ ∀ other,
      issuance final other + amountOf key amount.toNat other ≤ issuance ledger other
  deposit : ∀ {id amount who ledger final},
    transactor.depositAsset ⟨id, .fungible amount⟩ who ledger = (.ok (), final) →
    ∃ key, keyOf id = some key ∧ ∀ other,
      issuance final other ≤ issuance ledger other + amountOf key amount.toNat other
  atomic : transactor.Atomic

section Serving

variable [DecidableEq K] {issuance : L → K → Nat} {accounts : LocationToAccount}
  {pallet : BalancePallet L C} {matcher : MultiAsset → Except MatchError (C × U128)} {key : C → K}

/-- The class an asset has for a matcher. -/
def classOf (matcher : MultiAsset → Except MatchError (C × U128)) (id : AssetId) : Option C :=
  (matcher ⟨id, .fungible 0⟩).toOption.map Prod.fst

/-- A matcher passes the amount on, and the class it finds depends on the asset only. -/
def Uniform (matcher : MultiAsset → Except MatchError (C × U128)) : Prop :=
  ∀ {id amount class_ matched}, matcher ⟨id, .fungible amount⟩ = .ok (class_, matched) →
    classOf matcher id = some class_ ∧ matched = amount

/-- An adapter with such a matcher serves the assets that have a class. -/
theorem adapter_serves (hmatcher : Uniform matcher) (hpallet : pallet.Bounded issuance key) :
    (adapter matcher accounts pallet).Serves issuance fun id => (classOf matcher id).map key := by
  refine ⟨?_, ?_, ?_, ?_⟩
  · intro id amount who ledger final h
    simp only [adapter] at h
    split at h
    · cases h
    · cases h
    · rename_i class_ matched account hmatch haccount
      obtain ⟨hclass, rfl⟩ := hmatcher hmatch
      exact ⟨key class_, by simp [hclass], hpallet.withdraw h⟩
  · intro id amount who ledger final h
    simp only [adapter] at h
    split at h
    · cases h
    · cases h
    · rename_i class_ matched account hmatch haccount
      obtain ⟨hclass, rfl⟩ := hmatcher hmatch
      exact ⟨key class_, by simp [hclass], hpallet.deposit h⟩
  · intro asset who ledger error final h
    simp only [adapter] at h
    split at h
    · cases h
      rfl
    · cases h
      rfl
    · exact hpallet.withdrawRefused h
  · intro asset who ledger error final h
    simp only [adapter] at h
    split at h
    · cases h
      rfl
    · cases h
      rfl
    · exact hpallet.depositRefused h

/-- Two transactors that serve different assets serve all of them together. -/
theorem LedgerTransactor.Serves.orElse {first second : LedgerTransactor L}
    {keyOf otherKeyOf : AssetId → Option K} (hfirst : first.Serves issuance keyOf)
    (hsecond : second.Serves issuance otherKeyOf)
    (hdisjoint : ∀ id, keyOf id = none ∨ otherKeyOf id = none) :
    (first.orElse second).Serves issuance fun id => (keyOf id).or (otherKeyOf id) := by
  have hor : ∀ {id key}, otherKeyOf id = some key → (keyOf id).or (otherKeyOf id) = some key := by
    intro id key hkey
    rcases hdisjoint id with hnone | hnone
    · rw [hnone, hkey, Option.none_or]
    · rw [hkey] at hnone
      cases hnone
  refine ⟨?_, ?_, ?_, ?_⟩
  · intro id amount who ledger final h
    simp only [LedgerTransactor.orElse] at h
    split at h
    · rename_i left hleft
      obtain rfl := hfirst.atomic.withdraw _ _ _ _ _ hleft
      obtain ⟨key, hkey, hbound⟩ := hsecond.withdraw h
      exact ⟨key, hor hkey, hbound⟩
    · obtain ⟨key, hkey, hbound⟩ := hfirst.withdraw h
      exact ⟨key, by simp [hkey], hbound⟩
  · intro id amount who ledger final h
    simp only [LedgerTransactor.orElse] at h
    split at h
    · rename_i left hleft
      obtain rfl := hfirst.atomic.deposit _ _ _ _ _ hleft
      obtain ⟨key, hkey, hbound⟩ := hsecond.deposit h
      exact ⟨key, hor hkey, hbound⟩
    · obtain ⟨key, hkey, hbound⟩ := hfirst.deposit h
      exact ⟨key, by simp [hkey], hbound⟩
  · intro asset who ledger error final h
    simp only [LedgerTransactor.orElse] at h
    split at h
    · rename_i left hleft
      obtain rfl := hfirst.atomic.withdraw _ _ _ _ _ hleft
      exact hsecond.atomic.withdraw _ _ _ _ _ h
    · exact hfirst.atomic.withdraw _ _ _ _ _ h
  · intro asset who ledger error final h
    simp only [LedgerTransactor.orElse] at h
    split at h
    · rename_i left hleft
      obtain rfl := hfirst.atomic.deposit _ _ _ _ _ hleft
      exact hsecond.atomic.deposit _ _ _ _ _ h
    · exact hfirst.atomic.deposit _ _ _ _ _ h

end Serving

/-! ## Nothing is issued -/

section Reserved

variable [DecidableEq K] {issuance : L → K → Nat} {keyOf : AssetId → Option K} {cfg : Config L}

/-- There is no more of anything in the second state than in the first. -/
def NoMore (issuance : L → K → Nat) (state final : State L) : Prop :=
  ∀ key, issuance final.ledger key ≤ issuance state.ledger key

omit [DecidableEq K] in
theorem NoMore.trans {state middle final : State L} (first : NoMore issuance state middle)
    (second : NoMore issuance middle final) : NoMore issuance state final :=
  fun key => (second key).trans (first key)

/-- There is at most an amount more under one key. -/
def AtMostMore (issuance : L → K → Nat) (key : K) (amount : Nat) (state final : State L) : Prop :=
  ∀ other, issuance final.ledger other ≤ issuance state.ledger other + amountOf key amount other

/-- What the bridge needs of its transactor: a withdrawal takes the amount out of the issuance, and
a deposit issues at most the amount, whether it succeeds or not. -/
structure Supplies (transactor : TransactAsset L) (issuance : L → K → Nat)
    (keyOf : AssetId → Option K) : Prop where
  withdrawn : ∀ {id amount who state final},
    transactor.withdrawAsset ⟨id, .fungible amount⟩ who state = (.ok (), final) →
    ∃ key, keyOf id = some key ∧ ∀ other,
      issuance final.ledger other + amountOf key amount.toNat other ≤ issuance state.ledger other
  withdraws : ∀ id amount who,
    Exec.Leaves (NoMore issuance) (transactor.withdrawAsset ⟨id, .fungible amount⟩ who)
  deposits : ∀ {id key}, keyOf id = some key → ∀ amount who,
    Exec.Leaves (AtMostMore issuance key amount.toNat)
      (transactor.depositAsset ⟨id, .fungible amount⟩ who)

/-- A transactor on the ledger does, if it serves its assets. -/
theorem LedgerTransactor.Serves.supplies {transactor : LedgerTransactor L}
    (h : transactor.Serves issuance keyOf) : Supplies transactor.lift issuance keyOf where
  withdrawn := by
    intro id amount who state final hwithdraw
    obtain ⟨ledger, hledger, rfl⟩ := on_ledger_ok.mp hwithdraw
    exact h.withdraw hledger
  withdraws := by
    intro id amount who state key
    show issuance (onLedger (transactor.withdrawAsset ⟨id, .fungible amount⟩ who) state).2.ledger
      key ≤ _
    unfold onLedger
    rcases hledger : transactor.withdrawAsset ⟨id, .fungible amount⟩ who state.ledger with
      ⟨outcome, ledger⟩
    cases outcome with
    | ok done =>
        obtain ⟨found, -, hbound⟩ := h.withdraw hledger
        exact (Nat.le_add_right _ _).trans (hbound key)
    | error error =>
        obtain rfl := h.atomic.withdraw _ _ _ _ _ hledger
        exact Nat.le_refl _
  deposits := by
    intro id key hkey amount who state other
    show issuance (onLedger (transactor.depositAsset ⟨id, .fungible amount⟩ who) state).2.ledger
      other ≤ _
    unfold onLedger
    rcases hledger : transactor.depositAsset ⟨id, .fungible amount⟩ who state.ledger with
      ⟨outcome, ledger⟩
    cases outcome with
    | ok done =>
        obtain ⟨found, hfound, hbound⟩ := h.deposit hledger
        cases hkey.symm.trans hfound
        exact hbound other
    | error error =>
        obtain rfl := h.atomic.deposit _ _ _ _ _ hledger
        exact Nat.le_add_right _ _

/-- Taking an asset and depositing it again in two parts adds nothing. -/
theorem amount_of_split {key : K} {whole part rest : Nat} (h : part + rest = whole) (other : K) :
    amountOf key part other + amountOf key rest other = amountOf key whole other := by
  unfold amountOf
  split <;> omega

/-- A bridge over a transactor that supplies its assets, which all have their reserve here. -/
structure FullyReserved (cfg : Config L) (issuance : L → K → Nat) (keyOf : AssetId → Option K) :
    Prop where
  supplies : Supplies cfg.assetTransactor issuance keyOf
  reserved : ∀ {id resourceId}, (id, resourceId) ∈ cfg.resourcePairs →
    ∀ amount, cfg.isReserve ⟨id, .fungible amount⟩ .here = true
  keepsId : ∀ {id amount asset},
    cfg.decimalConverter.convertFrom ⟨id, .fungible amount⟩ = .ok (some asset) →
    ∃ converted, asset = ⟨id, .fungible converted⟩

/-- A deposit puts back no more than it takes, and a failed one is undone. -/
theorem FullyReserved.deposit_issues (h : FullyReserved cfg issuance keyOf) (origin : Origin)
    (asset : MultiAsset) (dest : MultiLocation) :
    Exec.Leaves (NoMore issuance) (deposit cfg origin asset dest) := by
  intro state key
  rcases hdeposit : deposit cfg origin asset dest state with ⟨outcome, final⟩
  cases outcome with
  | error fault => rw [Exec.transactional_error hdeposit]
  | ok done =>
      obtain ⟨receipt, moved, hdeposits, rfl⟩ := deposit_ok.mp hdeposit
      obtain ⟨hasset, -, hmem⟩ := extract_asset_some hdeposits.bound
      obtain ⟨_, paid, hwithdraw, hrest⟩ := Exec.bind_ok.mp hdeposits.collected
      obtain ⟨_, charged, hfee, hkeep⟩ := Exec.bind_ok.mp hrest
      have hreserve := h.reserved hmem receipt.amount
      rw [← hasset] at hreserve
      unfold Exec.when at hkeep
      rw [if_pos hreserve] at hkeep
      have hwithdraw := Exec.mapErr_ok.mp hwithdraw
      rw [hasset] at hwithdraw
      obtain ⟨class_, hclass, htaken⟩ := h.supplies.withdrawn hwithdraw
      have hcharged := (h.supplies.deposits hclass receipt.fee _).of_eq (Exec.mapErr_ok.mp hfee) key
      have hkept := (h.supplies.deposits hclass receipt.bridged _).of_eq (Exec.mapErr_ok.mp hkeep)
        key
      have hbridged := Receipt.bridged_toNat hdeposits.affordable
      have hless : receipt.fee.toNat < receipt.amount.toNat := BitVec.lt_def.mp hdeposits.affordable
      have hsplit : amountOf class_ receipt.fee.toNat key +
          amountOf class_ receipt.bridged.toNat key = amountOf class_ receipt.amount.toNat key :=
        amount_of_split (by omega) key
      have htaken := htaken key
      show issuance moved.ledger key ≤ issuance state.ledger key
      omega

/-- A payout is taken out of its reserve before it is delivered, so it issues nothing, whether it is
delivered or not. -/
theorem FullyReserved.pay_issues (h : FullyReserved cfg issuance keyOf) {id : AssetId}
    {resourceId : ResourceId} (hmem : (id, resourceId) ∈ cfg.resourcePairs) (amount : U128)
    (location : MultiLocation) (account : AccountId) :
    Exec.Leaves (NoMore issuance) (pay cfg ⟨⟨id, .fungible amount⟩, location, account⟩) := by
  intro state key
  unfold pay Exec.when
  rw [if_pos (h.reserved hmem amount), Exec.bind_apply]
  rcases hwithdraw : transact (cfg.assetTransactor.withdrawAsset ⟨id, .fungible amount⟩
    (.ofAccount account)) state with ⟨outcome, withdrawn⟩
  cases outcome with
  | error fault => exact (h.supplies.withdraws id amount _).mapErr.of_eq hwithdraw key
  | ok done =>
      obtain ⟨class_, hclass, htaken⟩ := h.supplies.withdrawn (Exec.mapErr_ok.mp hwithdraw)
      exact Nat.le_trans ((h.supplies.deposits hclass amount location).mapErr withdrawn key)
        (htaken key)

/-- A proposal issues nothing. -/
theorem FullyReserved.proposal_issues (h : FullyReserved cfg issuance keyOf)
    (proposal : Proposal) :
    Exec.Leaves (NoMore issuance) (executeProposalInternal cfg proposal) := by
  intro state
  rw [execute_proposal_internal_eq]
  cases hresolve : resolve cfg state.storage proposal with
  | error fault => exact fun key => Nat.le_refl _
  | ok payout =>
      obtain ⟨-, -, -, id, amount, hbound, -, hconvert, -⟩ := resolve_ok.mp hresolve
      obtain ⟨asset, location, account⟩ := payout
      obtain ⟨converted, rfl⟩ := h.keepsId hconvert
      exact h.pay_issues (rid_to_assetid_mem hbound) converted location account state

/-- No transition through the bridge issues anything. -/
theorem FullyReserved.step_issues (h : FullyReserved cfg issuance keyOf) {point next : Point L}
    {entry : Entry L} (hstep : Step cfg point entry next)
    (hexternal : ∀ ledger, entry.action ≠ .external ledger) :
    NoMore issuance point.state next.state := by
  intro key
  cases hstep with
  | call hdispatch hbatch =>
      cases dispatch_cases hdispatch hbatch with
      | failed | guarded => exact Nat.le_refl _
      | deposited hdeposit => exact (h.deposit_issues _ _ _).of_eq hdeposit key
  | batch | upgrade => exact Nat.le_refl _
  | proposal hexecute =>
      rename_i proposal rest before after
      rcases execute_one_ok.mp hexecute with ⟨paid, hpaid, rfl⟩ | ⟨error, left, hleft, rfl⟩
      · exact (h.proposal_issues proposal).of_eq hpaid key
      · exact (h.proposal_issues proposal).of_eq hleft key
  | transfer htransfer => exact (h.deposit_issues _ _ _).of_eq htransfer key
  | external before ledger => exact absurd rfl (hexternal ledger)

/-- Nothing is issued over a run of the bridge. -/
theorem FullyReserved.run_issues (h : FullyReserved cfg issuance keyOf) {start final : Point L}
    {trace : List (Entry L)} (hrun : Run (Step cfg) start trace final)
    (hexternal : ∀ entry ∈ trace, ∀ ledger, entry.action ≠ .external ledger) :
    NoMore issuance start.state final.state := by
  refine hrun.invariant_of_forall (fun point => NoMore issuance start.state point.state)
    (fun entry => ∀ ledger, entry.action ≠ .external ledger) (fun _ => Nat.le_refl _) hexternal ?_
  intro before entry after hstep hlocal hle
  exact hle.trans (h.step_issues hstep hlocal)

end Reserved

/-! ## The standalone runtime -/

theorem is_concrete_uniform (location : MultiLocation) : Uniform (isConcrete location) := by
  intro id amount class_ matched h
  cases id with
  | abstract => cases h
  | concrete found =>
      simp only [isConcrete] at h
      split at h
      · rename_i hfound
        cases h
        simp [classOf, isConcrete, hfound, Except.toOption]
      · cases h

theorem matches_fungibles_uniform (first : MultiLocation) : Uniform (matchesFungibles first) := by
  intro id amount class_ matched h
  cases id with
  | abstract => cases h
  | concrete found =>
      simp only [matchesFungibles] at h
      simp only [classOf, matchesFungibles]
      split_ifs at h ⊢
      all_goals
        cases h
        exact ⟨rfl, rfl⟩

namespace Standalone

/-- The key of an asset: nothing for the native currency, and the asset id for a foreign asset. -/
def keyOf (id : AssetId) : Option (Option U32) :=
  ((classOf (isConcrete nativeLocation) id).map fun _ => none).or
    ((classOf simpleForeignAssetConverter id).map some)

/-- The native currency is no foreign asset. -/
theorem classes_disjoint (id : AssetId) :
    classOf (isConcrete nativeLocation) id = none ∨
      classOf simpleForeignAssetConverter id = none := by
  by_cases hid : id = .concrete nativeLocation
  · right
    rw [hid]
    decide +kernel
  · left
    cases id with
    | abstract => rfl
    | concrete found =>
        have hfound : found ≠ nativeLocation := fun heq => hid (by rw [heq])
        simp [classOf, isConcrete, hfound, Except.toOption]

/-- The bridge of the standalone runtime is fully reserved, over any two pallets. -/
theorem fully_reserved (host : Host) (accounts : LocationToAccount)
    {balances : BalancePallet L Unit} {assets : BalancePallet L U32}
    {issuance : L → Option U32 → Nat} (hbalances : balances.Bounded issuance fun _ => none)
    (hassets : assets.Bounded issuance some) :
    FullyReserved (config host (assetTransactors accounts balances assets).lift) issuance
      keyOf where
  supplies := by
    have hcurrency : (adapter (isConcrete nativeLocation) accounts balances).Serves issuance
        fun id => (classOf (isConcrete nativeLocation) id).map fun _ => none :=
      adapter_serves (is_concrete_uniform nativeLocation) hbalances
    have hforeign : (adapter simpleForeignAssetConverter accounts assets).Serves issuance
        fun id => (classOf simpleForeignAssetConverter id).map some :=
      adapter_serves (matches_fungibles_uniform usdcLocation) hassets
    refine (hcurrency.orElse hforeign ?_).supplies
    intro id
    rcases classes_disjoint id with hnone | hnone
    · exact .inl (by simp [hnone])
    · exact .inr (by simpa using hnone)
  reserved := by
    intro id resourceId hmem amount
    have hlisted : (id, resourceId) ∈ resourcePairs := hmem
    simp only [resourcePairs, List.mem_cons, List.not_mem_nil, or_false, Prod.mk.injEq] at hlisted
    rcases hlisted with ⟨rfl, -⟩ | ⟨rfl, -⟩ | ⟨rfl, -⟩ | ⟨rfl, -⟩
    all_goals rfl
  keepsId := by
    intro id amount asset hconvert
    obtain ⟨_, converted, -, hasset, -⟩ := convert_from_le hconvert
    exact ⟨converted, hasset⟩

/-- On the standalone runtime, nothing that happens through the bridge raises the total issuance of
the native currency or of any foreign asset, over any run and whatever fails in it. -/
theorem standalone_never_mints (host : Host) (accounts : LocationToAccount)
    {balances : BalancePallet L Unit} {assets : BalancePallet L U32}
    {issuance : L → Option U32 → Nat} (hbalances : balances.Bounded issuance fun _ => none)
    (hassets : assets.Bounded issuance some) {start final : Point L} {trace : List (Entry L)}
    (hrun : Run (Step (config host (assetTransactors accounts balances assets).lift)) start trace
      final)
    (hexternal : ∀ entry ∈ trace, ∀ ledger, entry.action ≠ .external ledger)
    (key : Option U32) :
    issuance final.state.ledger key ≤ issuance start.state.ledger key :=
  (fully_reserved host accounts hbalances hassets).run_issues hrun hexternal key

/-- A pallet that keeps no accounts, only how much there is of each class. -/
def totalsPallet {C : Type} (key : C → Option U32) : BalancePallet (Option U32 → Nat) C where
  withdraw class_ _ amount ledger :=
    if amount.toNat ≤ ledger (key class_) then
      (.ok (), Function.update ledger (key class_) (ledger (key class_) - amount.toNat))
    else (.error (.failedToTransactAsset "InsufficientBalance"), ledger)
  deposit class_ _ amount ledger :=
    (.ok (), Function.update ledger (key class_) (ledger (key class_) + amount.toNat))

theorem totals_bounded {C : Type} (key : C → Option U32) :
    (totalsPallet key).Bounded (fun ledger class_ => ledger class_) key := by
  refine ⟨?_, ?_, ?_, ?_⟩
  · intro class_ account amount ledger final h other
    simp only [totalsPallet] at h
    split at h
    · rename_i henough
      cases h
      by_cases hother : other = key class_
      · simp only [hother, Function.update_self, amountOf, if_true]
        omega
      · simp [hother, amountOf]
    · cases h
  · intro class_ account amount ledger final h other
    cases h
    by_cases hother : other = key class_
    · simp [hother, amountOf]
    · simp [hother, amountOf]
  · intro class_ account amount ledger error final h
    simp only [totalsPallet] at h
    split at h
    · cases h
    · cases h
      rfl
  · intro class_ account amount ledger error final h
    cases h

def totalsConfig : Config (Option U32 → Nat) :=
  config constantHost (assetTransactors locationToAccountId (totalsPallet fun _ => none)
    (totalsPallet some)).lift

/-- A chain with a signer, an open domain and a fee, on which there are 5000 of every class. -/
def totalsState : State (Option U32 → Nat) :=
  dispatchAll totalsConfig
    [(.root, .setMpcAddress constantSigner), (.root, .registerDomain 1 1),
      (.root, .setFee 1 native 3), (.root, .setFeeHandler 1 native .basicFeeHandler)]
    (.genesis 1 fun _ => 5000)

/-- A deposit of the native currency succeeds, and there is no more of it than before. -/
theorem standalone_never_mints_deposit :
    ∃ final, dispatch totalsConfig (.signed (Vector.replicate 32 7)) nativeDeposit totalsState =
        (.ok (), final) ∧
      totalsState.ledger none = 5000 ∧ final.ledger none ≤ totalsState.ledger none := by
  have hdeposit : dispatch totalsConfig (.signed (Vector.replicate 32 7)) nativeDeposit
      totalsState = (.ok (), (dispatch totalsConfig (.signed (Vector.replicate 32 7)) nativeDeposit
        totalsState).2) := Prod.ext (by decide +kernel) rfl
  have hrun := Run.snoc .refl (Step.call hdeposit (by decide))
  refine ⟨_, hdeposit, by decide +kernel, ?_⟩
  refine standalone_never_mints constantHost locationToAccountId (totals_bounded fun _ => none)
    (totals_bounded some) hrun ?_ none
  intro entry hmem ledger haction
  obtain rfl := List.mem_singleton.mp hmem
  cases haction

end Standalone

/-! ## The parachain runtime -/

namespace Parachain

open BridgeForwarder (XcmAssetTransactor)

variable {host : Host L}

/-! ### Nothing is issued -/

section Issued

variable {accounts : LocationToAccount} {balances : BalancePallet L Unit}
  {assets : BalancePallet L U32} {issuance : L → Option U32 → Nat}

/-- The host has the two transactors that the runtime configures. -/
structure Adapts (host : Host L) (accounts : LocationToAccount) (balances : BalancePallet L Unit)
    (assets : BalancePallet L U32) : Prop where
  currency : host.currencyTransactor = (currencyTransactor accounts balances).lift
  fungibles : host.fungiblesTransactor = (fungiblesTransactor accounts assets).lift

/-- The key of an asset, as its keeper finds it. -/
def keyOf (host : Host L) (id : AssetId) : Option (Option U32) :=
  if isNativeAsset host.parachainId ⟨id, .fungible 0⟩ then
    (classOf (isConcrete .parent) id).map fun _ => none
  else (classOf simpleForeignAssetConverter id).map some

/-- The transactor that keeps the native assets and the one that keeps the others supply together
what each of them supplies. -/
theorem local_supplies (hhost : Adapts host accounts balances assets)
    (hbalances : balances.Bounded issuance fun _ => none) (hassets : assets.Bounded issuance some) :
    Supplies (localTransactor host) issuance (keyOf host) := by
  have hcurrency : Supplies host.currencyTransactor issuance
      fun id => (classOf (isConcrete .parent) id).map fun _ => none := by
    rw [hhost.currency]
    exact (adapter_serves (is_concrete_uniform .parent) hbalances).supplies
  have hforeign : Supplies host.fungiblesTransactor issuance
      fun id => (classOf simpleForeignAssetConverter id).map some := by
    rw [hhost.fungibles]
    exact (adapter_serves (matches_fungibles_uniform usdtLocation) hassets).supplies
  -- which of them keeps an asset does not depend on the amount
  have hcheck : ∀ id amount, isNativeAsset host.parachainId ⟨id, .fungible amount⟩ =
      isNativeAsset host.parachainId ⟨id, .fungible 0⟩ := by
    intro id amount
    cases id <;> rfl
  refine ⟨?_, ?_, ?_⟩
  · intro id amount who state final hwithdraw
    simp only [localTransactor, hcheck id amount] at hwithdraw
    unfold keyOf
    split at hwithdraw
    · rename_i hnative
      rw [if_pos hnative]
      exact hcurrency.withdrawn hwithdraw
    · rename_i hforeigner
      rw [if_neg hforeigner]
      exact hforeign.withdrawn hwithdraw
  · intro id amount who
    simp only [localTransactor, hcheck id amount]
    split
    · exact hcurrency.withdraws id amount who
    · exact hforeign.withdraws id amount who
  · intro id key hkey amount who
    simp only [localTransactor, hcheck id amount]
    unfold keyOf at hkey
    split at hkey
    · rename_i hnative
      rw [if_pos hnative]
      exact hcurrency.deposits hkey amount who
    · rename_i hforeigner
      rw [if_neg hforeigner]
      exact hforeign.deposits hkey amount who

/-- A bridge of the runtime over any transactor that supplies its assets is fully reserved. -/
theorem bridge_reserved {transactor : TransactAsset L} {keys : AssetId → Option (Option U32)}
    (h : Supplies transactor issuance keys) :
    FullyReserved (bridgeConfig host transactor) issuance keys where
  supplies := h
  reserved := by
    intro id resourceId hmem amount
    have hlisted : (id, resourceId) ∈ resourcePairs := hmem
    simp only [resourcePairs, List.mem_cons, List.not_mem_nil, or_false, Prod.mk.injEq] at hlisted
    rcases hlisted with ⟨rfl, -⟩ | ⟨rfl, -⟩ | ⟨rfl, -⟩ | ⟨rfl, -⟩
    all_goals rfl
  keepsId := by
    intro id amount asset hconvert
    have hfrom : convertFrom host.debugAssertions assetDecimalPairs ⟨id, .fungible amount⟩ =
        .ok (some asset) := hconvert
    obtain ⟨_, converted, -, hasset, -⟩ := convert_from_le hfrom
    exact ⟨converted, hasset⟩

/-- Reporting an event issues nothing. -/
theorem event_issues (event : Event) :
    Exec.Leaves (NoMore issuance) (depositEvent event : Call L DispatchError Unit) :=
  fun _ _ => Nat.le_refl _

/-- The XCM bridge issues nothing, if the executor does not. -/
theorem xcm_issues
    (hexecutor : ∀ origin program hash limit credit,
      Exec.Leaves (NoMore issuance) (host.executeXcmInCredit origin program hash limit credit))
    (sender : Bytes32) (what : MultiAsset) (dest : MultiLocation) (maxWeight : Option Weight) :
    Exec.Leaves (NoMore issuance)
      (XcmBridge.transfer (xcmBridgeConfig host) sender what dest maxWeight) := by
  have hrefl : ∀ state : State L, NoMore issuance state state := fun _ _ => Nat.le_refl _
  have htrans : ∀ state middle final : State L, NoMore issuance state middle →
      NoMore issuance middle final → NoMore issuance state final := fun _ _ _ => .trans
  refine (Exec.leaves_okOr hrefl _ _).bind htrans fun _ => ?_
  refine (Exec.leaves_ensure hrefl _ _).bind htrans fun _ => ?_
  refine (Exec.leaves_orPanic hrefl _).bind htrans fun _ => ?_
  refine (Exec.leaves_orPanic hrefl _).bind htrans fun _ => ?_
  refine (Exec.leaves_lift hrefl _).bind htrans fun _ => ?_
  refine Exec.Leaves.bind htrans ?_ fun _ => event_issues _
  exact (Exec.leaves_okOr hrefl _ _).bind htrans fun _ => (hexecutor _ _ _ _ _).mapErr

/-- Forwarding a deposit issues no more than depositing it does: the Sygma bridge and the XCM
bridge take it from the temporary account. -/
theorem forwarding_supplies (hlocal : Supplies (localTransactor host) issuance (keyOf host))
    (hexecutor : ∀ origin program hash limit credit,
      Exec.Leaves (NoMore issuance) (host.executeXcmInCredit origin program hash limit credit)) :
    Supplies (assetTransactor host).transactAsset issuance (keyOf host) where
  withdrawn := hlocal.withdrawn
  withdraws := hlocal.withdraws
  deposits := by
    intro id key hkey amount who
    have habsorb : ∀ state middle final : State L,
        AtMostMore issuance key amount.toNat state middle → NoMore issuance middle final →
        AtMostMore issuance key amount.toNat state final :=
      fun _ _ _ hfirst hsecond other => (hsecond other).trans (hfirst other)
    have htrans : ∀ state middle final : State L, NoMore issuance state middle →
        NoMore issuance middle final → NoMore issuance state final := fun _ _ _ => .trans
    show Exec.Leaves _ ((assetTransactor host).depositAsset ⟨id, .fungible amount⟩ who)
    unfold XcmAssetTransactor.depositAsset
    cases BridgeForwarder.routeOf who with
    | localChain => exact hlocal.deposits hkey amount who
    | otherWorld =>
        refine (hlocal.deposits hkey amount _).bind_absorb habsorb fun _ => Exec.Leaves.mapErr ?_
        refine Exec.Leaves.bind htrans ?_ fun _ => event_issues _
        exact (bridge_reserved hlocal).deposit_issues _ _ _
    | remoteChain =>
        refine (hlocal.deposits hkey amount _).bind_absorb habsorb fun _ => Exec.Leaves.mapErr ?_
        refine Exec.Leaves.bind htrans ?_ fun _ => event_issues _
        exact xcm_issues hexecutor _ _ _ _

/-- On the parachain runtime too nothing that happens through the bridge raises a total issuance,
over any run and whatever fails in it, also where a payout is forwarded to the Sygma bridge itself
or to the XCM bridge, as long as the XCM executor issues nothing. -/
theorem parachain_never_mints (hhost : Adapts host accounts balances assets)
    (hbalances : balances.Bounded issuance fun _ => none) (hassets : assets.Bounded issuance some)
    (hexecutor : ∀ origin program hash limit credit,
      Exec.Leaves (NoMore issuance) (host.executeXcmInCredit origin program hash limit credit))
    {start final : Point L} {trace : List (Entry L)}
    (hrun : Run (Step (config host)) start trace final)
    (hexternal : ∀ entry ∈ trace, ∀ ledger, entry.action ≠ .external ledger)
    (key : Option U32) :
    issuance final.state.ledger key ≤ issuance start.state.ledger key :=
  (bridge_reserved (forwarding_supplies (local_supplies hhost hbalances hassets)
    hexecutor)).run_issues hrun hexternal key

end Issued

/-- The parachain over a pallet for the currency and one for the foreign assets, without an XCM
executor. -/
def adaptedHost : Host (Option U32 → Nat) where
  toHost := Standalone.constantHost
  parachainId := 2004
  blake2256 _ := Vector.replicate 32 2
  encodeMultiLocation _ := []
  currencyTransactor :=
    (currencyTransactor locationToAccountId (Standalone.totalsPallet fun _ => none)).lift
  fungiblesTransactor :=
    (fungiblesTransactor locationToAccountId (Standalone.totalsPallet some)).lift
  weigher _ := none
  executeXcmInCredit _ _ _ _ _ := pure ()
  hashOf _ := Vector.replicate 32 3
  reanchored _ _ _ := none

/-- A parachain with a signer and an open domain. -/
def adaptedState : State (Option U32 → Nat) :=
  dispatchAll (config adaptedHost)
    [(.root, .setMpcAddress Standalone.constantSigner), (.root, .registerDomain 1 1)]
    (.genesis 1 fun _ => 5000)

/-- A payout of a thousand USDT to the relay chain, which is forwarded to the XCM bridge. -/
def usdtPayout : Proposal := ⟨1, 1, Standalone.resource 3 0, createDepositData 1000000000 [1, 0]⟩

/-- The payout reaches the temporary account and fails there, and no USDT comes into being. -/
theorem parachain_never_mints_payout :
    ∃ after, executeOne (config adaptedHost) usdtPayout adaptedState = (.ok (), after) ∧
      (executeProposalInternal (config adaptedHost) usdtPayout adaptedState).1 =
        .error (.error (.bridge .transactFailed)) ∧
      adaptedState.ledger (some 2000) = 5000 ∧
      after.ledger (some 2000) ≤ adaptedState.ledger (some 2000) := by
  have hexecute : executeOne (config adaptedHost) usdtPayout adaptedState =
      (.ok (), (executeOne (config adaptedHost) usdtPayout adaptedState).2) :=
    Prod.ext (by decide +kernel) rfl
  have hstep : Step (config adaptedHost) ⟨adaptedState, [usdtPayout]⟩ _ ⟨_, []⟩ :=
    .proposal hexecute
  refine ⟨_, hexecute, by decide +kernel, by decide +kernel, ?_⟩
  refine parachain_never_mints ⟨rfl, rfl⟩ (Standalone.totals_bounded fun _ => none)
    (Standalone.totals_bounded some) (fun _ _ _ _ _ _ _ => Nat.le_refl _) (.snoc .refl hstep) ?_
    (some 2000)
  intro entry hmem ledger haction
  obtain rfl := List.mem_singleton.mp hmem
  cases haction

/-! ### The native token -/

/-- The resource id that the native token is bound to. -/
def nativeResourceId : ResourceId := Standalone.resource 0 1

variable {accounts : LocationToAccount} {balances : BalancePallet L Unit}

/-- The native token is withdrawn through the currency transactor, which does not know it. -/
theorem withdraw_native_refused
    (hcurrency : host.currencyTransactor = (currencyTransactor accounts balances).lift)
    (amount : U128) (who : MultiLocation) (state : State L) :
    (config host).assetTransactor.withdrawAsset
        ⟨.concrete Standalone.nativeLocation, .fungible amount⟩ who state =
      (.error (.error .assetNotFound), state) := by
  have hkeeper : (assetTransactor host).keeper
      ⟨.concrete Standalone.nativeLocation, .fungible amount⟩ = host.currencyTransactor :=
    if_pos rfl
  show ((assetTransactor host).keeper _).withdrawAsset _ who state = _
  rw [hkeeper, hcurrency]
  rfl

/-- Only the native token is bound to its resource id. -/
theorem native_bound {id : AssetId} (h : (id, nativeResourceId) ∈ resourcePairs) :
    id = .concrete Standalone.nativeLocation := by
  simp only [resourcePairs, List.mem_cons, List.not_mem_nil, or_false, Prod.mk.injEq] at h
  rcases h with ⟨rfl, -⟩ | ⟨-, hresource⟩ | ⟨-, hresource⟩ | ⟨-, hresource⟩
  · rfl
  all_goals exact absurd hresource (by decide +kernel)

/-- No deposit is made for the resource of the native token. -/
theorem native_not_deposited
    (hcurrency : host.currencyTransactor = (currencyTransactor accounts balances).lift)
    {origin : Origin} {asset : MultiAsset} {dest : MultiLocation} {receipt : Receipt}
    {state moved : State L} (h : Deposits (config host) origin asset dest receipt state moved) :
    receipt.resourceId ≠ nativeResourceId := by
  intro hresource
  obtain ⟨hasset, -, hmem⟩ := extract_asset_some h.bound
  rw [hresource] at hmem
  obtain ⟨_, paid, hwithdraw, -⟩ := Exec.bind_ok.mp h.collected
  have hpaid := Exec.mapErr_ok.mp hwithdraw
  rw [hasset, native_bound hmem, withdraw_native_refused hcurrency] at hpaid
  cases hpaid

/-- A proposal for the resource of the native token fails before anything is moved. -/
theorem native_not_paid
    (hcurrency : host.currencyTransactor = (currencyTransactor accounts balances).lift)
    {proposal : Proposal} (hresource : proposal.resourceId = nativeResourceId) (state : State L) :
    ∃ fault, executeProposalInternal (config host) proposal state = (.error fault, state) := by
  rw [execute_proposal_internal_eq]
  cases hresolve : resolve (config host) state.storage proposal with
  | error fault => exact ⟨fault, rfl⟩
  | ok payout =>
      obtain ⟨-, -, -, id, amount, hbound, -, hconvert, -⟩ := resolve_ok.mp hresolve
      obtain ⟨asset, location, reserve⟩ := payout
      rw [hresource] at hbound
      obtain rfl := native_bound (rid_to_assetid_mem hbound)
      have hfrom : convertFrom host.debugAssertions assetDecimalPairs
          ⟨.concrete Standalone.nativeLocation, .fungible amount⟩ = .ok (some asset) := hconvert
      obtain ⟨_, converted, -, hasset, -⟩ := convert_from_le hfrom
      cases hasset
      refine ⟨.error (.bridge .transactFailed), Exec.bind_error.mpr (.inl ?_)⟩
      exact Exec.mapErr_error.mpr ⟨_, withdraw_native_refused hcurrency _ _ _, rfl⟩

/-- On the parachain runtime the resource of the native token is dead: in every run no deposit event
carries its id, and every proposal for it fails and leaves everything but the log as it was. -/
theorem native_resource_dead
    (hcurrency : host.currencyTransactor = (currencyTransactor accounts balances).lift)
    (hconfined : Confined (config host)) {start final : Point L} {trace : List (Entry L)}
    (hrun : Run (Step (config host)) start trace final) :
    (∃ added, final.state.events = start.state.events ++ added ∧
      ∀ dest nonce sender transferType data response,
        .deposit dest nativeResourceId nonce sender transferType data response ∉ added) ∧
      ∀ entry ∈ trace, ∀ proposal, entry.action = .proposal proposal →
        proposal.resourceId = nativeResourceId →
        ∃ error, entry.outcome = .error (.error error) ∧
          entry.after = entry.before.put entry.before.storage [failureEvent error proposal] := by
  refine ⟨?_, ?_⟩
  · refine hrun.invariant (fun point => ∃ added, point.state.events = start.state.events ++ added ∧
      ∀ dest nonce sender transferType data response,
        .deposit dest nativeResourceId nonce sender transferType data response ∉ added)
      ⟨[], by simp⟩ ?_
    rintro before entry after hstep ⟨added, hevents, hclean⟩
    obtain ⟨more, hmore, hissued⟩ := (hstep.effect hconfined).extends_
    refine ⟨added ++ more, by rw [hmore, hevents, List.append_assoc], ?_⟩
    intro dest nonce sender transferType data response hmem
    rcases List.mem_append.mp hmem with hmem | hmem
    · exact hclean _ _ _ _ _ _ hmem
    · obtain ⟨-, -, -, asset, receipt, left, hleft, -⟩ := hissued _ hmem dest nonce rfl
      obtain ⟨origin, target, reached, moved, -, hdeposits, -, hevent⟩ := hleft
      injection hevent with _ hresource
      exact native_not_deposited hcurrency hdeposits hresource.symm
  · intro entry hmem proposal haction hresource
    obtain ⟨before, after, hstep⟩ := hrun.exists_step hmem
    cases hstep with
    | proposal hexecute =>
        rename_i rest before after
        cases haction
        obtain ⟨fault, hfails⟩ := native_not_paid hcurrency hresource before
        rw [hfails]
        rcases execute_one_ok.mp hexecute with ⟨paid, hpaid, -⟩ | ⟨error, left, hleft, rfl⟩
        · cases hfails.symm.trans hpaid
        · cases hfails.symm.trans hleft
          exact ⟨error, rfl, rfl⟩
    | call | batch | transfer | upgrade | external => cases haction

theorem adapted_confined : Confined (config adaptedHost) :=
  confined ⟨fun _ _ => on_ledger_moves _, fun _ _ => on_ledger_moves _⟩
    ⟨fun _ _ => on_ledger_moves _, fun _ _ => on_ledger_moves _⟩ fun _ _ _ _ _ _ => .refl

/-- A payout of a thousand of the native token, to the treasury. -/
def nativePayout : Proposal :=
  ⟨1, 1, nativeResourceId, createDepositData 1000000000
    (MultiLocation.codec.encode (.ofAccount Standalone.treasuryAccount))⟩

/-- The payout passes every check and is covered, and still fails. -/
theorem native_resource_dead_payout :
    (∃ payout, resolve (config adaptedHost) adaptedState.storage nativePayout = .ok payout ∧
      payout.asset = ⟨.concrete Standalone.nativeLocation, .fungible 1000⟩) ∧
    adaptedState.ledger none = 5000 ∧
    ∃ error after, executeOne (config adaptedHost) nativePayout adaptedState = (.ok (), after) ∧
      after = adaptedState.put adaptedState.storage [failureEvent error nativePayout] := by
  have hexecute : executeOne (config adaptedHost) nativePayout adaptedState =
      (.ok (), (executeOne (config adaptedHost) nativePayout adaptedState).2) :=
    Prod.ext (by decide +kernel) rfl
  have hstep : Step (config adaptedHost) ⟨adaptedState, [nativePayout]⟩ _ ⟨_, []⟩ :=
    .proposal hexecute
  obtain ⟨-, hdead⟩ := native_resource_dead rfl adapted_confined (.snoc .refl hstep)
  obtain ⟨error, -, hafter⟩ := hdead _ (List.mem_singleton_self _) nativePayout rfl rfl
  refine ⟨⟨⟨⟨.concrete Standalone.nativeLocation, .fungible 1000⟩,
    .ofAccount Standalone.treasuryAccount, Standalone.bridgeAccountNative⟩, ?_, rfl⟩,
    by decide +kernel, error, _, hexecute, hafter⟩
  exact resolve_ok.mpr ⟨by decide +kernel, by decide +kernel, by decide +kernel,
    .concrete Standalone.nativeLocation, 1000000000, by decide +kernel, by decide +kernel,
    by decide +kernel, by decide +kernel, by decide⟩

end Parachain

end Sygma
