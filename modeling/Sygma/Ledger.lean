import Mathlib.Algebra.BigOperators.Group.Finset.Piecewise
import Mathlib.Data.Fintype.Pi
import Sygma.Config

/-!
# Ledgers

`KeyedLedger` is what is asked of a ledger whose balances are kept by asset and account: what the
calls of its transactor do to the balances when they succeed. `IssuingLedger` adds the total
issuance of each asset, which a withdrawal lowers and a deposit raises; the sum of all balances is
one. `PooledLedger` is the same for a ledger on which one balance can have several names: each
asset belongs to a pool, and the balances are kept by pool.

`PlainLedger` is the simplest ledger: a deposit to a location that resolves to an account always
succeeds and any other fails, and a withdrawal succeeds exactly when the balance suffices. It has no
minimum balances, which the pallets of the runtimes have: results over it are about amounts that
those do not come into.
-/

namespace Sygma

/-- A view of a ledger as balances by asset and account. A withdrawal from an account takes the
amount out of its balance, a deposit to an account puts it there, both touch no other balance, and
no deposit lowers any balance. -/
structure KeyedLedger {L : Type} (transactor : LedgerTransactor L) where
  balance : L → AssetId → AccountId → Nat
  withdraw : ∀ {id amount account ledger final},
    transactor.withdrawAsset ⟨id, .fungible amount⟩ (.ofAccount account) ledger =
      (.ok (), final) →
    balance ledger id account = balance final id account + amount.toNat ∧
      ∀ otherId other, (otherId, other) ≠ (id, account) →
        balance final otherId other = balance ledger otherId other
  depositAccount : ∀ {id amount account ledger final},
    transactor.depositAsset ⟨id, .fungible amount⟩ (.ofAccount account) ledger =
      (.ok (), final) →
    balance final id account = balance ledger id account + amount.toNat ∧
      ∀ otherId other, (otherId, other) ≠ (id, account) →
        balance final otherId other = balance ledger otherId other
  deposit : ∀ {id amount who ledger final},
    transactor.depositAsset ⟨id, .fungible amount⟩ who ledger = (.ok (), final) →
    ∀ otherId other, balance ledger otherId other ≤ balance final otherId other

section Keyed

variable {L : Type} {transactor : LedgerTransactor L}

/-- What a withdrawal takes out of every balance. -/
theorem KeyedLedger.withdraw_balance (view : KeyedLedger transactor) {id : AssetId}
    {amount : U128} {account : AccountId} {ledger final : L}
    (h : transactor.withdrawAsset ⟨id, .fungible amount⟩ (.ofAccount account) ledger =
      (.ok (), final)) (otherId : AssetId) (other : AccountId) :
    view.balance final otherId other +
        (if otherId = id ∧ other = account then amount.toNat else 0) =
      view.balance ledger otherId other := by
  obtain ⟨hsame, hothers⟩ := view.withdraw h
  by_cases hkey : otherId = id ∧ other = account
  · obtain ⟨rfl, rfl⟩ := hkey
    simpa using hsame.symm
  · have hne : (otherId, other) ≠ (id, account) := fun heq => hkey (Prod.mk.inj heq)
    simpa [hkey] using hothers otherId other hne

/-- What a deposit to an account adds to every balance. -/
theorem KeyedLedger.deposit_balance (view : KeyedLedger transactor) {id : AssetId}
    {amount : U128} {account : AccountId} {ledger final : L}
    (h : transactor.depositAsset ⟨id, .fungible amount⟩ (.ofAccount account) ledger =
      (.ok (), final)) (otherId : AssetId) (other : AccountId) :
    view.balance final otherId other = view.balance ledger otherId other +
      (if otherId = id ∧ other = account then amount.toNat else 0) := by
  obtain ⟨hsame, hothers⟩ := view.depositAccount h
  by_cases hkey : otherId = id ∧ other = account
  · obtain ⟨rfl, rfl⟩ := hkey
    simpa using hsame
  · have hne : (otherId, other) ≠ (id, account) := fun heq => hkey (Prod.mk.inj heq)
    simpa [hkey] using hothers otherId other hne

/-- A view of a ledger that also counts how much of each asset there is. A withdrawal destroys the
amount it takes, and a deposit to an account creates the amount it puts there. -/
structure IssuingLedger {L : Type} (transactor : LedgerTransactor L) extends
    KeyedLedger transactor where
  issuance : L → AssetId → Nat
  burn : ∀ {id amount account ledger final},
    transactor.withdrawAsset ⟨id, .fungible amount⟩ (.ofAccount account) ledger =
      (.ok (), final) →
    ∀ otherId, issuance final otherId + (if otherId = id then amount.toNat else 0) =
      issuance ledger otherId
  mint : ∀ {id amount account ledger final},
    transactor.depositAsset ⟨id, .fungible amount⟩ (.ofAccount account) ledger =
      (.ok (), final) →
    ∀ otherId, issuance final otherId =
      issuance ledger otherId + (if otherId = id then amount.toNat else 0)

/-- There are finitely many accounts. -/
noncomputable instance accountFintype : Fintype AccountId :=
  Fintype.ofInjective (fun account : AccountId => fun index : Fin 32 => (account.get index).toFin)
    fun _ _ h => Vector.ext fun index hindex =>
      BitVec.eq_of_toFin_eq (congrFun h ⟨index, hindex⟩)

/-- The sum of all balances as the total issuance. -/
noncomputable def KeyedLedger.issuing (view : KeyedLedger transactor) :
    IssuingLedger transactor where
  toKeyedLedger := view
  issuance ledger id := ∑ account : AccountId, view.balance ledger id account
  burn := by
    intro id amount account ledger final h otherId
    have hsum : ∑ other : AccountId, (view.balance final otherId other +
        (if otherId = id ∧ other = account then amount.toNat else 0)) =
          ∑ other : AccountId, view.balance ledger otherId other :=
      Finset.sum_congr rfl fun other _ => view.withdraw_balance h otherId other
    rw [Finset.sum_add_distrib] at hsum
    rw [← hsum]
    by_cases hid : otherId = id <;> simp [hid]
  mint := by
    intro id amount account ledger final h otherId
    have hsum : ∑ other : AccountId, view.balance final otherId other =
        ∑ other : AccountId, (view.balance ledger otherId other +
          (if otherId = id ∧ other = account then amount.toNat else 0)) :=
      Finset.sum_congr rfl fun other _ => view.deposit_balance h otherId other
    rw [hsum, Finset.sum_add_distrib]
    by_cases hid : otherId = id <;> simp [hid]

end Keyed

/-! ## Pools -/

section Pooled

variable {L K : Type}

/-- What a ledger holds: the balances of each pool, and how much there is in it. -/
structure Holdings (L K : Type) where
  balance : L → K → AccountId → Nat
  issuance : L → K → Nat

/-- A ledger holds what another one held. -/
structure Holdings.Same (holdings : Holdings L K) (ledger final : L) : Prop where
  balance : ∀ key account, holdings.balance final key account = holdings.balance ledger key account
  issuance : ∀ key, holdings.issuance final key = holdings.issuance ledger key

theorem Holdings.Same.refl (holdings : Holdings L K) (ledger : L) : holdings.Same ledger ledger :=
  ⟨fun _ _ => rfl, fun _ => rfl⟩

variable [DecidableEq K]

/-- An amount, in one pool only. -/
def amountOf (pool : K) (amount : Nat) (key : K) : Nat :=
  if key = pool then amount else 0

/-- An amount, in one pool and at one account only. -/
def amountIn (pool : K) (account : AccountId) (amount : Nat) (key : K) (other : AccountId) : Nat :=
  if key = pool ∧ other = account then amount else 0

@[simp] theorem amountIn_self (pool : K) (account : AccountId) (amount : Nat) :
    amountIn pool account amount pool account = amount := by
  simp [amountIn]

theorem amountIn_of_ne {pool key : K} {account other : AccountId}
    (h : (key, other) ≠ (pool, account)) (amount : Nat) :
    amountIn pool account amount key other = 0 := by
  have hnot : ¬ (key = pool ∧ other = account) := fun ⟨hkey, hother⟩ => h (by rw [hkey, hother])
  simp [amountIn, hnot]

/-- When one account gets an amount and, under a condition, another gets a second one, both have
what they got and no other balance has changed. -/
theorem balances_of_credits {before after : K → AccountId → Nat} {pool second : K}
    {account other : AccountId} {amount rest : Nat} {condition : Bool} (hne : account ≠ other)
    (h : ∀ key holder, after key holder = before key holder +
      amountIn pool account amount key holder +
      if condition then amountIn second other rest key holder else 0) :
    after pool account = before pool account + amount ∧
    (condition = true → after second other = before second other + rest) ∧
    ∀ key holder, (key, holder) ≠ (pool, account) →
      (condition = true → (key, holder) ≠ (second, other)) →
      after key holder = before key holder := by
  refine ⟨?_, ?_, ?_⟩
  · have hnot : (pool, account) ≠ (second, other) := fun heq => hne (congrArg Prod.snd heq)
    rw [h, amountIn_self, amountIn_of_ne hnot, ite_self, Nat.add_zero]
  · intro hcondition
    have hnot : (second, other) ≠ (pool, account) := fun heq => hne (congrArg Prod.snd heq).symm
    rw [h, amountIn_self, amountIn_of_ne hnot, if_pos hcondition, Nat.add_zero]
  · intro key holder hfirst hsecond
    rw [h, amountIn_of_ne hfirst, Nat.add_zero]
    split
    · rename_i hcondition
      rw [amountIn_of_ne (hsecond hcondition), Nat.add_zero]
    · rfl

/-- Two calls keep an amount in a pool: the one takes it out of the balance of an account, the other
puts it there, and both touch nothing else. -/
structure KeepsIn (holdings : Holdings L K) (pool : K) (amount : Nat)
    (withdraw deposit : MultiLocation → L → Except XcmError Unit × L) : Prop where
  withdrawn : ∀ {account ledger final}, withdraw (.ofAccount account) ledger = (.ok (), final) →
    ∀ key other, holdings.balance final key other + amountIn pool account amount key other =
      holdings.balance ledger key other
  deposited : ∀ {account ledger final}, deposit (.ofAccount account) ledger = (.ok (), final) →
    ∀ key other, holdings.balance final key other =
      holdings.balance ledger key other + amountIn pool account amount key other
  burned : ∀ {account ledger final}, withdraw (.ofAccount account) ledger = (.ok (), final) →
    ∀ key, holdings.issuance final key + amountOf pool amount key = holdings.issuance ledger key
  minted : ∀ {account ledger final}, deposit (.ofAccount account) ledger = (.ok (), final) →
    ∀ key, holdings.issuance final key = holdings.issuance ledger key + amountOf pool amount key

/-- A view of a ledger as balances by pool and account: every asset is kept in its pool. -/
structure PooledLedger (holdings : Holdings L K) (transactor : LedgerTransactor L) where
  pool : MultiAsset → K
  keeps : ∀ id amount, KeepsIn holdings (pool ⟨id, .fungible amount⟩) amount.toNat
    (transactor.withdrawAsset ⟨id, .fungible amount⟩)
    (transactor.depositAsset ⟨id, .fungible amount⟩)

/-- What a view by asset and account says of a ledger, with a pool for each asset. -/
def IssuingLedger.holdings {transactor : LedgerTransactor L} (view : IssuingLedger transactor) :
    Holdings L AssetId where
  balance := view.balance
  issuance := view.issuance

/-- A view by asset and account is one by pools. -/
def IssuingLedger.pooled {transactor : LedgerTransactor L} (view : IssuingLedger transactor) :
    PooledLedger view.holdings transactor where
  pool asset := asset.id
  keeps _ _ :=
    { withdrawn := fun h key other => view.withdraw_balance h key other
      deposited := fun h key other => view.deposit_balance h key other
      burned := fun h key => view.burn h key
      minted := fun h key => view.mint h key }

/-- The transactor that uses one of two others, by a check of the asset. -/
def LedgerTransactor.choose (check : MultiAsset → Bool) (first second : LedgerTransactor L) :
    LedgerTransactor L where
  withdrawAsset asset := (if check asset then first else second).withdrawAsset asset
  depositAsset asset := (if check asset then first else second).depositAsset asset

/-- If two transactors move the same holdings, so does the choice between them. -/
def PooledLedger.choose {holdings : Holdings L K} {first second : LedgerTransactor L}
    (check : MultiAsset → Bool) (firstView : PooledLedger holdings first)
    (secondView : PooledLedger holdings second) :
    PooledLedger holdings (.choose check first second) where
  pool asset := if check asset then firstView.pool asset else secondView.pool asset
  keeps id amount := by
    simp only [LedgerTransactor.choose]
    split_ifs
    · exact firstView.keeps id amount
    · exact secondView.keeps id amount

/-- A deposit leaves the holdings as they were only if nothing is deposited. -/
theorem PooledLedger.same_iff {holdings : Holdings L K} {transactor : LedgerTransactor L}
    (view : PooledLedger holdings transactor) {id : AssetId} {amount : U128} {account : AccountId}
    {ledger final : L}
    (h : transactor.depositAsset ⟨id, .fungible amount⟩ (.ofAccount account) ledger =
      (.ok (), final)) : holdings.Same ledger final ↔ amount.toNat = 0 := by
  constructor
  · intro hsame
    have hbalance := (view.keeps id amount).deposited h (view.pool ⟨id, .fungible amount⟩) account
    rw [hsame.balance, amountIn_self] at hbalance
    omega
  · intro hzero
    refine ⟨?_, ?_⟩
    · intro key other
      rw [(view.keeps id amount).deposited h, hzero]
      simp [amountIn]
    · intro key
      rw [(view.keeps id amount).minted h, hzero]
      simp [amountOf]

end Pooled

/-- How a chain turns locations into accounts. The location of a local account is that account. -/
structure LocationToAccount where
  convert : MultiLocation → Option AccountId
  convert_of_account : ∀ account, convert (.ofAccount account) = some account

/-- Balances by asset and account. -/
@[ext] structure PlainLedger where
  balance : AssetId → AccountId → Nat

namespace PlainLedger

/-- The ledger on which nobody holds anything. -/
def empty : PlainLedger := ⟨fun _ _ => 0⟩

/-- Add an amount to a balance. -/
def credit (ledger : PlainLedger) (asset : AssetId) (account : AccountId) (amount : Nat) :
    PlainLedger :=
  ⟨fun otherAsset other =>
    if otherAsset = asset ∧ other = account then ledger.balance asset account + amount
    else ledger.balance otherAsset other⟩

/-- Take an amount out of a balance. -/
def debit (ledger : PlainLedger) (asset : AssetId) (account : AccountId) (amount : Nat) :
    PlainLedger :=
  ⟨fun otherAsset other =>
    if otherAsset = asset ∧ other = account then ledger.balance asset account - amount
    else ledger.balance otherAsset other⟩

theorem credit_balance (ledger : PlainLedger) (asset otherAsset : AssetId)
    (account other : AccountId) (amount : Nat) :
    (ledger.credit asset account amount).balance otherAsset other =
      ledger.balance otherAsset other +
        if otherAsset = asset ∧ other = account then amount else 0 := by
  unfold credit
  by_cases hsame : otherAsset = asset ∧ other = account
  · obtain ⟨rfl, rfl⟩ := hsame
    simp
  · simp [hsame]

/-- What was taken out of a balance that sufficed is missing there, and nowhere else. -/
theorem debit_balance {ledger : PlainLedger} {asset : AssetId} {account : AccountId} {amount : Nat}
    (h : amount ≤ ledger.balance asset account) (otherAsset : AssetId) (other : AccountId) :
    (ledger.debit asset account amount).balance otherAsset other +
        (if otherAsset = asset ∧ other = account then amount else 0) =
      ledger.balance otherAsset other := by
  unfold debit
  by_cases hsame : otherAsset = asset ∧ other = account
  · obtain ⟨rfl, rfl⟩ := hsame
    simp only [and_self, if_true]
    omega
  · simp [hsame]

/-- The transactor of the plain ledger. -/
def transactor (accounts : LocationToAccount) : LedgerTransactor PlainLedger where
  withdrawAsset asset who ledger :=
    match asset.fun_, accounts.convert who with
    | .fungible amount, some account =>
        if amount.toNat ≤ ledger.balance asset.id account then
          (.ok (), ledger.debit asset.id account amount.toNat)
        else (.error (.failedToTransactAsset "InsufficientBalance"), ledger)
    | _, _ => (.error .assetNotFound, ledger)
  depositAsset asset who ledger :=
    match asset.fun_, accounts.convert who with
    | .fungible amount, some account => (.ok (), ledger.credit asset.id account amount.toNat)
    | _, _ => (.error .assetNotFound, ledger)

/-- A call on the plain ledger that fails leaves it as it was. -/
theorem transactor_atomic (accounts : LocationToAccount) : (transactor accounts).Atomic where
  withdraw asset who ledger error final h := by
    simp only [transactor] at h
    split at h
    · split at h
      · cases h
      · cases h
        rfl
    · cases h
      rfl
  deposit asset who ledger error final h := by
    simp only [transactor] at h
    split at h
    · cases h
    · cases h
      rfl

/-- The balances of the plain ledger. -/
def keyed (accounts : LocationToAccount) : KeyedLedger (transactor accounts) where
  balance := PlainLedger.balance
  withdraw := by
    intro id amount account ledger final h
    simp only [transactor, accounts.convert_of_account] at h
    split at h
    · rename_i henough
      cases h
      have hbalance := debit_balance henough
      refine ⟨?_, ?_⟩
      · simpa using (hbalance id account).symm
      · intro otherId other hne
        have hnot : ¬ (otherId = id ∧ other = account) := fun ⟨hid, haccount⟩ =>
          hne (by rw [hid, haccount])
        simpa [hnot] using hbalance otherId other
    · cases h
  depositAccount := by
    intro id amount account ledger final h
    simp only [transactor, accounts.convert_of_account] at h
    cases h
    refine ⟨by simp [credit_balance], ?_⟩
    intro otherId other hne
    have hnot : ¬ (otherId = id ∧ other = account) := fun ⟨hid, haccount⟩ =>
      hne (by rw [hid, haccount])
    simp [credit_balance, hnot]
  deposit := by
    intro id amount who ledger final h otherId other
    simp only [transactor] at h
    cases hwho : accounts.convert who with
    | none => simp [hwho] at h
    | some account =>
        simp only [hwho] at h
        cases h
        rw [credit_balance]
        exact Nat.le_add_right _ _

end PlainLedger

end Sygma
