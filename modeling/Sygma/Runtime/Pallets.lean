import Sygma.Runtime.Parachain

/-!
# The pallets that keep the assets

How the runtimes keep assets. A pallet keeps balances by class: the native currency has one, and the
pallet of foreign assets has one per asset id. An adapter matches an asset to a class of its pallet
and refuses what it cannot match, and a runtime that has several adapters tries them in order.

The two pallets have minimum balances. What is left of a balance below the minimum is removed with
its account, and an account is not opened by an amount below the minimum: the currency swallows such
a deposit without an error, and the pallet of foreign assets refuses it. `Draws` and `Credits` say
what that means for a withdrawal and for a deposit, also of a ledger without a minimum, and
`pallet_draws` and `pallet_credits` that the adapters over the two pallets do so.
-/

namespace Sygma

open Bridge

variable {L C K : Type}

/-! ## Matching -/

/-- Why an adapter does not serve a call. -/
inductive MatchError where
  | assetNotHandled
  | accountIdConversionFailed

/-- The error an adapter reports. -/
def MatchError.xcmError : MatchError → XcmError
  | .assetNotHandled => .assetNotFound
  | .accountIdConversionFailed => .failedToTransactAsset "AccountIdConversionFailed"

/-- The amount of the fungible asset that is identified by a location. -/
def isConcrete (location : MultiLocation) (asset : MultiAsset) : Except MatchError (Unit × U128) :=
  match asset.id, asset.fun_ with
  | .concrete id, .fungible amount =>
      if id = location then .ok ((), amount) else .error .assetNotHandled
  | _, _ => .error .assetNotHandled

/-- The class and the amount of a foreign asset, where the first of the three known assets differs
between the runtimes. -/
def matchesFungibles (first : MultiLocation) (asset : MultiAsset) :
    Except MatchError (U32 × U128) :=
  match asset.fun_, asset.id with
  | .fungible amount, .concrete id =>
      if id = first then .ok (2000, amount)
      else if id = Standalone.erc20TstLocation then .ok (2001, amount)
      else if id = Standalone.erc20TstD20Location then .ok (2002, amount)
      else .error .assetNotHandled
  | _, _ => .error .assetNotHandled

def Standalone.simpleForeignAssetConverter (asset : MultiAsset) :
    Except MatchError (U32 × U128) :=
  matchesFungibles Standalone.usdcLocation asset

def Parachain.simpleForeignAssetConverter (asset : MultiAsset) :
    Except MatchError (U32 × U128) :=
  matchesFungibles Parachain.usdtLocation asset

/-! ## Adapters -/

/-- What an adapter uses of a pallet that keeps balances by class. -/
structure BalancePallet (L C : Type) where
  withdraw : C → AccountId → U128 → L → Except XcmError Unit × L
  deposit : C → AccountId → U128 → L → Except XcmError Unit × L

/-- An adapter: match the asset, convert the location, and call the pallet. -/
def adapter (matcher : MultiAsset → Except MatchError (C × U128)) (accounts : LocationToAccount)
    (pallet : BalancePallet L C) : LedgerTransactor L where
  withdrawAsset what who ledger :=
    match matcher what, accounts.convert who with
    | .error error, _ => (.error error.xcmError, ledger)
    | .ok _, none => (.error MatchError.accountIdConversionFailed.xcmError, ledger)
    | .ok (class_, amount), some account => pallet.withdraw class_ account amount ledger
  depositAsset what who ledger :=
    match matcher what, accounts.convert who with
    | .error error, _ => (.error error.xcmError, ledger)
    | .ok _, none => (.error MatchError.accountIdConversionFailed.xcmError, ledger)
    | .ok (class_, amount), some account => pallet.deposit class_ account amount ledger

/-- Two transactors tried in order: the second is asked when the first does not know the asset. -/
def LedgerTransactor.orElse (first second : LedgerTransactor L) : LedgerTransactor L where
  withdrawAsset what who ledger :=
    match first.withdrawAsset what who ledger with
    | (.error .assetNotFound, left) => second.withdrawAsset what who left
    | result => result
  depositAsset what who ledger :=
    match first.depositAsset what who ledger with
    | (.error .assetNotFound, left) => second.depositAsset what who left
    | result => result

/-- The transactors of the standalone runtime: the native currency, then the foreign assets. -/
def Standalone.assetTransactors (accounts : LocationToAccount) (balances : BalancePallet L Unit)
    (assets : BalancePallet L U32) : LedgerTransactor L :=
  (adapter (isConcrete Standalone.nativeLocation) accounts balances).orElse
    (adapter Standalone.simpleForeignAssetConverter accounts assets)

/-- The currency transactor of the parachain runtime, which matches the token of the relay chain. -/
def Parachain.currencyTransactor (accounts : LocationToAccount) (balances : BalancePallet L Unit) :
    LedgerTransactor L :=
  adapter (isConcrete .parent) accounts balances

/-- The fungibles transactor of the parachain runtime. -/
def Parachain.fungiblesTransactor (accounts : LocationToAccount) (assets : BalancePallet L U32) :
    LedgerTransactor L :=
  adapter Parachain.simpleForeignAssetConverter accounts assets

/-- A call of the pallet that fails leaves the ledger as it was. -/
structure BalancePallet.Atomic (pallet : BalancePallet L C) : Prop where
  withdraw : ∀ {class_ account amount ledger error final},
    pallet.withdraw class_ account amount ledger = (.error error, final) → final = ledger
  deposit : ∀ {class_ account amount ledger error final},
    pallet.deposit class_ account amount ledger = (.error error, final) → final = ledger

section Adapter

variable {matcher : MultiAsset → Except MatchError (C × U128)} {accounts : LocationToAccount}
  {pallet : BalancePallet L C}

/-- What an adapter matches at an account is left to the pallet. -/
theorem adapter_withdraw {what : MultiAsset} {class_ : C} {amount : U128}
    (hmatch : matcher what = .ok (class_, amount)) (account : AccountId) (ledger : L) :
    (adapter matcher accounts pallet).withdrawAsset what (.ofAccount account) ledger =
      pallet.withdraw class_ account amount ledger := by
  simp only [adapter, hmatch, accounts.convert_of_account]

theorem adapter_deposit {what : MultiAsset} {class_ : C} {amount : U128}
    (hmatch : matcher what = .ok (class_, amount)) (account : AccountId) (ledger : L) :
    (adapter matcher accounts pallet).depositAsset what (.ofAccount account) ledger =
      pallet.deposit class_ account amount ledger := by
  simp only [adapter, hmatch, accounts.convert_of_account]

theorem adapter_atomic (hpallet : pallet.Atomic) : (adapter matcher accounts pallet).Atomic where
  withdraw := by
    intro what who ledger error final h
    simp only [adapter] at h
    split at h
    · cases h
      rfl
    · cases h
      rfl
    · exact hpallet.withdraw h
  deposit := by
    intro what who ledger error final h
    simp only [adapter] at h
    split at h
    · cases h
      rfl
    · cases h
      rfl
    · exact hpallet.deposit h

end Adapter

/-! ## Minimum balances -/

/-- Balances by class and account. The native currency is the class without an asset id. -/
abbrev Accounts := Option U32 → AccountId → Nat

/-- No balances. -/
def Accounts.empty : Accounts := fun _ _ => 0

/-- Change one balance. -/
def Accounts.put (ledger : Accounts) (class_ : Option U32) (account : AccountId) (balance : Nat) :
    Accounts :=
  fun other holder => if other = class_ ∧ holder = account then balance else ledger other holder

/-- What stays of a balance: an account below the minimum is removed. -/
def kept (minimum balance : Nat) : Nat :=
  if balance < minimum then 0 else balance

/-- Take an amount out of a balance. -/
def takeFrom (class_ : Option U32) (minimum : Nat) (account : AccountId) (amount : U128)
    (ledger : Accounts) : Except XcmError Unit × Accounts :=
  if amount = 0 then (.ok (), ledger)
  else if amount.toNat ≤ ledger class_ account then
    (.ok (), ledger.put class_ account (kept minimum (ledger class_ account - amount.toNat)))
  else (.error (.failedToTransactAsset "FundsUnavailable"), ledger)

/-- Put an amount into a balance. An account is not opened by less than the minimum; whether that
is an error differs. -/
def putInto (class_ : Option U32) (minimum : Nat) (refuses : Bool) (account : AccountId)
    (amount : U128) (ledger : Accounts) : Except XcmError Unit × Accounts :=
  if amount = 0 then (.ok (), ledger)
  else if ledger class_ account = 0 ∧ amount.toNat < minimum then
    (if refuses then .error (.failedToTransactAsset "BelowMinimum") else .ok (), ledger)
  else (.ok (), ledger.put class_ account (ledger class_ account + amount.toNat))

theorem take_from_atomic {class_ : Option U32} {minimum : Nat} {account : AccountId}
    {amount : U128} {ledger final : Accounts} {error : XcmError}
    (h : takeFrom class_ minimum account amount ledger = (.error error, final)) :
    final = ledger := by
  unfold takeFrom at h
  split_ifs at h
  all_goals cases h
  rfl

theorem put_into_atomic {class_ : Option U32} {minimum : Nat} {refuses : Bool}
    {account : AccountId} {amount : U128} {ledger final : Accounts} {error : XcmError}
    (h : putInto class_ minimum refuses account amount ledger = (.error error, final)) :
    final = ledger := by
  unfold putInto at h
  split_ifs at h
  all_goals cases h
  rfl

/-- The pallet of the native currency. A deposit that does not open an account is no error. -/
def balancesPallet (existentialDeposit : Nat) : BalancePallet Accounts Unit where
  withdraw _ := takeFrom none existentialDeposit
  deposit _ := putInto none existentialDeposit false

/-- The pallet of foreign assets, with a minimum balance for each asset that exists. -/
def assetsPallet (minBalance : U32 → Option Nat) : BalancePallet Accounts U32 where
  withdraw id account amount ledger :=
    match minBalance id with
    | some minimum => takeFrom (some id) minimum account amount ledger
    | none => (.error (.failedToTransactAsset "UnknownAsset"), ledger)
  deposit id account amount ledger :=
    match minBalance id with
    | some minimum => putInto (some id) minimum true account amount ledger
    | none => (.error (.failedToTransactAsset "UnknownAsset"), ledger)

theorem balances_atomic (existentialDeposit : Nat) :
    (balancesPallet existentialDeposit).Atomic :=
  ⟨take_from_atomic, put_into_atomic⟩

theorem assets_atomic (minBalance : U32 → Option Nat) : (assetsPallet minBalance).Atomic where
  withdraw := by
    intro id account amount ledger error final h
    simp only [assetsPallet] at h
    split at h
    · exact take_from_atomic h
    · cases h
      rfl
  deposit := by
    intro id account amount ledger error final h
    simp only [assetsPallet] at h
    split at h
    · exact put_into_atomic h
    · cases h
      rfl

/-! ## Drawing on a balance and crediting one -/

/-- Withdrawals of the asset draw on one balance of a ledger: the amount is taken whenever it is
there, what the minimum leaves stays, and no other balance changes; a withdrawal that is not covered
is refused with nothing changed. -/
structure Draws (transactor : LedgerTransactor L) (balance : L → K → AccountId → Nat) (key : K)
    (minimum : Nat) (asset : MultiAsset) (amount : Nat) (account : AccountId) : Prop where
  covered : ∀ ledger, amount ≤ balance ledger key account → ∃ final,
    transactor.withdrawAsset asset (.ofAccount account) ledger = (.ok (), final) ∧
      balance final key account = kept minimum (balance ledger key account - amount) ∧
      ∀ other holder, ¬ (other = key ∧ holder = account) →
        balance final other holder = balance ledger other holder
  uncovered : ∀ ledger, balance ledger key account < amount → ∃ error,
    transactor.withdrawAsset asset (.ofAccount account) ledger = (.error error, ledger)

/-- Deposits of the asset to an account are always accepted and add to one balance. -/
structure Credits (transactor : LedgerTransactor L) (balance : L → K → AccountId → Nat) (key : K)
    (asset : MultiAsset) (amount : Nat) (account : AccountId) : Prop where
  credited : ∀ ledger, ∃ final,
    transactor.depositAsset asset (.ofAccount account) ledger = (.ok (), final) ∧
      balance final key account = balance ledger key account + amount ∧
      ∀ other holder, ¬ (other = key ∧ holder = account) →
        balance final other holder = balance ledger other holder

section

variable {transactor : LedgerTransactor Accounts} {class_ : Option U32} {minimum : Nat}
  {asset : MultiAsset} {amount : U128} {account : AccountId}

/-- A transactor that takes from a balance draws on it. -/
theorem pallet_draws (hamount : amount ≠ 0)
    (h : ∀ ledger, transactor.withdrawAsset asset (.ofAccount account) ledger =
      takeFrom class_ minimum account amount ledger) :
    Draws transactor (fun ledger : Accounts => ledger) class_ minimum asset amount.toNat
      account where
  covered := by
    intro ledger henough
    refine ⟨_, by rw [h, takeFrom, if_neg hamount, if_pos henough], ?_, ?_⟩
    · simp [Accounts.put]
    · intro other holder hother
      exact if_neg hother
  uncovered := by
    intro ledger hless
    exact ⟨_, by rw [h, takeFrom, if_neg hamount, if_neg (Nat.not_le.mpr hless)]⟩

/-- A transactor that puts into a balance credits it, if the amount is not below the minimum. -/
theorem pallet_credits {refuses : Bool} (hamount : amount ≠ 0) (hminimum : minimum ≤ amount.toNat)
    (h : ∀ ledger, transactor.depositAsset asset (.ofAccount account) ledger =
      putInto class_ minimum refuses account amount ledger) :
    Credits transactor (fun ledger : Accounts => ledger) class_ asset amount.toNat account where
  credited := by
    intro ledger
    have hopens : ¬ (ledger class_ account = 0 ∧ amount.toNat < minimum) := by omega
    refine ⟨_, by rw [h, putInto, if_neg hamount, if_neg hopens], ?_, ?_⟩
    · simp [Accounts.put]
    · intro other holder hother
      exact if_neg hother

end

/-! ## Seeing an asset from another chain -/

/-- Drop the first junctions of a path that leads up from a chain and down to it again. -/
def simplify (context : List Junction) : Nat → List Junction → Nat × List Junction
  | parents + 1, first :: rest =>
      if context[context.length - (parents + 1)]? = some first then simplify context parents rest
      else (parents + 1, first :: rest)
  | parents, items => (parents, items)

/-- A location as a target chain sees it, given the path of the local chain: from the target up to
the common ancestor, down to the local chain, and on from there. -/
def MultiLocation.reanchored (location target : MultiLocation) (context : Junctions) :
    Option MultiLocation :=
  let up := target.parents.toNat
  -- the local chain as the target names it
  let inverted := List.replicate (up - context.items.length) .onlyChild ++
    context.items.drop (context.items.length - up)
  let parents := target.interior.items.length + (location.parents.toNat - inverted.length)
  let items := inverted.take (inverted.length - location.parents.toNat) ++ location.interior.items
  if 8 < up ∨ 8 < items.length ∨ 255 < parents then none
  else
    let seen := if target.interior.items.length < parents then (parents, items)
      else simplify target.interior.items parents items
    if h : seen.2.length ≤ 8 then some ⟨BitVec.ofNat 8 seen.1, seen.2, h⟩ else none

def MultiAsset.reanchored (asset : MultiAsset) (target : MultiLocation) (context : Junctions) :
    Option MultiAsset :=
  match asset.id with
  | .concrete location =>
      (location.reanchored target context).map fun seen => ⟨.concrete seen, asset.fun_⟩
  | .abstract _ => some asset

/-- Two parachains are siblings of each other, and the relay chain is the parent of both. -/
example : (MultiLocation.here).reanchored (.sibling 2005) ⟨[.parachain 2004], by decide⟩ =
      some (.sibling 2004) ∧
    (MultiLocation.parent).reanchored (.sibling 2005) ⟨[.parachain 2004], by decide⟩ =
      some .parent ∧
    -- seen from itself, the relay chain is here
    (MultiLocation.parent).reanchored .parent ⟨[.parachain 2004], by decide⟩ =
      some .here := by decide

/-! ## The runtimes over their pallets -/

namespace Standalone

/-- The existential deposit of the native currency. -/
def existentialDeposit : Nat := 500

/-- The minimum balances that the setup scripts give the foreign assets. The assets are taken to be
sufficient: an account can be opened by any of them. -/
def minBalance (id : U32) : Option Nat :=
  if id = 2000 ∨ id = 2001 ∨ id = 2002 then some 100 else none

/-- The transactors of the runtime over its two pallets. -/
def palletTransactors : LedgerTransactor Accounts :=
  assetTransactors locationToAccountId (balancesPallet existentialDeposit)
    (assetsPallet minBalance)

/-- The native currency is taken out of its pallet. -/
theorem withdraw_native (amount : U128) (account : AccountId) (ledger : Accounts) :
    palletTransactors.withdrawAsset ⟨.concrete nativeLocation, .fungible amount⟩
        (.ofAccount account) ledger =
      takeFrom none existentialDeposit account amount ledger := by
  have hmatch : isConcrete nativeLocation ⟨.concrete nativeLocation, .fungible amount⟩ =
      .ok ((), amount) := by simp [isConcrete]
  have hfirst : (adapter (isConcrete nativeLocation) locationToAccountId
      (balancesPallet existentialDeposit)).withdrawAsset
        ⟨.concrete nativeLocation, .fungible amount⟩ (.ofAccount account) ledger =
      takeFrom none existentialDeposit account amount ledger :=
    adapter_withdraw hmatch account ledger
  simp only [palletTransactors, assetTransactors, LedgerTransactor.orElse, hfirst]
  -- the pallet never answers that it does not know the asset
  unfold takeFrom
  split_ifs <;> rfl

end Standalone

namespace Parachain

open XcmBridge (Xcm)

/-- The existential deposit of the native currency. -/
def existentialDeposit : Nat := 1000000000

/-- The accounts of the locations this chain knows. No network is named. -/
def locationToAccountId : LocationToAccount := Standalone.accountAliases none

/-- The amount of the native token, by any of its two names. -/
def nativeAssetMatcher (parachainId : U32) (asset : MultiAsset) :
    Except MatchError (Unit × U128) :=
  match asset.id, asset.fun_ with
  | .concrete _, .fungible amount =>
      if isNativeAsset parachainId asset then .ok ((), amount) else .error .assetNotHandled
  | _, _ => .error .assetNotHandled

/-- Move an amount of the native currency. The payee has to end with at least the minimum, and the
payer is removed below it. -/
def moveBetween (payer payee : AccountId) (amount : U128) (ledger : Accounts) :
    Except XcmError Unit × Accounts :=
  if amount = 0 ∨ payer = payee then (.ok (), ledger)
  else if ledger none payer < amount.toNat then
    (.error (.failedToTransactAsset "FundsUnavailable"), ledger)
  else if ledger none payee + amount.toNat < existentialDeposit then
    (.error (.failedToTransactAsset "BelowMinimum"), ledger)
  else
    (.ok (), (ledger.put none payer
      (kept existentialDeposit (ledger none payer - amount.toNat))).put none payee
        (ledger none payee + amount.toNat))

/-- Move an asset from one location to another, as the XCM executor keeps it. -/
def transferAsset (parachainId : U32) (what : MultiAsset) (source dest : MultiLocation)
    (ledger : Accounts) : Except XcmError Unit × Accounts :=
  match nativeAssetMatcher parachainId what, locationToAccountId.convert source,
    locationToAccountId.convert dest with
  | .error error, _, _ => (.error error.xcmError, ledger)
  | .ok (_, amount), some payer, some payee => moveBetween payer payee amount ledger
  | .ok _, _, _ => (.error MatchError.accountIdConversionFailed.xcmError, ledger)

theorem transfer_asset_atomic {parachainId : U32} {what : MultiAsset} {source dest : MultiLocation}
    {ledger final : Accounts} {error : XcmError}
    (h : transferAsset parachainId what source dest ledger = (.error error, final)) :
    final = ledger := by
  unfold transferAsset moveBetween at h
  split at h
  · cases h
    rfl
  · split_ifs at h
    all_goals cases h
    all_goals rfl
  · cases h
    rfl

/-- The weight of a program: a fixed weight for each of its instructions. -/
def fixedWeight (program : Xcm) : Option Weight :=
  if program.length ≤ 100 then
    some ⟨BitVec.ofNat 64 (1000000000 * program.length), BitVec.ofNat 64 (65536 * program.length)⟩
  else none

/-- Whether a remote part of a program can be sent to a chain. Reserve transfers to the relay chain
are barred, and the channels to the parachains are open. -/
def reachable (dest : MultiLocation) : Except XcmError Unit :=
  match dest.parents, dest.interior.items with
  | 1#8, [] => .error .barrier
  | 1#8, [.parachain _] => .ok ()
  | _, _ => .error .unimplemented

/-- Run one of the programs of the XCM bridge: take its asset from the origin, and send the rest.
An asset that is reserved here goes to the account of its destination. -/
def executeXcmInCredit (parachainId : U32) (origin : MultiLocation) (program : Xcm)
    (_hash : Bytes32) (weightLimit weightCredit : Weight) : Call Accounts XcmError Unit :=
  -- the pallet gives the weight of the program as the credit
  if weightLimit.refTime < weightCredit.refTime ∨
      weightLimit.proofSize < weightCredit.proofSize then
    Exec.raise .weightLimitReached
  else
    match program with
    | [.transferReserveAsset [asset] dest _] => do
        Exec.lift ((reachable dest).mapError .error)
        onLedger (transferAsset parachainId asset origin dest)
    | [.withdrawAsset [asset], .initiateReserveWithdraw _ reserve _] => do
        Exec.lift ((reachable reserve).mapError .error)
        onLedger ((adapter (nativeAssetMatcher parachainId) locationToAccountId
          (balancesPallet existentialDeposit)).withdrawAsset asset origin)
    -- the pallet builds no other program
    | _ => Exec.raise .unimplemented

/-- Parachain 2004 over its two pallets. The temporary accounts are the hashes of two keys. -/
def runtimeHost : Host Accounts where
  toHost := Standalone.constantHost
  parachainId := 2004
  blake2256 encoded :=
    if encoded = [0, 1, 6, 8] ++ List.replicate 32 1 then
      #v[0x7f, 0xf8, 0x98, 0x43, 0x02, 0xe5, 0x1e, 0x78, 0xec, 0x68, 0xbd, 0xc0, 0xb7, 0x02, 0xfd,
        0x37, 0x20, 0xc8, 0x24, 0x93, 0x4c, 0x7c, 0xfb, 0xb5, 0x9e, 0x9f, 0x43, 0x4f, 0x2f, 0xed,
        0x1a, 0x3e]
    else
      #v[0x2d, 0xbd, 0xf2, 0xa1, 0x2d, 0xc4, 0x57, 0x40, 0x52, 0x27, 0x2b, 0xa4, 0x01, 0x03, 0x21,
        0x36, 0x48, 0x1a, 0xdb, 0xd1, 0xe4, 0xb5, 0xd3, 0x1b, 0x4c, 0x72, 0x47, 0x38, 0x03, 0x1b,
        0x21, 0x84]
  encodeMultiLocation := MultiLocation.codec.encode
  currencyTransactor :=
    (currencyTransactor locationToAccountId (balancesPallet existentialDeposit)).lift
  fungiblesTransactor :=
    (fungiblesTransactor locationToAccountId (assetsPallet Standalone.minBalance)).lift
  weigher := fixedWeight
  executeXcmInCredit := executeXcmInCredit 2004
  hashOf _ := Vector.replicate 32 3
  reanchored := MultiAsset.reanchored

end Parachain

end Sygma
