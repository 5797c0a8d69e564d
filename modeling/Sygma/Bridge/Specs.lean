import Sygma.Bridge.Transactor

/-!
# What the bridge calls do

One specification per call of the bridge pallet: what has to hold for it to succeed, and the state
it then leaves. A deposit is described by a `Receipt`, the values its checks produce, and a
proposal by the `Payout` that its checks resolve to. `deposit_eq` also covers the deposits that
fail: it reads a `Quote` from storage, checks the fee, and only then calls the transactor. Proofs
about runs use these and do not unfold the calls.
-/

namespace Sygma

variable {L : Type}

/-- Replace the storage of a state and add events to it. -/
def State.put (state : State L) (storage : Storage) (events : List Event) : State L :=
  { state with storage := storage, events := state.events ++ events }

@[simp] theorem State.put_storage (state : State L) (storage : Storage) (events : List Event) :
    (state.put storage events).storage = storage := rfl

@[simp] theorem State.put_events (state : State L) (storage : Storage) (events : List Event) :
    (state.put storage events).events = state.events ++ events := rfl

@[simp] theorem State.put_ledger (state : State L) (storage : Storage) (events : List Event) :
    (state.put storage events).ledger = state.ledger := rfl

namespace Bridge

open Exec (Fault ensure okOr bind_ok)

variable {cfg : Config L} {origin : Origin} {state final : State L}

/-! ## Pausing -/

/-- The pause flags after all of them are written: a domain with an entry among the registered
domains or among the flags has the new flag, any other domain has none. -/
def flagAll (storage : Storage) (flag : Bool) : StorageMap DomainID Bool :=
  ⟨fun domain =>
    if (storage.destDomainIds.get domain).isSome ∨ (storage.isPaused.get domain).isSome then
      some flag
    else none⟩

theorem set_paused_apply (domains : List DomainID) (flag : Bool) (state : State L) :
    setPaused domains flag state =
      (.ok (), { state with storage := { state.storage with
        isPaused := domains.foldl (fun map domain => map.insert domain flag)
          state.storage.isPaused } }) := by
  induction domains generalizing state with
  | nil => rfl
  | cons domain rest ih =>
      have hcons : setPaused (domain :: rest) flag state =
          setPaused rest flag { state with storage := { state.storage with
            isPaused := state.storage.isPaused.insert domain flag } } := rfl
      rw [hcons, ih]
      rfl

theorem set_all_paused_apply (flag : Bool) (state : State L) :
    setAllPaused flag state =
      (.ok (), { state with storage := { state.storage with
        isPaused := flagAll state.storage flag } }) := by
  have hunfold : setAllPaused flag state =
      (setPaused (state.storage.destDomainIds.iterKeys DomainID.all) flag >>= fun _ =>
        readStorage (fun storage => storage.isPaused.iterKeys DomainID.all) >>= fun flagged =>
          setPaused flagged flag) state := rfl
  rw [hunfold, Exec.bind_apply, set_paused_apply]
  simp only [readStorage, Exec.read_bind_apply, set_paused_apply]
  congr 4
  ext1
  funext domain
  -- the second loop also visits the entries the first one has just written
  simp only [StorageMap.get_foldl_insert, flagAll, StorageMap.mem_iterKeys DomainID.mem_all]
  rcases state.storage.destDomainIds.get domain with _ | registered
  · rcases state.storage.isPaused.get domain with _ | flagged <;> simp
  · simp

/-- A registered domain has the new flag after all flags are written. -/
theorem flag_all_of_registered {storage : Storage} {domain : DomainID} (flag : Bool)
    (h : storage.registered domain = true) :
    (flagAll storage flag).get domain = some flag := by
  have hentry : (storage.destDomainIds.get domain).isSome = true := by
    unfold Storage.registered StorageMap.getD at h
    rcases hget : storage.destDomainIds.get domain with _ | registered
    · simp [hget] at h
    · rfl
  simp [flagAll, hentry]

@[simp] theorem ensure_access_ok {extrinsicName : Bytes} {done : Unit} :
    ensureAccess cfg extrinsicName origin state = (.ok done, final) ↔
      hasAccess cfg state.storage cfg.bridgeIndex extrinsicName origin = true ∧
        state = final := by
  simp [ensureAccess, readStorage]

/-- A call that checks access first stops there when the origin has none. -/
theorem ensure_access_refused {extrinsicName : Bytes} {next : Unit → Call L DispatchError Unit}
    (haccess : hasAccess cfg state.storage cfg.bridgeIndex extrinsicName origin = false) :
    (ensureAccess cfg extrinsicName origin >>= next) state =
      (.error (.error (.bridge .accessDenied)), state) := by
  simp [ensureAccess, readStorage, Exec.bind_apply, ensure, haccess]

theorem pause_bridge_ok {domain : DomainID} :
    pauseBridge cfg origin domain state = (.ok (), final) ↔
      hasAccess cfg state.storage cfg.bridgeIndex (name "pause_bridge") origin = true ∧
        state.storage.registered domain = true ∧
        state.put { state.storage with isPaused := state.storage.isPaused.insert domain true }
          [.bridgePaused domain] = final := by
  simp [pauseBridge, bind_ok, readStorage, writeStorage, depositEvent, State.put]

theorem unpause_bridge_ok {domain : DomainID} :
    unpauseBridge cfg origin domain state = (.ok (), final) ↔
      hasAccess cfg state.storage cfg.bridgeIndex (name "unpause_bridge") origin = true ∧
        state.storage.registered domain = true ∧ state.storage.paused domain = true ∧
        state.put
          { state.storage with isPaused := state.storage.isPaused.insert domain false }
          [.bridgeUnpaused domain] = final := by
  simp [unpauseBridge, bind_ok, readStorage, writeStorage, depositEvent, State.put]

theorem pause_all_bridges_ok :
    pauseAllBridges cfg origin state = (.ok (), final) ↔
      hasAccess cfg state.storage cfg.bridgeIndex (name "pause_all_bridges") origin = true ∧
        state.put { state.storage with isPaused := flagAll state.storage true }
          [.allBridgePaused (senderOrZero origin)] = final := by
  simp [pauseAllBridges, pauseAllDomains, bind_ok, set_all_paused_apply, depositEvent, State.put]

theorem unpause_all_bridges_ok :
    unpauseAllBridges cfg origin state = (.ok (), final) ↔
      hasAccess cfg state.storage cfg.bridgeIndex (name "unpause_all_bridges") origin = true ∧
        state.storage.mpcClear = false ∧
        state.put { state.storage with isPaused := flagAll state.storage false }
          [.allBridgeUnpaused (senderOrZero origin)] = final := by
  simp [unpauseAllBridges, unpauseAllDomains, bind_ok, set_all_paused_apply, readStorage,
    depositEvent, State.put]

/-! ## Administration -/

theorem set_mpc_address_ok {addr : MpcAddress} :
    setMpcAddress cfg origin addr state = (.ok (), final) ↔
      hasAccess cfg state.storage cfg.bridgeIndex (name "set_mpc_address") origin = true ∧
        state.storage.mpcClear = true ∧
        state.put
          { state.storage with mpcAddr := addr, isPaused := flagAll state.storage false } [] =
          final := by
  simp [setMpcAddress, unpauseAllDomains, bind_ok, set_all_paused_apply, readStorage,
    writeStorage, flagAll, State.put]

theorem register_domain_ok {domain : DomainID} {chainId : ChainID} :
    registerDomain cfg origin domain chainId state = (.ok (), final) ↔
      hasAccess cfg state.storage cfg.bridgeIndex (name "register_domain") origin = true ∧
        state.put
          { state.storage with
            destDomainIds := state.storage.destDomainIds.insert domain true,
            destChainIds := state.storage.destChainIds.insert domain chainId }
          [.registerDestDomain (senderOrZero origin) domain chainId] = final := by
  simp [registerDomain, bind_ok, writeStorage, depositEvent, State.put]

theorem unregister_domain_ok {domain : DomainID} {chainId : ChainID} :
    unregisterDomain cfg origin domain chainId state = (.ok (), final) ↔
      hasAccess cfg state.storage cfg.bridgeIndex (name "unregister_domain") origin = true ∧
        state.storage.registered domain = true ∧
        state.storage.destChainIds.get domain = some chainId ∧
        state.put
          { state.storage with
            destDomainIds := state.storage.destDomainIds.remove domain,
            destChainIds := state.storage.destChainIds.remove domain }
          [.unregisterDestDomain (senderOrZero origin) domain chainId] = final := by
  rcases hchain : state.storage.destChainIds.get domain with _ | found
  · simp [unregisterDomain, bind_ok, readStorage, hchain]
  · simp [unregisterDomain, bind_ok, readStorage, writeStorage, depositEvent, State.put, hchain]

theorem retry_ok {height : U128} {domain : DomainID} :
    retry cfg origin height domain state = (.ok (), final) ↔
      hasAccess cfg state.storage cfg.bridgeIndex (name "retry") origin = true ∧
        state.storage.mpcClear = false ∧ state.storage.paused domain = false ∧
        state.storage.registered domain = true ∧
        state.put state.storage [.retry height domain (senderOrZero origin)] = final := by
  simp [retry, bind_ok, readStorage, depositEvent, State.put]

/-! ## Deposits -/

/-- The values the checks of a deposit produce. -/
structure Receipt where
  sender : AccountId
  recipient : Bytes
  destDomainId : DomainID
  resourceId : ResourceId
  amount : U128
  transferType : TransferType
  fee : U128
  reserveAccount : AccountId
  /-- The bridged amount in 18 decimals, as it stands in the deposit data. -/
  published : U128

/-- What is left of the amount after the fee. -/
def Receipt.bridged (receipt : Receipt) : U128 := receipt.amount - receipt.fee

/-- The transactor calls of a deposit: withdraw from the sender, pay the fee, and put the rest into
the reserve if the asset has one here. -/
def collect (cfg : Config L) (asset : MultiAsset) (receipt : Receipt) :
    Call L DispatchError Unit := do
  transact (cfg.assetTransactor.withdrawAsset asset (.ofAccount receipt.sender))
  transact (cfg.assetTransactor.depositAsset ⟨asset.id, .fungible receipt.fee⟩
    (.ofAccount cfg.feeReserveAccount))
  Exec.when (cfg.isReserve asset .here) (transact
    (cfg.assetTransactor.depositAsset ⟨asset.id, .fungible receipt.bridged⟩
      (.ofAccount receipt.reserveAccount)))

/-- A deposit passes its checks from a state with the values of a receipt, and its transactor calls
lead to the state `moved`. -/
structure Deposits (cfg : Config L) (origin : Origin) (asset : MultiAsset) (dest : MultiLocation)
    (receipt : Receipt) (state moved : State L) : Prop where
  signed : origin = .signed receipt.sender
  mpc : state.storage.mpcClear = false
  destination : cfg.extractDestData dest = .ok (some (receipt.recipient, receipt.destDomainId))
  open_ : state.storage.paused receipt.destDomainId = false
  registered : state.storage.registered receipt.destDomainId = true
  bound : extractAsset cfg asset = some (receipt.resourceId, receipt.amount, receipt.transferType)
  charged : cfg.feeHandler state.storage receipt.destDomainId asset = some receipt.fee
  affordable : receipt.amount > receipt.fee
  reserve : getTokenReservedAccount cfg asset.id = some receipt.reserveAccount
  converted : cfg.decimalConverter.convertTo ⟨asset.id, .fungible receipt.bridged⟩ =
    .ok (some receipt.published)
  collected : collect cfg asset receipt state = (.ok (), moved)
  counted : moved.storage.depositCount receipt.destDomainId ≠ BitVec.allOnes 64

/-- The two events of a deposit. -/
def Receipt.events (receipt : Receipt) (asset : AssetId) (nonce : DepositNonce) : List Event :=
  [.deposit receipt.destDomainId receipt.resourceId nonce receipt.sender receipt.transferType
    (createDepositData receipt.published receipt.recipient) [],
   .feeCollected receipt.sender receipt.destDomainId receipt.resourceId receipt.fee asset]

/-- The state a deposit leaves: the counter of its domain is one higher, and its events carry the
nonce the counter had. -/
def Receipt.issue (receipt : Receipt) (asset : AssetId) (moved : State L) : State L :=
  let nonce := moved.storage.depositCount receipt.destDomainId
  moved.put
    { moved.storage with
      depositCounts := moved.storage.depositCounts.insert receipt.destDomainId (nonce + 1) }
    (receipt.events asset nonce)

/-- The values with which a deposit comes to the fee check. -/
structure Quote where
  sender : AccountId
  recipient : Bytes
  destDomainId : DomainID
  resourceId : ResourceId
  amount : U128
  transferType : TransferType
  fee : U128

/-- The checks of a deposit before the fee check, in the order the call makes them. They read
storage only. -/
def quote (cfg : Config L) (storage : Storage) (origin : Origin) (asset : MultiAsset)
    (dest : MultiLocation) : Except (Fault DispatchError) Quote :=
  match origin with
  | .signed sender =>
      if storage.mpcClear then .error (.error (.bridge .missingMpcAddress))
      else
        match cfg.extractDestData dest with
        | .error reason => .error (.panic reason)
        | .ok none => .error (.error (.bridge .extractDestDataFailed))
        | .ok (some (recipient, destDomainId)) =>
            if storage.paused destDomainId then .error (.error (.bridge .bridgePaused))
            else if !storage.registered destDomainId then
              .error (.error (.bridge .destDomainNotSupported))
            else
              match extractAsset cfg asset with
              | none => .error (.error (.bridge .assetNotBound))
              | some (resourceId, amount, transferType) =>
                  match cfg.feeHandler storage destDomainId asset with
                  | none => .error (.error (.bridge .missingFeeConfig))
                  | some fee =>
                      .ok ⟨sender, recipient, destDomainId, resourceId, amount, transferType, fee⟩
  | _ => .error (.error .badOrigin)

/-- What a deposit does after the fee check. -/
def carryOut (cfg : Config L) (asset : MultiAsset) (quote : Quote) :
    Call L DispatchError Unit := do
  transact (cfg.assetTransactor.withdrawAsset asset (.ofAccount quote.sender))
  transact (cfg.assetTransactor.depositAsset ⟨asset.id, .fungible quote.fee⟩
    (.ofAccount cfg.feeReserveAccount))
  let tokenReservedAccount ← okOr (getTokenReservedAccount cfg asset.id)
    (.bridge .noLiquidityHolderAccountBound)
  Exec.when (cfg.isReserve asset .here) (transact
    (cfg.assetTransactor.depositAsset ⟨asset.id, .fungible (quote.amount - quote.fee)⟩
      (.ofAccount tokenReservedAccount)))
  let depositNonce ← readStorage fun storage => storage.depositCount quote.destDomainId
  let bumped ← okOr (checkedSucc depositNonce) (.bridge .depositNonceOverflow)
  writeStorage fun storage =>
    { storage with depositCounts := storage.depositCounts.insert quote.destDomainId bumped }
  let converted ← Exec.orPanic
    (cfg.decimalConverter.convertTo ⟨asset.id, .fungible (quote.amount - quote.fee)⟩)
  let decimalConvertedAmount ← okOr converted (.bridge .decimalConversionFail)
  depositEvent (.deposit quote.destDomainId quote.resourceId depositNonce quote.sender
    quote.transferType (createDepositData decimalConvertedAmount quote.recipient) [])
  depositEvent (.feeCollected quote.sender quote.destDomainId quote.resourceId quote.fee asset.id)

/-- What a deposit does between the fee check and the decimal conversion. The answer is its
nonce. -/
def untilConversion (cfg : Config L) (asset : MultiAsset) (quote : Quote) :
    Call L DispatchError DepositNonce := do
  transact (cfg.assetTransactor.withdrawAsset asset (.ofAccount quote.sender))
  transact (cfg.assetTransactor.depositAsset ⟨asset.id, .fungible quote.fee⟩
    (.ofAccount cfg.feeReserveAccount))
  let tokenReservedAccount ← okOr (getTokenReservedAccount cfg asset.id)
    (.bridge .noLiquidityHolderAccountBound)
  Exec.when (cfg.isReserve asset .here) (transact
    (cfg.assetTransactor.depositAsset ⟨asset.id, .fungible (quote.amount - quote.fee)⟩
      (.ofAccount tokenReservedAccount)))
  let depositNonce ← readStorage fun storage => storage.depositCount quote.destDomainId
  let bumped ← okOr (checkedSucc depositNonce) (.bridge .depositNonceOverflow)
  writeStorage fun storage =>
    { storage with depositCounts := storage.depositCounts.insert quote.destDomainId bumped }
  pure depositNonce

/-- The decimal conversion of a deposit and its two events. -/
def publish (cfg : Config L) (asset : MultiAsset) (quote : Quote) (depositNonce : DepositNonce) :
    Call L DispatchError Unit := do
  let converted ← Exec.orPanic
    (cfg.decimalConverter.convertTo ⟨asset.id, .fungible (quote.amount - quote.fee)⟩)
  let decimalConvertedAmount ← okOr converted (.bridge .decimalConversionFail)
  depositEvent (.deposit quote.destDomainId quote.resourceId depositNonce quote.sender
    quote.transferType (createDepositData decimalConvertedAmount quote.recipient) [])
  depositEvent (.feeCollected quote.sender quote.destDomainId quote.resourceId quote.fee asset.id)

theorem carry_out_eq (asset : MultiAsset) (quote : Quote) :
    carryOut cfg asset quote = untilConversion cfg asset quote >>= publish cfg asset quote := by
  unfold untilConversion
  simp only [Exec.bind_assoc]
  rfl

/-- Up to the conversion a deposit stops with another error of the bridge than the one for its
fee, or with a panic of the transactor, which it calls at local accounts only. -/
theorem until_conversion_faultsIn {allowed : Fault DispatchError → Prop} {asset : MultiAsset}
    {quote : Quote}
    (herror : ∀ error, error ≠ .feeTooExpensive → allowed (.error (.bridge error)))
    (hwithdraw : ∀ what who, Exec.FaultsIn
      (fun fault => ∀ reason, fault = .panic reason → allowed (.panic reason))
      (cfg.assetTransactor.withdrawAsset what who))
    (hdeposit : ∀ what account, Exec.FaultsIn
      (fun fault => ∀ reason, fault = .panic reason → allowed (.panic reason))
      (cfg.assetTransactor.depositAsset what (.ofAccount account))) :
    Exec.FaultsIn allowed (untilConversion cfg asset quote) := by
  have hfailed := herror .transactFailed nofun
  have hreserve := herror .noLiquidityHolderAccountBound nofun
  have hnonce := herror .depositNonceOverflow nofun
  -- the steps in their order, each with the faults it can stop with
  refine (Exec.FaultsIn.mapErr_const hfailed (hwithdraw _ _)).bind fun _ => ?_
  refine (Exec.FaultsIn.mapErr_const hfailed (hdeposit _ _)).bind fun _ => ?_
  refine (Exec.faultsIn_okOr _ hreserve).bind fun _ => ?_
  refine (Exec.FaultsIn.mapErr_const hfailed (hdeposit _ _)).when.bind fun _ => ?_
  refine (Exec.faultsIn_read _).bind fun _ => (Exec.faultsIn_okOr _ hnonce).bind fun _ => ?_
  exact (Exec.faultsIn_modify _).bind fun _ => Exec.faultsIn_pure _

/-- The conversion stops with its own error or with a panic of the converter. -/
theorem publish_faultsIn {allowed : Fault DispatchError → Prop} {asset : MultiAsset}
    {quote : Quote} (herror : allowed (.error (.bridge .decimalConversionFail)))
    (hconvert : ∀ reason, cfg.decimalConverter.convertTo
      ⟨asset.id, .fungible (quote.amount - quote.fee)⟩ = .error reason →
        allowed (.panic reason)) (depositNonce : DepositNonce) :
    Exec.FaultsIn allowed (publish cfg asset quote depositNonce) := by
  refine (Exec.faultsIn_orPanic hconvert).bind fun _ => ?_
  refine (Exec.faultsIn_okOr _ herror).bind fun _ => ?_
  exact (Exec.faultsIn_modify _).bind fun _ => Exec.faultsIn_modify _

/-- A deposit is its checks, the fee check, and the rest in a storage layer. -/
theorem deposit_eq (asset : MultiAsset) (dest : MultiLocation) :
    deposit cfg origin asset dest state =
      match quote cfg state.storage origin asset dest with
      | .error fault => (.error fault, state)
      | .ok quote =>
          if quote.amount > quote.fee then Exec.transactional (carryOut cfg asset quote) state
          else (.error (.error (.bridge .feeTooExpensive)), state) := by
  unfold deposit quote Exec.transactional
  cases origin with
  | signed sender =>
      -- one case per check, in their order; each failed check ends both sides
      simp only [ensureSigned, Exec.pure_bind_apply, readStorage, Exec.read_bind_apply,
        Exec.ensure_bind_apply, Exec.orPanic_bind_apply]
      cases state.storage.mpcClear with
      | true => rfl
      | false =>
      rcases hdest : cfg.extractDestData dest with reason | extracted
      · rfl
      cases extracted with
      | none => rfl
      | some pair =>
      obtain ⟨recipient, destDomainId⟩ := pair
      simp only [Bool.not_false, if_true, if_false, Exec.okOr_bind_apply, Exec.read_bind_apply,
        Exec.ensure_bind_apply, Bool.false_eq_true]
      cases state.storage.paused destDomainId with
      | true => rfl
      | false =>
      cases state.storage.registered destDomainId with
      | false => rfl
      | true =>
      cases extractAsset cfg asset with
      | none => rfl
      | some bound =>
      cases cfg.feeHandler state.storage destDomainId asset with
      | none => rfl
      | some fee =>
      simp only [Bool.not_false, Bool.not_true, if_true, if_false, Bool.false_eq_true,
        decide_eq_true_eq]
      by_cases hfee : bound.2.1 > fee
      · simp only [hfee, if_true]
        rfl
      · simp only [hfee, if_false]
  | _ => rfl

theorem checked_succ_eq_some {nonce bumped : DepositNonce} :
    checkedSucc nonce = some bumped ↔ nonce ≠ BitVec.allOnes 64 ∧ nonce + 1 = bumped := by
  unfold checkedSucc
  split <;> simp_all

/-- A deposit comes to the fee check exactly when it is signed, the key is set, its destination
parses to an open and registered domain, its asset is bound, and a fee is configured. -/
theorem quote_ok {storage : Storage} {asset : MultiAsset} {dest : MultiLocation} {found : Quote} :
    quote cfg storage origin asset dest = .ok found ↔
      origin = .signed found.sender ∧ storage.mpcClear = false ∧
        cfg.extractDestData dest = .ok (some (found.recipient, found.destDomainId)) ∧
        storage.paused found.destDomainId = false ∧ storage.registered found.destDomainId = true ∧
        extractAsset cfg asset = some (found.resourceId, found.amount, found.transferType) ∧
        cfg.feeHandler storage found.destDomainId asset = some found.fee := by
  constructor
  · intro h
    unfold quote at h
    cases origin with
    | signed sender =>
        cases hmpc : storage.mpcClear with
        | true => simp [hmpc] at h
        | false =>
        rcases hdest : cfg.extractDestData dest with reason | extracted
        · simp [hmpc, hdest] at h
        cases extracted with
        | none => simp [hmpc, hdest] at h
        | some pair =>
        obtain ⟨recipient, destDomainId⟩ := pair
        cases hpaused : storage.paused destDomainId with
        | true => simp [hmpc, hdest, hpaused] at h
        | false =>
        cases hregistered : storage.registered destDomainId with
        | false => simp [hmpc, hdest, hpaused, hregistered] at h
        | true =>
        cases hbound : extractAsset cfg asset with
        | none => simp [hmpc, hdest, hpaused, hregistered, hbound] at h
        | some bound =>
        cases hfee : cfg.feeHandler storage destDomainId asset with
        | none => simp [hmpc, hdest, hpaused, hregistered, hbound, hfee] at h
        | some fee =>
        simp only [hmpc, hdest, hpaused, hregistered, hbound, hfee, Bool.not_true,
          Bool.false_eq_true, if_false] at h
        cases h
        exact ⟨rfl, rfl, rfl, hpaused, hregistered, rfl, hfee⟩
    | _ => cases h
  · rintro ⟨rfl, hmpc, hdest, hpaused, hregistered, hbound, hfee⟩
    simp [quote, hmpc, hdest, hpaused, hregistered, hbound, hfee]

/-- The checks panic exactly when they come to the parser and it panics. -/
theorem quote_panic {storage : Storage} {asset : MultiAsset} {dest : MultiLocation}
    {reason : Exec.Panic} :
    quote cfg storage origin asset dest = .error (.panic reason) ↔
      (∃ sender, origin = .signed sender) ∧ storage.mpcClear = false ∧
        cfg.extractDestData dest = .error reason := by
  unfold quote
  cases origin with
  | signed sender =>
      cases storage.mpcClear with
      | true => simp
      | false =>
      rcases cfg.extractDestData dest with other | extracted
      · simp
      cases extracted with
      | none => simp
      | some pair =>
      -- past the parser all checks fail with errors
      obtain ⟨recipient, destDomainId⟩ := pair
      simp only [Bool.false_eq_true, if_false, reduceCtorEq, and_false, iff_false]
      repeat' split
      all_goals nofun
  | _ => simp

/-- A deposit succeeds exactly when its checks give a receipt and its transactor calls succeed. -/
theorem deposit_ok {asset : MultiAsset} {dest : MultiLocation} :
    deposit cfg origin asset dest state = (.ok (), final) ↔
      ∃ receipt moved, Deposits cfg origin asset dest receipt state moved ∧
        receipt.issue asset.id moved = final := by
  rw [deposit_eq]
  constructor
  · intro h
    cases hquote : quote cfg state.storage origin asset dest with
    | error fault => simp [hquote] at h
    | ok quote =>
        simp only [hquote] at h
        obtain ⟨hsigned, hmpc, hdest, hopen, hregistered, hbound, hfee⟩ := quote_ok.mp hquote
        split at h
        · rename_i hafford
          have hrest := Exec.transactional_ok.mp h
          obtain ⟨_, paid, hwithdraw, hrest⟩ := bind_ok.mp hrest
          obtain ⟨_, charged, hcharge, hrest⟩ := bind_ok.mp hrest
          obtain ⟨reserve, hreserve, hrest⟩ := Exec.okOr_bind_ok.mp hrest
          obtain ⟨_, moved, hmove, hrest⟩ := bind_ok.mp hrest
          simp only [readStorage, writeStorage, depositEvent, Exec.read_bind_ok,
            Exec.okOr_bind_ok, checked_succ_eq_some, Exec.modify_bind_ok, Exec.orPanic_bind_ok,
            Exec.modify_ok] at hrest
          obtain ⟨_, ⟨hcount, rfl⟩, _, hconvert, published, rfl, rfl⟩ := hrest
          refine ⟨⟨quote.sender, quote.recipient, quote.destDomainId, quote.resourceId,
            quote.amount, quote.transferType, quote.fee, reserve, published⟩, moved, ⟨hsigned,
            hmpc, hdest, hopen, hregistered, hbound, hfee, hafford, hreserve, hconvert, ?_,
            hcount⟩, ?_⟩
          · simp only [collect, bind_ok]
            exact ⟨_, _, hwithdraw, _, _, hcharge, hmove⟩
          · simp [Receipt.issue, Receipt.events, State.put]
        · cases h
  · rintro ⟨receipt, moved, hdeposits, rfl⟩
    have hquote : quote cfg state.storage origin asset dest =
        .ok ⟨receipt.sender, receipt.recipient, receipt.destDomainId, receipt.resourceId,
          receipt.amount, receipt.transferType, receipt.fee⟩ :=
      quote_ok.mpr ⟨hdeposits.signed, hdeposits.mpc, hdeposits.destination, hdeposits.open_,
        hdeposits.registered, hdeposits.bound, hdeposits.charged⟩
    have hcollect := hdeposits.collected
    simp only [collect, bind_ok] at hcollect
    obtain ⟨_, paid, hwithdraw, _, charged, hcharge, hmove⟩ := hcollect
    simp only [hquote, if_pos hdeposits.affordable]
    refine Exec.transactional_ok.mpr (bind_ok.mpr ⟨_, paid, hwithdraw, bind_ok.mpr ⟨_, charged,
      hcharge, Exec.okOr_bind_ok.mpr ⟨_, hdeposits.reserve, bind_ok.mpr ⟨_, moved, hmove, ?_⟩⟩⟩⟩)
    simp only [readStorage, writeStorage, depositEvent, Exec.read_bind_ok, Exec.okOr_bind_ok,
      checked_succ_eq_some, Exec.modify_bind_ok, Exec.orPanic_bind_ok, Exec.modify_ok]
    refine ⟨_, ⟨hdeposits.counted, rfl⟩, _, hdeposits.converted, _, rfl, ?_⟩
    simp [Receipt.issue, Receipt.events, State.put]

/-! ## Proposals -/

/-- What a proposal that passes its checks asks for: an asset in local decimals, the location it
goes to, and the account that holds the asset's reserve. -/
structure Payout where
  asset : MultiAsset
  location : MultiLocation
  reserveAccount : AccountId

/-- The checks of a proposal, in the order the call makes them. They read storage only. -/
def resolve (cfg : Config L) (storage : Storage) (proposal : Proposal) :
    Except (Fault DispatchError) Payout :=
  if storage.paused proposal.originDomainId then .error (.error (.bridge .bridgePaused))
  else if !storage.registered proposal.originDomainId then
    .error (.error (.bridge .destDomainNotSupported))
  else if isProposalExecuted storage proposal.depositNonce proposal.originDomainId then
    .error (.error (.bridge .proposalAlreadyComplete))
  else
    match ridToAssetid cfg proposal.resourceId with
    | none => .error (.error (.bridge .assetNotBound))
    | some assetId =>
        match extractDepositData cfg proposal.data with
        | .error fault => .error fault
        | .ok (amount, location) =>
            match MultiAsset.ofAmount cfg.debugAssertions assetId amount >>=
                cfg.decimalConverter.convertFrom with
            | .error reason => .error (.panic reason)
            | .ok none => .error (.error (.bridge .decimalConversionFail))
            | .ok (some asset) =>
                match getTokenReservedAccount cfg assetId with
                | none => .error (.error (.bridge .noLiquidityHolderAccountBound))
                | some account => .ok ⟨asset, location, account⟩

/-- The transactor calls of a proposal: take the asset out of its reserve if it has one here, and
deposit it at its location. -/
def pay (cfg : Config L) (payout : Payout) : Call L DispatchError Unit := do
  Exec.when (cfg.isReserve payout.asset .here) (transact
    (cfg.assetTransactor.withdrawAsset payout.asset (.ofAccount payout.reserveAccount)))
  transact (cfg.assetTransactor.depositAsset payout.asset payout.location)

/-- Executing a proposal is checking it and then paying it out. -/
theorem execute_proposal_internal_eq (proposal : Proposal) (state : State L) :
    executeProposalInternal cfg proposal state =
      match resolve cfg state.storage proposal with
      | .ok payout => pay cfg payout state
      | .error fault => (.error fault, state) := by
  unfold executeProposalInternal resolve
  simp only [readStorage, Exec.read_bind_apply, Exec.ensure_bind_apply, Exec.okOr_bind_apply,
    Exec.lift_bind_apply, Exec.orPanic_bind_apply]
  -- one case per check, in their order; each failed check ends both sides
  cases state.storage.paused proposal.originDomainId with
  | true => rfl
  | false =>
  cases state.storage.registered proposal.originDomainId with
  | false => rfl
  | true =>
  cases isProposalExecuted state.storage proposal.depositNonce proposal.originDomainId with
  | true => rfl
  | false =>
  cases ridToAssetid cfg proposal.resourceId with
  | none => rfl
  | some assetId =>
  cases extractDepositData cfg proposal.data with
  | error fault => rfl
  | ok extracted =>
  rcases hconvert : MultiAsset.ofAmount cfg.debugAssertions assetId extracted.1 >>=
      cfg.decimalConverter.convertFrom with reason | converted
  · simp [hconvert]
  · cases converted with
    | none => simp [hconvert]
    | some asset =>
        cases hreserve : getTokenReservedAccount cfg assetId with
        | none => simp [hconvert, hreserve]
        | some account => simp [hconvert, hreserve, pay]

/-- The amount of a proposal is converted as it is, unless it is zero and asserted not to be. -/
theorem convert_amount_ok {assetId : AssetId} {amount : U128} {asset : MultiAsset} :
    (MultiAsset.ofAmount cfg.debugAssertions assetId amount >>=
        cfg.decimalConverter.convertFrom) = .ok (some asset) ↔
      cfg.decimalConverter.convertFrom ⟨assetId, .fungible amount⟩ = .ok (some asset) ∧
        (cfg.debugAssertions = true → amount ≠ 0) := by
  rw [Exec.except_bind_ok]
  constructor
  · rintro ⟨named, hnamed, hconvert⟩
    obtain ⟨hnonzero, rfl⟩ := MultiAsset.of_amount_ok.mp hnamed
    exact ⟨hconvert, hnonzero⟩
  · rintro ⟨hconvert, hnonzero⟩
    exact ⟨_, MultiAsset.of_amount_ok.mpr ⟨hnonzero, rfl⟩, hconvert⟩

/-- A proposal passes its checks exactly when its domain is open and registered, its nonce is
unused, its resource is bound to an asset with a reserve account, and its data decodes to the
location and an amount that converts to the asset paid out and is not zero where that is
asserted. -/
theorem resolve_ok {storage : Storage} {proposal : Proposal} {payout : Payout} :
    resolve cfg storage proposal = .ok payout ↔
      storage.paused proposal.originDomainId = false ∧
        storage.registered proposal.originDomainId = true ∧
        isProposalExecuted storage proposal.depositNonce proposal.originDomainId = false ∧
        ∃ assetId amount, ridToAssetid cfg proposal.resourceId = some assetId ∧
          extractDepositData cfg proposal.data = .ok (amount, payout.location) ∧
          cfg.decimalConverter.convertFrom ⟨assetId, .fungible amount⟩ =
            .ok (some payout.asset) ∧
          getTokenReservedAccount cfg assetId = some payout.reserveAccount ∧
          (cfg.debugAssertions = true → amount ≠ 0) := by
  have hregroup : ∀ assetId amount,
      (cfg.decimalConverter.convertFrom ⟨assetId, .fungible amount⟩ = .ok (some payout.asset) ∧
        getTokenReservedAccount cfg assetId = some payout.reserveAccount ∧
        (cfg.debugAssertions = true → amount ≠ 0)) ↔
      (MultiAsset.ofAmount cfg.debugAssertions assetId amount >>=
        cfg.decimalConverter.convertFrom) = .ok (some payout.asset) ∧
        getTokenReservedAccount cfg assetId = some payout.reserveAccount := by
    intro assetId amount
    rw [convert_amount_ok, and_assoc, and_comm (b := _ = some payout.reserveAccount)]
  simp only [hregroup]
  unfold resolve
  cases storage.paused proposal.originDomainId with
  | true => simp
  | false =>
  cases storage.registered proposal.originDomainId with
  | false => simp
  | true =>
  cases isProposalExecuted storage proposal.depositNonce proposal.originDomainId with
  | true => simp
  | false =>
  cases ridToAssetid cfg proposal.resourceId with
  | none => simp
  | some assetId =>
  cases extractDepositData cfg proposal.data with
  | error fault => simp
  | ok extracted =>
  obtain ⟨amount, location⟩ := extracted
  rcases hconvert : MultiAsset.ofAmount cfg.debugAssertions assetId amount >>=
      cfg.decimalConverter.convertFrom with reason | converted
  · simp_all
  · cases converted with
    | none => simp_all
    | some asset =>
        cases hreserve : getTokenReservedAccount cfg assetId with
        | none => simp_all
        | some account =>
            obtain ⟨payoutAsset, payoutLocation, payoutAccount⟩ := payout
            simp_all [and_assoc, and_left_comm]

/-- A round of the loop ends in one of two ways: the proposal is executed, marked and reported, or
it fails with an error and the error is reported over whatever it left. -/
theorem execute_one_ok {proposal : Proposal} :
    executeOne cfg proposal state = (.ok (), final) ↔
      (∃ paid, executeProposalInternal cfg proposal state = (.ok (), paid) ∧
        paid.put (setProposalExecuted paid.storage proposal.depositNonce proposal.originDomainId)
          [executionEvent cfg proposal] = final) ∨
      (∃ error left, executeProposalInternal cfg proposal state = (.error (.error error), left) ∧
        left.put left.storage [failureEvent error proposal] = final) := by
  unfold executeOne Exec.mapOrElse
  rcases executeProposalInternal cfg proposal state with ⟨outcome, middle⟩
  rcases outcome with fault | done
  · cases fault <;> simp [depositEvent, State.put]
  · simp [writeStorage, depositEvent, State.put]

/-- A proposal that fails its checks is reported, and changes nothing else. -/
theorem execute_one_refused {proposal : Proposal} {error : DispatchError}
    (h : resolve cfg state.storage proposal = .error (.error error)) :
    executeProposalInternal cfg proposal state = (.error (.error error), state) ∧
      executeOne cfg proposal state =
        (.ok (), state.put state.storage [failureEvent error proposal]) := by
  have hinternal : executeProposalInternal cfg proposal state =
      (.error (.error error), state) := by
    rw [execute_proposal_internal_eq, h]
  exact ⟨hinternal, execute_one_ok.mpr (.inr ⟨error, state, hinternal, rfl⟩)⟩

/-- A batch is accepted when an MPC address is set, the batch is not empty and its signature is
valid; its proposals are then executed in order. -/
theorem execute_proposal_ok {proposals : List Proposal} {signature : Bytes} :
    executeProposal cfg origin proposals signature state = (.ok (), final) ↔
      state.storage.mpcClear = false ∧ proposals ≠ [] ∧
        verifyByMpcAddress cfg state.storage (constructEcdsaSigningProposalsData cfg proposals)
          signature = true ∧
        Exec.forEach proposals (executeOne cfg) state = (.ok (), final) := by
  simp [executeProposal, bind_ok, readStorage]

/-! ## Executed nonces -/

/-- Marking a nonce of a domain marks that nonce of that domain and nothing else. -/
theorem is_proposal_executed_set (storage : Storage) (nonce other : DepositNonce)
    (domain otherDomain : DomainID) :
    isProposalExecuted (setProposalExecuted storage nonce domain) other otherDomain =
      (isProposalExecuted storage other otherDomain ||
        decide (otherDomain = domain ∧ other = nonce)) := by
  have hflag : ∀ (store : Storage) (n : DepositNonce) (d : DomainID),
      isProposalExecuted store n d =
        Bitmap.isMarked (store.usedNonceWord d (Bitmap.wordOf n)) n := fun _ _ _ => rfl
  have hword : (setProposalExecuted storage nonce domain).usedNonceWord otherDomain
      (Bitmap.wordOf other) =
        if (otherDomain, Bitmap.wordOf other) = (domain, Bitmap.wordOf nonce) then
          Bitmap.mark (storage.usedNonceWord domain (Bitmap.wordOf nonce)) nonce
        else storage.usedNonceWord otherDomain (Bitmap.wordOf other) :=
    StorageMap.getD_insert _ _ _ _ _
  rw [hflag, hflag, hword]
  by_cases hsame : (otherDomain, Bitmap.wordOf other) = (domain, Bitmap.wordOf nonce)
  · obtain ⟨rfl, hwords⟩ := Prod.mk.injEq .. ▸ hsame
    rw [if_pos hsame, Bitmap.isMarked_mark _ _ _ (by decide), ← hwords]
    -- within one word the bit decides, and word and bit determine the nonce
    have hbit : other.toNat % 64 = nonce.toNat % 64 ↔ other = nonce :=
      ⟨fun h => Bitmap.position_ext hwords h, fun h => by rw [h]⟩
    simp [hbit]
  · rw [if_neg hsame]
    have hne : ¬ (otherDomain = domain ∧ other = nonce) := by
      rintro ⟨rfl, rfl⟩
      exact hsame rfl
    simp [hne]

/-! ## Effects through a confined transactor -/

/-- A transactor call whose errors are translated leaves the state of the call. -/
theorem transact_snd (body : Call L XcmError Unit) (state : State L) :
    (transact body state).2 = (body state).2 := by
  unfold transact Exec.mapErr
  rcases body state with ⟨outcome, middle⟩
  rcases outcome with fault | done
  · cases fault <;> rfl
  · rfl

/-- The transactor calls of a deposit move balances only. -/
theorem collect_moves (hcfg : Confined cfg) {asset : MultiAsset} {receipt : Receipt}
    (h : collect cfg asset receipt state = (.ok (), final)) : Moves state final := by
  simp only [collect, bind_ok] at h
  obtain ⟨_, paid, hwithdraw, _, charged, hcharge, hreserve⟩ := h
  have hpaid : Moves state paid := by
    have hmoves := hcfg.withdraw asset (.ofAccount receipt.sender) state
    rwa [← transact_snd, hwithdraw] at hmoves
  have hcharged : Moves paid charged := by
    have hmoves := hcfg.depositAccount ⟨asset.id, .fungible receipt.fee⟩ cfg.feeReserveAccount paid
    rwa [← transact_snd, hcharge] at hmoves
  have hreserved : Moves charged final := by
    unfold Exec.when at hreserve
    split at hreserve
    · have hmoves := hcfg.depositAccount ⟨asset.id, .fungible receipt.bridged⟩
        receipt.reserveAccount charged
      rwa [← transact_snd, hreserve] at hmoves
    · obtain ⟨-, rfl⟩ := Exec.pure_ok.mp hreserve
      exact .refl charged
  exact hpaid.trans (hcharged.trans hreserved)

/-- Paying out moves balances and calls `transfer`, also when it fails half way. -/
theorem pay_transfers (hcfg : Confined cfg) (payout : Payout) (state : State L) :
    Transfers cfg state (pay cfg payout state).2 := by
  have hdeposit : ∀ middle : State L, Transfers cfg middle
      (transact (cfg.assetTransactor.depositAsset payout.asset payout.location) middle).2 := by
    intro middle
    rw [transact_snd]
    exact hcfg.deposit _ _ _
  unfold pay Exec.when
  split
  · rw [Exec.bind_apply]
    have hmoves := hcfg.withdraw payout.asset (.ofAccount payout.reserveAccount) state
    rw [← transact_snd] at hmoves
    rcases htransact : transact (cfg.assetTransactor.withdrawAsset payout.asset
      (.ofAccount payout.reserveAccount)) state with ⟨outcome, middle⟩
    rw [htransact] at hmoves
    have hfirst : Transfers cfg state middle := .moves .refl hmoves
    cases outcome with
    | ok done => exact hfirst.trans (hdeposit middle)
    | error fault => exact hfirst
  · exact hdeposit state

end Bridge

end Sygma
