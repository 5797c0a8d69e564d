import Sygma.Runtime.Executions
import Sygma.Runtime.Traffic

/-!
# Setting up and reopening routes

The committee sets a chain up by calls to five pallets. `setup_order_irrelevant` says that their
order does not matter as long as no two of them write the same entry: every order goes through and
leaves the same storage, up to pause flags without an effect on what can be read of them.
`route_reopenable` is the other side. Whatever has been paused, unregistered or left unset, at most
four calls of the committee open a route again, and no nonce is lost or freed on the way. Over the
plain ledger deposits and proposals that the configuration allows (`Depositable`, `Payable`) then
go through, deposits as long as the domain has a nonce left.
-/

namespace Sygma

open Bridge

variable {L : Type} {cfg : Config L} {origin : Origin}

/-! ## The calls of a set-up -/

/-- An entry of storage that a set-up writes. -/
inductive Cell where
  | key
  | domain (id : DomainID)
  | access (pair : U8 × Bytes)
  | fee (route : DomainID × AssetId)
  | feeRate (route : DomainID × AssetId)
  | handler (route : DomainID × AssetId)
  deriving DecidableEq

/-- The entry that a call writes, if it is one of a set-up. -/
def Extrinsic.cell : Extrinsic → Option Cell
  | .setMpcAddress _ => some .key
  | .registerDomain domain _ => some (.domain domain)
  | .grantAccess palletIndex extrinsicName _ => some (.access (palletIndex, extrinsicName))
  | .setFee domain asset _ => some (.fee (domain, asset))
  | .setFeeRate domain asset _ _ _ => some (.feeRate (domain, asset))
  | .setFeeHandler domain asset _ => some (.handler (domain, asset))
  | _ => none

/-- The calls of a set-up: each writes an entry, no two the same, and what they ask for is valid.
The key is set only where there is none. -/
structure IsSetup (storage : Storage) (calls : List Extrinsic) : Prop where
  cells : ∀ call ∈ calls, call.cell ≠ none
  distinct : (calls.map Extrinsic.cell).Nodup
  valid : ∀ call ∈ calls, call.requires storage

/-- What a storage says when pause flags are read as `is_paused` reads them. -/
def Storage.readings (storage : Storage) : Storage :=
  { storage with isPaused := ⟨fun domain => some (storage.paused domain)⟩ }

/-- A call of a set-up is one of six. -/
theorem setup_cases {motive : Extrinsic → Prop}
    (key : ∀ addr, motive (.setMpcAddress addr))
    (domain : ∀ id chainId, motive (.registerDomain id chainId))
    (access : ∀ palletIndex extrinsicName who,
      motive (.grantAccess palletIndex extrinsicName who))
    (fee : ∀ id asset amount, motive (.setFee id asset amount))
    (feeRate : ∀ id asset rate lower upper, motive (.setFeeRate id asset rate lower upper))
    (handler : ∀ id asset handlerType, motive (.setFeeHandler id asset handlerType))
    {call : Extrinsic} (hcell : call.cell ≠ none) : motive call := by
  cases call with
  | setMpcAddress addr => exact key addr
  | registerDomain id chainId => exact domain id chainId
  | grantAccess palletIndex extrinsicName who => exact access palletIndex extrinsicName who
  | setFee id asset amount => exact fee id asset amount
  | setFeeRate id asset rate lower upper => exact feeRate id asset rate lower upper
  | setFeeHandler id asset handlerType => exact handler id asset handlerType
  | _ => exact absurd rfl hcell

/-- Setting the key leaves no domain paused. -/
theorem paused_flag_all (storage : Storage) (domain : DomainID) :
    (flagAll storage false).getD domain false = false := by
  unfold StorageMap.getD flagAll
  by_cases hentry : (storage.destDomainIds.get domain).isSome ∨
      (storage.isPaused.get domain).isSome
  · simp [hentry]
  · simp [hentry]

/-- What can be read after a call of a set-up depends on what could be read before. -/
theorem write_readings {call : Extrinsic} (hcell : call.cell ≠ none) (storage : Storage) :
    (call.write storage.readings).readings = (call.write storage).readings := by
  refine setup_cases (motive := fun call =>
    (call.write storage.readings).readings = (call.write storage).readings)
    ?_ ?_ ?_ ?_ ?_ ?_ hcell
  · intro addr
    simp [Extrinsic.write, Storage.readings, Storage.paused, paused_flag_all]
  all_goals
    intros
    rfl

/-- Setting the key commutes with every other call of a set-up. -/
theorem write_key_comm (addr : MpcAddress) {call : Extrinsic} (hcell : call.cell ≠ none)
    (hne : call.cell ≠ some .key) (storage : Storage) :
    (call.write (Extrinsic.write storage (.setMpcAddress addr))).readings =
      (Extrinsic.write (call.write storage) (.setMpcAddress addr)).readings := by
  cases call with
  | setMpcAddress => exact absurd rfl hne
  | registerDomain | grantAccess | setFee | setFeeRate | setFeeHandler =>
      simp [Extrinsic.write, Storage.readings, Storage.paused, paused_flag_all]
  | _ => exact absurd rfl hcell

/-- Two calls of a set-up that write different entries commute. -/
theorem write_comm {call other : Extrinsic} (hcell : call.cell ≠ none)
    (hother : other.cell ≠ none) (hne : call.cell ≠ other.cell) (storage : Storage) :
    (other.write (call.write storage)).readings = (call.write (other.write storage)).readings := by
  by_cases hkey : call.cell = some .key
  · cases call with
    | setMpcAddress addr => exact write_key_comm addr hother (hkey ▸ hne.symm) storage
    | _ => cases hkey
  by_cases hotherKey : other.cell = some .key
  · cases other with
    | setMpcAddress addr => exact (write_key_comm addr hcell hkey storage).symm
    | _ => cases hotherKey
  -- the rest write one table each, so only two calls to the same table are left
  cases call with
  | setMpcAddress => exact absurd rfl hkey
  | registerDomain domain chainId =>
      cases other with
      | registerDomain otherDomain otherChain =>
          have hentry : domain ≠ otherDomain := fun heq => hne (by rw [heq]; rfl)
          simp [Extrinsic.write, StorageMap.insert_comm _ _ _ hentry]
      | setMpcAddress => exact absurd rfl hotherKey
      | grantAccess | setFee | setFeeRate | setFeeHandler => rfl
      | _ => exact absurd rfl hother
  | grantAccess palletIndex extrinsicName who =>
      cases other with
      | grantAccess otherIndex otherName otherWho =>
          have hentry : (palletIndex, extrinsicName) ≠ (otherIndex, otherName) :=
            fun heq => hne (by simp only [Extrinsic.cell, heq])
          simp [Extrinsic.write, StorageMap.insert_comm _ _ _ hentry]
      | setMpcAddress => exact absurd rfl hotherKey
      | registerDomain | setFee | setFeeRate | setFeeHandler => rfl
      | _ => exact absurd rfl hother
  | setFee domain asset amount =>
      cases other with
      | setFee otherDomain otherAsset otherAmount =>
          have hentry : (domain, asset) ≠ (otherDomain, otherAsset) :=
            fun heq => hne (by simp only [Extrinsic.cell, heq])
          simp [Extrinsic.write, StorageMap.insert_comm _ _ _ hentry]
      | setMpcAddress => exact absurd rfl hotherKey
      | registerDomain | grantAccess | setFeeRate | setFeeHandler => rfl
      | _ => exact absurd rfl hother
  | setFeeRate domain asset rate lower upper =>
      cases other with
      | setFeeRate otherDomain otherAsset otherRate otherLower otherUpper =>
          have hentry : (domain, asset) ≠ (otherDomain, otherAsset) :=
            fun heq => hne (by simp only [Extrinsic.cell, heq])
          simp [Extrinsic.write, StorageMap.insert_comm _ _ _ hentry]
      | setMpcAddress => exact absurd rfl hotherKey
      | registerDomain | grantAccess | setFee | setFeeHandler => rfl
      | _ => exact absurd rfl hother
  | setFeeHandler domain asset handlerType =>
      cases other with
      | setFeeHandler otherDomain otherAsset otherHandler =>
          have hentry : (domain, asset) ≠ (otherDomain, otherAsset) :=
            fun heq => hne (by simp only [Extrinsic.cell, heq])
          simp [Extrinsic.write, StorageMap.insert_comm _ _ _ hentry]
      | setMpcAddress => exact absurd rfl hotherKey
      | registerDomain | grantAccess | setFee | setFeeRate => rfl
      | _ => exact absurd rfl hother
  | _ => exact absurd rfl hcell

/-- What can be read after a list of calls. -/
theorem foldl_write_readings {calls : List Extrinsic} (hcells : ∀ call ∈ calls, call.cell ≠ none)
    (storage : Storage) :
    (calls.foldl (fun current call => call.write current) storage).readings =
      calls.foldl (fun current call => (call.write current).readings) storage.readings := by
  induction calls generalizing storage with
  | nil => rfl
  | cons call rest ih =>
      rw [List.foldl_cons, List.foldl_cons, write_readings (hcells call List.mem_cons_self)]
      exact ih (fun other hmem => hcells other (List.mem_cons_of_mem _ hmem)) _

/-- The order of the calls of a set-up does not change what can be read after them. -/
theorem foldl_write_perm {calls other : List Extrinsic}
    (hcells : ∀ call ∈ calls, call.cell ≠ none) (hdistinct : (calls.map Extrinsic.cell).Nodup)
    (hperm : other.Perm calls) (storage : Storage) :
    (other.foldl (fun current call => call.write current) storage).readings =
      (calls.foldl (fun current call => call.write current) storage).readings := by
  rw [foldl_write_readings hcells,
    foldl_write_readings fun call hmem => hcells call (hperm.mem_iff.mp hmem)]
  refine (hperm.symm.foldl_eq' ?_ _).symm
  intro call hcall second hsecond current
  have hfirst := hcells call hcall
  have hlast := hcells second hsecond
  by_cases hsame : call = second
  · rw [hsame]
  · have hne : call.cell ≠ second.cell :=
      fun heq => hsame (List.inj_on_of_nodup_map hdistinct hcall hsecond heq)
    rw [write_readings hlast, write_readings hfirst]
    exact write_comm hfirst hlast hne current

/-! ## Making the calls -/

/-- The committee makes a list of calls. -/
def administer (cfg : Config L) (origin : Origin) (calls : List Extrinsic) :
    Call L DispatchError Unit :=
  Exec.forEach calls (dispatch cfg origin)

/-- The committee passes every access check, so a guarded call of it goes through when what it
requires holds. The rest of a list follows. -/
theorem administer_cons (hcommittee : cfg.bridgeCommitteeOrigin origin = true) {call : Extrinsic}
    (rest : List Extrinsic) (hguard : (call.guard cfg).isSome = true) {state : State L}
    (hvalid : call.requires state.storage) :
    administer cfg origin (call :: rest) state =
      administer cfg origin rest
        (state.put (call.write state.storage) (call.report origin)) := by
  obtain ⟨pair, hguard⟩ := Option.isSome_iff_exists.mp hguard
  have hcall : dispatch cfg origin call state =
      (.ok (), state.put (call.write state.storage) (call.report origin)) :=
    (dispatch_guarded hguard).mpr ⟨has_access_iff.mpr (.inl hcommittee), hvalid, rfl⟩
  unfold administer
  rw [Exec.forEach_cons, Exec.bind_apply, hcall]

/-- What one call of a set-up leaves, another one requires no more of than of what was before. -/
theorem requires_write {call other : Extrinsic} (hcell : call.cell ≠ none)
    (hother : other.cell ≠ none) (hne : call.cell ≠ other.cell) {storage : Storage}
    (hvalid : other.requires storage) : other.requires (call.write storage) := by
  cases other with
  | setMpcAddress addr =>
      have hclear : storage.mpcClear = true := hvalid
      have hkept : (call.write storage).mpcAddr = storage.mpcAddr := by
        cases call with
        | setMpcAddress => exact absurd rfl hne
        | _ => rfl
      show (call.write storage).mpcClear = true
      unfold Storage.mpcClear
      rw [hkept]
      exact hclear
  | registerDomain | grantAccess | setFee | setFeeHandler => trivial
  | setFeeRate => exact hvalid
  | _ => exact absurd rfl hother

/-- The calls of a set-up go through one after the other. -/
theorem administer_setup (hcommittee : cfg.bridgeCommitteeOrigin origin = true)
    {calls : List Extrinsic} {state : State L} (h : IsSetup state.storage calls) :
    administer cfg origin calls state =
      (.ok (), state.put (calls.foldl (fun current call => call.write current) state.storage)
        (calls.flatMap fun call => call.report origin)) := by
  induction calls generalizing state with
  | nil => simp [administer, State.put]
  | cons call rest ih =>
      have hcell := h.cells call List.mem_cons_self
      have hguard : (call.guard cfg).isSome = true := by
        refine setup_cases (motive := fun call => (call.guard cfg).isSome = true)
          ?_ ?_ ?_ ?_ ?_ ?_ hcell
        all_goals
          intros
          rfl
      have hdistinct := h.distinct
      rw [List.map_cons, List.nodup_cons] at hdistinct
      have hrest : IsSetup (call.write state.storage) rest := by
        refine ⟨fun other hmem => h.cells other (List.mem_cons_of_mem _ hmem), hdistinct.2, ?_⟩
        intro other hmem
        refine requires_write hcell (h.cells other (List.mem_cons_of_mem _ hmem)) ?_
          (h.valid other (List.mem_cons_of_mem _ hmem))
        exact fun heq => hdistinct.1 (heq ▸ List.mem_map_of_mem hmem)
      rw [administer_cons hcommittee rest hguard (h.valid call List.mem_cons_self),
        @ih (state.put (call.write state.storage) (call.report origin)) hrest]
      simp [State.put]

/-- The committee can set a chain up in any order: every order of calls that write different entries
goes through, and storage, as far as it can be read, ledger and reports are the same. -/
theorem setup_order_irrelevant (hcommittee : cfg.bridgeCommitteeOrigin origin = true)
    {calls other : List Extrinsic} {state : State L} (h : IsSetup state.storage calls)
    (hperm : other.Perm calls) :
    ∃ final final', administer cfg origin calls state = (.ok (), final) ∧
      administer cfg origin other state = (.ok (), final') ∧
      final'.storage.readings = final.storage.readings ∧ final'.ledger = final.ledger ∧
      final'.events.Perm final.events := by
  have hother : IsSetup state.storage other :=
    ⟨fun call hmem => h.cells call (hperm.mem_iff.mp hmem), (hperm.map _).nodup_iff.mpr h.distinct,
      fun call hmem => h.valid call (hperm.mem_iff.mp hmem)⟩
  refine ⟨_, _, administer_setup hcommittee h, administer_setup hcommittee hother, ?_, rfl, ?_⟩
  · exact foldl_write_perm h.cells h.distinct hperm state.storage
  · exact (hperm.flatMap_right _).append_left _

/-! ## Reopening a route -/

/-- The calls that reopen a route. Setting the key unpauses every domain, and a domain can be
unpaused only once it is registered. -/
def reopening (storage : Storage) (key : MpcAddress) (domain : DomainID) (chainId : ChainID)
    (asset : AssetId) (fee : U128) : List Extrinsic :=
  (if storage.mpcClear then [.setMpcAddress key, .registerDomain domain chainId]
    else if storage.paused domain then [.registerDomain domain chainId, .unpauseBridge domain]
    else [.registerDomain domain chainId]) ++
  [.setFee domain asset fee, .setFeeHandler domain asset .basicFeeHandler]

/-- A storage in which nothing the committee decides stands in the way of a route. -/
structure Storage.Opened (storage : Storage) (domain : DomainID) (asset : AssetId) (fee : U128) :
    Prop where
  key : storage.mpcClear = false
  unpaused : storage.paused domain = false
  registered : storage.registered domain = true
  charged : ∀ amount, FeeHandlerRouter.getFee storage domain ⟨asset, .fungible amount⟩ = some fee

/-- Setting a fee and the handler for it opens a route that is otherwise open. -/
theorem administer_fee (hcommittee : cfg.bridgeCommitteeOrigin origin = true) {domain : DomainID}
    {state : State L} (hkey : state.storage.mpcClear = false)
    (hunpaused : state.storage.paused domain = false)
    (hregistered : state.storage.registered domain = true) (asset : AssetId) (fee : U128) :
    ∃ opened, administer cfg origin
        [.setFee domain asset fee, .setFeeHandler domain asset .basicFeeHandler] state =
          (.ok (), opened) ∧
      opened.storage.Opened domain asset fee ∧ opened.ledger = state.ledger ∧
      opened.storage.mpcAddr = state.storage.mpcAddr ∧
      opened.storage.depositCounts = state.storage.depositCounts ∧
      opened.storage.usedNonces = state.storage.usedNonces := by
  have hguard : ((Extrinsic.setFee domain asset fee).guard cfg).isSome = true := rfl
  have hguard' : ((Extrinsic.setFeeHandler domain asset .basicFeeHandler).guard cfg).isSome =
      true := rfl
  rw [administer_cons hcommittee _ hguard trivial, administer_cons hcommittee _ hguard' trivial]
  refine ⟨_, rfl, ⟨hkey, hunpaused, hregistered, ?_⟩, rfl, rfl, rfl, rfl⟩
  intro amount
  simp [FeeHandlerRouter.getFee, BasicFeeHandler.getFee, Extrinsic.write]

/-- The calls go through in every state and open the route. -/
theorem administer_reopening (hcommittee : cfg.bridgeCommitteeOrigin origin = true)
    {key : MpcAddress} (hkey : key ≠ .clear) (domain : DomainID) (chainId : ChainID)
    (asset : AssetId) (fee : U128) (state : State L) :
    ∃ opened, administer cfg origin (reopening state.storage key domain chainId asset fee) state =
        (.ok (), opened) ∧
      opened.storage.Opened domain asset fee ∧ opened.ledger = state.ledger ∧
      opened.storage.mpcAddr = (if state.storage.mpcClear then key else state.storage.mpcAddr) ∧
      opened.storage.depositCounts = state.storage.depositCounts ∧
      opened.storage.usedNonces = state.storage.usedNonces := by
  have hregister : ((Extrinsic.registerDomain domain chainId).guard cfg).isSome = true := rfl
  have hregistered : ∀ storage : Storage,
      ((Extrinsic.registerDomain domain chainId).write storage).registered domain = true := by
    intro storage
    simp [Extrinsic.write, Storage.registered]
  unfold reopening
  cases hclear : state.storage.mpcClear with
  | true =>
      have hset : ((Extrinsic.setMpcAddress key).guard cfg).isSome = true := rfl
      simp only [if_true, List.cons_append, List.nil_append]
      rw [administer_cons hcommittee _ hset hclear, administer_cons hcommittee _ hregister trivial]
      refine administer_fee hcommittee ?_ ?_ ?_ asset fee
      · simp [Storage.mpcClear, Extrinsic.write, hkey]
      · exact paused_flag_all state.storage domain
      · exact hregistered _
  | false =>
      cases hpaused : state.storage.paused domain with
      | true =>
          have hunpause : ((Extrinsic.unpauseBridge domain).guard cfg).isSome = true := rfl
          have hvalid : (Extrinsic.unpauseBridge domain).requires
              ((Extrinsic.registerDomain domain chainId).write state.storage) :=
            ⟨hregistered state.storage, hpaused⟩
          simp only [Bool.false_eq_true, if_false, if_true, List.cons_append, List.nil_append]
          rw [administer_cons hcommittee _ hregister trivial]
          rw [administer_cons hcommittee _ hunpause hvalid]
          refine administer_fee hcommittee ?_ ?_ ?_ asset fee
          · exact hclear
          · simp [Storage.paused, Extrinsic.write]
          · exact hregistered state.storage
      | false =>
          simp only [Bool.false_eq_true, if_false, List.cons_append, List.nil_append]
          rw [administer_cons hcommittee _ hregister trivial]
          refine administer_fee hcommittee ?_ ?_ ?_ asset fee
          · exact hclear
          · exact hpaused
          · exact hregistered state.storage

section Plain

variable {cfg : Config PlainLedger} {accounts : LocationToAccount}

/-- What the configuration asks of a deposit. -/
structure Depositable (cfg : Config PlainLedger) (domain : DomainID) (asset : AssetId)
    (amount fee : U128) (dest : MultiLocation) : Prop where
  destination : ∃ recipient, cfg.extractDestData dest = .ok (some (recipient, domain))
  bound : (extractAsset cfg ⟨asset, .fungible amount⟩).isSome = true
  affordable : fee < amount
  reserve : (getTokenReservedAccount cfg asset).isSome = true
  converted : ∃ published,
    cfg.decimalConverter.convertTo ⟨asset, .fungible (amount - fee)⟩ = .ok (some published)

/-- What the configuration asks of a proposal. -/
structure Payable (cfg : Config PlainLedger) (accounts : LocationToAccount) (proposal : Proposal)
    (payout : Payout) : Prop where
  checked : ∃ assetId amount, ridToAssetid cfg proposal.resourceId = some assetId ∧
    extractDepositData cfg proposal.data = .ok (amount, payout.location) ∧
    cfg.decimalConverter.convertFrom ⟨assetId, .fungible amount⟩ = .ok (some payout.asset) ∧
    getTokenReservedAccount cfg assetId = some payout.reserveAccount ∧
    (cfg.debugAssertions = true → amount ≠ 0)
  arrives : payout.arrives accounts = true

/-- On an open route a deposit that the sender can afford goes through. -/
theorem Storage.Opened.deposits
    (hcfg : cfg.assetTransactor = (PlainLedger.transactor accounts).lift)
    (hrouter : cfg.feeHandler = FeeHandlerRouter.getFee) {state : State PlainLedger}
    {domain : DomainID} {asset : AssetId} {fee amount : U128} {sender : AccountId}
    {dest : MultiLocation} (h : state.storage.Opened domain asset fee)
    (hasks : Depositable cfg domain asset amount fee dest)
    (henough : amount.toNat ≤ state.ledger.balance asset sender)
    (hcount : state.storage.depositCount domain ≠ BitVec.allOnes 64) :
    ∃ final, dispatch cfg (.signed sender) (.deposit ⟨asset, .fungible amount⟩ dest) state =
      (.ok (), final) := by
  obtain ⟨recipient, hdest⟩ := hasks.destination
  obtain ⟨⟨resourceId, value, kind⟩, hbound⟩ := Option.isSome_iff_exists.mp hasks.bound
  obtain ⟨reserve, hreserve⟩ := Option.isSome_iff_exists.mp hasks.reserve
  obtain ⟨published, hconverted⟩ := hasks.converted
  obtain ⟨hvalue, -⟩ := extract_asset_some hbound
  cases hvalue
  have hcharged : cfg.feeHandler state.storage domain ⟨asset, .fungible amount⟩ = some fee := by
    rw [hrouter]
    exact h.charged amount
  let receipt : Receipt := ⟨sender, recipient, domain, resourceId, amount, kind, fee, reserve,
    published⟩
  have hcollect : collect cfg ⟨asset, .fungible amount⟩ receipt state =
      (.ok (), { state with ledger := receipt.move cfg asset state.ledger }) :=
    (collect_plain hcfg rfl).mpr ⟨henough, rfl⟩
  exact ⟨_, dispatch_ok.mpr (deposit_ok.mpr ⟨receipt, _,
    ⟨rfl, h.key, hdest, h.unpaused, h.registered, hbound, hcharged, hasks.affordable, hreserve,
      hconverted, hcollect, hcount⟩, rfl⟩)⟩

/-- On an open route a signed proposal that is not executed yet and that its reserve covers is
executed. -/
theorem Storage.Opened.executes
    (hcfg : cfg.assetTransactor = (PlainLedger.transactor accounts).lift)
    (hrouter : cfg.feeHandler = FeeHandlerRouter.getFee) {state : State PlainLedger}
    {asset : AssetId} {fee : U128} {proposal : Proposal} {payout : Payout} {signature : Bytes}
    (h : state.storage.Opened proposal.originDomainId asset fee)
    (hasks : Payable cfg accounts proposal payout)
    (hfresh : isProposalExecuted state.storage proposal.depositNonce proposal.originDomainId =
      false)
    (hreserve : payout.asset.value ≤
      state.ledger.balance payout.asset.id payout.reserveAccount)
    (hsigned : verifyByMpcAddress cfg state.storage
      (constructEcdsaSigningProposalsData cfg [proposal]) signature = true) (relayer : Origin) :
    ∃ final, dispatch cfg relayer (.executeProposal [proposal] signature) state =
        (.ok (), final) ∧
      isProposalExecuted final.storage proposal.depositNonce proposal.originDomainId = true := by
  have hresolve : resolve cfg state.storage proposal = .ok payout :=
    resolve_ok.mpr ⟨h.unpaused, h.registered, hfresh, hasks.checked⟩
  have houtcome : outcomeOf cfg accounts state.storage proposal = .ok () := by
    simp [outcomeOf, hresolve, hasks.arrives]
  let call : Traffic := .batch ⟨relayer, [proposal], signature⟩
  have hcovered : ∀ other account, call.takes cfg state.storage other account ≤
      state.ledger.balance other account := by
    intro other account
    have htakes : call.takes cfg state.storage other account = payout.takes cfg other account := by
      simp [call, Traffic.takes, outflow, hresolve]
    rw [htakes]
    unfold Payout.takes
    split
    · rename_i hwhere
      rw [hwhere.2.1, hwhere.2.2]
      exact hreserve
    · exact Nat.zero_le _
  have hplanned : call.Planned cfg accounts state.storage := by
    refine ⟨h.key, List.cons_ne_nil _ _, hsigned, ?_⟩
    intro other hmem reason
    rw [List.mem_singleton.mp hmem, houtcome]
    simp
  have hdistinct : (call.proposals.map Proposal.key).Nodup := List.nodup_singleton _
  have hcall : call.perform cfg state = (.ok (), call.result cfg accounts state.storage state) := by
    refine (perform_plain hcfg hrouter rfl (fun _ _ => rfl) hdistinct hcovered).mpr
      ⟨hplanned, ?_, rfl⟩
    intro domain htarget
    cases htarget
  refine ⟨_, hcall, ?_⟩
  show isProposalExecuted (markOutcome proposal state.storage
    (outcomeOf cfg accounts state.storage proposal)) _ _ = true
  rw [houtcome]
  simp [markOutcome, is_proposal_executed_set]

/-- No state is beyond repair: the calls of `reopening` go through whatever the state, after them
every affordable deposit to the domain and every signed and covered proposal from it that was not
executed yet goes through, and counters and executed nonces are as before. -/
theorem route_reopenable (hcfg : cfg.assetTransactor = (PlainLedger.transactor accounts).lift)
    (hrouter : cfg.feeHandler = FeeHandlerRouter.getFee)
    (hcommittee : cfg.bridgeCommitteeOrigin origin = true) {key : MpcAddress}
    (hkey : key ≠ .clear) (domain : DomainID) (chainId : ChainID) (asset : AssetId) (fee : U128)
    (state : State PlainLedger) :
    (reopening state.storage key domain chainId asset fee).length ≤ 4 ∧
    ∃ opened, administer cfg origin (reopening state.storage key domain chainId asset fee) state =
        (.ok (), opened) ∧
      opened.ledger = state.ledger ∧
      opened.storage.mpcAddr = (if state.storage.mpcClear then key else state.storage.mpcAddr) ∧
      opened.storage.depositCounts = state.storage.depositCounts ∧
      opened.storage.usedNonces = state.storage.usedNonces ∧
      (∀ sender amount dest, Depositable cfg domain asset amount fee dest →
        amount.toNat ≤ state.ledger.balance asset sender →
        state.storage.depositCount domain ≠ BitVec.allOnes 64 →
        ∃ final, dispatch cfg (.signed sender) (.deposit ⟨asset, .fungible amount⟩ dest) opened =
          (.ok (), final)) ∧
      ∀ relayer proposal payout signature, proposal.originDomainId = domain →
        Payable cfg accounts proposal payout →
        isProposalExecuted state.storage proposal.depositNonce domain = false →
        payout.asset.value ≤ state.ledger.balance payout.asset.id payout.reserveAccount →
        verifyByMpcAddress cfg opened.storage
          (constructEcdsaSigningProposalsData cfg [proposal]) signature = true →
        ∃ final, dispatch cfg relayer (.executeProposal [proposal] signature) opened =
            (.ok (), final) ∧
          isProposalExecuted final.storage proposal.depositNonce domain = true := by
  obtain ⟨opened, hcalls, hopened, hledger, haddr, hcounts, hnonces⟩ :=
    administer_reopening hcommittee hkey domain chainId asset fee state
  refine ⟨?_, opened, hcalls, hledger, haddr, hcounts, hnonces, ?_, ?_⟩
  · unfold reopening
    split
    · exact Nat.le_refl 4
    · split
      · exact Nat.le_refl 4
      · exact Nat.le_succ 3
  · intro sender amount dest hasks henough hcount
    refine hopened.deposits hcfg hrouter hasks (hledger ▸ henough) ?_
    unfold Storage.depositCount at hcount ⊢
    rw [hcounts]
    exact hcount
  · rintro relayer proposal payout signature rfl hasks hfresh hreserve hsigned
    refine hopened.executes hcfg hrouter hasks ?_ (hledger ▸ hreserve) hsigned relayer
    rw [is_proposal_executed_congr hnonces]
    exact hfresh

end Plain

namespace Standalone

/-- The calls of a first set-up, with a fee on the native asset and a deputy who may pause. -/
def firstSetup : List Extrinsic :=
  [.setMpcAddress constantSigner, .registerDomain 1 1,
    .grantAccess plainConfig.bridgeIndex (name "pause_bridge") (Vector.replicate 32 5),
    .setFee 1 native 3, .setFeeHandler 1 native .basicFeeHandler]

/-- The first set-up goes through in reverse as well. -/
theorem setup_order_irrelevant_reversed :
    ∃ final final', administer plainConfig .root firstSetup (.genesis 1 ⟨fun _ _ => 2000⟩) =
        (.ok (), final) ∧
      administer plainConfig .root firstSetup.reverse (.genesis 1 ⟨fun _ _ => 2000⟩) =
        (.ok (), final') ∧
      final'.storage.readings = final.storage.readings := by
  have hsetup : IsSetup (State.genesis 1 (⟨fun _ _ => 2000⟩ : PlainLedger)).storage firstSetup := by
    refine ⟨by decide, by decide +kernel, ?_⟩
    intro call hmem
    simp only [firstSetup, List.mem_cons, List.not_mem_nil, or_false] at hmem
    obtain rfl | rfl | rfl | rfl | rfl := hmem
    · rfl
    all_goals trivial
  have hroot : plainConfig.bridgeCommitteeOrigin .root = true := rfl
  obtain ⟨final, final', hfinal, hfinal', hreadings, -⟩ :=
    setup_order_irrelevant hroot hsetup (List.reverse_perm firstSetup)
  exact ⟨final, final', hfinal, hfinal', hreadings⟩

/-- A chain on which the committee paused and unregistered domain 1. -/
def shutState : State PlainLedger :=
  dispatchAll plainConfig [(.root, .pauseBridge 1), (.root, .unregisterDomain 1 1)] feeState

/-- A deposit that the closed chain refuses goes through once it is reopened, and so does a
proposal. -/
theorem route_reopenable_shut :
    (dispatch plainConfig (.signed (Vector.replicate 32 7)) nativeDeposit shutState).1 =
      .error (.error (.bridge .bridgePaused)) ∧
    ∃ opened, administer plainConfig .root (reopening shutState.storage constantSigner 1 1 native 3)
        shutState = (.ok (), opened) ∧
      (∃ final, dispatch plainConfig (.signed (Vector.replicate 32 7)) nativeDeposit opened =
        (.ok (), final)) ∧
      ∃ final, dispatch plainConfig .none
          (.executeProposal [arrivingProposal] (List.replicate 65 0)) opened = (.ok (), final) ∧
        isProposalExecuted final.storage 0 1 = true := by
  have hroot : plainConfig.bridgeCommitteeOrigin .root = true := rfl
  have hkey : constantSigner ≠ .clear := by decide
  obtain ⟨-, opened, hcalls, -, haddr, -, -, hdeposits, hexecutes⟩ :=
    route_reopenable rfl rfl hroot hkey 1 1 native 3 shutState
  have hsigned : verifyByMpcAddress plainConfig opened.storage
      (constructEcdsaSigningProposalsData plainConfig [arrivingProposal])
        (List.replicate 65 0) = true := by
    unfold verifyByMpcAddress
    rw [haddr]
    decide +kernel
  refine ⟨by decide +kernel, opened, hcalls, ?_, ?_⟩
  · refine hdeposits _ 1003 nativeDest ⟨⟨[1, 0], by decide +kernel⟩, by decide +kernel, by decide,
      by decide +kernel, ⟨1000000000, by decide +kernel⟩⟩ (by decide +kernel) (by decide +kernel)
  · refine hexecutes .none arrivingProposal
      ⟨⟨native, .fungible 1000⟩, .ofAccount treasuryAccount, bridgeAccountNative⟩ _ rfl
      ⟨⟨native, 1000000000, ?_⟩, rfl⟩ (by decide +kernel) (by decide +kernel) hsigned
    exact ⟨by decide +kernel, by decide +kernel, by decide +kernel, by decide +kernel, nofun⟩

end Standalone

end Sygma
