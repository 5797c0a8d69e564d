import Sygma.Bridge.Specs

/-!
# What transfers change

However often a transactor calls `transfer`, the storage changes in the deposit counters only, and
each counter grows by the number of deposits to its domain, which carry the nonces in between.
`Transfers.carries` is the result: it is what the properties of runs know about anything a
transactor can do.
-/

namespace Sygma

/-- The destination and nonce of a deposit event. -/
def Event.depositTo : Event → Option (DomainID × DepositNonce)
  | .deposit destDomainId _ depositNonce _ _ _ _ => some (destDomainId, depositNonce)
  | _ => none

theorem Event.deposit_to_of_foreign {event : Event} (h : event.isForeign = true) :
    event.depositTo = none := by
  cases event <;> first | rfl | cases h

namespace Bridge

variable {L : Type}

/-- The nonces of the deposits to a domain, in the order of their events. -/
def depositNonces (domain : DomainID) (events : List Event) : List Nat :=
  events.filterMap fun event =>
    match event.depositTo with
    | some (destDomainId, depositNonce) =>
        if destDomainId = domain then some depositNonce.toNat else none
    | none => none

@[simp] theorem deposit_nonces_nil (domain : DomainID) : depositNonces domain [] = [] := rfl

@[simp] theorem deposit_nonces_append (domain : DomainID) (events more : List Event) :
    depositNonces domain (events ++ more) =
      depositNonces domain events ++ depositNonces domain more :=
  List.filterMap_append

/-- Events that are no deposits carry no nonce. -/
theorem deposit_nonces_eq_nil (domain : DomainID) {events : List Event}
    (h : ∀ event ∈ events, event.depositTo = none) : depositNonces domain events = [] := by
  refine List.filterMap_eq_nil_iff.mpr fun event hmem => ?_
  simp [h event hmem]

/-- A deposit carries one nonce, for its own domain. -/
theorem deposit_nonces_receipt (receipt : Receipt) (asset : AssetId) (nonce : DepositNonce)
    (domain : DomainID) :
    depositNonces domain (receipt.events asset nonce) =
      if receipt.destDomainId = domain then [nonce.toNat] else [] := by
  by_cases hdomain : receipt.destDomainId = domain <;>
    simp [depositNonces, Receipt.events, Event.depositTo, hdomain]

/-- The deposits to a domain among `added` continue its counter without a gap, and the counter ends
behind the last of them. -/
structure Numbered (domain : DomainID) (before after : Storage) (added : List Event) : Prop where
  nonces : depositNonces domain added =
    List.range' (before.depositCount domain).toNat (depositNonces domain added).length
  count : (after.depositCount domain).toNat =
    (before.depositCount domain).toNat + (depositNonces domain added).length

/-- Without deposits the counters stay. -/
theorem Numbered.of_no_deposit {domain : DomainID} {before after : Storage} {added : List Event}
    (hcounts : after.depositCounts = before.depositCounts)
    (h : ∀ event ∈ added, event.depositTo = none) : Numbered domain before after added := by
  have hnil := deposit_nonces_eq_nil domain h
  constructor
  · simp [hnil]
  · simp [hnil, Storage.depositCount, hcounts]

theorem Numbered.trans {domain : DomainID} {before middle after : Storage}
    {added more : List Event} (first : Numbered domain before middle added)
    (second : Numbered domain middle after more) :
    Numbered domain before after (added ++ more) := by
  constructor
  · rw [deposit_nonces_append, List.length_append, ← List.range'_append_1, ← first.count,
      ← first.nonces, ← second.nonces]
  · rw [deposit_nonces_append, List.length_append, second.count, first.count, Nat.add_assoc]

/-- On the way from one state to another by transfers, a deposit succeeded with the given receipt
and issued the given event. -/
def Issued (cfg : Config L) (state final : State L) (asset : MultiAsset) (receipt : Receipt)
    (event : Event) : Prop :=
  ∃ origin dest before moved, Transfers cfg state before ∧
    Deposits cfg origin asset dest receipt before moved ∧
    Transfers cfg (receipt.issue asset.id moved) final ∧
    event = .deposit receipt.destDomainId receipt.resourceId
      (moved.storage.depositCount receipt.destDomainId) receipt.sender receipt.transferType
      (createDepositData receipt.published receipt.recipient) []

/-- The events a transfer may add: those of its own deposit, to a domain that is open in the
storage before, and those of other pallets. -/
def Carried (cfg : Config L) (state final : State L) (event : Event) : Prop :=
  match event with
  | .deposit destDomainId _ _ _ _ _ _ =>
      state.storage.mpcClear = false ∧ state.storage.paused destDomainId = false ∧
        state.storage.registered destDomainId = true ∧
        ∃ asset receipt, Issued cfg state final asset receipt event
  | .feeCollected _ _ _ _ _ => True
  | event => event.isForeign = true

/-- What any sequence of transfers and moves of balances can change. -/
structure Carries (cfg : Config L) (state final : State L) : Prop where
  transfers : Transfers cfg state final
  storage : final.storage =
    { state.storage with depositCounts := final.storage.depositCounts }
  events : ∃ added, final.events = state.events ++ added ∧
    (∀ event ∈ added, Carried cfg state final event) ∧
    ∀ domain, Numbered domain state.storage final.storage added

variable {cfg : Config L}

theorem Carried.of_foreign {state final : State L} {event : Event}
    (h : event.isForeign = true) : Carried cfg state final event := by
  cases event with
  | deposit => cases h
  | feeCollected => trivial
  | _ => exact h

/-- A deposit stays issued with more transfers before and after it. -/
theorem Issued.extend {state first last final : State L} {asset : MultiAsset} {receipt : Receipt}
    {event : Event} (h : Issued cfg first last asset receipt event)
    (hbefore : Transfers cfg state first) (hafter : Transfers cfg last final) :
    Issued cfg state final asset receipt event := by
  obtain ⟨origin, dest, before, moved, hleading, hdeposits, htrailing, hevent⟩ := h
  exact ⟨origin, dest, before, moved, hbefore.trans hleading, hdeposits, htrailing.trans hafter,
    hevent⟩

/-- Transfers around it keep an event carried: the guards of a deposit do not read the counters. -/
theorem Carried.extend {state first last final : State L} {event : Event}
    (h : Carried cfg first last event) (hbefore : Transfers cfg state first)
    (hstorage : first.storage =
      { state.storage with depositCounts := first.storage.depositCounts })
    (hafter : Transfers cfg last final) : Carried cfg state final event := by
  cases event with
  | deposit =>
      obtain ⟨hmpc, hopen, hregistered, asset, receipt, hissued⟩ := h
      rw [hstorage] at hmpc hopen hregistered
      exact ⟨hmpc, hopen, hregistered, asset, receipt, hissued.extend hbefore hafter⟩
  | _ => exact h

theorem Carries.trans {state middle final : State L} (first : Carries cfg state middle)
    (second : Carries cfg middle final) : Carries cfg state final := by
  obtain ⟨htransfers, hstorage, added, hevents, hcarried, hnumbered⟩ := first
  obtain ⟨htransfers', hstorage', added', hevents', hcarried', hnumbered'⟩ := second
  refine ⟨htransfers.trans htransfers', by rw [hstorage', hstorage], added ++ added', ?_, ?_,
    fun domain => (hnumbered domain).trans (hnumbered' domain)⟩
  · rw [hevents', hevents, List.append_assoc]
  · intro event hmem
    rcases List.mem_append.mp hmem with hmem | hmem
    · exact (hcarried event hmem).extend .refl rfl htransfers'
    · exact (hcarried' event hmem).extend htransfers hstorage .refl

/-- A change of balances is a transfer of nothing. -/
theorem Moves.carries {state final : State L} (h : Moves state final) :
    Carries cfg state final := by
  have htransfers : Transfers cfg state final := .moves .refl h
  obtain ⟨hstorage, added, hevents, hforeign⟩ := h
  refine ⟨htransfers, by rw [hstorage], added, hevents, ?_, ?_⟩
  · intro event hmem
    exact .of_foreign (hforeign event hmem)
  · intro domain
    refine .of_no_deposit (by rw [hstorage]) ?_
    intro event hmem
    exact Event.deposit_to_of_foreign (hforeign event hmem)

theorem toNat_succ_of_ne {nonce : DepositNonce} (h : nonce ≠ BitVec.allOnes 64) :
    (nonce + 1).toNat = nonce.toNat + 1 := by
  have hne : nonce.toNat ≠ 2 ^ 64 - 1 := by
    intro heq
    exact h (BitVec.eq_of_toNat_eq (by simpa using heq))
  have hlt := nonce.isLt
  rw [BitVec.toNat_add]
  exact Nat.mod_eq_of_lt (by simp; omega)

/-- The counter of a deposit's domain is one higher after it, and its event carries the nonce the
counter had. -/
theorem Deposits.numbered {origin : Origin} {asset : MultiAsset} {dest : MultiLocation}
    {receipt : Receipt} {state moved : State L}
    (h : Deposits cfg origin asset dest receipt state moved) (domain : DomainID) :
    Numbered domain moved.storage (receipt.issue asset.id moved).storage
      (receipt.events asset.id (moved.storage.depositCount receipt.destDomainId)) := by
  have hsucc := toNat_succ_of_ne h.counted
  by_cases hdomain : receipt.destDomainId = domain
  · subst hdomain
    constructor
    · simp [deposit_nonces_receipt]
    · simpa [deposit_nonces_receipt, Storage.depositCount, Receipt.issue] using hsucc
  · constructor
    · simp [deposit_nonces_receipt, hdomain]
    · simp [deposit_nonces_receipt, hdomain, Storage.depositCount, Receipt.issue,
        Ne.symm hdomain]

/-- A deposit that succeeds is a transfer that succeeds. -/
theorem deposit_transfers {origin : Origin} {asset : MultiAsset} {dest : MultiLocation}
    {state final : State L} (h : deposit cfg origin asset dest state = (.ok (), final)) :
    Transfers cfg state final := by
  obtain ⟨receipt, moved, hdeposits, -⟩ := deposit_ok.mp h
  rw [hdeposits.signed] at h
  exact .transfer .refl h

/-- A deposit that succeeds adds one to the counter of its domain, and one event with the nonce
the counter had. -/
theorem deposit_carries (hcfg : Confined cfg) {origin : Origin}
    {asset : MultiAsset} {dest : MultiLocation} {state final : State L}
    (h : deposit cfg origin asset dest state = (.ok (), final)) : Carries cfg state final := by
  have htransfers := deposit_transfers h
  obtain ⟨receipt, moved, hdeposits, rfl⟩ := deposit_ok.mp h
  obtain ⟨hstorage, added, hevents, hforeign⟩ := collect_moves hcfg hdeposits.collected
  refine ⟨htransfers, by simp only [Receipt.issue, State.put_storage, hstorage],
    added ++ receipt.events asset.id (moved.storage.depositCount receipt.destDomainId), ?_, ?_, ?_⟩
  · rw [Receipt.issue, State.put_events, hevents, List.append_assoc]
  · intro event hmem
    rcases List.mem_append.mp hmem with hmem | hmem
    · exact .of_foreign (hforeign event hmem)
    simp only [Receipt.events, List.mem_cons, List.not_mem_nil, or_false] at hmem
    rcases hmem with rfl | rfl
    · exact ⟨hdeposits.mpc, hdeposits.open_, hdeposits.registered, asset, receipt, origin, dest,
        state, moved, .refl, hdeposits, .refl, rfl⟩
    · trivial
  · intro domain
    have hnone : ∀ event ∈ added, event.depositTo = none := fun event hmem =>
      Event.deposit_to_of_foreign (hforeign event hmem)
    exact (Numbered.of_no_deposit (by rw [hstorage]) hnone).trans (hdeposits.numbered domain)

/-- Whatever a transactor does through `transfer`, storage changes in the deposit counters only,
and these number the deposits. -/
theorem Transfers.carries (hcfg : Confined cfg) {state final : State L}
    (h : Transfers cfg state final) : Carries cfg state final := by
  induction h with
  | refl => exact (Moves.refl state).carries
  | moves _ hmoves ih => exact ih.trans hmoves.carries
  | transfer _ htransfer ih =>
      rename_i outcome _
      cases outcome with
      | ok done => exact ih.trans (deposit_carries hcfg htransfer)
      | error fault =>
          have hsame := Exec.transactional_error htransfer
          exact hsame ▸ ih

end Bridge

end Sygma
