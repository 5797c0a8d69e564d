import Sygma.Bridge.Pallet

/-!
# What an asset transactor may do

The asset transactor of a runtime is code outside the pallets. It keeps balances, and for a
location in another consensus system it can hand the asset back to the bridge, as the forwarder
does by calling `transfer`. `Confined` is the assumption under which the properties of whole runs
are proved: withdrawals, and deposits to an account of this chain, move balances only; any other
deposit moves balances and calls `transfer`, as often and in whatever order it likes. Nothing is
assumed about when a call fails or what it leaves behind when it does.
-/

namespace Sygma

/-- Events of pallets other than the five with storage: the forwarder, the XCM bridge, and those
that are not modelled. -/
def Event.isForeign : Event → Bool
  | .xcmTransferForward _ _ _ | .otherWorldTransferForward _ _ _ | .xcmTransferSend _ _ _
  | .foreign _ _ => true
  | _ => false

namespace Bridge

variable {L : Type}

/-- A change of balances: storage is as it was, and only events of other pallets are added. -/
structure Moves (state final : State L) : Prop where
  storage : final.storage = state.storage
  events : ∃ added, final.events = state.events ++ added ∧
    ∀ event ∈ added, event.isForeign = true

/-- A sequence of changes of balances and calls of `transfer`, whatever their outcomes. -/
inductive Transfers (cfg : Config L) (state : State L) : State L → Prop where
  | refl : Transfers cfg state state
  | moves {middle final : State L} :
      Transfers cfg state middle → Moves middle final → Transfers cfg state final
  | transfer {middle final : State L} {sender : Bytes32} {asset : MultiAsset}
      {dest : MultiLocation} {outcome : Except (Exec.Fault DispatchError) Unit} :
      Transfers cfg state middle → transfer cfg sender asset dest middle = (outcome, final) →
      Transfers cfg state final

/-- The asset transactor moves balances, and reaches the pallets through `transfer` only. -/
structure Confined (cfg : Config L) : Prop where
  withdraw : ∀ asset who state,
    Moves state (cfg.assetTransactor.withdrawAsset asset who state).2
  depositAccount : ∀ asset account state,
    Moves state (cfg.assetTransactor.depositAsset asset (.ofAccount account) state).2
  deposit : ∀ asset who state,
    Transfers cfg state (cfg.assetTransactor.depositAsset asset who state).2

theorem Moves.refl (state : State L) : Moves state state :=
  ⟨rfl, [], by simp⟩

theorem Moves.trans {state middle final : State L} (first : Moves state middle)
    (second : Moves middle final) : Moves state final := by
  obtain ⟨hstorage, added, hevents, hforeign⟩ := first
  obtain ⟨hstorage', added', hevents', hforeign'⟩ := second
  refine ⟨hstorage'.trans hstorage, added ++ added', ?_, ?_⟩
  · rw [hevents', hevents, List.append_assoc]
  · intro event hmem
    exact (List.mem_append.mp hmem).elim (hforeign event) (hforeign' event)

theorem Transfers.trans {cfg : Config L} {state middle final : State L}
    (first : Transfers cfg state middle) (second : Transfers cfg middle final) :
    Transfers cfg state final := by
  induction second with
  | refl => exact first
  | moves _ hmoves ih => exact .moves ih hmoves
  | transfer _ htransfer ih => exact .transfer ih htransfer

/-- Running a ledger operation is a change of balances, also when it fails. -/
theorem on_ledger_moves (operation : L → Except XcmError Unit × L) (state : State L) :
    Moves state (onLedger operation state).2 := by
  unfold onLedger
  rcases operation state.ledger with ⟨outcome, ledger⟩
  cases outcome <;> exact ⟨rfl, [], by simp⟩

/-- A transactor that acts on the ledger alone is confined. -/
theorem confined_of_lift {cfg : Config L} {transactor : LedgerTransactor L}
    (h : cfg.assetTransactor = transactor.lift) : Confined cfg where
  withdraw asset who state := by
    rw [h]
    exact on_ledger_moves _ _
  depositAccount asset account state := by
    rw [h]
    exact on_ledger_moves _ _
  deposit asset who state := by
    rw [h]
    exact .moves .refl (on_ledger_moves _ _)

end Bridge

end Sygma
