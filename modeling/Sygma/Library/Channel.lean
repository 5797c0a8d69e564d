import Mathlib.Algebra.Order.Group.Multiset
import Mathlib.Data.Set.Insert
import Sygma.Library.Run

/-!
# Numbered channels

Parties send each other payloads. Every sender and receiver have a channel of their own, on which
the payloads are numbered from zero in the order they are sent; the receiver takes them in any
order, and each number at most once. This is what a transport that neither loses, duplicates nor
invents messages looks like from outside. `conserved` says so for whole runs: what was in flight
at the start and what was sent since is, with multiplicities, what was received and what is in
flight now.
-/

/-- What was sent on every channel, in order, and which numbers of it were received. -/
@[ext] structure Channels (ι π : Type) where
  sent : ι → ι → List π
  received : ι → ι → Set Nat

namespace Channels

/-- A party sends a payload, or takes one. -/
inductive Action (ι π : Type) where
  | send (sender receiver : ι) (payload : π)
  | receive (sender receiver : ι) (number : Nat) (payload : π)

variable {ι π : Type}

/-- Only what was sent was received. -/
def Valid (channels : Channels ι π) : Prop :=
  ∀ sender receiver, ∀ number ∈ channels.received sender receiver,
    number < (channels.sent sender receiver).length

open Classical in
/-- The items of a list whose numbers are not in a set. -/
noncomputable def unreceived (items : List π) (received : Set Nat) : Multiset π :=
  ((items.zipIdx : Multiset (π × Nat)).filter fun item => item.2 ∉ received).map Prod.fst

/-- What was sent on a channel and not received yet. -/
noncomputable def inFlight (channels : Channels ι π) (sender receiver : ι) : Multiset π :=
  unreceived (channels.sent sender receiver) (channels.received sender receiver)

theorem in_flight_nil {channels : Channels ι π} {sender receiver : ι}
    (h : channels.sent sender receiver = []) : channels.inFlight sender receiver = 0 := by
  unfold inFlight
  rw [h]
  simp [unreceived]

variable [DecidableEq ι]

/-- Send a payload. -/
def push (channels : Channels ι π) (sender receiver : ι) (payload : π) : Channels ι π where
  sent i j :=
    if i = sender ∧ j = receiver then channels.sent i j ++ [payload] else channels.sent i j
  received := channels.received

/-- Take a number. -/
def take (channels : Channels ι π) (sender receiver : ι) (number : Nat) : Channels ι π where
  sent := channels.sent
  received i j :=
    if i = sender ∧ j = receiver then insert number (channels.received i j)
    else channels.received i j

/-- A number can be taken once, and only after a payload was sent under it. -/
inductive Step : Channels ι π → Action ι π → Channels ι π → Prop where
  | send (channels : Channels ι π) (sender receiver : ι) (payload : π) :
      Step channels (.send sender receiver payload) (channels.push sender receiver payload)
  | receive {channels : Channels ι π} {sender receiver : ι} {number : Nat} {payload : π}
      (hsent : (channels.sent sender receiver)[number]? = some payload)
      (hfresh : number ∉ channels.received sender receiver) :
      Step channels (.receive sender receiver number payload)
        (channels.take sender receiver number)

/-- The payload an action sends on a channel. -/
def Action.sentOn (sender receiver : ι) : Action ι π → Option π
  | .send i j payload => if i = sender ∧ j = receiver then some payload else none
  | .receive _ _ _ _ => none

/-- The payload an action takes from a channel. -/
def Action.receivedOn (sender receiver : ι) : Action ι π → Option π
  | .send _ _ _ => none
  | .receive i j _ payload => if i = sender ∧ j = receiver then some payload else none

/-! ## Items that were not received -/

section Unreceived

omit [DecidableEq ι]

variable {items : List π} {received : Set Nat} {number : Nat} {item : π}

/-- A new item has a new number. -/
theorem unreceived_append (hreceived : ∀ number ∈ received, number < items.length) (item : π) :
    unreceived (items ++ [item]) received = unreceived items received + {item} := by
  have hnew : items.length ∉ received := fun hmem => Nat.lt_irrefl _ (hreceived _ hmem)
  unfold unreceived
  rw [List.zipIdx_append, ← Multiset.coe_add, Multiset.filter_add, Multiset.map_add]
  simp [Multiset.filter_singleton, hnew]

/-- A number of a list belongs to one item. -/
theorem filter_zipIdx_eq (h : items[number]? = some item) :
    items.zipIdx.filter (fun indexed => indexed.2 = number) = [(item, number)] := by
  obtain ⟨hlt, rfl⟩ := List.getElem?_eq_some_iff.mp h
  have hsplit : items = items.take number ++ items[number] :: items.drop (number + 1) := by
    rw [← List.drop_eq_getElem_cons hlt, List.take_append_drop]
  have hlength : (items.take number).length = number := by
    rw [List.length_take]
    omega
  have hfront : (items.take number).zipIdx.filter (fun indexed => indexed.2 = number) = [] := by
    refine List.filter_eq_nil_iff.mpr ?_
    intro indexed hmem
    have hindex := List.snd_lt_of_mem_zipIdx hmem
    simp only [decide_eq_true_eq]
    omega
  have hback : ((items.drop (number + 1)).zipIdx (number + 1)).filter
      (fun indexed => indexed.2 = number) = [] := by
    refine List.filter_eq_nil_iff.mpr ?_
    intro indexed hmem
    have hindex := List.le_snd_of_mem_zipIdx hmem
    simp only [decide_eq_true_eq]
    omega
  conv_lhs => rw [hsplit]
  rw [List.zipIdx_append, List.filter_append, hfront, hlength, List.zipIdx_cons,
    List.filter_cons_of_pos (by simp)]
  simp [hback]

/-- Receiving a number takes its item out. -/
theorem unreceived_insert (hitem : items[number]? = some item) (hfresh : number ∉ received) :
    unreceived items (insert number received) + {item} = unreceived items received := by
  classical
  have hkept : ((items.zipIdx : Multiset (π × Nat)).filter fun indexed =>
      indexed.2 ∉ insert number received) =
        ((items.zipIdx : Multiset (π × Nat)).filter fun indexed => indexed.2 ∉ received).filter
          fun indexed => ¬ indexed.2 = number := by
    rw [Multiset.filter_filter]
    refine Multiset.filter_congr fun indexed _ => ?_
    rw [Set.mem_insert_iff, not_or]
  have htaken : ((items.zipIdx : Multiset (π × Nat)).filter fun indexed =>
      indexed.2 ∉ received).filter (fun indexed => indexed.2 = number) = {(item, number)} := by
    rw [Multiset.filter_comm, Multiset.filter_coe, filter_zipIdx_eq hitem]
    simp [Multiset.filter_singleton, hfresh]
  have hsplit := Multiset.filter_add_not (fun indexed : π × Nat => indexed.2 = number)
    ((items.zipIdx : Multiset (π × Nat)).filter fun indexed => indexed.2 ∉ received)
  rw [htaken, ← hkept] at hsplit
  have hmapped := congrArg (Multiset.map Prod.fst) hsplit
  rw [Multiset.map_add, Multiset.map_singleton, add_comm] at hmapped
  unfold unreceived
  convert hmapped

end Unreceived

/-! ## Conservation -/

section Conservation

variable {channels next : Channels ι π} {action : Action ι π}

theorem Step.valid (h : Step channels action next) (hvalid : channels.Valid) : next.Valid := by
  intro i j number hmem
  cases h with
  | send sender receiver payload =>
      have hlt := hvalid i j number hmem
      simp only [push]
      split
      · rw [List.length_append]
        omega
      · exact hlt
  | receive hsent hfresh =>
      simp only [take] at hmem ⊢
      split at hmem
      · rename_i hchannel
        obtain ⟨rfl, rfl⟩ := hchannel
        rcases Set.mem_insert_iff.mp hmem with rfl | hold
        · exact (List.getElem?_eq_some_iff.mp hsent).1
        · exact hvalid _ _ _ hold
      · exact hvalid _ _ _ hmem

/-- What one action does to a channel. -/
theorem Step.conserved (h : Step channels action next) (hvalid : channels.Valid)
    (sender receiver : ι) :
    next.inFlight sender receiver + (action.receivedOn sender receiver).toList =
      channels.inFlight sender receiver + (action.sentOn sender receiver).toList := by
  unfold inFlight
  cases h with
  | send i j payload =>
      by_cases hchannel : i = sender ∧ j = receiver
      · obtain ⟨rfl, rfl⟩ := hchannel
        simp [push, Action.receivedOn, Action.sentOn, unreceived_append (hvalid i j)]
      · have hother : ¬ (sender = i ∧ receiver = j) :=
          fun heq => hchannel ⟨heq.1.symm, heq.2.symm⟩
        simp [push, Action.receivedOn, Action.sentOn, hchannel, hother]
  | receive hsent hfresh =>
      rename_i i j number payload
      by_cases hchannel : i = sender ∧ j = receiver
      · obtain ⟨rfl, rfl⟩ := hchannel
        simpa [take, Action.receivedOn, Action.sentOn] using unreceived_insert hsent hfresh
      · have hother : ¬ (sender = i ∧ receiver = j) :=
          fun heq => hchannel ⟨heq.1.symm, heq.2.symm⟩
        simp [take, Action.receivedOn, Action.sentOn, hchannel, hother]

/-- Nothing is lost, duplicated or invented along a run. -/
theorem conserved {start final : Channels ι π} {trace : List (Action ι π)}
    (hrun : Run Step start trace final) (hvalid : start.Valid) (sender receiver : ι) :
    final.inFlight sender receiver + trace.filterMap (Action.receivedOn sender receiver) =
      start.inFlight sender receiver + trace.filterMap (Action.sentOn sender receiver) := by
  induction hrun with
  | refl => rfl
  | snoc hprefix hstep ih =>
      rename_i earlier middle last action
      have hmiddle := hprefix.invariant Valid hvalid fun _ _ _ h => h.valid
      have hlast := hstep.conserved hmiddle sender receiver
      have hone : ∀ f : Action ι π → Option π, [action].filterMap f = (f action).toList := by
        intro f
        cases h : f action <;> simp [h]
      rw [List.filterMap_append, List.filterMap_append, ← Multiset.coe_add, ← Multiset.coe_add,
        hone, hone]
      calc last.inFlight sender receiver +
            (↑(earlier.filterMap (Action.receivedOn sender receiver)) +
              ↑(action.receivedOn sender receiver).toList)
          = last.inFlight sender receiver + ↑(action.receivedOn sender receiver).toList +
              ↑(earlier.filterMap (Action.receivedOn sender receiver)) := by
            rw [add_assoc, add_comm (↑(action.receivedOn sender receiver).toList : Multiset π)]
        _ = middle.inFlight sender receiver + ↑(action.sentOn sender receiver).toList +
              ↑(earlier.filterMap (Action.receivedOn sender receiver)) := by rw [hlast]
        _ = middle.inFlight sender receiver +
              ↑(earlier.filterMap (Action.receivedOn sender receiver)) +
              ↑(action.sentOn sender receiver).toList := add_right_comm _ _ _
        _ = _ := by rw [ih, add_assoc]

end Conservation

/-! ## A party that sends several payloads -/

/-- Send payloads to several receivers. -/
def pushAll (channels : Channels ι π) (sender : ι) (messages : List (ι × π)) : Channels ι π where
  sent i j :=
    if i = sender then
      channels.sent i j ++ messages.filterMap fun message =>
        if message.1 = j then some message.2 else none
    else channels.sent i j
  received := channels.received

theorem run_sends (channels : Channels ι π) (sender : ι) (messages : List (ι × π)) :
    Run Step channels (messages.map fun message => .send sender message.1 message.2)
      (channels.pushAll sender messages) := by
  induction messages using List.reverseRecOn with
  | nil =>
      have hnone : channels.pushAll sender [] = channels := by
        ext i j
        · simp [pushAll]
        · rfl
      rw [hnone]
      exact .refl
  | append_singleton messages message ih =>
      have hlast : channels.pushAll sender (messages ++ [message]) =
          (channels.pushAll sender messages).push sender message.1 message.2 := by
        refine Channels.ext ?_ rfl
        funext i j
        by_cases hi : i = sender
        · by_cases hj : message.1 = j
          · simp [pushAll, push, hi, hj]
          · simp [pushAll, push, hi, hj, Ne.symm hj]
        · simp [pushAll, push, hi]
      rw [List.map_append, hlast]
      exact ih.snoc (.send _ _ _ _)

/-- Sending more changes no number. -/
theorem getElem?_push_all {channels : Channels ι π} {i j : ι} {number : Nat} {payload : π}
    (h : (channels.sent i j)[number]? = some payload) (sender : ι) (messages : List (ι × π)) :
    ((channels.pushAll sender messages).sent i j)[number]? = some payload := by
  obtain ⟨hlt, -⟩ := List.getElem?_eq_some_iff.mp h
  simp only [pushAll]
  split
  · rw [List.getElem?_append_left hlt, h]
  · exact h

end Channels
