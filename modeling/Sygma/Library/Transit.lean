import Mathlib.Algebra.BigOperators.Group.Finset.Piecewise
import Mathlib.Algebra.BigOperators.Group.List.Basic
import Mathlib.Algebra.GroupWithZero.Nat
import Mathlib.Algebra.Order.BigOperators.Group.Finset

/-!
# Values in transit

Parties send each other values under nonces, and a receiver remembers which nonces of which sender
it has taken in. What is in transit is what was sent and not yet received. `Transit.Advances` says
what one step of one party can do: it sends further messages, and it takes in at most one that was
outstanding. `Advances.total_le` is the accounting rule: what arrived has left transit, and nothing
enters transit that was not sent. Messages may be delivered in any order, late, or never; a nonce
that is marked stays marked.
-/

/-- A value sent to a party under a nonce. -/
structure Message (ι ν : Type) where
  dest : ι
  nonce : ν
  amount : Nat

/-- What each party has sent, in order, and which nonces of a sender a receiver has marked. -/
structure Transit (ι ν : Type) where
  sent : ι → List (Message ι ν)
  received : ι → ι → ν → Bool

namespace Transit

variable {ι ν : Type}

/-- What is still owed for a message. -/
def owed (transit : Transit ι ν) (sender : ι) (message : Message ι ν) : Nat :=
  if transit.received message.dest sender message.nonce then 0 else message.amount

/-- What is still owed for the messages of a sender. -/
def outstanding (transit : Transit ι ν) (sender : ι) : Nat :=
  ((transit.sent sender).map (transit.owed sender)).sum

/-- What is in transit. -/
def total [Fintype ι] (transit : Transit ι ν) : Nat :=
  ∑ sender, transit.outstanding sender

/-- A step of one party: it appends `added` to what it has sent, marks are kept, and the value
`arrived` is nothing or belongs to a message that was outstanding and is marked now. -/
structure Advances (before after : Transit ι ν) (party : ι) (added : List (Message ι ν))
    (arrived : Nat) : Prop where
  sent : after.sent party = before.sent party ++ added
  others : ∀ sender, sender ≠ party → after.sent sender = before.sent sender
  keeps : ∀ receiver sender nonce, before.received receiver sender nonce = true →
    after.received receiver sender nonce = true
  arrives : arrived = 0 ∨ ∃ sender, ∃ message ∈ before.sent sender, message.amount = arrived ∧
    before.received message.dest sender message.nonce = false ∧
    after.received message.dest sender message.nonce = true

variable {before after : Transit ι ν} {party : ι} {added : List (Message ι ν)} {arrived : Nat}

/-- Marks only lower what is owed. -/
theorem Advances.owed_le (h : Advances before after party added arrived) (sender : ι)
    (message : Message ι ν) : after.owed sender message ≤ before.owed sender message := by
  unfold owed
  cases hbefore : before.received message.dest sender message.nonce with
  | true => simp [h.keeps _ _ _ hbefore]
  | false =>
      cases after.received message.dest sender message.nonce with
      | true => exact Nat.zero_le _
      | false => exact Nat.le_refl _

theorem owed_le_amount (transit : Transit ι ν) (sender : ι) (message : Message ι ν) :
    transit.owed sender message ≤ message.amount := by
  unfold owed
  split
  · exact Nat.zero_le _
  · exact Nat.le_refl _

/-- A sum of values does not grow when none of them does, and falls by what one of them loses. -/
theorem sum_map_add_le {α : Type} {items : List α} {lower upper : α → Nat}
    (hle : ∀ item ∈ items, lower item ≤ upper item) {item : α} {amount : Nat}
    (hmem : item ∈ items) (hless : lower item + amount ≤ upper item) :
    (items.map lower).sum + amount ≤ (items.map upper).sum := by
  obtain ⟨front, back, rfl⟩ := List.append_of_mem hmem
  have hfront : (front.map lower).sum ≤ (front.map upper).sum :=
    List.sum_le_sum fun other hother => hle other (List.mem_append_left _ hother)
  have hback : (back.map lower).sum ≤ (back.map upper).sum :=
    List.sum_le_sum fun other hother => hle other (by simp [hother])
  simp only [List.map_append, List.map_cons, List.sum_append, List.sum_cons]
  omega

/-- What a party sends anew is all that can be added to what its messages are owed. -/
theorem Advances.outstanding_le [DecidableEq ι] (h : Advances before after party added arrived)
    (sender : ι) :
    after.outstanding sender ≤ ((before.sent sender).map (after.owed sender)).sum +
      if sender = party then (added.map Message.amount).sum else 0 := by
  unfold outstanding
  by_cases hsender : sender = party
  · subst hsender
    rw [h.sent, List.map_append, List.sum_append, if_pos rfl]
    exact Nat.add_le_add_left (List.sum_le_sum fun message _ => owed_le_amount _ _ _) _
  · rw [h.others sender hsender, if_neg hsender]
    exact Nat.le_add_right _ _

/-- The accounting rule: what arrived has left transit, and what entered it was sent. -/
theorem Advances.total_le [Fintype ι] [DecidableEq ι]
    (h : Advances before after party added arrived) :
    after.total + arrived ≤ before.total + (added.map Message.amount).sum := by
  have hsent : after.total ≤ (∑ sender, ((before.sent sender).map (after.owed sender)).sum) +
      (added.map Message.amount).sum := by
    refine (Finset.sum_le_sum fun sender _ => h.outstanding_le sender).trans ?_
    simp [Finset.sum_add_distrib]
  have hkept : ∀ sender, ((before.sent sender).map (after.owed sender)).sum ≤
      before.outstanding sender :=
    fun sender => List.sum_le_sum fun message _ => h.owed_le sender message
  have harrived : (∑ sender, ((before.sent sender).map (after.owed sender)).sum) + arrived ≤
      before.total := by
    rcases h.arrives with rfl | ⟨sender, message, hmem, rfl, hopen, hmarked⟩
    · exact Finset.sum_le_sum fun sender _ => hkept sender
    · -- the sender of the message is owed less by its amount, and nobody is owed more
      have hless : ((before.sent sender).map (after.owed sender)).sum + message.amount ≤
          before.outstanding sender :=
        sum_map_add_le (fun other _ => h.owed_le sender other) hmem
          (by simp [owed, hopen, hmarked])
      have hsum : ∑ other, (((before.sent other).map (after.owed other)).sum +
          if other = sender then message.amount else 0) ≤ before.total := by
        refine Finset.sum_le_sum fun other _ => ?_
        by_cases hother : other = sender
        · subst hother
          simpa using hless
        · simpa [hother] using hkept other
      simpa [Finset.sum_add_distrib] using hsum
  omega

/-- An outstanding message is part of what is in transit. -/
theorem amount_le_total [Fintype ι] {transit : Transit ι ν} {sender : ι} {message : Message ι ν}
    (hmem : message ∈ transit.sent sender)
    (hopen : transit.received message.dest sender message.nonce = false) :
    message.amount ≤ transit.total := by
  have howed : transit.owed sender message = message.amount := by simp [owed, hopen]
  calc message.amount
      = transit.owed sender message := howed.symm
    _ ≤ transit.outstanding sender := List.single_le_sum (by simp) _ (List.mem_map_of_mem hmem)
    _ ≤ transit.total :=
        Finset.single_le_sum (f := transit.outstanding) (fun _ _ => Nat.zero_le _)
          (Finset.mem_univ sender)

end Transit
