import Mathlib.Tactic.Common

/-!
# Relative addresses in a tree

A node of a tree is named by its path from the root. A relative address goes up a number of levels
from where it is read and then down a path; `resolve` gives the node it names, if it does not leave
the tree. `resolve_trans` lets an address be followed in two parts.
-/

namespace Address

variable {α : Type}

/-- The node reached from `base` by going up `parents` levels and down `interior`. -/
def resolve (base : List α) (parents : Nat) (interior : List α) : Option (List α) :=
  if parents ≤ base.length then some (base.take (base.length - parents) ++ interior) else none

/-- An address that does not go up names a node below its reader. -/
@[simp] theorem resolve_zero (base interior : List α) :
    resolve base 0 interior = some (base ++ interior) := by
  simp [resolve]

/-- An address that goes up one level is read from the parent. -/
@[simp] theorem resolve_one_concat (base : List α) (last : α) (interior : List α) :
    resolve (base ++ [last]) 1 interior = some (base ++ interior) := by
  simp [resolve]

/-- Going further down lengthens the address at its end. -/
theorem resolve_append (base : List α) (parents : Nat) (interior more : List α) :
    resolve base parents (interior ++ more) =
      (resolve base parents interior).map fun node => node ++ more := by
  unfold resolve
  split
  · simp
  · rfl

/-- Following an address and then a path below it is following the address with that path. -/
theorem resolve_trans {base middle : List α} {parents : Nat} {interior : List α}
    (h : resolve base parents interior = some middle) (more : List α) :
    resolve middle 0 more = resolve base parents (interior ++ more) := by
  rw [resolve_append, h, resolve_zero]
  rfl

end Address
