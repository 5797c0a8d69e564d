import Mathlib.Data.List.Induction
import Mathlib.Tactic.Common

/-!
# Runs of a labelled transition system

`Run step start trace finish` says that the transitions whose labels are listed in `trace`, in
this order, lead from `start` to `finish`. A label can carry as much of the transition as a client
needs. `Run.split` and `Run.at_entry` cut a run at a point of its trace, and `Run.invariant` is the
induction rule: what holds at the start and is kept by every transition holds at the end.
-/

/-- A finite run of a labelled transition system, with the labels of its transitions. -/
inductive Run {σ ε : Type} (step : σ → ε → σ → Prop) (start : σ) : List ε → σ → Prop where
  | refl : Run step start [] start
  | snoc {trace : List ε} {middle finish : σ} {entry : ε} :
      Run step start trace middle → step middle entry finish →
      Run step start (trace ++ [entry]) finish

namespace Run

variable {σ ε : Type} {step : σ → ε → σ → Prop} {start middle finish : σ}
  {trace rest : List ε} {entry : ε}

/-- Two runs compose. -/
theorem append (first : Run step start trace middle) (second : Run step middle rest finish) :
    Run step start (trace ++ rest) finish := by
  induction second with
  | refl => simpa using first
  | snoc _ hstep ih =>
      rw [← List.append_assoc]
      exact .snoc ih hstep

/-- A transition followed by a run is a run. -/
theorem cons (hstep : step start entry middle) (hrun : Run step middle trace finish) :
    Run step start (entry :: trace) finish :=
  append (.snoc .refl hstep) hrun

/-- The last transition of a run. -/
theorem snoc_iff :
    Run step start (trace ++ [entry]) finish ↔
      ∃ middle, Run step start trace middle ∧ step middle entry finish := by
  constructor
  · intro h
    generalize htrace : trace ++ [entry] = whole at h
    cases h with
    | refl => simp at htrace
    | snoc hrun hstep =>
        obtain ⟨rfl, hlast⟩ := List.append_inj' htrace rfl
        cases hlast
        exact ⟨_, hrun, hstep⟩
  · rintro ⟨middle, hrun, hstep⟩
    exact .snoc hrun hstep

/-- A run can be cut at any point of its trace. -/
theorem split (h : Run step start (trace ++ rest) finish) :
    ∃ middle, Run step start trace middle ∧ Run step middle rest finish := by
  induction rest using List.reverseRecOn generalizing finish with
  | nil => exact ⟨finish, by simpa using h, .refl⟩
  | append_singleton rest entry ih =>
      rw [← List.append_assoc] at h
      obtain ⟨last, hrun, hstep⟩ := snoc_iff.mp h
      obtain ⟨middle, hfirst, hsecond⟩ := ih hrun
      exact ⟨middle, hfirst, .snoc hsecond hstep⟩

/-- The transition at a point of the trace, with the runs before and after it. -/
theorem at_entry (h : Run step start (trace ++ entry :: rest) finish) :
    ∃ before after, Run step start trace before ∧ step before entry after ∧
      Run step after rest finish := by
  rw [show trace ++ entry :: rest = (trace ++ [entry]) ++ rest by simp] at h
  obtain ⟨after, hprefix, hrest⟩ := split h
  obtain ⟨before, hrun, hstep⟩ := snoc_iff.mp hprefix
  exact ⟨before, after, hrun, hstep, hrest⟩

/-- Every entry of the trace is a transition from a point of the run. -/
theorem exists_step (h : Run step start trace finish) (hmem : entry ∈ trace) :
    ∃ before after, step before entry after := by
  obtain ⟨front, back, rfl⟩ := List.append_of_mem hmem
  obtain ⟨before, after, -, hstep, -⟩ := h.at_entry
  exact ⟨before, after, hstep⟩

/-- What holds at the start and is kept by every transition holds at the end. -/
theorem invariant (inv : σ → Prop) (hrun : Run step start trace finish) (hstart : inv start)
    (hstep : ∀ before entry after, step before entry after → inv before → inv after) :
    inv finish := by
  induction hrun with
  | refl => exact hstart
  | snoc _ hlast ih => exact hstep _ _ _ hlast ih

/-- An invariant that only transitions with an admitted label are known to keep holds at the end of
a run all of whose labels are admitted. -/
theorem invariant_of_forall (inv : σ → Prop) (admitted : ε → Prop)
    (hrun : Run step start trace finish) (hstart : inv start)
    (hall : ∀ entry ∈ trace, admitted entry)
    (hstep : ∀ before entry after, step before entry after → admitted entry →
      inv before → inv after) :
    inv finish := by
  induction hrun with
  | refl => exact hstart
  | snoc _ hlast ih =>
      exact hstep _ _ _ hlast (hall _ (by simp)) (ih fun entry hmem => hall entry (by simp [hmem]))

/-- Such an invariant also holds before every transition of the run. -/
theorem invariant_at (inv : σ → Prop) (admitted : ε → Prop)
    (hrun : Run step start trace finish) (hstart : inv start)
    (hall : ∀ entry ∈ trace, admitted entry)
    (hstep : ∀ before entry after, step before entry after → admitted entry →
      inv before → inv after) :
    ∀ entry ∈ trace, ∃ before after, inv before ∧ step before entry after := by
  intro entry hmem
  obtain ⟨front, back, rfl⟩ := List.append_of_mem hmem
  obtain ⟨before, after, hfront, hlast, -⟩ := hrun.at_entry
  have hbefore := hfront.invariant_of_forall inv admitted hstart
    (fun earlier hearlier => hall earlier (List.mem_append_left _ hearlier)) hstep
  exact ⟨before, after, hbefore, hlast⟩

end Run
