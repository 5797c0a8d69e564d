import Sygma.Library.Run

/-!
# Replaying a log

A log is replayed by applying its entries to a view, one after the other. A state is `Sourced` from
an earlier one when its log continues the earlier log and its view is what the new entries make of
the earlier view, up to a relation that replaying keeps. `Sourced.of_run` carries this from the
transitions of a system to its runs. `look_foldl_filter` is the locality rule: what an observer
sees of a replayed log it can follow from the entries that concern it.
-/

namespace Replay

variable {V E σ ε W : Type}

/-- A relation on views that replaying an entry on both sides keeps. -/
structure Stable (apply : V → E → V) (rel : V → V → Prop) : Prop where
  refl : ∀ view, rel view view
  trans : ∀ {first second third}, rel first second → rel second third → rel first third
  step : ∀ {first second} entry, rel first second → rel (apply first entry) (apply second entry)

variable {apply : V → E → V} {rel : V → V → Prop}

theorem stable_eq (apply : V → E → V) : Stable apply Eq where
  refl _ := rfl
  trans := Eq.trans
  step _ h := by rw [h]

/-- Replaying the same entries keeps related views related. -/
theorem Stable.foldl (h : Stable apply rel) (entries : List E) {first second : V}
    (hrel : rel first second) : rel (entries.foldl apply first) (entries.foldl apply second) := by
  induction entries generalizing first second with
  | nil => exact hrel
  | cons entry rest ih => exact ih (h.step entry hrel)

/-- A state is sourced from an earlier one: its log continues the earlier log, and its view is what
the new entries make of the earlier view. -/
def Sourced (apply : V → E → V) (rel : V → V → Prop) (view : σ → V) (log : σ → List E)
    (before after : σ) : Prop :=
  ∃ added, log after = log before ++ added ∧ rel (view after) (added.foldl apply (view before))

variable {view : σ → V} {log : σ → List E} {before middle after : σ}

/-- A state with the same log and a related view is sourced. -/
theorem Sourced.of_silent (hlog : log after = log before) (hview : rel (view after) (view before)) :
    Sourced apply rel view log before after :=
  ⟨[], by rw [hlog, List.append_nil], hview⟩

theorem Sourced.trans (hstable : Stable apply rel)
    (first : Sourced apply rel view log before middle)
    (second : Sourced apply rel view log middle after) :
    Sourced apply rel view log before after := by
  obtain ⟨added, hlog, hview⟩ := first
  obtain ⟨more, hlog', hview'⟩ := second
  refine ⟨added ++ more, by rw [hlog', hlog, List.append_assoc], ?_⟩
  rw [List.foldl_append]
  exact hstable.trans hview' (hstable.foldl more hview)

/-- A view that is equal is related. -/
theorem Sourced.weaken (hstable : Stable apply rel)
    (h : Sourced apply Eq view log before after) : Sourced apply rel view log before after := by
  obtain ⟨added, hlog, hview⟩ := h
  exact ⟨added, hlog, hview ▸ hstable.refl _⟩

/-- If every transition is sourced, so is every run. -/
theorem Sourced.of_run (hstable : Stable apply rel) {step : σ → ε → σ → Prop} {trace : List ε}
    (hstep : ∀ before entry after, step before entry after →
      Sourced apply rel view log before after)
    (hrun : Run step before trace after) : Sourced apply rel view log before after := by
  induction hrun with
  | refl => exact .of_silent rfl (hstable.refl _)
  | snoc _ hlast ih => exact ih.trans hstable (hstep _ _ _ hlast)

/-- An observer that follows only the entries that concern it sees what the whole replay leaves, if
an entry changes what it sees only when it concerns it, and then as it follows it. -/
theorem look_foldl_filter (look : V → W) (concerns : E → Bool) (follow : W → E → W)
    (hlook : ∀ view entry, look (apply view entry) =
      if concerns entry then follow (look view) entry else look view)
    (entries : List E) (start : V) :
    look (entries.foldl apply start) =
      (entries.filter concerns).foldl follow (look start) := by
  induction entries generalizing start with
  | nil => rfl
  | cons entry rest ih =>
      rw [List.foldl_cons, ih, hlook]
      by_cases hconcerns : concerns entry = true
      · rw [if_pos hconcerns, List.filter_cons_of_pos hconcerns, List.foldl_cons]
      · rw [if_neg hconcerns, List.filter_cons_of_neg hconcerns]

end Replay
