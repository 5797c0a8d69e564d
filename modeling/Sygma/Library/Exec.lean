import Mathlib.Tactic.Common

/-!
# Computations over a store that can fail or panic

`Exec σ ε α` reads and writes a store `σ` and ends with a value, with an error `ε`, or with a
panic. A computation that fails keeps the writes it made before it stopped, as code that writes a
global store and returns early does; `transactional` is the wrapper that undoes them. A panic
passes through every error handler.

The `_ok` lemmas invert a successful computation one operation at a time. A proof about a
modelled function unfolds it once and rewrites with them, and callers use the resulting
specification. `FaultsIn` and `Leaves` have one rule per operation as well: they say which faults a
computation can end with, and how the store it leaves, also when it fails, relates to the first.
-/

namespace Exec

/-- Why a computation can abort: an arithmetic operation out of range, an index out of bounds, a
missing value that was taken to be present, or an assertion that does not hold. -/
inductive Panic where
  | arithmetic
  | index
  | unwrap
  | assertion
  deriving DecidableEq, Repr

/-- How a computation ends without a value: it returned an error, or it panicked. -/
inductive Fault (ε : Type) where
  | error (error : ε)
  | panic (reason : Panic)
  deriving DecidableEq, Repr

end Exec

open Exec (Panic Fault)

/-- A computation over a store `σ` that returns `α`, fails with `ε`, or panics. The final store is
part of the result in all three cases. -/
def Exec (σ ε α : Type) : Type :=
  σ → Except (Fault ε) α × σ

namespace Exec

variable {σ ε ε' α β : Type}

/-- Continue with `next` after a value; stop with the current store after a fault. -/
def andThen (first : Exec σ ε α) (next : α → Exec σ ε β) : Exec σ ε β := fun store =>
  match first store with
  | (.ok value, middle) => next value middle
  | (.error fault, middle) => (.error fault, middle)

instance : Monad (Exec σ ε) where
  pure value := fun store => (.ok value, store)
  bind := andThen

/-- Stop with an error. -/
def raise (error : ε) : Exec σ ε α := fun store =>
  (.error (.error error), store)

/-- Stop with an error unless the condition holds. -/
def ensure (condition : Bool) (error : ε) : Exec σ ε Unit :=
  if condition then pure () else raise error

/-- Run a computation only if the condition holds. -/
def when (condition : Bool) (body : Exec σ ε Unit) : Exec σ ε Unit :=
  if condition then body else pure ()

/-- Look something up in the store. -/
def read (query : σ → α) : Exec σ ε α := fun store =>
  (.ok (query store), store)

/-- Write to the store. -/
def modify (update : σ → σ) : Exec σ ε Unit := fun store =>
  (.ok (), update store)

/-- The value of an option, or an error when there is none. -/
def okOr (option : Option α) (error : ε) : Exec σ ε α :=
  match option with
  | some value => pure value
  | none => raise error

/-- The value of a pure computation that may panic. -/
def orPanic (result : Except Panic α) : Exec σ ε α := fun store =>
  match result with
  | .ok value => (.ok value, store)
  | .error reason => (.error (.panic reason), store)

/-- A pure computation that returns a value, an error or a panic. -/
def lift (result : Except (Fault ε) α) : Exec σ ε α := fun store =>
  (result, store)

/-- Translate the error of a computation. -/
def mapErr (translate : ε → ε') (body : Exec σ ε α) : Exec σ ε' α := fun store =>
  match body store with
  | (.ok value, final) => (.ok value, final)
  | (.error (.error error), final) => (.error (.error (translate error)), final)
  | (.error (.panic reason), final) => (.error (.panic reason), final)

/-- Run a computation in a storage layer: a fault undoes all its writes. -/
def transactional (body : Exec σ ε α) : Exec σ ε α := fun store =>
  match body store with
  | (.ok value, final) => (.ok value, final)
  | (.error fault, _) => (.error fault, store)

/-- Handle both outcomes of a computation, keeping its writes in either case. A panic is not
handled. -/
def mapOrElse (body : Exec σ ε α) (onError : ε → Exec σ ε' β) (onOk : α → Exec σ ε' β) :
    Exec σ ε' β := fun store =>
  match body store with
  | (.ok value, middle) => onOk value middle
  | (.error (.error error), middle) => onError error middle
  | (.error (.panic reason), middle) => (.error (.panic reason), middle)

/-- Run the body for each item in order, stopping at the first fault. -/
def forEach (items : List α) (body : α → Exec σ ε Unit) : Exec σ ε Unit :=
  match items with
  | [] => pure ()
  | item :: rest => do
      body item
      forEach rest body

/-! ## Equations -/

@[simp] theorem pure_apply (value : α) (store : σ) :
    (pure value : Exec σ ε α) store = (.ok value, store) := rfl

@[simp] theorem raise_apply (error : ε) (store : σ) :
    (raise error : Exec σ ε α) store = (.error (.error error), store) := rfl

@[simp] theorem read_apply (query : σ → α) (store : σ) :
    (read query : Exec σ ε α) store = (.ok (query store), store) := rfl

@[simp] theorem modify_apply (update : σ → σ) (store : σ) :
    (modify update : Exec σ ε Unit) store = (.ok (), update store) := rfl

theorem bind_apply (first : Exec σ ε α) (next : α → Exec σ ε β) (store : σ) :
    (first >>= next) store =
      match first store with
      | (.ok value, middle) => next value middle
      | (.error fault, middle) => (.error fault, middle) := rfl

/-- Sequences can be regrouped. -/
theorem bind_assoc {γ : Type} (first : Exec σ ε α) (next : α → Exec σ ε β)
    (last : β → Exec σ ε γ) :
    (first >>= next) >>= last = first >>= fun value => next value >>= last := by
  funext store
  simp only [bind_apply]
  rcases first store with ⟨outcome, middle⟩
  cases outcome <;> rfl

/-- A value continues with the same store. -/
theorem pure_bind_apply (value : α) (next : α → Exec σ ε β) (store : σ) :
    (pure value >>= next) store = next value store := rfl

/-- A look-up continues with its value and the same store. -/
@[simp] theorem read_bind_apply (query : σ → α) (next : α → Exec σ ε β) (store : σ) :
    (read query >>= next) store = next (query store) store := rfl

/-- A write continues with the updated store. -/
@[simp] theorem modify_bind_apply (update : σ → σ) (next : Unit → Exec σ ε β) (store : σ) :
    (modify update >>= next) store = next () (update store) := rfl

/-- A check either continues with the same store or stops there. -/
theorem ensure_bind_apply (condition : Bool) (error : ε) (next : Unit → Exec σ ε β) (store : σ) :
    (ensure condition error >>= next) store =
      if condition then next () store else (.error (.error error), store) := by
  cases condition <;> rfl

/-- An option either continues with its value or stops. -/
theorem okOr_bind_apply (option : Option α) (error : ε) (next : α → Exec σ ε β) (store : σ) :
    (okOr option error >>= next) store =
      match option with
      | some value => next value store
      | none => (.error (.error error), store) := by
  cases option <;> rfl

/-- A pure computation either continues with its value or panics. -/
theorem orPanic_bind_apply (result : Except Panic α) (next : α → Exec σ ε β) (store : σ) :
    (orPanic result >>= next) store =
      match result with
      | .ok value => next value store
      | .error reason => (.error (.panic reason), store) := by
  cases result <;> rfl

/-- A pure computation either continues with its value or stops with its fault. -/
theorem lift_bind_apply (result : Except (Fault ε) α) (next : α → Exec σ ε β) (store : σ) :
    (lift result >>= next) store =
      match result with
      | .ok value => next value store
      | .error fault => (.error fault, store) := by
  cases result <;> rfl

/-! ## Successful computations -/

variable {store final : σ} {value : α}

/-- A sequence succeeds when both parts do, the second from the store the first leaves. -/
theorem bind_ok {first : Exec σ ε α} {next : α → Exec σ ε β} {result : β} :
    (first >>= next) store = (.ok result, final) ↔
      ∃ value middle, first store = (.ok value, middle) ∧
        next value middle = (.ok result, final) := by
  rw [bind_apply]
  rcases hfirst : first store with ⟨outcome, middle⟩
  cases outcome with
  | ok value => simp
  | error fault => simp

/-- A sequence stops where its first part or its second part stops. -/
theorem bind_error {first : Exec σ ε α} {next : α → Exec σ ε β} {fault : Fault ε} :
    (first >>= next) store = (.error fault, final) ↔
      first store = (.error fault, final) ∨
        ∃ value middle, first store = (.ok value, middle) ∧
          next value middle = (.error fault, final) := by
  rw [bind_apply]
  rcases hfirst : first store with ⟨outcome, middle⟩
  cases outcome with
  | ok value => simp
  | error fault => simp

@[simp] theorem pure_ok {other : α} :
    (pure value : Exec σ ε α) store = (.ok other, final) ↔ value = other ∧ store = final := by
  simp

@[simp] theorem read_ok {query : σ → α} {other : α} :
    (read query : Exec σ ε α) store = (.ok other, final) ↔
      query store = other ∧ store = final := by
  simp

@[simp] theorem modify_ok {update : σ → σ} {done : Unit} :
    (modify update : Exec σ ε Unit) store = (.ok done, final) ↔ update store = final := by
  simp

@[simp] theorem raise_ok {error : ε} :
    ¬ (raise error : Exec σ ε α) store = (.ok value, final) := by
  simp

@[simp] theorem ensure_ok {condition : Bool} {error : ε} {done : Unit} :
    (ensure condition error : Exec σ ε Unit) store = (.ok done, final) ↔
      condition = true ∧ store = final := by
  cases condition <;> simp [ensure]

@[simp] theorem okOr_ok {option : Option α} {error : ε} :
    (okOr option error : Exec σ ε α) store = (.ok value, final) ↔
      option = some value ∧ store = final := by
  cases option <;> simp [okOr]

@[simp] theorem orPanic_ok {result : Except Panic α} :
    (orPanic result : Exec σ ε α) store = (.ok value, final) ↔
      result = .ok value ∧ store = final := by
  cases result <;> simp [orPanic]

@[simp] theorem lift_ok {result : Except (Fault ε) α} :
    (lift result : Exec σ ε α) store = (.ok value, final) ↔
      result = .ok value ∧ store = final := by
  simp [lift]

@[simp] theorem mapErr_ok {translate : ε → ε'} {body : Exec σ ε α} :
    mapErr translate body store = (.ok value, final) ↔ body store = (.ok value, final) := by
  unfold mapErr
  rcases body store with ⟨outcome, middle⟩
  rcases outcome with fault | value
  · cases fault <;> simp
  · simp

theorem mapErr_error {translate : ε → ε'} {body : Exec σ ε α} {error : ε'} :
    mapErr translate body store = (.error (.error error), final) ↔
      ∃ inner, body store = (.error (.error inner), final) ∧ translate inner = error := by
  unfold mapErr
  rcases body store with ⟨outcome, middle⟩
  rcases outcome with (inner | reason) | value
  · simp [and_comm]
  · simp
  · simp

@[simp] theorem transactional_ok {body : Exec σ ε α} :
    transactional body store = (.ok value, final) ↔ body store = (.ok value, final) := by
  unfold transactional
  rcases body store with ⟨outcome, middle⟩
  cases outcome <;> simp

/-- A storage layer ends as its body does. -/
theorem transactional_fst (body : Exec σ ε α) (store : σ) :
    (transactional body store).1 = (body store).1 := by
  unfold transactional
  rcases body store with ⟨outcome, middle⟩
  cases outcome <;> rfl

/-- A fault inside a storage layer leaves the store as it was. -/
theorem transactional_error {body : Exec σ ε α} {fault : Fault ε}
    (h : transactional body store = (.error fault, final)) : final = store := by
  unfold transactional at h
  rcases hbody : body store with ⟨outcome, middle⟩
  cases outcome with
  | ok value => simp [hbody] at h
  | error other =>
      simp only [hbody, Prod.mk.injEq] at h
      exact h.2.symm

/-- Nesting storage layers is the same as one layer. -/
@[simp] theorem transactional_transactional (body : Exec σ ε α) :
    transactional (transactional body) = transactional body := by
  funext store
  simp only [transactional]
  rcases body store with ⟨outcome, middle⟩
  cases outcome <;> rfl

/-! A sequence whose first part does not change the store, or only writes to it, succeeds when the
rest does. -/

theorem read_bind_ok {query : σ → α} {next : α → Exec σ ε β} {result : β} :
    (read query >>= next) store = (.ok result, final) ↔
      next (query store) store = (.ok result, final) := Iff.rfl

theorem modify_bind_ok {update : σ → σ} {next : Unit → Exec σ ε β} {result : β} :
    (modify update >>= next) store = (.ok result, final) ↔
      next () (update store) = (.ok result, final) := Iff.rfl

theorem okOr_bind_ok {option : Option α} {error : ε} {next : α → Exec σ ε β} {result : β} :
    (okOr option error >>= next) store = (.ok result, final) ↔
      ∃ value, option = some value ∧ next value store = (.ok result, final) := by
  cases option <;> simp [okOr_bind_apply]

theorem orPanic_bind_ok {outcome : Except Panic α} {next : α → Exec σ ε β} {result : β} :
    (orPanic outcome >>= next) store = (.ok result, final) ↔
      ∃ value, outcome = .ok value ∧ next value store = (.ok result, final) := by
  cases outcome <;> simp [orPanic_bind_apply]

/-- A pure computation that starts with a value continues with it. -/
theorem except_ok_bind {φ : Type} (value : α) (next : α → Except φ β) :
    (Except.ok value >>= next) = next value := rfl

/-- A sequence of pure computations succeeds when both parts do. -/
theorem except_bind_ok {φ : Type} {first : Except φ α} {next : α → Except φ β} {result : β} :
    (first >>= next) = .ok result ↔ ∃ value, first = .ok value ∧ next value = .ok result := by
  cases first with
  | ok value => simp [bind, Except.bind]
  | error fault => simp [bind, Except.bind]

/-- A sequence of pure computations fails when its first part does, or else its second. -/
theorem except_bind_error {φ : Type} {first : Except φ α} {next : α → Except φ β} {fault : φ} :
    (first >>= next) = .error fault ↔
      first = .error fault ∨ ∃ value, first = .ok value ∧ next value = .error fault := by
  cases first with
  | ok value => simp [bind, Except.bind]
  | error other => simp [bind, Except.bind]

/-! ## Faults -/

/-- Every fault the computation can end with is among the allowed ones. -/
def FaultsIn (allowed : Fault ε → Prop) (body : Exec σ ε α) : Prop :=
  ∀ store fault final, body store = (.error fault, final) → allowed fault

variable {allowed : Fault ε → Prop}

theorem FaultsIn.mono {fewer : Fault ε → Prop} {body : Exec σ ε α} (h : FaultsIn fewer body)
    (hmore : ∀ fault, fewer fault → allowed fault) : FaultsIn allowed body :=
  fun store fault final hstop => hmore fault (h store fault final hstop)

theorem faultsIn_pure (value : α) : FaultsIn allowed (pure value : Exec σ ε α) := by
  intro store fault final h
  cases h

theorem faultsIn_read (query : σ → α) : FaultsIn allowed (read query : Exec σ ε α) := by
  intro store fault final h
  cases h

theorem faultsIn_modify (update : σ → σ) : FaultsIn allowed (modify update : Exec σ ε Unit) := by
  intro store fault final h
  cases h

theorem faultsIn_okOr (option : Option α) {error : ε} (h : allowed (.error error)) :
    FaultsIn allowed (okOr option error : Exec σ ε α) := by
  intro store fault final hstop
  cases option with
  | none =>
      cases hstop
      exact h
  | some value => cases hstop

theorem faultsIn_orPanic {result : Except Panic α}
    (h : ∀ reason, result = .error reason → allowed (.panic reason)) :
    FaultsIn allowed (orPanic result : Exec σ ε α) := by
  intro store fault final hstop
  cases result with
  | ok value => cases hstop
  | error reason =>
      cases hstop
      exact h reason rfl

/-- A sequence stops with a fault of its first or of its second part. -/
theorem FaultsIn.bind {first : Exec σ ε α} {next : α → Exec σ ε β} (hfirst : FaultsIn allowed first)
    (hnext : ∀ value, FaultsIn allowed (next value)) : FaultsIn allowed (first >>= next) := by
  intro store fault final h
  obtain hstop | ⟨value, middle, -, hstop⟩ := bind_error.mp h
  · exact hfirst store fault final hstop
  · exact hnext value middle fault final hstop

/-- When all errors become one, only that one and the panics are left. -/
theorem FaultsIn.mapErr_const {body : Exec σ ε' α} {error : ε} (herror : allowed (.error error))
    (hpanic : FaultsIn (fun fault => ∀ reason, fault = .panic reason → allowed (.panic reason))
      body) : FaultsIn allowed (mapErr (fun _ => error) body) := by
  intro store fault final h
  unfold mapErr at h
  rcases hrun : body store with ⟨outcome, middle⟩
  rw [hrun] at h
  rcases outcome with (inner | reason) | value
  · cases h
    exact herror
  · cases h
    exact hpanic store _ _ hrun reason rfl
  · cases h

theorem FaultsIn.when {condition : Bool} {body : Exec σ ε Unit} (h : FaultsIn allowed body) :
    FaultsIn allowed (when condition body) := by
  cases condition with
  | true => exact h
  | false =>
      intro store fault final hstop
      cases hstop

/-- A storage layer stops with the faults of its body. -/
theorem FaultsIn.transactional {body : Exec σ ε α} (h : FaultsIn allowed body) :
    FaultsIn allowed (transactional body) := by
  intro store fault final hstop
  unfold Exec.transactional at hstop
  rcases hrun : body store with ⟨outcome, middle⟩
  rw [hrun] at hstop
  cases outcome with
  | ok value => cases hstop
  | error other =>
      cases hstop
      exact h store _ _ hrun

/-! ## The store a computation leaves -/

/-- Whatever its outcome, the computation leaves a store that is related to the one it started
from. -/
def Leaves (related : σ → σ → Prop) (body : Exec σ ε α) : Prop :=
  ∀ start, related start (body start).2

variable {related : σ → σ → Prop}

theorem Leaves.of_eq {body : Exec σ ε α} (h : Leaves related body) {start last : σ}
    {outcome : Except (Fault ε) α} (hrun : body start = (outcome, last)) : related start last := by
  have hleft := h start
  rwa [hrun] at hleft

theorem leaves_ensure (hrefl : ∀ start, related start start) (condition : Bool) (error : ε) :
    Leaves related (ensure condition error : Exec σ ε Unit) := by
  intro start
  cases condition <;> exact hrefl start

theorem leaves_okOr (hrefl : ∀ start, related start start) (option : Option α) (error : ε) :
    Leaves related (okOr option error : Exec σ ε α) := by
  intro start
  cases option <;> exact hrefl start

theorem leaves_orPanic (hrefl : ∀ start, related start start) (result : Except Panic α) :
    Leaves related (orPanic result : Exec σ ε α) := by
  intro start
  cases result <;> exact hrefl start

theorem leaves_lift (hrefl : ∀ start, related start start) (result : Except (Fault ε) α) :
    Leaves related (lift result : Exec σ ε α) :=
  hrefl

/-- A sequence leaves what its first part or what both parts leave. -/
theorem Leaves.bind (htrans : ∀ start middle last, related start middle → related middle last →
      related start last)
    {first : Exec σ ε α} {next : α → Exec σ ε β} (hfirst : Leaves related first)
    (hnext : ∀ value, Leaves related (next value)) : Leaves related (first >>= next) := by
  intro start
  have hmiddle := hfirst start
  rw [bind_apply]
  rcases hrun : first start with ⟨outcome, middle⟩
  rw [hrun] at hmiddle
  cases outcome with
  | ok value => exact htrans _ _ _ hmiddle (hnext value middle)
  | error fault => exact hmiddle

/-- A sequence leaves what its first part leaves, if the second part adds nothing to it. -/
theorem Leaves.bind_absorb {absorbed : σ → σ → Prop}
    (habsorb : ∀ start middle last, related start middle → absorbed middle last →
      related start last)
    {first : Exec σ ε α} {next : α → Exec σ ε β} (hfirst : Leaves related first)
    (hnext : ∀ value, Leaves absorbed (next value)) : Leaves related (first >>= next) := by
  intro start
  have hmiddle := hfirst start
  rw [bind_apply]
  rcases hrun : first start with ⟨outcome, middle⟩
  rw [hrun] at hmiddle
  cases outcome with
  | ok value => exact habsorb _ _ _ hmiddle (hnext value middle)
  | error fault => exact hmiddle

/-- Translating an error does not change what is left. -/
theorem Leaves.mapErr {translate : ε → ε'} {body : Exec σ ε α} (h : Leaves related body) :
    Leaves related (mapErr translate body) := by
  intro start
  have hbody := h start
  unfold Exec.mapErr
  rcases hrun : body start with ⟨outcome, last⟩
  rw [hrun] at hbody
  rcases outcome with (error | reason) | value <;> exact hbody

/-! ## Loops -/

@[simp] theorem forEach_nil (body : α → Exec σ ε Unit) (store : σ) :
    forEach [] body store = (.ok (), store) := rfl

theorem forEach_cons (item : α) (rest : List α) (body : α → Exec σ ε Unit) :
    forEach (item :: rest) body = (body item >>= fun _ => forEach rest body) := rfl

/-- A loop over a concatenation runs the first part and then the second. -/
theorem forEach_append_ok {items more : List α} {body : α → Exec σ ε Unit} :
    forEach (items ++ more) body store = (.ok (), final) ↔
      ∃ middle, forEach items body store = (.ok (), middle) ∧
        forEach more body middle = (.ok (), final) := by
  induction items generalizing store with
  | nil => simp
  | cons item rest ih =>
      simp only [List.cons_append, forEach_cons, bind_ok, ih]
      constructor
      · rintro ⟨done, first, hitem, middle, hrest, hmore⟩
        exact ⟨middle, ⟨done, first, hitem, hrest⟩, hmore⟩
      · rintro ⟨middle, ⟨done, first, hitem, hrest⟩, hmore⟩
        exact ⟨done, first, hitem, middle, hrest, hmore⟩

end Exec
