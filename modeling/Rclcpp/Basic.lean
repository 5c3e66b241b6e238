/-
**The C++ the model computes with: `int64_t` durations, and exceptions that keep their state.**

A `std::chrono::nanoseconds` and a `steady_clock` reading hold a signed 64-bit count, and
`sleep_for` subtracts them modulo `2 ^ 64`, as the machine does (signed overflow is undefined in
C++). A C++ function that throws keeps what it did before the `throw`: an `EStateM` program's
`.error e s` carries the state `s` of the throw, which `stateAfter` reads.

* `Nanoseconds` — an `int64_t` count, with its range carried as a field;
* `Nanoseconds.sub_count_of_inInt64` — the wrapping subtraction is exact whenever the difference
  fits;
* `Nanoseconds.sub_elapsed_ge` — **a wrap only ever adds `2 ^ 64`**: taking a measured interval
  from an `int64_t` never gives less than the exact difference, which is all the accuracy of
  `sleep_for` rests on.
-/

import Mathlib.Algebra.Ring.Int.Defs

namespace Rclcpp

/-- An integer that an `int64_t` can hold. -/
def InInt64 (x : Int) : Prop := -2 ^ 63 ≤ x ∧ x < 2 ^ 63

instance (x : Int) : Decidable (InInt64 x) := inferInstanceAs (Decidable (_ ∧ _))

/-- The `int64_t` that two's complement makes of an integer. -/
def wrapInt64 (x : Int) : Int := (x + 2 ^ 63) % 2 ^ 64 - 2 ^ 63

theorem wrapInt64_inInt64 (x : Int) : InInt64 (wrapInt64 x) := by
  unfold InInt64 wrapInt64
  omega

theorem wrapInt64_of_inInt64 {x : Int} (fits : InInt64 x) : wrapInt64 x = x := by
  unfold InInt64 at fits
  unfold wrapInt64
  omega

/-- `std::chrono::nanoseconds`, and a `steady_clock` reading by its `time_since_epoch()`. -/
structure Nanoseconds where
  count : Int
  inInt64 : InInt64 count
deriving DecidableEq

namespace Nanoseconds

/-- `std::chrono::nanoseconds(n)` for an integer `n`: the `int64_t` it converts to. -/
def ofInt (n : Int) : Nanoseconds := ⟨wrapInt64 n, wrapInt64_inInt64 n⟩

/-- `nanoseconds::min()`, the most negative `int64_t`. -/
def min : Nanoseconds := ⟨-2 ^ 63, by decide⟩

/-- `nanoseconds::max()`, about 292 years. -/
def max : Nanoseconds := ⟨2 ^ 63 - 1, by decide⟩

/-- `a - b` (and `a -= b`) on the `int64_t` counts. -/
def sub (a b : Nanoseconds) : Nanoseconds := ⟨wrapInt64 (a.count - b.count), wrapInt64_inInt64 _⟩

instance : Sub Nanoseconds := ⟨sub⟩

@[simp] theorem sub_count (a b : Nanoseconds) : (a - b).count = wrapInt64 (a.count - b.count) :=
  rfl

theorem sub_count_of_inInt64 {a b : Nanoseconds} (fits : InInt64 (a.count - b.count)) :
    (a - b).count = a.count - b.count :=
  wrapInt64_of_inInt64 fits

/-- **A wrap only ever adds `2 ^ 64`.** With `start ≤ stop`, the remaining time after
`timeLeft -= stop - start` is at least the exact `timeLeft - (stop - start)`: the measured
interval may itself wrap, and the subtraction may wrap, but neither can push the result below
the true difference, because that difference is already below `2 ^ 63`. -/
theorem sub_elapsed_ge (timeLeft start stop : Nanoseconds) (later : start.count ≤ stop.count) :
    timeLeft.count - (stop.count - start.count) ≤ (timeLeft - (stop - start)).count := by
  have below := timeLeft.inInt64.2
  simp only [sub_count, wrapInt64]
  omega

end Nanoseconds

/-- Running a program is applying it to the state. -/
theorem run_eq_apply {ε σ α : Type} (program : EStateM ε σ α) (state : σ) :
    program.run state = program state :=
  rfl

/-- The state a run of an `EStateM` program leaves, whether it returned or threw. -/
def stateAfter {ε σ α : Type} : EStateM.Result ε σ α → σ
  | .ok _ state => state
  | .error _ state => state

@[simp] theorem stateAfter_ok {ε σ α : Type} (value : α) (state : σ) :
    stateAfter (.ok value state : EStateM.Result ε σ α) = state :=
  rfl

@[simp] theorem stateAfter_error {ε σ α : Type} (error : ε) (state : σ) :
    stateAfter (.error error state : EStateM.Result ε σ α) = state :=
  rfl

/-- `statement; return value`: the statement's throw, or `value` in the state it reached. -/
def thenReturn {ε σ α β : Type} (result : EStateM.Result ε σ α) (value : β) :
    EStateM.Result ε σ β :=
  match result with
  | .ok _ state => .ok value state
  | .error error state => .error error state

/-- The message a run threw, if it threw. -/
def thrown {ε σ α : Type} : EStateM.Result ε σ α → Option ε
  | .ok _ _ => none
  | .error error _ => some error

@[simp] theorem thrown_thenReturn {ε σ α β : Type} (result : EStateM.Result ε σ α) (value : β) :
    thrown (thenReturn result value) = thrown result := by
  cases result <;> rfl

@[simp] theorem stateAfter_thenReturn {ε σ α β : Type} (result : EStateM.Result ε σ α) (value : β) :
    stateAfter (thenReturn result value) = stateAfter result := by
  cases result <;> rfl

end Rclcpp
