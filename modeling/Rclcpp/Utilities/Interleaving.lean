/-
**`sleep_for` against `shutdown` on another thread, over every interleaving of their statements.**

`sleep_for` (lines 173–188) takes `g_interrupt_mutex`, reads the steady clock and calls
`wait_for(lock, nanoseconds)`, which releases the mutex while it waits; woken, it takes the mutex
back, reads the clock again, updates `time_left` and releases the mutex (line 182); then it reads
`g_is_interrupted` to decide whether to call itself on what is left. `shutdown` (lines 158–164),
and the body of `signal_handler` after its chain (lines 84–90), store `g_signal_status`, trigger
the guard condition, store `g_is_interrupted` and call `notify_all`, all without the mutex.
`notify_all` wakes only a thread that is already waiting, and `wait_for` is given no predicate, so
nothing makes the sleeper look at `g_is_interrupted` between its entry (or its check at line 183)
and the start of its wait.

`Threads` holds both threads and what they share; `step` runs one statement of either thread or
one move of the environment (the clock advancing, `wait_for` timing out or waking spuriously), and
`run` follows a schedule of them. The sleeper's activations are one frame at a time: the recursive
call at line 184 is its last statement, and its result is returned unchanged.

* `late_wait_at_most_once` — **at most one late wait.** Over every schedule, at most one wait begins with
  `g_is_interrupted` already set, and after it the sleeper never waits again.
* `notify_wakes_waiting` — a `notify_all` that finds the sleeper waiting wakes it, and the sleeper
  then returns `false` without waiting again.
* `waits_out_after_interrupt` — once the interrupting thread has returned, nothing will notify: a
  wait it missed ends only by a spurious wake-up or after its whole duration.
* `interrupt_before_lock_waits` — **a lost wake-up.** The interrupting thread runs between the call
  of `sleep_for` and its lock; the sleeper then waits out the whole duration with `g_is_interrupted`
  set, unless woken spuriously.
-/

import Rclcpp.Utilities.SleepFor
import Rclcpp.Utilities.Station

namespace Rclcpp.Utilities

/-! ### The two threads -/

/-- The statement the thread in `sleep_for` runs next. -/
inductive SleeperPc
  /-- line 178: take `g_interrupt_mutex` -/
  | lock
  /-- line 179: read the steady clock into `start` -/
  | readStart
  /-- line 180: call `wait_for`, which releases the mutex and blocks -/
  | wait
  /-- blocked in `wait_for` -/
  | waiting
  /-- woken in `wait_for`, taking the mutex back -/
  | woken
  /-- line 181: read the clock and update `time_left`; line 182 releases the mutex -/
  | readNow
  /-- line 183: test `time_left` and `g_is_interrupted` -/
  | check
  /-- line 187: read `g_is_interrupted` and return -/
  | ret
  /-- returned `result` -/
  | done (result : Bool)
deriving DecidableEq, Repr

/-- The statement the interrupting thread runs next, in `shutdown` (lines 158–164) or in the body
of `signal_handler` (lines 84–90). -/
inductive InterrupterPc
  /-- `g_signal_status = signal_value` -/
  | storeStatus
  /-- `rcl_trigger_guard_condition` -/
  | trigger
  /-- `g_is_interrupted.store(true)` -/
  | storeFlag
  /-- `g_interrupt_condition_variable.notify_all()` -/
  | notify
  /-- returned -/
  | done
deriving DecidableEq, Repr

/-- The statements of an activation up to its wait, where a wait is still to begin. -/
def SleeperPc.beforeWait : SleeperPc → Bool
  | .lock | .readStart | .wait => true
  | _ => false

/-- The locals of the current activation of `sleep_for`: its argument, `time_left`, the two
clock readings, the clock when `wait_for` was called, and the flag read at line 183. `episodes`
and `lateWaits` are ghost state: the readings of the activations that have ended, and how many
waits began with `g_is_interrupted` set. -/
structure SleepFrame where
  nanoseconds : Nanoseconds
  timeLeft : Nanoseconds
  start : Nanoseconds
  now : Nanoseconds
  waitCalled : Nanoseconds
  interruptedAtCheck : Bool
  episodes : List WaitEpisode
  lateWaits : Nat
deriving DecidableEq

/-- The two threads and the statics they share. -/
structure Threads where
  station : Station
  clock : Nanoseconds
  mutexHeld : Bool
  sleeper : SleeperPc
  frame : SleepFrame
  interrupter : InterrupterPc
  signalValue : Int
deriving DecidableEq

/-- `sleep_for(nanoseconds)` has been called and has set `time_left` (line 176); the interrupting
thread, which will store `signalValue`, has not started. -/
def Threads.called (nanoseconds : Nanoseconds) (signalValue : Int) (station : Station)
    (clock : Nanoseconds) : Threads :=
  ⟨station, clock, false, .lock, ⟨nanoseconds, nanoseconds, clock, clock, clock, false, [], 0⟩,
    .storeStatus, signalValue⟩

/-- What happens next: a statement of one thread, or a move of the environment. -/
inductive Event
  | sleeper
  | interrupter
  /-- `wait_for` returns because its duration has elapsed -/
  | timeout
  /-- `wait_for` returns spuriously -/
  | spurious
  /-- the steady clock advances to `reading` -/
  | tick (reading : Nanoseconds)
deriving DecidableEq

/-! ### Steps -/

/-- The next statement of `sleep_for`, or `none` while it is blocked or has returned. -/
def sleeperStep (s : Threads) : Option Threads :=
  let frame := s.frame
  match s.sleeper with
  | .lock => if s.mutexHeld then none else some { s with mutexHeld := true, sleeper := .readStart }
  | .readStart => some { s with frame := { frame with start := s.clock }, sleeper := .wait }
  | .wait =>
    some { s with
      mutexHeld := false
      frame := { frame with
        waitCalled := s.clock
        lateWaits := if s.station.gIsInterrupted then frame.lateWaits + 1 else frame.lateWaits }
      sleeper := .waiting }
  | .waiting => none
  | .woken => if s.mutexHeld then none else some { s with mutexHeld := true, sleeper := .readNow }
  | .readNow =>
    some { s with
      mutexHeld := false
      frame := { frame with now := s.clock, timeLeft := frame.timeLeft - (s.clock - frame.start) }
      sleeper := .check }
  | .check =>
    if 0 < frame.timeLeft.count ∧ s.station.gIsInterrupted = false then
      some { s with
        frame := { frame with
          nanoseconds := frame.timeLeft
          episodes := frame.episodes ++ [⟨frame.start, frame.now, false, false⟩] }
        sleeper := .lock }
    else
      some { s with
        frame := { frame with interruptedAtCheck := s.station.gIsInterrupted }
        sleeper := .ret }
  | .ret =>
    some { s with
      frame := { frame with
        episodes := frame.episodes ++
          [⟨frame.start, frame.now, frame.interruptedAtCheck, s.station.gIsInterrupted⟩] }
      sleeper := .done !s.station.gIsInterrupted }
  | .done _ => none

/-- The next statement of the interrupting thread. `notify_all` wakes the sleeper only if it is
waiting at that moment. -/
def interrupterStep (s : Threads) : Option Threads :=
  match s.interrupter with
  | .storeStatus =>
    some { s with
      station := { s.station with gSignalStatus := s.signalValue }
      interrupter := .trigger }
  | .trigger =>
    some { s with
      station := { s.station with
        gSigintGuardCondHandle := s.station.gSigintGuardCondHandle.trigger }
      interrupter := .storeFlag }
  | .storeFlag =>
    some { s with station := { s.station with gIsInterrupted := true }, interrupter := .notify }
  | .notify =>
    some { s with
      sleeper := if s.sleeper = .waiting then .woken else s.sleeper
      interrupter := .done }
  | .done => none

/-- One event, or `none` where it cannot happen. -/
def step (s : Threads) : Event → Option Threads
  | .sleeper => sleeperStep s
  | .interrupter => interrupterStep s
  | .timeout =>
    if s.sleeper = .waiting ∧
        s.frame.nanoseconds.count ≤ s.clock.count - s.frame.waitCalled.count then
      some { s with sleeper := .woken }
    else none
  | .spurious => if s.sleeper = .waiting then some { s with sleeper := .woken } else none
  | .tick reading =>
    if s.clock.count ≤ reading.count then some { s with clock := reading } else none

/-- A schedule of events, or `none` if one of them cannot happen where it comes. -/
def run (s : Threads) : List Event → Option Threads
  | [] => some s
  | event :: events => (step s event).bind fun next => run next events

@[simp] theorem run_nil (s : Threads) : run s [] = some s := rfl

theorem run_cons_eq_some {s final : Threads} {event : Event} {events : List Event} :
    run s (event :: events) = some final ↔
      ∃ next, step s event = some next ∧ run next events = some final := by
  simp only [run, Option.bind_eq_some]

/-- What every event keeps, every schedule keeps. -/
theorem run_preserves {motive : Threads → Prop}
    (preserved : ∀ s event next, step s event = some next → motive s → motive next)
    {s final : Threads} {events : List Event} (ran : run s events = some final) (holds : motive s) :
    motive final := by
  induction events generalizing s with
  | nil => cases ran; exact holds
  | cons event events ih =>
    obtain ⟨next, stepped, rest⟩ := run_cons_eq_some.mp ran
    exact ih rest (preserved s event next stepped holds)

/-! ### What each kind of event can change -/

section Frames

variable {s next : Threads} {event : Event}

/-- A statement of the sleeper leaves the statics, the clock and the other thread alone. -/
theorem sleeperStep_frame (stepped : sleeperStep s = some next) :
    next.station = s.station ∧ next.clock = s.clock ∧ next.interrupter = s.interrupter ∧
      next.signalValue = s.signalValue := by
  cases pc : s.sleeper <;> simp only [sleeperStep, pc] at stepped <;>
    (try split at stepped) <;> cases stepped <;> exact ⟨rfl, rfl, rfl, rfl⟩

/-- What an event other than a statement of the sleeper can do to what the sleeper reads. -/
structure OtherEffect (s next : Threads) : Prop where
  frame : next.frame = s.frame
  sleeper : next.sleeper = s.sleeper ∨ s.sleeper = .waiting ∧ next.sleeper = .woken
  clock : s.clock.count ≤ next.clock.count
  flag : s.station.gIsInterrupted = true → next.station.gIsInterrupted = true

/-- Every other event keeps the sleeper's frame, moves the sleeper only from waiting to woken,
moves the clock only forward and never clears `g_is_interrupted`. -/
theorem step_other (other : event ≠ .sleeper) (stepped : step s event = some next) :
    OtherEffect s next := by
  cases event with
  | sleeper => exact absurd rfl other
  | interrupter =>
    cases pc : s.interrupter <;> simp only [step, interrupterStep, pc] at stepped <;>
      cases stepped
    case notify.refl =>
      exact ⟨rfl, by by_cases waiting : s.sleeper = .waiting <;> simp [waiting], le_rfl, id⟩
    all_goals exact ⟨rfl, .inl rfl, le_rfl, fun set => by first | exact set | rfl⟩
  | timeout | spurious =>
    simp only [step] at stepped
    split at stepped <;> cases stepped
    rename_i woken
    exact ⟨rfl, .inr ⟨by first | exact woken.1 | exact woken, rfl⟩, le_rfl, id⟩
  | tick reading =>
    simp only [step] at stepped
    split at stepped <;> cases stepped
    exact ⟨rfl, .inl rfl, ‹_›, id⟩

/-- `g_is_interrupted` is never cleared. -/
theorem step_keeps_gIsInterrupted (stepped : step s event = some next)
    (set : s.station.gIsInterrupted = true) : next.station.gIsInterrupted = true := by
  by_cases mine : event = .sleeper
  · subst mine
    rwa [(sleeperStep_frame stepped).1]
  · exact (step_other mine stepped).flag set

/-- The steady clock never goes back. -/
theorem step_clock (stepped : step s event = some next) : s.clock.count ≤ next.clock.count := by
  by_cases mine : event = .sleeper
  · subst mine
    rw [(sleeperStep_frame stepped).2.1]
  · exact (step_other mine stepped).clock

/-- Along a schedule the clock never goes back. -/
theorem run_clock {s final : Threads} {events : List Event} (ran : run s events = some final) :
    s.clock.count ≤ final.clock.count :=
  run_preserves (motive := fun t => s.clock.count ≤ t.clock.count)
    (fun _ _ _ stepped earlier => le_trans earlier (step_clock stepped)) ran le_rfl

end Frames

/-! ### Late waits -/

/-- What holds once a wait has begun with `g_is_interrupted` set: it was the only one, the flag
is still set, the sleeper is past every wait, and if it has returned it returned `false`. -/
structure LateWaitInv (s : Threads) : Prop where
  atMostOne : s.frame.lateWaits ≤ 1
  flagSet : s.frame.lateWaits = 1 → s.station.gIsInterrupted = true
  pastWait : s.frame.lateWaits = 1 → s.sleeper.beforeWait = false
  returnsFalse : s.frame.lateWaits = 1 → ∀ result, s.sleeper = .done result → result = false

/-- No late wait yet. -/
theorem LateWaitInv.of_zero {s : Threads} (none_ : s.frame.lateWaits = 0) : LateWaitInv s :=
  ⟨by omega, by omega, by omega, by omega⟩

/-- The sleeper's own statements keep `LateWaitInv`: a late wait needs the flag set, and the check
of line 183 then sends the sleeper to its return instead of to another wait. -/
theorem lateWaitInv_sleeperStep {s next : Threads} (stepped : sleeperStep s = some next)
    (inv : LateWaitInv s) : LateWaitInv next := by
  have early : s.sleeper.beforeWait = true → s.frame.lateWaits = 0 := fun before => by
    have notOne := mt inv.pastWait (by simp [before])
    have := inv.atMostOne
    omega
  cases pc : s.sleeper <;> simp only [sleeperStep, pc] at stepped
  case waiting | done => cases stepped
  case lock | woken =>
    split at stepped <;> cases stepped
    first
      | exact LateWaitInv.of_zero (early (by rw [pc]; rfl))
      | exact ⟨inv.atMostOne, inv.flagSet, fun _ => rfl, fun _ _ done => by cases done⟩
  case readStart =>
    cases stepped
    exact LateWaitInv.of_zero (early (by rw [pc]; rfl))
  case wait =>
    cases stepped
    have zero := early (by rw [pc]; rfl)
    by_cases flag : s.station.gIsInterrupted = true
    · exact ⟨by simp [flag, zero], fun _ => flag, fun _ => rfl, fun _ _ done => by cases done⟩
    · exact LateWaitInv.of_zero (by simp [flag, zero])
  case readNow =>
    cases stepped
    exact ⟨inv.atMostOne, inv.flagSet, fun _ => rfl, fun _ _ done => by cases done⟩
  case check =>
    split at stepped <;> cases stepped
    · rename_i again
      have notOne := mt inv.flagSet (by simp [again.2])
      have := inv.atMostOne
      exact LateWaitInv.of_zero (by dsimp only; omega)
    · exact ⟨inv.atMostOne, inv.flagSet, fun _ => rfl, fun _ _ done => by cases done⟩
  case ret =>
    cases stepped
    exact ⟨inv.atMostOne, inv.flagSet, fun _ => rfl,
      fun one result done => by cases done; simp [inv.flagSet one]⟩

/-- **At most one late wait, and none after it.** Every event keeps `LateWaitInv`. -/
theorem lateWaitInv_step {s next : Threads} {event : Event} (stepped : step s event = some next)
    (inv : LateWaitInv s) : LateWaitInv next := by
  by_cases mine : event = .sleeper
  · subst mine
    exact lateWaitInv_sleeperStep stepped inv
  obtain ⟨sameFrame, moved, -, flag⟩ := step_other mine stepped
  obtain ⟨atMostOne, flagSet, pastWait, returnsFalse⟩ := inv
  rw [← sameFrame] at atMostOne flagSet pastWait returnsFalse
  refine ⟨atMostOne, fun one => flag (flagSet one), fun one => ?_, fun one => ?_⟩
  · rcases moved with same | ⟨-, woken⟩
    · exact same ▸ pastWait one
    · rw [woken]; rfl
  · rcases moved with same | ⟨-, woken⟩
    · exact same ▸ returnsFalse one
    · simp [woken]

/-- **At most one wait after the interrupt, and `false` after it** (`sleep_for`, lines 173–188,
against `shutdown`, lines 155–165). Over every schedule from the call of `sleep_for`, whatever the
statics held then: at most one condition-variable wait begins with `g_is_interrupted` set; once
one has, the sleeper never reaches another wait, and if it returns it returns `false`. -/
theorem late_wait_at_most_once (nanoseconds : Nanoseconds) (signalValue : Int)
    (station : Station) (clock : Nanoseconds) (events : List Event) (final : Threads)
    (ran : run (Threads.called nanoseconds signalValue station clock) events = some final) :
    final.frame.lateWaits ≤ 1 ∧
      (final.frame.lateWaits = 1 →
        final.sleeper.beforeWait = false ∧ ∀ result, final.sleeper = .done result → result = false) :=
  have inv := run_preserves (fun _ _ _ stepped => lateWaitInv_step stepped) ran
    (LateWaitInv.of_zero rfl)
  ⟨inv.atMostOne, fun one => ⟨inv.pastWait one, inv.returnsFalse one⟩⟩

theorem late_wait_at_most_once_shutdownFirst :
    ∃ final, run (Threads.called (.ofInt 1000) sigint (Station.zero ⟨false, .dfl⟩) (.ofInt 0))
        [.interrupter, .interrupter, .interrupter, .interrupter, .sleeper, .sleeper, .sleeper,
          .tick (.ofInt 1000), .timeout, .sleeper, .sleeper, .sleeper, .sleeper] = some final ∧
      final.sleeper = .done false ∧
      (final.frame.lateWaits ≤ 1 ∧
        (final.frame.lateWaits = 1 →
          final.sleeper.beforeWait = false ∧
            ∀ result, final.sleeper = .done result → result = false)) :=
  ⟨_, rfl, rfl, late_wait_at_most_once (.ofInt 1000) sigint (Station.zero ⟨false, .dfl⟩) (.ofInt 0)
    [.interrupter, .interrupter, .interrupter, .interrupter, .sleeper, .sleeper, .sleeper,
      .tick (.ofInt 1000), .timeout, .sleeper, .sleeper, .sleeper, .sleeper] _ rfl⟩

/-! ### A notification that finds the sleeper waiting -/

/-- The sleeper is past its wait with `g_is_interrupted` set: it can only return, and `false`. -/
def Released (s : Threads) : Prop :=
  s.station.gIsInterrupted = true ∧
    (s.sleeper = .woken ∨ s.sleeper = .readNow ∨ s.sleeper = .check ∨ s.sleeper = .ret ∨
      s.sleeper = .done false)

/-- Every event keeps `Released`: the check of line 183 reads the flag set and sends the sleeper
to its return, which returns `false`. -/
theorem released_step {s next : Threads} {event : Event} (stepped : step s event = some next)
    (released : Released s) : Released next := by
  obtain ⟨flag, pc⟩ := released
  refine ⟨step_keeps_gIsInterrupted stepped flag, ?_⟩
  by_cases mine : event = .sleeper
  · subst mine
    simp only [step] at stepped
    rcases pc with pc | pc | pc | pc | pc <;> simp only [sleeperStep, pc] at stepped
    · split at stepped <;> cases stepped
      exact .inr (.inl rfl)
    · cases stepped
      exact .inr (.inr (.inl rfl))
    · rw [if_neg fun again => by simp [flag] at again] at stepped
      cases stepped
      exact .inr (.inr (.inr (.inl rfl)))
    · cases stepped
      simp [flag]
    · cases stepped
  · rcases (step_other mine stepped).sleeper with same | ⟨waiting, -⟩
    · rwa [same]
    · rcases pc with pc | pc | pc | pc | pc <;> rw [pc] at waiting <;> cases waiting

/-- **A notification that finds the sleeper waiting is not lost** (`shutdown`, line 164, against
`sleep_for`, line 180). If the interrupting thread reaches `notify_all` while the sleeper waits,
with `g_is_interrupted` set, the sleeper is woken; on every later schedule it never begins another
wait, and if it returns it returns `false`. -/
theorem notify_wakes_waiting (s : Threads) (waiting : s.sleeper = .waiting)
    (notifying : s.interrupter = .notify) (flag : s.station.gIsInterrupted = true) :
    ∃ woken, step s .interrupter = some woken ∧ woken.sleeper = .woken ∧
      ∀ events final, run woken events = some final →
        final.sleeper.beforeWait = false ∧ ∀ result, final.sleeper = .done result → result = false := by
  refine ⟨{ s with sleeper := .woken, interrupter := .done },
    by simp [step, interrupterStep, notifying, waiting], rfl, fun events final ran => ?_⟩
  obtain ⟨-, pc⟩ := run_preserves (fun _ _ _ => released_step) ran ⟨flag, .inl rfl⟩
  rcases pc with pc | pc | pc | pc | pc <;> rw [pc] <;>
    exact ⟨rfl, fun result done => by cases done <;> rfl⟩

theorem notify_wakes_waiting_afterWait :
    ∃ s, run (Threads.called (.ofInt 1000) sigint (Station.zero ⟨false, .dfl⟩) (.ofInt 0))
        [.sleeper, .sleeper, .sleeper, .interrupter, .interrupter, .interrupter] = some s ∧
      s.sleeper = .waiting ∧ s.interrupter = .notify ∧ s.station.gIsInterrupted = true ∧
      ∃ woken, step s .interrupter = some woken ∧ woken.sleeper = .woken ∧
        ∀ events final, run woken events = some final →
          final.sleeper.beforeWait = false ∧
            ∀ result, final.sleeper = .done result → result = false :=
  ⟨_, rfl, rfl, rfl, rfl, notify_wakes_waiting _ rfl rfl rfl⟩

/-! ### The lost wake-up -/

/-- Once the interrupting thread has returned nothing will notify: a waiting sleeper leaves its
wait only by a spurious wake-up or once the clock has moved by the wait's whole duration. -/
theorem waits_out_after_interrupt {s final : Threads} {events : List Event}
    (finished : s.interrupter = .done) (waiting : s.sleeper = .waiting)
    (ran : run s events = some final) (left : final.sleeper ≠ .waiting)
    (noSpurious : Event.spurious ∉ events) :
    s.frame.nanoseconds.count ≤ final.clock.count - s.frame.waitCalled.count := by
  induction events generalizing s with
  | nil => cases ran; exact absurd waiting left
  | cons event events ih =>
    obtain ⟨next, stepped, rest⟩ := run_cons_eq_some.mp ran
    cases event with
    | sleeper => simp [step, sleeperStep, waiting] at stepped
    | interrupter => simp [step, interrupterStep, finished] at stepped
    | timeout =>
      simp only [step, waiting, true_and] at stepped
      split at stepped
      · rename_i elapsed
        cases stepped
        have later := run_clock rest
        dsimp only at later
        omega
      · cases stepped
    | spurious => exact absurd (List.mem_cons_self _ _) noSpurious
    | tick reading =>
      simp only [step] at stepped
      split at stepped
      · cases stepped
        exact ih (s := { s with clock := reading }) finished waiting rest
          fun member => noSpurious (List.mem_cons_of_mem _ member)
      · cases stepped

/-- **A lost wake-up** (`sleep_for`, lines 173–188, against `shutdown`, lines 155–165). For every
duration, clock and station, and either signal value: the interrupting thread runs all four of its
statements after `sleep_for` has been called and before it takes the mutex; `notify_all` finds no
one waiting. The sleeper then begins `wait_for` with `g_is_interrupted` already set, and from there,
on every schedule, it leaves the wait only by a spurious wake-up or after the clock has moved by
the whole duration. -/
theorem interrupt_before_lock_waits (nanoseconds : Nanoseconds) (signalValue : Int)
    (station : Station) (clock : Nanoseconds) :
    ∃ waiting, run (Threads.called nanoseconds signalValue station clock)
        [.interrupter, .interrupter, .interrupter, .interrupter, .sleeper, .sleeper, .sleeper] =
          some waiting ∧
      waiting.sleeper = .waiting ∧ waiting.station.gIsInterrupted = true ∧
      waiting.interrupter = .done ∧ waiting.frame.lateWaits = 1 ∧
      ∀ events final, run waiting events = some final → final.sleeper ≠ .waiting →
        Event.spurious ∉ events → nanoseconds.count ≤ final.clock.count - clock.count :=
  ⟨_, rfl, rfl, rfl, rfl, rfl, fun _ _ ran left noSpurious =>
    waits_out_after_interrupt rfl rfl ran left noSpurious⟩

end Rclcpp.Utilities
