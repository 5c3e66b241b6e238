/-
**Any number of threads in `sleep_for` against `shutdown`.**

`sleep_for` (lines 173–188) may run on several threads at once. They share `g_interrupt_mutex`,
which each takes at line 178 and again inside `wait_for` once woken, and
`g_interrupt_condition_variable`, whose `notify_all` in `shutdown` (line 164) or `signal_handler`
(line 90) wakes every thread waiting on it at that moment. `Sleepers n` holds `n` such threads,
the interrupting thread and the statics. Each thread runs the statements of the two-thread model
(`Interleaving.lean`) on its own view of the state (`Sleepers.view`), in which the mutex counts as
held when that thread holds it; taking the mutex waits while any thread holds it.

* `view_step`, `view_run` — **each thread refines the two-thread model.** Seen from one thread, an
  event of the `n`-thread model is either an event of the two-thread model (its own statements and
  wake-ups, the interrupting thread's statements, the clock) or changes nothing it reads (the other
  threads' statements and wake-ups). Along a whole schedule, its view is the two-thread run of the
  events it sees (`sleepers_refine_threads`), so the run lemmas of `Interleaving.lean` and
  `SleepRefinement.lean` hold of every thread: `sleepers_refine_sleepFor`,
  `sleepers_wait_late_at_most_once`.
* `mutex_owner_exclusive` — in the two-thread model the sleeper holds the mutex exactly at the
  statements between taking it and releasing it (`step_mutexHeld`); through `view_run`, the owner
  of the mutex in the `n`-thread model is the one thread at those statements, and it can always
  run its next statement.
* `notify_all_wakes_every_waiting` — `notify_all` wakes every thread waiting when it runs; each of
  them then returns `false` without waiting again, whatever the other threads do.
-/

import Mathlib.Data.Fin.VecNotation
import Rclcpp.Utilities.SleepRefinement

namespace Rclcpp.Utilities

/-! ### The mutex in the two-thread model -/

/-- The statements at which a thread in `sleep_for` takes `g_interrupt_mutex`: line 178, and
`wait_for` taking it back once woken. -/
def SleeperPc.takesMutex : SleeperPc → Bool
  | .lock | .woken => true
  | _ => false

/-- The statements a thread in `sleep_for` runs holding `g_interrupt_mutex`: line 179 and the call
of `wait_for` at line 180, and the reading of line 181 before the release at line 182. -/
def SleeperPc.holdsMutex : SleeperPc → Bool
  | .readStart | .wait | .readNow => true
  | _ => false

/-- The events of the sleeper alone: its statements, and `wait_for` timing out or waking
spuriously. -/
def Event.sleeperOnly : Event → Bool
  | .sleeper | .timeout | .spurious => true
  | _ => false

/-- An event of the sleeper alone leaves the statics, the clock and the interrupting thread alone,
and leaves the mutex held only if it was, or if the statement is one that takes it. -/
theorem step_sleeperOnly {s t : Threads} {event : Event} (only : event.sleeperOnly = true)
    (stepped : step s event = some t) :
    t.station = s.station ∧ t.clock = s.clock ∧ t.interrupter = s.interrupter ∧
      t.signalValue = s.signalValue ∧
      (t.mutexHeld = true → s.mutexHeld = true ∨ event = .sleeper ∧ s.sleeper.takesMutex = true) := by
  cases event with
  | sleeper =>
    obtain ⟨station, clock, interrupter, signal⟩ := sleeperStep_frame stepped
    refine ⟨station, clock, interrupter, signal, fun held => ?_⟩
    cases pc : s.sleeper <;> simp only [step, sleeperStep, pc] at stepped <;>
      (try split at stepped) <;> cases stepped <;>
      first
        | exact .inl held
        | exact .inr ⟨rfl, rfl⟩
        | exact absurd held Bool.false_ne_true
  | timeout | spurious =>
    simp only [step] at stepped
    split at stepped <;> cases stepped
    exact ⟨rfl, rfl, rfl, rfl, .inl⟩
  | interrupter | tick => cases only

/-- The sleeper holds the mutex exactly at the statements between taking it and releasing it:
every event keeps `mutexHeld` equal to `holdsMutex` of the sleeper's statement. -/
theorem step_mutexHeld {s t : Threads} {event : Event} (stepped : step s event = some t)
    (held : s.mutexHeld = s.sleeper.holdsMutex) : t.mutexHeld = t.sleeper.holdsMutex := by
  cases event with
  | sleeper =>
    cases pc : s.sleeper <;> rw [pc] at held <;> simp only [step, sleeperStep, pc] at stepped <;>
      (try split at stepped) <;> cases stepped <;> first | rfl | exact held
  | interrupter =>
    cases pc : s.interrupter <;> simp only [step, interrupterStep, pc] at stepped <;>
      cases stepped <;> try exact held
    split <;> simp_all [SleeperPc.holdsMutex]
  | timeout | spurious =>
    simp only [step] at stepped
    split at stepped <;> cases stepped
    rename_i waiting
    first | rw [waiting.1] at held | rw [waiting] at held
    exact held
  | tick reading =>
    simp only [step] at stepped
    split at stepped <;> cases stepped
    exact held

/-! ### `n` threads -/

/-- `n` threads in `sleep_for`, the interrupting thread, and the statics they share. `owner` is
the thread holding `g_interrupt_mutex`. -/
structure Sleepers (n : Nat) where
  station : Station
  clock : Nanoseconds
  owner : Option (Fin n)
  sleeper : Fin n → SleeperPc
  frame : Fin n → SleepFrame
  interrupter : InterrupterPc
  signalValue : Int

namespace Sleepers

variable {n : Nat}

/-- Each thread `i` has called `sleep_for(nanoseconds i)`; no thread holds the mutex and the
interrupting thread has not started. -/
def called (nanoseconds : Fin n → Nanoseconds) (signalValue : Int) (station : Station)
    (clock : Nanoseconds) : Sleepers n :=
  ⟨station, clock, none, fun _ => .lock,
    fun i => (Threads.called (nanoseconds i) signalValue station clock).frame, .storeStatus,
    signalValue⟩

/-- Thread `i` and what it shares, as the two-thread model has them: the mutex counts as held when
`i` holds it. -/
def view (s : Sleepers n) (i : Fin n) : Threads :=
  ⟨s.station, s.clock, s.owner = some i, s.sleeper i, s.frame i, s.interrupter, s.signalValue⟩

@[simp] theorem view_mutexHeld (s : Sleepers n) (i : Fin n) :
    (s.view i).mutexHeld = decide (s.owner = some i) := rfl

@[simp] theorem view_sleeper (s : Sleepers n) (i : Fin n) : (s.view i).sleeper = s.sleeper i := rfl

@[simp] theorem view_frame (s : Sleepers n) (i : Fin n) : (s.view i).frame = s.frame i := rfl

@[simp] theorem view_station (s : Sleepers n) (i : Fin n) : (s.view i).station = s.station := rfl

theorem view_called (nanoseconds : Fin n → Nanoseconds) (signalValue : Int) (station : Station)
    (clock : Nanoseconds) (i : Fin n) :
    (called nanoseconds signalValue station clock).view i =
      Threads.called (nanoseconds i) signalValue station clock := rfl

/-- A move of thread `i` written back: its statement, its frame, and whether it holds the mutex. -/
def write (s : Sleepers n) (i : Fin n) (t : Threads) : Sleepers n :=
  { s with
    owner := if t.mutexHeld then some i else if s.owner = some i then none else s.owner
    sleeper := Function.update s.sleeper i t.sleeper
    frame := Function.update s.frame i t.frame }

/-- Thread `i` sees a move of its own, once written back, as it was made, if the move kept what
is shared. -/
theorem view_write_self {s : Sleepers n} {i : Fin n} {t : Threads} (station : t.station = s.station)
    (clock : t.clock = s.clock) (interrupter : t.interrupter = s.interrupter)
    (signal : t.signalValue = s.signalValue) : (s.write i t).view i = t := by
  obtain ⟨_, _, held, _, _, _, _⟩ := t
  dsimp only at station clock interrupter signal
  subst station clock interrupter signal
  cases held
  · simp only [view, write, Function.update_same, Threads.mk.injEq, and_true, true_and]
    split <;> simp_all
  · simp [view, write]

/-- Another thread does not see a move of thread `i` that takes the mutex only when it is free. -/
theorem view_write_other {s : Sleepers n} {i j : Fin n} {t : Threads} (other : j ≠ i)
    (free : t.mutexHeld = true → s.owner = none ∨ s.owner = some i) :
    (s.write i t).view j = s.view j := by
  simp only [view, write, Function.update_noteq other, Threads.mk.injEq, and_true, true_and]
  by_cases held : t.mutexHeld = true
  · rcases free held with owner | owner <;> simp [held, owner, Ne.symm other]
  · simp only [held, if_false]
    split <;> simp_all

/-- A move of thread `i` alone, written back: thread `i` sees the two-thread move, and no other
thread sees anything, provided a statement that takes the mutex finds it free. -/
theorem write_sleeperOnly {s : Sleepers n} {i : Fin n} {event : Utilities.Event} {t : Threads}
    (stepped : Utilities.step (s.view i) event = some t) (only : event.sleeperOnly = true)
    (free : event = .sleeper → (s.sleeper i).takesMutex = true → s.owner = none) :
    (s.write i t).view i = t ∧ ∀ j, j ≠ i → (s.write i t).view j = s.view j := by
  obtain ⟨station, clock, interrupter, signal, held⟩ := step_sleeperOnly only stepped
  refine ⟨view_write_self station clock interrupter signal,
    fun j other => view_write_other other fun nowHeld => ?_⟩
  rcases held nowHeld with mine | ⟨sleeper, takes⟩
  · exact .inr (of_decide_eq_true mine)
  · exact .inl (free sleeper takes)

/-- What happens next: a statement of thread `i` or of the interrupting thread, `wait_for` of
thread `i` timing out or waking spuriously, or the steady clock advancing to `reading`. -/
inductive Event (n : Nat)
  | sleeper (i : Fin n)
  | interrupter
  | timeout (i : Fin n)
  | spurious (i : Fin n)
  | tick (reading : Nanoseconds)

/-- The next statement of thread `i`: the two-thread model's on its view, except that taking the
mutex waits while any thread holds it. -/
def sleeperStep (s : Sleepers n) (i : Fin n) : Option (Sleepers n) :=
  if (s.sleeper i).takesMutex ∧ s.owner.isSome then none
  else (Utilities.sleeperStep (s.view i)).map (s.write i)

/-- The next statement of the interrupting thread. `notify_all` wakes every thread waiting at that
moment. -/
def interrupterStep (s : Sleepers n) : Option (Sleepers n) :=
  match s.interrupter with
  | .storeStatus =>
    some { s with
      station := { s.station with gSignalStatus := s.signalValue }
      interrupter := .trigger }
  | .trigger =>
    some { s with
      station := { s.station with
        gSigintGuardCondHandle := s.station.gSigintGuardCondHandle.trigger }
      interrupter := .storeFlag }
  | .storeFlag =>
    some { s with station := { s.station with gIsInterrupted := true }, interrupter := .notify }
  | .notify =>
    some { s with
      sleeper := fun i => if s.sleeper i = .waiting then .woken else s.sleeper i
      interrupter := .done }
  | .done => none

/-- One event, or `none` where it cannot happen. -/
def step (s : Sleepers n) : Event n → Option (Sleepers n)
  | .sleeper i => s.sleeperStep i
  | .interrupter => s.interrupterStep
  | .timeout i => (Utilities.step (s.view i) .timeout).map (s.write i)
  | .spurious i => (Utilities.step (s.view i) .spurious).map (s.write i)
  | .tick reading =>
    if s.clock.count ≤ reading.count then some { s with clock := reading } else none

/-- A schedule of events, or `none` if one of them cannot happen where it comes. -/
def run (s : Sleepers n) : List (Event n) → Option (Sleepers n)
  | [] => some s
  | event :: events => (s.step event).bind fun next => next.run events

theorem run_cons_eq_some {s final : Sleepers n} {event : Event n} {events : List (Event n)} :
    s.run (event :: events) = some final ↔
      ∃ next, s.step event = some next ∧ next.run events = some final := by
  simp only [run, Option.bind_eq_some]

/-- What thread `i` sees of an event: the two-thread event it is, or nothing for a statement or a
wake-up of another thread. -/
def Event.seenBy (i : Fin n) : Event n → Option Utilities.Event
  | .sleeper j => if j = i then some .sleeper else none
  | .interrupter => some .interrupter
  | .timeout j => if j = i then some .timeout else none
  | .spurious j => if j = i then some .spurious else none
  | .tick reading => some (.tick reading)

/-! ### Each thread refines the two-thread model -/

/-- Every thread sees a statement of the interrupting thread as the two-thread model makes it:
`notify_all` wakes each thread just as it wakes the one sleeper there. -/
theorem view_interrupterStep {s next : Sleepers n} (stepped : s.interrupterStep = some next)
    (i : Fin n) : Utilities.interrupterStep (s.view i) = some (next.view i) := by
  cases pc : s.interrupter <;> simp only [interrupterStep, pc] at stepped <;> cases stepped <;>
    simp [Utilities.interrupterStep, view, pc]

/-- A wake-up of thread `i`, written back: thread `i` sees the two-thread wake-up, no other thread
sees anything. -/
theorem view_wakeUp {s next : Sleepers n} {i : Fin n} {event : Utilities.Event}
    (stepped : (Utilities.step (s.view i) event).map (s.write i) = some next)
    (only : event.sleeperOnly = true) (notStatement : event ≠ .sleeper) (j : Fin n) :
    (j = i → Utilities.step (s.view i) event = some (next.view j)) ∧
      (j ≠ i → next.view j = s.view j) := by
  obtain ⟨t, moved, rfl⟩ := Option.map_eq_some'.mp stepped
  have written := write_sleeperOnly moved only fun statement => absurd statement notStatement
  refine ⟨fun mine => ?_, written.2 j⟩
  subst mine
  rw [written.1]
  exact moved

/-- **One event seen from one thread.** An event thread `i` sees moves its view as the two-thread
model moves it; one it does not see leaves its view as it was. -/
theorem view_step {s next : Sleepers n} {event : Event n} (stepped : s.step event = some next)
    (i : Fin n) :
    (∀ seen, event.seenBy i = some seen → Utilities.step (s.view i) seen = some (next.view i)) ∧
      (event.seenBy i = none → next.view i = s.view i) := by
  cases event with
  | sleeper j =>
    simp only [step, sleeperStep] at stepped
    split at stepped
    · cases stepped
    rename_i blocked
    obtain ⟨t, moved, rfl⟩ := Option.map_eq_some'.mp stepped
    have written := write_sleeperOnly (show Utilities.step _ .sleeper = some t from moved) rfl
      fun _ takes => by simpa [takes] using blocked
    by_cases mine : j = i
    · subst mine
      simp only [Event.seenBy, if_true, Option.some.injEq, forall_eq', written.1]
      exact ⟨moved, fun unseen => by cases unseen⟩
    · simp [Event.seenBy, mine, written.2 i (Ne.symm mine)]
  | timeout j | spurious j =>
    have woken := view_wakeUp stepped rfl (by decide) i
    by_cases mine : j = i
    · subst mine
      simpa [Event.seenBy] using woken.1 rfl
    · simp [Event.seenBy, mine, woken.2 (Ne.symm mine)]
  | interrupter => simpa [Event.seenBy] using view_interrupterStep stepped i
  | tick reading =>
    simp only [step] at stepped
    split at stepped <;> cases stepped
    simp only [Event.seenBy, Option.some.injEq, forall_eq', Utilities.step, view]
    exact ⟨by rw [if_pos ‹_›], fun unseen => by cases unseen⟩

/-- **Each thread refines the two-thread model.** Along every schedule of the `n`-thread model,
the view of thread `i` is the two-thread run, from its first view, of the events it sees. -/
theorem view_run {s final : Sleepers n} {events : List (Event n)} (ran : s.run events = some final)
    (i : Fin n) :
    Utilities.run (s.view i) (events.filterMap (Event.seenBy i)) = some (final.view i) := by
  induction events generalizing s with
  | nil => cases ran; rfl
  | cons event events ih =>
    obtain ⟨next, stepped, rest⟩ := run_cons_eq_some.mp ran
    obtain ⟨seen, unseen⟩ := view_step stepped i
    cases sees : event.seenBy i with
    | none => rw [List.filterMap_cons_none sees, ← unseen sees]; exact ih rest
    | some e =>
      rw [List.filterMap_cons_some sees]
      exact Utilities.run_cons_eq_some.mpr ⟨_, seen e sees, ih rest⟩

/-! ### What every thread does -/

/-- A schedule of two threads: thread `0` waits; thread `1` waits, times out and returns `true`;
then `shutdown` runs and wakes thread `0`, which returns `false`. -/
def twoSleepersSchedule : List (Event 2) :=
  [.sleeper 0, .sleeper 0, .sleeper 0, .sleeper 1, .sleeper 1, .sleeper 1, .tick (.ofInt 3),
    .timeout 1, .sleeper 1, .sleeper 1, .sleeper 1, .sleeper 1, .interrupter, .interrupter,
    .interrupter, .interrupter, .sleeper 0, .sleeper 0, .sleeper 0, .sleeper 0]

/-- **Each of `n` threads in `sleep_for` refines the two-thread model** (`sleep_for`, lines
173–188, on `n` threads, against `shutdown`, lines 155–165). Over every schedule from the calls of
`sleep_for(nanoseconds i)`, whatever the statics held then, thread `i` and what it shares are where
the two-thread model, from the call of `sleep_for(nanoseconds i)`, takes them on the events
thread `i` sees: the other threads' statements and wake-ups never touch it. -/
theorem sleepers_refine_threads (nanoseconds : Fin n → Nanoseconds) (signalValue : Int)
    (station : Station) (clock : Nanoseconds) (events : List (Event n)) (final : Sleepers n)
    (ran : (called nanoseconds signalValue station clock).run events = some final) (i : Fin n) :
    Utilities.run (Threads.called (nanoseconds i) signalValue station clock)
      (events.filterMap (Event.seenBy i)) = some (final.view i) :=
  view_called nanoseconds signalValue station clock i ▸ view_run ran i

theorem sleepers_refine_threads_twoThreads :
    ∃ final, (called ![.ofInt 5, .ofInt 3] sigint (Station.zero ⟨false, .dfl⟩) (.ofInt 0)).run
        twoSleepersSchedule = some final ∧
      Utilities.run (Threads.called (.ofInt 3) sigint (Station.zero ⟨false, .dfl⟩) (.ofInt 0))
        (twoSleepersSchedule.filterMap (Event.seenBy 1)) = some (final.view 1) :=
  ⟨_, rfl, sleepers_refine_threads ![.ofInt 5, .ofInt 3] sigint (Station.zero ⟨false, .dfl⟩)
    (.ofInt 0) twoSleepersSchedule _ rfl 1⟩

/-- **Every thread's `sleep_for` refines `sleepFor`.** Over every schedule of `n` threads, each
thread that has returned `result` returned what `sleepFor` returns on the readings its activations
made, after as many waits; if `result` is `true`, its waits took at least what it asked for. -/
theorem sleepers_refine_sleepFor (nanoseconds : Fin n → Nanoseconds) (signalValue : Int)
    (station : Station) (clock : Nanoseconds) (events : List (Event n)) (final : Sleepers n)
    (ran : (called nanoseconds signalValue station clock).run events = some final) (i : Fin n)
    (result : Bool) (returned : final.sleeper i = .done result) :
    sleepFor (nanoseconds i) (final.frame i).episodes = some (result, (final.frame i).episodes.length) ∧
      (result = true →
        (nanoseconds i).count ≤ waited (final.frame i).episodes (final.frame i).episodes.length) := by
  have single := view_called nanoseconds signalValue station clock i ▸ view_run ran i
  have follows := run_preserves (fun _ _ _ => follows_step) single
    (follows_called (nanoseconds i) signalValue station clock)
  have recorded := run_preserves (fun _ _ _ => recorded_step) single
    (recorded_called (nanoseconds i) signalValue station clock)
  have model := follows.returned result returned
  refine ⟨model, fun success => ?_⟩
  rw [success] at model
  exact timeLeft_le_waited recorded.ordered recorded.notCleared model

theorem sleepers_refine_sleepFor_twoThreads :
    ∃ final, (called ![.ofInt 5, .ofInt 3] sigint (Station.zero ⟨false, .dfl⟩) (.ofInt 0)).run
        twoSleepersSchedule = some final ∧
      final.sleeper 1 = .done true ∧
      (sleepFor (.ofInt 3) (final.frame 1).episodes = some (true, (final.frame 1).episodes.length) ∧
        (true = true → (Nanoseconds.ofInt 3).count ≤
          waited (final.frame 1).episodes (final.frame 1).episodes.length)) :=
  ⟨_, rfl, rfl, sleepers_refine_sleepFor ![.ofInt 5, .ofInt 3] sigint (Station.zero ⟨false, .dfl⟩)
    (.ofInt 0) twoSleepersSchedule _ rfl 1 true rfl⟩

/-- **Every thread waits late at most once.** Over every schedule of `n` threads, each thread
begins at most one wait with `g_is_interrupted` set; once it has, it never reaches another wait,
and if it returns it returns `false`. -/
theorem sleepers_wait_late_at_most_once (nanoseconds : Fin n → Nanoseconds) (signalValue : Int)
    (station : Station) (clock : Nanoseconds) (events : List (Event n)) (final : Sleepers n)
    (ran : (called nanoseconds signalValue station clock).run events = some final) (i : Fin n) :
    (final.frame i).lateWaits ≤ 1 ∧
      ((final.frame i).lateWaits = 1 →
        (final.sleeper i).beforeWait = false ∧
          ∀ result, final.sleeper i = .done result → result = false) :=
  have inv := run_preserves (fun _ _ _ stepped => lateWaitInv_step stepped)
    (view_called nanoseconds signalValue station clock i ▸ view_run ran i) (LateWaitInv.of_zero rfl)
  ⟨inv.atMostOne, fun one => ⟨inv.pastWait one, inv.returnsFalse one⟩⟩

theorem sleepers_wait_late_at_most_once_twoThreads :
    ∃ final, (called ![.ofInt 5, .ofInt 3] sigint (Station.zero ⟨false, .dfl⟩) (.ofInt 0)).run
        twoSleepersSchedule = some final ∧
      final.sleeper 0 = .done false ∧
      ((final.frame 0).lateWaits ≤ 1 ∧
        ((final.frame 0).lateWaits = 1 →
          (final.sleeper 0).beforeWait = false ∧
            ∀ result, final.sleeper 0 = .done result → result = false)) :=
  ⟨_, rfl, rfl, sleepers_wait_late_at_most_once ![.ofInt 5, .ofInt 3] sigint
    (Station.zero ⟨false, .dfl⟩) (.ofInt 0) twoSleepersSchedule _ rfl 0⟩

/-! ### The mutex and `notify_all` -/

/-- Thread `i` holds the mutex exactly at the statements between taking it and releasing it. -/
theorem owner_iff_holdsMutex {nanoseconds : Fin n → Nanoseconds} {signalValue : Int}
    {station : Station} {clock : Nanoseconds} {events : List (Event n)} {final : Sleepers n}
    (ran : (called nanoseconds signalValue station clock).run events = some final) (i : Fin n) :
    final.owner = some i ↔ (final.sleeper i).holdsMutex = true := by
  have held := run_preserves (fun _ _ _ => step_mutexHeld) (view_run ran i) rfl
  rw [view_mutexHeld, view_sleeper] at held
  rw [← held, decide_eq_true_iff]

/-- **`g_interrupt_mutex` is held by one thread at most, which can always go on** (`sleep_for`,
lines 178–182, on `n` threads). Over every schedule of `n` threads and the interrupting thread: a
thread holds the mutex exactly when it is between taking it and releasing it (line 179, the call
of `wait_for` at line 180, or line 181); no two threads are there at once; and the one holding it
can always run its next statement, so a thread that waits for the mutex waits only on a thread
that is moving. -/
theorem mutex_owner_exclusive (nanoseconds : Fin n → Nanoseconds) (signalValue : Int)
    (station : Station) (clock : Nanoseconds) (events : List (Event n)) (final : Sleepers n)
    (ran : (called nanoseconds signalValue station clock).run events = some final) :
    (∀ i, final.owner = some i ↔ (final.sleeper i).holdsMutex = true) ∧
      (∀ i j, (final.sleeper i).holdsMutex = true → (final.sleeper j).holdsMutex = true → i = j) ∧
      ∀ i, final.owner = some i → ∃ next, final.step (.sleeper i) = some next := by
  have owns := owner_iff_holdsMutex ran
  refine ⟨owns, fun i j holdsI holdsJ => ?_, fun i owner => ?_⟩
  · exact Option.some_injective _ (((owns i).mpr holdsI).symm.trans ((owns j).mpr holdsJ))
  · have holds := (owns i).mp owner
    cases pc : final.sleeper i <;> rw [pc] at holds <;> cases holds <;>
      simp [step, sleeperStep, pc, SleeperPc.takesMutex, Utilities.sleeperStep, view]

theorem mutex_owner_exclusive_oneLocked :
    ∃ final, (called ![.ofInt 5, .ofInt 3] sigint (Station.zero ⟨false, .dfl⟩) (.ofInt 0)).run
        [.sleeper 0] = some final ∧
      final.owner = some 0 ∧
      ((∀ i, final.owner = some i ↔ (final.sleeper i).holdsMutex = true) ∧
        (∀ i j, (final.sleeper i).holdsMutex = true → (final.sleeper j).holdsMutex = true → i = j) ∧
        ∀ i, final.owner = some i → ∃ next, final.step (.sleeper i) = some next) :=
  ⟨_, rfl, rfl, mutex_owner_exclusive ![.ofInt 5, .ofInt 3] sigint (Station.zero ⟨false, .dfl⟩)
    (.ofInt 0) [.sleeper 0] _ rfl⟩

/-- **`notify_all` wakes every waiting thread** (`shutdown`, line 164, against `sleep_for`, line
180, on `n` threads). If the interrupting thread reaches `notify_all` with `g_is_interrupted` set,
every thread waiting at that moment is woken; on every later schedule, whatever the other threads
do, none of them begins another wait, and each that returns returns `false`. -/
theorem notify_all_wakes_every_waiting (s : Sleepers n) (notifying : s.interrupter = .notify)
    (flag : s.station.gIsInterrupted = true) :
    ∃ woken, s.step .interrupter = some woken ∧
      ∀ i, s.sleeper i = .waiting → woken.sleeper i = .woken ∧
        ∀ events final, woken.run events = some final →
          (final.sleeper i).beforeWait = false ∧
            ∀ result, final.sleeper i = .done result → result = false := by
  refine ⟨{ s with
      sleeper := fun i => if s.sleeper i = .waiting then .woken else s.sleeper i
      interrupter := .done },
    by simp [step, interrupterStep, notifying], fun i waiting => ⟨by simp [waiting],
      fun events final ran => ?_⟩⟩
  obtain ⟨-, pc⟩ := run_preserves (fun _ _ _ => released_step) (view_run ran i)
    ⟨flag, .inl (by simp [view, waiting])⟩
  rw [view_sleeper] at pc
  rcases pc with pc | pc | pc | pc | pc <;> rw [pc] <;>
    exact ⟨rfl, fun result done => by cases done <;> rfl⟩

theorem notify_all_wakes_every_waiting_bothWaiting :
    ∃ s, (called ![.ofInt 5, .ofInt 3] sigint (Station.zero ⟨false, .dfl⟩) (.ofInt 0)).run
        [.sleeper 0, .sleeper 0, .sleeper 0, .sleeper 1, .sleeper 1, .sleeper 1, .interrupter,
          .interrupter, .interrupter] = some s ∧
      s.sleeper 0 = .waiting ∧ s.sleeper 1 = .waiting ∧ s.interrupter = .notify ∧
      s.station.gIsInterrupted = true ∧
      ∃ woken, s.step .interrupter = some woken ∧
        ∀ i, s.sleeper i = .waiting → woken.sleeper i = .woken ∧
          ∀ events final, woken.run events = some final →
            (final.sleeper i).beforeWait = false ∧
              ∀ result, final.sleeper i = .done result → result = false :=
  ⟨_, rfl, rfl, rfl, rfl, rfl, notify_all_wakes_every_waiting _ rfl rfl⟩

end Sleepers

end Rclcpp.Utilities
