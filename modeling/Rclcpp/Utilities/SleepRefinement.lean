/-
**The sleeper of the two-thread model refines `sleepFor`.**

`sleepFor` (`SleepFor.lean`) reads one `sleep_for` call as the list of what its activations read.
It is the meaning of the sleeping thread of `Interleaving.lean` under any schedule:

* `follows_step` — every event keeps `Follows`: the activations the sleeper has ended, fed to
  `sleepFor`, lead to the call the sleeper is in, with `time_left` updated as line 181 does.
* `sleeper_refines_sleepFor` — **the sleeper refines `sleepFor`.** A returned `sleep_for`
  returned what `sleepFor` returns on the readings its activations made, after as many waits. The
  readings it recorded are ordered within each wait and `g_is_interrupted` is never cleared, so
  `timeLeft_le_waited` applies: a sleeper that returns `true` waited at least what was asked.
-/

import Rclcpp.Utilities.Interleaving

namespace Rclcpp.Utilities

/-- The statements of an activation before `time_left` is updated at line 181. -/
def SleeperPc.beforeUpdate : SleeperPc → Bool
  | .lock | .readStart | .wait | .waiting | .woken | .readNow => true
  | _ => false

/-- The statements of an activation after it has read `start` (line 179) and before it reads the
clock again. -/
def SleeperPc.measuring : SleeperPc → Bool
  | .wait | .waiting | .woken | .readNow => true
  | _ => false

/-- Adding waits to a result of `sleepFor`. -/
theorem map_waits_add (result : Option (Bool × Nat)) (earlier : Nat) :
    ((result.map fun (value, waits) => (value, waits + 1)).map
        fun outcome => (outcome.1, outcome.2 + earlier)) =
      result.map fun outcome => (outcome.1, outcome.2 + (earlier + 1)) := by
  cases result with
  | none => rfl
  | some outcome =>
    simp only [Option.map_some', Option.some.injEq, Prod.mk.injEq, true_and]
    omega

/-! ### The sleeper -/

/-- The sleeper's progress as `sleepFor` reads it, for the call `sleep_for(requested)`. -/
structure Follows (requested : Nanoseconds) (s : Threads) : Prop where
  resumes : (∀ result, s.sleeper ≠ .done result) → ∀ rest,
    sleepFor requested (s.frame.episodes ++ rest) =
      (sleepFor s.frame.nanoseconds rest).map
        fun outcome => (outcome.1, outcome.2 + s.frame.episodes.length)
  returned : ∀ result, s.sleeper = .done result →
    sleepFor requested s.frame.episodes = some (result, s.frame.episodes.length)
  untouched : s.sleeper.beforeUpdate = true → s.frame.timeLeft = s.frame.nanoseconds
  updated : s.sleeper = .check ∨ s.sleeper = .ret →
    s.frame.timeLeft = s.frame.nanoseconds - (s.frame.now - s.frame.start)
  stopped : s.sleeper = .ret → ¬(0 < s.frame.timeLeft.count ∧ s.frame.interruptedAtCheck = false)

theorem follows_called (requested : Nanoseconds) (signalValue : Int) (station : Station)
    (clock : Nanoseconds) : Follows requested (Threads.called requested signalValue station clock) :=
  ⟨fun _ rest => by simp [Threads.called], fun _ done => (by cases done), fun _ => rfl,
    fun check => (by cases check <;> contradiction), fun check => (by cases check)⟩

section Follows

variable {requested : Nanoseconds} {s next : Threads}

/-- `Follows` reads only the sleeper's pc and frame. -/
theorem Follows.congr (follows : Follows requested s) (pc : next.sleeper = s.sleeper)
    (frame : next.frame = s.frame) : Follows requested next := by
  obtain ⟨resumes, returned, untouched, updated, stopped⟩ := follows
  rw [← pc, ← frame] at *
  exact ⟨resumes, returned, untouched, updated, stopped⟩

/-- A move before line 181 that keeps the frame's argument, `time_left` and record keeps
`Follows`. -/
theorem Follows.early (follows : Follows requested s) (before : s.sleeper.beforeUpdate = true)
    (nextBefore : next.sleeper.beforeUpdate = true)
    (episodes : next.frame.episodes = s.frame.episodes)
    (nanoseconds : next.frame.nanoseconds = s.frame.nanoseconds)
    (timeLeft : next.frame.timeLeft = s.frame.timeLeft) : Follows requested next := by
  have running : ∀ {t : Threads}, t.sleeper.beforeUpdate = true → ∀ result, t.sleeper ≠ .done result :=
    fun {t} early result done => by rw [done] at early; cases early
  have measuring : ¬(next.sleeper = .check ∨ next.sleeper = .ret) := by
    rintro (here | here) <;> simp [here, SleeperPc.beforeUpdate] at nextBefore
  refine ⟨fun _ => ?_, fun result done => absurd done (running nextBefore result),
    fun _ => ?_, fun check => absurd check measuring, fun ret => absurd (.inr ret) measuring⟩
  · rw [episodes, nanoseconds]
    exact follows.resumes (running before)
  · rw [timeLeft, nanoseconds]
    exact follows.untouched before

/-- The sleeper's own statements keep `Follows`: line 181 updates `time_left` as `sleepFor` does,
the recursive call at line 184 is `sleepFor` on the next episode, and the return at line 187 is
`sleepFor` stopping. -/
theorem follows_sleeperStep (stepped : sleeperStep s = some next)
    (follows : Follows requested s) : Follows requested next := by
  have running : ∀ result, s.sleeper ≠ .done result := fun result done => by
    simp only [sleeperStep, done] at stepped
    cases stepped
  cases pc : s.sleeper <;> simp only [sleeperStep, pc] at stepped
  case waiting | done => cases stepped
  case lock | woken | readStart | wait =>
    (try split at stepped) <;> cases stepped <;>
      exact follows.early (by rw [pc]; rfl) rfl rfl rfl rfl
  case readNow =>
    cases stepped
    refine ⟨fun _ => follows.resumes running, fun _ done => (by cases done),
      fun before => (by cases before), fun _ => ?_, fun ret => (by cases ret)⟩
    show s.frame.timeLeft - (s.clock - s.frame.start) = s.frame.nanoseconds - (s.clock - s.frame.start)
    rw [follows.untouched (by rw [pc]; rfl)]
  case check =>
    have updated := follows.updated (.inl pc)
    split at stepped <;> cases stepped
    · rename_i again
      refine ⟨fun _ rest => ?_, fun _ done => (by cases done), fun _ => rfl,
        fun check => (by rcases check with check | check <;> cases check),
        fun ret => (by cases ret)⟩
      have next := follows.resumes running
        (⟨s.frame.start, s.frame.now, false, false⟩ :: rest)
      rw [sleepFor_cons, if_pos ⟨updated ▸ again.1, rfl⟩, ← updated, map_waits_add] at next
      simpa only [List.append_assoc, List.singleton_append, List.length_append,
        List.length_singleton] using next
    · rename_i stop
      exact ⟨fun _ => follows.resumes running, fun _ done => (by cases done),
        fun before => (by cases before), fun _ => updated, fun _ => stop⟩
  case ret =>
    have updated := follows.updated (.inr pc)
    have stop := follows.stopped pc
    cases stepped
    refine ⟨fun notDone => absurd rfl (notDone _), fun result done => ?_,
      fun before => (by cases before), fun check => (by rcases check with check | check <;> cases check),
      fun ret => (by cases ret)⟩
    cases done
    have last := follows.resumes running
      [⟨s.frame.start, s.frame.now, s.frame.interruptedAtCheck, s.station.gIsInterrupted⟩]
    rw [sleepFor_cons, ← updated, if_neg stop] at last
    simpa only [List.length_append, List.length_singleton, Option.map_some', Nat.add_comm] using last

theorem follows_step {event : Event} (stepped : step s event = some next)
    (follows : Follows requested s) : Follows requested next := by
  by_cases mine : event = .sleeper
  · subst mine
    exact follows_sleeperStep stepped follows
  obtain ⟨frame, same | ⟨waiting, woken⟩, -, -⟩ := step_other mine stepped
  · exact follows.congr same frame
  · exact follows.early (by rw [waiting]; rfl) (by rw [woken]; rfl) (by rw [frame]) (by rw [frame])
      (by rw [frame])

end Follows

/-! ### What the sleeper records -/

/-- The readings the sleeper records are ordered within each wait, and a flag it read set was
still set when it returned. -/
structure Recorded (s : Threads) : Prop where
  ordered : ∀ episode ∈ s.frame.episodes, episode.start.count ≤ episode.now.count
  notCleared : NotCleared s.frame.episodes
  started : s.sleeper.measuring = true → s.frame.start.count ≤ s.clock.count
  measured : s.sleeper = .check ∨ s.sleeper = .ret → s.frame.start.count ≤ s.frame.now.count
  flagged : s.sleeper = .ret → s.frame.interruptedAtCheck = true → s.station.gIsInterrupted = true

section Recorded

variable {s next : Threads}

/-- Recording one more episode keeps the record ordered and never cleared. -/
theorem Recorded.append (recorded : Recorded s) (episode : WaitEpisode)
    (ordered : episode.start.count ≤ episode.now.count)
    (notCleared : episode.interruptedAtCheck = true → episode.interruptedAtReturn = true) :
    (∀ e ∈ s.frame.episodes ++ [episode], e.start.count ≤ e.now.count) ∧
      NotCleared (s.frame.episodes ++ [episode]) := by
  constructor <;> intro e member <;> rcases List.mem_append.mp member with old | new
  · exact recorded.ordered e old
  · rwa [List.mem_singleton.mp new]
  · exact recorded.notCleared e old
  · rwa [List.mem_singleton.mp new]

theorem recorded_sleeperStep (stepped : sleeperStep s = some next) (recorded : Recorded s) :
    Recorded next := by
  cases pc : s.sleeper <;> simp only [sleeperStep, pc] at stepped
  case waiting | done => cases stepped
  case lock | woken =>
    split at stepped <;> cases stepped
    exact ⟨recorded.ordered, recorded.notCleared, fun measuring => recorded.started (pc ▸ measuring),
      fun check => (by rcases check with check | check <;> cases check), fun ret => (by cases ret)⟩
  case readStart | wait =>
    cases stepped
    exact ⟨recorded.ordered, recorded.notCleared,
      fun _ => (by first | exact le_rfl | exact recorded.started (by rw [pc]; rfl)),
      fun check => (by rcases check with check | check <;> cases check), fun ret => (by cases ret)⟩
  case readNow =>
    cases stepped
    exact ⟨recorded.ordered, recorded.notCleared, fun measuring => (by cases measuring),
      fun _ => recorded.started (by rw [pc]; rfl), fun ret => (by cases ret)⟩
  case check =>
    have measured := recorded.measured (.inl pc)
    split at stepped <;> cases stepped
    · obtain ⟨ordered, notCleared⟩ := recorded.append
        ⟨s.frame.start, s.frame.now, false, false⟩ measured (fun atCheck => atCheck)
      exact ⟨ordered, notCleared, fun measuring => (by cases measuring),
        fun check => (by rcases check with check | check <;> cases check), fun ret => (by cases ret)⟩
    · exact ⟨recorded.ordered, recorded.notCleared, fun measuring => (by cases measuring),
        fun _ => measured, fun _ flag => flag⟩
  case ret =>
    obtain ⟨ordered, notCleared⟩ := recorded.append
      ⟨s.frame.start, s.frame.now, s.frame.interruptedAtCheck, s.station.gIsInterrupted⟩
      (recorded.measured (.inr pc)) (recorded.flagged pc)
    cases stepped
    exact ⟨ordered, notCleared, fun measuring => (by cases measuring),
      fun check => (by rcases check with check | check <;> cases check), fun ret => (by cases ret)⟩

theorem recorded_step {event : Event} (stepped : step s event = some next)
    (recorded : Recorded s) : Recorded next := by
  by_cases mine : event = .sleeper
  · subst mine
    exact recorded_sleeperStep stepped recorded
  obtain ⟨frame, moved, later, flag⟩ := step_other mine stepped
  obtain ⟨ordered, notCleared, started, measured, flagged⟩ := recorded
  rw [← frame] at ordered notCleared started measured flagged
  rcases moved with same | ⟨waiting, woken⟩
  · rw [← same] at started measured flagged
    exact ⟨ordered, notCleared, fun measuring => le_trans (started measuring) later, measured,
      fun ret atCheck => flag (flagged ret atCheck)⟩
  · refine ⟨ordered, notCleared, fun _ => le_trans (started (by rw [waiting]; rfl)) later,
      fun check => ?_, fun ret => ?_⟩ <;> simp [woken] at *

theorem recorded_called (requested : Nanoseconds) (signalValue : Int) (station : Station)
    (clock : Nanoseconds) : Recorded (Threads.called requested signalValue station clock) :=
  ⟨fun _ member => (by cases member), fun _ member => (by cases member),
    fun measuring => (by cases measuring), fun check => (by rcases check with check | check <;> cases check),
    fun ret => (by cases ret)⟩

end Recorded

/-- **The sleeper refines `sleepFor`** (`sleep_for`, lines 173–188, against `shutdown`, lines
155–165, or `signal_handler`, lines 84–90). Over every schedule from the call of
`sleep_for(nanoseconds)`, whatever the statics held then: once `sleep_for` has returned `result`,
the sequential model, given the readings its activations made, returns `result` after as many
waits as there were activations; and if `result` is `true`, those waits took at least
`nanoseconds` in all. -/
theorem sleeper_refines_sleepFor (nanoseconds : Nanoseconds) (signalValue : Int)
    (station : Station) (clock : Nanoseconds) (events : List Event) (final : Threads)
    (ran : run (Threads.called nanoseconds signalValue station clock) events = some final)
    (result : Bool) (returned : final.sleeper = .done result) :
    sleepFor nanoseconds final.frame.episodes = some (result, final.frame.episodes.length) ∧
      (result = true → nanoseconds.count ≤ waited final.frame.episodes final.frame.episodes.length) := by
  have follows := run_preserves (fun _ _ _ => follows_step) ran
    (follows_called nanoseconds signalValue station clock)
  have recorded := run_preserves (fun _ _ _ => recorded_step) ran
    (recorded_called nanoseconds signalValue station clock)
  have model := follows.returned result returned
  refine ⟨model, fun success => ?_⟩
  rw [success] at model
  exact timeLeft_le_waited recorded.ordered recorded.notCleared model

theorem sleeper_refines_sleepFor_twoWaits :
    ∃ final, run (Threads.called (.ofInt 5) sigint (Station.zero ⟨false, .dfl⟩) (.ofInt 0))
        [.sleeper, .sleeper, .sleeper, .tick (.ofInt 3), .spurious, .sleeper, .sleeper, .sleeper,
          .sleeper, .sleeper, .sleeper, .tick (.ofInt 7), .timeout, .sleeper, .sleeper, .sleeper,
          .sleeper] = some final ∧
      final.sleeper = .done true ∧
      (sleepFor (.ofInt 5) final.frame.episodes = some (true, final.frame.episodes.length) ∧
        (true = true → (Nanoseconds.ofInt 5).count ≤
          waited final.frame.episodes final.frame.episodes.length)) :=
  ⟨_, rfl, rfl, sleeper_refines_sleepFor (.ofInt 5) sigint (Station.zero ⟨false, .dfl⟩) (.ofInt 0)
    [.sleeper, .sleeper, .sleeper, .tick (.ofInt 3), .spurious, .sleeper, .sleeper, .sleeper,
      .sleeper, .sleeper, .sleeper, .tick (.ofInt 7), .timeout, .sleeper, .sleeper, .sleeper,
      .sleeper] _ rfl true rfl⟩

end Rclcpp.Utilities
