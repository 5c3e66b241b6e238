/-
**The interrupt indicators over every run of the station.**

`ok()` reads `g_signal_status`; `sleep_for` reads `g_is_interrupted`. `shutdown` and
`signal_handler` set both. `init` clears `g_is_interrupted` as its first statement (line 96,
before anything in it can throw) and never touches `g_signal_status`. So the two agree until an
`init` comes after an interrupt, and from then on `ok()` is false while `g_is_interrupted` is clear.

* `step_gSignalStatus`, `step_gIsInterrupted` — what one operation does to each indicator:
  `g_signal_status` becomes `SIGINT` at an interrupt and is otherwise kept; `g_is_interrupted`
  becomes true at an interrupt and false at every `init`, whether `init` returns or throws.
* `station_indicators` — **the indicators over whole runs.** In every reachable state
  `g_is_interrupted` implies `!ok()`; in every state reached by a run in which no `init` follows
  the first `shutdown` or signal, `ok()` is false exactly when `g_is_interrupted` is set; no
  operation makes `ok()` true again; and only `init` clears `g_is_interrupted`.
* `reinit_after_shutdown` — `shutdown`, then an `init` that succeeds: `ok()` is false and
  `g_is_interrupted` is clear.
* `guard_condition_runs` — **the SIGINT guard condition over whole runs**, the third indicator,
  the one an executor waits on. `init` makes it valid only at its last statement (line 143), and
  `rcl_trigger_guard_condition` rejects a zero-initialised one: it is valid exactly when some
  `init` got through all three of its calls, and triggered exactly when a `shutdown` or signal came
  after the last such `init` (`step_guard` for one operation, then induction from the end of the
  run).
-/

import Mathlib.Data.List.Basic
import Rclcpp.Utilities.SignalChain

namespace Rclcpp.Utilities

variable {hasSigaction : Bool}

/-! ### One operation -/

theorem step_gSignalStatus {station after : Station} {op : StationOp}
    (step : StationStep hasSigaction station op after) :
    after.gSignalStatus = if op.isInit then station.gSignalStatus else sigint := by
  cases step with
  | init outcome => exact init_gSignalStatus _ _ _
  | shutdown => rfl
  | signal depth returned => exact (signalHandler_interrupts returned).1

theorem step_gIsInterrupted {station after : Station} {op : StationOp}
    (step : StationStep hasSigaction station op after) : after.gIsInterrupted = !op.isInit := by
  cases step with
  | init outcome => exact init_gIsInterrupted _ _ _
  | shutdown => rfl
  | signal depth returned => exact (signalHandler_interrupts returned).2

/-! ### Whole runs -/

/-- `g_is_interrupted` only while `ok()` is false. -/
def InterruptedNotOk (station : Station) : Prop :=
  station.gIsInterrupted = true → station.gSignalStatus ≠ 0

/-- The indicators agree. -/
def IndicatorsAgree (station : Station) : Prop :=
  station.gSignalStatus ≠ 0 ↔ station.gIsInterrupted = true

/-- No `init` comes after the first `shutdown` or signal. -/
def initsFirst : List StationOp → Bool
  | [] => true
  | op :: ops => if op.isInit then initsFirst ops else ops.all (!·.isInit)

theorem initsFirst_of_all {ops : List StationOp} (noInit : ops.all (!·.isInit) = true) :
    initsFirst ops = true := by
  induction ops with
  | nil => rfl
  | cons op ops ih =>
    simp only [List.all_cons, Bool.and_eq_true, Bool.not_eq_true'] at noInit
    simp only [initsFirst, noInit.1]
    exact noInit.2

/-- Every operation leaves `g_is_interrupted` only with `ok()` false: it either raises both
indicators or is an `init`, which clears `g_is_interrupted`. -/
theorem interruptedNotOk_step {station after : Station} {op : StationOp}
    (step : StationStep hasSigaction station op after) : InterruptedNotOk after := by
  intro interrupted
  rw [step_gIsInterrupted step, Bool.not_eq_true'] at interrupted
  simp [step_gSignalStatus step, interrupted, sigint]

theorem interruptedNotOk_run {station final : Station} {ops : List StationOp}
    (run : StationRun hasSigaction station ops final) (holds : InterruptedNotOk station) :
    InterruptedNotOk final :=
  run.preserves (fun step _ => interruptedNotOk_step step) holds

/-- The run lemma for agreement: a run keeps the indicators agreeing as long as no `init` comes
after an interrupt, counting an interrupt that happened before the run. -/
theorem indicatorsAgree_run {station final : Station} {ops : List StationOp}
    (run : StationRun hasSigaction station ops final) (agree : IndicatorsAgree station)
    (interruptedBefore : station.gSignalStatus ≠ 0 → ops.all (!·.isInit) = true)
    (ordered : initsFirst ops = true) : IndicatorsAgree final := by
  induction run with
  | nil => exact agree
  | @cons station middle final op ops step _ ih =>
    have status := step_gSignalStatus step
    have flag := step_gIsInterrupted step
    cases isInit : op.isInit
    · -- `shutdown` or a signal: both indicators set, and no `init` may follow
      simp only [initsFirst, isInit] at ordered
      refine ih ?_ (fun _ => ordered) (initsFirst_of_all ordered)
      simp [IndicatorsAgree, status, flag, isInit, sigint]
    · -- an `init`: no interrupt happened before it
      have quiet : station.gSignalStatus = 0 := Decidable.byContradiction fun loud => by
        simpa [isInit] using interruptedBefore loud
      simp only [initsFirst, isInit, if_true] at ordered
      refine ih ?_ (fun loud => absurd (by simpa [isInit, quiet] using status) loud) ordered
      simp [IndicatorsAgree, status, flag, isInit, quiet]

/-- **The indicators over whole runs** (`utilities.cpp`, lines 53–165), for every build and every
SIGINT disposition the process starts with, over runs of `init`, `shutdown` and SIGINT deliveries
that the process survives. -/
theorem station_indicators (hasSigaction : Bool) (sigintAction : SigAction) :
    (∀ ops final, StationRun hasSigaction (Station.zero sigintAction) ops final →
      final.gIsInterrupted = true → ok final = false) ∧
    (∀ ops final, StationRun hasSigaction (Station.zero sigintAction) ops final →
      initsFirst ops = true → (ok final = false ↔ final.gIsInterrupted = true)) ∧
    (∀ station op after, StationStep hasSigaction station op after →
      ok station = false → ok after = false) ∧
    (∀ station op after, StationStep hasSigaction station op after →
      after.gIsInterrupted = !op.isInit) := by
  refine ⟨fun ops final run interrupted => ?_, fun ops final run ordered => ?_,
    fun station op after step stopped => ?_, fun _ _ _ step => step_gIsInterrupted step⟩
  · have := interruptedNotOk_run run (fun start => by cases start)
    simpa [ok] using this interrupted
  · have agree := indicatorsAgree_run run (by simp [IndicatorsAgree, Station.zero])
      (fun loud => absurd rfl loud) ordered
    simpa [ok, IndicatorsAgree] using agree
  · rw [ok, step_gSignalStatus step]
    simp only [ok, beq_eq_false_iff_ne] at stopped ⊢
    split
    · exact stopped
    · simp [sigint]

/-- **`ok()` and `g_is_interrupted` disagree after a re-`init`.** `shutdown`, then an `init`
whose every call succeeds: `g_signal_status` is still `SIGINT`, so `ok()` is false, while
`g_is_interrupted` is clear. -/
theorem reinit_after_shutdown :
    ∃ final, StationRun true (Station.zero ⟨false, .dfl⟩)
        [.shutdown, .init ⟨true, true, true, "", 0, some ""⟩] final ∧
      ok final = false ∧ final.gIsInterrupted = false :=
  ⟨_, .cons (.shutdown _) (.cons (.init _ _ (by decide)) (.nil _)), rfl, rfl⟩

/-! ### The guard condition -/

/-- Whether an operation is an `init` whose three calls all succeed, the only one that reaches
`rcl_guard_condition_init`'s success (line 143). -/
def StationOp.completesInit : StationOp → Bool
  | .init outcome => outcome.rclInitOk && outcome.signalOk && outcome.guardConditionInitOk
  | .shutdown | .signal => false

/-- The operations after the last `init` whose three calls all succeeded, in order. -/
def sinceGuardInit (ops : List StationOp) : List StationOp :=
  (ops.reverse.takeWhile fun op => !op.completesInit).reverse

theorem sinceGuardInit_snoc (ops : List StationOp) (op : StationOp) :
    sinceGuardInit (ops ++ [op]) = if op.completesInit then [] else sinceGuardInit ops ++ [op] := by
  simp only [sinceGuardInit, List.reverse_append, List.reverse_cons, List.reverse_nil,
    List.nil_append, List.singleton_append, List.takeWhile_cons, Bool.not_eq_true']
  split <;> simp_all

/-- What one operation does to the guard condition: a completed `init` makes it valid and not
triggered, another `init` leaves it, and `shutdown` or a signal triggers it. -/
theorem step_guard {station after : Station} {op : StationOp}
    (step : StationStep hasSigaction station op after) :
    after.gSigintGuardCondHandle =
      if op.completesInit then ⟨true, false⟩
      else if op.isInit then station.gSigintGuardCondHandle
      else station.gSigintGuardCondHandle.trigger := by
  cases step with
  | init outcome =>
    obtain ⟨rclInitOk, signalOk, guardConditionInitOk, _, _, _⟩ := outcome
    cases rclInitOk <;> cases signalOk <;> cases guardConditionInitOk <;> cases hasSigaction <;> rfl
  | shutdown => rfl
  | signal depth returned => rw [signalHandler_returned_state returned]; rfl

/-- A run that ends with `op` is a run, then a step by `op`. -/
theorem stationRun_snoc {station final : Station} {ops : List StationOp} {op : StationOp}
    (run : StationRun hasSigaction station (ops ++ [op]) final) :
    ∃ middle, StationRun hasSigaction station ops middle ∧ StationStep hasSigaction middle op final := by
  induction ops generalizing station with
  | nil =>
    obtain _ | ⟨step, rest⟩ := run
    cases rest
    exact ⟨station, .nil _, step⟩
  | cons first ops ih =>
    obtain _ | ⟨step, rest⟩ := run
    obtain ⟨middle, before, last⟩ := ih rest
    exact ⟨middle, .cons step before, last⟩

/-- **The SIGINT guard condition over whole runs** (`init`, line 143; `shutdown`, lines 159–162;
`signal_handler`, lines 84–88): valid once an `init` completed, and triggered exactly when it is
valid and an interrupt came after the last completed `init`. -/
theorem guard_condition_runs (hasSigaction : Bool) (sigintAction : SigAction)
    (ops : List StationOp) (final : Station)
    (run : StationRun hasSigaction (Station.zero sigintAction) ops final) :
    final.gSigintGuardCondHandle.initialized = ops.any StationOp.completesInit ∧
      final.gSigintGuardCondHandle.triggered =
        (ops.any StationOp.completesInit && (sinceGuardInit ops).any fun op => !op.isInit) := by
  induction ops using List.reverseRecOn generalizing final with
  | nil =>
    cases run
    exact ⟨rfl, rfl⟩
  | append_singleton ops op ih =>
    obtain ⟨middle, before, step⟩ := stationRun_snoc run
    obtain ⟨initialized, triggered⟩ := ih middle before
    rw [step_guard step, sinceGuardInit_snoc, List.any_append]
    generalize ops.any StationOp.completesInit = anyInit at initialized triggered
    cases anyInit <;> cases completes : op.completesInit <;> cases isInit : op.isInit <;>
      simp [completes, isInit, GuardCondition.trigger, initialized, triggered]

/-- `shutdown`, an `init` whose calls all succeed, and `shutdown` again. -/
def shutdownReinitShutdown : List StationOp := [.shutdown, .init initSucceeds, .shutdown]

theorem guard_condition_runs_reinit :
    ∃ final, StationRun true (Station.zero ⟨false, .dfl⟩) shutdownReinitShutdown final ∧
      final.gSigintGuardCondHandle = ⟨true, true⟩ ∧
      (final.gSigintGuardCondHandle.initialized =
          shutdownReinitShutdown.any StationOp.completesInit ∧
        final.gSigintGuardCondHandle.triggered =
          (shutdownReinitShutdown.any StationOp.completesInit &&
            (sinceGuardInit shutdownReinitShutdown).any fun op => !op.isInit)) :=
  have run : StationRun true (Station.zero ⟨false, .dfl⟩) shutdownReinitShutdown _ :=
    .cons (.shutdown _) (.cons (.init _ _ (by decide)) (.cons (.shutdown _) (.nil _)))
  ⟨_, run, rfl, guard_condition_runs true ⟨false, .dfl⟩ _ _ run⟩

end Rclcpp.Utilities
