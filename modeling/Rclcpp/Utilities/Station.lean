/-
**The process interrupt station: `init`, `ok`, `shutdown` and `signal_handler`.**

`utilities.cpp` keeps the process-wide interrupt state in file statics: `g_signal_status`, which
`ok()` compares with zero; `g_is_interrupted`, which `sleep_for` reads; the SIGINT guard
condition that executors wait on; and the SIGINT disposition that `init` saved when it installed
`signal_handler` (`old_action` where `sigaction` exists, `old_signal_handler` otherwise). A
`Station` holds these together with the process's current SIGINT disposition, which `init`
changes.

* `init` (lines 93–147) clears `g_is_interrupted`, then may throw at `rcl_init`, at the install
  of the handler, or at the guard-condition init, or kill the process after a failed install; what
  it did before stays done (`init_run`).
* `shutdown` (lines 155–165) and the body of `signal_handler` (lines 83–90) are the same four
  statements, `interrupt`.
* `signalHandler` (lines 53–91) first calls the saved handler when there is one: a function,
  `signal_handler` itself, or `SIG_IGN` or `SIG_ERR`, which are not functions, and the process dies.
  `depth` bounds how deep the chain through itself may go; `none` is a call that does not return.
* `StationStep` and `StationRun` — the three operations and the runs made of them.
-/

import Rclcpp.Basic
import Mathlib.Tactic.SplitIfs

namespace Rclcpp.Utilities

/-- `SIGINT`. -/
def sigint : Int := 2

/-! ### Signal dispositions -/

/-- A SIGINT handler as the function pointer the code compares and calls. `SIG_DFL` is the null
pointer wherever this code builds, so `NULL` and `SIG_DFL` are one value here. -/
inductive SigHandler
  | dfl
  | ign
  | err
  | other (id : Nat)
  | signalHandler
deriving DecidableEq, Repr

/-- A SIGINT action: its handler, and whether `SA_SIGINFO` is set (which makes the handler the
`sa_sigaction` member rather than `sa_handler`). -/
structure SigAction where
  saSiginfo : Bool
  handler : SigHandler
deriving DecidableEq, Repr

/-- The action `init` installs: `sigaction` with `SA_SIGINFO` (lines 104–109), or
`std::signal`, which has no flags (line 112). -/
def installedAction (hasSigaction : Bool) : SigAction := ⟨hasSigaction, .signalHandler⟩

/-- The previous action `init` saves: all of it from `sigaction`, only the handler from
`std::signal`. -/
def savedAction (hasSigaction : Bool) (previous : SigAction) : SigAction :=
  if hasSigaction then previous else ⟨false, previous.handler⟩

/-- Whether `signal_handler` calls the saved handler before its own body (lines 62–82). -/
def callsOldHandler (hasSigaction : Bool) (old : SigAction) : Bool :=
  if hasSigaction then
    if old.saSiginfo then old.handler != .dfl
    else old.handler != .dfl && old.handler != .ign
  else old.handler != .dfl

/-! ### The station -/

/-- An rcl guard condition: whether `rcl_guard_condition_init` made it valid, and whether it has
been triggered since. -/
structure GuardCondition where
  initialized : Bool
  triggered : Bool
deriving DecidableEq, Repr

/-- `rcl_trigger_guard_condition`: it triggers a valid guard condition, and reports an error
(which the code prints) on a zero-initialised one. -/
def GuardCondition.trigger (guard : GuardCondition) : GuardCondition :=
  { guard with triggered := guard.triggered || guard.initialized }

/-- The interrupt statics of `utilities.cpp` and the process's SIGINT disposition. -/
structure Station where
  gSignalStatus : Int
  gIsInterrupted : Bool
  gSigintGuardCondHandle : GuardCondition
  sigintAction : SigAction
  oldAction : SigAction
deriving DecidableEq, Repr

/-- The station at process start: the statics zero-initialised, SIGINT as the process found it. -/
def Station.zero (sigintAction : SigAction) : Station :=
  ⟨0, false, ⟨false, false⟩, sigintAction, ⟨false, .dfl⟩⟩

/-- `ok()` (lines 149–153). -/
def ok (station : Station) : Bool := station.gSignalStatus == 0

/-- The four statements shared by `shutdown` (lines 158–164) and `signal_handler` (lines 83–90):
store the signal, trigger the guard condition, set `g_is_interrupted`, notify the sleepers (which
changes nothing here). -/
def interrupt (signalValue : Int) (station : Station) : Station :=
  { station with
    gSignalStatus := signalValue
    gSigintGuardCondHandle := station.gSigintGuardCondHandle.trigger
    gIsInterrupted := true }

/-- `shutdown()` (lines 155–165). -/
def shutdown (station : Station) : Station := interrupt sigint station

@[simp] theorem interrupt_gSignalStatus (signalValue : Int) (station : Station) :
    (interrupt signalValue station).gSignalStatus = signalValue :=
  rfl

@[simp] theorem interrupt_gIsInterrupted (signalValue : Int) (station : Station) :
    (interrupt signalValue station).gIsInterrupted = true :=
  rfl

@[simp] theorem interrupt_sigintAction (signalValue : Int) (station : Station) :
    (interrupt signalValue station).sigintAction = station.sigintAction :=
  rfl

@[simp] theorem interrupt_oldAction (signalValue : Int) (station : Station) :
    (interrupt signalValue station).oldAction = station.oldAction :=
  rfl

/-! ### `init` -/

/-- What the calls `init` makes return: `rcl_init`, the install of the handler (`sigaction`
returning `-1`, or `std::signal` returning `SIG_ERR`, is a failure), and
`rcl_guard_condition_init`; with the texts its error messages quote. `strerror` is the text the C
library wrote into `error_string`, or `none` when glibc's `strerror_r` returned a string of its own
instead, as it does for every errno it knows. -/
structure InitOutcome where
  rclInitOk : Bool
  signalOk : Bool
  guardConditionInitOk : Bool
  rclErrorString : String
  errno : Nat
  strerror : Option String
deriving DecidableEq, Repr

/-- An `init` whose three calls all succeed. -/
def initSucceeds : InitOutcome := ⟨true, true, true, "", 0, some ""⟩

/-- How a call ends without returning: by a `std::runtime_error` with its message, or with the
death of the process. -/
inductive Abort
  | thrown (message : String)
  | dies
deriving DecidableEq, Repr

/-- How `init` ends when the handler cannot be installed (lines 116–140). The `sigaction` build is
glibc's, where g++ defines `_GNU_SOURCE`: when `strerror_r` returns its own string, lines 124–125
copy it and then write the buffer's last byte into that string, past its end, and the process
dies. The `std::signal` build is Windows', where `strerror_s` writes the text. -/
def sigintFailure (hasSigaction : Bool) (outcome : InitOutcome) : Abort :=
  match hasSigaction, outcome.strerror with
  | true, none => .dies
  | _, text =>
    .thrown ("Failed to set SIGINT signal handler: (" ++ toString outcome.errno ++ ")" ++ text.getD "")

/-- A successful install of `signal_handler`: the previous action is saved, and ours replaces it. -/
def Station.installSignalHandler (hasSigaction : Bool) (station : Station) : Station :=
  { station with
    oldAction := savedAction hasSigaction station.sigintAction
    sigintAction := installedAction hasSigaction }

/-- `rclcpp::utilities::init` (lines 93–147). Without `sigaction`, `old_signal_handler` is
assigned before the `SIG_ERR` check, so a failed install leaves `SIG_ERR` saved. -/
def init (hasSigaction : Bool) (outcome : InitOutcome) : EStateM Abort Station Unit := do
  modify fun station => { station with gIsInterrupted := false }
  if !outcome.rclInitOk then
    throw (.thrown ("failed to initialize rmw implementation: " ++ outcome.rclErrorString))
  if outcome.signalOk then
    modify (Station.installSignalHandler hasSigaction)
  else
    if !hasSigaction then
      modify fun station => { station with oldAction := ⟨false, .err⟩ }
    throw (sigintFailure hasSigaction outcome)
  if !outcome.guardConditionInitOk then
    throw (.thrown ("Couldn't initialize guard condition: " ++ outcome.rclErrorString))
  modify fun station => { station with gSigintGuardCondHandle := ⟨true, false⟩ }

/-- **What `init` does, branch by branch.** -/
theorem init_run (hasSigaction : Bool) (outcome : InitOutcome) (station : Station) :
    (init hasSigaction outcome).run station =
      let cleared := { station with gIsInterrupted := false }
      if outcome.rclInitOk then
        if outcome.signalOk then
          if outcome.guardConditionInitOk then
            .ok () { cleared.installSignalHandler hasSigaction with
              gSigintGuardCondHandle := ⟨true, false⟩ }
          else
            .error (.thrown ("Couldn't initialize guard condition: " ++ outcome.rclErrorString))
              (cleared.installSignalHandler hasSigaction)
        else
          .error (sigintFailure hasSigaction outcome)
            (if hasSigaction then cleared else { cleared with oldAction := ⟨false, .err⟩ })
      else
        .error (.thrown ("failed to initialize rmw implementation: " ++ outcome.rclErrorString))
          cleared := by
  obtain ⟨rclInitOk, signalOk, guardConditionInitOk, rclErrorString, errno, strerror⟩ := outcome
  cases rclInitOk <;> cases signalOk <;> cases guardConditionInitOk <;> cases hasSigaction <;> rfl

/-- The state `init` leaves, returned, thrown or at its death. -/
theorem init_state (hasSigaction : Bool) (outcome : InitOutcome) (station : Station) :
    stateAfter ((init hasSigaction outcome).run station) =
      let cleared := { station with gIsInterrupted := false }
      if outcome.rclInitOk then
        if outcome.signalOk then
          if outcome.guardConditionInitOk then
            { cleared.installSignalHandler hasSigaction with gSigintGuardCondHandle := ⟨true, false⟩ }
          else cleared.installSignalHandler hasSigaction
        else if hasSigaction then cleared else { cleared with oldAction := ⟨false, .err⟩ }
      else cleared := by
  rw [init_run]
  split_ifs <;> rfl

@[simp] theorem init_gSignalStatus (hasSigaction : Bool) (outcome : InitOutcome) (station : Station) :
    (stateAfter ((init hasSigaction outcome).run station)).gSignalStatus = station.gSignalStatus := by
  rw [init_state]
  split_ifs <;> rfl

@[simp] theorem init_gIsInterrupted (hasSigaction : Bool) (outcome : InitOutcome) (station : Station) :
    (stateAfter ((init hasSigaction outcome).run station)).gIsInterrupted = false := by
  rw [init_state]
  split_ifs <;> rfl

/-- `init` kills the process only after a failed install in the `sigaction` build, when
`strerror_r` returned a string of its own. -/
theorem init_dies_iff (hasSigaction : Bool) (outcome : InitOutcome) (station : Station) :
    thrown ((init hasSigaction outcome).run station) = some .dies ↔
      hasSigaction = true ∧ outcome.rclInitOk = true ∧ outcome.signalOk = false ∧
        outcome.strerror = none := by
  rw [init_run]
  split_ifs <;> cases hasSigaction <;> cases strerror : outcome.strerror <;>
    simp_all [thrown, sigintFailure]

/-! ### `signal_handler` -/

/-- A handler that one SIGINT delivery runs: a handler other than rclcpp's (the saved one, called
at line 65, 75 or 80, or the disposition itself), or the body of `signal_handler`
(lines 83–90). -/
inductive HandlerCall
  | previous (handler : SigHandler)
  | body
deriving DecidableEq, Repr

/-- What calling a saved handler other than `signal_handler` runs, or `none` when the process dies:
`SIG_IGN` and `SIG_ERR` are the addresses 1 and -1, not functions. (`callsOldHandler` never calls
`SIG_DFL`, the null pointer.) -/
def callSaved : SigHandler → Option (List HandlerCall)
  | .other id => some [.previous (.other id)]
  | _ => none

/-- `signal_handler(signal_value)` (lines 53–91), allowed `depth` nested calls of itself: the
station after it and the handlers it ran, in order, or `none` when it does not return, because the
chain of saved handlers goes deeper or one of them kills the process. -/
def signalHandler (hasSigaction : Bool) : Nat → Int → Station → Option (Station × List HandlerCall)
  | 0, _, _ => none
  | depth + 1, signalValue, station =>
    let chained :=
      if callsOldHandler hasSigaction station.oldAction then
        match station.oldAction.handler with
        | .signalHandler => signalHandler hasSigaction depth signalValue station
        | handler => (callSaved handler).map fun calls => (station, calls)
      else some (station, [])
    chained.map fun (reached, calls) => (interrupt signalValue reached, calls ++ [.body])

/-- One SIGINT delivered to the process: its disposition decides what runs, and `none` is the death
of the process. `SIG_DFL` ends it and `SIG_IGN` runs nothing; `SIG_ERR`, which no call installs, is
counted with `SIG_DFL`. -/
def deliverSigint (hasSigaction : Bool) (depth : Nat) (station : Station) :
    Option (Station × List HandlerCall) :=
  match station.sigintAction.handler with
  | .signalHandler => signalHandler hasSigaction depth sigint station
  | .other id => some (station, [.previous (.other id)])
  | .ign => some (station, [])
  | .dfl | .err => none

/-- Every run of `signal_handler` that returns ends with its own body, so it stores the signal
and sets `g_is_interrupted`. -/
theorem signalHandler_interrupts {hasSigaction : Bool} {depth : Nat} {signalValue : Int}
    {station after : Station} {calls : List HandlerCall}
    (returned : signalHandler hasSigaction depth signalValue station = some (after, calls)) :
    after.gSignalStatus = signalValue ∧ after.gIsInterrupted = true := by
  cases depth with
  | zero => cases returned
  | succ depth =>
    obtain ⟨⟨reached, chained⟩, -, same⟩ := Option.map_eq_some'.mp returned
    cases same
    exact ⟨rfl, rfl⟩

/-! ### Runs of the station -/

/-- The operations on the station: `init`, `shutdown`, and a SIGINT delivered to
`signal_handler`. -/
inductive StationOp
  | init (outcome : InitOutcome)
  | shutdown
  | signal
deriving DecidableEq, Repr

/-- Whether an operation is an `init`. -/
def StationOp.isInit : StationOp → Bool
  | .init _ => true
  | .shutdown | .signal => false

/-- One operation on the station, which the process survives. `init` may throw, and leaves its
state either way; a signal step is a run of `signal_handler` that returns. -/
inductive StationStep (hasSigaction : Bool) : Station → StationOp → Station → Prop
  | init (outcome : InitOutcome) (station : Station)
      (survives : thrown ((init hasSigaction outcome).run station) ≠ some .dies) :
      StationStep hasSigaction station (.init outcome) (stateAfter ((init hasSigaction outcome).run station))
  | shutdown (station : Station) : StationStep hasSigaction station .shutdown (shutdown station)
  | signal {station after : Station} {calls : List HandlerCall} (depth : Nat) :
      signalHandler hasSigaction depth sigint station = some (after, calls) →
        StationStep hasSigaction station .signal after

/-- A finite sequence of operations, in the order they run. -/
inductive StationRun (hasSigaction : Bool) : Station → List StationOp → Station → Prop
  | nil (station : Station) : StationRun hasSigaction station [] station
  | cons {station middle final : Station} {op : StationOp} {ops : List StationOp} :
      StationStep hasSigaction station op middle → StationRun hasSigaction middle ops final →
        StationRun hasSigaction station (op :: ops) final

/-- A property that every step keeps holds after every run from a station where it holds. -/
theorem StationRun.preserves {hasSigaction : Bool} {holds : Station → Prop}
    (kept : ∀ {station op after}, StationStep hasSigaction station op after → holds station →
      holds after)
    {station final : Station} {ops : List StationOp} (run : StationRun hasSigaction station ops final)
    (start : holds station) : holds final := by
  induction run with
  | nil => exact start
  | cons step _ ih => exact ih (kept step start)

end Rclcpp.Utilities
