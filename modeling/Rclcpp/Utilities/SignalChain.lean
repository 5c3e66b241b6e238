/-
**Chaining to the saved SIGINT handler, over every sequence of `init` calls.**

`signal_handler` first calls the handler that `init` saved when it installed itself (lines
62–82), then runs its own body. `init` saves whatever SIGINT action the process has at that
moment, and after one `init` has installed the handler, that action is `signal_handler` itself.
So a second `init` that installs the handler saves `signal_handler` as its own predecessor, and
one SIGINT then makes `signal_handler` call itself before it ever reaches its body.

* `signalHandler_saved_other` — with a saved handler that is not rclcpp's, one run of
  `signal_handler` needs no nested call: it calls the saved handler at most once, then its body.
* `signalHandler_saved_self` — with `signal_handler` saved as its own predecessor, no depth is
  enough: the chain never returns.
* `initSequence_actions` — in the `sigaction` build, the SIGINT action and the saved action after
  any sequence of `init`s, by how many of them installed the handler.
* `deliverSigint_returns_iff` — **termination, exactly.** In the `sigaction` build, which SIGINT
  dispositions and sequences of `init`s let one SIGINT return.
* `second_init_self_chains` — two `init`s whose calls all succeed, in either build: SIGINT never
  returns.
* `failed_reinstall_calls_sigErr` — without `sigaction`, after a re-install fails no SIGINT returns
  again, whatever runs next.
* `ignored_handler_called` — without `sigaction`, a process that starts with SIGINT ignored never
  survives a SIGINT once `signal_handler` is installed.
-/

import Rclcpp.Utilities.Station

namespace Rclcpp.Utilities

/-- The state after a sequence of `init` calls, each returning or throwing, up to the first that
kills the process. -/
def initSequence (hasSigaction : Bool) : List InitOutcome → Station → Station
  | [], station => station
  | outcome :: outcomes, station =>
    match (init hasSigaction outcome).run station with
    | .error .dies dead => dead
    | ended => initSequence hasSigaction outcomes (stateAfter ended)

theorem initSequence_cons {hasSigaction : Bool} {outcome : InitOutcome} {station : Station}
    (survives : thrown ((init hasSigaction outcome).run station) ≠ some .dies)
    (outcomes : List InitOutcome) :
    initSequence hasSigaction (outcome :: outcomes) station =
      initSequence hasSigaction outcomes (stateAfter ((init hasSigaction outcome).run station)) := by
  simp only [initSequence]
  split
  · next dead ended => rw [ended] at survives; exact absurd rfl survives
  · rfl

/-- How many of the calls installed `signal_handler`: `rcl_init` and the install both succeeded. -/
def installs (outcomes : List InitOutcome) : Nat :=
  (outcomes.filter fun outcome => outcome.rclInitOk && outcome.signalOk).length

/-- Whether a handler call is the body of `signal_handler`. -/
def HandlerCall.isBody : HandlerCall → Bool
  | .body => true
  | .previous _ => false

/-- One SIGINT ran the body of `signal_handler` at most once, and other handlers at most once. -/
def AtMostOnceEach (calls : List HandlerCall) : Prop :=
  (calls.filter HandlerCall.isBody).length ≤ 1 ∧ (calls.filter (!·.isBody)).length ≤ 1

/-! ### One SIGINT -/

theorem callsOldHandler_signalHandler (hasSigaction saSiginfo : Bool) :
    callsOldHandler hasSigaction ⟨saSiginfo, .signalHandler⟩ = true := by
  cases hasSigaction <;> cases saSiginfo <;> rfl

/-- With a saved handler that is not rclcpp's, `signal_handler` calls it when `callsOldHandler`
says so and then runs its body, with no nested call of itself. -/
theorem signalHandler_saved_other (hasSigaction : Bool) (depth : Nat) (signalValue : Int)
    (station : Station) (other : station.oldAction.handler ≠ .signalHandler) :
    signalHandler hasSigaction (depth + 1) signalValue station =
      (if callsOldHandler hasSigaction station.oldAction then callSaved station.oldAction.handler
        else some []).map fun calls => (interrupt signalValue station, calls ++ [.body]) := by
  -- `other` discharges the wildcard branch of the match
  simp only [signalHandler]
  split
  · cases callSaved station.oldAction.handler <;> rfl
  · rfl

/-- With a saved handler that is not rclcpp's, `signal_handler` returns exactly when it skips the
saved handler or the saved handler is a function. -/
theorem signalHandler_saved_other_returns_iff (hasSigaction : Bool) (signalValue : Int)
    (station : Station) (other : station.oldAction.handler ≠ .signalHandler) :
    (∃ depth after calls, signalHandler hasSigaction depth signalValue station = some (after, calls)) ↔
      callsOldHandler hasSigaction station.oldAction = false ∨
        ∃ id, station.oldAction.handler = .other id := by
  constructor
  · rintro ⟨_ | depth, after, calls, returned⟩
    · cases returned
    rw [signalHandler_saved_other _ _ _ _ other] at returned
    split at returned
    · right
      cases handler : station.oldAction.handler <;> simp_all [callSaved]
    · next skips => exact .inl (Bool.eq_false_iff.mpr skips)
  · rintro (skips | ⟨id, function⟩) <;> refine ⟨0 + 1, ?_⟩ <;>
      rw [signalHandler_saved_other _ _ _ _ other]
    · rw [skips]; exact ⟨_, _, rfl⟩
    · rw [function]; split <;> exact ⟨_, _, rfl⟩

/-- With `signal_handler` saved as its own predecessor, no depth is enough. -/
theorem signalHandler_saved_self (hasSigaction : Bool) (signalValue : Int) (station : Station)
    (self : station.oldAction.handler = .signalHandler) (depth : Nat) :
    signalHandler hasSigaction depth signalValue station = none := by
  have chained : callsOldHandler hasSigaction station.oldAction = true := by
    rw [show station.oldAction = ⟨station.oldAction.saSiginfo, .signalHandler⟩ by
      rw [← self]]
    exact callsOldHandler_signalHandler _ _
  induction depth with
  | zero => rfl
  | succ depth ih => simp [signalHandler, chained, self, ih]

/-- A run of `signal_handler` that returns ran its body once on the station it was given: a saved
handler that is rclcpp's own never returns. -/
theorem signalHandler_returned_state {hasSigaction : Bool} {depth : Nat} {signalValue : Int}
    {station after : Station} {calls : List HandlerCall}
    (returned : signalHandler hasSigaction depth signalValue station = some (after, calls)) :
    after = interrupt signalValue station := by
  cases depth with
  | zero => cases returned
  | succ depth =>
    by_cases self : station.oldAction.handler = .signalHandler
    · rw [signalHandler_saved_self _ _ _ self] at returned
      cases returned
    · rw [signalHandler_saved_other _ _ _ _ self] at returned
      obtain ⟨_, -, reached⟩ := Option.map_eq_some'.mp returned
      cases reached
      rfl

/-- With `signal_handler` both the SIGINT disposition and its own saved predecessor, a SIGINT
never returns. -/
theorem deliverSigint_saved_self (hasSigaction : Bool) {station : Station}
    (ours : station.sigintAction.handler = .signalHandler)
    (self : station.oldAction.handler = .signalHandler) (depth : Nat) :
    deliverSigint hasSigaction depth station = none := by
  simp only [deliverSigint, ours]
  exact signalHandler_saved_self _ _ _ self depth

/-! ### A sequence of `init` calls, `sigaction` build -/

/-- What one `init` does to the two SIGINT actions in the `sigaction` build: an install saves the
current action and puts `signal_handler` in its place; any other outcome changes neither. -/
theorem init_actions (outcome : InitOutcome) (station : Station) :
    (stateAfter ((init true outcome).run station)).sigintAction =
        (if outcome.rclInitOk && outcome.signalOk then installedAction true
          else station.sigintAction) ∧
      (stateAfter ((init true outcome).run station)).oldAction =
        (if outcome.rclInitOk && outcome.signalOk then station.sigintAction
          else station.oldAction) := by
  rw [init_state]
  cases outcome.rclInitOk <;> cases outcome.signalOk <;> cases outcome.guardConditionInitOk <;>
    exact ⟨rfl, rfl⟩

/-- No call of a sequence of `init`s kills the process in the `sigaction` build: none of them fails to
install the handler where `strerror_r` returns a string of its own. -/
def SurvivesInits (outcomes : List InitOutcome) : Prop :=
  ∀ outcome ∈ outcomes, outcome.rclInitOk = true → outcome.signalOk = false → outcome.strerror ≠ none

/-- The two SIGINT actions after any sequence of `init`s (`sigaction` build) that the process
survives, by how many of them installed the handler. -/
theorem initSequence_actions {outcomes : List InitOutcome} (survives : SurvivesInits outcomes)
    (station : Station) :
    (initSequence true outcomes station).sigintAction =
        (if 1 ≤ installs outcomes then installedAction true else station.sigintAction) ∧
      (initSequence true outcomes station).oldAction =
        (if 2 ≤ installs outcomes then installedAction true
          else if installs outcomes = 1 then station.sigintAction else station.oldAction) := by
  induction outcomes generalizing station with
  | nil => simp [initSequence, installs]
  | cons outcome outcomes ih =>
    obtain ⟨sigint_after, old_after⟩ := init_actions outcome station
    have count : installs (outcome :: outcomes) =
        installs outcomes + if outcome.rclInitOk && outcome.signalOk then 1 else 0 := by
      by_cases installed : (outcome.rclInitOk && outcome.signalOk) = true <;>
        simp [installs, List.filter_cons, installed]
    have lives : thrown ((init true outcome).run station) ≠ some .dies := fun dies =>
      have ⟨_, rcl, signal, quiet⟩ := (init_dies_iff _ _ _).mp dies
      survives outcome (List.mem_cons_self _ _) rcl signal quiet
    have rest := ih (fun outcome' mem => survives outcome' (List.mem_cons_of_mem _ mem))
    rw [initSequence_cons lives, (rest _).1, (rest _).2, sigint_after, old_after, count]
    by_cases installed : (outcome.rclInitOk && outcome.signalOk) = true
    · simp only [installed, if_true]
      constructor <;> split_ifs <;> first | rfl | omega
    · simp [installed]

/-- A SIGINT disposition other than rclcpp's lets a SIGINT return exactly when it ignores it or is
a function. -/
theorem deliverSigint_other_returns_iff (hasSigaction : Bool) {station : Station}
    (notOurs : station.sigintAction.handler ≠ .signalHandler) :
    (∃ depth after calls, deliverSigint hasSigaction depth station = some (after, calls)) ↔
      station.sigintAction.handler = .ign ∨ ∃ id, station.sigintAction.handler = .other id := by
  unfold deliverSigint
  cases handler : station.sigintAction.handler <;> simp_all

/-- Whether `signal_handler` survives calling a saved action that is not its own (`sigaction`
build): unless `SA_SIGINFO` makes it call a saved `SIG_IGN`, or it calls `SIG_ERR`. -/
theorem callsOldHandler_survives_iff (old : SigAction) (other : old.handler ≠ .signalHandler) :
    (callsOldHandler true old = false ∨ ∃ id, old.handler = .other id) ↔
      old ≠ ⟨true, .ign⟩ ∧ old.handler ≠ .err := by
  rcases old with ⟨_ | _, _ | _ | _ | id | _⟩ <;> simp_all [callsOldHandler]

/-- A SIGINT that returns, with a saved handler other than rclcpp's, ran the body of
`signal_handler` at most once and other handlers at most once. -/
theorem deliverSigint_atMostOnceEach {hasSigaction : Bool} {depth : Nat} {station after : Station}
    {calls : List HandlerCall} (other : station.oldAction.handler ≠ .signalHandler)
    (delivered : deliverSigint hasSigaction depth station = some (after, calls)) :
    AtMostOnceEach calls := by
  unfold deliverSigint at delivered
  split at delivered
  · obtain _ | depth := depth
    · cases delivered
    rw [signalHandler_saved_other _ _ _ _ other] at delivered
    obtain ⟨chained, called, reached⟩ := Option.map_eq_some'.mp delivered
    cases reached
    split at called
    · cases handler : station.oldAction.handler <;> simp only [handler, callSaved] at called <;>
        cases called
      simp [AtMostOnceEach, HandlerCall.isBody]
    · cases called
      simp [AtMostOnceEach, HandlerCall.isBody]
  all_goals cases delivered <;> simp [AtMostOnceEach, HandlerCall.isBody]

/-- **Termination of one SIGINT, exactly** (`signal_handler`, lines 53–91; `init`, lines 103–115;
`sigaction` build): which dispositions and sequences of `init`s let one SIGINT return, and then it
ran each handler at most once. -/
theorem deliverSigint_returns_iff (sigintAction : SigAction)
    (notOurs : sigintAction.handler ≠ .signalHandler) (outcomes : List InitOutcome)
    (survives : SurvivesInits outcomes) :
    ((∃ depth after calls,
        deliverSigint true depth (initSequence true outcomes (Station.zero sigintAction)) =
          some (after, calls)) ↔
      installs outcomes = 0 ∧
          (sigintAction.handler = .ign ∨ ∃ id, sigintAction.handler = .other id) ∨
        installs outcomes = 1 ∧ sigintAction ≠ ⟨true, .ign⟩ ∧ sigintAction.handler ≠ .err) ∧
      ∀ depth after calls,
        deliverSigint true depth (initSequence true outcomes (Station.zero sigintAction)) =
          some (after, calls) → AtMostOnceEach calls := by
  obtain ⟨current, saved⟩ := initSequence_actions survives (Station.zero sigintAction)
  generalize initSequence true outcomes (Station.zero sigintAction) = station at current saved ⊢
  rcases Nat.lt_or_ge (installs outcomes) 2 with few | many
  · -- at most one install: the saved action is the process's own, or the zero one
    have other : station.oldAction.handler ≠ .signalHandler := by
      rw [saved, if_neg (by omega)]
      split
      · exact notOurs
      · simp [Station.zero]
    refine ⟨?_, fun _ _ _ => deliverSigint_atMostOnceEach other⟩
    rcases Nat.lt_or_ge (installs outcomes) 1 with none | one
    · -- no install: the disposition is the process's own
      have current : station.sigintAction = sigintAction := by rw [current, if_neg (by omega)]; rfl
      rw [deliverSigint_other_returns_iff true (current ▸ notOurs), current,
        show installs outcomes = 0 by omega]
      simp
    · -- one install: `signal_handler` over the process's own disposition
      have current : station.sigintAction = installedAction true := by rw [current, if_pos one]
      have saved : station.oldAction = sigintAction := by
        rw [saved, if_neg (by omega), if_pos (by omega)]; rfl
      simp only [deliverSigint, current, installedAction]
      rw [signalHandler_saved_other_returns_iff _ _ _ other, saved,
        callsOldHandler_survives_iff _ notOurs, show installs outcomes = 1 by omega]
      simp
  · -- two installs or more: `signal_handler` is both the disposition and its own predecessor
    have ours : station.sigintAction.handler = .signalHandler := by
      rw [current, if_pos (by omega)]
      rfl
    have self : station.oldAction.handler = .signalHandler := by
      rw [saved, if_pos many]
      rfl
    have never : ¬∃ depth after calls, deliverSigint true depth station = some (after, calls) :=
      fun ⟨depth, _, _, delivered⟩ => by
        rw [deliverSigint_saved_self true ours self depth] at delivered
        cases delivered
    exact ⟨⟨never.elim, fun _ => by omega⟩,
      fun depth _ _ delivered => never.elim ⟨depth, _, _, delivered⟩⟩

theorem deliverSigint_returns_iff_ignoredWithSiginfo :
    (⟨true, .ign⟩ : SigAction).handler ≠ .signalHandler ∧ SurvivesInits [initSucceeds] ∧
      ((∃ depth after calls,
          deliverSigint true depth (initSequence true [initSucceeds] (Station.zero ⟨true, .ign⟩)) =
            some (after, calls)) ↔
        installs [initSucceeds] = 0 ∧
            ((⟨true, .ign⟩ : SigAction).handler = .ign ∨
              ∃ id, (⟨true, .ign⟩ : SigAction).handler = .other id) ∨
          installs [initSucceeds] = 1 ∧ (⟨true, .ign⟩ : SigAction) ≠ ⟨true, .ign⟩ ∧
            (⟨true, .ign⟩ : SigAction).handler ≠ .err) ∧
      ∀ depth after calls,
        deliverSigint true depth (initSequence true [initSucceeds] (Station.zero ⟨true, .ign⟩)) =
          some (after, calls) → AtMostOnceEach calls :=
  have survives : SurvivesInits [initSucceeds] := by simp [SurvivesInits, initSucceeds]
  ⟨by decide, survives, deliverSigint_returns_iff _ (by decide) _ survives⟩

/-- **A second `init` makes SIGINT recurse without end.** Two `init`s whose calls all succeed,
from the default disposition and in either build: the second saves `signal_handler` as its own
predecessor, and one SIGINT never returns, at any depth. -/
theorem second_init_self_chains (hasSigaction : Bool) (depth : Nat) :
    (initSequence hasSigaction
        [⟨true, true, true, "", 0, some ""⟩, ⟨true, true, true, "", 0, some ""⟩]
        (Station.zero ⟨false, .dfl⟩)).oldAction.handler = .signalHandler ∧
      deliverSigint hasSigaction depth (initSequence hasSigaction
        [⟨true, true, true, "", 0, some ""⟩, ⟨true, true, true, "", 0, some ""⟩]
        (Station.zero ⟨false, .dfl⟩)) = none := by
  generalize twice : initSequence hasSigaction _ _ = station
  have self : station.oldAction.handler = .signalHandler := by
    subst twice
    cases hasSigaction <;> rfl
  have ours : station.sigintAction.handler = .signalHandler := by
    subst twice
    cases hasSigaction <;> rfl
  exact ⟨self, deliverSigint_saved_self hasSigaction ours self depth⟩

/-! ### Runs without `sigaction` -/

/-- In the `std::signal` build, `signal_handler` is the SIGINT disposition and its saved
predecessor is a handler whose call does not return: `SIG_IGN` or `SIG_ERR`, which are not
functions, or `signal_handler` itself. -/
def SigintKills (station : Station) : Prop :=
  station.sigintAction.handler = .signalHandler ∧
    (station.oldAction.handler = .ign ∨ station.oldAction.handler = .err ∨
      station.oldAction.handler = .signalHandler)

/-- `signal_handler` never returns over a saved `SIG_IGN`, `SIG_ERR` or itself (`std::signal`
build, lines 79–81). -/
theorem signalHandler_saved_fatal {station : Station}
    (fatal : station.oldAction.handler = .ign ∨ station.oldAction.handler = .err ∨
      station.oldAction.handler = .signalHandler) (depth : Nat) (signalValue : Int) :
    signalHandler false depth signalValue station = none := by
  by_cases self : station.oldAction.handler = .signalHandler
  · exact signalHandler_saved_self _ _ _ self depth
  cases depth with
  | zero => rfl
  | succ depth =>
    rw [signalHandler_saved_other _ _ _ _ self]
    rcases fatal with fatal | fatal | fatal <;> simp_all [callsOldHandler, callSaved]

theorem deliverSigint_of_sigintKills {station : Station} (kills : SigintKills station)
    (depth : Nat) : deliverSigint false depth station = none := by
  simp only [deliverSigint, kills.1]
  exact signalHandler_saved_fatal kills.2 depth sigint

/-- No operation of the `std::signal` build leaves `SigintKills`: an `init` saves
`signal_handler` itself, or `SIG_ERR` when its install fails, and no SIGINT returns. -/
theorem sigintKills_step {station after : Station} {op : StationOp}
    (step : StationStep false station op after) (kills : SigintKills station) :
    SigintKills after := by
  cases step with
  | init outcome _ _ =>
    rw [init_state]
    split_ifs <;> simp_all [SigintKills, Station.installSignalHandler, installedAction, savedAction]
  | shutdown => exact kills
  | signal depth returned =>
    rw [signalHandler_saved_fatal kills.2] at returned
    cases returned

/-- **Without `sigaction`, a failed re-install makes every later SIGINT fatal** (`init`, lines
112–114): `old_signal_handler` is assigned before the `SIG_ERR` check, so `SIG_ERR` is saved, and
whatever runs next, no SIGINT returns. -/
theorem failed_reinstall_calls_sigErr (station : Station)
    (installed : station.sigintAction.handler = .signalHandler) (outcome : InitOutcome)
    (failed : outcome.rclInitOk = true ∧ outcome.signalOk = false) (ops : List StationOp)
    (final : Station) (run : StationRun false (stateAfter ((init false outcome).run station)) ops final)
    (depth : Nat) :
    deliverSigint false depth final = none := by
  refine deliverSigint_of_sigintKills (run.preserves sigintKills_step ?_) depth
  rw [init_state]
  simp [failed, SigintKills, installed]

/-- The `std::signal` build after an `init` whose calls all succeed and one whose `std::signal`
fails with `EINVAL`. -/
def failedReinstall : Station :=
  stateAfter ((init false ⟨true, false, true, "", 22, some "Invalid argument"⟩).run
    (stateAfter ((init false initSucceeds).run (Station.zero ⟨false, .dfl⟩))))

theorem failed_reinstall_calls_sigErr_thenShutdown :
    (stateAfter ((init false initSucceeds).run (Station.zero ⟨false, .dfl⟩))).sigintAction.handler =
        .signalHandler ∧
      ((⟨true, false, true, "", 22, some "Invalid argument"⟩ : InitOutcome).rclInitOk = true ∧
        (⟨true, false, true, "", 22, some "Invalid argument"⟩ : InitOutcome).signalOk = false) ∧
      StationRun false failedReinstall [.shutdown] (shutdown failedReinstall) ∧
      deliverSigint false 1 (shutdown failedReinstall) = none :=
  have run : StationRun false failedReinstall [.shutdown] (shutdown failedReinstall) :=
    .cons (.shutdown _) (.nil _)
  ⟨rfl, ⟨rfl, rfl⟩, run, failed_reinstall_calls_sigErr _ rfl _ ⟨rfl, rfl⟩ _ _ run 1⟩

end Rclcpp.Utilities
