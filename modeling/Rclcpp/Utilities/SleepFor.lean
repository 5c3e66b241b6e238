/-
**`rclcpp::utilities::sleep_for`: what one call returns, over every clock and every wake-up.**

`sleep_for(nanoseconds)` (`utilities.cpp`, lines 173–188) takes the interrupt mutex, reads the
steady clock, waits on the interrupt condition variable for `nanoseconds`, and subtracts the time
the wait took from `time_left`. While time is left and `g_is_interrupted` is false it calls itself
on what is left; otherwise it returns `!g_is_interrupted`.

The wait may return early (notified, or spuriously) or late, so what a call does is decided by
what it reads. One activation reads the clock twice (lines 179 and 181) and `g_is_interrupted`
at most twice (line 183, and line 187 when it returns); a `WaitEpisode` records those four values,
and `sleepFor` takes one episode per activation, returning `none` when the episodes run out
before the call returns.

* `sleepFor_true_elapsed` — **sleep accuracy.** For every duration, every nondecreasing sequence
  of readings and every pattern of wake-ups, a call that returns `true` read `g_is_interrupted`
  false at its last read, and its waits took at least the requested time in all, so the clock
  moved by at least that much; a call that returns `false` read it true. The recursion invariant
  is "what is left is at least the request minus the time waited" (`timeLeft_le_waited`), which
  is what survives the `int64_t` wrap (`Nanoseconds.sub_elapsed_ge`).
* `sleepFor_depth_bound` — **how deep the recursion goes.** Line 184 keeps every frame until the
  last activation returns. For a positive duration, every activation but the last followed a wait
  that returned early, so waits of at least `tick` each keep the depth below `d / tick + 1`.
* `sleepFor_min_recurses` — at `d = nanoseconds::min()` one nanosecond of waiting takes the update
  out of the `int64_t` range; the wrapped remainder is `nanoseconds::max()`, and `sleep_for` calls
  itself on it.
-/

import Rclcpp.Basic
import Mathlib.Data.List.Sort

namespace Rclcpp.Utilities

/-- What one activation of `sleep_for` reads: the steady clock before and after its wait
(lines 179 and 181), and `g_is_interrupted` at the check of line 183 and at the return of line
187. A value the activation does not read is ignored. -/
structure WaitEpisode where
  start : Nanoseconds
  now : Nanoseconds
  interruptedAtCheck : Bool
  interruptedAtReturn : Bool
deriving DecidableEq

/-- `sleep_for(nanoseconds)` (lines 173–188): the value it returns and the number of
condition-variable waits it made, or `none` if the episodes run out before it returns. -/
def sleepFor (nanoseconds : Nanoseconds) : List WaitEpisode → Option (Bool × Nat)
  | [] => none
  | episode :: rest =>
    let timeLeft := nanoseconds - (episode.now - episode.start)
    if 0 < timeLeft.count ∧ episode.interruptedAtCheck = false then
      (sleepFor timeLeft rest).map fun (result, waits) => (result, waits + 1)
    else some (!episode.interruptedAtReturn, 1)

/-! ### The clock and the flag along the episodes -/

/-- The steady-clock readings in the order the code makes them. -/
def readings (episodes : List WaitEpisode) : List Int :=
  episodes.flatMap fun episode => [episode.start.count, episode.now.count]

/-- The exact time the first `waits` waits took (`now - start`, summed). -/
def waited (episodes : List WaitEpisode) (waits : Nat) : Int :=
  ((episodes.take waits).map fun episode => episode.now.count - episode.start.count).sum

/-- `g_is_interrupted` is not cleared between the check of line 183 and the return of line 187
of one activation. -/
def NotCleared (episodes : List WaitEpisode) : Prop :=
  ∀ episode ∈ episodes, episode.interruptedAtCheck = true → episode.interruptedAtReturn = true

instance (episodes : List WaitEpisode) : Decidable (NotCleared episodes) :=
  inferInstanceAs (Decidable (∀ episode ∈ episodes, _))

@[simp] theorem readings_cons (episode : WaitEpisode) (rest : List WaitEpisode) :
    readings (episode :: rest) = episode.start.count :: episode.now.count :: readings rest :=
  rfl

@[simp] theorem waited_zero (episodes : List WaitEpisode) : waited episodes 0 = 0 := rfl

@[simp] theorem waited_cons_succ (episode : WaitEpisode) (rest : List WaitEpisode) (waits : Nat) :
    waited (episode :: rest) (waits + 1) =
      episode.now.count - episode.start.count + waited rest waits := by
  simp [waited]

/-! ### One activation -/

/-- The two ways one activation ends: it calls itself on what is left, or it returns. -/
theorem sleepFor_cons (nanoseconds : Nanoseconds) (episode : WaitEpisode) (rest : List WaitEpisode) :
    sleepFor nanoseconds (episode :: rest) =
      if 0 < (nanoseconds - (episode.now - episode.start)).count ∧
          episode.interruptedAtCheck = false then
        (sleepFor (nanoseconds - (episode.now - episode.start)) rest).map
          fun (result, waits) => (result, waits + 1)
      else some (!episode.interruptedAtReturn, 1) :=
  rfl

/-- A call that returns made at least one wait, and no more than there are episodes. -/
theorem sleepFor_waits_pos {nanoseconds : Nanoseconds} {episodes : List WaitEpisode}
    {result : Bool} {waits : Nat} (returned : sleepFor nanoseconds episodes = some (result, waits)) :
    0 < waits ∧ waits ≤ episodes.length := by
  induction episodes generalizing nanoseconds waits with
  | nil => cases returned
  | cons episode rest ih =>
    rw [sleepFor_cons] at returned
    split at returned
    · obtain ⟨⟨result', waits'⟩, inner, same⟩ := Option.map_eq_some'.mp returned
      cases same
      have := ih inner
      simp only [List.length_cons]
      omega
    · cases returned
      simp

/-- **The recursion invariant.** What a returning call was asked to wait is at most the time
its waits took, whenever the flag is not cleared inside an activation. -/
theorem timeLeft_le_waited {nanoseconds : Nanoseconds} {episodes : List WaitEpisode}
    {waits : Nat} (clock : ∀ episode ∈ episodes, episode.start.count ≤ episode.now.count)
    (notCleared : NotCleared episodes) (returned : sleepFor nanoseconds episodes = some (true, waits)) :
    nanoseconds.count ≤ waited episodes waits := by
  induction episodes generalizing nanoseconds waits with
  | nil => cases returned
  | cons episode rest ih =>
    have wrapped := Nanoseconds.sub_elapsed_ge nanoseconds episode.start episode.now
      (clock episode (List.mem_cons_self _ _))
    rw [sleepFor_cons] at returned
    split at returned
    · obtain ⟨⟨result', waits'⟩, inner, same⟩ := Option.map_eq_some'.mp returned
      cases same
      have rest_le := ih (fun e member => clock e (List.mem_cons_of_mem _ member))
        (fun e member => notCleared e (List.mem_cons_of_mem _ member)) inner
      rw [waited_cons_succ]
      omega
    · rename_i stopped
      simp only [Option.some.injEq, Prod.mk.injEq] at returned
      obtain ⟨flag, rfl⟩ := returned
      have atReturn : episode.interruptedAtReturn = false := by simpa using flag
      have atCheck : episode.interruptedAtCheck = false := by
        cases check : episode.interruptedAtCheck
        · rfl
        · simp [notCleared episode (List.mem_cons_self _ _) check] at atReturn
      have noTimeLeft : (nanoseconds - (episode.now - episode.start)).count ≤ 0 := by
        by_contra positive
        exact stopped ⟨by omega, atCheck⟩
      rw [waited_cons_succ, waited_zero]
      omega

/-- A call that returns returns the negation of the last flag it read: `!g_is_interrupted` at
line 187 of its last activation. -/
theorem sleepFor_last_read {nanoseconds : Nanoseconds} {episodes : List WaitEpisode}
    {result : Bool} {waits : Nat} (returned : sleepFor nanoseconds episodes = some (result, waits)) :
    ∃ final, episodes[waits - 1]? = some final ∧ result = !final.interruptedAtReturn := by
  induction episodes generalizing nanoseconds waits with
  | nil => cases returned
  | cons episode rest ih =>
    rw [sleepFor_cons] at returned
    split at returned
    · obtain ⟨⟨result', waits'⟩, inner, same⟩ := Option.map_eq_some'.mp returned
      cases same
      obtain ⟨final, at_final, flag⟩ := ih inner
      obtain ⟨k, rfl⟩ : ∃ k, waits' = k + 1 :=
        ⟨waits' - 1, by have := (sleepFor_waits_pos inner).1; omega⟩
      exact ⟨final, by simpa using at_final, flag⟩
    · simp only [Option.some.injEq, Prod.mk.injEq] at returned
      obtain ⟨rfl, rfl⟩ := returned
      exact ⟨episode, by simp, rfl⟩

/-- Along nondecreasing readings, the waits together take no longer than the clock moved from
the first reading to the end of the last wait counted. -/
theorem waited_le_span {episodes : List WaitEpisode} (monotone : (readings episodes).Sorted (· ≤ ·))
    {waits : Nat} (some_wait : 0 < waits) {first final : WaitEpisode}
    (at_first : episodes.head? = some first) (at_final : episodes[waits - 1]? = some final) :
    waited episodes waits ≤ final.now.count - first.start.count := by
  induction episodes generalizing waits first with
  | nil => cases at_first
  | cons episode rest ih =>
    cases at_first
    simp only [readings_cons, List.sorted_cons, List.mem_cons] at monotone
    obtain ⟨starts_before, ends_before, rest_monotone⟩ := monotone
    obtain ⟨k, rfl⟩ : ∃ k, waits = k + 1 := ⟨waits - 1, by omega⟩
    rw [waited_cons_succ]
    cases k with
    | zero =>
      obtain rfl : episode = final := by simpa using at_final
      simp
    | succ k =>
      obtain ⟨next, rest', rfl⟩ : ∃ next rest', rest = next :: rest' := by
        cases rest with
        | nil => simp at at_final
        | cons next rest' => exact ⟨next, rest', rfl⟩
      have next_start : episode.now.count ≤ next.start.count := ends_before _ (by simp)
      have rest_span := ih rest_monotone (by omega : 0 < k + 1) rfl (by simpa using at_final)
      omega

/-- Each wait of a nondecreasing sequence of readings ends no earlier than it starts. -/
theorem start_le_now_of_sorted {episodes : List WaitEpisode}
    (monotone : (readings episodes).Sorted (· ≤ ·)) :
    ∀ episode ∈ episodes, episode.start.count ≤ episode.now.count := by
  induction episodes with
  | nil => simp
  | cons episode rest ih =>
    simp only [readings_cons, List.sorted_cons, List.mem_cons] at monotone
    intro e member
    rcases List.mem_cons.mp member with rfl | member
    · exact monotone.1 _ (Or.inl rfl)
    · exact ih monotone.2.2 e member

/-- **Sleep accuracy** (`sleep_for`, lines 173–188): a call that returns `true` waited at least
what it was asked, as the clock shows; one that returns `false` read `g_is_interrupted` set. -/
theorem sleepFor_true_elapsed (nanoseconds : Nanoseconds) (episodes : List WaitEpisode)
    (monotone : (readings episodes).Sorted (· ≤ ·)) (notCleared : NotCleared episodes)
    (waits : Nat) :
    (sleepFor nanoseconds episodes = some (true, waits) →
      ∃ first final, episodes.head? = some first ∧ episodes[waits - 1]? = some final ∧
        final.interruptedAtReturn = false ∧ nanoseconds.count ≤ waited episodes waits ∧
        waited episodes waits ≤ final.now.count - first.start.count) ∧
    (sleepFor nanoseconds episodes = some (false, waits) →
      ∃ final, episodes[waits - 1]? = some final ∧ final.interruptedAtReturn = true) := by
  refine ⟨fun returned => ?_, fun returned => ?_⟩
  · obtain ⟨final, at_final, flag⟩ := sleepFor_last_read returned
    obtain ⟨first, rest, rfl⟩ : ∃ first rest, episodes = first :: rest := by
      cases episodes with
      | nil => cases returned
      | cons first rest => exact ⟨first, rest, rfl⟩
    exact ⟨first, final, rfl, at_final, by simpa using flag.symm,
      timeLeft_le_waited (start_le_now_of_sorted monotone) notCleared returned,
      waited_le_span monotone (sleepFor_waits_pos returned).1 rfl at_final⟩
  · obtain ⟨final, at_final, flag⟩ := sleepFor_last_read returned
    exact ⟨final, at_final, by simpa using flag.symm⟩

/-- Two waits, of three and four nanoseconds, with `g_is_interrupted` clear. -/
def twoWaits : List WaitEpisode :=
  [⟨.ofInt 0, .ofInt 3, false, false⟩, ⟨.ofInt 3, .ofInt 7, false, false⟩]

theorem sleepFor_true_elapsed_twoWaits :
    (readings twoWaits).Sorted (· ≤ ·) ∧ NotCleared twoWaits ∧
      sleepFor (.ofInt 5) twoWaits = some (true, 2) ∧
      ((sleepFor (.ofInt 5) twoWaits = some (true, 2) →
        ∃ first final, twoWaits.head? = some first ∧ twoWaits[2 - 1]? = some final ∧
          final.interruptedAtReturn = false ∧ (Nanoseconds.ofInt 5).count ≤ waited twoWaits 2 ∧
          waited twoWaits 2 ≤ final.now.count - first.start.count) ∧
      (sleepFor (.ofInt 5) twoWaits = some (false, 2) →
        ∃ final, twoWaits[2 - 1]? = some final ∧ final.interruptedAtReturn = true)) :=
  ⟨by decide, by decide, by decide, sleepFor_true_elapsed (.ofInt 5) _ (by decide) (by decide) 2⟩

/-! ### How deep the recursion goes -/

/-- With a steady clock that reads nonnegative values and does not go back during the wait, a
positive duration's update `time_left -= now - start` is exact. -/
theorem timeLeft_exact {nanoseconds : Nanoseconds} {episode : WaitEpisode}
    (positive : 0 < nanoseconds.count) (nonnegative : 0 ≤ episode.start.count)
    (later : episode.start.count ≤ episode.now.count) :
    (nanoseconds - (episode.now - episode.start)).count =
      nanoseconds.count - (episode.now.count - episode.start.count) := by
  have nowBelow := episode.now.inInt64.2
  have below := nanoseconds.inInt64.2
  have elapsed : (episode.now - episode.start).count = episode.now.count - episode.start.count :=
    Nanoseconds.sub_count_of_inInt64 ⟨by omega, by omega⟩
  rw [Nanoseconds.sub_count_of_inInt64 (by rw [elapsed]; constructor <;> omega), elapsed]

/-- A returning call with a positive duration calls itself only after a wait that returned early:
before its last activation it had waited less than it was asked, and every earlier activation
found `g_is_interrupted` clear. -/
theorem sleepFor_nests_early {nanoseconds : Nanoseconds} {episodes : List WaitEpisode}
    (positive : 0 < nanoseconds.count)
    (clock : ∀ episode ∈ episodes, 0 ≤ episode.start.count ∧ episode.start.count ≤ episode.now.count)
    {result : Bool} {waits : Nat} (returned : sleepFor nanoseconds episodes = some (result, waits)) :
    waited episodes (waits - 1) < nanoseconds.count ∧
      ∀ i < waits - 1, ∃ episode, episodes[i]? = some episode ∧ episode.interruptedAtCheck = false := by
  induction episodes generalizing nanoseconds waits with
  | nil => cases returned
  | cons episode rest ih =>
    obtain ⟨nonnegative, later⟩ := clock episode (List.mem_cons_self _ _)
    have exact := timeLeft_exact positive nonnegative later
    rw [sleepFor_cons] at returned
    split at returned
    · rename_i again
      obtain ⟨⟨result', waits'⟩, inner, same⟩ := Option.map_eq_some'.mp returned
      cases same
      obtain ⟨short, clear⟩ :=
        ih again.1 (fun e member => clock e (List.mem_cons_of_mem _ member)) inner
      obtain ⟨k, rfl⟩ : ∃ k, waits' = k + 1 :=
        ⟨waits' - 1, by have := (sleepFor_waits_pos inner).1; omega⟩
      refine ⟨?_, fun i below => ?_⟩
      · simp only [Nat.add_sub_cancel, waited_cons_succ] at short ⊢
        omega
      · cases i with
        | zero => exact ⟨episode, by simp, again.2⟩
        | succ i => simpa using clear i (by omega)
    · cases returned
      exact ⟨by simpa using positive, fun i below => absurd below (by omega)⟩

/-- Waits that each last at least `tick` take at least `waits * tick` in all. -/
theorem waited_ge_mul {episodes : List WaitEpisode} {tick : Int}
    (each : ∀ episode ∈ episodes, tick ≤ episode.now.count - episode.start.count)
    {waits : Nat} (within : waits ≤ episodes.length) :
    waits * tick ≤ waited episodes waits := by
  induction episodes generalizing waits with
  | nil => simp_all
  | cons episode rest ih =>
    cases waits with
    | zero => simp
    | succ waits =>
      have first := each episode (List.mem_cons_self _ _)
      have rest_ge := ih (fun e member => each e (List.mem_cons_of_mem _ member))
        (by simpa using within)
      rw [waited_cons_succ, Nat.cast_succ, add_mul, one_mul]
      omega

/-- **How deep `sleep_for` nests** (line 184 keeps every frame): for a positive duration, it calls
itself only after early wake-ups with `g_is_interrupted` clear, and waits of at least `tick` keep
it below `d / tick + 1` frames. -/
theorem sleepFor_depth_bound (nanoseconds : Nanoseconds) (positive : 0 < nanoseconds.count)
    (episodes : List WaitEpisode)
    (clock : ∀ episode ∈ episodes, 0 ≤ episode.start.count ∧ episode.start.count ≤ episode.now.count)
    (tick : Int) (each : ∀ episode ∈ episodes, tick ≤ episode.now.count - episode.start.count)
    (result : Bool) (waits : Nat) (returned : sleepFor nanoseconds episodes = some (result, waits)) :
    waited episodes (waits - 1) < nanoseconds.count ∧
      (∀ i < waits - 1, ∃ episode, episodes[i]? = some episode ∧ episode.interruptedAtCheck = false) ∧
      ((waits - 1 : Nat) : Int) * tick < nanoseconds.count := by
  obtain ⟨short, clear⟩ := sleepFor_nests_early positive clock returned
  have within : waits - 1 ≤ episodes.length := by
    have := (sleepFor_waits_pos returned).2
    omega
  exact ⟨short, clear, lt_of_le_of_lt (waited_ge_mul each within) short⟩

theorem sleepFor_depth_bound_twoWaits :
    0 < (Nanoseconds.ofInt 5).count ∧
      (∀ episode ∈ twoWaits, 0 ≤ episode.start.count ∧ episode.start.count ≤ episode.now.count) ∧
      (∀ episode ∈ twoWaits, 3 ≤ episode.now.count - episode.start.count) ∧
      sleepFor (.ofInt 5) twoWaits = some (true, 2) ∧
      (waited twoWaits (2 - 1) < (Nanoseconds.ofInt 5).count ∧
        (∀ i < 2 - 1, ∃ episode, twoWaits[i]? = some episode ∧ episode.interruptedAtCheck = false) ∧
        ((2 - 1 : Nat) : Int) * 3 < (Nanoseconds.ofInt 5).count) :=
  ⟨by decide, by decide, by decide, by decide,
    sleepFor_depth_bound _ (by decide) _ (by decide) 3 (by decide) true 2 (by decide)⟩

/-- **At `nanoseconds::min()` the update leaves the `int64_t` range.** One nanosecond of waiting
makes `time_left -= now - start` compute `-2 ^ 63 - 1`, which an `int64_t` cannot hold; the
wrapped remainder is `nanoseconds::max()`, so instead of returning after its one wait,
`sleep_for` calls itself on it, whatever happens next. Where `wait_for` of that duration returns
at once, as libstdc++'s does, each activation calls itself again until the stack overflows. -/
theorem sleepFor_min_recurses (rest : List WaitEpisode) :
    ¬ InInt64 (Nanoseconds.min.count - ((Nanoseconds.ofInt 1).count - (Nanoseconds.ofInt 0).count)) ∧
      sleepFor Nanoseconds.min (⟨.ofInt 0, .ofInt 1, false, false⟩ :: rest) =
        (sleepFor Nanoseconds.max rest).map fun (result, waits) => (result, waits + 1) := by
  have wraps : Nanoseconds.min - (Nanoseconds.ofInt 1 - Nanoseconds.ofInt 0) = Nanoseconds.max := by
    decide
  refine ⟨by decide, ?_⟩
  simp only [sleepFor_cons, wraps]
  rw [if_pos (by decide)]

end Rclcpp.Utilities
