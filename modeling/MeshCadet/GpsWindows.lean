import Mathlib.Data.List.Chain
import MeshCadet.GpsRuns

namespace MeshCadet

/-!
# The windows of the GPS driver

The lock is held while the window is open and only then, and the port is touched only
while it is held, also when the rate is probed for.  The window stays open until there
is a position; then it is open for 30 seconds at least and closed for 120.
-/

open NmeaDetection

/-- The action on the lock. -/
def PmLockAction.apply
    (action : PmLockAction)
    (held : Nat) :
    Nat :=
  match action with
  | .acquire => held + 1
  | .release => held - 1
  | .none => held

namespace GpsDriver

/-- The window, the lock and what was heard. -/
def window
    (driver : GpsDriver) :
    Bool × Nat × Nat × GpsHeard :=
  (driver.active, driver.periodStartMs, driver.apbLock, driver.toGpsHeard)

theorem beginReprobeWindow_window
    (driver : GpsDriver)
    (hardware : GpsHardware)
    (nowMs candidateIdx : Nat) :
    (driver.beginReprobeWindow hardware nowMs candidateIdx).window =
      driver.window := by
  rcases
      driver.beginReprobeWindow_cases hardware nowMs candidateIdx with
    ⟨next, baud, -, -, result⟩ | result <;>
  · rw [result]
    rfl

theorem maybeReprobe_window
    (driver : GpsDriver)
    (hardware : GpsHardware)
    (nowMs : Nat) :
    (driver.maybeReprobeStaleCachedBaud hardware nowMs).window =
      driver.window := by
  rw [maybeReprobe_eq]
  split
  · exact beginReprobeWindow_window _ hardware nowMs 0
  · rfl

/-- A slice of probing leaves the window and what was heard. -/
theorem serviceReprobe_window
    {driver : GpsDriver}
    {candidateIdx candidate : Nat}
    (probing : driver.reprobeCandidateIdx = some candidateIdx)
    (isCandidate : gpsBaudCandidates[candidateIdx]? = some candidate)
    (hardware : GpsHardware)
    (nowMs : Nat) :
    (driver.serviceReprobe hardware nowMs).window = driver.window := by
  rcases serviceReprobe_cases probing isCandidate hardware nowMs with
    ⟨-, result⟩ | ⟨-, result⟩ | ⟨-, result⟩
  · rw [result]
    rfl
  · rw [result]
    rfl
  · rw [result, beginReprobeWindow_window]
    rfl

/-- What the windows do: the port is read, the window is closed after it, nothing, or
the window is opened. -/
theorem dutyCycle_cases
    (driver : GpsDriver)
    (hardware : GpsHardware)
    (nowMs : Nat) :
    (driver.active = true ∧
        (driver.dutyCycle hardware nowMs =
            driver.drainUart hardware nowMs ∨
          ((driver.drainUart hardware nowMs).cachedFix.isSome = true ∧
            driver.periodStartMs + gpsActiveWindowMs ≤ nowMs ∧
            driver.dutyCycle hardware nowMs =
              { driver.drainUart hardware nowMs with
                apbLock := driver.apbLock - 1
                active := false
                periodStartMs := nowMs }))) ∨
      (driver.active = false ∧
        (driver.dutyCycle hardware nowMs = driver ∨
          (driver.periodStartMs + gpsQuietIntervalMs ≤ nowMs ∧
            driver.dutyCycle hardware nowMs =
              { driver with
                apbLock := driver.apbLock + 1
                active := true
                periodStartMs := nowMs }))) := by
  unfold dutyCycle
  cases active : driver.active with
  | true =>
      refine .inl ⟨rfl, ?_⟩
      simp only [if_true]
      split
      · exact .inl rfl
      · unfold closeWindow
        split
        · next closes =>
            simp only [shouldCloseActiveWindow, Bool.and_eq_true,
              decide_eq_true_eq] at closes
            have elapsed :
                gpsActiveWindowMs ≤ nowMs - driver.periodStartMs :=
              closes.2
            refine .inr ⟨closes.1, ?_, rfl⟩
            have positive : 0 < gpsActiveWindowMs := by decide
            omega
        · exact .inl rfl
  | false =>
      refine .inr ⟨rfl, ?_⟩
      simp only [Bool.false_eq_true, if_false]
      unfold openWindow
      split
      · next opens =>
          have elapsed :
              gpsQuietIntervalMs ≤ nowMs - driver.periodStartMs :=
            of_decide_eq_true opens
          have positive : 0 < gpsQuietIntervalMs := by decide
          exact .inr ⟨by omega, rfl⟩
      · exact .inl rfl

end GpsDriver

namespace GpsRun

/-- One opening or closing after another. -/
def Lasts
    (earlier later : Bool × Nat) :
    Prop :=
  later.1 = !earlier.1 ∧
    earlier.2 +
        (if earlier.1 then gpsActiveWindowMs else gpsQuietIntervalMs) ≤
      later.2

/-- What holds of the window, the lock and the probing. -/
structure Windows (run : GpsRun) : Prop where
  lock : run.driver.apbLock = run.driver.active.toNat
  openBefore :
    run.driver.cachedFix = none → run.driver.active = true
  last :
    run.windows.getLast? =
      some (run.driver.active, run.driver.periodStartMs)
  lasting : run.windows.IsChain Lasts
  unprobed :
    run.driver.baudConfirmed = false →
      run.driver.reprobeCandidateIdx = none → run.reprobes = 0
  probing :
    ∀ candidateIdx,
      run.driver.reprobeCandidateIdx = some candidateIdx →
        (∃ candidate, gpsBaudCandidates[candidateIdx]? = some candidate) ∧
          run.driver.panicked = false ∧
          run.driver.cachedFix = none ∧
          run.driver.lastNmeaSeenUptimeMs = none
  once : run.reprobes ≤ 1

theorem windows_start
    (boot : GpsDriver.Boot) :
    (start boot).Windows :=
  { lock := rfl
    openBefore := fun _ => rfl
    last := rfl
    lasting := .singleton _
    unprobed := fun _ _ => rfl
    probing := fun _ isProbing =>
      (Option.some_ne_none _ isProbing.symm).elim
    once := Nat.zero_le 1 }

/-- The window and the probing of a driver are as before. -/
theorem Windows.same
    {run : GpsRun}
    (windows : run.Windows)
    {next : GpsRun}
    (window : next.driver.window = run.driver.window)
    (log : next.windows = run.windows)
    (unprobed :
      next.driver.baudConfirmed = false →
        next.driver.reprobeCandidateIdx = none → next.reprobes = 0)
    (probing :
      ∀ candidateIdx,
        next.driver.reprobeCandidateIdx = some candidateIdx →
          (∃ candidate,
              gpsBaudCandidates[candidateIdx]? = some candidate) ∧
            run.driver.panicked = false ∧
            run.driver.cachedFix = none ∧
            run.driver.lastNmeaSeenUptimeMs = none)
    (once : next.reprobes ≤ 1) :
    next.Windows := by
  simp only [GpsDriver.window, Prod.mk.injEq] at window
  obtain ⟨active, period, lock, heard⟩ := window
  constructor
  case lock => rw [lock, active, windows.lock]
  case openBefore =>
    rw [heard, active]
    exact windows.openBefore
  case last => rw [log, windows.last, active, period]
  case lasting => rw [log]; exact windows.lasting
  case unprobed => exact unprobed
  case probing =>
    intro candidateIdx isProbing
    rw [heard]
    exact probing candidateIdx isProbing
  case once => exact once

/-- Reading, and closing and opening the window, keeps what holds of the windows. -/
theorem Windows.dutyCycle
    {run next : GpsRun}
    (windows : run.Windows)
    {hardware : GpsHardware}
    {nowMs : Nat}
    (idle : run.driver.reprobeCandidateIdx = none)
    (cycled : next.driver = run.driver.dutyCycle hardware nowMs)
    (log :
      next.windows =
        run.windows ++
          if next.driver.active = run.driver.active then []
          else [(next.driver.active, nowMs)])
    (same : next.reprobes = run.reprobes) :
    next.Windows := by
  have notProbing :
      ∀ candidateIdx,
        next.driver.reprobeCandidateIdx = some candidateIdx →
          (∃ candidate,
              gpsBaudCandidates[candidateIdx]? = some candidate) ∧
            next.driver.panicked = false ∧
            next.driver.cachedFix = none ∧
            next.driver.lastNmeaSeenUptimeMs = none := by
    intro candidateIdx isProbing
    rw [cycled, GpsDriver.dutyCycle_probing, idle] at isProbing
    cases isProbing
  have once : next.reprobes ≤ 1 := same ▸ windows.once
  have changed :
      ∀ active : Bool,
        run.driver.active = !active →
          next.driver.active = active →
            next.driver.periodStartMs = nowMs →
              run.driver.periodStartMs +
                  (if run.driver.active then gpsActiveWindowMs
                  else gpsQuietIntervalMs) ≤
                nowMs →
                next.windows.getLast? =
                    some
                      (next.driver.active, next.driver.periodStartMs) ∧
                  next.windows.IsChain Lasts := by
    intro active before after starts lasted
    have differs : ¬next.driver.active = run.driver.active := by
      rw [before, after]
      exact (Bool.eq_not_self active).mp
    rw [log, if_neg differs, List.getLast?_concat, starts]
    refine ⟨rfl, List.isChain_append.mpr ⟨windows.lasting, .singleton _, ?_⟩⟩
    intro last isLast first isFirst
    rw [windows.last] at isLast
    cases isLast
    cases isFirst
    refine ⟨?_, lasted⟩
    rw [after, before, Bool.not_not]
  rcases run.driver.dutyCycle_cases hardware nowMs with
    ⟨active, result | ⟨hasFix, lasted, result⟩⟩ |
      ⟨inactive, result | ⟨lasted, result⟩⟩
  · -- the port is read
    rw [result] at cycled
    have sameActive : next.driver.active = run.driver.active := by
      rw [cycled]
      rfl
    rw [if_pos sameActive, List.append_nil] at log
    constructor
    case lock => rw [cycled]; exact windows.lock
    case openBefore =>
      intro _
      rw [sameActive]
      exact active
    case last => rw [log, cycled]; exact windows.last
    case lasting => rw [log]; exact windows.lasting
    case unprobed => rw [cycled, same]; exact windows.unprobed
    case probing => exact notProbing
    case once => exact once
  · -- the window is closed
    rw [result] at cycled
    rw [active] at changed
    obtain ⟨last, lasting⟩ :=
      changed false rfl (by rw [cycled]) (by rw [cycled]) lasted
    constructor
    case lock =>
      rw [cycled]
      change run.driver.apbLock - 1 = 0
      rw [windows.lock, active]
      rfl
    case openBefore =>
      intro noFix
      rw [cycled] at noFix
      change (run.driver.drainUart hardware nowMs).cachedFix = none at noFix
      rw [noFix] at hasFix
      cases hasFix
    case last => exact last
    case lasting => exact lasting
    case unprobed => rw [cycled, same]; exact windows.unprobed
    case probing => exact notProbing
    case once => exact once
  · -- the window stays closed
    rw [result] at cycled
    rw [cycled, if_pos rfl, List.append_nil] at log
    exact
      windows.same (by rw [cycled]) log
        (by rw [cycled, same]; exact windows.unprobed)
        (by rw [cycled]; exact windows.probing) once
  · -- the window is opened
    rw [result] at cycled
    rw [inactive] at changed
    obtain ⟨last, lasting⟩ :=
      changed true rfl (by rw [cycled]) (by rw [cycled]) lasted
    constructor
    case lock =>
      rw [cycled]
      change run.driver.apbLock + 1 = 1
      rw [windows.lock, inactive]
      rfl
    case openBefore => exact fun _ => by rw [cycled]
    case last => exact last
    case lasting => exact lasting
    case unprobed => rw [cycled, same]; exact windows.unprobed
    case probing => exact notProbing
    case once => exact once

/-- Without a sign of life there is no position. -/
theorem Reads.noFix
    {run : GpsRun}
    (reads : run.Reads)
    (goesOn : run.driver.panicked = false)
    (silent : run.driver.lastNmeaSeenUptimeMs = none) :
    run.driver.cachedFix = none := by
  have known := reads.reader goesOn
  rw [known] at goesOn silent ⊢
  rw [nothing_of_silent goesOn silent]
  rfl

/-- Probing that ends has confirmed a rate. -/
theorem confirmed_of_serviceReprobe
    {driver : GpsDriver}
    {candidateIdx candidate : Nat}
    (probing : driver.reprobeCandidateIdx = some candidateIdx)
    (isCandidate : gpsBaudCandidates[candidateIdx]? = some candidate)
    (hardware : GpsHardware)
    (nowMs : Nat) :
    (∃ next baud,
        gpsBaudCandidates[next]? = some baud ∧
          (driver.serviceReprobe hardware nowMs).reprobeCandidateIdx =
            some next) ∨
      ((driver.serviceReprobe hardware nowMs).reprobeCandidateIdx = none ∧
        (driver.serviceReprobe hardware nowMs).baudConfirmed = true) := by
  rcases GpsDriver.serviceReprobe_cases probing isCandidate hardware
      nowMs with
    ⟨-, result⟩ | ⟨-, result⟩ | ⟨-, result⟩
  · refine .inl ⟨candidateIdx, candidate, isCandidate, ?_⟩
    rw [result]
    exact probing
  · rw [result]
    exact .inr ⟨rfl, rfl⟩
  · rw [result]
    rcases
        (driver.sampleReprobe hardware).beginReprobeWindow_cases hardware
          nowMs (candidateIdx + 1) with
      ⟨next, baud, -, isBaud, begun⟩ | ended
    · rw [begun]
      exact .inl ⟨next, baud, isBaud, rfl⟩
    · rw [ended]
      exact .inr ⟨rfl, rfl⟩

/-- The check of the kept rate keeps what holds of the windows. -/
theorem Windows.checked
    {run : GpsRun}
    (windows : run.Windows)
    (reads : run.Reads)
    (goesOn : run.driver.panicked = false)
    (idle : run.driver.reprobeCandidateIdx = none)
    (hardware : GpsHardware)
    (nowMs : Nat) :
    Windows
      { run with
        driver :=
          run.driver.maybeReprobeStaleCachedBaud hardware nowMs
        reprobes :=
          run.reprobes + (run.driver.startsReprobe nowMs).toNat } := by
  have starts :
      run.driver.startsReprobe nowMs = run.driver.reprobeDue nowMs := by
    simp [GpsDriver.startsReprobe, goesOn, idle]
  have checked := run.driver.maybeReprobe_eq hardware nowMs
  have window := run.driver.maybeReprobe_window hardware nowMs
  cases due : run.driver.reprobeDue nowMs with
  | false =>
      rw [due, if_neg Bool.false_ne_true] at checked
      refine windows.same window rfl ?_ ?_ ?_
      · intro unconfirmed _
        change run.reprobes + (run.driver.startsReprobe nowMs).toNat = 0
        rw [starts, due]
        rw [checked] at unconfirmed
        exact windows.unprobed (Bool.or_eq_false_iff.mp unconfirmed).1 idle
      · intro candidateIdx isProbing
        rw [checked] at isProbing
        exact (Option.some_ne_none _ (isProbing.symm.trans idle)).elim
      · change run.reprobes + (run.driver.startsReprobe nowMs).toNat ≤ 1
        rw [starts, due]
        exact windows.once
  | true =>
      rw [due, if_pos rfl] at checked
      have isDue := due
      simp only [GpsDriver.reprobeDue, Bool.and_eq_true, Bool.not_eq_true',
        Option.isNone_iff_eq_none] at isDue
      obtain ⟨⟨unconfirmed, silent⟩, -⟩ := isDue
      have noFix := reads.noFix goesOn silent
      refine windows.same window rfl ?_ ?_ ?_
      · intro stillUnconfirmed notProbing
        rw [checked] at stillUnconfirmed notProbing
        rcases
            GpsDriver.beginReprobeWindow_cases
              { run.driver with line := .empty } hardware nowMs 0 with
          ⟨next, baud, -, -, begun⟩ | ended
        · rw [begun] at notProbing
          cases notProbing
        · rw [ended] at stillUnconfirmed
          cases stillUnconfirmed
      · intro candidateIdx isProbing
        rw [checked] at isProbing
        rcases
            GpsDriver.beginReprobeWindow_cases
              { run.driver with line := .empty } hardware nowMs 0 with
          ⟨next, baud, -, isBaud, begun⟩ | ended
        · rw [begun] at isProbing
          cases isProbing
          exact ⟨⟨baud, isBaud⟩, goesOn, noFix, silent⟩
        · rw [ended] at isProbing
          cases isProbing
      · change run.reprobes + (run.driver.startsReprobe nowMs).toNat ≤ 1
        rw [starts, due, windows.unprobed unconfirmed idle]
        exact Nat.le_refl 1

/-- A call keeps what holds of the windows. -/
theorem Windows.poll
    {run : GpsRun}
    (windows : run.Windows)
    (reads : run.Reads)
    (hardware : GpsHardware)
    (nowMs : Nat) :
    (run.step (.poll hardware nowMs)).Windows := by
  rcases run.driver.poll_cases hardware nowMs with
    ⟨panicked, result⟩ |
      ⟨goesOn,
        ⟨candidateIdx, probing, result⟩ |
          ⟨idle, ⟨begun, result⟩ | ⟨still, result⟩⟩⟩
  · -- nothing after a panic
    have starts : run.driver.startsReprobe nowMs = false := by
      simp [GpsDriver.startsReprobe, panicked]
    have noneMore :
        run.reprobes + (run.driver.startsReprobe nowMs).toNat =
          run.reprobes := by
      rw [starts]
      rfl
    refine windows.same ?_ ?_ ?_ ?_ (noneMore.trans_le windows.once)
    · exact congrArg GpsDriver.window result
    · change
        run.windows ++
            (if (run.driver.poll hardware nowMs).active =
                run.driver.active then []
            else [((run.driver.poll hardware nowMs).active, nowMs)]) =
          run.windows
      rw [result, if_pos rfl, List.append_nil]
    · change
        (run.driver.poll hardware nowMs).baudConfirmed = false →
          (run.driver.poll hardware nowMs).reprobeCandidateIdx = none →
            run.reprobes + (run.driver.startsReprobe nowMs).toNat = 0
      rw [result, noneMore]
      exact windows.unprobed
    · change
        ∀ candidateIdx,
          (run.driver.poll hardware nowMs).reprobeCandidateIdx =
              some candidateIdx →
            _
      rw [result]
      exact windows.probing
  · -- a slice of probing
    obtain ⟨⟨candidate, isCandidate⟩, known⟩ :=
      windows.probing candidateIdx probing
    have starts : run.driver.startsReprobe nowMs = false := by
      simp [GpsDriver.startsReprobe, probing]
    have noneMore :
        run.reprobes + (run.driver.startsReprobe nowMs).toNat =
          run.reprobes := by
      rw [starts]
      rfl
    have window :
        (run.driver.poll hardware nowMs).window = run.driver.window := by
      rw [result]
      exact
        GpsDriver.serviceReprobe_window probing isCandidate hardware nowMs
    have ends :=
      confirmed_of_serviceReprobe probing isCandidate hardware nowMs
    rw [← result] at ends
    refine windows.same window ?_ ?_ ?_ (noneMore.trans_le windows.once)
    · exact
        (congrArg (run.windows ++ ·)
          (if_pos (congrArg Prod.fst window))).trans
          (List.append_nil _)
    · intro unconfirmed idle
      rcases ends with ⟨next, -, -, isNext⟩ | ⟨-, confirmed⟩
      · exact (Option.some_ne_none _ (isNext.symm.trans idle)).elim
      · exact absurd (unconfirmed.symm.trans confirmed) Bool.false_ne_true
    · intro later isLater
      rcases ends with ⟨next, baud, isBaud, isNext⟩ | ⟨ended, -⟩
      · cases isLater.symm.trans isNext
        exact ⟨⟨baud, isBaud⟩, known⟩
      · exact (Option.some_ne_none _ (isLater.symm.trans ended)).elim
  · -- probing starts
    have checked := windows.checked reads goesOn idle hardware nowMs
    have window := run.driver.maybeReprobe_window hardware nowMs
    have sameActive :
        (run.driver.maybeReprobeStaleCachedBaud hardware nowMs).active =
          run.driver.active :=
      congrArg Prod.fst window
    refine checked.same ?_ ?_ ?_ ?_ checked.once
    · exact congrArg GpsDriver.window result
    · change
        run.windows ++
            (if (run.driver.poll hardware nowMs).active =
                run.driver.active then []
            else [((run.driver.poll hardware nowMs).active, nowMs)]) =
          run.windows
      rw [result, if_pos sameActive, List.append_nil]
    · change
        (run.driver.poll hardware nowMs).baudConfirmed = false →
          (run.driver.poll hardware nowMs).reprobeCandidateIdx = none → _
      rw [result]
      exact checked.unprobed
    · change
        ∀ candidateIdx,
          (run.driver.poll hardware nowMs).reprobeCandidateIdx =
              some candidateIdx →
            _
      rw [result]
      exact checked.probing
  · -- the windows
    have checked := windows.checked reads goesOn idle hardware nowMs
    have window := run.driver.maybeReprobe_window hardware nowMs
    have sameActive :
        (run.driver.maybeReprobeStaleCachedBaud hardware nowMs).active =
          run.driver.active :=
      congrArg Prod.fst window
    refine checked.dutyCycle still result ?_ rfl
    change
      run.windows ++
          (if (run.driver.poll hardware nowMs).active =
              run.driver.active then []
          else [((run.driver.poll hardware nowMs).active, nowMs)]) =
        run.windows ++
          (if (run.driver.poll hardware nowMs).active =
              (run.driver.maybeReprobeStaleCachedBaud hardware
                nowMs).active then []
          else [((run.driver.poll hardware nowMs).active, nowMs)])
    rw [sameActive]

/-- In every run the windows are as they should be. -/
theorem windows_run
    (boot : GpsDriver.Boot)
    (events : List GpsEvent) :
    (Transition.run step (start boot) events).Reads ∧
      (Transition.run step (start boot) events).Windows := by
  have always :
      Transition.Always step (fun run => run.Reads ∧ run.Windows)
        (start boot) events := by
    refine
      Transition.always_of_invariant ?_
        ⟨reads_start boot, windows_start boot⟩ events
    rintro run (⟨bytes⟩ | ⟨hardware, nowMs⟩) ⟨reads, windows⟩
    · exact
        ⟨reads.receive bytes,
          windows.same rfl rfl windows.unprobed windows.probing
            windows.once⟩
    · exact
        ⟨reads.poll hardware nowMs, windows.poll reads hardware nowMs⟩
  exact always.last

/-- A call with the window closed leaves the port alone. -/
theorem Windows.uart_of_inactive
    {run : GpsRun}
    (windows : run.Windows)
    (reads : run.Reads)
    (inactive : run.driver.active = false)
    (hardware : GpsHardware)
    (nowMs : Nat) :
    (run.driver.poll hardware nowMs).uart = run.driver.uart := by
  have hasFix : run.driver.cachedFix ≠ none := by
    intro noFix
    exact
      Bool.false_ne_true
        (inactive.symm.trans (windows.openBefore noFix))
  rcases run.driver.poll_cases hardware nowMs with
    ⟨panicked, result⟩ |
      ⟨goesOn,
        ⟨candidateIdx, probing, result⟩ | ⟨idle, checkedCases⟩⟩
  · rw [result]
  · obtain ⟨-, -, noFix, -⟩ := windows.probing candidateIdx probing
    exact absurd noFix hasFix
  · have notDue : run.driver.reprobeDue nowMs = false := by
      cases due : run.driver.reprobeDue nowMs with
      | false => rfl
      | true =>
          simp only [GpsDriver.reprobeDue, Bool.and_eq_true,
            Option.isNone_iff_eq_none] at due
          exact absurd (reads.noFix goesOn due.1.2) hasFix
    have checked := run.driver.maybeReprobe_eq hardware nowMs
    rw [notDue, if_neg Bool.false_ne_true] at checked
    rcases checkedCases with ⟨begun, result⟩ | ⟨-, result⟩
    · rw [result, checked]
    · rw [result, checked]
      rcases
          GpsDriver.dutyCycle_cases
            { run.driver with
              baudConfirmed :=
                run.driver.baudConfirmed ||
                  run.driver.lastNmeaSeenUptimeMs.isSome }
            hardware nowMs with
        ⟨active, -⟩ | ⟨-, cycled | ⟨-, cycled⟩⟩
      · exact absurd (inactive.symm.trans active) Bool.false_ne_true
      · rw [cycled]
      · rw [cycled]

/-- In every run the lock is held just while the window is open, as the plan for it
says; the port is touched only while it is held, also to probe for the rate, which is
done at most once; the window is open until there is a position, and then openings
and closings alternate and last as long as they should. -/
theorem gps_lock_brackets
    (boot : GpsDriver.Boot)
    (events : List GpsEvent) :
    let run := Transition.run step (start boot) events
    run.driver.apbLock = run.driver.active.toNat ∧
      (∀ hardware nowMs,
        (run.driver.poll hardware nowMs).apbLock =
          (activeWindowPmLockAction run.driver.active
              (run.driver.poll hardware nowMs).active).apply
            run.driver.apbLock) ∧
      (∀ hardware nowMs,
        (run.driver.poll hardware nowMs).uart ≠ run.driver.uart →
          run.driver.apbLock = 1) ∧
      run.reprobes ≤ 1 ∧
      (run.driver.cachedFix = none → run.driver.active = true) ∧
      run.windows.getLast? =
          some (run.driver.active, run.driver.periodStartMs) ∧
        run.windows.IsChain Lasts := by
  intro run
  obtain ⟨reads, windows⟩ := windows_run boot events
  refine
    ⟨windows.lock, fun hardware nowMs => ?_, fun hardware nowMs touched => ?_,
      windows.once, windows.openBefore, windows.last, windows.lasting⟩
  · have next : _ = _ := (windows.poll reads hardware nowMs).lock
    change
      (run.driver.poll hardware nowMs).apbLock =
        (run.driver.poll hardware nowMs).active.toNat at next
    rw [next, windows.lock]
    change
      _ =
        (activeWindowPmLockAction run.driver.active
            (run.driver.poll hardware nowMs).active).apply
          run.driver.active.toNat
    cases run.driver.active <;>
      cases (run.driver.poll hardware nowMs).active <;> rfl
  · cases active : run.driver.active with
    | true =>
        rw [windows.lock]
        exact congrArg Bool.toNat active
    | false =>
        exact
          absurd (windows.uart_of_inactive reads active hardware nowMs)
            touched

end GpsRun

end MeshCadet
