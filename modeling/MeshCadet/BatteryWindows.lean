import Mathlib.Algebra.Order.Group.Nat
import MeshCadet.Hysteresis
import MeshCadet.Transition

namespace MeshCadet

/-!
# Battery readings

The battery is read every two seconds, and the peak of a window of readings
becomes the settled voltage, unless it is above what a cell can show: then the
pin carries the charge rail and the settled voltage is held.  The settled voltage
is kept across reboots once it is confirmed.  The state also carries the readings
of the windows, the first reading of each boot and the values handed to flash; no
step of the code depends on them.
-/

/-- Voltage of an empty pack. -/
def batteryEmptyMv : Nat :=
  3300

/-- Voltage of a full pack at rest. -/
def restingFullMv : Nat :=
  4150

/-- Voltages at rest and the charge they stand for. -/
def restingSocCurve : List (Nat × Nat) :=
  [(batteryEmptyMv, 0), (3500, 5), (3600, 10), (3700, 20), (3750, 30),
    (3800, 42), (3850, 55), (3900, 67), (3950, 77), (4000, 85), (4050, 91),
    (4100, 96), (restingFullMv, 100)]

/-- A reading above this shows the charge rail. -/
def externalPowerMvThreshold : Nat :=
  4300

/-- Length of a window of readings. -/
def peakWindowMs : Nat :=
  30000

/-- Time between two readings. -/
def batteryPollIntervalMs : Nat :=
  2000

/-- The boundaries between the levels. -/
def levelBoundariesMv : List Nat :=
  [3700, 4000]

/-- How far a boundary has to be crossed. -/
def levelHysteresisMv : Nat :=
  30

/-- The least movement that is worth a write. -/
def persistMinDeltaMv : Nat :=
  50

/-- The least time between two writes. -/
def persistMinIntervalMs : Nat :=
  5 * 60000

/-- The displayed battery level. -/
inductive BatteryLevel where
  | unknown
  | charging
  | low
  | partly
  | full
deriving Repr, DecidableEq

/-- What the consumers are told about the battery. -/
structure BatteryStatus where
  percent : Nat
  charging : Bool
  rawMv : Nat
  heldRawMv : Nat
  bootMv : Nat
  confirmed : Bool
  level : BatteryLevel
deriving Repr, DecidableEq

/-- The status before the first reading. -/
def BatteryStatus.unknown : BatteryStatus :=
  { percent := 0
    charging := false
    rawMv := 0
    heldRawMv := 0
    bootMv := 0
    confirmed := false
    level := .unknown }

namespace BatteryLevel

/-- The number of a voltage bucket. -/
def bucketIndex :
    BatteryLevel → Option Nat
  | .low => some 0
  | .partly => some 1
  | .full => some 2
  | .unknown => none
  | .charging => none

/-- The level of a bucket number. -/
def ofBucketIndex :
    Nat → BatteryLevel
  | 0 => .low
  | 1 => .partly
  | _ => .full

end BatteryLevel

/-- The bucket of a voltage without hysteresis. -/
def plainBucketIndexMv
    (settledMv : Nat) :
    Nat :=
  (levelBoundariesMv.filter fun boundary =>
    decide (boundary ≤ settledMv)).length

/-- The bucket of a voltage that was in a bucket before. -/
def hysteresisBucketIndexMv
    (prevIdx settledMv : Nat) :
    Nat :=
  Hysteresis.settle levelBoundariesMv levelHysteresisMv settledMv prevIdx

/-- The level of a settled voltage; charging goes first. -/
def batteryLevelBucket
    (prev : BatteryLevel)
    (settledMv : Nat)
    (charging : Bool) :
    BatteryLevel :=
  if charging then
    .charging
  else
    match prev.bucketIndex with
    | none => .ofBucketIndex (plainBucketIndexMv settledMv)
    | some prevIdx =>
        .ofBucketIndex (hysteresisBucketIndexMv prevIdx settledMv)

/-- A level is displayed once a window has closed. -/
def displayedBatteryLevel
    (level : BatteryLevel)
    (windowSettled : Bool) :
    BatteryLevel :=
  if windowSettled then level else .unknown

/-- Interpolate between neighbouring points of a curve. -/
def interpolate
    (mv : Nat) :
    List (Nat × Nat) → Nat
  | (loMv, loPct) :: (hiMv, hiPct) :: rest =>
      if mv ≤ hiMv then
        loPct + (mv - loMv) * (hiPct - loPct) / (hiMv - loMv)
      else
        interpolate mv ((hiMv, hiPct) :: rest)
  | _ => 100

/-- The charge that a voltage at rest stands for. -/
def percentFromMillivolts
    (mv : Nat) :
    Nat :=
  if mv ≤ batteryEmptyMv then
    0
  else if restingFullMv ≤ mv then
    100
  else
    interpolate mv restingSocCurve

/-- Hold the settled voltage on the charge rail, follow the reading off it. -/
def batteryPollStep
    (settledMv liveMv : Nat) :
    Nat × Bool :=
  if externalPowerMvThreshold < liveMv then
    (settledMv, true)
  else
    (liveMv, false)

/-- The peak of the readings of a window. -/
structure PeakWindowSampler where
  windowStartMs : Nat
  peakMv : Nat
deriving Repr, DecidableEq

namespace PeakWindowSampler

/-- Whether the window is over. -/
def windowOver
    (sampler : PeakWindowSampler)
    (nowMs : Nat) :
    Bool :=
  decide (peakWindowMs ≤ nowMs - sampler.windowStartMs)

/-- Take a reading; one that closes the window also opens the next. -/
def sample
    (sampler : PeakWindowSampler)
    (nowMs mv : Nat) :
    PeakWindowSampler × Option Nat :=
  let peakMv := max sampler.peakMv mv
  if sampler.windowOver nowMs then
    ({ windowStartMs := nowMs, peakMv := mv }, some peakMv)
  else
    ({ sampler with peakMv := peakMv }, none)

end PeakWindowSampler

/-- A voltage seen off external power confirms the settled voltage. -/
def advanceSettledConfirmed
    (confirmed charging : Bool) :
    Bool :=
  confirmed || !charging

/-- The settled voltage at boot, whether on power, whether confirmed. -/
def seedBootState
    (persisted : Option Nat)
    (initialMv : Nat) :
    Nat × Bool × Bool :=
  let prior := persisted.getD initialMv
  let (settledMv, charging) := batteryPollStep prior initialMv
  (settledMv, charging, persisted.isSome || !charging)

/-- Whether the settled voltage is worth a write. -/
def shouldPersistSettledMv
    (lastPersistedMv : Option Nat)
    (settledMv msSinceLastPersist : Nat)
    (confirmed : Bool) :
    Bool :=
  if !confirmed then
    false
  else
    match lastPersistedMv with
    | none => true
    | some persisted =>
        decide
            (persistMinDeltaMv ≤
              max settledMv persisted - min settledMv persisted) &&
          decide (persistMinIntervalMs ≤ msSinceLastPersist)

/-- What the peak of a closed window changes. -/
def batteryWindowCloseStep
    (settledMv : Nat)
    (level : BatteryLevel)
    (confirmed : Bool)
    (windowPeakMv : Nat) :
    Nat × Bool × Bool × BatteryLevel :=
  let (newSettledMv, charging) := batteryPollStep settledMv windowPeakMv
  (newSettledMv, charging, advanceSettledConfirmed confirmed charging,
    batteryLevelBucket level newSettledMv charging)

/-- The driver of the battery's converter. -/
structure BatteryDriver where
  settledMv : Nat
  cachedCharging : Bool
  confirmed : Bool
  level : BatteryLevel
  peakSampler : PeakWindowSampler
  bootSettled : Bool
  liveMv : Nat
  bootMv : Nat
  lastPollMs : Nat
  lastPersistedMv : Option Nat
  lastPersistMs : Nat
deriving Repr, DecidableEq

namespace BatteryDriver

/-- The driver at boot, from its first reading and the value on flash. -/
def new
    (nowMs initialMv : Nat)
    (persistedMv : Option Nat) :
    BatteryDriver :=
  let (settledMv, cachedCharging, confirmed) :=
    seedBootState persistedMv initialMv
  { settledMv := settledMv
    cachedCharging := cachedCharging
    confirmed := confirmed
    level := batteryLevelBucket .unknown settledMv cachedCharging
    peakSampler := { windowStartMs := nowMs, peakMv := initialMv }
    bootSettled := false
    liveMv := initialMv
    bootMv := initialMv
    lastPollMs := nowMs
    lastPersistedMv := persistedMv
    lastPersistMs := nowMs }

/-- Whether it is time for a reading. -/
def due
    (driver : BatteryDriver)
    (nowMs : Nat) :
    Bool :=
  decide (batteryPollIntervalMs ≤ nowMs - driver.lastPollMs)

/-- Persist the settled voltage if that is worth a write. -/
def persist
    (driver : BatteryDriver)
    (nowMs : Nat) :
    BatteryDriver × Option Nat :=
  let msSinceLastPersist := nowMs - driver.lastPersistMs
  if shouldPersistSettledMv driver.lastPersistedMv driver.settledMv
      msSinceLastPersist driver.confirmed then
    ({ driver with
        lastPersistedMv := some driver.settledMv
        lastPersistMs := nowMs },
      some driver.settledMv)
  else
    (driver, none)

/-- Let the peak of a closed window take effect. -/
def closeWindow
    (driver : BatteryDriver)
    (windowPeakMv : Nat) :
    BatteryDriver :=
  let (settledMv, charging, confirmed, level) :=
    batteryWindowCloseStep driver.settledMv driver.level driver.confirmed
      windowPeakMv
  { driver with
    settledMv := settledMv
    cachedCharging := charging
    confirmed := confirmed
    level := level
    bootSettled := true }

/-- Take a reading; returns the value to write to flash, if any. -/
def take
    (driver : BatteryDriver)
    (nowMs mv : Nat) :
    BatteryDriver × Option Nat :=
  let (peakSampler, closed) := driver.peakSampler.sample nowMs mv
  let driver := { driver with liveMv := mv, peakSampler := peakSampler }
  match closed with
  | none => (driver, none)
  | some windowPeakMv => (driver.closeWindow windowPeakMv).persist nowMs

/-- Poll the battery; returns the value to write to flash, if any. -/
def poll
    (driver : BatteryDriver)
    (nowMs : Nat)
    (reading : Option Nat) :
    BatteryDriver × Option Nat :=
  if driver.due nowMs then
    let driver := { driver with lastPollMs := nowMs }
    match reading with
    | some mv => driver.take nowMs mv
    | none => (driver, none)
  else
    (driver, none)

/-- What the consumers are told. -/
def status
    (driver : BatteryDriver) :
    BatteryStatus :=
  { percent := percentFromMillivolts driver.settledMv
    charging := driver.cachedCharging
    rawMv := driver.liveMv
    heldRawMv := driver.settledMv
    bootMv := driver.bootMv
    confirmed := driver.confirmed
    level := displayedBatteryLevel driver.level driver.bootSettled }

end BatteryDriver

/-- A value handed to flash, and whether it was confirmed. -/
structure PersistedMv where
  mv : Nat
  confirmed : Bool
deriving Repr, DecidableEq

/-- A battery over its boots. -/
structure BatteryLife where
  driver : Option BatteryDriver
  flash : Option Nat
  window : List Nat
  windows : List (List Nat)
  seeds : List Nat
  persisted : List PersistedMv
deriving Repr, DecidableEq

/-- A boot, or a pass of the dispatcher; readings and flash can fail. -/
inductive BatteryEvent where
  | boot (nowMs : Nat) (reading : Option Nat) (nvsReads : Bool)
  | poll (nowMs : Nat) (reading : Option Nat) (nvsWrites : Bool)
deriving Repr, DecidableEq

namespace BatteryLife

/-- A device that never ran. -/
def start : BatteryLife :=
  { driver := none
    flash := none
    window := []
    windows := []
    seeds := []
    persisted := [] }

/-- Boot: a failed reading counts as an empty pack. -/
def boot
    (life : BatteryLife)
    (nowMs : Nat)
    (reading : Option Nat)
    (nvsReads : Bool) :
    BatteryLife :=
  let initialMv := reading.getD batteryEmptyMv
  let persistedMv := if nvsReads then life.flash else none
  { life with
    driver := some (.new nowMs initialMv persistedMv)
    window := [initialMv]
    seeds := initialMv :: life.seeds }

/-- Record a reading in the open window, which it may close. -/
def observe
    (life : BatteryLife)
    (closes : Bool)
    (mv : Nat) :
    BatteryLife :=
  if closes then
    { life with
      window := [mv]
      windows := (mv :: life.window) :: life.windows }
  else
    { life with window := mv :: life.window }

/-- Write a value to flash; a failed write leaves the old one. -/
def store
    (life : BatteryLife)
    (driver : BatteryDriver)
    (written : Option Nat)
    (nvsWrites : Bool) :
    BatteryLife :=
  match written with
  | none => { life with driver := some driver }
  | some mv =>
      { life with
        driver := some driver
        flash := if nvsWrites then some mv else life.flash
        persisted :=
          { mv := mv, confirmed := driver.confirmed } :: life.persisted }

/-- Poll the battery. -/
def poll
    (life : BatteryLife)
    (nowMs : Nat)
    (reading : Option Nat)
    (nvsWrites : Bool) :
    BatteryLife :=
  match life.driver with
  | none => life
  | some driver =>
      let (polled, written) := driver.poll nowMs reading
      let observed :=
        match reading with
        | some mv =>
            if driver.due nowMs then
              life.observe (driver.peakSampler.windowOver nowMs) mv
            else
              life
        | none => life
      observed.store polled written nvsWrites

/-- One event. -/
def step
    (life : BatteryLife) :
    BatteryEvent → BatteryLife
  | .boot nowMs reading nvsReads => life.boot nowMs reading nvsReads
  | .poll nowMs reading nvsWrites => life.poll nowMs reading nvsWrites

/-- What the consumers are told. -/
def status
    (life : BatteryLife) :
    BatteryStatus :=
  match life.driver with
  | none => .unknown
  | some driver => driver.status

end BatteryLife

/-- The peak of a list of readings. -/
def peak
    (window : List Nat) :
    Nat :=
  window.foldr max 0

/-- No reading of the window shows the charge rail. -/
def OffCharge
    (window : List Nat) :
    Prop :=
  ∀ mv ∈ window, mv ≤ externalPowerMvThreshold

theorem peak_le_iff
    {window : List Nat}
    {bound : Nat} :
    peak window ≤ bound ↔ ∀ mv ∈ window, mv ≤ bound := by
  induction window with
  | nil =>
      simp [peak]
  | cons mv window inductionHypothesis =>
      rw [List.forall_mem_cons, ← inductionHypothesis]
      exact Nat.max_le

/-- Off the charge rail the peak is followed. -/
theorem batteryPollStep_off
    {settledMv liveMv : Nat}
    (off : liveMv ≤ externalPowerMvThreshold) :
    batteryPollStep settledMv liveMv = (liveMv, false) :=
  if_neg (Nat.not_lt_of_le off)

/-- On the charge rail the settled voltage is held. -/
theorem batteryPollStep_on
    {settledMv liveMv : Nat}
    (on : externalPowerMvThreshold < liveMv) :
    batteryPollStep settledMv liveMv = (settledMv, true) :=
  if_pos on

namespace BatteryLevel

theorem bucketIndex_ofBucketIndex
    {level : BatteryLevel}
    {index : Nat}
    (isBucket : level.bucketIndex = some index) :
    ofBucketIndex index = level ∧ index < 3 := by
  cases level <;> cases isBucket <;> decide

end BatteryLevel

/-- A voltage bucket follows from the one before it with hysteresis. -/
theorem batteryLevelBucket_bucket
    {prev : BatteryLevel}
    {before after settledMv : Nat}
    (isBefore : prev.bucketIndex = some before)
    (isAfter :
      (batteryLevelBucket prev settledMv false).bucketIndex = some after) :
    after = hysteresisBucketIndexMv before settledMv := by
  have few := (BatteryLevel.bucketIndex_ofBucketIndex isBefore).2
  have settled :
      hysteresisBucketIndexMv before settledMv ≤ 2 :=
    Hysteresis.settle_le (Nat.le_of_lt_succ few)
  simp only [batteryLevelBucket, isBefore, Bool.false_eq_true, if_false]
    at isAfter
  generalize hysteresisBucketIndexMv before settledMv = index at *
  match index, settled, isAfter with
  | 0, _, same => exact (Option.some.inj same).symm
  | 1, _, same => exact (Option.some.inj same).symm
  | 2, _, same => exact (Option.some.inj same).symm

namespace BatteryDriver

variable {driver : BatteryDriver} {nowMs mv windowPeakMv : Nat}

/-- A window on the charge rail leaves the settled voltage. -/
theorem closeWindow_on
    (on : externalPowerMvThreshold < windowPeakMv) :
    driver.closeWindow windowPeakMv =
      { driver with
        cachedCharging := true
        level := .charging
        bootSettled := true } := by
  simp [closeWindow, batteryWindowCloseStep, batteryPollStep_on on,
    advanceSettledConfirmed, batteryLevelBucket]

/-- A window off the charge rail gives the settled voltage. -/
theorem closeWindow_off
    (off : windowPeakMv ≤ externalPowerMvThreshold) :
    driver.closeWindow windowPeakMv =
      { driver with
        settledMv := windowPeakMv
        cachedCharging := false
        confirmed := true
        level := batteryLevelBucket driver.level windowPeakMv false
        bootSettled := true } := by
  simp [closeWindow, batteryWindowCloseStep, batteryPollStep_off off,
    advanceSettledConfirmed]

/-- Only a confirmed settled voltage is written. -/
theorem persist_cases :
    driver.persist nowMs = (driver, none) ∨
      driver.confirmed = true ∧
        driver.persist nowMs =
          ({ driver with
              lastPersistedMv := some driver.settledMv
              lastPersistMs := nowMs },
            some driver.settledMv) := by
  rw [persist]
  split
  · rename_i worth
    refine .inr ⟨?_, rfl⟩
    by_contra unconfirmed
    rw [Bool.not_eq_true] at unconfirmed
    simp [shouldPersistSettledMv, unconfirmed] at worth
  · exact .inl rfl

end BatteryDriver

namespace BatteryLife

variable {life : BatteryLife} {driver : BatteryDriver}
variable {nowMs mv : Nat} {reading : Option Nat} {nvsWrites : Bool}

/-- Without a reading nothing but the time of the poll changes. -/
theorem poll_idle
    (isOn : life.driver = some driver)
    (noReading : driver.due nowMs = false ∨ reading = none) :
    life.poll nowMs reading nvsWrites =
      { life with
        driver :=
          some
            { driver with
              lastPollMs :=
                if driver.due nowMs then nowMs else driver.lastPollMs } } := by
  cases isDue : driver.due nowMs with
  | false =>
      cases reading <;>
        simp [poll, isOn, BatteryDriver.poll, isDue, store]
  | true =>
      rcases noReading with notDue | isNone
      · rw [isDue] at notDue
        cases notDue
      · subst isNone
        simp [poll, isOn, BatteryDriver.poll, isDue, store]

/-- A reading inside the window may raise its peak. -/
theorem poll_sampled
    (isOn : life.driver = some driver)
    (isDue : driver.due nowMs = true)
    (stillOpen : driver.peakSampler.windowOver nowMs = false) :
    life.poll nowMs (some mv) nvsWrites =
      { life with
        driver :=
          some
            { driver with
              lastPollMs := nowMs
              liveMv := mv
              peakSampler :=
                { driver.peakSampler with
                  peakMv := max driver.peakSampler.peakMv mv } }
        window := mv :: life.window } := by
  simp [poll, isOn, BatteryDriver.poll, isDue, BatteryDriver.take,
    PeakWindowSampler.sample, stillOpen, observe, store]

/-- The driver when a reading closes the window, before it persists. -/
def closed
    (driver : BatteryDriver)
    (nowMs mv : Nat) :
    BatteryDriver :=
  { driver with
    lastPollMs := nowMs
    liveMv := mv
    peakSampler := { windowStartMs := nowMs, peakMv := mv } }.closeWindow
      (max driver.peakSampler.peakMv mv)

/-- A reading that closes the window takes effect and may be persisted. -/
theorem poll_closed
    (isOn : life.driver = some driver)
    (isDue : driver.due nowMs = true)
    (isOver : driver.peakSampler.windowOver nowMs = true) :
    life.poll nowMs (some mv) nvsWrites =
      (life.observe true mv).store
        ((closed driver nowMs mv).persist nowMs).1
        ((closed driver nowMs mv).persist nowMs).2 nvsWrites := by
  simp [poll, isOn, BatteryDriver.poll, isDue, BatteryDriver.take,
    PeakWindowSampler.sample, isOver, closed]

/--
A voltage a cell can show: the peak of a window off the charge rail, or the
first reading of a boot.
-/
def Trusted
    (life : BatteryLife)
    (mv : Nat) :
    Prop :=
  mv ≤ externalPowerMvThreshold ∧
    ((∃ window ∈ life.windows, OffCharge window ∧ peak window = mv) ∨
      mv ∈ life.seeds)

/-- A voltage stays trusted while windows and boots are added. -/
theorem Trusted.mono
    {later : BatteryLife}
    (windows : life.windows ⊆ later.windows)
    (seeds : life.seeds ⊆ later.seeds)
    (trusted : life.Trusted mv) :
    later.Trusted mv := by
  obtain ⟨inRange, origin⟩ := trusted
  refine ⟨inRange, ?_⟩
  rcases origin with ⟨window, member, isPeak⟩ | isSeed
  · exact .inl ⟨window, windows member, isPeak⟩
  · exact .inr (seeds isSeed)

/-- What holds of the driver beside the recorded readings. -/
structure DriverSound
    (life : BatteryLife)
    (driver : BatteryDriver) :
    Prop where
  isPeak : driver.peakSampler.peakMv = peak life.window
  settled : driver.confirmed = true → life.Trusted driver.settledMv
  charging : driver.cachedCharging = true → driver.level = .charging
  shown :
    driver.bootSettled = true →
      driver.level ≠ .charging →
      ∃ window,
        life.windows.head? = some window ∧
          OffCharge window ∧ peak window = driver.settledMv

/-- What holds of a battery over its boots. -/
structure Sound
    (life : BatteryLife) :
    Prop where
  driver : ∀ driver, life.driver = some driver → life.DriverSound driver
  flash : ∀ mv, life.flash = some mv → life.Trusted mv
  persisted :
    ∀ write ∈ life.persisted,
      write.confirmed = true ∧ life.Trusted write.mv

theorem start_sound :
    start.Sound :=
  ⟨nofun, nofun, nofun⟩

/-- What is known of persisted values outlives new windows and boots. -/
theorem Sound.persisted_mono
    {later : BatteryLife}
    (sound : life.Sound)
    (windows : life.windows ⊆ later.windows)
    (seeds : life.seeds ⊆ later.seeds) :
    ∀ write ∈ life.persisted,
      write.confirmed = true ∧ later.Trusted write.mv :=
  fun write member =>
    ⟨(sound.persisted write member).1,
      (sound.persisted write member).2.mono windows seeds⟩

/-- A boot trusts the value on flash, or a first reading a cell can show. -/
theorem Sound.boot
    (sound : life.Sound)
    (nowMs : Nat)
    (reading : Option Nat)
    (nvsReads : Bool) :
    (life.boot nowMs reading nvsReads).Sound := by
  have seeds :
      life.seeds ⊆ (life.boot nowMs reading nvsReads).seeds :=
    List.subset_cons_self _ _
  have flash :
      ∀ mv, life.flash = some mv →
        (life.boot nowMs reading nvsReads).Trusted mv :=
    fun mv stored =>
      (sound.flash mv stored).mono (List.Subset.refl life.windows) seeds
  refine ⟨?_, flash,
    sound.persisted_mono (List.Subset.refl life.windows) seeds⟩
  rintro driver ⟨⟩
  by_cases on : externalPowerMvThreshold < reading.getD batteryEmptyMv
  · cases restored : (if nvsReads then life.flash else none) with
    | none =>
        refine ⟨?_, ?_, ?_, nofun⟩
        · simp [BatteryDriver.new, peak, BatteryLife.boot]
        · simp [BatteryDriver.new, seedBootState, batteryPollStep_on on]
        · simp [BatteryDriver.new, seedBootState, batteryPollStep_on on,
            batteryLevelBucket]
    | some mv =>
        have stored : life.flash = some mv := by
          cases nvsReads <;> simp_all
        refine ⟨?_, fun _ => ?_, ?_, nofun⟩
        · simp [BatteryDriver.new, peak, BatteryLife.boot]
        · simpa [BatteryDriver.new, seedBootState, batteryPollStep_on on]
            using flash mv stored
        · simp [BatteryDriver.new, seedBootState, batteryPollStep_on on,
            batteryLevelBucket]
  · have off : reading.getD batteryEmptyMv ≤ externalPowerMvThreshold :=
      Nat.le_of_not_lt on
    refine ⟨?_, fun _ => ⟨?_, .inr ?_⟩, ?_, nofun⟩
    · simp [BatteryDriver.new, peak, BatteryLife.boot]
    · simpa [BatteryDriver.new, seedBootState, batteryPollStep_off off]
        using off
    · simp [BatteryDriver.new, seedBootState, batteryPollStep_off off,
        BatteryLife.boot]
    · simp [BatteryDriver.new, seedBootState, batteryPollStep_off off]

/-- A closed window is trusted if it is off the charge rail. -/
theorem DriverSound.closed
    (sound : life.DriverSound driver)
    (nowMs mv : Nat) :
    (life.observe true mv).DriverSound (closed driver nowMs mv) := by
  have windows : life.windows ⊆ (life.observe true mv).windows :=
    List.subset_cons_self _ _
  have peakOf :
      max driver.peakSampler.peakMv mv = peak (mv :: life.window) := by
    rw [sound.isPeak, Nat.max_comm]
    rfl
  rw [BatteryLife.closed, peakOf]
  by_cases on : externalPowerMvThreshold < peak (mv :: life.window)
  · rw [BatteryDriver.closeWindow_on on]
    refine ⟨?_, fun confirmed => ?_, fun _ => rfl, ?_⟩
    · simp [peak, observe]
    · exact (sound.settled confirmed).mono windows
        (List.Subset.refl life.seeds)
    · intro _ notCharging
      exact absurd rfl notCharging
  · have off := Nat.le_of_not_lt on
    have isOff : OffCharge (mv :: life.window) := peak_le_iff.mp off
    rw [BatteryDriver.closeWindow_off off]
    refine ⟨?_, fun _ => ⟨off, .inl ⟨_, List.mem_cons_self, isOff, rfl⟩⟩,
      nofun, fun _ _ => ⟨_, rfl, isOff, rfl⟩⟩
    simp [peak, observe]

/-- Writing a trusted value that is confirmed keeps the rest. -/
theorem Sound.store
    {written : Option Nat}
    (flash : ∀ mv, life.flash = some mv → life.Trusted mv)
    (persisted :
      ∀ write ∈ life.persisted,
        write.confirmed = true ∧ life.Trusted write.mv)
    (sound : life.DriverSound driver)
    (isSettled :
      ∀ mv, written = some mv →
        mv = driver.settledMv ∧ driver.confirmed = true)
    (nvsWrites : Bool) :
    (life.store driver written nvsWrites).Sound := by
  cases written with
  | none =>
      refine ⟨?_, flash, persisted⟩
      rintro _ ⟨⟩
      exact ⟨sound.isPeak, sound.settled, sound.charging, sound.shown⟩
  | some mv =>
      obtain ⟨rfl, confirmed⟩ := isSettled mv rfl
      have trusted : life.Trusted driver.settledMv :=
        sound.settled confirmed
      refine ⟨?_, ?_, ?_⟩
      · rintro _ ⟨⟩
        exact ⟨sound.isPeak, sound.settled, sound.charging, sound.shown⟩
      · intro mv stored
        cases nvsWrites with
        | false => exact flash mv stored
        | true =>
            cases stored
            exact trusted
      · intro write member
        rcases List.mem_cons.mp member with isNew | old
        · subst isNew
          exact ⟨confirmed, trusted⟩
        · exact persisted write old

theorem Sound.poll
    (sound : life.Sound)
    (nowMs : Nat)
    (reading : Option Nat)
    (nvsWrites : Bool) :
    (life.poll nowMs reading nvsWrites).Sound := by
  cases isOn : life.driver with
  | none =>
      simpa [BatteryLife.poll, isOn] using sound
  | some driver =>
      have driverSound := sound.driver driver isOn
      by_cases noReading : driver.due nowMs = false ∨ reading = none
      · rw [poll_idle isOn noReading]
        refine ⟨?_, sound.flash, sound.persisted⟩
        rintro _ ⟨⟩
        exact ⟨driverSound.isPeak, driverSound.settled,
          driverSound.charging, driverSound.shown⟩
      obtain ⟨isDue, hasReading⟩ := not_or.mp noReading
      rw [Bool.not_eq_false] at isDue
      obtain ⟨mv, rfl⟩ := Option.ne_none_iff_exists'.mp hasReading
      cases isOver : driver.peakSampler.windowOver nowMs with
      | false =>
          rw [poll_sampled isOn isDue isOver]
          refine ⟨?_, sound.flash, sound.persisted⟩
          rintro _ ⟨⟩
          refine ⟨?_, driverSound.settled, driverSound.charging,
            driverSound.shown⟩
          simp only [driverSound.isPeak, Nat.max_comm]
          rfl
      | true =>
          rw [poll_closed isOn isDue isOver]
          have windows :
              life.windows ⊆ (life.observe true mv).windows :=
            List.subset_cons_self _ _
          have seeds : life.seeds ⊆ (life.observe true mv).seeds :=
            List.Subset.refl life.seeds
          have flash :
              ∀ stored, (life.observe true mv).flash = some stored →
                (life.observe true mv).Trusted stored :=
            fun stored isStored =>
              (sound.flash stored isStored).mono windows seeds
          have persisted :
              ∀ write ∈ (life.observe true mv).persisted,
                write.confirmed = true ∧
                  (life.observe true mv).Trusted write.mv :=
            sound.persisted_mono windows seeds
          have closedSound := driverSound.closed nowMs mv
          rcases @BatteryDriver.persist_cases (closed driver nowMs mv)
            nowMs with unwritten | ⟨confirmed, writes⟩
          · rw [unwritten]
            refine Sound.store flash persisted closedSound ?_ nvsWrites
            intro _ isWritten
            cases isWritten
          · rw [writes]
            have writtenSound :
                (life.observe true mv).DriverSound
                  { closed driver nowMs mv with
                    lastPersistedMv :=
                      some (closed driver nowMs mv).settledMv
                    lastPersistMs := nowMs } :=
              ⟨closedSound.isPeak, closedSound.settled,
                closedSound.charging, closedSound.shown⟩
            refine Sound.store flash persisted writtenSound ?_ nvsWrites
            rintro _ ⟨⟩
            exact ⟨rfl, confirmed⟩

theorem Sound.step
    (sound : life.Sound)
    (event : BatteryEvent) :
    (life.step event).Sound := by
  cases event with
  | boot nowMs reading nvsReads => exact sound.boot nowMs reading nvsReads
  | poll nowMs reading nvsWrites => exact sound.poll nowMs reading nvsWrites

/-- The battery after the events of a run. -/
def after
    (events : List BatteryEvent) :
    BatteryLife :=
  Transition.run step start events

theorem after_sound
    (events : List BatteryEvent) :
    (after events).Sound := by
  have always :=
    @Transition.always_of_invariant BatteryLife BatteryEvent
      BatteryLife.step Sound (fun _ event sound => sound.step event) start
      start_sound events
  exact always.last

/-- A displayed voltage bucket is the level of the driver. -/
theorem level_of_shown
    {bucket : Nat}
    (isOn : life.driver = some driver)
    (shown : life.status.level.bucketIndex = some bucket) :
    driver.bootSettled = true ∧ driver.level.bucketIndex = some bucket := by
  rw [status, isOn] at shown
  cases settled : driver.bootSettled with
  | false =>
      simp [BatteryDriver.status, displayedBatteryLevel, settled,
        BatteryLevel.bucketIndex] at shown
  | true =>
      refine ⟨rfl, ?_⟩
      simpa [BatteryDriver.status, displayedBatteryLevel, settled]
        using shown

/-- A displayed voltage bucket is that of the peak of the last window. -/
theorem Sound.shown
    (sound : life.Sound)
    {bucket : Nat}
    (shown : life.status.level.bucketIndex = some bucket) :
    life.status.charging = false ∧
      ∃ window,
        life.windows.head? = some window ∧
          OffCharge window ∧ peak window = life.status.heldRawMv := by
  cases isOn : life.driver with
  | none =>
      simp [status, isOn, BatteryStatus.unknown, BatteryLevel.bucketIndex]
        at shown
  | some driver =>
      obtain ⟨settled, isBucket⟩ := level_of_shown isOn shown
      have driverSound := sound.driver driver isOn
      have notCharging : driver.level ≠ .charging := by
        intro charging
        rw [charging] at isBucket
        cases isBucket
      have isStatus : life.status = driver.status := by
        rw [status, isOn]
      rw [isStatus]
      refine ⟨?_, driverSound.shown settled notCharging⟩
      exact Bool.eq_false_iff.mpr fun charging =>
        notCharging (driverSound.charging charging)

/-- The settled voltage clears the boundaries between two levels in a row. -/
theorem step_clears
    (life : BatteryLife)
    (event : BatteryEvent)
    {before after : Nat}
    (isBefore : life.status.level.bucketIndex = some before)
    (isAfter : (life.step event).status.level.bucketIndex = some after) :
    Hysteresis.Clears levelBoundariesMv levelHysteresisMv
      (life.step event).status.heldRawMv before after := by
  have unchanged :
      (life.step event).status.level = life.status.level →
        Hysteresis.Clears levelBoundariesMv levelHysteresisMv
          (life.step event).status.heldRawMv before after := by
    intro same
    rw [same, isBefore] at isAfter
    cases isAfter
    exact ⟨fun index _ _ => by omega, fun index _ _ => by omega⟩
  cases event with
  | boot nowMs reading nvsReads =>
      cases isAfter
  | poll nowMs reading nvsWrites =>
      cases isOn : life.driver with
      | none =>
          apply unchanged
          simp [BatteryLife.step, BatteryLife.poll, isOn]
      | some driver =>
          by_cases noReading : driver.due nowMs = false ∨ reading = none
          · apply unchanged
            rw [BatteryLife.step, poll_idle isOn noReading]
            simp [status, isOn, BatteryDriver.status]
          obtain ⟨isDue, hasReading⟩ := not_or.mp noReading
          rw [Bool.not_eq_false] at isDue
          obtain ⟨mv, rfl⟩ := Option.ne_none_iff_exists'.mp hasReading
          cases isOver : driver.peakSampler.windowOver nowMs with
          | false =>
              apply unchanged
              rw [BatteryLife.step, poll_sampled isOn isDue isOver]
              simp [status, isOn, BatteryDriver.status]
          | true =>
              obtain ⟨settled, isBucket⟩ := level_of_shown isOn isBefore
              have isStatus :
                  (life.step (.poll nowMs (some mv) nvsWrites)).status =
                    (closed driver nowMs mv).status := by
                rw [BatteryLife.step, poll_closed isOn isDue isOver]
                rcases @BatteryDriver.persist_cases
                  (closed driver nowMs mv) nowMs with
                  unwritten | ⟨_, writes⟩
                · rw [unwritten]
                  rfl
                · rw [writes]
                  rfl
              rw [isStatus] at isAfter ⊢
              by_cases on :
                  externalPowerMvThreshold <
                    max driver.peakSampler.peakMv mv
              · rw [closed, BatteryDriver.closeWindow_on on] at isAfter
                cases isAfter
              · rw [closed,
                  BatteryDriver.closeWindow_off (Nat.le_of_not_lt on)]
                  at isAfter ⊢
                rw [batteryLevelBucket_bucket isBucket isAfter]
                exact Hysteresis.settle_clears _ _ _ _

end BatteryLife

/-- Readings that differ on the charge rail only. -/
def SameOffRail
    (mv other : Nat) :
    Prop :=
  mv = other ∨
    externalPowerMvThreshold < mv ∧ externalPowerMvThreshold < other

/-- Events whose readings differ on the charge rail only. -/
inductive BatteryEvent.SameOffRail :
    BatteryEvent → BatteryEvent → Prop where
  | boot
      (nowMs : Nat)
      {reading other : Option Nat}
      (same : Option.Rel MeshCadet.SameOffRail reading other)
      (nvsReads : Bool) :
      SameOffRail (.boot nowMs reading nvsReads) (.boot nowMs other nvsReads)
  | poll
      (nowMs : Nat)
      {reading other : Option Nat}
      (same : Option.Rel MeshCadet.SameOffRail reading other)
      (nvsWrites : Bool) :
      SameOffRail (.poll nowMs reading nvsWrites)
        (.poll nowMs other nvsWrites)

/-- Peaks of readings that differ on the charge rail only. -/
theorem SameOffRail.max
    {first firstOther second secondOther : Nat}
    (sameFirst : SameOffRail first firstOther)
    (sameSecond : SameOffRail second secondOther) :
    SameOffRail (max first second) (max firstOther secondOther) := by
  rcases sameFirst with rfl | ⟨on, otherOn⟩
  · rcases sameSecond with rfl | ⟨on, otherOn⟩
    · exact .inl rfl
    · exact .inr ⟨Nat.lt_of_lt_of_le on (Nat.le_max_right _ _),
        Nat.lt_of_lt_of_le otherOn (Nat.le_max_right _ _)⟩
  · exact .inr ⟨Nat.lt_of_lt_of_le on (Nat.le_max_left _ _),
      Nat.lt_of_lt_of_le otherOn (Nat.le_max_left _ _)⟩

/-- Drivers that differ in what they read on the charge rail only. -/
structure BatteryDriver.SameOffRail
    (driver other : BatteryDriver) :
    Prop where
  settledMv : driver.confirmed = true → driver.settledMv = other.settledMv
  cachedCharging : driver.cachedCharging = other.cachedCharging
  confirmed : driver.confirmed = other.confirmed
  level : driver.level = other.level
  windowStartMs :
    driver.peakSampler.windowStartMs = other.peakSampler.windowStartMs
  peakMv :
    MeshCadet.SameOffRail driver.peakSampler.peakMv other.peakSampler.peakMv
  bootSettled : driver.bootSettled = other.bootSettled
  lastPollMs : driver.lastPollMs = other.lastPollMs
  lastPersistedMv : driver.lastPersistedMv = other.lastPersistedMv
  lastPersistMs : driver.lastPersistMs = other.lastPersistMs

namespace BatteryDriver

variable {driver other : BatteryDriver}

/-- Drivers at boot differ in their readings on the charge rail only. -/
theorem new_sameOffRail
    {initialMv otherMv : Nat}
    (same : MeshCadet.SameOffRail initialMv otherMv)
    (nowMs : Nat)
    (persistedMv : Option Nat) :
    (new nowMs initialMv persistedMv).SameOffRail
      (new nowMs otherMv persistedMv) := by
  rcases same with rfl | ⟨on, otherOn⟩
  · exact ⟨fun _ => rfl, rfl, rfl, rfl, rfl, .inl rfl, rfl, rfl, rfl, rfl⟩
  · rw [new, new, seedBootState, seedBootState, batteryPollStep_on on,
      batteryPollStep_on otherOn]
    refine ⟨fun confirmed => ?_, rfl, rfl, rfl, rfl, .inr ⟨on, otherOn⟩,
      rfl, rfl, rfl, rfl⟩
    cases persistedMv with
    | none => cases confirmed
    | some mv => rfl

/-- Closing windows keeps drivers alike, if their peaks are. -/
theorem SameOffRail.closeWindow
    (same : driver.SameOffRail other)
    {peakMv otherMv : Nat}
    (samePeak : MeshCadet.SameOffRail peakMv otherMv) :
    (driver.closeWindow peakMv).SameOffRail
      (other.closeWindow otherMv) := by
  by_cases on : externalPowerMvThreshold < peakMv
  · have otherOn : externalPowerMvThreshold < otherMv := by
      rcases samePeak with rfl | ⟨_, otherOn⟩
      · exact on
      · exact otherOn
    rw [closeWindow_on on, closeWindow_on otherOn]
    exact ⟨same.settledMv, rfl, same.confirmed, rfl, same.windowStartMs,
      same.peakMv, rfl, same.lastPollMs, same.lastPersistedMv,
      same.lastPersistMs⟩
  · have samePeakMv : peakMv = otherMv :=
      samePeak.resolve_right fun both => on both.1
    subst samePeakMv
    have off := Nat.le_of_not_lt on
    rw [closeWindow_off off, closeWindow_off off]
    refine ⟨fun _ => rfl, rfl, rfl, ?_, same.windowStartMs, same.peakMv,
      rfl, same.lastPollMs, same.lastPersistedMv, same.lastPersistMs⟩
    simp only [same.level]

/-- Drivers that are alike persist the same. -/
theorem SameOffRail.persist
    (same : driver.SameOffRail other)
    (nowMs : Nat) :
    (driver.persist nowMs).1.SameOffRail (other.persist nowMs).1 ∧
      (driver.persist nowMs).2 = (other.persist nowMs).2 := by
  cases confirmed : driver.confirmed with
  | false =>
      have otherConfirmed : other.confirmed = false :=
        same.confirmed.symm.trans confirmed
      simp [BatteryDriver.persist, shouldPersistSettledMv, confirmed,
        otherConfirmed, same]
  | true =>
      have settled := same.settledMv confirmed
      rw [BatteryDriver.persist, BatteryDriver.persist, settled,
        same.confirmed, same.lastPersistedMv, same.lastPersistMs]
      split
      · exact ⟨⟨fun _ => rfl, same.cachedCharging, rfl, same.level,
          same.windowStartMs, same.peakMv, same.bootSettled,
          same.lastPollMs, rfl, rfl⟩, rfl⟩
      · exact ⟨same, rfl⟩

end BatteryDriver

namespace BatteryLife

variable {life other : BatteryLife}

/-- Lives that differ in what was read on the charge rail only. -/
structure SameOffRail
    (life other : BatteryLife) :
    Prop where
  driver : Option.Rel BatteryDriver.SameOffRail life.driver other.driver
  flash : life.flash = other.flash
  persisted : life.persisted = other.persisted

/-- Lives that are alike are both on, with drivers alike, or both off. -/
theorem SameOffRail.drivers
    (same : life.SameOffRail other) :
    life.driver = none ∧ other.driver = none ∨
      ∃ driver otherDriver,
        life.driver = some driver ∧
          other.driver = some otherDriver ∧
          driver.SameOffRail otherDriver := by
  have sameDriver := same.driver
  generalize life.driver = first at sameDriver ⊢
  generalize other.driver = second at sameDriver ⊢
  cases sameDriver with
  | none => exact .inl ⟨rfl, rfl⟩
  | some alike => exact .inr ⟨_, _, rfl, rfl, alike⟩

/-- Lives that are alike display the same level. -/
theorem SameOffRail.level
    (same : life.SameOffRail other) :
    life.status.level = other.status.level := by
  rw [status, status]
  rcases same.drivers with
    ⟨isOff, otherOff⟩ | ⟨driver, otherDriver, isOn, otherOn, alike⟩
  · rw [isOff, otherOff]
  · rw [isOn, otherOn]
    simp only [BatteryDriver.status, alike.level, alike.bootSettled]

/-- Storing the same keeps lives alike. -/
theorem SameOffRail.store
    {driver otherDriver : BatteryDriver}
    (flash : life.flash = other.flash)
    (persisted : life.persisted = other.persisted)
    (alike : driver.SameOffRail otherDriver)
    (written : Option Nat)
    (nvsWrites : Bool) :
    (life.store driver written nvsWrites).SameOffRail
      (other.store otherDriver written nvsWrites) := by
  cases written with
  | none =>
      exact ⟨.some alike, flash, persisted⟩
  | some mv =>
      refine ⟨.some alike, ?_, ?_⟩
      · simp only [BatteryLife.store, flash]
      · simp only [BatteryLife.store, persisted, alike.confirmed]

/-- Polls whose readings differ on the charge rail only keep lives alike. -/
theorem SameOffRail.poll
    (same : life.SameOffRail other)
    {reading otherReading : Option Nat}
    (sameReading : Option.Rel MeshCadet.SameOffRail reading otherReading)
    (nowMs : Nat)
    (nvsWrites : Bool) :
    (life.poll nowMs reading nvsWrites).SameOffRail
      (other.poll nowMs otherReading nvsWrites) := by
  rcases same.drivers with
    ⟨isOff, otherOff⟩ | ⟨driver, otherDriver, isOn, otherOn, alike⟩
  · simpa [BatteryLife.poll, isOff, otherOff] using same
  have sameDue : otherDriver.due nowMs = driver.due nowMs := by
    rw [BatteryDriver.due, BatteryDriver.due, alike.lastPollMs]
  have sameOver :
      otherDriver.peakSampler.windowOver nowMs =
        driver.peakSampler.windowOver nowMs := by
    rw [PeakWindowSampler.windowOver, PeakWindowSampler.windowOver,
      alike.windowStartMs]
  by_cases noReading : driver.due nowMs = false ∨ reading = none
  · have otherNone : otherDriver.due nowMs = false ∨ otherReading = none := by
      rw [sameDue]
      refine noReading.imp_right fun isNone => ?_
      subst isNone
      cases sameReading
      rfl
    rw [poll_idle isOn noReading, poll_idle otherOn otherNone, sameDue,
      alike.lastPollMs]
    exact ⟨.some ⟨alike.settledMv, alike.cachedCharging, alike.confirmed,
      alike.level, alike.windowStartMs, alike.peakMv, alike.bootSettled,
      rfl, alike.lastPersistedMv, alike.lastPersistMs⟩,
      same.flash, same.persisted⟩
  obtain ⟨isDue, hasReading⟩ := not_or.mp noReading
  rw [Bool.not_eq_false] at isDue
  have otherIsDue := sameDue.trans isDue
  cases sameReading with
  | none =>
      exact absurd rfl hasReading
  | @some mv otherMv sameMv =>
      cases isOver : driver.peakSampler.windowOver nowMs with
      | false =>
          rw [poll_sampled isOn isDue isOver,
            poll_sampled otherOn otherIsDue (sameOver.trans isOver)]
          exact ⟨.some ⟨alike.settledMv, alike.cachedCharging,
            alike.confirmed, alike.level, alike.windowStartMs,
            alike.peakMv.max sameMv, alike.bootSettled, rfl,
            alike.lastPersistedMv, alike.lastPersistMs⟩,
            same.flash, same.persisted⟩
      | true =>
          rw [poll_closed isOn isDue isOver,
            poll_closed otherOn otherIsDue (sameOver.trans isOver)]
          have read :
              BatteryDriver.SameOffRail
                { driver with
                  lastPollMs := nowMs
                  liveMv := mv
                  peakSampler := { windowStartMs := nowMs, peakMv := mv } }
                { otherDriver with
                  lastPollMs := nowMs
                  liveMv := otherMv
                  peakSampler :=
                    { windowStartMs := nowMs, peakMv := otherMv } } :=
            ⟨alike.settledMv, alike.cachedCharging, alike.confirmed,
              alike.level, rfl, sameMv, alike.bootSettled, rfl,
              alike.lastPersistedMv, alike.lastPersistMs⟩
          have closedAlike :
              (closed driver nowMs mv).SameOffRail
                (closed otherDriver nowMs otherMv) :=
            read.closeWindow (alike.peakMv.max sameMv)
          obtain ⟨persistedAlike, sameWrite⟩ := closedAlike.persist nowMs
          rw [sameWrite]
          exact @SameOffRail.store (life.observe true mv)
            (other.observe true otherMv) _ _ same.flash same.persisted
            persistedAlike _ nvsWrites

/-- Every event keeps lives alike, if its readings differ on the rail only. -/
theorem SameOffRail.step
    (same : life.SameOffRail other)
    {event otherEvent : BatteryEvent}
    (sameEvent : event.SameOffRail otherEvent) :
    (life.step event).SameOffRail (other.step otherEvent) := by
  cases sameEvent with
  | boot nowMs sameReading nvsReads =>
      have sameInitial := sameReading
      refine ⟨.some ?_, same.flash, same.persisted⟩
      rw [same.flash]
      apply BatteryDriver.new_sameOffRail
      cases sameReading with
      | none => exact .inl rfl
      | some sameMv => exact sameMv
  | poll nowMs sameReading nvsWrites =>
      exact same.poll sameReading nowMs nvsWrites

/-- Runs whose readings differ on the charge rail only keep lives alike. -/
theorem after_sameOffRail
    {events others : List BatteryEvent}
    (same : List.Forall₂ BatteryEvent.SameOffRail events others) :
    (after events).SameOffRail (after others) :=
  Transition.run_related (fun _ _ _ _ alike sameEvent => alike.step sameEvent)
    ⟨.none, rfl, rfl⟩ same

/--
Every value handed to flash is confirmed, one that a cell can show, and the peak
of a window off the charge rail or the first reading of a boot.  A displayed
voltage bucket is that of the last window's peak, off the charge rail; readings
on the rail change neither what is displayed nor what is persisted.  Two buckets
displayed in a row have every boundary between them cleared by the margin.
-/
theorem battery_persistence_safe
    (events : List BatteryEvent) :
    (∀ write ∈ (after events).persisted,
      write.confirmed = true ∧ (after events).Trusted write.mv) ∧
      (∀ mv, (after events).flash = some mv → (after events).Trusted mv) ∧
      (∀ bucket,
        (after events).status.level.bucketIndex = some bucket →
        (after events).status.charging = false ∧
          ∃ window,
            (after events).windows.head? = some window ∧
              OffCharge window ∧
              peak window = (after events).status.heldRawMv) ∧
      (∀ others,
        List.Forall₂ BatteryEvent.SameOffRail events others →
        (after events).status.level = (after others).status.level ∧
          (after events).persisted = (after others).persisted) ∧
      ∀ event before next,
        (after events).status.level.bucketIndex = some before →
        ((after events).step event).status.level.bucketIndex = some next →
        Hysteresis.Clears levelBoundariesMv levelHysteresisMv
          ((after events).step event).status.heldRawMv before next := by
  have sound := after_sound events
  refine ⟨sound.persisted, sound.flash, fun _ => sound.shown, ?_, ?_⟩
  · intro others same
    have alike := after_sameOffRail same
    exact ⟨alike.level, alike.persisted⟩
  · intro event _ _
    exact step_clears (after events) event

/--
A device plugged in during its first window persists its first reading, which no
window had as its peak; and charging between two windows lets the level fall on
a voltage five millivolts below the boundary.
-/
theorem seed_persisted_level_falls :
    (∃ write ∈
        (after
          [.boot 0 (some 3650) true,
            .poll 30000 (some 5000) true]).persisted,
      ¬ ∃ window ∈
          (after
            [.boot 0 (some 3650) true,
              .poll 30000 (some 5000) true]).windows,
        peak window = write.mv) ∧
      (after
          [.boot 0 (some 3710) true,
            .poll 30000 (some 3710) true]).status.level =
        .partly ∧
      (after
          [.boot 0 (some 3710) true, .poll 30000 (some 3710) true,
            .poll 60000 (some 5000) true, .poll 90000 (some 3695) true,
            .poll 120000 (some 3695) true]).status.level =
        .low ∧
      3700 ≤
        (after
            [.boot 0 (some 3710) true, .poll 30000 (some 3710) true,
              .poll 60000 (some 5000) true, .poll 90000 (some 3695) true,
              .poll 120000 (some 3695) true]).status.heldRawMv +
          levelHysteresisMv := by
  decide +kernel

end BatteryLife

end MeshCadet
