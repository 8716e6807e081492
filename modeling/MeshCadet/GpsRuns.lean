import MeshCadet.GpsPicture
import MeshCadet.Transition

namespace MeshCadet

/-!
# Runs of the GPS driver

Bytes arrive and the driver is called, in any order and at any times.  Beside the
driver a run has the bytes that arrived, those that were read as text since the rate
was last probed for, and how often that was.
-/

open LineCollector NmeaDetection

namespace GpsDriver

/-! ## What a call does -/

/-- Probing starts with the first candidate the port can be set to. -/
theorem beginReprobeFrom_cases
    (driver : GpsDriver)
    (hardware : GpsHardware)
    (nowMs candidateIdx : Nat)
    (candidates : List Nat) :
    (∃ skipped baud,
        candidates[skipped]? = some baud ∧
          driver.beginReprobeFrom hardware nowMs candidateIdx candidates =
            driver.probeCandidate hardware nowMs (candidateIdx + skipped)
              baud) ∨
      driver.beginReprobeFrom hardware nowMs candidateIdx candidates =
        driver.concludeReprobeNoMatch hardware := by
  induction candidates generalizing candidateIdx with
  | nil =>
      exact .inr rfl
  | cons baud rest inductionHypothesis =>
      unfold beginReprobeFrom
      split
      · exact .inl ⟨0, baud, rfl, rfl⟩
      · rcases inductionHypothesis (candidateIdx + 1) with
          ⟨skipped, later, isLater, result⟩ | result
        · refine .inl ⟨skipped + 1, later, isLater, ?_⟩
          rw [result, Nat.add_assoc, Nat.add_comm 1]
        · exact .inr result

/-- Probing goes on with a candidate, or ends without one. -/
theorem beginReprobeWindow_cases
    (driver : GpsDriver)
    (hardware : GpsHardware)
    (nowMs candidateIdx : Nat) :
    (∃ next baud,
        candidateIdx ≤ next ∧ gpsBaudCandidates[next]? = some baud ∧
          driver.beginReprobeWindow hardware nowMs candidateIdx =
            driver.probeCandidate hardware nowMs next baud) ∨
      driver.beginReprobeWindow hardware nowMs candidateIdx =
        driver.concludeReprobeNoMatch hardware := by
  rcases
      driver.beginReprobeFrom_cases hardware nowMs candidateIdx
        (gpsBaudCandidates.drop candidateIdx) with
    ⟨skipped, baud, isBaud, result⟩ | result
  · rw [List.getElem?_drop] at isBaud
    exact
      .inl
        ⟨candidateIdx + skipped, baud, Nat.le_add_right _ _, isBaud, result⟩
  · exact .inr result

/-- The kept rate is probed for again when that is due. -/
theorem maybeReprobe_eq
    (driver : GpsDriver)
    (hardware : GpsHardware)
    (nowMs : Nat) :
    driver.maybeReprobeStaleCachedBaud hardware nowMs =
      if driver.reprobeDue nowMs then
        ({ driver with line := .empty } : GpsDriver).beginReprobeWindow
          hardware nowMs 0
      else
        { driver with
          baudConfirmed :=
            driver.baudConfirmed || driver.lastNmeaSeenUptimeMs.isSome } := by
  unfold maybeReprobeStaleCachedBaud reprobeDue
  cases confirmed : driver.baudConfirmed with
  | true =>
      simp only [if_true, Bool.not_true, Bool.false_and, Bool.true_or,
        Bool.false_eq_true, if_false]
      rw [← confirmed]
  | false =>
      cases seen : driver.lastNmeaSeenUptimeMs with
      | some uptimeMs => simp
      | none =>
          simp only [Bool.false_eq_true, if_false, Option.isSome_none,
            Option.isNone_none, Bool.not_false, Bool.true_and,
            decide_eq_true_eq, Bool.false_or]
          by_cases early :
              nowMs - driver.driverStartUptimeMs <
                cachedBaudSilenceTimeoutMs
          · rw [if_pos early, if_neg (Nat.not_le.mpr early), ← confirmed]
          · rw [if_neg early, if_pos (Nat.not_lt.mp early)]

/-- What a call does: nothing after a panic, a slice of probing, the start of probing,
or the windows. -/
theorem poll_cases
    (driver : GpsDriver)
    (hardware : GpsHardware)
    (nowMs : Nat) :
    (driver.panicked = true ∧ driver.poll hardware nowMs = driver) ∨
      (driver.panicked = false ∧
        ((∃ candidateIdx,
            driver.reprobeCandidateIdx = some candidateIdx ∧
              driver.poll hardware nowMs =
                driver.serviceReprobe hardware nowMs) ∨
          (driver.reprobeCandidateIdx = none ∧
            (((driver.maybeReprobeStaleCachedBaud hardware
                    nowMs).reprobeCandidateIdx.isSome = true ∧
                driver.poll hardware nowMs =
                  driver.maybeReprobeStaleCachedBaud hardware nowMs) ∨
              ((driver.maybeReprobeStaleCachedBaud hardware
                    nowMs).reprobeCandidateIdx = none ∧
                driver.poll hardware nowMs =
                  (driver.maybeReprobeStaleCachedBaud hardware
                      nowMs).dutyCycle
                    hardware nowMs))))) := by
  unfold poll
  cases panicked : driver.panicked with
  | true => exact .inl ⟨rfl, rfl⟩
  | false =>
      refine .inr ⟨rfl, ?_⟩
      cases probing : driver.reprobeCandidateIdx with
      | some candidateIdx => exact .inl ⟨candidateIdx, rfl, rfl⟩
      | none =>
          refine .inr ⟨rfl, ?_⟩
          simp only [Bool.false_eq_true, if_false, Option.isSome_none]
          cases begun :
              (driver.maybeReprobeStaleCachedBaud hardware
                nowMs).reprobeCandidateIdx with
          | some candidateIdx => exact .inl ⟨rfl, rfl⟩
          | none => exact .inr ⟨rfl, rfl⟩

/-- A slice of probing: it goes on, the rate was found, the next is probed for, or
none was found. -/
theorem serviceReprobe_cases
    {driver : GpsDriver}
    {candidateIdx candidate : Nat}
    (probing : driver.reprobeCandidateIdx = some candidateIdx)
    (isCandidate : gpsBaudCandidates[candidateIdx]? = some candidate)
    (hardware : GpsHardware)
    (nowMs : Nat) :
    ((nowMs - driver.reprobeWindowStartMs) % 2 ^ 32 < baudProbeWindowMs ∧
        driver.serviceReprobe hardware nowMs =
          driver.sampleReprobe hardware) ∨
      (containsChecksumValidNmea
            (driver.sampleReprobe hardware).reprobeBuf.elements =
          true ∧
        driver.serviceReprobe hardware nowMs =
          (driver.sampleReprobe hardware).lockReprobe hardware
            candidate) ∨
      (containsChecksumValidNmea
            (driver.sampleReprobe hardware).reprobeBuf.elements =
          false ∧
        driver.serviceReprobe hardware nowMs =
          (driver.sampleReprobe hardware).beginReprobeWindow hardware nowMs
            (candidateIdx + 1)) := by
  unfold serviceReprobe
  simp only [probing, isCandidate]
  split
  · next goesOn => exact .inl ⟨goesOn.1, rfl⟩
  · split
    · next found => exact .inr (.inl ⟨found, rfl⟩)
    · next missing =>
        exact .inr (.inr ⟨Bool.eq_false_of_not_eq_true missing, rfl⟩)

/-! ## What a call reads -/

/-- Probing is about to start. -/
def startsReprobe
    (driver : GpsDriver)
    (nowMs : Nat) :
    Bool :=
  !driver.panicked && driver.reprobeCandidateIdx.isNone &&
    driver.reprobeDue nowMs

/-- The bytes a call reads as text. -/
def readings
    (driver : GpsDriver)
    (hardware : GpsHardware)
    (nowMs : Nat) :
    List GpsReading :=
  let checked := driver.maybeReprobeStaleCachedBaud hardware nowMs
  if driver.panicked || driver.reprobeCandidateIdx.isSome ||
      checked.reprobeCandidateIdx.isSome || !checked.active then
    []
  else
    (checked.uart.readUpTo hardware 256).1.map fun b =>
      ({ nowMs := nowMs, setsClock := hardware.setsClock }, b)

/-- Reading the port takes the bytes in front. -/
theorem readUpTo_append
    (uart : GpsUart)
    (hardware : GpsHardware)
    (limit : Nat) :
    (uart.readUpTo hardware limit).1 ++
        (uart.readUpTo hardware limit).2.fifo =
      uart.fifo :=
  List.take_append_drop _ _

/-- The start or end of probing leaves what was read. -/
theorem beginReprobeWindow_reader
    (driver : GpsDriver)
    (hardware : GpsHardware)
    (nowMs candidateIdx : Nat) :
    (driver.beginReprobeWindow hardware nowMs candidateIdx).toGpsReader =
      driver.toGpsReader := by
  rcases
      driver.beginReprobeWindow_cases hardware nowMs candidateIdx with
    ⟨next, baud, -, -, result⟩ | result <;>
  · rw [result]
    rfl

/-- The start or end of probing drops bytes at most from the front of the port. -/
theorem beginReprobeWindow_fifo
    (driver : GpsDriver)
    (hardware : GpsHardware)
    (nowMs candidateIdx : Nat) :
    (driver.beginReprobeWindow hardware nowMs candidateIdx).uart.fifo <:+
      driver.uart.fifo := by
  rcases
      driver.beginReprobeWindow_cases hardware nowMs candidateIdx with
    ⟨next, baud, -, -, result⟩ | result
  · rw [result]
    simp only [probeCandidate, GpsUart.clearRx]
    split
    · exact List.nil_suffix
    · exact List.suffix_refl _
  · rw [result]
    simp only [concludeReprobeNoMatch, GpsUart.restore]
    split <;> exact List.suffix_refl _

/-- A slice of probing leaves what was read, unless it panics. -/
theorem serviceReprobe_reader
    (driver : GpsDriver)
    (hardware : GpsHardware)
    (nowMs : Nat) :
    (driver.serviceReprobe hardware nowMs).panicked = true ∨
      (driver.serviceReprobe hardware nowMs).toGpsReader =
        driver.toGpsReader := by
  unfold serviceReprobe
  split
  · exact .inr rfl
  · simp only
    split
    · exact .inr rfl
    · split
      · exact .inl rfl
      · split
        · exact .inr rfl
        · exact .inr (beginReprobeWindow_reader _ _ _ _)

/-- A slice of probing takes bytes from the front of the port. -/
theorem serviceReprobe_fifo
    (driver : GpsDriver)
    (hardware : GpsHardware)
    (nowMs : Nat) :
    (driver.serviceReprobe hardware nowMs).uart.fifo <:+
      driver.uart.fifo := by
  have sampled :
      (driver.sampleReprobe hardware).uart.fifo <:+ driver.uart.fifo :=
    List.drop_suffix _ _
  unfold serviceReprobe
  split
  · exact List.suffix_refl _
  · simp only
    split
    · exact sampled
    · split
      · exact sampled
      · split
        · simp only [lockReprobe]
          split
          · exact sampled
          · exact sampled
        · exact (beginReprobeWindow_fifo _ _ _ _).trans sampled

/-- The windows change what was read by reading, and nothing else. -/
theorem dutyCycle_reads
    (driver : GpsDriver)
    (hardware : GpsHardware)
    (nowMs : Nat) :
    (driver.dutyCycle hardware nowMs).toGpsReader =
        (if driver.active then
            (driver.uart.readUpTo hardware 256).1.map fun b =>
              (({ nowMs := nowMs, setsClock := hardware.setsClock }, b) :
                GpsReading)
          else []).foldl GpsReader.read driver.toGpsReader ∧
      (driver.dutyCycle hardware nowMs).uart.fifo =
        (if driver.active then
            (driver.uart.readUpTo hardware 256).2.fifo
          else driver.uart.fifo) := by
  unfold dutyCycle
  cases driver.active with
  | true =>
      simp only [if_true, List.foldl_map]
      split
      · exact ⟨rfl, rfl⟩
      · unfold closeWindow
        split <;> exact ⟨rfl, rfl⟩
  | false =>
      simp only [Bool.false_eq_true, if_false, List.foldl_nil, openWindow]
      split <;> exact ⟨rfl, rfl⟩

/-- The windows leave the probing alone. -/
theorem dutyCycle_probing
    (driver : GpsDriver)
    (hardware : GpsHardware)
    (nowMs : Nat) :
    (driver.dutyCycle hardware nowMs).reprobeCandidateIdx =
      driver.reprobeCandidateIdx := by
  unfold dutyCycle
  split
  · simp only
    split
    · rfl
    · unfold closeWindow
      split <;> rfl
  · unfold openWindow
    split <;> rfl

/-- The check of the kept rate, as far as reading goes. -/
theorem maybeReprobe_reads
    (driver : GpsDriver)
    (hardware : GpsHardware)
    (nowMs : Nat) :
    (driver.maybeReprobeStaleCachedBaud hardware nowMs).toGpsReader =
        (if driver.reprobeDue nowMs then
          { toGpsHeard := driver.toGpsHeard, line := .empty }
        else driver.toGpsReader) ∧
      (driver.maybeReprobeStaleCachedBaud hardware nowMs).uart.fifo <:+
        driver.uart.fifo ∧
      (driver.reprobeDue nowMs = false →
        (driver.maybeReprobeStaleCachedBaud hardware nowMs).uart =
            driver.uart ∧
          (driver.maybeReprobeStaleCachedBaud hardware
              nowMs).reprobeCandidateIdx =
            driver.reprobeCandidateIdx) := by
  rw [maybeReprobe_eq]
  cases due : driver.reprobeDue nowMs with
  | true =>
      rw [if_pos rfl, if_pos rfl]
      exact
        ⟨beginReprobeWindow_reader _ _ _ _,
          beginReprobeWindow_fifo _ _ _ _,
          fun notDue => (Bool.false_ne_true notDue.symm).elim⟩
  | false => exact ⟨rfl, List.suffix_refl _, fun _ => ⟨rfl, rfl⟩⟩

/-- A call reads bytes in their order, and leaves the line alone unless probing
starts. -/
theorem poll_reads
    (driver : GpsDriver)
    (hardware : GpsHardware)
    (nowMs : Nat) :
    ((driver.poll hardware nowMs).panicked = false →
        (driver.poll hardware nowMs).toGpsReader =
          (driver.readings hardware nowMs).foldl GpsReader.read
            (if driver.startsReprobe nowMs then
              { toGpsHeard := driver.toGpsHeard, line := .empty }
            else driver.toGpsReader)) ∧
      (driver.readings hardware nowMs).map Prod.snd ++
          (driver.poll hardware nowMs).uart.fifo <:+
        driver.uart.fifo ∧
      (driver.startsReprobe nowMs = false →
        driver.reprobeCandidateIdx = none →
          (driver.readings hardware nowMs).map Prod.snd ++
                (driver.poll hardware nowMs).uart.fifo =
              driver.uart.fifo ∧
            (driver.poll hardware nowMs).reprobeCandidateIdx = none) ∧
      ((driver.poll hardware nowMs).reprobeCandidateIdx.isSome = true →
        driver.readings hardware nowMs = [] ∧
          (driver.startsReprobe nowMs = true ∨
            driver.reprobeCandidateIdx.isSome = true)) := by
  obtain ⟨reader, fifo, quiet⟩ :=
    driver.maybeReprobe_reads hardware nowMs
  rcases driver.poll_cases hardware nowMs with
    ⟨panicked, result⟩ |
      ⟨goesOn,
        ⟨candidateIdx, probing, result⟩ |
          ⟨idle, ⟨begun, result⟩ | ⟨still, result⟩⟩⟩
  · -- nothing after a panic
    have none' : driver.readings hardware nowMs = [] := by
      simp [readings, panicked]
    rw [result, none']
    refine
      ⟨fun goesOn => ?_, List.suffix_refl _, fun _ idle => ⟨rfl, idle⟩,
        fun probing => ⟨rfl, .inr probing⟩⟩
    exact absurd (goesOn.symm.trans panicked) Bool.false_ne_true
  · -- a slice of probing
    have none' : driver.readings hardware nowMs = [] := by
      simp [readings, probing]
    have begun : driver.startsReprobe nowMs = false := by
      simp [startsReprobe, probing]
    rw [result, none', begun]
    refine
      ⟨fun goesOn => ?_, driver.serviceReprobe_fifo hardware nowMs, ?_,
        fun _ => ⟨rfl, .inr (Option.isSome_of_eq_some probing)⟩⟩
    · rcases driver.serviceReprobe_reader hardware nowMs with
        panicked | same
      · exact absurd (goesOn.symm.trans panicked) Bool.false_ne_true
      · exact same
    · intro _ idle
      exact (Option.some_ne_none _ (probing.symm.trans idle)).elim
  · -- probing starts
    have none' : driver.readings hardware nowMs = [] := by
      simp [readings, begun]
    have starts :
        driver.startsReprobe nowMs = driver.reprobeDue nowMs := by
      simp [startsReprobe, goesOn, idle]
    rw [result, none', starts]
    have due : driver.reprobeDue nowMs = true := by
      by_contra notDue
      rw [(quiet (Bool.eq_false_of_not_eq_true notDue)).2, idle] at begun
      cases begun
    refine ⟨fun _ => reader, fifo, fun notDue _ => ?_, fun _ => ⟨rfl, .inl due⟩⟩
    exact absurd (notDue.symm.trans due) Bool.false_ne_true
  · -- the windows
    have starts :
        driver.startsReprobe nowMs = driver.reprobeDue nowMs := by
      simp [startsReprobe, goesOn, idle]
    obtain ⟨read, left⟩ :=
      (driver.maybeReprobeStaleCachedBaud hardware nowMs).dutyCycle_reads
        hardware nowMs
    have isReadings :
        driver.readings hardware nowMs =
          if (driver.maybeReprobeStaleCachedBaud hardware nowMs).active then
            ((driver.maybeReprobeStaleCachedBaud hardware
                    nowMs).uart.readUpTo hardware 256).1.map
              fun b =>
                (({ nowMs := nowMs, setsClock := hardware.setsClock }, b) :
                  GpsReading)
          else [] := by
      unfold readings
      simp only [goesOn, idle, still, Option.isSome_none, Bool.or_false,
        Bool.false_or]
      cases
          (driver.maybeReprobeStaleCachedBaud hardware nowMs).active <;>
        rfl
    have inOrder :
        (driver.readings hardware nowMs).map Prod.snd ++
            ((driver.maybeReprobeStaleCachedBaud hardware nowMs).dutyCycle
                hardware nowMs).uart.fifo =
          (driver.maybeReprobeStaleCachedBaud hardware nowMs).uart.fifo := by
      rw [isReadings, left]
      cases (driver.maybeReprobeStaleCachedBaud hardware nowMs).active with
      | true =>
          simp only [if_true, List.map_map]
          rw [List.map_congr_left (fun b _ => Function.comp_apply),
            List.map_id']
          exact readUpTo_append _ hardware 256
      | false => rfl
    rw [result, starts]
    have noProbing :
        ((driver.maybeReprobeStaleCachedBaud hardware nowMs).dutyCycle
            hardware nowMs).reprobeCandidateIdx =
          none := by
      rw [dutyCycle_probing]
      exact still
    refine
      ⟨fun _ => ?_, inOrder ▸ fifo, fun notDue _ => ?_, fun probing => ?_⟩
    · rw [read, reader, isReadings]
    · rw [inOrder, (quiet notDue).1]
      exact ⟨rfl, noProbing⟩
    · rw [noProbing] at probing
      cases probing

end GpsDriver

/-- Bytes arrive, or the driver is called. -/
inductive GpsEvent where
  | receive (bytes : List UInt8)
  | poll (hardware : GpsHardware) (nowMs : Nat)

/-- The bytes that arrive with an event. -/
def GpsEvent.bytes : GpsEvent → List UInt8
  | .receive bytes => bytes
  | .poll _ _ => []

/-- A run: the driver, the bytes that arrived, those read as text since the rate was
last probed for, how often it was probed for, and when the window was opened and
closed. -/
structure GpsRun where
  driver : GpsDriver
  received : List UInt8
  drained : List GpsReading
  reprobes : Nat
  windows : List (Bool × Nat)

namespace GpsRun

/-- A run of a new driver. -/
def start
    (boot : GpsDriver.Boot) :
    GpsRun :=
  { driver := .new boot
    received := boot.waiting
    drained := []
    reprobes := 0
    windows := [(true, boot.nowMs)] }

/-- What an event does. -/
def step
    (run : GpsRun) :
    GpsEvent → GpsRun
  | .receive bytes =>
      { run with
        driver :=
          { run.driver with
            uart :=
              { run.driver.uart with
                fifo := run.driver.uart.fifo ++ bytes } }
        received := run.received ++ bytes }
  | .poll hardware nowMs =>
      { driver := run.driver.poll hardware nowMs
        received := run.received
        drained :=
          (if run.driver.startsReprobe nowMs then [] else run.drained) ++
            run.driver.readings hardware nowMs
        reprobes :=
          run.reprobes + (run.driver.startsReprobe nowMs).toNat
        windows :=
          run.windows ++
            if (run.driver.poll hardware nowMs).active = run.driver.active
            then []
            else [((run.driver.poll hardware nowMs).active, nowMs)] }

/-- What the driver knows was read, from an end of what arrived without gaps; from all
of it if the rate was not probed for again. -/
structure Reads (run : GpsRun) : Prop where
  reader :
    run.driver.panicked = false →
      run.driver.toGpsReader =
        run.drained.foldl GpsReader.read .fresh
  inOrder :
    run.drained.map Prod.snd ++ run.driver.uart.fifo <:+ run.received
  probing :
    run.driver.reprobeCandidateIdx.isSome = true → run.drained = []
  gapless :
    run.reprobes = 0 →
      run.drained.map Prod.snd ++ run.driver.uart.fifo = run.received ∧
        run.driver.reprobeCandidateIdx = none

theorem reads_start
    (boot : GpsDriver.Boot) :
    (start boot).Reads :=
  { reader := fun _ => rfl
    inOrder := List.suffix_refl _
    probing := fun _ => rfl
    gapless := fun _ => ⟨rfl, rfl⟩ }

/-- Without a sign of life nothing is known. -/
theorem nothing_of_silent
    {readings : List GpsReading}
    (goesOn : (readings.foldl GpsReader.read .fresh).panicked = false)
    (silent :
      (readings.foldl GpsReader.read .fresh).lastNmeaSeenUptimeMs =
        none) :
    (readings.foldl GpsReader.read .fresh).toGpsHeard = .nothing := by
  obtain ⟨picture, -⟩ := GpsReader.foldl_read_picture goesOn
  rw [picture] at silent ⊢
  exact pictureOf_silent silent

/-- A call keeps what is known to be what was read. -/
theorem Reads.poll
    {run : GpsRun}
    (reads : run.Reads)
    (hardware : GpsHardware)
    (nowMs : Nat) :
    (run.step (.poll hardware nowMs)).Reads := by
  obtain ⟨reader, fifo, quiet, probing⟩ :=
    run.driver.poll_reads hardware nowMs
  have before :
      (run.driver.poll hardware nowMs).panicked = false →
        run.driver.panicked = false := by
    intro goesOn
    by_contra isPanicked
    rcases run.driver.poll_cases hardware nowMs with
      ⟨panicked, result⟩ | ⟨goesOn, -⟩
    · rw [result] at goesOn
      exact isPanicked goesOn
    · exact isPanicked goesOn
  constructor
  case reader =>
    intro goesOn
    change (run.driver.poll hardware nowMs).toGpsReader = _
    rw [reader goesOn]
    change
      _ =
        ((if run.driver.startsReprobe nowMs then [] else run.drained) ++
            run.driver.readings hardware nowMs).foldl
          GpsReader.read .fresh
    rw [List.foldl_append]
    congr 1
    have known := reads.reader (before goesOn)
    split
    · next starts =>
        -- what was read before probing was noise
        have silent :
            run.driver.toGpsReader.lastNmeaSeenUptimeMs = none := by
          simp only [GpsDriver.startsReprobe, GpsDriver.reprobeDue,
            Bool.and_eq_true, Option.isNone_iff_eq_none] at starts
          exact starts.2.1.2
        have noPanic := before goesOn
        rw [known] at silent
        have nothing :=
          nothing_of_silent
            ((congrArg (·.panicked) known).symm.trans noPanic) silent
        rw [known, nothing]
        rfl
    · exact known
  case inOrder =>
    change
      ((if run.driver.startsReprobe nowMs then [] else run.drained) ++
              run.driver.readings hardware nowMs).map Prod.snd ++
            (run.driver.poll hardware nowMs).uart.fifo <:+
          run.received
    have from' := reads.inOrder
    rw [List.map_append, List.append_assoc]
    split
    · exact fifo.trans ((List.suffix_append _ _).trans from')
    · next notStarts =>
        cases isProbing : run.driver.reprobeCandidateIdx with
        | some candidateIdx =>
            rw [reads.probing (Option.isSome_of_eq_some isProbing)]
            exact fifo.trans ((List.suffix_append _ _).trans from')
        | none =>
            rw [(quiet (Bool.eq_false_of_not_eq_true notStarts)
              isProbing).1]
            exact from'
  case probing =>
    intro isProbing
    obtain ⟨noReadings, starts | already⟩ := probing isProbing
    · change
        (if run.driver.startsReprobe nowMs then [] else run.drained) ++
            run.driver.readings hardware nowMs =
          []
      rw [if_pos starts, noReadings]
      rfl
    · change
        (if run.driver.startsReprobe nowMs then [] else run.drained) ++
            run.driver.readings hardware nowMs =
          []
      rw [reads.probing already, noReadings, ite_self]
      rfl
  case gapless =>
    intro never
    obtain ⟨noReprobe, notStarts⟩ := Nat.add_eq_zero_iff.mp never
    have notStarts : run.driver.startsReprobe nowMs = false := by
      cases starts : run.driver.startsReprobe nowMs with
      | false => rfl
      | true =>
          rw [starts] at notStarts
          cases notStarts
    obtain ⟨allRead, idle⟩ := reads.gapless noReprobe
    obtain ⟨allLeft, stillIdle⟩ := quiet notStarts idle
    refine ⟨?_, stillIdle⟩
    change
      ((if run.driver.startsReprobe nowMs then [] else run.drained) ++
              run.driver.readings hardware nowMs).map Prod.snd ++
            (run.driver.poll hardware nowMs).uart.fifo =
        run.received
    rw [notStarts, if_neg Bool.false_ne_true, List.map_append,
      List.append_assoc, allLeft, allRead]

theorem Reads.receive
    {run : GpsRun}
    (reads : run.Reads)
    (bytes : List UInt8) :
    (run.step (.receive bytes)).Reads := by
  constructor
  case reader => exact reads.reader
  case inOrder =>
    obtain ⟨dropped, isDropped⟩ := reads.inOrder
    refine ⟨dropped, ?_⟩
    change
      dropped ++
          (run.drained.map Prod.snd ++ (run.driver.uart.fifo ++ bytes)) =
        run.received ++ bytes
    rw [← isDropped]
    simp only [List.append_assoc]
  case probing => exact reads.probing
  case gapless =>
    intro never
    obtain ⟨allRead, idle⟩ := reads.gapless never
    refine ⟨?_, idle⟩
    change
      run.drained.map Prod.snd ++ (run.driver.uart.fifo ++ bytes) =
        run.received ++ bytes
    rw [← allRead, List.append_assoc]

/-- In every run what is known was read. -/
theorem reads_run
    (boot : GpsDriver.Boot)
    (events : List GpsEvent) :
    (Transition.run step (start boot) events).Reads := by
  refine
    (Transition.always_of_invariant ?_ (reads_start boot) events).last
  rintro run (⟨bytes⟩ | ⟨hardware, nowMs⟩) reads
  · exact reads.receive bytes
  · exact reads.poll hardware nowMs

/-- The bytes that arrived. -/
theorem received_run
    (run : GpsRun)
    (events : List GpsEvent) :
    (Transition.run step run events).received =
      run.received ++ events.flatMap GpsEvent.bytes := by
  induction events generalizing run with
  | nil => exact (List.append_nil _).symm
  | cons event rest inductionHypothesis =>
      rw [Transition.run_cons, inductionHypothesis, List.flatMap_cons]
      cases event with
      | receive bytes => exact List.append_assoc _ _ _
      | poll hardware nowMs => rfl

/-- In every run without a panic the driver knows, and shows, what the complete lines
say that were read, without gaps, from an end of the bytes that arrived, and from all
of them if the rate was not probed for again. -/
theorem gps_knows_what_was_read
    (boot : GpsDriver.Boot)
    (events : List GpsEvent)
    (goesOn :
      (Transition.run step (start boot) events).driver.panicked =
        false) :
    let run := Transition.run step (start boot) events
    run.driver.toGpsHeard = pictureOf (linesOf run.drained) ∧
      (∀ nowMs,
        run.driver.status nowMs = statusOf nowMs (linesOf run.drained)) ∧
      run.driver.line.elements = unfinishedOf run.drained ∧
      ∃ gone,
        gone ++ run.drained.map Prod.snd ++ run.driver.uart.fifo =
            boot.waiting ++ events.flatMap GpsEvent.bytes ∧
          (run.reprobes = 0 → gone = []) := by
  have reads := reads_run boot events
  have known := reads.reader goesOn
  have received := received_run (start boot) events
  obtain ⟨heard, rest⟩ :=
    GpsReader.foldl_read_picture
      ((congrArg (·.panicked) known).symm.trans goesOn)
  have knows := (congrArg GpsReader.toGpsHeard known).trans heard
  refine
    ⟨knows, status_of_pictureOf knows,
      (congrArg (·.line.elements) known).trans rest, ?_⟩
  obtain ⟨gone, isGone⟩ := reads.inOrder
  refine ⟨gone, ?_, fun never => ?_⟩
  · rw [List.append_assoc, isGone, received]
    rfl
  · have all := (reads.gapless never).1
    rw [all] at isGone
    exact List.append_left_eq_self.mp isGone

/-- A port at which everything works. -/
def willingHardware : GpsHardware :=
  { reads := 256
    switches := fun _ => true
    restores := true
    clears := true
    saves := true
    setsClock := fun _ => true }

/-- A boot with the first rate in flash. -/
def quietBoot : GpsDriver.Boot :=
  { cached := some gpsBaud
    takesCached := true
    samples := fun _ => []
    switches := fun _ => true
    restores := true
    saves := true
    waiting := []
    nowMs := 0 }

/-- A date arrives in two portions. -/
def datedRun : List GpsEvent :=
  [.receive (ascii "$GPRMC,000000,V,"), .poll willingHardware 10,
    .receive (ascii ",,,,,,010124*00\r\n$"), .poll willingHardware 20]

/-- The date sets the clock to the start of 2024. -/
theorem gps_knows_what_was_read_dated :
    (pictureOf
          (linesOf
            (Transition.run step (start quietBoot)
              datedRun).drained)).systemClock =
        some 1704067200 ∧
      (Transition.run step (start quietBoot) datedRun).driver.toGpsHeard =
        pictureOf
          (linesOf
            (Transition.run step (start quietBoot) datedRun).drained) := by
  refine ⟨?_, (gps_knows_what_was_read quietBoot datedRun ?_).1⟩ <;>
    decide +kernel

end GpsRun

end MeshCadet
