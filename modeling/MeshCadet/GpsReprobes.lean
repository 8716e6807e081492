import MeshCadet.GpsWindows

namespace MeshCadet

/-!
# Probing for the rate of the GPS receiver

While a rate is probed the port is set to it, and a rate is kept in flash only after a
sentence with a right checksum was read at it.  Whatever is heard, the probing is over
after a window for each candidate, however the calls cut the windows, and the port is
then at the rate the driver goes by, if it could be set back.
-/

open NmeaDetection

namespace GpsDriver

/-- The rates, the probing and its confirmation after reading and the windows. -/
theorem dutyCycle_rates
    (driver : GpsDriver)
    (hardware : GpsHardware)
    (nowMs : Nat) :
    (driver.dutyCycle hardware nowMs).uart.baud = driver.uart.baud ∧
      (driver.dutyCycle hardware nowMs).detectedBaud =
        driver.detectedBaud ∧
      (driver.dutyCycle hardware nowMs).baudConfirmed =
        driver.baudConfirmed ∧
      (driver.dutyCycle hardware nowMs).cachedBaud = driver.cachedBaud := by
  rcases driver.dutyCycle_cases hardware nowMs with
    ⟨-, result | ⟨-, -, result⟩⟩ | ⟨-, result | ⟨-, result⟩⟩ <;>
  · rw [result]
    exact ⟨rfl, rfl, rfl, rfl⟩

/-- The bytes a call reads to probe the rate. -/
def probeReadings
    (driver : GpsDriver)
    (hardware : GpsHardware) :
    List UInt8 :=
  if driver.panicked || driver.reprobeCandidateIdx.isNone then
    []
  else
    (driver.uart.readUpTo hardware
      (256 - driver.reprobeBuf.elements.length)).1

/-- A rate is kept only after a sentence was read at the rate that is probed. -/
theorem cachedBaud_poll
    {driver : GpsDriver}
    {hardware : GpsHardware}
    {nowMs : Nat}
    (candidates :
      ∀ candidateIdx,
        driver.reprobeCandidateIdx = some candidateIdx →
          gpsBaudCandidates[candidateIdx]? = some driver.uart.baud)
    (changed :
      (driver.poll hardware nowMs).cachedBaud ≠ driver.cachedBaud) :
    driver.reprobeCandidateIdx.isSome = true ∧
      (driver.poll hardware nowMs).cachedBaud = some driver.uart.baud ∧
      containsChecksumValidNmea
          (driver.reprobeBuf.elements ++ driver.probeReadings hardware) =
        true := by
  have begins :
      ∀ (before : GpsDriver) (candidateIdx : Nat),
        (before.beginReprobeWindow hardware nowMs
            candidateIdx).cachedBaud =
          before.cachedBaud := by
    intro before candidateIdx
    rcases
        before.beginReprobeWindow_cases hardware nowMs candidateIdx with
      ⟨next, baud, -, -, result⟩ | result <;>
    · rw [result]
      rfl
  have checks :
      (driver.maybeReprobeStaleCachedBaud hardware nowMs).cachedBaud =
        driver.cachedBaud := by
    rw [maybeReprobe_eq]
    split
    · exact begins _ 0
    · rfl
  rcases driver.poll_cases hardware nowMs with
    ⟨-, result⟩ |
      ⟨goesOn,
        ⟨candidateIdx, probing, result⟩ | ⟨-, ⟨-, result⟩ | ⟨-, result⟩⟩⟩
  · rw [result] at changed
    exact absurd rfl changed
  · have reads :
        (driver.sampleReprobe hardware).reprobeBuf.elements =
          driver.reprobeBuf.elements ++ driver.probeReadings hardware := by
      simp [probeReadings, goesOn, probing, sampleReprobe]
    rw [result] at changed ⊢
    rcases
        serviceReprobe_cases probing (candidates candidateIdx probing)
          hardware nowMs with
      ⟨-, served⟩ | ⟨found, served⟩ | ⟨-, served⟩
    · rw [served] at changed
      exact absurd rfl changed
    · rw [served] at changed ⊢
      refine ⟨Option.isSome_of_eq_some probing, ?_, reads ▸ found⟩
      simp only [lockReprobe] at changed ⊢
      split
      · rfl
      · next notSaved =>
          rw [if_neg notSaved] at changed
          exact absurd rfl changed
    · rw [served, begins] at changed
      exact absurd rfl changed
  · rw [result] at changed
    exact absurd checks changed
  · rw [result, (dutyCycle_rates _ hardware nowMs).2.2.2] at changed
    exact absurd checks changed

/-- While a rate is probed, the bytes for it are the last ones, read at the rate of the
port. -/
def SampledAtRate
    (driver : GpsDriver)
    (probed : List (Nat × UInt8)) :
    Prop :=
  ∀ candidateIdx,
    driver.reprobeCandidateIdx = some candidateIdx →
      driver.reprobeBuf.elements.map (Prod.mk driver.uart.baud) <:+ probed

/-- A new window has no bytes yet. -/
theorem sampledAtRate_beginReprobeWindow
    (driver : GpsDriver)
    (hardware : GpsHardware)
    (nowMs candidateIdx : Nat)
    (probed : List (Nat × UInt8)) :
    (driver.beginReprobeWindow hardware nowMs candidateIdx).SampledAtRate
      probed := by
  intro other isOther
  rcases
      driver.beginReprobeWindow_cases hardware nowMs candidateIdx with
    ⟨next, baud, -, -, result⟩ | result
  · rw [result]
    exact List.nil_suffix
  · rw [result] at isOther
    exact (Option.some_ne_none _ isOther.symm).elim

/-- A call adds what it reads to the bytes for the rate. -/
theorem SampledAtRate.poll
    {driver : GpsDriver}
    {probed : List (Nat × UInt8)}
    (sampled : driver.SampledAtRate probed)
    (candidates :
      ∀ candidateIdx,
        driver.reprobeCandidateIdx = some candidateIdx →
          gpsBaudCandidates[candidateIdx]? = some driver.uart.baud)
    (hardware : GpsHardware)
    (nowMs : Nat) :
    (driver.poll hardware nowMs).SampledAtRate
      (probed ++
        (driver.probeReadings hardware).map
          (Prod.mk driver.uart.baud)) := by
  rcases driver.poll_cases hardware nowMs with
    ⟨panicked, result⟩ |
      ⟨goesOn,
        ⟨candidateIdx, probing, result⟩ |
          ⟨idle, ⟨begun, result⟩ | ⟨still, result⟩⟩⟩
  · rw [result]
    simpa [probeReadings, panicked] using sampled
  · rw [result]
    rcases
        serviceReprobe_cases probing (candidates candidateIdx probing)
          hardware nowMs with
      ⟨-, served⟩ | ⟨-, served⟩ | ⟨-, served⟩
    · rw [served]
      intro other isOther
      obtain ⟨earlier, isProbed⟩ := sampled other isOther
      refine ⟨earlier, ?_⟩
      rw [← isProbed, List.append_assoc, ← List.map_append]
      simp [probeReadings, goesOn, probing, sampleReprobe,
        GpsUart.readUpTo]
    · rw [served]
      exact fun _ isOther => (Option.some_ne_none _ isOther.symm).elim
    · rw [served]
      exact sampledAtRate_beginReprobeWindow _ hardware nowMs _ _
  · rw [result, maybeReprobe_eq]
    split
    · exact sampledAtRate_beginReprobeWindow _ hardware nowMs 0 _
    · intro other isOther
      exact (Option.some_ne_none _ (isOther.symm.trans idle)).elim
  · rw [result]
    intro other isOther
    rw [dutyCycle_probing, still] at isOther
    cases isOther

/-- The rate of the port, while it is probed for and otherwise. -/
structure Rates (driver : GpsDriver) : Prop where
  probing :
    ∀ candidateIdx,
      driver.reprobeCandidateIdx = some candidateIdx →
        gpsBaudCandidates[candidateIdx]? = some driver.uart.baud
  idle :
    driver.reprobeCandidateIdx = none →
      driver.uart.baud = driver.detectedBaud

/-- A port that can be set back keeps to the rates of a new driver. -/
theorem rates_new
    {boot : Boot}
    (restores : boot.restores = true) :
    (new boot).Rates := by
  have probed :
      (fullProbeAndPersist boot).2.1 = (fullProbeAndPersist boot).1 := by
    unfold fullProbeAndPersist
    split
    · rfl
    · rw [restores]
      rfl
  have same : (bootBaud boot).1.2.1 = (bootBaud boot).1.1 := by
    unfold bootBaud
    split
    · split
      · split
        · rfl
        · exact probed
      · next isFirst =>
          rw [not_not] at isFirst
          exact isFirst.symm
    · exact probed
  exact
    { probing := fun _ isProbing =>
        (Option.some_ne_none _ isProbing.symm).elim
      idle := fun _ => same }

/-- Probing that goes on or ends keeps to the rates. -/
theorem rates_beginReprobeWindow
    (driver : GpsDriver)
    {hardware : GpsHardware}
    (restores : hardware.restores = true)
    (nowMs candidateIdx : Nat) :
    (driver.beginReprobeWindow hardware nowMs candidateIdx).Rates := by
  rcases
      driver.beginReprobeWindow_cases hardware nowMs candidateIdx with
    ⟨next, baud, -, isBaud, result⟩ | result
  · have atBaud :
        (driver.probeCandidate hardware nowMs next baud).uart.baud =
          baud := by
      simp only [probeCandidate, GpsUart.clearRx]
      split <;> rfl
    rw [result]
    constructor
    case probing =>
      intro other isOther
      rw [atBaud]
      cases isOther
      exact isBaud
    case idle =>
      exact fun isNone => (Option.some_ne_none _ isNone).elim
  · rw [result]
    constructor
    case probing =>
      exact fun _ isOther => (Option.some_ne_none _ isOther.symm).elim
    case idle =>
      intro _
      simp only [concludeReprobeNoMatch, GpsUart.restore, restores, if_true]

/-- A call keeps to the rates. -/
theorem Rates.poll
    {driver : GpsDriver}
    (rates : driver.Rates)
    {hardware : GpsHardware}
    (restores : hardware.restores = true)
    (nowMs : Nat) :
    (driver.poll hardware nowMs).Rates := by
  have checked :
      (driver.maybeReprobeStaleCachedBaud hardware nowMs).Rates := by
    rw [maybeReprobe_eq]
    split
    · exact rates_beginReprobeWindow _ restores nowMs 0
    · exact { probing := rates.probing, idle := rates.idle }
  rcases driver.poll_cases hardware nowMs with
    ⟨-, result⟩ |
      ⟨-, ⟨candidateIdx, probing, result⟩ | ⟨-, ⟨-, result⟩ | ⟨-, result⟩⟩⟩
  · rw [result]
    exact rates
  · have atCandidate := rates.probing candidateIdx probing
    rw [result]
    rcases serviceReprobe_cases probing atCandidate hardware nowMs with
      ⟨-, served⟩ | ⟨-, served⟩ | ⟨-, served⟩
    · rw [served]
      exact { probing := rates.probing, idle := rates.idle }
    · rw [served]
      constructor
      case probing =>
        exact fun _ isOther => (Option.some_ne_none _ isOther.symm).elim
      case idle =>
        intro _
        simp only [lockReprobe]
        split <;> rfl
    · rw [served]
      exact rates_beginReprobeWindow _ restores nowMs (candidateIdx + 1)
  · rw [result]
    exact checked
  · obtain ⟨baud, detected, -, -⟩ :=
      (driver.maybeReprobeStaleCachedBaud hardware nowMs).dutyCycle_rates
        hardware nowMs
    rw [result]
    constructor
    case probing =>
      rw [dutyCycle_probing, baud]
      exact checked.probing
    case idle =>
      rw [dutyCycle_probing, baud, detected]
      exact checked.idle

/-- The bytes read to probe some candidates when the driver is made, each with the rate
it was read at. -/
def bootProbed
    (boot : Boot) :
    List Nat → List (Nat × UInt8)
  | [] => []
  | baud :: rest =>
      let sample := (boot.samples baud).take 256
      if boot.switches baud then
        sample.map (Prod.mk baud) ++
          if containsChecksumValidNmea sample then []
          else bootProbed boot rest
      else
        bootProbed boot rest

/-- Among bytes with the rates they were read at, some in a row at one rate hold a
sentence with a right checksum. -/
def ValidatedAt
    (probed : List (Nat × UInt8))
    (baud : Nat) :
    Prop :=
  ∃ sample,
    sample.map (Prod.mk baud) <:+: probed ∧
      containsChecksumValidNmea sample = true

/-- Later bytes leave a rate validated. -/
theorem ValidatedAt.append
    {probed : List (Nat × UInt8)}
    {baud : Nat}
    (validated : ValidatedAt probed baud)
    (later : List (Nat × UInt8)) :
    ValidatedAt (probed ++ later) baud := by
  obtain ⟨sample, isPart, valid⟩ := validated
  exact ⟨sample, isPart.trans (List.prefix_append _ _).isInfix, valid⟩

/-- A rate found among some candidates was validated. -/
theorem validatedAt_of_probeCandidates
    {boot : Boot}
    {candidates : List Nat}
    {baud : Nat}
    (found : probeCandidates boot candidates = some baud) :
    baud ∈ candidates ∧
      ValidatedAt (bootProbed boot candidates) baud := by
  induction candidates with
  | nil =>
      cases found
  | cons first rest inductionHypothesis =>
      cases takes : boot.switches first with
      | false =>
          rw [probeCandidates, List.find?_cons_of_neg (by simp [takes])]
            at found
          obtain ⟨member, validated⟩ := inductionHypothesis found
          refine ⟨List.mem_cons_of_mem _ member, ?_⟩
          simpa [bootProbed, takes] using validated
      | true =>
          cases valid :
              containsChecksumValidNmea
                ((boot.samples first).take 256) with
          | true =>
              rw [probeCandidates,
                List.find?_cons_of_pos (by simp [takes, valid])] at found
              cases found
              refine ⟨List.mem_cons_self, _, ?_, valid⟩
              rw [bootProbed, if_pos takes]
              exact (List.prefix_append _ _).isInfix
          | false =>
              rw [probeCandidates,
                List.find?_cons_of_neg (by simp [valid])] at found
              obtain ⟨member, sample, isPart, isValid⟩ :=
                inductionHypothesis found
              refine ⟨List.mem_cons_of_mem _ member, sample, ?_, isValid⟩
              simp only [bootProbed, takes, valid, if_true,
                Bool.false_eq_true, if_false]
              exact isPart.trans (List.suffix_append _ _).isInfix

/-- The rate a new driver keeps is the one in flash, or it was validated. -/
theorem cachedBaud_new
    (boot : Boot) :
    (new boot).cachedBaud = boot.cached ∨
      ∃ baud ∈ gpsBaudCandidates,
        (new boot).cachedBaud = some baud ∧
          (bootBaud boot).2 = true ∧
          ValidatedAt (bootProbed boot gpsBaudCandidates) baud := by
  have probed :
      (fullProbeAndPersist boot).2.2 = boot.cached ∨
        ∃ baud ∈ gpsBaudCandidates,
          (fullProbeAndPersist boot).2.2 = some baud ∧
            ValidatedAt (bootProbed boot gpsBaudCandidates) baud := by
    unfold fullProbeAndPersist
    split
    · next baud found =>
        obtain ⟨member, validated⟩ :=
          validatedAt_of_probeCandidates found
        cases boot.saves with
        | true => exact .inr ⟨baud, member, rfl, validated⟩
        | false => exact .inl rfl
    · exact .inl rfl
  have kept : (new boot).cachedBaud = (bootBaud boot).1.2.2 := rfl
  rw [kept]
  unfold bootBaud
  split
  · split
    · split
      · exact .inl rfl
      · exact probed.imp_right fun ⟨baud, member, isBaud, validated⟩ =>
          ⟨baud, member, isBaud, rfl, validated⟩
    · exact .inl rfl
  · exact probed.imp_right fun ⟨baud, member, isBaud, validated⟩ =>
      ⟨baud, member, isBaud, rfl, validated⟩

/-- Probing is over, at a rate it may end at, or it is at a window that began in time
and is not over. -/
def ProbedBy
    (driver : GpsDriver)
    (beganMs periodMs lastMs : Nat) :
    Prop :=
  (driver.reprobeCandidateIdx = none ∧ driver.baudConfirmed = true ∧
      driver.detectedBaud ∈ gpsBaudCandidates) ∨
    ∃ candidateIdx candidate,
      driver.reprobeCandidateIdx = some candidateIdx ∧
        gpsBaudCandidates[candidateIdx]? = some candidate ∧
        driver.panicked = false ∧
        lastMs < driver.reprobeWindowStartMs + baudProbeWindowMs ∧
        driver.reprobeWindowStartMs ≤
          beganMs + candidateIdx * (baudProbeWindowMs + periodMs)

/-- The next window begins in time, or probing is over. -/
theorem probedBy_beginReprobeWindow
    {driver : GpsDriver}
    (goesOn : driver.panicked = false)
    (hardware : GpsHardware)
    {nowMs candidateIdx beganMs periodMs : Nat}
    (inTime :
      nowMs ≤ beganMs + candidateIdx * (baudProbeWindowMs + periodMs)) :
    (driver.beginReprobeWindow hardware nowMs candidateIdx).ProbedBy beganMs
      periodMs nowMs := by
  rcases
      driver.beginReprobeWindow_cases hardware nowMs candidateIdx with
    ⟨next, baud, isNext, isBaud, result⟩ | result
  · rw [result]
    refine .inr ⟨next, baud, rfl, isBaud, goesOn, ?_, ?_⟩
    · exact Nat.lt_add_of_pos_right (by decide)
    · refine Nat.le_trans inTime (Nat.add_le_add_left ?_ beganMs)
      exact Nat.mul_le_mul_right _ isNext
  · rw [result]
    exact .inl ⟨rfl, rfl, List.mem_cons_self⟩

/-- Probing that is over stays over. -/
theorem ended_poll
    {driver : GpsDriver}
    (idle : driver.reprobeCandidateIdx = none)
    (confirmed : driver.baudConfirmed = true)
    (atCandidate : driver.detectedBaud ∈ gpsBaudCandidates)
    (hardware : GpsHardware)
    (nowMs : Nat) :
    (driver.poll hardware nowMs).reprobeCandidateIdx = none ∧
      (driver.poll hardware nowMs).baudConfirmed = true ∧
      (driver.poll hardware nowMs).detectedBaud ∈ gpsBaudCandidates := by
  have notDue : driver.reprobeDue nowMs = false := by
    simp [reprobeDue, confirmed]
  have checked := driver.maybeReprobe_eq hardware nowMs
  rw [notDue, if_neg Bool.false_ne_true, confirmed, Bool.true_or] at checked
  rcases driver.poll_cases hardware nowMs with
    ⟨-, result⟩ |
      ⟨-, ⟨candidateIdx, probing, -⟩ | ⟨-, ⟨begun, -⟩ | ⟨-, result⟩⟩⟩
  · rw [result]
    exact ⟨idle, confirmed, atCandidate⟩
  · exact (Option.some_ne_none _ (probing.symm.trans idle)).elim
  · rw [checked, idle] at begun
    cases begun
  · obtain ⟨-, detected, still, -⟩ :=
      (driver.maybeReprobeStaleCachedBaud hardware nowMs).dutyCycle_rates
        hardware nowMs
    rw [result, dutyCycle_probing, detected, still, checked]
    exact ⟨idle, rfl, atCandidate⟩

/-- A call in time goes on with probing or ends it. -/
theorem ProbedBy.poll
    {driver : GpsDriver}
    {beganMs periodMs lastMs nowMs : Nat}
    (probed : driver.ProbedBy beganMs periodMs lastMs)
    (hardware : GpsHardware)
    (short : baudProbeWindowMs + periodMs < 2 ^ 32)
    (close : nowMs ≤ lastMs + periodMs) :
    (driver.poll hardware nowMs).ProbedBy beganMs periodMs nowMs := by
  rcases probed with
    ⟨idle, confirmed, atCandidate⟩ |
      ⟨candidateIdx, candidate, probing, isCandidate, goesOn, early, inTime⟩
  · exact .inl (ended_poll idle confirmed atCandidate hardware nowMs)
  · have result :
        driver.poll hardware nowMs =
          driver.serviceReprobe hardware nowMs := by
      rcases driver.poll_cases hardware nowMs with
        ⟨panicked, -⟩ | ⟨-, ⟨_, -, result⟩ | ⟨idle, -⟩⟩
      · exact absurd (goesOn.symm.trans panicked) Bool.false_ne_true
      · exact result
      · exact (Option.some_ne_none _ (probing.symm.trans idle)).elim
    have elapsed :
        (nowMs - driver.reprobeWindowStartMs) % 2 ^ 32 =
          nowMs - driver.reprobeWindowStartMs := by
      refine Nat.mod_eq_of_lt ?_
      omega
    rw [result]
    rcases serviceReprobe_cases probing isCandidate hardware nowMs with
      ⟨within, served⟩ | ⟨-, served⟩ | ⟨-, served⟩
    · rw [served]
      refine
        .inr
          ⟨candidateIdx, candidate, probing, isCandidate, goesOn, ?_,
            inTime⟩
      rw [elapsed] at within
      change nowMs < driver.reprobeWindowStartMs + baudProbeWindowMs
      omega
    · rw [served]
      exact .inl ⟨rfl, rfl, List.mem_of_getElem? isCandidate⟩
    · rw [served]
      refine
        @probedBy_beginReprobeWindow (driver.sampleReprobe hardware) goesOn
          hardware nowMs (candidateIdx + 1) beganMs periodMs ?_
      rw [Nat.add_mul, Nat.one_mul]
      omega

end GpsDriver

/-- A run, with the bytes that were read to probe the rate, each with the rate the port
had. -/
structure GpsProbing extends GpsRun where
  probed : List (Nat × UInt8)

namespace GpsProbing

/-- A run of a new driver, with what was read if the rate was probed for. -/
def start
    (boot : GpsDriver.Boot) :
    GpsProbing :=
  { toGpsRun := .start boot
    probed :=
      if (GpsDriver.bootBaud boot).2 then
        GpsDriver.bootProbed boot gpsBaudCandidates
      else
        [] }

/-- What an event does. -/
def step
    (run : GpsProbing)
    (event : GpsEvent) :
    GpsProbing :=
  { toGpsRun := run.toGpsRun.step event
    probed :=
      match event with
      | .receive _ => run.probed
      | .poll hardware _ =>
          run.probed ++
            (run.driver.probeReadings hardware).map
              (Prod.mk run.driver.uart.baud) }

/-- The rate in flash is the one that was there, or one at which a sentence with a right
checksum was read. -/
def Keeps
    (boot : GpsDriver.Boot)
    (run : GpsProbing) :
    Prop :=
  run.driver.cachedBaud = boot.cached ∨
    ∃ baud ∈ gpsBaudCandidates,
      run.driver.cachedBaud = some baud ∧
        GpsDriver.ValidatedAt run.probed baud

/-- The rates of the port, the bytes for them, and the rate that is kept. -/
structure RatesKept
    (boot : GpsDriver.Boot)
    (run : GpsProbing) :
    Prop where
  rates : run.driver.Rates
  sampled : run.driver.SampledAtRate run.probed
  keeps : run.Keeps boot

theorem ratesKept_start
    {boot : GpsDriver.Boot}
    (restores : boot.restores = true) :
    (start boot).RatesKept boot := by
  refine ⟨GpsDriver.rates_new restores, ?_, ?_⟩
  · intro candidateIdx probing
    exact (Option.some_ne_none _ probing.symm).elim
  · rcases GpsDriver.cachedBaud_new boot with
      same | ⟨baud, member, isBaud, probes, validated⟩
    · exact .inl same
    · refine .inr ⟨baud, member, isBaud, ?_⟩
      rw [start, if_pos probes]
      exact validated

/-- A call keeps a rate only after a sentence was read at it. -/
theorem Keeps.poll
    {boot : GpsDriver.Boot}
    {run : GpsProbing}
    (keeps : run.Keeps boot)
    (rates : run.driver.Rates)
    (sampled : run.driver.SampledAtRate run.probed)
    (hardware : GpsHardware)
    (nowMs : Nat) :
    (run.step (.poll hardware nowMs)).Keeps boot := by
  by_cases changed :
      (run.driver.poll hardware nowMs).cachedBaud = run.driver.cachedBaud
  · rcases keeps with same | ⟨baud, member, isBaud, validated⟩
    · exact .inl (changed.trans same)
    · exact
        .inr
          ⟨baud, member, changed.trans isBaud, validated.append _⟩
  · obtain ⟨probing, isBaud, valid⟩ :=
      GpsDriver.cachedBaud_poll rates.probing changed
    obtain ⟨candidateIdx, isCandidate⟩ :=
      Option.isSome_iff_exists.mp probing
    obtain ⟨earlier, isProbed⟩ := sampled candidateIdx isCandidate
    refine
      .inr
        ⟨run.driver.uart.baud,
          List.mem_of_getElem? (rates.probing candidateIdx isCandidate),
          isBaud, _, ⟨earlier, [], ?_⟩, valid⟩
    change
      _ =
        run.probed ++
          (run.driver.probeReadings hardware).map
            (Prod.mk run.driver.uart.baud)
    rw [List.append_nil, List.map_append, ← List.append_assoc, isProbed]

/-- An event leaves the rates kept. -/
theorem RatesKept.step
    {boot : GpsDriver.Boot}
    {run : GpsProbing}
    (kept : run.RatesKept boot)
    {event : GpsEvent}
    (restores :
      ∀ hardware nowMs,
        event = .poll hardware nowMs → hardware.restores = true) :
    (run.step event).RatesKept boot := by
  cases event with
  | receive bytes =>
      exact
        ⟨{ probing := kept.rates.probing, idle := kept.rates.idle },
          kept.sampled, kept.keeps⟩
  | poll hardware nowMs =>
      exact
        ⟨kept.rates.poll (restores hardware nowMs rfl) nowMs,
          kept.sampled.poll kept.rates.probing hardware nowMs,
          kept.keeps.poll kept.rates kept.sampled hardware nowMs⟩

/-- In every run in which the port can be set back, the port is at the rate the driver
goes by, or at the one that is probed, and then the bytes it is probed with were read
at it.  The rate in flash is the one that was there, or one at which a sentence with a
right checksum was read, at the boot or later; and a call only ever changes it to the
rate of the port, at which it has read such a sentence. -/
theorem gps_rates
    {boot : GpsDriver.Boot}
    {events : List GpsEvent}
    (bootRestores : boot.restores = true)
    (restores :
      ∀ hardware nowMs,
        GpsEvent.poll hardware nowMs ∈ events →
          hardware.restores = true) :
    let run := Transition.run step (start boot) events
    run.toGpsRun = Transition.run GpsRun.step (.start boot) events ∧
      run.RatesKept boot ∧
      ∀ hardware nowMs,
        (run.driver.poll hardware nowMs).cachedBaud ≠
            run.driver.cachedBaud →
          (run.driver.poll hardware nowMs).cachedBaud =
              some run.driver.uart.baud ∧
            containsChecksumValidNmea
                (run.driver.reprobeBuf.elements ++
                  run.driver.probeReadings hardware) =
              true := by
  intro run
  have sameRun :
      run.toGpsRun = Transition.run GpsRun.step (.start boot) events :=
    @Transition.run_related _ _ step _ GpsRun.step
      (fun whole part => whole.toGpsRun = part) Eq
      (fun _ _ _ _ same alike => alike ▸ same ▸ rfl) _ _ _ _ rfl
      (List.forall₂_eq_eq_eq ▸ rfl)
  have kept : run.RatesKept boot := by
    have along :
        Transition.Along step (fun _ event => event ∈ events) (start boot)
          events :=
      Transition.along_of_forall (fun _ member => member) (start boot)
    have always :
        Transition.Always step (RatesKept boot) (start boot) events := by
      refine
        Transition.always_of_along ?_ (ratesKept_start bootRestores) along
      intro run event holds member
      refine holds.step ?_
      rintro hardware nowMs rfl
      exact restores hardware nowMs member
    exact always.last
  exact
    ⟨sameRun, kept, fun hardware nowMs changed =>
      (GpsDriver.cachedBaud_poll kept.rates.probing changed).2⟩

/-- A sentence that a receiver sends. -/
def heardSentence : List UInt8 :=
  ascii "$GPTXT,01,01,02,u-blox*0C\r\n"

/-- A boot without a rate in flash, with a receiver at the second rate. -/
def freshBoot : GpsDriver.Boot :=
  { GpsRun.quietBoot with
    cached := none
    samples := fun baud => if baud = 38400 then heardSentence else [0x5A] }

/-- The rate in flash is one at which nothing is heard. -/
def movedBoot : GpsDriver.Boot :=
  { GpsRun.quietBoot with cached := some 38400 }

/-- Five seconds of silence, in which the rate is probed for, and a sentence while the
third rate is probed. -/
def movedRun : List GpsEvent :=
  [.poll GpsRun.willingHardware 20, .poll GpsRun.willingHardware 5000,
    .poll GpsRun.willingHardware 6100, .poll GpsRun.willingHardware 7200,
    .receive heardSentence, .poll GpsRun.willingHardware 8300]

/-- The boot keeps the second rate, and the run without it the third. -/
theorem gps_rates_moved :
    (Transition.run step (start freshBoot) []).RatesKept freshBoot ∧
      (start freshBoot).driver.cachedBaud = some 38400 ∧
      (Transition.run step (start movedBoot) movedRun).RatesKept
        movedBoot ∧
      (Transition.run step (start movedBoot)
          movedRun).driver.cachedBaud =
        some 115200 := by
  refine
    ⟨(gps_rates rfl ?_).2.1, by decide +kernel, (gps_rates rfl ?_).2.1,
      by decide +kernel⟩
  · exact fun _ _ member => absurd member List.not_mem_nil
  · intro hardware nowMs member
    simp only [movedRun, List.mem_cons, List.not_mem_nil, or_false,
      GpsEvent.poll.injEq, reduceCtorEq, false_or] at member
    rcases member with ⟨rfl, -⟩ | ⟨rfl, -⟩ | ⟨rfl, -⟩ | ⟨rfl, -⟩ |
      ⟨rfl, -⟩ <;> rfl

end GpsProbing

namespace GpsRun

/-- The times of the calls among some events. -/
def pollTimes
    (events : List GpsEvent) :
    List Nat :=
  events.filterMap fun
    | .receive _ => none
    | .poll _ nowMs => some nowMs

/-- Calls that follow each other closely end the probing, or are at a window that
began in time. -/
theorem probedBy_run
    {run : GpsRun}
    {beganMs periodMs lastMs : Nat}
    {events : List GpsEvent}
    (probed : run.driver.ProbedBy beganMs periodMs lastMs)
    (short : baudProbeWindowMs + periodMs < 2 ^ 32)
    (close :
      (lastMs :: pollTimes events).IsChain fun earlier later =>
        later ≤ earlier + periodMs) :
    (Transition.run step run events).driver.ProbedBy beganMs periodMs
      ((pollTimes events).getLastD lastMs) := by
  induction events generalizing run lastMs with
  | nil =>
      exact probed
  | cons event rest inductionHypothesis =>
      rw [Transition.run_cons]
      cases event with
      | receive bytes =>
          exact
            @inductionHypothesis (run.step (.receive bytes)) lastMs probed
              close
      | poll hardware nowMs =>
          obtain ⟨soon, later⟩ := List.isChain_cons_cons.mp close
          have next :=
            @inductionHypothesis (run.step (.poll hardware nowMs)) nowMs
              (probed.poll hardware short soon) later
          have last :
              (pollTimes (.poll hardware nowMs :: rest)).getLastD lastMs =
                (pollTimes rest).getLastD nowMs :=
            List.getLastD_cons
          rw [last]
          exact next

/-- The call that starts to probe. -/
theorem probedBy_start
    {driver : GpsDriver}
    {beganMs : Nat}
    (starts : driver.startsReprobe beganMs = true)
    (hardware : GpsHardware)
    (periodMs : Nat) :
    (driver.poll hardware beganMs).ProbedBy beganMs periodMs beganMs := by
  simp only [GpsDriver.startsReprobe, Bool.and_eq_true, Bool.not_eq_true',
    Option.isNone_iff_eq_none] at starts
  obtain ⟨⟨goesOn, idle⟩, due⟩ := starts
  have checked := driver.maybeReprobe_eq hardware beganMs
  rw [if_pos due] at checked
  have begun :
      (driver.maybeReprobeStaleCachedBaud hardware beganMs).ProbedBy beganMs
        periodMs beganMs := by
    rw [checked]
    exact
      @GpsDriver.probedBy_beginReprobeWindow { driver with line := .empty }
        goesOn hardware beganMs 0 beganMs periodMs (Nat.le_add_right _ _)
  rcases driver.poll_cases hardware beganMs with
    ⟨panicked, -⟩ |
      ⟨-, ⟨_, probing, -⟩ | ⟨-, ⟨-, result⟩ | ⟨still, result⟩⟩⟩
  · exact absurd (goesOn.symm.trans panicked) Bool.false_ne_true
  · exact (Option.some_ne_none _ (probing.symm.trans idle)).elim
  · rw [result]
    exact begun
  · -- the port could be set to no candidate
    obtain ⟨-, detected, confirmed, -⟩ :=
      (driver.maybeReprobeStaleCachedBaud hardware
        beganMs).dutyCycle_rates hardware beganMs
    rcases begun with ⟨-, isConfirmed, atCandidate⟩ | ⟨_, _, probing, -⟩
    · rw [result]
      refine .inl ⟨?_, confirmed.trans isConfirmed, ?_⟩
      · rw [GpsDriver.dutyCycle_probing]
        exact still
      · rw [detected]
        exact atCandidate
    · exact (Option.some_ne_none _ (probing.symm.trans still)).elim

/-- The probings are counted. -/
theorem reprobes_le_run
    (run : GpsRun)
    (events : List GpsEvent) :
    run.reprobes ≤ (Transition.run step run events).reprobes := by
  induction events generalizing run with
  | nil =>
      exact Nat.le_refl _
  | cons event rest inductionHypothesis =>
      have once : run.reprobes ≤ (run.step event).reprobes := by
        cases event with
        | receive bytes => exact Nat.le_refl _
        | poll hardware nowMs => exact Nat.le_add_right _ _
      exact once.trans (inductionHypothesis (run.step event))

/-- Whenever the rate is probed for again, the probing is over after a window for each
candidate, each longer by at most the time between two calls, whatever is heard and
whichever rates the port takes; and it was the only one of the run. -/
theorem gps_probing_ends
    (boot : GpsDriver.Boot)
    {earlier later : List GpsEvent}
    {hardware : GpsHardware}
    {beganMs periodMs : Nat}
    (starts :
      (Transition.run step (start boot) earlier).driver.startsReprobe
          beganMs =
        true)
    (short : baudProbeWindowMs + periodMs < 2 ^ 32)
    (close :
      (beganMs :: pollTimes later).IsChain fun before after =>
        after ≤ before + periodMs)
    (long :
      beganMs + 3 * (baudProbeWindowMs + periodMs) ≤
        (pollTimes later).getLastD beganMs) :
    let run :=
      Transition.run step (start boot)
        (earlier ++ .poll hardware beganMs :: later)
    run.driver.reprobeCandidateIdx = none ∧
      run.driver.baudConfirmed = true ∧
      run.driver.detectedBaud ∈ gpsBaudCandidates ∧ run.reprobes = 1 := by
  intro run
  have begun := probedBy_start starts hardware periodMs
  have probed :=
    @probedBy_run
      ((Transition.run step (start boot) earlier).step
        (.poll hardware beganMs))
      beganMs periodMs beganMs later begun short close
  have isRun :
      Transition.run step
          ((Transition.run step (start boot) earlier).step
            (.poll hardware beganMs))
          later =
        run := by
    rw [← Transition.run_cons, ← Transition.run_append]
  have once : run.reprobes ≤ 1 := (windows_run boot _).2.once
  have counted : 1 ≤ run.reprobes := by
    rw [← isRun]
    refine Nat.le_trans ?_ (reprobes_le_run _ later)
    change
      1 ≤
        (Transition.run step (start boot) earlier).reprobes +
          ((Transition.run step (start boot)
                earlier).driver.startsReprobe
              beganMs).toNat
    rw [starts]
    exact Nat.le_add_left 1 _
  rw [isRun] at probed
  rcases probed with
    ⟨idle, confirmed, atCandidate⟩ |
      ⟨candidateIdx, candidate, -, isCandidate, -, early, inTime⟩
  · exact ⟨idle, confirmed, atCandidate, Nat.le_antisymm once counted⟩
  · exfalso
    obtain ⟨few, -⟩ := List.getElem?_eq_some_iff.mp isCandidate
    have atMost :
        candidateIdx * (baudProbeWindowMs + periodMs) ≤
          2 * (baudProbeWindowMs + periodMs) :=
      Nat.mul_le_mul_right _ (Nat.lt_succ_iff.mp few)
    omega

/-- Calls every 1.1 seconds from the silence on. -/
def laterCalls : List GpsEvent :=
  [6100, 7200, 8300, 9400, 10500, 11600].map (.poll willingHardware ·)

/-- The probing after the silence is over within 6.6 seconds. -/
theorem gps_probing_ends_silence :
    (Transition.run step (start GpsProbing.movedBoot)
          ([.poll willingHardware 20] ++
            .poll willingHardware 5000 :: laterCalls)).driver.reprobeCandidateIdx =
        none ∧
      (Transition.run step (start GpsProbing.movedBoot)
            ([.poll willingHardware 20] ++
              .poll willingHardware 5000 :: laterCalls)).reprobes =
        1 := by
  obtain ⟨idle, -, -, once⟩ :=
    @gps_probing_ends GpsProbing.movedBoot [.poll willingHardware 20] laterCalls
      willingHardware 5000 1100 (by decide +kernel) (by decide)
      (by decide) (by decide)
  exact ⟨idle, once⟩

end GpsRun

end MeshCadet
