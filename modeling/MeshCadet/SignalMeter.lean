import MeshCadet.HeldPeak

namespace MeshCadet

/-!
# The signal meter

A packet a repeater sent last gives a number of bars, which are shown in full for
a while and then fade one by one.  The tracker holds one reading: a packet with
fewer bars than are shown when it arrives is dropped, and is not shown once the
bars have faded below its own.
-/

/-- Bars above none. -/
def maxBars : Nat :=
  5

/-- What the meter shows. -/
inductive SignalLevel where
  | directOnly
  | bars (count : Nat)
deriving Repr, DecidableEq

/-- Thresholds of the bars and times of the fading. -/
structure SignalConfig where
  barFloorDbm : Vector Int 5
  snrKnockdownDb : Int
  snrFloorDb : Int
  holdFullMs : Nat
  decayStepMs : Nat
deriving DecidableEq

/-- A floor, below the one before it. -/
def clampedFloor
    (floors : Vector Int 5) :
    Nat → Int
  | 0 => floors.getD 0 0
  | place + 1 =>
      let previous := clampedFloor floors place
      let floor := floors.getD (place + 1) 0
      if previous ≤ floor then max (previous - 1) (-32768) else floor

/-- A configuration in order. -/
def SignalConfig.new
    (barFloorDbm : Vector Int 5)
    (snrKnockdownDb snrFloorDb : Int)
    (holdFullMs decayStepMs : Nat) :
    SignalConfig :=
  { barFloorDbm :=
      Vector.ofFn fun place => clampedFloor barFloorDbm place.val
    snrKnockdownDb := snrKnockdownDb
    snrFloorDb :=
      if snrKnockdownDb ≤ snrFloorDb then max (snrKnockdownDb - 1) (-128)
      else snrFloorDb
    holdFullMs := holdFullMs
    decayStepMs := max decayStepMs 1 }

/-- The configuration of the device. -/
def SignalConfig.default : SignalConfig :=
  SignalConfig.new #v[-70, -85, -100, -110, -120] 0 (-10) 60000 45000

namespace SignalConfig

/-- Bars of a signal strength. -/
def rssiBars
    (config : SignalConfig)
    (rssiDbm : Int) :
    Nat :=
  match config.barFloorDbm.toList.findIdx?
    fun floor => decide (floor ≤ rssiDbm) with
  | some i => maxBars - i
  | none => 0

/-- Bars of a packet, with up to two taken off for noise. -/
def barsFor
    (config : SignalConfig)
    (rssiDbm snrDb : Int) :
    Nat :=
  let base := config.rssiBars rssiDbm
  if base = 0 then 0
  else
    let knockdown :=
      (if snrDb < config.snrKnockdownDb then 1 else 0) +
        if snrDb < config.snrFloorDb then 1 else 0
    max (base - knockdown) 1

end SignalConfig

/-- The reading that is held. -/
structure SignalTracker where
  config : SignalConfig
  peakBars : Nat
  peakAtMs : Nat
deriving DecidableEq

namespace SignalTracker

/-- A tracker that has heard nothing. -/
def new
    (config : SignalConfig) :
    SignalTracker :=
  { config := config
    peakBars := 0
    peakAtMs := 0 }

/-- The bars of the held reading by now. -/
def decayedBars
    (tracker : SignalTracker)
    (nowMs : Nat) :
    Nat :=
  if tracker.peakBars = 0 then 0
  else
    let elapsed := nowMs - tracker.peakAtMs
    if elapsed ≤ tracker.config.holdFullMs then tracker.peakBars
    else
      let decayedMs := elapsed - tracker.config.holdFullMs
      let decayStepMs := max tracker.config.decayStepMs 1
      let steps := min (decayedMs / decayStepMs) tracker.peakBars
      tracker.peakBars - steps

/-- Take in a packet; one from its origin says nothing. -/
def record
    (tracker : SignalTracker)
    (rssiDbm snrDb : Int)
    (hopCount nowMs : Nat) :
    SignalTracker :=
  if hopCount = 0 then tracker
  else
    let candidate := tracker.config.barsFor rssiDbm snrDb
    if tracker.decayedBars nowMs ≤ candidate then
      { tracker with
        peakBars := candidate
        peakAtMs := nowMs }
    else tracker

/-- What the meter shows for a number of bars. -/
def shown :
    Nat → SignalLevel
  | 0 => .directOnly
  | bars + 1 => .bars (bars + 1)

/-- What the meter shows by now. -/
def level
    (tracker : SignalTracker)
    (nowMs : Nat) :
    SignalLevel :=
  shown (tracker.decayedBars nowMs)

end SignalTracker

/-- A packet as it is recorded. -/
structure Reading where
  rssiDbm : Int
  snrDb : Int
  hopCount : Nat
  atMs : Nat
deriving DecidableEq

/-- The tracker behind a run of packets; looking at it changes nothing. -/
def trackerAfter
    (config : SignalConfig)
    (readings : List Reading) :
    SignalTracker :=
  readings.foldl
    (fun tracker reading =>
      tracker.record reading.rssiDbm reading.snrDb reading.hopCount
        reading.atMs)
    (SignalTracker.new config)

/-- Bars, and when they were heard. -/
structure Sample where
  bars : Nat
  atMs : Nat
deriving Repr, DecidableEq

/-- The bars of a sample that is fading on its own. -/
def Sample.barsAt
    (config : SignalConfig)
    (sample : Sample)
    (nowMs : Nat) :
    Nat :=
  SignalTracker.decayedBars ⟨config, sample.bars, sample.atMs⟩ nowMs

/-- The samples of the packets that count. -/
def countedSamples
    (config : SignalConfig)
    (readings : List Reading) :
    List Sample :=
  (readings.filter fun reading => reading.hopCount ≠ 0).map fun reading =>
    { bars := config.barsFor reading.rssiDbm reading.snrDb
      atMs := reading.atMs }

/-- The samples as they age. -/
def fading
    (config : SignalConfig) :
    HeldPeak.Ageing Sample Nat Nat where
  time := Sample.atMs
  strength := Sample.barsAt config

/-- The samples that have at least the bars shown when they arrive. -/
def keptSamples
    (config : SignalConfig)
    (readings : List Reading) :
    List Sample :=
  (fading config).kept ⟨0, 0⟩ (countedSamples config readings)

/-- The bars that some samples have by now, and none. -/
def barsOf
    (config : SignalConfig)
    (samples : List Sample)
    (nowMs : Nat) :
    Set Nat :=
  {bars | bars = 0 ∨
    ∃ sample ∈ samples, sample.barsAt config nowMs = bars}

section Fading

variable {config : SignalConfig}

/-- The bars of a sample, less a bar for each step past the hold. -/
theorem barsAt_eq
    (sample : Sample)
    (nowMs : Nat) :
    sample.barsAt config nowMs =
      sample.bars -
        (nowMs - sample.atMs - config.holdFullMs) /
          max config.decayStepMs 1 := by
  rw [Sample.barsAt, SignalTracker.decayedBars]
  dsimp only
  split
  case isTrue none =>
    rw [none, Nat.zero_sub]
  case isFalse some =>
    split
    case isTrue held =>
      rw [Nat.sub_eq_zero_of_le held, Nat.zero_div, Nat.sub_zero]
    case isFalse faded =>
      omega

/-- A sample that a later one is as strong as fades no later. -/
theorem fading_persists :
    (fading config).Persists := by
  intro first second nowMs before after stronger
  simp only [fading, barsAt_eq] at *
  have steps :
      (second.atMs - first.atMs - config.holdFullMs) /
            max config.decayStepMs 1 +
          (nowMs - second.atMs - config.holdFullMs) /
            max config.decayStepMs 1 ≤
        (nowMs - first.atMs - config.holdFullMs) /
          max config.decayStepMs 1 := by
    refine Nat.le_trans Nat.div_add_div_le_add_div
      (Nat.div_le_div_right ?_)
    omega
  have fresh :
      (second.atMs - second.atMs - config.holdFullMs) /
        max config.decayStepMs 1 = 0 := by
    rw [Nat.sub_self, Nat.zero_sub, Nat.zero_div]
  omega

end Fading

section Tracking

variable {config : SignalConfig} {readings : List Reading}

/-- A packet that counts, as a sample. -/
theorem countedSamples_cons
    (reading : Reading)
    (rest : List Reading) :
    countedSamples config (reading :: rest) =
      if reading.hopCount = 0 then countedSamples config rest
      else
        ⟨config.barsFor reading.rssiDbm reading.snrDb, reading.atMs⟩ ::
          countedSamples config rest := by
  rw [countedSamples, List.filter_cons]
  by_cases direct : reading.hopCount = 0
  · simp [direct, countedSamples]
  · simp [direct, countedSamples]

/-- Recording a packet that counts holds one of two samples. -/
theorem record_eq
    {tracker : SignalTracker}
    {reading : Reading}
    (counts : reading.hopCount ≠ 0) :
    tracker.record reading.rssiDbm reading.snrDb reading.hopCount
        reading.atMs =
      { config := tracker.config
        peakBars :=
          ((fading tracker.config).hold
            ⟨tracker.peakBars, tracker.peakAtMs⟩
            ⟨tracker.config.barsFor reading.rssiDbm reading.snrDb,
              reading.atMs⟩).bars
        peakAtMs :=
          ((fading tracker.config).hold
            ⟨tracker.peakBars, tracker.peakAtMs⟩
            ⟨tracker.config.barsFor reading.rssiDbm reading.snrDb,
              reading.atMs⟩).atMs } := by
  have fresh
      (bars atMs : Nat) :
      (⟨bars, atMs⟩ : Sample).barsAt tracker.config atMs = bars := by
    rw [barsAt_eq, Nat.sub_self, Nat.zero_sub, Nat.zero_div, Nat.sub_zero]
  rw [SignalTracker.record, if_neg counts, HeldPeak.Ageing.hold]
  simp only [fading, fresh]
  have same :
      (⟨tracker.peakBars, tracker.peakAtMs⟩ : Sample).barsAt
          tracker.config reading.atMs =
        tracker.decayedBars reading.atMs := rfl
  rw [same]
  split <;> rfl

/-- The tracker holds the sample that is held of those that count. -/
theorem tracker_eq_held
    (tracker : SignalTracker)
    (readings : List Reading) :
    readings.foldl
        (fun tracker reading =>
          tracker.record reading.rssiDbm reading.snrDb reading.hopCount
            reading.atMs)
        tracker =
      { config := tracker.config
        peakBars :=
          ((fading tracker.config).held
            ⟨tracker.peakBars, tracker.peakAtMs⟩
            (countedSamples tracker.config readings)).bars
        peakAtMs :=
          ((fading tracker.config).held
            ⟨tracker.peakBars, tracker.peakAtMs⟩
            (countedSamples tracker.config readings)).atMs } := by
  induction readings generalizing tracker with
  | nil =>
      rfl
  | cons reading rest inductionHypothesis =>
      rw [List.foldl_cons, inductionHypothesis, countedSamples_cons]
      by_cases direct : reading.hopCount = 0
      · rw [SignalTracker.record, if_pos direct, if_pos direct]
      · rw [record_eq direct, if_neg direct, HeldPeak.Ageing.held_cons]

/-- What the meter shows is what is left of the held sample. -/
theorem decayedBars_trackerAfter
    (config : SignalConfig)
    (readings : List Reading)
    (nowMs : Nat) :
    (trackerAfter config readings).decayedBars nowMs =
      ((fading config).held ⟨0, 0⟩
        (countedSamples config readings)).barsAt config nowMs := by
  rw [trackerAfter, tracker_eq_held]
  rfl

/-- A packet at the end is kept unless the meter shows more bars. -/
theorem keptSamples_concat
    (config : SignalConfig)
    (readings : List Reading)
    (reading : Reading) :
    keptSamples config (readings ++ [reading]) =
      keptSamples config readings ++
        if reading.hopCount ≠ 0 ∧
            (trackerAfter config readings).decayedBars reading.atMs ≤
              config.barsFor reading.rssiDbm reading.snrDb then
          [⟨config.barsFor reading.rssiDbm reading.snrDb, reading.atMs⟩]
        else [] := by
  have append :
      countedSamples config (readings ++ [reading]) =
        countedSamples config readings ++
          countedSamples config [reading] := by
    rw [countedSamples, List.filter_append, List.map_append]
    rfl
  rw [keptSamples, append, countedSamples_cons]
  by_cases direct : reading.hopCount = 0
  · simp [direct, countedSamples, keptSamples]
  · have fresh :
        (⟨config.barsFor reading.rssiDbm reading.snrDb,
            reading.atMs⟩ : Sample).barsAt config reading.atMs =
          config.barsFor reading.rssiDbm reading.snrDb := by
      rw [barsAt_eq, Nat.sub_self, Nat.zero_sub, Nat.zero_div,
        Nat.sub_zero]
    have isLast :
        (countedSamples config [] : List Sample) = [] := rfl
    rw [if_neg direct, isLast, HeldPeak.Ageing.kept_concat,
      decayedBars_trackerAfter]
    simp only [fading, fresh, direct, ne_eq, not_false_eq_true, true_and]
    rfl

/-- Times of packets that do not decrease are times of samples. -/
theorem samples_ordered
    (ordered : readings.Pairwise fun earlier later =>
      earlier.atMs ≤ later.atMs) :
    ((⟨0, 0⟩ : Sample) :: countedSamples config readings).Pairwise
      fun earlier later =>
        (fading config).time earlier ≤ (fading config).time later := by
  refine List.pairwise_cons.mpr ⟨fun _ _ => Nat.zero_le _, ?_⟩
  exact List.pairwise_map.mpr (ordered.filter _)

/--
Behind a run of packets at times that do not decrease, the meter shows the most
bars that are left of the samples with at least the bars shown when they arrived;
so it never shows more than is left of some sample that counts.
-/
theorem level_eq_most_kept
    (config : SignalConfig)
    {readings : List Reading}
    {nowMs : Nat}
    (ordered : readings.Pairwise fun earlier later =>
      earlier.atMs ≤ later.atMs)
    (before : ∀ reading ∈ readings, reading.atMs ≤ nowMs) :
    ∃ bars,
      (trackerAfter config readings).level nowMs =
          SignalTracker.shown bars ∧
        IsGreatest (barsOf config (keptSamples config readings) nowMs)
          bars ∧
        bars ∈ barsOf config (countedSamples config readings) nowMs := by
  have samplesBefore :
      ∀ sample ∈ countedSamples config readings,
        (fading config).time sample ≤ nowMs := by
    intro sample member
    obtain ⟨reading, isCounted, rfl⟩ := List.mem_map.mp member
    exact before reading (List.mem_filter.mp isCounted).1
  obtain ⟨⟨greatest, member, same⟩, bound⟩ :=
    HeldPeak.Ageing.held_isGreatest fading_persists
      (samples_ordered ordered) samplesBefore
  have initialBars :
      (fading config).strength ⟨0, 0⟩ nowMs = 0 := rfl
  have isKept :
      (fading config).strength
          ((fading config).held ⟨0, 0⟩ (countedSamples config readings))
          nowMs ∈
        barsOf config (keptSamples config readings) nowMs := by
    rcases List.mem_cons.mp member with rfl | isLater
    · exact .inl (same.symm.trans initialBars)
    · exact .inr ⟨greatest, isLater, same⟩
  have isLevel :
      (trackerAfter config readings).level nowMs =
        SignalTracker.shown
          ((fading config).strength
            ((fading config).held ⟨0, 0⟩ (countedSamples config readings))
            nowMs) := by
    rw [SignalTracker.level, decayedBars_trackerAfter]
    rfl
  refine ⟨_, isLevel, ⟨isKept, ?_⟩, ?_⟩
  · rintro level (rfl | ⟨sample, isLater, rfl⟩)
    · exact Nat.zero_le _
    · exact bound ⟨sample, List.mem_cons_of_mem _ isLater, rfl⟩
  · rcases isKept with none | ⟨sample, isLater, left⟩
    · exact .inl none
    · exact .inr ⟨sample,
        (HeldPeak.Ageing.kept_sublist _ _).subset isLater, left⟩

/-- Five bars at once and four a minute later. -/
def fadingPair : List Reading :=
  [⟨-60, 5, 1, 0⟩, ⟨-80, 5, 1, 60000⟩]

/--
The four bars are dropped.  After two minutes and a half the five have faded to
three, which the meter shows, while the four would still be in full.
-/
theorem fadingPair_shows_three :
    (trackerAfter SignalConfig.default fadingPair).level 150000 =
        .bars 3 ∧
      4 ∈ barsOf SignalConfig.default
        (countedSamples SignalConfig.default fadingPair) 150000 := by
  refine ⟨by decide, .inr ⟨⟨4, 60000⟩, ?_, ?_⟩⟩
  · decide
  · decide

/-- The theorem at the two packets. -/
theorem level_eq_most_kept_fadingPair :
    ∃ bars,
      (trackerAfter SignalConfig.default fadingPair).level 150000 =
          SignalTracker.shown bars ∧
        IsGreatest
          (barsOf SignalConfig.default
            (keptSamples SignalConfig.default fadingPair) 150000)
          bars ∧
        bars ∈
          barsOf SignalConfig.default
            (countedSamples SignalConfig.default fadingPair) 150000 :=
  level_eq_most_kept SignalConfig.default (by decide) (by decide)

end Tracking

end MeshCadet
