import MeshCadet.GpsDriver

namespace MeshCadet

/-!
# What the GPS driver knows

Whatever portions the bytes of a receiver are read in, what the driver knows is what
the complete lines say: the last position and number of satellites, when a sentence
was seen last, and the clock, which the last date with a fix sets, and before there
is one the first date at all.
-/

open Outcome

/-- When something was read, and which times the system took then. -/
structure ReadTime where
  nowMs : Nat
  setsClock : Int → Bool

/-- A setting of the clock. -/
structure ClockSync where
  uptimeMs : Nat
  unixSecs : Int
  verified : Bool
deriving Repr, DecidableEq

/-- A complete line and when it was read. -/
abbrev GpsLine := ReadTime × List UInt8

namespace GpsLine

/-- The line is a sign of life. -/
def isSentence
    (line : GpsLine) :
    Bool :=
  decide (line.2.head? = some 36)

/-- The satellites and position of a line. -/
def gga?
    (line : GpsLine) :
    Option GgaFields :=
  match parseGga line.2 with
  | .value gga => some gga
  | _ => none

/-- The position of a line. -/
def fix?
    (line : GpsLine) :
    Option GpsFix := do
  let gga ← gga? line
  let (latE7, lonE7) ← gga.coords
  some { latE7 := latE7, lonE7 := lonE7, capturedUptimeMs := line.1.nowMs }

/-- The clock as a line would set it. -/
def sync?
    (line : GpsLine) :
    Option ClockSync :=
  match parseRmcDatetime line.2 with
  | .value dateTime =>
      match timestampOf dateTime.civil with
      | .value unixSecs =>
          if line.1.setsClock unixSecs then
            some
              { uptimeMs := line.1.nowMs
                unixSecs := unixSecs
                verified := dateTime.verified }
          else
            none
      | _ => none
  | _ => none

end GpsLine

/-- The setting of the clock that counts: the last with a fix, or else the first. -/
def anchorOf
    (syncs : List ClockSync) :
    Option ClockSync :=
  (syncs.filter (·.verified)).getLast?.or syncs.head?

/-- What some lines say. -/
def pictureOf
    (lines : List GpsLine) :
    GpsHeard :=
  let anchor := anchorOf (lines.filterMap GpsLine.sync?)
  { cachedFix := (lines.filterMap GpsLine.fix?).getLast?
    lastClockSyncUptimeMs := anchor.map (·.uptimeMs)
    lastClockSyncUnixSecs := anchor.map (·.unixSecs)
    lastClockSyncVerified := anchor.any (·.verified)
    lastNmeaSeenUptimeMs :=
      ((lines.filter GpsLine.isSentence).getLast?).map (·.1.nowMs)
    lastSatCount :=
      ((lines.filterMap GpsLine.gga?).getLast?).elim 0 (·.satCount)
    systemClock := anchor.map (·.unixSecs)
    panicked := false }

/-- What is shown of some lines at an uptime. -/
def statusOf
    (nowMs : Nat)
    (lines : List GpsLine) :
    GpsStatus :=
  let fix := (lines.filterMap GpsLine.fix?).getLast?
  let anchor := anchorOf (lines.filterMap GpsLine.sync?)
  { hasFix := fix.isSome
    fixState :=
      if fix.isSome then .fix
      else if lines.any GpsLine.isSentence then .acquiring
      else .noSignal
    latE7 := fix.elim 0 (·.latE7)
    lonE7 := fix.elim 0 (·.lonE7)
    fixAgeSecs :=
      fix.elim 0 fun fix => (nowMs - fix.capturedUptimeMs) / 1000 % 2 ^ 32
    satCount := ((lines.filterMap GpsLine.gga?).getLast?).elim 0 (·.satCount)
    clockSynced := anchor.isSome
    clockSyncVerified := anchor.any (·.verified)
    clockSyncAgeSecs :=
      anchor.elim 0 fun sync => (nowMs - sync.uptimeMs) / 1000 % 2 ^ 32
    clockUnixSecs :=
      anchor.map fun sync =>
        FixedWidth.toUnsigned 32
          (max (sync.unixSecs + ((nowMs - sync.uptimeMs) / 1000 : Nat)) 0) }

/-- What is shown of a driver that knows what some lines say. -/
theorem status_of_pictureOf
    {driver : GpsDriver}
    {lines : List GpsLine}
    (knows : driver.toGpsHeard = pictureOf lines)
    (nowMs : Nat) :
    driver.status nowMs = statusOf nowMs lines := by
  have seen :
      ((lines.filter GpsLine.isSentence).getLast?).isSome =
        lines.any GpsLine.isSentence := by
    rw [Bool.eq_iff_iff, List.getLast?_isSome, List.any_eq_true]
    simp [List.filter_eq_nil_iff]
  have anchored :
      driver.clockSyncAnchor =
        (anchorOf (lines.filterMap GpsLine.sync?)).map fun sync =>
          (sync.uptimeMs, sync.unixSecs) := by
    unfold GpsDriver.clockSyncAnchor
    rw [knows]
    cases anchor : anchorOf (lines.filterMap GpsLine.sync?) <;>
      simp [pictureOf, anchor]
  simp only [GpsDriver.status, GpsDriver.getFixAndAge, anchored,
    syncedWallClockSecs, statusOf, knows, pictureOf, Option.isSome_map,
    Option.elim_map, Option.map_map, seen]
  rfl

section Parsing

/-- The last of what some elements have. -/
theorem getLast?_filterMap_concat
    {α β : Type}
    (extract : α → Option β)
    (elements : List α)
    (element : α) :
    ((elements ++ [element]).filterMap extract).getLast? =
      (extract element).or (elements.filterMap extract).getLast? := by
  rw [List.filterMap_append, List.getLast?_append]
  cases extracted : extract element <;> simp [extracted]

/-- The setting that counts after one more. -/
theorem anchorOf_concat
    (syncs : List ClockSync)
    (sync : ClockSync) :
    anchorOf (syncs ++ [sync]) =
      if shouldAcceptClockSync sync.verified (anchorOf syncs).isSome then
        some sync
      else
        anchorOf syncs := by
  cases isVerified : sync.verified with
  | true =>
      simp [anchorOf, shouldAcceptClockSync, isVerified]
  | false =>
      cases syncs with
      | nil => simp [anchorOf, shouldAcceptClockSync, isVerified]
      | cons first rest =>
          simp [anchorOf, shouldAcceptClockSync, isVerified]

/-- A line that starts with one of two talkers' prefixes starts with a dollar sign. -/
theorem head?_of_isPrefixOf
    {start : List UInt8}
    {line : List UInt8}
    (isPrefix : (36 :: start).isPrefixOf line = true) :
    line.head? = some 36 := by
  cases line with
  | nil => cases isPrefix
  | cons first rest =>
      simp only [List.isPrefixOf, Bool.and_eq_true, beq_iff_eq] at isPrefix
      exact congrArg some isPrefix.1.symm

/-- A line that is no sign of life is not parsed. -/
theorem parse_of_silent
    {line : List UInt8}
    (silent : line.head? ≠ some 36) :
    parseGga line = .failed () ∧ parseRmcDatetime line = .failed () := by
  have other :
      ∀ start : List UInt8, ¬(36 :: start).isPrefixOf line = true :=
    fun start isPrefix => silent (head?_of_isPrefixOf isPrefix)
  constructor
  · exact if_pos ⟨other _, other _⟩
  · exact if_pos ⟨other _, other _⟩

/-- Lines without a sign of life say nothing. -/
theorem pictureOf_silent
    {lines : List GpsLine}
    (silent : (pictureOf lines).lastNmeaSeenUptimeMs = none) :
    pictureOf lines = .nothing := by
  have noSentence : ∀ line ∈ lines, line.2.head? ≠ some 36 := by
    intro line member dollar
    have isSentence : GpsLine.isSentence line = true :=
      decide_eq_true dollar
    have noLast :
        (lines.filter GpsLine.isSentence).getLast? = none :=
      Option.map_eq_none_iff.mp silent
    have within :=
      List.mem_filter.mpr ⟨member, isSentence⟩
    rw [List.getLast?_eq_none_iff.mp noLast] at within
    cases within
  have noGga : lines.filterMap GpsLine.gga? = [] := by
    refine List.filterMap_eq_nil_iff.mpr fun line member => ?_
    simp [GpsLine.gga?, (parse_of_silent (noSentence line member)).1]
  have noFix : lines.filterMap GpsLine.fix? = [] := by
    refine List.filterMap_eq_nil_iff.mpr fun line member => ?_
    simp [GpsLine.fix?, GpsLine.gga?,
      (parse_of_silent (noSentence line member)).1]
  have noSync : lines.filterMap GpsLine.sync? = [] := by
    refine List.filterMap_eq_nil_iff.mpr fun line member => ?_
    simp [GpsLine.sync?, (parse_of_silent (noSentence line member)).2]
  have unseen :
      ((lines.filter GpsLine.isSentence).getLast?).map (·.1.nowMs) =
        none :=
    silent
  simp only [pictureOf, noGga, noFix, noSync, unseen]
  rfl

namespace GpsHeard

/-- The clock as a setting has it. -/
def withClock
    (heard : GpsHeard)
    (anchor : Option ClockSync) :
    GpsHeard :=
  { heard with
    lastClockSyncUptimeMs := anchor.map (·.uptimeMs)
    lastClockSyncUnixSecs := anchor.map (·.unixSecs)
    lastClockSyncVerified := anchor.any (·.verified)
    systemClock := anchor.map (·.unixSecs) }

theorem takeGga_eq
    (heard : GpsHeard)
    (nowMs : Nat)
    (gga : GgaFields) :
    heard.takeGga nowMs gga =
      { heard with
        lastSatCount := gga.satCount
        cachedFix :=
          (gga.coords.map fun (latE7, lonE7) =>
              ({ latE7 := latE7
                 lonE7 := lonE7
                 capturedUptimeMs := nowMs } : GpsFix)).or
            heard.cachedFix } := by
  unfold takeGga
  cases coords : gga.coords with
  | none => rfl
  | some position => rfl

/-- A line sets the clock to the setting that counts then. -/
theorem takeRmc_withClock
    {heard : GpsHeard}
    {syncs : List ClockSync}
    {line : GpsLine}
    (goesOn :
      ((heard.withClock (anchorOf syncs)).takeRmc line.1.setsClock
          line.1.nowMs line.2).panicked =
        false) :
    (heard.withClock (anchorOf syncs)).takeRmc line.1.setsClock
        line.1.nowMs line.2 =
      heard.withClock
        (anchorOf (syncs ++ (GpsLine.sync? line).toList)) := by
  have isSome :
      (heard.withClock (anchorOf syncs)).lastClockSyncUptimeMs.isSome =
        (anchorOf syncs).isSome :=
    Option.isSome_map
  unfold takeRmc at goesOn ⊢
  unfold GpsLine.sync?
  cases dated : parseRmcDatetime line.2 with
  | failed reason => simp
  | panicked => simp [dated] at goesOn
  | value dateTime =>
      simp only [dated] at goesOn ⊢
      unfold syncClock at goesOn ⊢
      rw [isSome] at goesOn ⊢
      cases stamped : timestampOf dateTime.civil with
      | failed reason => exact reason.elim
      | panicked =>
          simp only [stamped] at goesOn ⊢
          split
          · next accepts => simp [accepts] at goesOn
          · simp
      | value unixSecs =>
          simp only
          cases takes : line.1.setsClock unixSecs with
          | false => simp
          | true =>
              simp only [if_pos, Option.toList_some, anchorOf_concat]
              split <;> rfl

theorem seeSentence_eq
    (lines : List GpsLine)
    (line : GpsLine)
    (heard : GpsHeard)
    (last :
      heard.lastNmeaSeenUptimeMs =
        (pictureOf lines).lastNmeaSeenUptimeMs) :
    heard.seeSentence line.1.nowMs line.2 =
      { heard with
        lastNmeaSeenUptimeMs :=
          (pictureOf (lines ++ [line])).lastNmeaSeenUptimeMs } := by
  unfold seeSentence
  simp only [pictureOf, List.filter_append, List.getLast?_append] at last ⊢
  split
  · next dollar => simp [GpsLine.isSentence, dollar]
  · next other =>
      have without : [line].filter GpsLine.isSentence = [] := by
        simp [GpsLine.isSentence, other]
      rw [without, List.getLast?_nil, Option.none_or, ← last]

/-- The position and satellites after a line, with the clock of the lines before. -/
theorem parse_gga_pictureOf
    {lines : List GpsLine}
    {line : GpsLine}
    {next : GpsHeard}
    (isNext :
      next =
        match parseGga line.2 with
        | .value gga =>
            ((pictureOf lines).seeSentence line.1.nowMs
              line.2).takeGga line.1.nowMs gga
        | _ => (pictureOf lines).seeSentence line.1.nowMs line.2) :
    next =
      (pictureOf (lines ++ [line])).withClock
        (anchorOf (lines.filterMap GpsLine.sync?)) := by
  rw [seeSentence_eq lines line _ rfl] at isNext
  rw [isNext]
  have satellites := getLast?_filterMap_concat GpsLine.gga? lines line
  have position := getLast?_filterMap_concat GpsLine.fix? lines line
  simp only [pictureOf, withClock, satellites, position]
  cases parsed : parseGga line.2 with
  | value gga =>
      simp only [takeGga_eq]
      cases coords : gga.coords <;>
        simp [GpsLine.gga?, GpsLine.fix?, parsed, coords]
  | failed reason => simp [GpsLine.gga?, GpsLine.fix?, parsed]
  | panicked => simp [GpsLine.gga?, GpsLine.fix?, parsed]

/-- A line adds what it says. -/
theorem parseLine_pictureOf
    {lines : List GpsLine}
    {line : GpsLine}
    (goesOn :
      ((pictureOf lines).parseLine line.1.setsClock line.1.nowMs
          line.2).panicked =
        false) :
    (pictureOf lines).parseLine line.1.setsClock line.1.nowMs line.2 =
      pictureOf (lines ++ [line]) := by
  have clocked :
      (pictureOf (lines ++ [line])).withClock
          (anchorOf
            (lines.filterMap GpsLine.sync? ++
              (GpsLine.sync? line).toList)) =
        pictureOf (lines ++ [line]) := by
    simp only [pictureOf, List.filterMap_append]
    cases synced : GpsLine.sync? line <;> simp [withClock, synced]
  unfold parseLine at goesOn ⊢
  cases parsed : parseGga line.2 with
  | panicked => simp [parsed] at goesOn
  | value gga =>
      have counted :=
        @parse_gga_pictureOf lines line
          (((pictureOf lines).seeSentence line.1.nowMs
            line.2).takeGga line.1.nowMs gga)
          (by rw [parsed])
      simp only [parsed, counted] at goesOn ⊢
      rw [takeRmc_withClock goesOn, clocked]
  | failed reason =>
      have counted :=
        @parse_gga_pictureOf lines line
          ((pictureOf lines).seeSentence line.1.nowMs line.2)
          (by rw [parsed])
      simp only [parsed, counted] at goesOn ⊢
      rw [takeRmc_withClock goesOn, clocked]

/-- A panic lasts while lines are parsed. -/
theorem panicked_parseLine
    {heard : GpsHeard}
    (isPanicked : heard.panicked = true)
    (setsClock : Int → Bool)
    (nowMs : Nat)
    (line : List UInt8) :
    (heard.parseLine setsClock nowMs line).panicked = true := by
  have seen : (heard.seeSentence nowMs line).panicked = true := by
    unfold seeSentence
    split <;> exact isPanicked
  have dated :
      ∀ counted : GpsHeard,
        counted.panicked = true →
          (counted.takeRmc setsClock nowMs line).panicked = true := by
    intro counted isCounted
    unfold takeRmc
    split
    · unfold syncClock
      split
      · split
        · split <;> exact isCounted
        · exact isCounted
        · rfl
      · exact isCounted
    · exact isCounted
    · rfl
  unfold parseLine
  simp only
  split
  · next gga _ =>
      refine dated _ ?_
      rw [takeGga_eq]
      exact seen
  · exact dated _ seen
  · rfl

end GpsHeard

end Parsing

section Reading

open LineCollector

/-- A line feed ends a line. -/
def endsLine
    (b : UInt8) :
    Bool :=
  decide (b = 10)

/-- A carriage return is skipped. -/
def isSkipped
    (b : UInt8) :
    Bool :=
  decide (b = 13)

/-- A byte that was read. -/
abbrev GpsReading := ReadTime × UInt8

/-- The complete lines of some bytes. -/
abbrev linesOf : List GpsReading → List GpsLine :=
  lines endsLine isSkipped 128 []

/-- What is kept of the line that is not complete. -/
abbrev unfinishedOf
    (readings : List GpsReading) :
    List UInt8 :=
  kept 128 (unfinished endsLine isSkipped [] readings)

namespace GpsReader

/-- Take a byte at the time it was read. -/
def read
    (reader : GpsReader)
    (reading : GpsReading) :
    GpsReader :=
  reader.takeByte reading.1.setsClock reading.1.nowMs reading.2

/-- Parse a line. -/
def handle
    (heard : GpsHeard)
    (readTime : ReadTime)
    (line : List UInt8) :
    GpsHeard :=
  heard.parseLine readTime.setsClock readTime.nowMs line

/-- A byte is collected. -/
theorem read_collect
    {reader : GpsReader}
    (goesOn : reader.panicked = false)
    (reading : GpsReading) :
    ((reader.read reading).toGpsHeard, (reader.read reading).line) =
      collect endsLine isSkipped handle (reader.toGpsHeard, reader.line)
        reading := by
  simp only [read, takeByte, goesOn, collect, endsLine, isSkipped,
    decide_eq_true_eq, Bool.false_eq_true, if_false]
  split
  · rfl
  · by_cases skipped : reading.2 = 13 <;> simp [skipped]

/-- A panic lasts. -/
theorem foldl_read_panicked
    {reader : GpsReader}
    (isPanicked : reader.panicked = true)
    (readings : List GpsReading) :
    readings.foldl read reader = reader := by
  induction readings with
  | nil =>
      rfl
  | cons reading rest inductionHypothesis =>
      have same : reader.read reading = reader := by
        rw [read, takeByte, if_pos isPanicked]
      rw [List.foldl_cons, same, inductionHypothesis]

/-- Without a panic in the end there was none before. -/
theorem goesOn_of_foldl
    {reader : GpsReader}
    {readings : List GpsReading}
    (goesOn : (readings.foldl read reader).panicked = false) :
    reader.panicked = false := by
  by_contra isPanicked
  rw [foldl_read_panicked (Bool.eq_true_of_not_eq_false isPanicked)] at goesOn
  exact isPanicked goesOn

/-- Bytes are collected. -/
theorem foldl_read_collect
    {reader : GpsReader}
    {readings : List GpsReading}
    (goesOn : (readings.foldl read reader).panicked = false) :
    ((readings.foldl read reader).toGpsHeard,
        (readings.foldl read reader).line) =
      readings.foldl (collect endsLine isSkipped handle)
        (reader.toGpsHeard, reader.line) := by
  induction readings generalizing reader with
  | nil =>
      rfl
  | cons reading rest inductionHypothesis =>
      rw [List.foldl_cons] at goesOn ⊢
      have before : reader.panicked = false :=
        @goesOn_of_foldl reader (reading :: rest) goesOn
      rw [inductionHypothesis goesOn, read_collect before, List.foldl_cons]

/-- Nothing was read. -/
def fresh : GpsReader :=
  { toGpsHeard := .nothing
    line := .empty }

/-- The lines that are parsed without a panic make the picture. -/
theorem foldl_handle
    {lines : List GpsLine}
    (goesOn :
      (lines.foldl (fun heard line => handle heard line.1 line.2)
          .nothing).panicked =
        false) :
    lines.foldl (fun heard line => handle heard line.1 line.2) .nothing =
      pictureOf lines := by
  induction lines using List.reverseRecOn with
  | nil =>
      rfl
  | append_singleton lines line inductionHypothesis =>
      rw [List.foldl_concat] at goesOn ⊢
      have before :
          (lines.foldl (fun heard line => handle heard line.1 line.2)
              .nothing).panicked =
            false := by
        by_contra isPanicked
        have lasts :=
          GpsHeard.panicked_parseLine
            (Bool.eq_true_of_not_eq_false isPanicked) line.1.setsClock
            line.1.nowMs line.2
        exact Bool.false_ne_true (goesOn.symm.trans lasts)
      rw [inductionHypothesis before] at goesOn ⊢
      exact GpsHeard.parseLine_pictureOf goesOn

/-- What is known is what the lines say, and the rest is kept. -/
theorem foldl_read_picture
    {readings : List GpsReading}
    (goesOn : (readings.foldl read fresh).panicked = false) :
    (readings.foldl read fresh).toGpsHeard = pictureOf (linesOf readings) ∧
      (readings.foldl read fresh).line.elements =
        unfinishedOf readings := by
  have collected := foldl_read_collect goesOn
  have empty : fresh.line.elements = kept 128 [] :=
    List.drop_nil.symm
  obtain ⟨handled, rest⟩ :=
    @foldl_collect _ _ _ _ endsLine isSkipped handle readings []
      fresh.toGpsHeard fresh.line empty
  have heard :
      (readings.foldl read fresh).toGpsHeard =
        (linesOf readings).foldl
          (fun heard line => handle heard line.1 line.2) .nothing :=
    (congrArg Prod.fst collected).trans handled
  constructor
  · rw [heard] at goesOn ⊢
    exact foldl_handle goesOn
  · exact
      (congrArg (fun pair => pair.2.elements) collected).trans rest

end GpsReader

end Reading

end MeshCadet
