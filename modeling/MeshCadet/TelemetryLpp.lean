import MeshCadet.DmCodec

namespace MeshCadet

/-!
# The telemetry response

The answer to a telemetry request is a tag and a sequence of entries, each a
channel byte, a type byte and as many bytes as the type implies.  What the
requester decodes is the decrypted plaintext, which is padded with zeros to whole
cipher blocks.
-/

/-- The channel of a node's own data. -/
def telemChannelSelf : UInt8 :=
  1

def lppDigitalInput : UInt8 :=
  0

def lppDigitalOutput : UInt8 :=
  1

def lppGenericSensor : UInt8 :=
  100

def lppLuminosity : UInt8 :=
  101

def lppPresence : UInt8 :=
  102

def lppTemperature : UInt8 :=
  103

def lppVoltage : UInt8 :=
  116

def lppPercentage : UInt8 :=
  120

def lppGps : UInt8 :=
  136

/-- Bytes of an entry: channel, type and what the type implies. -/
def lppEntryLen
    (entryType : UInt8) :
    Nat :=
  if entryType ∈ [0, 1, 102, 104, 120, 142] then 3
  else if entryType ∈
      [2, 3, 101, 103, 115, 116, 117, 121, 125, 128, 132] then 4
  else if entryType = 135 then 5
  else if entryType ∈ [100, 118, 130, 131, 133] then 6
  else if entryType ∈ [113, 134] then 8
  else if entryType = 136 then 11
  else if entryType = 240 then 10
  else 3

/-- Bytes a response buffer holds at least. -/
def maxTelemetryResponseLen : Nat :=
  40

/-- The low 24 bits of an integer, most significant byte first. -/
def i24BeBytes
    (value : Int) :
    List UInt8 :=
  let bits := (value % 4294967296).toNat
  [UInt8.ofNat (bits / 65536), UInt8.ofNat (bits / 256), UInt8.ofNat bits]

/-- A 24-bit two's-complement integer, most significant byte first. -/
def readI24Be
    (first second third : UInt8) :
    Int :=
  let raw := first.toNat * 65536 + second.toNat * 256 + third.toNat
  if 8388608 ≤ raw then (raw : Int) - 16777216 else raw

/-- A word, most significant byte first. -/
def u32BeBytes
    (value : UInt32) :
    List UInt8 :=
  [UInt8.ofNat (value.toNat / 16777216), UInt8.ofNat (value.toNat / 65536),
    UInt8.ofNat (value.toNat / 256), UInt8.ofNat value.toNat]

/-- The word of four bytes, most significant byte first. -/
def readU32Be
    (first second third fourth : UInt8) :
    UInt32 :=
  UInt32.ofNat
    (first.toNat * 16777216 + second.toNat * 65536 + third.toNat * 256 +
      fourth.toNat)

/-- A 16-bit value, most significant byte first. -/
def u16BeBytes
    (value : Nat) :
    List UInt8 :=
  [UInt8.ofNat (value / 256), UInt8.ofNat value]

/-- The 16-bit value of two bytes, most significant byte first. -/
def readU16Be
    (first second : UInt8) :
    Nat :=
  first.toNat * 256 + second.toNat

/-- A 16-bit value as a two's-complement integer. -/
def asI16
    (value : Nat) :
    Int :=
  if 32768 ≤ value then (value : Int) - 65536 else value

/-- What a telemetry response reports. -/
structure TelemetryReport where
  tag : UInt32
  gps : Option (Int32 × Int32)
  battery : Option (UInt8 × Bool)
  rawMv : Option UInt32
  heldRawMv : Option UInt32
  level : Option UInt8
deriving DecidableEq

namespace TelemetryReport

/-- A coordinate in the resolution of the entry, rounded towards zero. -/
def e4
    (coordinate : Int32) :
    Int :=
  coordinate.toInt.tdiv 1000

/-- The position entry, or the marker that there is no position. -/
def gpsEntry
    (report : TelemetryReport) :
    List UInt8 :=
  match report.gps with
  | some (lat, lon) =>
      [telemChannelSelf, lppGps] ++
        (i24BeBytes (e4 lat) ++ (i24BeBytes (e4 lon) ++ i24BeBytes 0))
  | none =>
      [telemChannelSelf, lppPresence, 0]

/-- The percentage and the charging state. -/
def batteryEntries
    (report : TelemetryReport) :
    List UInt8 :=
  match report.battery with
  | some (percent, charging) =>
      [telemChannelSelf, lppPercentage, min percent 100] ++
        [telemChannelSelf, lppDigitalInput, charging.toUInt8]
  | none =>
      []

/-- The raw reading in millivolts. -/
def rawEntry
    (report : TelemetryReport) :
    List UInt8 :=
  match report.rawMv with
  | some mv =>
      [telemChannelSelf, lppGenericSensor] ++ u32BeBytes mv
  | none =>
      []

/-- The held reading in millivolts, cut off at sixteen bits. -/
def heldEntry
    (report : TelemetryReport) :
    List UInt8 :=
  match report.heldRawMv with
  | some mv =>
      [telemChannelSelf, lppLuminosity] ++ u16BeBytes (min mv.toNat 65535)
  | none =>
      []

/-- The battery level. -/
def levelEntry
    (report : TelemetryReport) :
    List UInt8 :=
  match report.level with
  | some ordinal =>
      [telemChannelSelf, lppDigitalOutput, ordinal]
  | none =>
      []

/-- The bytes of the response. -/
def bytes
    (report : TelemetryReport) :
    List UInt8 :=
  (Bytes.u32ToLeBytes report.tag).toList ++
    (report.gpsEntry ++ (report.batteryEntries ++ (report.rawEntry ++
      (report.heldEntry ++ report.levelEntry))))

end TelemetryReport

/-- Encode into a buffer; the writer drops what does not fit. -/
def encodeTelemetryResponseLpp
    (report : TelemetryReport)
    (outLen : Nat) :
    List UInt8 :=
  report.bytes.take outLen

/-- What the decoder has read so far. -/
structure LppScan where
  gpsE4 : Option (Int × Int)
  percent : Option UInt8
  charging : Option Bool
  rawMv : Option UInt32
  heldRawMv : Option Nat
  level : Option UInt8
  voltageMv : Option Nat
  temperatureCX10 : Option Int
deriving Repr, DecidableEq

namespace LppScan

/-- Nothing read yet. -/
def empty : LppScan :=
  { gpsE4 := none
    percent := none
    charging := none
    rawMv := none
    heldRawMv := none
    level := none
    voltageMv := none
    temperatureCX10 := none }

/-- Take the value of the entry at the front; an unknown type has none. -/
def applyEntry
    (scan : LppScan)
    (body : List UInt8) :
    LppScan :=
  let channel := body.getD 0 0
  let entryType := body.getD 1 0
  let data := fun place => body.getD place 0
  if entryType = lppGps then
    { scan with
      gpsE4 :=
        some (readI24Be (data 2) (data 3) (data 4),
          readI24Be (data 5) (data 6) (data 7)) }
  else if entryType = lppVoltage ∧ channel = telemChannelSelf then
    { scan with voltageMv := some (readU16Be (data 2) (data 3) * 10) }
  else if entryType = lppTemperature ∧ channel = telemChannelSelf then
    { scan with temperatureCX10 := some (asI16 (readU16Be (data 2) (data 3))) }
  else if entryType = lppPercentage then
    { scan with percent := some (data 2) }
  else if entryType = lppDigitalInput then
    -- Unlike a voltage, a charging state is taken from any channel.
    { scan with charging := some (data 2 != 0) }
  else if entryType = lppGenericSensor then
    { scan with
      rawMv := some (readU32Be (data 2) (data 3) (data 4) (data 5)) }
  else if entryType = lppLuminosity then
    { scan with heldRawMv := some (readU16Be (data 2) (data 3)) }
  else if entryType = lppDigitalOutput then
    { scan with level := some (data 2) }
  else
    scan

end LppScan

/-- An entry is never empty, so the decoder moves on. -/
theorem lppEntryLen_pos
    (entryType : UInt8) :
    0 < lppEntryLen entryType := by
  unfold lppEntryLen
  repeat' split
  all_goals decide

/-- Read entries until fewer bytes are left than the next one needs. -/
def scanLpp
    (scan : LppScan)
    (body : List UInt8) :
    LppScan :=
  if body.length < 2 then
    scan
  else if body.length < lppEntryLen (body.getD 1 0) then
    scan
  else
    scanLpp (scan.applyEntry body)
      (body.drop (lppEntryLen (body.getD 1 0)))
termination_by body.length
decreasing_by
  have positive := lppEntryLen_pos (body.getD 1 0)
  rw [List.length_drop]
  omega

/-- A decoded telemetry response. -/
structure TelemetryResponseLpp where
  tag : UInt32
  gpsE4 : Option (Int × Int)
  battery : Option (UInt8 × Bool)
  batteryRawMv : Option UInt32
  batteryHeldRawMv : Option Nat
  batteryLevel : Option UInt8
  batteryVoltageMv : Option Nat
  temperatureCX10 : Option Int
deriving Repr, DecidableEq

/-- The response that a scan amounts to: a battery needs both its entries. -/
def LppScan.response
    (scan : LppScan)
    (tag : UInt32) :
    TelemetryResponseLpp :=
  { tag := tag
    gpsE4 := scan.gpsE4
    battery :=
      match scan.percent, scan.charging with
      | some percent, some charging => some (percent, charging)
      | _, _ => none
    batteryRawMv := scan.rawMv
    batteryHeldRawMv := scan.heldRawMv
    batteryLevel := scan.level
    batteryVoltageMv := scan.voltageMv
    temperatureCX10 := scan.temperatureCX10 }

/-- Decode the plaintext of a telemetry response. -/
def decodeTelemetryResponseLpp
    (plaintext : List UInt8) :
    Option TelemetryResponseLpp :=
  if plaintext.length < 4 then
    none
  else
    let tag :=
      Bytes.u32FromLeBytes
        (Vector.ofFn fun place : Fin 4 => plaintext.getD place 0)
    some ((scanLpp .empty (plaintext.drop 4)).response tag)

/-- A coordinate in the resolution of the entry fits 24 bits. -/
theorem TelemetryReport.e4_bounds
    (coordinate : Int32) :
    -8388608 ≤ e4 coordinate ∧ e4 coordinate < 8388608 := by
  have low := coordinate.le_toInt
  have high := coordinate.toInt_lt
  have sign : Int.sign 1000 = 1 := rfl
  rw [e4, Int.tdiv_eq_ediv, sign]
  split <;> omega

/-- An integer of 24 bits is read back. -/
theorem readI24Be_bytes
    {value : Int}
    (low : -8388608 ≤ value)
    (high : value < 8388608) :
    readI24Be ((i24BeBytes value).getD 0 0) ((i24BeBytes value).getD 1 0)
        ((i24BeBytes value).getD 2 0) =
      value := by
  simp [readI24Be, i24BeBytes]
  omega

/-- A word is read back. -/
theorem readU32Be_bytes
    (value : UInt32) :
    readU32Be ((u32BeBytes value).getD 0 0) ((u32BeBytes value).getD 1 0)
        ((u32BeBytes value).getD 2 0) ((u32BeBytes value).getD 3 0) =
      value := by
  have bound := value.toNat_lt
  apply UInt32.toNat_inj.mp
  simp [readU32Be, u32BeBytes]
  omega

/-- A 16-bit value is read back. -/
theorem readU16Be_bytes
    {value : Nat}
    (bound : value ≤ 65535) :
    readU16Be ((u16BeBytes value).getD 0 0) ((u16BeBytes value).getD 1 0) =
      value := by
  simp [readU16Be, u16BeBytes]
  omega

/-- One entry is read and the scan goes on behind it. -/
theorem scanLpp_entry
    (scan : LppScan)
    {entry rest : List UInt8}
    (long : 2 ≤ entry.length)
    (whole : lppEntryLen (entry.getD 1 0) = entry.length) :
    scanLpp scan (entry ++ rest) =
      scanLpp (scan.applyEntry (entry ++ rest)) rest := by
  have typeByte : (entry ++ rest).getD 1 0 = entry.getD 1 0 := by
    rw [List.getD_append _ _ _ _ (by omega)]
  rw [scanLpp, if_neg (by simp; omega), typeByte, whole,
    if_neg (by simp), List.drop_left]

/-- Three zeros are an entry: a device that is not charging. -/
theorem scanLpp_zeros
    (scan : LppScan)
    (count : Nat) :
    scanLpp scan (List.replicate count 0) =
      if count < 3 then scan
      else { scan with charging := some false } := by
  induction count using Nat.strongRecOn generalizing scan with
  | ind count inductionHypothesis =>
      by_cases few : count < 3
      · rw [if_pos few, scanLpp]
        by_cases none : count < 2
        · simp [none]
        · have two : count = 2 := by omega
          subst two
          rfl
      · rw [if_neg few]
        obtain ⟨more, rfl⟩ := Nat.exists_eq_add_of_le (Nat.le_of_not_lt few)
        have starts :
            List.replicate (3 + more) (0 : UInt8) =
              [0, 0, 0] ++ List.replicate more 0 := by
          rw [← List.replicate_append_replicate]
          rfl
        have applied :
            scan.applyEntry ([0, 0, 0] ++ List.replicate more 0) =
              { scan with charging := some false } := rfl
        rw [starts, scanLpp_entry scan (by decide) (by decide), applied,
          inductionHypothesis more (by omega)]
        split <;> rfl

namespace TelemetryReport

/-- The position entry gives the rounded position. -/
theorem scan_gpsEntry
    (report : TelemetryReport)
    (scan : LppScan)
    (rest : List UInt8) :
    scanLpp scan (report.gpsEntry ++ rest) =
      scanLpp
        { scan with
          gpsE4 :=
            (report.gps.map fun fix => (e4 fix.1, e4 fix.2)).or
              scan.gpsE4 }
        rest := by
  cases isGps : report.gps with
  | none =>
      have entry :
          report.gpsEntry = [telemChannelSelf, lppPresence, 0] := by
        rw [gpsEntry, isGps]
      rw [entry, scanLpp_entry scan (by decide) (by decide)]
      rfl
  | some fix =>
      obtain ⟨lat, lon⟩ := fix
      have entry :
          report.gpsEntry =
            [telemChannelSelf, lppGps] ++
              (i24BeBytes (e4 lat) ++
                (i24BeBytes (e4 lon) ++ i24BeBytes 0)) := by
        rw [gpsEntry, isGps]
      have applied :
          scan.applyEntry (report.gpsEntry ++ rest) =
            { scan with
              gpsE4 :=
                some
                  (readI24Be ((i24BeBytes (e4 lat)).getD 0 0)
                      ((i24BeBytes (e4 lat)).getD 1 0)
                      ((i24BeBytes (e4 lat)).getD 2 0),
                    readI24Be ((i24BeBytes (e4 lon)).getD 0 0)
                      ((i24BeBytes (e4 lon)).getD 1 0)
                      ((i24BeBytes (e4 lon)).getD 2 0)) } := by
        rw [entry]
        rfl
      have whole :
          lppEntryLen (report.gpsEntry.getD 1 0) =
            report.gpsEntry.length := by
        rw [entry]
        rfl
      have long : 2 ≤ report.gpsEntry.length := by
        rw [entry]
        simp
      obtain ⟨latLow, latHigh⟩ := e4_bounds lat
      obtain ⟨lonLow, lonHigh⟩ := e4_bounds lon
      rw [scanLpp_entry scan long whole, applied,
        readI24Be_bytes latLow latHigh, readI24Be_bytes lonLow lonHigh]
      rfl

/-- The battery entries give the percentage and the charging state. -/
theorem scan_batteryEntries
    (report : TelemetryReport)
    (scan : LppScan)
    (rest : List UInt8) :
    scanLpp scan (report.batteryEntries ++ rest) =
      scanLpp
        { scan with
          percent :=
            (report.battery.map fun battery => min battery.1 100).or
              scan.percent
          charging := (report.battery.map Prod.snd).or scan.charging }
        rest := by
  cases isBattery : report.battery with
  | none =>
      have entries : report.batteryEntries = [] := by
        rw [batteryEntries, isBattery]
      rw [entries]
      rfl
  | some battery =>
      obtain ⟨percent, charging⟩ := battery
      have entries :
          report.batteryEntries =
            [telemChannelSelf, lppPercentage, min percent 100] ++
              [telemChannelSelf, lppDigitalInput, charging.toUInt8] := by
        rw [batteryEntries, isBattery]
      have isFlag : (charging.toUInt8 != 0) = charging := by
        cases charging <;> rfl
      have applied :
          ∀ earlier : LppScan,
            earlier.applyEntry
                ([telemChannelSelf, lppDigitalInput, charging.toUInt8] ++
                  rest) =
              { earlier with charging := some charging } := by
        intro earlier
        have flag :
            earlier.applyEntry
                ([telemChannelSelf, lppDigitalInput, charging.toUInt8] ++
                  rest) =
              { earlier with
                charging := some (charging.toUInt8 != 0) } := rfl
        rw [flag, isFlag]
      rw [entries, List.append_assoc, scanLpp_entry scan (by simp) rfl,
        scanLpp_entry _ (by simp) rfl, applied]
      rfl

/-- The raw entry gives the raw reading. -/
theorem scan_rawEntry
    (report : TelemetryReport)
    (scan : LppScan)
    (rest : List UInt8) :
    scanLpp scan (report.rawEntry ++ rest) =
      scanLpp { scan with rawMv := report.rawMv.or scan.rawMv } rest := by
  cases isRaw : report.rawMv with
  | none =>
      have entry : report.rawEntry = [] := by
        rw [rawEntry, isRaw]
      rw [entry]
      rfl
  | some mv =>
      have entry :
          report.rawEntry =
            [telemChannelSelf, lppGenericSensor] ++ u32BeBytes mv := by
        rw [rawEntry, isRaw]
      have applied :
          scan.applyEntry (report.rawEntry ++ rest) =
            { scan with
              rawMv :=
                some
                  (readU32Be ((u32BeBytes mv).getD 0 0)
                    ((u32BeBytes mv).getD 1 0) ((u32BeBytes mv).getD 2 0)
                    ((u32BeBytes mv).getD 3 0)) } := by
        rw [entry]
        rfl
      rw [scanLpp_entry scan (by rw [entry]; simp) (by rw [entry]; rfl),
        applied, readU32Be_bytes]
      rfl

/-- The held entry gives the held reading, cut off at sixteen bits. -/
theorem scan_heldEntry
    (report : TelemetryReport)
    (scan : LppScan)
    (rest : List UInt8) :
    scanLpp scan (report.heldEntry ++ rest) =
      scanLpp
        { scan with
          heldRawMv :=
            (report.heldRawMv.map fun mv => min mv.toNat 65535).or
              scan.heldRawMv }
        rest := by
  cases isHeld : report.heldRawMv with
  | none =>
      have entry : report.heldEntry = [] := by
        rw [heldEntry, isHeld]
      rw [entry]
      rfl
  | some mv =>
      have entry :
          report.heldEntry =
            [telemChannelSelf, lppLuminosity] ++
              u16BeBytes (min mv.toNat 65535) := by
        rw [heldEntry, isHeld]
      have applied :
          scan.applyEntry (report.heldEntry ++ rest) =
            { scan with
              heldRawMv :=
                some
                  (readU16Be ((u16BeBytes (min mv.toNat 65535)).getD 0 0)
                    ((u16BeBytes (min mv.toNat 65535)).getD 1 0)) } := by
        rw [entry]
        rfl
      rw [scanLpp_entry scan (by rw [entry]; simp) (by rw [entry]; rfl),
        applied, readU16Be_bytes (Nat.min_le_right _ _)]
      rfl

/-- The level entry gives the level. -/
theorem scan_levelEntry
    (report : TelemetryReport)
    (scan : LppScan)
    (rest : List UInt8) :
    scanLpp scan (report.levelEntry ++ rest) =
      scanLpp { scan with level := report.level.or scan.level } rest := by
  cases isLevel : report.level with
  | none =>
      have entry : report.levelEntry = [] := by
        rw [levelEntry, isLevel]
      rw [entry]
      rfl
  | some ordinal =>
      have entry :
          report.levelEntry =
            [telemChannelSelf, lppDigitalOutput, ordinal] := by
        rw [levelEntry, isLevel]
      rw [entry, scanLpp_entry scan (by simp) rfl]
      rfl

/-- What the requester is to decode: the encoded fields and no others. -/
def received
    (report : TelemetryReport) :
    TelemetryResponseLpp :=
  { tag := report.tag
    gpsE4 := report.gps.map fun fix => (e4 fix.1, e4 fix.2)
    battery :=
      report.battery.map fun battery => (min battery.1 100, battery.2)
    batteryRawMv := report.rawMv
    batteryHeldRawMv := report.heldRawMv.map fun mv => min mv.toNat 65535
    batteryLevel := report.level
    batteryVoltageMv := none
    temperatureCX10 := none }

/-- The battery of the report, shown as not charging. -/
def notCharging
    (report : TelemetryReport) :
    TelemetryReport :=
  { report with
    battery := report.battery.map fun battery => (battery.1, false) }

/-- The zeros that padding puts behind the response. -/
def paddingLen
    (report : TelemetryReport) :
    Nat :=
  16 * Blocks.count 16 report.bytes - report.bytes.length

/--
The report is not of a charging battery, or its fields leave less than an entry
of padding: a position and the raw reading with exactly one of held reading and
level, or no position and nothing but the level.
-/
def PaddingHarmless
    (report : TelemetryReport) :
    Prop :=
  report.battery.map Prod.snd = some true →
    (report.gps.isSome = true ∧ report.rawMv.isSome = true ∧
        report.heldRawMv.isSome ≠ report.level.isSome) ∨
      (report.gps.isSome = false ∧ report.rawMv.isSome = false ∧
        report.heldRawMv.isSome = false ∧ report.level.isSome = true)

instance
    (report : TelemetryReport) :
    Decidable report.PaddingHarmless :=
  inferInstanceAs (Decidable (_ → _))

/-- The length of a response. -/
theorem length_bytes
    (report : TelemetryReport) :
    report.bytes.length =
      4 + (if report.gps.isSome then 11 else 3) +
        (if report.battery.isSome then 6 else 0) +
        (if report.rawMv.isSome then 6 else 0) +
        (if report.heldRawMv.isSome then 4 else 0) +
        (if report.level.isSome then 3 else 0) := by
  have gps :
      report.gpsEntry.length = if report.gps.isSome then 11 else 3 := by
    rw [gpsEntry]
    cases report.gps <;> rfl
  have battery :
      report.batteryEntries.length =
        if report.battery.isSome then 6 else 0 := by
    rw [batteryEntries]
    cases report.battery <;> rfl
  have raw :
      report.rawEntry.length = if report.rawMv.isSome then 6 else 0 := by
    rw [rawEntry]
    cases report.rawMv <;> rfl
  have held :
      report.heldEntry.length =
        if report.heldRawMv.isSome then 4 else 0 := by
    rw [heldEntry]
    cases report.heldRawMv <;> rfl
  have level :
      report.levelEntry.length = if report.level.isSome then 3 else 0 := by
    rw [levelEntry]
    cases report.level <;> rfl
  simp only [bytes, List.length_append, Vector.length_toList, gps, battery,
    raw, held, level]
  omega

/-- A whole response fits its buffer. -/
theorem encodeTelemetryResponseLpp_eq
    (report : TelemetryReport)
    {outLen : Nat}
    (fits : maxTelemetryResponseLen ≤ outLen) :
    encodeTelemetryResponseLpp report outLen = report.bytes := by
  have length := report.length_bytes
  have short : report.bytes.length ≤ maxTelemetryResponseLen := by
    rw [length, maxTelemetryResponseLen]
    repeat' split
    all_goals omega
  exact List.take_of_length_le (Nat.le_trans short fits)

/-- The scan of a response reads its fields before any padding. -/
theorem scan_bytes
    (report : TelemetryReport)
    (rest : List UInt8) :
    scanLpp .empty ((report.bytes ++ rest).drop 4) =
      scanLpp
        { LppScan.empty with
          gpsE4 := report.received.gpsE4
          percent := report.battery.map fun battery => min battery.1 100
          charging := report.battery.map Prod.snd
          rawMv := report.rawMv
          heldRawMv := report.received.batteryHeldRawMv
          level := report.level }
        rest := by
  have behindTag :
      (report.bytes ++ rest).drop 4 =
        report.gpsEntry ++ (report.batteryEntries ++ (report.rawEntry ++
          (report.heldEntry ++ (report.levelEntry ++ rest)))) := by
    simp only [bytes, List.append_assoc]
    exact List.drop_left' (by simp)
  rw [behindTag, scan_gpsEntry, scan_batteryEntries, scan_rawEntry,
    scan_heldEntry, scan_levelEntry]
  simp only [LppScan.empty, Option.or_none]
  rfl

/-- The tag is read back. -/
theorem decode_tag
    (report : TelemetryReport)
    (rest : List UInt8) :
    (Bytes.u32FromLeBytes
      (Vector.ofFn fun place : Fin 4 =>
        (report.bytes ++ rest).getD place 0)) =
      report.tag := by
  have sameBytes :
      (Vector.ofFn fun place : Fin 4 =>
        (report.bytes ++ rest).getD place 0) =
        Bytes.u32ToLeBytes report.tag := by
    apply Vector.ext
    intro place inside
    rw [Vector.getElem_ofFn, bytes, List.append_assoc,
      List.getD_append _ _ _ _ (by simpa using inside)]
    simp [inside]
  rw [sameBytes, Bytes.u32FromLeBytes_toLeBytes]

/-- Padded with zeros, a response loses its charging state to an entry. -/
theorem decode_padded
    (report : TelemetryReport)
    (padding : Nat) :
    decodeTelemetryResponseLpp
        (report.bytes ++ List.replicate padding 0) =
      some
        (if padding < 3 then report.received
        else report.notCharging.received) := by
  have long : ¬ (report.bytes ++ List.replicate padding 0).length < 4 := by
    have length := report.length_bytes
    rw [List.length_append]
    omega
  rw [decodeTelemetryResponseLpp, if_neg long, report.decode_tag,
    scan_bytes, scanLpp_zeros]
  by_cases few : padding < 3
  · simp only [if_pos few]
    cases isBattery : report.battery <;>
      simp [LppScan.response, LppScan.empty, received, isBattery]
  · simp only [if_neg few]
    cases isBattery : report.battery <;>
      simp [LppScan.response, LppScan.empty, received, notCharging,
        isBattery]

/-- With a charging battery the shape of the report decides the padding. -/
theorem paddingLen_lt_iff
    {report : TelemetryReport}
    (hasBattery : report.battery.isSome = true) :
    report.paddingLen < 3 ↔
      (report.gps.isSome = true ∧ report.rawMv.isSome = true ∧
          report.heldRawMv.isSome ≠ report.level.isSome) ∨
        (report.gps.isSome = false ∧ report.rawMv.isSome = false ∧
          report.heldRawMv.isSome = false ∧
          report.level.isSome = true) := by
  have length := report.length_bytes
  rw [paddingLen, Blocks.count, length, hasBattery]
  cases report.gps.isSome <;> cases report.rawMv.isSome <;>
    cases report.heldRawMv.isSome <;> cases report.level.isSome <;>
    decide

/-- The decoded fields are the encoded ones exactly on harmless padding. -/
theorem decode_padded_iff
    (report : TelemetryReport) :
    decodeTelemetryResponseLpp
        (report.bytes ++ List.replicate report.paddingLen 0) =
        some report.received ↔
      report.PaddingHarmless := by
  rw [decode_padded, Option.some_inj]
  cases isBattery : report.battery with
  | none =>
      have same : report.notCharging.received = report.received := by
        simp [notCharging, received, isBattery]
      simp [same, PaddingHarmless, isBattery]
  | some battery =>
      have shape :=
        @paddingLen_lt_iff report (by simp [isBattery])
      obtain ⟨percent, charging⟩ := battery
      by_cases few : report.paddingLen < 3
      · have harmless : report.PaddingHarmless :=
          fun _ => shape.mp few
        simp [few, harmless]
      · cases charging with
        | false =>
            have same : report.notCharging.received = report.received := by
              simp [notCharging, received, isBattery]
            simp [same, PaddingHarmless, isBattery]
        | true =>
            have differ : report.notCharging.received ≠ report.received := by
              simp [notCharging, received, isBattery]
            have harmful : ¬ report.PaddingHarmless := fun harmless =>
              few (shape.mpr (harmless (by simp [isBattery])))
            simp [few, differ, harmful]

/--
Over the air the requester decodes exactly the encoded fields if and only if
the padding is harmless.
-/
theorem telemetry_over_air_iff
    {crypto : Crypto}
    (inverse : crypto.DecryptsEncrypted)
    (secret : Key)
    (destHash srcHash : UInt8)
    (report : TelemetryReport)
    {outLen : Nat}
    (fits : maxTelemetryResponseLen ≤ outLen) :
    (∃ plaintext,
      decodeDmPayload crypto secret
          (encodeDmPayload crypto secret destHash srcHash
            (encodeTelemetryResponseLpp report outLen)) =
        .ok (destHash, srcHash, plaintext) ∧
      decodeTelemetryResponseLpp plaintext = some report.received) ↔
      report.PaddingHarmless := by
  rw [encodeTelemetryResponseLpp_eq report fits,
    decodeDmPayload_encode inverse, ← report.decode_padded_iff]
  have padded := Blocks.padded_eq_append (by decide : 0 < 16) report.bytes
  constructor
  · rintro ⟨plaintext, decoded, isReceived⟩
    cases decoded
    rw [padded] at isReceived
    exact isReceived
  · intro isReceived
    refine ⟨_, rfl, ?_⟩
    rw [padded]
    exact isReceived

/-- A charging device without a position that reports everything. -/
def charging : TelemetryReport :=
  { tag := 7
    gps := none
    battery := some (80, true)
    rawMv := some 4250
    heldRawMv := some 4100
    level := some 2 }

/-- The primitives on the responses of a device, charging and not, to the owner
of the first other key. -/
def telemetryFrames : CryptoRecord :=
  { ciphers :=
      [(Crypto.aesKey RecordedKeys.anaSecret,
          #v[0x07, 0x00, 0x00, 0x00, 0x01, 0x66, 0x00, 0x01, 0x78, 0x50,
            0x01, 0x00, 0x01, 0x01, 0x64, 0x00],
          #v[0xE0, 0x91, 0x78, 0xA2, 0x76, 0x98, 0x29, 0x63, 0xA0, 0x59,
            0xA1, 0x79, 0xFA, 0x40, 0x0D, 0xEA]),
        (Crypto.aesKey RecordedKeys.anaSecret,
          #v[0x00, 0x10, 0x9A, 0x01, 0x65, 0x10, 0x04, 0x01, 0x01, 0x02,
            0x00, 0x00, 0x00, 0x00, 0x00, 0x00],
          #v[0x87, 0x57, 0x09, 0xBF, 0xC3, 0x2B, 0xF4, 0xC2, 0xA4, 0x94,
            0x0D, 0x53, 0xB8, 0xFB, 0x6C, 0xF7]),
        (Crypto.aesKey RecordedKeys.anaSecret,
          #v[0x07, 0x00, 0x00, 0x00, 0x01, 0x66, 0x00, 0x01, 0x78, 0x50,
            0x01, 0x00, 0x00, 0x01, 0x64, 0x00],
          #v[0xD6, 0x87, 0x7C, 0xF9, 0x90, 0x59, 0xE3, 0x25, 0x4D, 0x77,
            0xF9, 0xCD, 0x8D, 0x08, 0xCB, 0xB3])]
    codes :=
      [(RecordedKeys.anaSecret.toList,
          [0xE0, 0x91, 0x78, 0xA2, 0x76, 0x98, 0x29, 0x63, 0xA0, 0x59, 0xA1,
            0x79, 0xFA, 0x40, 0x0D, 0xEA, 0x87, 0x57, 0x09, 0xBF, 0xC3, 0x2B,
            0xF4, 0xC2, 0xA4, 0x94, 0x0D, 0x53, 0xB8, 0xFB, 0x6C, 0xF7],
          #v[0x3C, 0x62, 0xF7, 0x58, 0x2E, 0x7E, 0xF3, 0x26, 0x78, 0xEF,
            0x44, 0x96, 0x32, 0xA9, 0xE6, 0x11, 0xA3, 0x1D, 0x42, 0xF4, 0xF6,
            0x79, 0xFC, 0xDA, 0x49, 0x89, 0xE3, 0xEA, 0xB8, 0xD6, 0xD1, 0x7D]),
        (RecordedKeys.anaSecret.toList,
          [0xD6, 0x87, 0x7C, 0xF9, 0x90, 0x59, 0xE3, 0x25, 0x4D, 0x77, 0xF9,
            0xCD, 0x8D, 0x08, 0xCB, 0xB3, 0x87, 0x57, 0x09, 0xBF, 0xC3, 0x2B,
            0xF4, 0xC2, 0xA4, 0x94, 0x0D, 0x53, 0xB8, 0xFB, 0x6C, 0xF7],
          #v[0xAE, 0xBB, 0x8F, 0x09, 0x6E, 0x41, 0x09, 0x28, 0xBD, 0xF6,
            0xA1, 0xF7, 0x7D, 0x41, 0x2B, 0xD3, 0x1B, 0x29, 0x23, 0x80, 0xE4,
            0x73, 0x5E, 0xAF, 0x3F, 0xA6, 0x8E, 0xCA, 0xD8, 0xB1, 0x36, 0x5F])]
    digests := []
    agreements := [] }

/-- The charging device is decoded as one that is not charging. -/
theorem charging_lost :
    ¬ ∀ (crypto : Crypto), crypto.DecryptsEncrypted →
      ∀ (secret : Key) (destHash srcHash : UInt8) (report : TelemetryReport),
        ∃ plaintext,
          decodeDmPayload crypto secret
              (encodeDmPayload crypto secret destHash srcHash
                (encodeTelemetryResponseLpp report
                  maxTelemetryResponseLen)) =
            .ok (destHash, srcHash, plaintext) ∧
          decodeTelemetryResponseLpp plaintext = some report.received := by
  intro always
  obtain ⟨plaintext, decoded, isReceived⟩ :=
    always telemetryFrames.crypto telemetryFrames.decryptsEncrypted
      RecordedKeys.anaSecret 0x0B 0x8A charging
  rw [encodeTelemetryResponseLpp_eq charging (Nat.le_refl _),
    decodeDmPayload_encode telemetryFrames.decryptsEncrypted] at decoded
  cases decoded
  rw [Blocks.padded_eq_append (by decide : 0 < 16)] at isReceived
  exact absurd (charging.decode_padded_iff.mp isReceived) (by decide)

/-- The same device off the charger is decoded as it was encoded. -/
theorem telemetry_over_air_discharging :
    encodeDmPayload telemetryFrames.crypto RecordedKeys.anaSecret 0x0B 0x8A
        (encodeTelemetryResponseLpp charging.notCharging 40) =
      [0x0B, 0x8A, 0xAE, 0xBB, 0xD6, 0x87, 0x7C, 0xF9, 0x90, 0x59, 0xE3,
        0x25, 0x4D, 0x77, 0xF9, 0xCD, 0x8D, 0x08, 0xCB, 0xB3, 0x87, 0x57,
        0x09, 0xBF, 0xC3, 0x2B, 0xF4, 0xC2, 0xA4, 0x94, 0x0D, 0x53, 0xB8,
        0xFB, 0x6C, 0xF7] ∧
      ∃ plaintext,
        decodeDmPayload telemetryFrames.crypto RecordedKeys.anaSecret
            (encodeDmPayload telemetryFrames.crypto RecordedKeys.anaSecret
              0x0B 0x8A
              (encodeTelemetryResponseLpp charging.notCharging 40)) =
          .ok (0x0B, 0x8A, plaintext) ∧
        decodeTelemetryResponseLpp plaintext =
          some charging.notCharging.received :=
  ⟨by decide +kernel,
    (telemetry_over_air_iff telemetryFrames.decryptsEncrypted
      RecordedKeys.anaSecret 0x0B 0x8A charging.notCharging
      (by decide : maxTelemetryResponseLen ≤ 40)).mpr (by decide)⟩

end TelemetryReport

end MeshCadet
