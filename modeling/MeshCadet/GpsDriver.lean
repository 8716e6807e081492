import MeshCadet.LineCollector
import MeshCadet.NmeaDetection
import MeshCadet.NmeaPositions
import MeshCadet.Utf8Text

/-!
# The driver of the GPS receiver

A receiver talks at one of a few rates.  The driver probes for the rate at the first
boot and keeps it in flash; a kept rate at which nothing is heard for five seconds is
probed for again, a slice of work at each call.  Otherwise a call reads what the port
has, collects lines and parses them: a position is kept, and a date sets the clock.
Once there is a position the port is read for 30 seconds every 120 seconds, and the
lock that keeps the port's clock steady is held while it is read.
-/

namespace MeshCadet

open Outcome NmeaDetection

/-- The rates a receiver may talk at. -/
def gpsBaudCandidates : List Nat :=
  [9600, 38400, 115200]

/-- The rate the port is opened at. -/
def gpsBaud : Nat :=
  9600

/-- How long the port is read at a time. -/
def gpsActiveWindowMs : Nat :=
  30000

/-- How long the port is left alone. -/
def gpsQuietIntervalMs : Nat :=
  120000

/-- How long a rate is probed. -/
def baudProbeWindowMs : Nat :=
  1100

/-- How long a kept rate may be silent. -/
def cachedBaudSilenceTimeoutMs : Nat :=
  5000

/-- An open window closes. -/
def shouldCloseActiveWindow
    (hasFix : Bool)
    (elapsedMs : Nat) :
    Bool :=
  hasFix && decide (gpsActiveWindowMs ≤ elapsedMs)

/-- A window opens again. -/
def shouldReopenActiveWindow
    (elapsedMs : Nat) :
    Bool :=
  decide (gpsQuietIntervalMs ≤ elapsedMs)

/-- What is done with the lock when a window opens or closes. -/
inductive PmLockAction where
  | acquire
  | release
  | none
deriving Repr, DecidableEq

/-- What is done with the lock. -/
def activeWindowPmLockAction
    (wasActive isActive : Bool) :
    PmLockAction :=
  match wasActive, isActive with
  | false, true => .acquire
  | true, false => .release
  | _, _ => .none

/-- A date with a fix sets the clock; one without only if nothing has set it. -/
def shouldAcceptClockSync
    (newSyncVerified alreadySynced : Bool) :
    Bool :=
  newSyncVerified || !alreadySynced

/-- The time by the clock that was set at an uptime. -/
def syncedWallClockSecs
    (nowMs : Nat)
    (syncAnchor : Option (Nat × Int)) :
    Option Nat :=
  syncAnchor.map fun (syncUptimeMs, syncUnixSecs) =>
    FixedWidth.toUnsigned 32
      (max (syncUnixSecs + ((nowMs - syncUptimeMs) / 1000 : Nat)) 0)

/-- Commands for a receiver at the first rate. -/
def l76kInitCommands : List (List UInt8) :=
  [ascii "$PCAS04,7*1E\r\n",
    ascii "$PCAS03,1,0,0,0,1,0,0,0,0,0,,,0,0*02\r\n",
    ascii "$PCAS11,3*1E\r\n"]

/-- Commands for a receiver at another rate. -/
def ubloxInitCommands : List (List UInt8) :=
  [ascii "$PUBX,40,GGA,0,1,0,0,0,0*5B\r\n",
    ascii "$PUBX,40,RMC,0,1,0,0,0,0*46\r\n"]

/-- A position and when it was read. -/
structure GpsFix where
  latE7 : Int
  lonE7 : Int
  capturedUptimeMs : Nat
deriving Repr, DecidableEq

/-- The port: its rate, the bytes it has, and the commands written to it. -/
structure GpsUart where
  baud : Nat
  fifo : List UInt8
  written : List (List UInt8)
deriving Repr, DecidableEq

/-- What the hardware does during a call: how many reads succeed, at which rates the
port can be set, whether it is set back and emptied, whether the rate is kept, and
which times the system takes. -/
structure GpsHardware where
  reads : Nat
  switches : Nat → Bool
  restores : Bool
  clears : Bool
  saves : Bool
  setsClock : Int → Bool

namespace GpsUart

/-- Read bytes one by one, until one read fails or there are none. -/
def readUpTo
    (uart : GpsUart)
    (hardware : GpsHardware)
    (limit : Nat) :
    List UInt8 × GpsUart :=
  (uart.fifo.take (min hardware.reads limit),
    { uart with fifo := uart.fifo.drop (min hardware.reads limit) })

/-- Drop what was received. -/
def clearRx
    (uart : GpsUart)
    (hardware : GpsHardware) :
    GpsUart :=
  if hardware.clears then { uart with fifo := [] } else uart

/-- Set the port back to the first rate. -/
def restore
    (uart : GpsUart)
    (restores : Bool) :
    GpsUart :=
  if restores then { uart with baud := gpsBaud } else uart

/-- Write the commands for the receiver at a rate. -/
def sendInitCommands
    (uart : GpsUart)
    (detectedBaud : Nat) :
    GpsUart :=
  { uart with
    written :=
      uart.written ++
        if detectedBaud = gpsBaud then l76kInitCommands
        else ubloxInitCommands }

end GpsUart

/-- What was heard: the position, the clock that was set, when a sentence was heard
last, the satellites, and what the system's clock was set to.  After a panic nothing
more is done. -/
structure GpsHeard where
  cachedFix : Option GpsFix
  lastClockSyncUptimeMs : Option Nat
  lastClockSyncUnixSecs : Option Int
  lastClockSyncVerified : Bool
  lastNmeaSeenUptimeMs : Option Nat
  lastSatCount : Nat
  systemClock : Option Int
  panicked : Bool
deriving Repr, DecidableEq

namespace GpsHeard

/-- Nothing was heard. -/
def nothing : GpsHeard :=
  { cachedFix := none
    lastClockSyncUptimeMs := none
    lastClockSyncUnixSecs := none
    lastClockSyncVerified := false
    lastNmeaSeenUptimeMs := none
    lastSatCount := 0
    systemClock := none
    panicked := false }

/-- A line with a dollar sign in front is a sign of life. -/
def seeSentence
    (heard : GpsHeard)
    (nowMs : Nat)
    (line : List UInt8) :
    GpsHeard :=
  if line.head? = some 36 then
    { heard with lastNmeaSeenUptimeMs := some nowMs }
  else
    heard

/-- Keep the satellites and the position. -/
def takeGga
    (heard : GpsHeard)
    (nowMs : Nat)
    (gga : GgaFields) :
    GpsHeard :=
  let counted := { heard with lastSatCount := gga.satCount }
  match gga.coords with
  | some (latE7, lonE7) =>
      { counted with
        cachedFix :=
          some
            { latE7 := latE7
              lonE7 := lonE7
              capturedUptimeMs := nowMs } }
  | none => counted

/-- Set the clock from a date and time. -/
def syncClock
    (heard : GpsHeard)
    (setsClock : Int → Bool)
    (nowMs : Nat)
    (dateTime : NmeaDateTime) :
    GpsHeard :=
  if shouldAcceptClockSync dateTime.verified
      heard.lastClockSyncUptimeMs.isSome then
    match timestampOf dateTime.civil with
    | .value unixSecs =>
        if setsClock unixSecs then
          { heard with
            systemClock := some unixSecs
            lastClockSyncUptimeMs := some nowMs
            lastClockSyncUnixSecs := some unixSecs
            lastClockSyncVerified := dateTime.verified }
        else
          heard
    | .failed _ => heard
    | .panicked => { heard with panicked := true }
  else
    heard

/-- Parse a line as a date. -/
def takeRmc
    (heard : GpsHeard)
    (setsClock : Int → Bool)
    (nowMs : Nat)
    (line : List UInt8) :
    GpsHeard :=
  match parseRmcDatetime line with
  | .value dateTime => heard.syncClock setsClock nowMs dateTime
  | .failed _ => heard
  | .panicked => { heard with panicked := true }

/-- Parse a line as a position and as a date. -/
def parseLine
    (heard : GpsHeard)
    (setsClock : Int → Bool)
    (nowMs : Nat)
    (line : List UInt8) :
    GpsHeard :=
  let seen := heard.seeSentence nowMs line
  match parseGga line with
  | .value gga =>
      (seen.takeGga nowMs gga).takeRmc setsClock nowMs line
  | .failed _ => seen.takeRmc setsClock nowMs line
  | .panicked => { seen with panicked := true }

end GpsHeard

/-- What was heard, and the line that is not complete. -/
structure GpsReader extends GpsHeard where
  line : BoundedList UInt8 128
deriving Repr, DecidableEq

/-- Take a byte: a line is parsed at its end, and an overlong one starts again. -/
def GpsReader.takeByte
    (reader : GpsReader)
    (setsClock : Int → Bool)
    (nowMs : Nat)
    (b : UInt8) :
    GpsReader :=
  if reader.panicked then
    reader
  else if b = 10 then
    { toGpsHeard :=
        reader.toGpsHeard.parseLine setsClock nowMs reader.line.elements
      line := .empty }
  else if b ≠ 13 then
    { reader with line := LineCollector.pushOrRestart reader.line b }
  else
    reader

/-- The driver.  `cachedBaud` is the rate in flash, and `apbLock` counts how often the
lock was acquired and not released. -/
structure GpsDriver extends GpsReader where
  uart : GpsUart
  cachedBaud : Option Nat
  detectedBaud : Nat
  baudConfirmed : Bool
  driverStartUptimeMs : Nat
  reprobeCandidateIdx : Option Nat
  reprobeWindowStartMs : Nat
  reprobeBuf : BoundedList UInt8 256
  active : Bool
  periodStartMs : Nat
  apbLock : Nat
deriving Repr, DecidableEq

namespace GpsDriver

/-- What is heard when the driver is made: the rate in flash, whether the port takes
it, the bytes each rate gives, what the port does, and what it has afterwards. -/
structure Boot where
  cached : Option Nat
  takesCached : Bool
  samples : Nat → List UInt8
  switches : Nat → Bool
  restores : Bool
  saves : Bool
  waiting : List UInt8
  nowMs : Nat

/-- The first rate at which a sentence is heard. -/
def probeCandidates
    (boot : Boot)
    (candidates : List Nat) :
    Option Nat :=
  candidates.find? fun baud =>
    boot.switches baud &&
      containsChecksumValidNmea ((boot.samples baud).take 256)

/-- The rate of the port when no rate was found: the last it could be set to. -/
def lastSwitched
    (boot : Boot) :
    Nat :=
  ((gpsBaudCandidates.filter boot.switches).getLast?).getD gpsBaud

/-- Probe for the rate and keep it: the rate, the port's rate and the rate in flash. -/
def fullProbeAndPersist
    (boot : Boot) :
    Nat × Nat × Option Nat :=
  match probeCandidates boot gpsBaudCandidates with
  | some baud =>
      (baud, baud, if boot.saves then some baud else boot.cached)
  | none =>
      (gpsBaud, if boot.restores then gpsBaud else lastSwitched boot,
        boot.cached)

/-- The rate of a new driver, the port's rate, the rate in flash, and whether the rate
was probed for. -/
def bootBaud
    (boot : Boot) :
    (Nat × Nat × Option Nat) × Bool :=
  match boot.cached with
  | some cachedBaud =>
      if cachedBaud ≠ gpsBaud then
        if boot.takesCached then
          ((cachedBaud, cachedBaud, boot.cached), false)
        else
          (fullProbeAndPersist boot, true)
      else
        ((cachedBaud, gpsBaud, boot.cached), false)
  | none => (fullProbeAndPersist boot, true)

/-- A new driver, with its window open. -/
def new
    (boot : Boot) :
    GpsDriver :=
  let ((detectedBaud, portBaud, cachedBaud), baudConfirmed) :=
    bootBaud boot
  { toGpsHeard := .nothing
    line := .empty
    uart :=
      ({ baud := portBaud, fifo := boot.waiting, written := [] } :
        GpsUart).sendInitCommands detectedBaud
    cachedBaud := cachedBaud
    detectedBaud := detectedBaud
    baudConfirmed := baudConfirmed
    driverStartUptimeMs := boot.nowMs
    reprobeCandidateIdx := none
    reprobeWindowStartMs := boot.nowMs
    reprobeBuf := .empty
    active := true
    periodStartMs := boot.nowMs
    apbLock := 1 }

/-- No rate was found: back to the first. -/
def concludeReprobeNoMatch
    (driver : GpsDriver)
    (hardware : GpsHardware) :
    GpsDriver :=
  { driver with
    uart := driver.uart.restore hardware.restores
    detectedBaud := gpsBaud
    baudConfirmed := true
    reprobeCandidateIdx := none }

/-- Start to probe a candidate, with the port set to it. -/
def probeCandidate
    (driver : GpsDriver)
    (hardware : GpsHardware)
    (nowMs candidateIdx baud : Nat) :
    GpsDriver :=
  { driver with
    uart := ({ driver.uart with baud := baud }).clearRx hardware
    reprobeCandidateIdx := some candidateIdx
    reprobeWindowStartMs := nowMs
    reprobeBuf := .empty }

/-- Probe the first of some candidates that the port can be set to. -/
def beginReprobeFrom
    (driver : GpsDriver)
    (hardware : GpsHardware)
    (nowMs : Nat) :
    Nat → List Nat → GpsDriver
  | _, [] => driver.concludeReprobeNoMatch hardware
  | candidateIdx, baud :: rest =>
      if hardware.switches baud then
        driver.probeCandidate hardware nowMs candidateIdx baud
      else
        driver.beginReprobeFrom hardware nowMs (candidateIdx + 1) rest

/-- Probe a candidate, or a later one if the port cannot be set to it. -/
def beginReprobeWindow
    (driver : GpsDriver)
    (hardware : GpsHardware)
    (nowMs candidateIdx : Nat) :
    GpsDriver :=
  driver.beginReprobeFrom hardware nowMs candidateIdx
    (gpsBaudCandidates.drop candidateIdx)

/-- The kept rate is due to be probed for again. -/
def reprobeDue
    (driver : GpsDriver)
    (nowMs : Nat) :
    Bool :=
  !driver.baudConfirmed && driver.lastNmeaSeenUptimeMs.isNone &&
    decide
      (cachedBaudSilenceTimeoutMs ≤ nowMs - driver.driverStartUptimeMs)

/-- Probe again for a kept rate at which nothing was heard. -/
def maybeReprobeStaleCachedBaud
    (driver : GpsDriver)
    (hardware : GpsHardware)
    (nowMs : Nat) :
    GpsDriver :=
  if driver.baudConfirmed then
    driver
  else if driver.lastNmeaSeenUptimeMs.isSome then
    { driver with baudConfirmed := true }
  else if nowMs - driver.driverStartUptimeMs <
      cachedBaudSilenceTimeoutMs then
    driver
  else
    ({ driver with line := .empty } : GpsDriver).beginReprobeWindow hardware
      nowMs 0

/-- Collect what the port has for the candidate that is probed. -/
def sampleReprobe
    (driver : GpsDriver)
    (hardware : GpsHardware) :
    GpsDriver :=
  let room := 256 - driver.reprobeBuf.elements.length
  { driver with
    uart := (driver.uart.readUpTo hardware room).2
    reprobeBuf :=
      { elements :=
          driver.reprobeBuf.elements ++
            (driver.uart.readUpTo hardware room).1
        fits := by
          have fits := driver.reprobeBuf.fits
          have few : (driver.uart.readUpTo hardware room).1.length ≤ room :=
            Nat.le_trans (List.length_take_le _ _) (Nat.min_le_right _ _)
          rw [List.length_append]
          omega } }

/-- The rate was found: it is kept, and a receiver at another rate is set up. -/
def lockReprobe
    (driver : GpsDriver)
    (hardware : GpsHardware)
    (candidate : Nat) :
    GpsDriver :=
  { driver with
    cachedBaud :=
      if hardware.saves then some candidate else driver.cachedBaud
    uart :=
      if candidate ≠ driver.detectedBaud then
        driver.uart.sendInitCommands candidate
      else driver.uart
    detectedBaud := candidate
    baudConfirmed := true
    reprobeCandidateIdx := none }

/-- A slice of probing: collect bytes, and at the end of a window check them. -/
def serviceReprobe
    (driver : GpsDriver)
    (hardware : GpsHardware)
    (nowMs : Nat) :
    GpsDriver :=
  match driver.reprobeCandidateIdx with
  | none => driver
  | some candidateIdx =>
      let sampled := driver.sampleReprobe hardware
      let windowElapsed := nowMs - driver.reprobeWindowStartMs
      if windowElapsed % 2 ^ 32 < baudProbeWindowMs ∧
          sampled.reprobeBuf.elements.length < 256 then
        sampled
      else
        match gpsBaudCandidates[candidateIdx]? with
        | none => { sampled with panicked := true }
        | some candidate =>
            if containsChecksumValidNmea sampled.reprobeBuf.elements then
              sampled.lockReprobe hardware candidate
            else
              sampled.beginReprobeWindow hardware nowMs (candidateIdx + 1)

/-- Read up to 256 bytes and parse the lines they complete. -/
def drainUart
    (driver : GpsDriver)
    (hardware : GpsHardware)
    (nowMs : Nat) :
    GpsDriver :=
  { driver with
    toGpsReader :=
      (driver.uart.readUpTo hardware 256).1.foldl
        (fun reader b => reader.takeByte hardware.setsClock nowMs b)
        driver.toGpsReader
    uart := (driver.uart.readUpTo hardware 256).2 }

/-- Close the window if it is due. -/
def closeWindow
    (driver : GpsDriver)
    (nowMs : Nat) :
    GpsDriver :=
  if shouldCloseActiveWindow driver.cachedFix.isSome
      (nowMs - driver.periodStartMs) then
    { driver with
      apbLock := driver.apbLock - 1
      active := false
      periodStartMs := nowMs }
  else
    driver

/-- Open the window if it is due. -/
def openWindow
    (driver : GpsDriver)
    (nowMs : Nat) :
    GpsDriver :=
  if shouldReopenActiveWindow (nowMs - driver.periodStartMs) then
    { driver with
      apbLock := driver.apbLock + 1
      active := true
      periodStartMs := nowMs }
  else
    driver

/-- Read the port while its window is open, and close or open the window. -/
def dutyCycle
    (driver : GpsDriver)
    (hardware : GpsHardware)
    (nowMs : Nat) :
    GpsDriver :=
  if driver.active then
    let drained := driver.drainUart hardware nowMs
    if drained.panicked then drained else drained.closeWindow nowMs
  else
    driver.openWindow nowMs

/-- One call: a slice of probing, or reading and the windows. -/
def poll
    (driver : GpsDriver)
    (hardware : GpsHardware)
    (nowMs : Nat) :
    GpsDriver :=
  if driver.panicked then
    driver
  else if driver.reprobeCandidateIdx.isSome then
    driver.serviceReprobe hardware nowMs
  else
    let checked := driver.maybeReprobeStaleCachedBaud hardware nowMs
    if checked.reprobeCandidateIdx.isSome then
      checked
    else
      checked.dutyCycle hardware nowMs

/-- The position and its age in seconds. -/
def getFixAndAge
    (driver : GpsDriver)
    (nowMs : Nat) :
    Option (Int × Int × Nat) :=
  driver.cachedFix.map fun fix =>
    (fix.latE7, fix.lonE7, (nowMs - fix.capturedUptimeMs) / 1000 % 2 ^ 32)

/-- When the clock was set, and to what. -/
def clockSyncAnchor
    (driver : GpsDriver) :
    Option (Nat × Int) :=
  match driver.lastClockSyncUptimeMs, driver.lastClockSyncUnixSecs with
  | some uptimeMs, some unixSecs => some (uptimeMs, unixSecs)
  | _, _ => none

end GpsDriver

/-- Whether there is a position, or any sign of life. -/
inductive FixState where
  | noSignal
  | acquiring
  | fix
deriving Repr, DecidableEq

/-- What is shown of the driver. -/
structure GpsStatus where
  hasFix : Bool
  fixState : FixState
  latE7 : Int
  lonE7 : Int
  fixAgeSecs : Nat
  satCount : Nat
  clockSynced : Bool
  clockSyncVerified : Bool
  clockSyncAgeSecs : Nat
  clockUnixSecs : Option Nat
deriving Repr, DecidableEq

/-- What is shown of the driver at an uptime. -/
def GpsDriver.status
    (driver : GpsDriver)
    (nowMs : Nat) :
    GpsStatus :=
  let fix := driver.getFixAndAge nowMs
  { hasFix := fix.isSome
    fixState :=
      if fix.isSome then .fix
      else if driver.lastNmeaSeenUptimeMs.isSome then .acquiring
      else .noSignal
    latE7 := fix.elim 0 (·.1)
    lonE7 := fix.elim 0 (·.2.1)
    fixAgeSecs := fix.elim 0 (·.2.2)
    satCount := driver.lastSatCount
    clockSynced := driver.lastClockSyncUptimeMs.isSome
    clockSyncVerified := driver.lastClockSyncVerified
    clockSyncAgeSecs :=
      driver.lastClockSyncUptimeMs.elim 0 fun syncMs =>
        (nowMs - syncMs) / 1000 % 2 ^ 32
    clockUnixSecs := syncedWallClockSecs nowMs driver.clockSyncAnchor }

end MeshCadet
