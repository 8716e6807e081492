import MeshCadet.BufferFills
import MeshCadet.HostFrames

namespace MeshCadet

/-!
# The blob of the runtime settings

The menu changes settings, and a blob keeps them.  Two versions of the blob, each
with two lengths, are read; what a blob does not have takes its default.  The
timeouts and the brightness are clamped when they are set, written and read.  The
number of contacts and the lock flags are read as they were stored.
-/

namespace RuntimeSettingsStore

open Outcome BufferFills

section Clamping

variable {α : Type} [LE α] [LT α] [DecidableLT α] {low high value : α}

/-- A value moved between two bounds. -/
def clamp
    (low high value : α) :
    α :=
  if value < low then
    low
  else if high < value then
    high
  else
    value

variable [Std.IsLinearOrder α] [Std.LawfulOrderLT α]

/-- A clamped value is between the bounds. -/
theorem clamp_bounds
    (ordered : low ≤ high) :
    low ≤ clamp low high value ∧ clamp low high value ≤ high := by
  rw [clamp]
  split
  · exact ⟨Std.le_refl low, ordered⟩
  rename_i notBelow
  split
  · exact ⟨ordered, Std.le_refl high⟩
  rename_i notAbove
  exact ⟨Std.not_lt.mp notBelow, Std.not_lt.mp notAbove⟩

/-- A value between the bounds stays. -/
theorem clamp_eq
    (atLeast : low ≤ value)
    (atMost : value ≤ high) :
    clamp low high value = value := by
  rw [clamp, if_neg (Std.not_lt.mpr atLeast), if_neg (Std.not_lt.mpr atMost)]

/-- A value is moved below a bound. -/
theorem min_le_bound
    (value high : UInt8) :
    min value high ≤ high :=
  Std.min_le_right

/-- A value below a bound stays. -/
theorem min_min_eq
    {value high : UInt8}
    (atMost : value ≤ high) :
    min (min value high) high = value := by
  have same : min value high = value := if_pos atMost
  rw [same, same]

end Clamping

/-- Contacts with a telemetry flag. -/
def maxContacts : Nat :=
  16

/-- Seconds to screen sleep unless set. -/
def screenSleepDefaultS : UInt8 :=
  30

/-- The longest time to screen sleep. -/
def screenSleepMaxS : UInt8 :=
  120

/-- The brightness unless set. -/
def backlightBrightnessDefaultPct : UInt8 :=
  100

/-- The highest brightness. -/
def backlightBrightnessMaxPct : UInt8 :=
  100

/-- The lowest brightness. -/
def backlightBrightnessMinPct : UInt8 :=
  10

/-- The shortest time to the lock. -/
def lockTimeoutMinS : UInt16 :=
  15

/-- The longest time to the lock. -/
def lockTimeoutMaxS : UInt16 :=
  3600

/-- Seconds to the lock unless set. -/
def lockTimeoutDefaultS : UInt16 :=
  300

/-- The flag of the screen lock. -/
def lockScreenEnable : UInt8 :=
  0x01

/-- The flag that the device may not take the lock away. -/
def lockNoDeviceDisable : UInt8 :=
  0x02

/-- The flags there are. -/
def lockFlagsDefinedMask : UInt8 :=
  lockScreenEnable ||| lockNoDeviceDisable

/-- The settings. -/
structure RuntimeSettings where
  notifVisual : Bool
  notifAudible : Bool
  contactTelemetry : Vector Bool maxContacts
  contactCount : UInt8
  lockFlags : UInt8
  screenSleepTimeoutS : UInt8
  lockTimeoutS : UInt16
  backlightBrightness : UInt8
deriving Repr, DecidableEq

/-- The default settings. -/
def defaultEnabled : RuntimeSettings :=
  { notifVisual := true
    notifAudible := true
    contactTelemetry := Vector.replicate maxContacts false
    contactCount := 0
    lockFlags := 0
    screenSleepTimeoutS := screenSleepDefaultS
    lockTimeoutS := lockTimeoutDefaultS
    backlightBrightness := backlightBrightnessDefaultPct }

/-- What the menu does with the settings. -/
inductive MenuAction where
  | setNotifVisual (v : Bool)
  | setNotifAudible (v : Bool)
  | setContactTelemetry (contactIndex : Nat) (enabled : Bool)
  | setLockFlags (flags : UInt8)
  | setScreenSleepTimeout (secs : UInt8)
  | setLockEnabled (enabled : Bool)
  | setLockTimeout (secs : UInt16)
  | setBacklightBrightness (pct : UInt8)
deriving Repr, DecidableEq

/-- Apply an action of the menu. -/
def applyMenuAction
    (action : MenuAction)
    (settings : RuntimeSettings) :
    RuntimeSettings :=
  match action with
  | .setNotifVisual v => { settings with notifVisual := v }
  | .setNotifAudible v => { settings with notifAudible := v }
  | .setContactTelemetry contactIndex enabled =>
      { settings with
        contactTelemetry :=
          settings.contactTelemetry.setIfInBounds contactIndex enabled }
  | .setLockFlags flags =>
      { settings with lockFlags := flags &&& lockFlagsDefinedMask }
  | .setScreenSleepTimeout secs =>
      { settings with screenSleepTimeoutS := min secs screenSleepMaxS }
  | .setLockEnabled enabled =>
      { settings with
        lockFlags :=
          if enabled then
            settings.lockFlags ||| lockScreenEnable
          else
            settings.lockFlags &&& ~~~lockScreenEnable }
  | .setLockTimeout secs =>
      { settings with
        lockTimeoutS := clamp lockTimeoutMinS lockTimeoutMaxS secs }
  | .setBacklightBrightness pct =>
      { settings with
        backlightBrightness :=
          clamp backlightBrightnessMinPct backlightBrightnessMaxPct pct }

/-- The version that is written. -/
def version : UInt8 :=
  0x02

/-- The version before. -/
def versionV1 : UInt8 :=
  0x01

/-- Bytes of a blob before the time to screen sleep was stored. -/
def v1LegacyBlobLen : Nat :=
  5 + maxContacts

/-- Bytes of a blob of the version before. -/
def v1BlobLen : Nat :=
  v1LegacyBlobLen + 1

/-- Bytes of a blob before the brightness was stored. -/
def v2LegacyBlobLen : Nat :=
  v1BlobLen + 2

/-- Bytes of a blob. -/
def blobLen : Nat :=
  v2LegacyBlobLen + 1

/-- The settings where there is no blob. -/
def fallbackSettings
    (notifDefaults : Bool × Bool) :
    RuntimeSettings :=
  { defaultEnabled with
    notifVisual := notifDefaults.1
    notifAudible := notifDefaults.2 }

/-- A flag as a byte. -/
def flagByte
    (flag : Bool) :
    UInt8 :=
  if flag then 1 else 0

/-- Write the settings. -/
def serialize
    (s : RuntimeSettings) :
    Writer Unit :=
  fun out => do
    let out ← write out 0 [version]
    let out ← write out 1 [flagByte s.notifVisual]
    let out ← write out 2 [flagByte s.notifAudible]
    let out ← write out 3 [s.contactCount]
    let out ← write out 4 [s.lockFlags]
    let out ← write out 5 (s.contactTelemetry.toList.map flagByte)
    let out ←
      write out v1LegacyBlobLen [min s.screenSleepTimeoutS screenSleepMaxS]
    let lockTimeoutS := clamp lockTimeoutMinS lockTimeoutMaxS s.lockTimeoutS
    let out ← write out v1BlobLen [UInt8.ofNat lockTimeoutS.toNat]
    let out ←
      write out (v1BlobLen + 1) [UInt8.ofNat (lockTimeoutS.toNat >>> 8)]
    let out ←
      write out v2LegacyBlobLen
        [clamp backlightBrightnessMinPct backlightBrightnessMaxPct
          s.backlightBrightness]
    pure (out, blobLen)

/-- The fields that all blobs have; the others take their defaults. -/
def parseCommonFields
    (blob : List UInt8) :
    Outcome Unit RuntimeSettings := do
  let notifVisual ← flagAt blob 1
  let notifAudible ← flagAt blob 2
  let contactCount ← index blob 3
  let lockFlags ← index blob 4
  let telemetry ← arrayAt maxContacts blob 5 (5 + maxContacts)
  pure
    { defaultEnabled with
      notifVisual := notifVisual
      notifAudible := notifAudible
      contactCount := contactCount
      lockFlags := lockFlags
      contactTelemetry := telemetry.map (· != 0) }

/-- The brightness of a blob that may be too short for it. -/
def parseBrightness
    (blob : List UInt8) :
    Outcome Unit UInt8 :=
  if blobLen ≤ blob.length then do
    let stored ← index blob v2LegacyBlobLen
    pure (clamp backlightBrightnessMinPct backlightBrightnessMaxPct stored)
  else
    .value backlightBrightnessDefaultPct

/-- The time to screen sleep of a blob that may be too short for it. -/
def parseScreenSleep
    (blob : List UInt8) :
    Outcome Unit UInt8 :=
  if v1BlobLen ≤ blob.length then do
    let stored ← index blob v1LegacyBlobLen
    pure (min stored screenSleepMaxS)
  else
    .value screenSleepDefaultS

/-- Read a blob. -/
def deserialize
    (blob : List UInt8) :
    Outcome Unit RuntimeSettings :=
  if blob.isEmpty then
    .failed ()
  else do
    let first ← index blob 0
    if first = version then
      if blob.length < v2LegacyBlobLen then
        .failed ()
      else do
        let s ← parseCommonFields blob
        let sleep ← index blob v1LegacyBlobLen
        let lo ← index blob v1BlobLen
        let hi ← index blob (v1BlobLen + 1)
        let brightness ← parseBrightness blob
        pure
          { s with
            screenSleepTimeoutS := min sleep screenSleepMaxS
            lockTimeoutS :=
              clamp lockTimeoutMinS lockTimeoutMaxS
                (UInt16.ofNat (wordOf lo hi))
            backlightBrightness := brightness }
    else if first = versionV1 then
      if blob.length < v1LegacyBlobLen then
        .failed ()
      else do
        let s ← parseCommonFields blob
        let sleep ← parseScreenSleep blob
        pure
          { s with
            screenSleepTimeoutS := sleep
            lockTimeoutS := lockTimeoutDefaultS
            backlightBrightness := backlightBrightnessDefaultPct }
    else
      .failed ()

/-! ## What is read -/

/-- A blob of one of the versions with at least the length that it began with. -/
def Accepted
    (blob : List UInt8) :
    Prop :=
  (blob.getD 0 0 = version ∧ v2LegacyBlobLen ≤ blob.length) ∨
    (blob.getD 0 0 = versionV1 ∧ v1LegacyBlobLen ≤ blob.length)

/-- The time to screen sleep of a blob, or its default. -/
def screenSleepOf
    (blob : List UInt8) :
    UInt8 :=
  if v1BlobLen ≤ blob.length then
    min (blob.getD v1LegacyBlobLen 0) screenSleepMaxS
  else
    screenSleepDefaultS

/-- The time to the lock that is stored in a blob. -/
def storedLockTimeout
    (blob : List UInt8) :
    UInt16 :=
  UInt16.ofNat (wordOf (blob.getD v1BlobLen 0) (blob.getD (v1BlobLen + 1) 0))

/-- The time to the lock of a blob, or its default. -/
def lockTimeoutOf
    (blob : List UInt8) :
    UInt16 :=
  if blob.getD 0 0 = version then
    clamp lockTimeoutMinS lockTimeoutMaxS (storedLockTimeout blob)
  else
    lockTimeoutDefaultS

/-- The brightness of a blob, or its default. -/
def brightnessOf
    (blob : List UInt8) :
    UInt8 :=
  if blob.getD 0 0 = version ∧ blobLen ≤ blob.length then
    clamp backlightBrightnessMinPct backlightBrightnessMaxPct
      (blob.getD v2LegacyBlobLen 0)
  else
    backlightBrightnessDefaultPct

/-- The settings of an accepted blob. -/
def settingsOf
    (blob : List UInt8) :
    RuntimeSettings :=
  { notifVisual := blob.getD 1 0 != 0
    notifAudible := blob.getD 2 0 != 0
    contactTelemetry := (fieldAt maxContacts blob 5).map (· != 0)
    contactCount := blob.getD 3 0
    lockFlags := blob.getD 4 0
    screenSleepTimeoutS := screenSleepOf blob
    lockTimeoutS := lockTimeoutOf blob
    backlightBrightness := brightnessOf blob }

instance
    (blob : List UInt8) :
    Decidable (Accepted blob) :=
  inferInstanceAs (Decidable (_ ∨ _))

/-- The common fields of a blob that has them all. -/
theorem parseCommonFields_eq
    {blob : List UInt8}
    (enough : v1LegacyBlobLen ≤ blob.length) :
    parseCommonFields blob =
      .value
        { defaultEnabled with
          notifVisual := blob.getD 1 0 != 0
          notifAudible := blob.getD 2 0 != 0
          contactCount := blob.getD 3 0
          lockFlags := blob.getD 4 0
          contactTelemetry := (fieldAt maxContacts blob 5).map (· != 0) } := by
  have isLen : v1LegacyBlobLen = 21 := rfl
  have contacts : maxContacts = 16 := rfl
  rw [parseCommonFields, flagAt_eq (by omega), value_bind,
    flagAt_eq (by omega), value_bind, index_getD (by omega), value_bind,
    index_getD (by omega), value_bind, arrayAt_eq (by omega) rfl, value_bind]
  rfl

theorem parseScreenSleep_eq
    (blob : List UInt8) :
    parseScreenSleep blob = .value (screenSleepOf blob) := by
  have legacy : v1LegacyBlobLen = 21 := rfl
  have whole : v1BlobLen = 22 := rfl
  rw [parseScreenSleep, screenSleepOf]
  split
  · rw [index_getD (by omega), value_bind]
    rfl
  · rfl

theorem parseBrightness_eq
    {blob : List UInt8}
    (isVersion : blob.getD 0 0 = version) :
    parseBrightness blob = .value (brightnessOf blob) := by
  have legacy : v2LegacyBlobLen = 24 := rfl
  have full : blobLen = 25 := rfl
  rw [parseBrightness, brightnessOf]
  split
  · rename_i whole
    rw [index_getD (by omega), value_bind, if_pos ⟨isVersion, whole⟩]
    rfl
  · rename_i short
    rw [if_neg fun both => short both.2]

/-- A blob that begins with some byte is read by the version in it. -/
theorem deserialize_first
    {blob : List UInt8}
    (nonempty : 0 < blob.length) :
    deserialize blob =
      if blob.getD 0 0 = version then
        if blob.length < v2LegacyBlobLen then
          .failed ()
        else
          .value (settingsOf blob)
      else if blob.getD 0 0 = versionV1 then
        if blob.length < v1LegacyBlobLen then
          .failed ()
        else
          .value (settingsOf blob)
      else
        .failed () := by
  have v1Legacy : v1LegacyBlobLen = 21 := rfl
  have v1 : v1BlobLen = 22 := rfl
  have v2Legacy : v2LegacyBlobLen = 24 := rfl
  have notEmpty : blob.isEmpty = false := by
    rw [List.isEmpty_eq_false_iff]
    exact List.ne_nil_of_length_pos nonempty
  rw [deserialize, notEmpty, if_neg Bool.false_ne_true, index_getD nonempty,
    value_bind]
  split
  · rename_i isVersion
    split
    · rfl
    · rename_i enough
      have sleep : screenSleepOf blob =
          min (blob.getD v1LegacyBlobLen 0) screenSleepMaxS :=
        if_pos (by omega)
      have lockTimeout : lockTimeoutOf blob =
          clamp lockTimeoutMinS lockTimeoutMaxS (storedLockTimeout blob) :=
        if_pos isVersion
      rw [parseCommonFields_eq (by omega), value_bind, index_getD (by omega),
        value_bind, index_getD (by omega), value_bind, index_getD (by omega),
        value_bind, parseBrightness_eq isVersion, value_bind, settingsOf,
        sleep, lockTimeout]
      rfl
  · rename_i notVersion
    split
    · split
      · rfl
      · rename_i enough
        have lockTimeout : lockTimeoutOf blob = lockTimeoutDefaultS :=
          if_neg notVersion
        have brightness :
            brightnessOf blob = backlightBrightnessDefaultPct :=
          if_neg fun both => notVersion both.1
        rw [parseCommonFields_eq (by omega), value_bind,
          parseScreenSleep_eq, value_bind, settingsOf, lockTimeout,
          brightness]
        rfl
    · rfl

/-- Exactly the accepted blobs are read, and none makes the reader panic. -/
theorem deserialize_eq
    (blob : List UInt8) :
    deserialize blob =
      if Accepted blob then .value (settingsOf blob) else .failed () := by
  have v1Legacy : v1LegacyBlobLen = 21 := rfl
  have v2Legacy : v2LegacyBlobLen = 24 := rfl
  have versions : version ≠ versionV1 := by decide
  rcases Nat.eq_zero_or_pos blob.length with empty | nonempty
  · have isNil : blob = [] := List.length_eq_zero_iff.mp empty
    subst isNil
    decide
  rw [deserialize_first nonempty]
  by_cases isVersion : blob.getD 0 0 = version
  · have notV1 : blob.getD 0 0 ≠ versionV1 := by
      rw [isVersion]
      exact versions
    by_cases short : blob.length < v2LegacyBlobLen
    · have refused : ¬ Accepted blob := by
        rintro (⟨_, long⟩ | ⟨isV1, _⟩)
        · omega
        · exact notV1 isV1
      rw [if_pos isVersion, if_pos short, if_neg refused]
    · have accepted : Accepted blob :=
        Or.inl ⟨isVersion, Nat.le_of_not_lt short⟩
      rw [if_pos isVersion, if_neg short, if_pos accepted]
  · rw [if_neg isVersion]
    by_cases isV1 : blob.getD 0 0 = versionV1
    · by_cases short : blob.length < v1LegacyBlobLen
      · have refused : ¬ Accepted blob := by
          rintro (⟨isV2, _⟩ | ⟨_, long⟩)
          · exact isVersion isV2
          · omega
        rw [if_pos isV1, if_pos short, if_neg refused]
      · have accepted : Accepted blob :=
          Or.inr ⟨isV1, Nat.le_of_not_lt short⟩
        rw [if_pos isV1, if_neg short, if_pos accepted]
    · have refused : ¬ Accepted blob := by
        rintro (⟨isV2, _⟩ | ⟨isOne, _⟩)
        · exact isVersion isV2
        · exact isV1 isOne
      rw [if_neg isV1, if_neg refused]

/-! ## Writing and reading -/

/-- The timeouts and the brightness are within the bounds of the menu. -/
structure InRange
    (s : RuntimeSettings) :
    Prop where
  screenSleep : s.screenSleepTimeoutS ≤ screenSleepMaxS
  lockTimeoutMin : lockTimeoutMinS ≤ s.lockTimeoutS
  lockTimeoutMax : s.lockTimeoutS ≤ lockTimeoutMaxS
  brightnessMin : backlightBrightnessMinPct ≤ s.backlightBrightness
  brightnessMax : s.backlightBrightness ≤ backlightBrightnessMaxPct

/-- The blob of settings. -/
def blobOf
    (s : RuntimeSettings) :
    List UInt8 :=
  [version, flagByte s.notifVisual, flagByte s.notifAudible, s.contactCount,
      s.lockFlags] ++
    s.contactTelemetry.toList.map flagByte ++
    [min s.screenSleepTimeoutS screenSleepMaxS,
      UInt8.ofNat (clamp lockTimeoutMinS lockTimeoutMaxS s.lockTimeoutS).toNat,
      UInt8.ofNat
        ((clamp lockTimeoutMinS lockTimeoutMaxS s.lockTimeoutS).toNat >>> 8),
      clamp backlightBrightnessMinPct backlightBrightnessMaxPct
        s.backlightBrightness]

theorem length_blobOf
    (s : RuntimeSettings) :
    (blobOf s).length = blobLen := by
  simp [blobOf, blobLen, v2LegacyBlobLen, v1BlobLen, v1LegacyBlobLen]
  omega

/-- The settings are written as their blob. -/
theorem serialize_fills
    (s : RuntimeSettings) :
    Fills (serialize s) (blobOf s) := by
  have isBlob :
      blobOf s =
        [version] ++ ([flagByte s.notifVisual] ++
          ([flagByte s.notifAudible] ++ ([s.contactCount] ++
            ([s.lockFlags] ++ (s.contactTelemetry.toList.map flagByte ++
              ([min s.screenSleepTimeoutS screenSleepMaxS] ++
                ([UInt8.ofNat
                    (clamp lockTimeoutMinS lockTimeoutMaxS
                      s.lockTimeoutS).toNat] ++
                  ([UInt8.ofNat
                      ((clamp lockTimeoutMinS lockTimeoutMaxS
                        s.lockTimeoutS).toNat >>> 8)] ++
                    ([clamp backlightBrightnessMinPct
                        backlightBrightnessMaxPct s.backlightBrightness] ++
                      []))))))))) := by
    simp [blobOf]
  have slots : (s.contactTelemetry.toList.map flagByte).length = 16 := by
    rw [List.length_map, Vector.length_toList]
    rfl
  have places :
      v1LegacyBlobLen = 21 ∧ v1BlobLen = 22 ∧ v2LegacyBlobLen = 24 ∧
        blobLen = 25 :=
    ⟨rfl, rfl, rfl, rfl⟩
  rw [isBlob]
  unfold serialize
  refine (FillsBehind.write rfl (.write rfl (.write rfl (.write rfl
    (.write rfl (.write rfl (.write ?_ (.write ?_ (.write ?_
      (.write ?_ (.done ?_))))))))))).fills
  all_goals
    simp only [List.length_append, List.length_cons, List.length_nil, slots]
    omega

/-- A byte of a flag is not zero exactly if the flag is set. -/
theorem flagByte_ne_zero
    (flag : Bool) :
    (flagByte flag != 0) = flag := by
  cases flag <;> rfl

/-- What stands behind the flags of the contacts. -/
theorem blobOf_behind
    (s : RuntimeSettings)
    (place : Nat) :
    (blobOf s).getD (v1LegacyBlobLen + place) 0 =
      [min s.screenSleepTimeoutS screenSleepMaxS,
        UInt8.ofNat
          (clamp lockTimeoutMinS lockTimeoutMaxS s.lockTimeoutS).toNat,
        UInt8.ofNat
          ((clamp lockTimeoutMinS lockTimeoutMaxS s.lockTimeoutS).toNat >>> 8),
        clamp backlightBrightnessMinPct backlightBrightnessMaxPct
          s.backlightBrightness].getD place 0 := by
  have front :
      ([version, flagByte s.notifVisual, flagByte s.notifAudible,
          s.contactCount, s.lockFlags] ++
        s.contactTelemetry.toList.map flagByte).length =
        v1LegacyBlobLen := by
    simp [v1LegacyBlobLen]
    omega
  rw [blobOf, List.getD_append_right _ _ _ _ (by omega), front,
    Nat.add_sub_cancel_left]

/-- The flags of the contacts are read back. -/
theorem blobOf_telemetry
    (s : RuntimeSettings) :
    (fieldAt maxContacts (blobOf s) 5).map (· != 0) = s.contactTelemetry := by
  apply Vector.ext
  intro slot inside
  have isFlag :
      (blobOf s).getD (5 + slot) 0 = flagByte s.contactTelemetry[slot] := by
    have length : (s.contactTelemetry.toList.map flagByte).length = 16 := by
      rw [List.length_map, Vector.length_toList]
      rfl
    have within : slot < 16 := inside
    rw [blobOf, List.append_assoc,
      List.getD_append_right _ _ _ _ (by simp),
      List.getD_append _ _ _ _ (by simp; omega)]
    simp [inside]
  rw [Vector.getElem_map, fieldAt, Vector.getElem_ofFn, isFlag,
    flagByte_ne_zero]

/-- A time to the lock is read from its two bytes. -/
theorem ofNat_wordOf_toNat
    (secs : UInt16) :
    UInt16.ofNat
        (wordOf (UInt8.ofNat secs.toNat) (UInt8.ofNat (secs.toNat >>> 8))) =
      secs := by
  rw [wordOf_length secs.toNat_lt, UInt16.ofNat_toNat]

/-- Settings within the bounds are read back. -/
theorem settingsOf_blobOf
    {s : RuntimeSettings}
    (inRange : InRange s) :
    settingsOf (blobOf s) = s := by
  have length := length_blobOf s
  have long : v1BlobLen ≤ blobLen := by decide
  have sleep : screenSleepOf (blobOf s) = s.screenSleepTimeoutS := by
    rw [screenSleepOf, if_pos (by omega)]
    change min ((blobOf s).getD (v1LegacyBlobLen + 0) 0) _ = _
    rw [blobOf_behind]
    exact min_min_eq inRange.screenSleep
  have lockTimeout : lockTimeoutOf (blobOf s) = s.lockTimeoutS := by
    have stored :
        storedLockTimeout (blobOf s) =
          clamp lockTimeoutMinS lockTimeoutMaxS s.lockTimeoutS := by
      rw [storedLockTimeout]
      change
        UInt16.ofNat
          (wordOf ((blobOf s).getD (v1LegacyBlobLen + 1) 0)
            ((blobOf s).getD (v1LegacyBlobLen + 2) 0)) = _
      rw [blobOf_behind, blobOf_behind]
      exact ofNat_wordOf_toNat _
    have isVersion : (blobOf s).getD 0 0 = version := rfl
    rw [lockTimeoutOf, if_pos isVersion, stored,
      clamp_eq inRange.lockTimeoutMin inRange.lockTimeoutMax,
      clamp_eq inRange.lockTimeoutMin inRange.lockTimeoutMax]
  have brightness : brightnessOf (blobOf s) = s.backlightBrightness := by
    rw [brightnessOf, if_pos ⟨rfl, Nat.le_of_eq length.symm⟩]
    change
      clamp _ _ ((blobOf s).getD (v1LegacyBlobLen + 3) 0) = _
    rw [blobOf_behind]
    change clamp _ _ (clamp _ _ _) = _
    rw [clamp_eq inRange.brightnessMin inRange.brightnessMax,
      clamp_eq inRange.brightnessMin inRange.brightnessMax]
  have visual : ((blobOf s).getD 1 0 != 0) = s.notifVisual :=
    flagByte_ne_zero _
  have audible : ((blobOf s).getD 2 0 != 0) = s.notifAudible :=
    flagByte_ne_zero _
  have count : (blobOf s).getD 3 0 = s.contactCount := rfl
  have flags : (blobOf s).getD 4 0 = s.lockFlags := rfl
  rw [settingsOf, blobOf_telemetry, sleep, lockTimeout, brightness, visual,
    audible, count, flags]

/-! ## What the menu can reach -/

/-- Settings that a device can have: loaded or by default, then changed. -/
inductive Reachable : RuntimeSettings → Prop where
  | first (notifDefaults : Bool × Bool) :
      Reachable (fallbackSettings notifDefaults)
  | loaded {blob : List UInt8} {s : RuntimeSettings}
      (read : deserialize blob = .value s) :
      Reachable s
  | changed {s : RuntimeSettings} (before : Reachable s)
      (action : MenuAction) :
      Reachable (applyMenuAction action s)

/-- An action of the menu keeps the settings within the bounds. -/
theorem InRange.applyMenuAction
    {s : RuntimeSettings}
    (inRange : InRange s)
    (action : MenuAction) :
    InRange (RuntimeSettingsStore.applyMenuAction action s) := by
  cases action with
  | setScreenSleepTimeout secs =>
      exact { inRange with screenSleep := min_le_bound secs _ }
  | setLockTimeout secs =>
      have bounds :
          lockTimeoutMinS ≤ clamp lockTimeoutMinS lockTimeoutMaxS secs ∧
            clamp lockTimeoutMinS lockTimeoutMaxS secs ≤ lockTimeoutMaxS :=
        clamp_bounds (by decide)
      exact
        { inRange with
          lockTimeoutMin := bounds.1
          lockTimeoutMax := bounds.2 }
  | setBacklightBrightness pct =>
      have bounds :
          backlightBrightnessMinPct ≤
              clamp backlightBrightnessMinPct backlightBrightnessMaxPct pct ∧
            clamp backlightBrightnessMinPct backlightBrightnessMaxPct pct ≤
              backlightBrightnessMaxPct :=
        clamp_bounds (by decide)
      exact
        { inRange with
          brightnessMin := bounds.1
          brightnessMax := bounds.2 }
  | setNotifVisual _ => exact { inRange with }
  | setNotifAudible _ => exact { inRange with }
  | setContactTelemetry _ _ => exact { inRange with }
  | setLockFlags _ => exact { inRange with }
  | setLockEnabled _ => exact { inRange with }

/-- What is read from a blob is within the bounds. -/
theorem inRange_settingsOf
    (blob : List UInt8) :
    InRange (settingsOf blob) := by
  have lock :
      lockTimeoutMinS ≤ lockTimeoutOf blob ∧
        lockTimeoutOf blob ≤ lockTimeoutMaxS := by
    rw [lockTimeoutOf]
    split
    · exact clamp_bounds (by decide)
    · decide
  have brightness :
      backlightBrightnessMinPct ≤ brightnessOf blob ∧
        brightnessOf blob ≤ backlightBrightnessMaxPct := by
    rw [brightnessOf]
    split
    · exact clamp_bounds (by decide)
    · decide
  have sleep : screenSleepOf blob ≤ screenSleepMaxS := by
    rw [screenSleepOf]
    split
    · exact min_le_bound _ _
    · decide
  exact ⟨sleep, lock.1, lock.2, brightness.1, brightness.2⟩

/-- All reachable settings are within the bounds. -/
theorem Reachable.inRange
    {s : RuntimeSettings}
    (reachable : Reachable s) :
    InRange s := by
  induction reachable with
  | first notifDefaults =>
      have byDefault : InRange defaultEnabled := by
        constructor <;> decide
      exact { byDefault with }
  | @loaded blob s read =>
      rw [deserialize_eq] at read
      split at read
      · cases read
        exact inRange_settingsOf blob
      · cases read
  | changed before action inductionHypothesis =>
      exact inductionHypothesis.applyMenuAction action

/-- The flags are defined ones and the contacts are not too many, besides. -/
structure InMenuBounds
    (s : RuntimeSettings) :
    Prop where
  inRange : InRange s
  lockFlags : s.lockFlags &&& lockFlagsDefinedMask = s.lockFlags
  contactCount : s.contactCount.toNat ≤ maxContacts

/-- No action of the menu leaves the bounds. -/
theorem InMenuBounds.applyMenuAction
    {s : RuntimeSettings}
    (bounds : InMenuBounds s)
    (action : MenuAction) :
    InMenuBounds (RuntimeSettingsStore.applyMenuAction action s) := by
  refine ⟨bounds.inRange.applyMenuAction action, ?_, ?_⟩
  · have flags := bounds.lockFlags
    cases action with
    | setLockFlags flags =>
        change flags &&& lockFlagsDefinedMask &&& lockFlagsDefinedMask = _
        rw [UInt8.and_assoc, UInt8.and_self]
        rfl
    | setLockEnabled enabled =>
        cases enabled with
        | false =>
            change
              s.lockFlags &&& ~~~lockScreenEnable &&& lockFlagsDefinedMask =
                s.lockFlags &&& ~~~lockScreenEnable
            rw [UInt8.and_assoc, UInt8.and_comm (~~~lockScreenEnable),
              ← UInt8.and_assoc, flags]
        | true =>
            change
              (s.lockFlags ||| lockScreenEnable) &&& lockFlagsDefinedMask =
                s.lockFlags ||| lockScreenEnable
            have distributes :
                (s.lockFlags ||| lockScreenEnable) &&& lockFlagsDefinedMask =
                  s.lockFlags &&& lockFlagsDefinedMask |||
                    lockScreenEnable &&& lockFlagsDefinedMask :=
              UInt8.toBitVec_inj.mp BitVec.and_or_distrib_right
            rw [distributes, flags]
            rfl
    | setNotifVisual _ => exact flags
    | setNotifAudible _ => exact flags
    | setContactTelemetry _ _ => exact flags
    | setScreenSleepTimeout _ => exact flags
    | setLockTimeout _ => exact flags
    | setBacklightBrightness _ => exact flags
  · cases action <;> exact bounds.contactCount

/-- The settings after actions of the menu. -/
def afterActions
    (actions : List MenuAction)
    (s : RuntimeSettings) :
    RuntimeSettings :=
  actions.foldl (fun s action => applyMenuAction action s) s

/-- Whatever is done in the menu, the settings stay within its bounds. -/
theorem inMenuBounds_afterActions
    (notifDefaults : Bool × Bool)
    (actions : List MenuAction) :
    InMenuBounds (afterActions actions (fallbackSettings notifDefaults)) := by
  have byDefault : InMenuBounds defaultEnabled := by
    refine ⟨?_, by decide, by decide⟩
    constructor <;> decide
  have atFirst : InMenuBounds (fallbackSettings notifDefaults) :=
    { byDefault with inRange := { byDefault.inRange with } }
  generalize fallbackSettings notifDefaults = s at atFirst
  induction actions generalizing s with
  | nil => exact atFirst
  | cons action rest inductionHypothesis =>
      exact inductionHypothesis _ (atFirst.applyMenuAction action)

/-- Written into any buffer that is long enough, settings are read back. -/
def RoundTrips
    (s : RuntimeSettings) :
    Prop :=
  ∀ out : List UInt8,
    blobLen ≤ out.length →
      ∃ written,
        serialize s out = .value (written, blobLen) ∧
          deserialize (written.take blobLen) = .value s

theorem InRange.roundTrips
    {s : RuntimeSettings}
    (inRange : InRange s) :
    RoundTrips s := by
  intro out enough
  have length := length_blobOf s
  have accepted : Accepted (blobOf s) := by
    refine Or.inl ⟨rfl, ?_⟩
    rw [length]
    decide
  have serialized := serialize_fills s out (by omega)
  rw [length] at serialized
  refine ⟨_, serialized, ?_⟩
  rw [← length, List.take_left, deserialize_eq, if_pos accepted,
    settingsOf_blobOf inRange]

/--
What is stored in a blob is kept, the timeouts and the brightness if they are
within the bounds; what a blob does not have takes its default.
-/
structure KeepsStored
    (blob : List UInt8)
    (s : RuntimeSettings) :
    Prop where
  notifVisual : s.notifVisual = (blob.getD 1 0 != 0)
  notifAudible : s.notifAudible = (blob.getD 2 0 != 0)
  contactCount : s.contactCount = blob.getD 3 0
  lockFlags : s.lockFlags = blob.getD 4 0
  contactTelemetry :
    ∀ slot < maxContacts,
      s.contactTelemetry.toList.getD slot false =
        (blob.getD (5 + slot) 0 != 0)
  screenSleep :
    v1BlobLen ≤ blob.length →
      blob.getD v1LegacyBlobLen 0 ≤ screenSleepMaxS →
        s.screenSleepTimeoutS = blob.getD v1LegacyBlobLen 0
  screenSleepMissing :
    blob.length < v1BlobLen → s.screenSleepTimeoutS = screenSleepDefaultS
  lockTimeout :
    blob.getD 0 0 = version →
      lockTimeoutMinS ≤ storedLockTimeout blob →
        storedLockTimeout blob ≤ lockTimeoutMaxS →
          s.lockTimeoutS = storedLockTimeout blob
  lockTimeoutMissing :
    blob.getD 0 0 = versionV1 → s.lockTimeoutS = lockTimeoutDefaultS
  brightness :
    blob.getD 0 0 = version →
      blobLen ≤ blob.length →
        backlightBrightnessMinPct ≤ blob.getD v2LegacyBlobLen 0 →
          blob.getD v2LegacyBlobLen 0 ≤ backlightBrightnessMaxPct →
            s.backlightBrightness = blob.getD v2LegacyBlobLen 0
  brightnessMissing :
    blob.getD 0 0 = versionV1 ∨ blob.length < blobLen →
      s.backlightBrightness = backlightBrightnessDefaultPct

theorem keepsStored_settingsOf
    (blob : List UInt8) :
    KeepsStored blob (settingsOf blob) where
  notifVisual := rfl
  notifAudible := rfl
  contactCount := rfl
  lockFlags := rfl
  contactTelemetry := by
    intro slot inside
    have length : (settingsOf blob).contactTelemetry.toList.length =
        maxContacts :=
      Vector.length_toList
    rw [List.getD_eq_getElem _ _ (by omega), Vector.getElem_toList]
    simp [settingsOf, fieldAt]
  screenSleep := by
    intro whole atMost
    change screenSleepOf blob = _
    rw [screenSleepOf, if_pos whole]
    exact if_pos atMost
  screenSleepMissing := fun short => if_neg (Nat.not_le_of_lt short)
  lockTimeout := by
    intro isVersion atLeast atMost
    change lockTimeoutOf blob = _
    rw [lockTimeoutOf, if_pos isVersion, clamp_eq atLeast atMost]
  lockTimeoutMissing := by
    intro isV1
    change lockTimeoutOf blob = _
    rw [lockTimeoutOf, if_neg]
    rw [isV1]
    decide
  brightness := by
    intro isVersion whole atLeast atMost
    change brightnessOf blob = _
    rw [brightnessOf, if_pos ⟨isVersion, whole⟩, clamp_eq atLeast atMost]
  brightnessMissing := by
    rintro (isV1 | short)
    · change brightnessOf blob = _
      rw [brightnessOf, if_neg]
      rw [isV1]
      exact fun both => absurd both.1 (by decide)
    · exact if_neg fun both => absurd both.2 (Nat.not_le_of_lt short)

/-- What holds of settings and their blobs. -/
structure BlobContract :
    Prop where
  roundTrips : ∀ {s}, Reachable s → RoundTrips s
  menu :
    ∀ notifDefaults actions,
      InMenuBounds (afterActions actions (fallbackSettings notifDefaults))
  accepts :
    ∀ blob, (∃ s, deserialize blob = .value s) ↔ Accepted blob
  keepsStored :
    ∀ {blob s}, deserialize blob = .value s → KeepsStored blob s
  idempotent : ∀ {blob s}, deserialize blob = .value s → RoundTrips s
  inRange : ∀ {blob s}, deserialize blob = .value s → InRange s

/-- Settings and their blobs, of all versions and lengths. -/
theorem blobContract :
    BlobContract where
  roundTrips := fun reachable => reachable.inRange.roundTrips
  menu := inMenuBounds_afterActions
  accepts := by
    intro blob
    rw [deserialize_eq]
    split
    · rename_i accepted
      exact iff_of_true ⟨_, rfl⟩ accepted
    · rename_i refused
      exact iff_of_false (fun ⟨_, impossible⟩ => nomatch impossible) refused
  keepsStored := by
    intro blob s read
    rw [deserialize_eq] at read
    split at read
    · cases read
      exact keepsStored_settingsOf blob
    · cases read
  idempotent := fun read => (Reachable.loaded read).inRange.roundTrips
  inRange := fun read => (Reachable.loaded read).inRange

/-- A blob of the first version and length, with a flag that is not defined. -/
def flaggedBlob : List UInt8 :=
  [0x01, 0, 1, 2, 0x07, 1] ++ List.replicate 15 0

/-- A blob with an overlong time to screen sleep. -/
def sleepyBlob : List UInt8 :=
  [0x01, 0, 1, 2, 0x01, 1] ++ List.replicate 15 0 ++ [200]

/--
A flag that the menu cannot set is read from an accepted blob, and a stored time
past the bound does not keep its value.
-/
theorem stored_fields_out_of_bounds :
    (∃ s, deserialize flaggedBlob = .value s ∧ ¬ InMenuBounds s) ∧
      ∃ s, deserialize sleepyBlob = .value s ∧
        s.screenSleepTimeoutS ≠ sleepyBlob.getD v1LegacyBlobLen 0 := by
  constructor
  · refine ⟨settingsOf flaggedBlob, ?_, ?_⟩
    · rw [deserialize_eq, if_pos (by decide)]
    · intro bounds
      exact absurd bounds.lockFlags (by decide)
  · refine ⟨settingsOf sleepyBlob, ?_, ?_⟩
    · rw [deserialize_eq, if_pos (by decide)]
    · decide

end RuntimeSettingsStore

end MeshCadet
