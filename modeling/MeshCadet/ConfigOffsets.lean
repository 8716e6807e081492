import MeshCadet.ConfigBlob
import MeshCadet.Outcome

namespace MeshCadet

/-!
# The configuration blob read by offsets

The blob is read at absolute offsets, with every index and slice able to panic.
Reading by offsets never panics and comes to what the sequential reader of the
blob format gives.
-/

open Outcome

/-- The header fields that both versions hold at the same offsets. -/
structure HeaderFields where
  lockFlags : UInt8
  pinLen : UInt8
  pin : Vector UInt8 16
  notifVisual : Bool
  notifAudible : Bool
  radioPreset : RadioPreset
deriving Repr, DecidableEq

/-- Read the shared header fields. -/
def parseHeader
    (blob : List UInt8) :
    Outcome Unit HeaderFields := do
  let lockFlags ← index blob 3
  let pinLen ← index blob 4
  let pin ← arrayAt 16 blob 5 (5 + 16)
  let notifVisual ← flagAt blob (5 + 16)
  let notifAudible ← flagAt blob (5 + 16 + 1)
  let freqHz ← wordAt blob 23 27
  let bwCode ← index blob 27
  let sf ← index blob 28
  let cr ← index blob 29
  let txPowerDbm ← index blob 30
  pure
    { lockFlags := lockFlags
      pinLen := pinLen
      pin := pin
      notifVisual := notifVisual
      notifAudible := notifAudible
      radioPreset :=
        { freqHz := freqHz
          bwCode := bwCode
          sf := sf
          cr := cr
          txPowerDbm := txPowerDbm } }

/-- Read the contact record at an offset. -/
def contactAt
    (blob : List UInt8)
    (off : Nat) :
    Outcome Unit Contact := do
  let pubkey ← arrayAt 32 blob off (off + 32)
  let telemetryEnable ← flagAt blob (off + 32)
  let role ← index blob (off + 33)
  let displayNameLen ← index blob (off + 34)
  let displayName ← arrayAt 32 blob (off + 35) (off + contactEntryLen)
  pure
    { pubkey := pubkey
      telemetryEnable := telemetryEnable
      role := role
      displayName := displayName
      displayNameLen := displayNameLen }

/-- Read the contact record of the older version at an offset. -/
def contactAtV2
    (blob : List UInt8)
    (off : Nat) :
    Outcome Unit Contact := do
  let pubkey ← arrayAt 32 blob off (off + 32)
  let telemetryEnable ← flagAt blob (off + 32)
  let displayNameLen ← index blob (off + 33)
  let displayName ← arrayAt 32 blob (off + 34) (off + contactEntryLenV2)
  pure
    { pubkey := pubkey
      telemetryEnable := telemetryEnable
      role := roleChat
      displayName := displayName
      displayNameLen := displayNameLen }

/-- Read the channel record at an offset. -/
def channelAt
    (blob : List UInt8)
    (off : Nat) :
    Outcome Unit Channel := do
  let secret ← arrayAt 32 blob off (off + 32)
  let keyLen ← index blob (off + 32)
  let primary ← flagAt blob (off + 33)
  let nameLen ← index blob (off + 34)
  let name ← arrayAt 32 blob (off + 35) (off + channelEntryLen)
  pure
    { secret := secret
      keyLen := keyLen
      primary := primary
      name := name
      nameLen := nameLen }

/-- Read the room record at an offset; a length past its array rejects it. -/
def roomExtraAt
    (blob : List UInt8)
    (off : Nat) :
    Outcome Unit RoomExtra := do
  let pubkey ← arrayAt 32 blob off (off + 32)
  let guestPasswordLen ← index blob (off + 32)
  if maxLoginPasswordLen < guestPasswordLen.toNat then
    .failed ()
  else do
    let guestPassword ←
      arrayAt maxLoginPasswordLen blob (off + 33)
        (off + 33 + maxLoginPasswordLen)
    let p := off + 33 + maxLoginPasswordLen
    let syncSince ← wordAt blob p (p + 4)
    let permissions ← index blob (p + 4)
    let outPathLen ← index blob (p + 5)
    if maxPathSize < outPathLen.toNat then
      .failed ()
    else do
      let outPath ←
        arrayAt maxPathSize blob (p + 6) (p + 6 + maxPathSize)
      pure
        { pubkey := pubkey
          guestPassword := guestPassword
          guestPasswordLen := guestPasswordLen
          syncSince := syncSince
          permissions := permissions
          outPath := outPath
          outPathLen := outPathLen }

/-- The slots of an array that records were read into. -/
def liveSlots
    {α : Type}
    {capacity : Nat}
    (elements : List α) :
    BoundedList α capacity :=
  { elements := elements.take capacity
    fits := List.length_take_le _ _ }

/-- The configuration of a header's fields and the records behind it. -/
def HeaderFields.configWith
    (header : HeaderFields)
    (contacts : BoundedList Contact maxContacts)
    (channels : BoundedList Channel maxChannels)
    (roomExtras : BoundedList RoomExtra maxContacts) :
    ProvisionedConfig :=
  { contacts := contacts
    channels := channels
    roomExtras := roomExtras
    radioPreset := header.radioPreset
    notifDefaults :=
      { visual := header.notifVisual
        audible := header.notifAudible }
    pin := header.pin
    pinLen := header.pinLen
    lockFlags := header.lockFlags }

/-- Bytes a current-version blob with these counts needs. -/
def requiredLen
    (contactCount channelCount roomCount : Nat) :
    Nat :=
  cfgHeaderLen + contactCount * contactEntryLen +
    channelCount * channelEntryLen + roomCount * roomExtraEntryLen

/-- Bytes an older blob with these counts needs. -/
def requiredLenV2
    (contactCount channelCount : Nat) :
    Nat :=
  cfgHeaderLenV2 + contactCount * contactEntryLenV2 +
    channelCount * channelEntryLen

/-- Read a current-version blob by offsets. -/
def deserializeV3At
    (blob : List UInt8) :
    Outcome Unit ProvisionedConfig :=
  if blob.length < cfgHeaderLen then
    .failed ()
  else do
    let contactByte ← index blob 1
    let channelByte ← index blob 2
    let roomByte ← index blob 31
    let contactCount := contactByte.toNat
    let channelCount := channelByte.toNat
    let roomCount := roomByte.toNat
    if maxContacts < contactCount ∨ maxChannels < channelCount ∨
        maxContacts < roomCount then
      .failed ()
    else if contactCount < roomCount then
      .failed ()
    else if blob.length <
        requiredLen contactCount channelCount roomCount then
      .failed ()
    else do
      let header ← parseHeader blob
      let contacts ←
        records (contactAt blob) contactEntryLen
          (min contactCount maxContacts) cfgHeaderLen
      let off := cfgHeaderLen + contacts.length * contactEntryLen
      let channels ←
        records (channelAt blob) channelEntryLen
          (min channelCount maxChannels) off
      let off := off + channels.length * channelEntryLen
      let roomExtras ←
        records (roomExtraAt blob) roomExtraEntryLen
          (min roomCount maxContacts) off
      pure
        (header.configWith (liveSlots contacts) (liveSlots channels)
          (liveSlots roomExtras))

/-- Read an older blob by offsets. -/
def deserializeV2MigrateAt
    (blob : List UInt8) :
    Outcome Unit ProvisionedConfig :=
  if blob.length < cfgHeaderLenV2 then
    .failed ()
  else do
    let contactByte ← index blob 1
    let channelByte ← index blob 2
    let contactCount := contactByte.toNat
    let channelCount := channelByte.toNat
    if maxContacts < contactCount ∨ maxChannels < channelCount then
      .failed ()
    else if blob.length < requiredLenV2 contactCount channelCount then
      .failed ()
    else do
      let header ← parseHeader blob
      let contacts ←
        records (contactAtV2 blob) contactEntryLenV2
          (min contactCount maxContacts) cfgHeaderLenV2
      let off := cfgHeaderLenV2 + contacts.length * contactEntryLenV2
      let channels ←
        records (channelAt blob) channelEntryLen
          (min channelCount maxChannels) off
      pure
        (header.configWith (liveSlots contacts) (liveSlots channels)
          .empty)

/-- Read a blob by offsets, dispatching on its version byte. -/
def deserializeConfigAt
    (blob : List UInt8) :
    Outcome Unit ProvisionedConfig :=
  match blob.head? with
  | none =>
      .failed ()
  | some version =>
      if version = cfgVersion then
        deserializeV3At blob
      else if version = cfgVersionV2 then
        deserializeV2MigrateAt blob
      else
        .failed ()

section Records

variable {blob : List UInt8}

theorem follows_contact
    (off : Nat) :
    Follows blob off (off + contactEntryLen) (contactAt blob off)
      Contact.parser := by
  unfold contactAt Contact.parser contactEntryLen
  refine Follows.bind (by omega) (follows_bytes rfl) fun pubkey => ?_
  refine Follows.bind (by omega) follows_flag fun telemetryEnable => ?_
  refine Follows.bind (by omega) follows_byte fun role => ?_
  refine Follows.bind (by omega) follows_byte fun displayNameLen => ?_
  exact Follows.last (follows_bytes rfl)

theorem follows_contactV2
    (off : Nat) :
    Follows blob off (off + contactEntryLenV2) (contactAtV2 blob off)
      Contact.parserV2 := by
  unfold contactAtV2 Contact.parserV2 contactEntryLenV2
  refine Follows.bind (by omega) (follows_bytes rfl) fun pubkey => ?_
  refine Follows.bind (by omega) follows_flag fun telemetryEnable => ?_
  refine Follows.bind (by omega) follows_byte fun displayNameLen => ?_
  exact Follows.last (follows_bytes rfl)

theorem follows_channel
    (off : Nat) :
    Follows blob off (off + channelEntryLen) (channelAt blob off)
      Channel.parser := by
  unfold channelAt Channel.parser channelEntryLen
  refine Follows.bind (by omega) (follows_bytes rfl) fun secret => ?_
  refine Follows.bind (by omega) follows_byte fun keyLen => ?_
  refine Follows.bind (by omega) follows_flag fun primary => ?_
  refine Follows.bind (by omega) follows_byte fun nameLen => ?_
  exact Follows.last (follows_bytes rfl)

theorem follows_roomExtra
    (off : Nat) :
    Follows blob off (off + roomExtraEntryLen) (roomExtraAt blob off)
      RoomExtra.parser := by
  unfold roomExtraAt RoomExtra.parser roomExtraEntryLen maxPathSize
    maxLoginPasswordLen
  refine Follows.bind (by omega) (follows_bytes rfl) fun pubkey => ?_
  refine Follows.bind (by omega) follows_byte fun guestPasswordLen => ?_
  refine Follows.unless Nat.not_le.symm ?_
  refine Follows.bind (by omega) (follows_bytes rfl) fun guestPassword => ?_
  refine Follows.bind (by omega) (follows_u32Le rfl) fun syncSince => ?_
  refine Follows.bind (by omega) follows_byte fun permissions => ?_
  refine Follows.bind (by omega) follows_byte fun outPathLen => ?_
  refine Follows.unless Nat.not_le.symm ?_
  exact Follows.last (follows_bytes rfl)

/-- The whole header, read by offsets. -/
def headerAt
    (blob : List UInt8) :
    Outcome Unit ConfigHeader := do
  let version ← index blob 0
  let contactCount ← index blob 1
  let channelCount ← index blob 2
  let fields ← parseHeader blob
  pure
    { version := version
      contactCount := contactCount
      channelCount := channelCount
      lockFlags := fields.lockFlags
      pinLen := fields.pinLen
      pin := fields.pin
      notifVisual := fields.notifVisual
      notifAudible := fields.notifAudible
      radioPreset := fields.radioPreset }

theorem follows_header :
    Follows blob 0 cfgHeaderLenV2 (headerAt blob) ConfigHeader.parser := by
  unfold headerAt parseHeader ConfigHeader.parser cfgHeaderLenV2
  simp only [bind_assoc, pure_bind]
  refine Follows.bind (by omega) follows_byte fun version => ?_
  refine Follows.bind (by omega) follows_byte fun contactCount => ?_
  refine Follows.bind (by omega) follows_byte fun channelCount => ?_
  refine Follows.bind (by omega) follows_byte fun lockFlags => ?_
  refine Follows.bind (by omega) follows_byte fun pinLen => ?_
  refine Follows.bind (by omega) (follows_bytes rfl) fun pin => ?_
  refine Follows.bind (by omega) follows_flag fun notifVisual => ?_
  refine Follows.bind (by omega) follows_flag fun notifAudible => ?_
  refine Follows.bind (by omega) (follows_u32Le rfl) fun freqHz => ?_
  refine Follows.bind (by omega) follows_byte fun bwCode => ?_
  refine Follows.bind (by omega) follows_byte fun sf => ?_
  refine Follows.bind (by omega) follows_byte fun cr => ?_
  exact Follows.last follows_byte

/-- The header fields of a blob that is long enough. -/
def headerFieldsOf
    (blob : List UInt8) :
    HeaderFields :=
  { lockFlags := blob.getD 3 0
    pinLen := blob.getD 4 0
    pin := fieldAt 16 blob 5
    notifVisual := blob.getD 21 0 != 0
    notifAudible := blob.getD 22 0 != 0
    radioPreset :=
      { freqHz := Bytes.u32FromLeBytes (fieldAt 4 blob 23)
        bwCode := blob.getD 27 0
        sf := blob.getD 28 0
        cr := blob.getD 29 0
        txPowerDbm := blob.getD 30 0 } }

/-- The whole header is there to be read. -/
theorem parseHeader_eq
    (long : cfgHeaderLenV2 ≤ blob.length) :
    parseHeader blob = .value (headerFieldsOf blob) := by
  have atLeast : 31 ≤ blob.length := long
  rw [parseHeader, index_getD (by omega), value_bind,
    index_getD (by omega), value_bind,
    arrayAt_eq (by omega) rfl, value_bind,
    flagAt_eq (by omega), value_bind,
    flagAt_eq (by omega), value_bind,
    wordAt_eq (by omega) rfl, value_bind,
    index_getD (by omega), value_bind,
    index_getD (by omega), value_bind,
    index_getD (by omega), value_bind,
    index_getD (by omega), value_bind]
  rfl

/-- What the sequential reader makes of a header that is there. -/
def configHeaderOf
    (blob : List UInt8) :
    ConfigHeader :=
  { version := blob.getD 0 0
    contactCount := blob.getD 1 0
    channelCount := blob.getD 2 0
    lockFlags := (headerFieldsOf blob).lockFlags
    pinLen := (headerFieldsOf blob).pinLen
    pin := (headerFieldsOf blob).pin
    notifVisual := (headerFieldsOf blob).notifVisual
    notifAudible := (headerFieldsOf blob).notifAudible
    radioPreset := (headerFieldsOf blob).radioPreset }

theorem headerParser_eq
    (long : cfgHeaderLenV2 ≤ blob.length) :
    ConfigHeader.parser blob =
      some (configHeaderOf blob, blob.drop cfgHeaderLenV2) := by
  have atLeast : 31 ≤ blob.length := long
  have header :
      Follows blob 0 cfgHeaderLenV2 (headerAt blob) ConfigHeader.parser :=
    follows_header
  have whole := header.2 long
  rw [headerAt, index_getD (by omega), value_bind,
    index_getD (by omega), value_bind, index_getD (by omega), value_bind,
    parseHeader_eq long, value_bind] at whole
  rcases whole with ⟨result, isValue, parsed⟩ | ⟨isFailed, -⟩
  · cases isValue
    exact parsed
  · cases isFailed

/-- Records read by offsets fill the list that the reader fills. -/
theorem records_agrees
    {α β : Type}
    {capacity width : Nat}
    {recordAt : Nat → Outcome Unit α}
    {parser : ByteParser.Parser α}
    (record : ∀ off,
      Follows blob off (off + width) (recordAt off) parser)
    {count off : Nat}
    (fits : count ≤ capacity)
    (inside : off + count * width ≤ blob.length)
    {onwards : List α → Outcome Unit β}
    {next : BoundedList α capacity → ByteParser.Parser β}
    (later : ∀ list,
      list.length = count →
        Agrees (onwards list) (next (liveSlots list))
          (blob.drop (off + count * width))) :
    Agrees
      (records recordAt width (min count capacity) off >>= onwards)
      (boundedTimes count parser >>= next) (blob.drop off) := by
  refine .bind ?_
  rw [Nat.min_eq_left fits]
  rcases (follows_records record count off).2 inside with
    ⟨list, isValue, parsed⟩ | ⟨isFailed, unread⟩
  · have length := length_of_records isValue
    have live :
        (liveSlots list : BoundedList α capacity).elements = list :=
      List.take_of_length_le (by omega)
    have bounded :=
      BoundedList.ofList?_elements
        (liveSlots list : BoundedList α capacity)
    rw [live] at bounded
    refine .inl ⟨list, liveSlots list, _, isValue, ?_, later list length⟩
    simp [boundedTimes, parsed, bounded]
  · exact .inr ⟨isFailed, by simp [boundedTimes, unread]⟩

/-- A byte that is there is read. -/
theorem byte_eq
    {off : Nat}
    (inside : off < blob.length) :
    ByteParser.byte (blob.drop off) =
      some (blob.getD off 0, blob.drop (off + 1)) := by
  rw [List.drop_eq_getElem_cons inside, List.getD_eq_getElem?_getD,
    List.getElem?_eq_getElem inside]
  rfl

end Records

/-- A blob shorter than its header is not read. -/
theorem deserializeV3_of_short
    {blob : List UInt8}
    (short : blob.length < cfgHeaderLen) :
    deserializeV3 blob = none := by
  have long :
      ByteParser.Yields (parserV3 blob.length) fun _ =>
        cfgHeaderLen ≤ blob.length := by
    unfold parserV3
    refine .bind (.any _) fun header _ => ?_
    refine .bind (.any _) fun roomCount _ => ?_
    refine .bind (.any _) fun _ _ => ?_
    refine .bind (.any _) fun _ _ => ?_
    refine .bind (ByteParser.yields_ensure _) fun _ enough => ?_
    have needed := of_decide_eq_true enough
    have holds : cfgHeaderLen ≤ blob.length := by omega
    exact fun _ _ _ _ => holds
  cases read : parserV3 blob.length blob with
  | none =>
      rw [deserializeV3, read]
      rfl
  | some pair =>
      have enough := long _ _ _ read
      omega

theorem deserializeV2_of_short
    {blob : List UInt8}
    (short : blob.length < cfgHeaderLenV2) :
    deserializeV2Migrate blob = none := by
  have long :
      ByteParser.Yields (parserV2 blob.length) fun _ =>
        cfgHeaderLenV2 ≤ blob.length := by
    unfold parserV2
    refine .bind (.any _) fun header _ => ?_
    refine .bind (.any _) fun _ _ => ?_
    refine .bind (ByteParser.yields_ensure _) fun _ enough => ?_
    have needed := of_decide_eq_true enough
    have holds : cfgHeaderLenV2 ≤ blob.length := by omega
    exact fun _ _ _ _ => holds
  cases read : parserV2 blob.length blob with
  | none =>
      rw [deserializeV2Migrate, read]
      rfl
  | some pair =>
      have enough := long _ _ _ read
      omega

/-- Reading a current-version blob by offsets is reading it in sequence. -/
theorem deserializeV3At_eq
    (blob : List UInt8) :
    deserializeV3At blob = ofOption (deserializeV3 blob) := by
  by_cases short : blob.length < cfgHeaderLen
  · rw [deserializeV3At, if_pos short, deserializeV3_of_short short]
    rfl
  have atLeast : 32 ≤ blob.length := Nat.le_of_not_lt short
  have longHeader : cfgHeaderLenV2 ≤ blob.length :=
    Nat.le_of_succ_le atLeast
  have counts :
      (configHeaderOf blob).contactCount = blob.getD 1 0 ∧
        (configHeaderOf blob).channelCount = blob.getD 2 0 := ⟨rfl, rfl⟩
  have roomByte :
      ByteParser.byte (blob.drop cfgHeaderLenV2) =
        some (blob.getD 31 0, blob.drop cfgHeaderLen) := byte_eq atLeast
  rw [deserializeV3At, if_neg short, index_getD (by omega), value_bind,
    index_getD (by omega), value_bind, index_getD (by omega), value_bind]
  refine Agrees.after (headerParser_eq longHeader) ?_
  refine .after roomByte ?_
  rw [counts.1, counts.2]
  refine .unless ?_ fun fewEnough => .unless ?_ fun roomsAmong =>
    .unless ?_ fun whole => ?_
  · simp only [Bool.and_eq_true, decide_eq_true_eq]
    omega
  · simp only [decide_eq_true_eq, UInt8.le_iff_toNat_le]
    omega
  · rw [decide_eq_true_eq, Nat.not_lt, requiredLen]
  rw [requiredLen] at whole
  rw [parseHeader_eq longHeader, value_bind]
  refine records_agrees follows_contact (by omega) (by omega)
    fun contacts contactCount => ?_
  rw [contactCount]
  refine records_agrees follows_channel (by omega) (by omega)
    fun channels channelCount => ?_
  rw [channelCount]
  refine records_agrees follows_roomExtra (by omega) (by omega)
    fun rooms _ => ?_
  rfl

/-- Reading an older blob by offsets is reading it in sequence. -/
theorem deserializeV2MigrateAt_eq
    (blob : List UInt8) :
    deserializeV2MigrateAt blob = ofOption (deserializeV2Migrate blob) := by
  by_cases short : blob.length < cfgHeaderLenV2
  · rw [deserializeV2MigrateAt, if_pos short, deserializeV2_of_short short]
    rfl
  have atLeast : 31 ≤ blob.length := Nat.le_of_not_lt short
  have counts :
      (configHeaderOf blob).contactCount = blob.getD 1 0 ∧
        (configHeaderOf blob).channelCount = blob.getD 2 0 := ⟨rfl, rfl⟩
  rw [deserializeV2MigrateAt, if_neg short, index_getD (by omega),
    value_bind, index_getD (by omega), value_bind]
  refine Agrees.after (headerParser_eq atLeast) ?_
  rw [counts.1, counts.2]
  refine .unless ?_ fun fewEnough => .unless ?_ fun whole => ?_
  · simp only [Bool.and_eq_true, decide_eq_true_eq]
    omega
  · rw [decide_eq_true_eq, Nat.not_lt, requiredLenV2]
  rw [requiredLenV2] at whole
  rw [parseHeader_eq atLeast, value_bind]
  refine records_agrees follows_contactV2 (by omega) (by omega)
    fun contacts contactCount => ?_
  rw [contactCount]
  refine records_agrees follows_channel (by omega) (by omega)
    fun channels _ => ?_
  rfl

/--
Reading any blob by offsets comes to what reading it in sequence comes to; it
never panics.
-/
theorem deserializeConfigAt_eq
    (blob : List UInt8) :
    deserializeConfigAt blob = ofOption (deserializeConfig blob) := by
  cases blob with
  | nil =>
      rfl
  | cons version rest =>
      rw [deserializeConfigAt, List.head?_cons, deserializeConfig]
      by_cases isCurrent : version = cfgVersion
      · simp only [if_pos isCurrent]
        exact deserializeV3At_eq _
      · by_cases isOlder : version = cfgVersionV2
        · simp only [if_neg isCurrent, if_pos isOlder]
          exact deserializeV2MigrateAt_eq _
        · simp only [if_neg isCurrent, if_neg isOlder]
          rfl

end MeshCadet
