import MeshCadet.ConfigOffsets
import MeshCadet.RoomPairing

namespace MeshCadet

/-!
# The codec of the configuration blob

What the reader of configuration blobs does with each kind of blob: the blob of
a valid configuration gives that configuration back, an older blob is migrated,
and a damaged blob is rejected.
-/

open Outcome

/-- The contact of an older record: its fields, and the chat role. -/
def contactOfV2
    (blob : List UInt8)
    (off : Nat) :
    Contact :=
  { pubkey := fieldAt 32 blob off
    telemetryEnable := blob.getD (off + 32) 0 != 0
    role := roleChat
    displayName := fieldAt 32 blob (off + 34)
    displayNameLen := blob.getD (off + 33) 0 }

/-- The channel of a record. -/
def channelOf
    (blob : List UInt8)
    (off : Nat) :
    Channel :=
  { secret := fieldAt 32 blob off
    keyLen := blob.getD (off + 32) 0
    primary := blob.getD (off + 33) 0 != 0
    name := fieldAt 32 blob (off + 35)
    nameLen := blob.getD (off + 34) 0 }

/--
What an older blob means: its header fields, its contacts as chat contacts, its
channels, and no rooms.
-/
def migratedConfig
    (blob : List UInt8) :
    ProvisionedConfig :=
  let contactCount := (blob.getD 1 0).toNat
  let channelCount := (blob.getD 2 0).toNat
  let channelsOff := cfgHeaderLenV2 + contactCount * contactEntryLenV2
  (headerFieldsOf blob).configWith
    (liveSlots
      ((List.range contactCount).map fun place =>
        contactOfV2 blob (cfgHeaderLenV2 + place * contactEntryLenV2)))
    (liveSlots
      ((List.range channelCount).map fun place =>
        channelOf blob (channelsOff + place * channelEntryLen)))
    .empty

/-- A blob of the older version that is whole and within its limits. -/
structure ValidV2Blob
    (blob : List UInt8) :
    Prop where
  version : blob.head? = some cfgVersionV2
  contactCount : (blob.getD 1 0).toNat ≤ maxContacts
  channelCount : (blob.getD 2 0).toNat ≤ maxChannels
  whole :
    requiredLenV2 (blob.getD 1 0).toNat (blob.getD 2 0).toNat ≤
      blob.length

/-- A blob that is shorter than its header or than its counts announce. -/
def Truncated
    (blob : List UInt8) :
    Prop :=
  blob.head? = none ∨
    blob.head? = some cfgVersion ∧
      (blob.length < cfgHeaderLen ∨
        blob.length <
          requiredLen (blob.getD 1 0).toNat (blob.getD 2 0).toNat
            (blob.getD 31 0).toNat) ∨
    blob.head? = some cfgVersionV2 ∧
      (blob.length < cfgHeaderLenV2 ∨
        blob.length <
          requiredLenV2 (blob.getD 1 0).toNat (blob.getD 2 0).toNat)

/-- A blob with a count past its limit, or with more rooms than contacts. -/
def OverCount
    (blob : List UInt8) :
    Prop :=
  blob.head? = some cfgVersion ∧
      (maxContacts < (blob.getD 1 0).toNat ∨
        maxChannels < (blob.getD 2 0).toNat ∨
        maxContacts < (blob.getD 31 0).toNat ∨
        (blob.getD 1 0).toNat < (blob.getD 31 0).toNat) ∨
    blob.head? = some cfgVersionV2 ∧
      (maxContacts < (blob.getD 1 0).toNat ∨
        maxChannels < (blob.getD 2 0).toNat)

/--
A configuration as the device keeps it: rooms paired with contacts by key, and
the length fields of rooms inside their arrays.
-/
structure ValidConfig
    (config : ProvisionedConfig) :
    Prop where
  paired : config.Paired
  lengthsFit : ∀ extra ∈ config.roomExtras.elements, extra.Bounded

/-- A valid configuration is read back from its own blob. -/
theorem ValidConfig.reads_back
    {config : ProvisionedConfig}
    (valid : ValidConfig config) :
    deserializeConfigAt (serializeConfig config) = .value config := by
  have loadable : config.Loadable :=
    loadable_iff.mpr
      { roomsFit := valid.paired.roomsHaveContacts.rooms_le_contacts
        bounded := valid.lengthsFit }
  rw [deserializeConfigAt_eq, loadable]
  rfl

section Older

variable {blob : List UInt8}

theorem contactAtV2_eq
    {off : Nat}
    (inside : off + contactEntryLenV2 ≤ blob.length) :
    contactAtV2 blob off = .value (contactOfV2 blob off) := by
  have atLeast : off + 66 ≤ blob.length := inside
  rw [contactAtV2, arrayAt_eq (by omega) rfl, value_bind,
    flagAt_eq (by omega), value_bind,
    index_getD (by omega), value_bind,
    arrayAt_eq inside (by rfl), value_bind]
  rfl

theorem channelAt_eq
    {off : Nat}
    (inside : off + channelEntryLen ≤ blob.length) :
    channelAt blob off = .value (channelOf blob off) := by
  have atLeast : off + 67 ≤ blob.length := inside
  rw [channelAt, arrayAt_eq (by omega) rfl, value_bind,
    index_getD (by omega), value_bind,
    flagAt_eq (by omega), value_bind,
    index_getD (by omega), value_bind,
    arrayAt_eq inside (by rfl), value_bind]
  rfl

/-- A valid older blob is read as what it means. -/
theorem ValidV2Blob.migrates
    (valid : ValidV2Blob blob) :
    deserializeConfigAt blob = .value (migratedConfig blob) := by
  have whole := valid.whole
  rw [requiredLenV2] at whole
  have longHeader : cfgHeaderLenV2 ≤ blob.length := by omega
  have atLeast : 31 ≤ blob.length := longHeader
  have notOver :
      ¬ (maxContacts < (blob.getD 1 0).toNat ∨
        maxChannels < (blob.getD 2 0).toNat) := by
    have contactCount := valid.contactCount
    have channelCount := valid.channelCount
    omega
  have contacts :
      records (contactAtV2 blob) contactEntryLenV2
          (blob.getD 1 0).toNat cfgHeaderLenV2 =
        .value
          ((List.range (blob.getD 1 0).toNat).map fun place =>
            contactOfV2 blob
              (cfgHeaderLenV2 + place * contactEntryLenV2)) :=
    records_eq (contactOfV2 blob) (fun _ => contactAtV2_eq)
      (Nat.le_trans (Nat.le_add_right _ _) whole)
  have channels :
      records (channelAt blob) channelEntryLen (blob.getD 2 0).toNat
          (cfgHeaderLenV2 +
            (blob.getD 1 0).toNat * contactEntryLenV2) =
        .value
          ((List.range (blob.getD 2 0).toNat).map fun place =>
            channelOf blob
              (cfgHeaderLenV2 +
                  (blob.getD 1 0).toNat * contactEntryLenV2 +
                place * channelEntryLen)) :=
    records_eq (channelOf blob) (fun _ => channelAt_eq) whole
  rw [deserializeConfigAt, valid.version]
  simp only [if_neg (show cfgVersionV2 ≠ cfgVersion by decide), if_true]
  rw [deserializeV2MigrateAt, if_neg (Nat.not_lt_of_le longHeader),
    index_getD (by omega), value_bind, index_getD (by omega), value_bind]
  simp only [if_neg notOver, if_neg (Nat.not_lt_of_le valid.whole),
    Nat.min_eq_left valid.contactCount,
    Nat.min_eq_left valid.channelCount]
  rw [parseHeader_eq longHeader, value_bind, contacts, value_bind,
    List.length_map, List.length_range, channels, value_bind]
  rfl

/-- A migrated configuration has no rooms, so its new blob is read back. -/
theorem migratedConfig_reads_back :
    deserializeConfigAt (serializeConfig (migratedConfig blob)) =
      .value (migratedConfig blob) := by
  have loadable : (migratedConfig blob).Loadable :=
    loadable_iff.mpr
      { roomsFit := Nat.zero_le _
        bounded := fun _ member => nomatch member }
  rw [deserializeConfigAt_eq, loadable]
  rfl

end Older

section Damaged

variable {blob : List UInt8}

/-- A truncated blob is rejected. -/
theorem Truncated.rejected
    (truncated : Truncated blob) :
    deserializeConfigAt blob = .failed () := by
  rw [deserializeConfigAt]
  rcases truncated with nothing | ⟨version, short⟩ | ⟨version, short⟩
  · rw [nothing]
  · rw [version]
    simp only [if_true]
    by_cases shortHeader : blob.length < cfgHeaderLen
    · rw [deserializeV3At, if_pos shortHeader]
    · have needed := short.resolve_left shortHeader
      have atLeast : 32 ≤ blob.length := Nat.le_of_not_lt shortHeader
      rw [deserializeV3At, if_neg shortHeader, index_getD (by omega),
        value_bind, index_getD (by omega), value_bind,
        index_getD (by omega), value_bind]
      simp only [if_pos needed, ite_self]
  · rw [version]
    simp only [if_neg (show cfgVersionV2 ≠ cfgVersion by decide), if_true]
    by_cases shortHeader : blob.length < cfgHeaderLenV2
    · rw [deserializeV2MigrateAt, if_pos shortHeader]
    · have needed := short.resolve_left shortHeader
      have atLeast : 31 ≤ blob.length := Nat.le_of_not_lt shortHeader
      rw [deserializeV2MigrateAt, if_neg shortHeader,
        index_getD (by omega), value_bind, index_getD (by omega),
        value_bind]
      simp only [if_pos needed, ite_self]

/-- A blob with too large a count is rejected, whatever its length. -/
theorem OverCount.rejected
    (tooMany : OverCount blob) :
    deserializeConfigAt blob = .failed () := by
  rw [deserializeConfigAt]
  rcases tooMany with ⟨version, counts⟩ | ⟨version, counts⟩
  · rw [version]
    simp only [if_true]
    by_cases shortHeader : blob.length < cfgHeaderLen
    · rw [deserializeV3At, if_pos shortHeader]
    · have atLeast : 32 ≤ blob.length := Nat.le_of_not_lt shortHeader
      rw [deserializeV3At, if_neg shortHeader, index_getD (by omega),
        value_bind, index_getD (by omega), value_bind,
        index_getD (by omega), value_bind]
      by_cases limits :
          maxContacts < (blob.getD 1 0).toNat ∨
            maxChannels < (blob.getD 2 0).toNat ∨
            maxContacts < (blob.getD 31 0).toNat
      · simp only [if_pos limits]
      · have orphan :
            (blob.getD 1 0).toNat < (blob.getD 31 0).toNat := by omega
        simp only [if_pos orphan, ite_self]
  · rw [version]
    simp only [if_neg (show cfgVersionV2 ≠ cfgVersion by decide), if_true]
    by_cases shortHeader : blob.length < cfgHeaderLenV2
    · rw [deserializeV2MigrateAt, if_pos shortHeader]
    · have atLeast : 31 ≤ blob.length := Nat.le_of_not_lt shortHeader
      rw [deserializeV2MigrateAt, if_neg shortHeader,
        index_getD (by omega), value_bind, index_getD (by omega),
        value_bind]
      simp only [if_pos counts]

/-- Cutting a blob short leaves the bytes before the cut. -/
theorem getD_take
    {count position : Nat}
    (before : position < count) :
    (blob.take count).getD position 0 = blob.getD position 0 := by
  simp [before]

end Damaged

/-- The counts in the header of a serialised configuration. -/
theorem serializeConfig_counts
    (config : ProvisionedConfig) :
    ((serializeConfig config).getD 1 0).toNat =
        config.contacts.elements.length ∧
      ((serializeConfig config).getD 2 0).toNat =
        config.channels.elements.length ∧
      ((serializeConfig config).getD 31 0).toNat =
        config.roomExtras.elements.length := by
  refine ⟨toNat_ofNat_length config.contacts (by decide),
    toNat_ofNat_length config.channels (by decide), ?_⟩
  have header : config.header.encode.length = 31 := by
    simp [ConfigHeader.encode]
  have roomByte :
      (serializeConfig config).getD 31 0 =
        UInt8.ofNat config.roomExtras.elements.length := by
    rw [serializeConfig, List.getD_eq_getElem?_getD,
      List.getElem?_append_right (by omega), header]
    rfl
  rw [roomByte]
  exact toNat_ofNat_length config.roomExtras (by decide)

/-- A serialised configuration that lost bytes at its end is truncated. -/
theorem truncated_take
    {config : ProvisionedConfig}
    {count : Nat}
    (cut : count < (serializeConfig config).length) :
    Truncated ((serializeConfig config).take count) := by
  have length := length_serializeConfig config
  obtain ⟨contacts, channels, rooms⟩ := serializeConfig_counts config
  cases count with
  | zero =>
      exact .inl rfl
  | succ count =>
      have starts :
          ((serializeConfig config).take (count + 1)).head? =
            some cfgVersion := rfl
      refine .inr (.inl ⟨starts, ?_⟩)
      rw [List.length_take, Nat.min_eq_left (Nat.le_of_lt cut)]
      by_cases inHeader : count + 1 < cfgHeaderLen
      · exact .inl inHeader
      · have past : 32 ≤ count + 1 := Nat.le_of_not_lt inHeader
        refine .inr ?_
        rw [getD_take (by omega), getD_take (by omega),
          getD_take (by omega), contacts, channels, rooms, requiredLen]
        omega

/--
The configuration blob codec: no blob makes the reader panic; a valid
configuration is read back from its blob; a valid older blob is read with every
field kept and chat contacts, and read back from the blob it is stored as next;
a truncated blob or one with too large a count is rejected, and so is every
serialised configuration that lost bytes at its end.
-/
theorem configBlob_codec :
    (∀ blob, deserializeConfigAt blob ≠ .panicked) ∧
      (∀ config, ValidConfig config →
        deserializeConfigAt (serializeConfig config) = .value config) ∧
      (∀ blob, ValidV2Blob blob →
        deserializeConfigAt blob = .value (migratedConfig blob) ∧
          (serializeConfig (migratedConfig blob)).head? =
            some cfgVersion ∧
          deserializeConfigAt (serializeConfig (migratedConfig blob)) =
            .value (migratedConfig blob)) ∧
      (∀ blob, Truncated blob ∨ OverCount blob →
        deserializeConfigAt blob = .failed ()) ∧
      (∀ config count, count < (serializeConfig config).length →
        deserializeConfigAt ((serializeConfig config).take count) =
          .failed ()) := by
  refine ⟨fun blob => ?_, fun config valid => valid.reads_back,
    fun blob valid => ⟨valid.migrates, rfl, migratedConfig_reads_back⟩,
    fun blob damaged => ?_, fun config count cut =>
      (truncated_take cut).rejected⟩
  · rw [deserializeConfigAt_eq]
    cases deserializeConfig blob <;> simp [ofOption]
  · rcases damaged with truncated | tooMany
    · exact truncated.rejected
    · exact tooMany.rejected

/-- An older blob of one contact. -/
def oneContactV2 : List UInt8 :=
  cfgVersionV2 :: 1 :: List.replicate 29 0 ++ List.replicate 66 7

/-- A configuration of one room, with its password. -/
def oneRoomConfig : ProvisionedConfig :=
  { ProvisionedConfig.empty with
    contacts :=
      ⟨[{ pubkey := Vector.replicate 32 0xEF
          telemetryEnable := false
          role := roleRoom
          displayName := Vector.replicate 32 0x72
          displayNameLen := 4 }], by decide⟩
    roomExtras :=
      ⟨[{ pubkey := Vector.replicate 32 0xEF
          guestPassword := Vector.replicate maxLoginPasswordLen 0x70
          guestPasswordLen := 3
          syncSince := 1000
          permissions := 2
          outPath := Vector.replicate maxPathSize 0
          outPathLen := 0 }], by decide⟩ }

/-- The older blob is read, and so is the blob of a room. -/
theorem configBlob_codec_oneRoom :
    deserializeConfigAt oneContactV2 =
        .value (migratedConfig oneContactV2) ∧
      deserializeConfigAt (serializeConfig oneRoomConfig) =
        .value oneRoomConfig ∧
      deserializeConfigAt (oneContactV2.take 60) = .failed () := by
  obtain ⟨-, readsBack, migrates, rejects, -⟩ := configBlob_codec
  have valid : ValidV2Blob oneContactV2 :=
    ⟨by decide, by decide, by decide, by decide⟩
  have room : ValidConfig oneRoomConfig := by
    refine ⟨⟨by decide, by decide⟩, ?_⟩
    intro extra member
    cases List.mem_singleton.mp member
    exact ⟨by decide, by decide⟩
  have cut : Truncated (oneContactV2.take 60) :=
    .inr (.inr ⟨by decide, .inr (by decide)⟩)
  exact ⟨(migrates _ valid).1, readsBack _ room, rejects _ (.inl cut)⟩

end MeshCadet
