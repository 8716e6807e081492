import MeshCadet.ByteParser
import MeshCadet.ConfigStore

namespace MeshCadet

/-!
# The configuration blob

The flash format of the provisioned configuration: a 32-byte header followed by
contact, channel and room records of fixed length.  Blobs of the older version
have no role byte, no room count and no rooms; they are migrated on load.
-/

open ByteParser

/-- Current blob format version. -/
def cfgVersion : UInt8 :=
  0x03

/-- Blob format version without rooms. -/
def cfgVersionV2 : UInt8 :=
  0x02

/-- Header bytes of the current version. -/
def cfgHeaderLen : Nat :=
  32

/-- Header bytes of the older version. -/
def cfgHeaderLenV2 : Nat :=
  31

/-- Bytes of one contact record. -/
def contactEntryLen : Nat :=
  67

/-- Bytes of one contact record of the older version. -/
def contactEntryLenV2 : Nat :=
  66

/-- Bytes of one channel record. -/
def channelEntryLen : Nat :=
  67

/-- Bytes of one room record. -/
def roomExtraEntryLen : Nat :=
  119

/-- The header bytes both versions share, up to the radio preset. -/
structure ConfigHeader where
  version : UInt8
  contactCount : UInt8
  channelCount : UInt8
  lockFlags : UInt8
  pinLen : UInt8
  pin : Vector UInt8 16
  notifVisual : Bool
  notifAudible : Bool
  radioPreset : RadioPreset
deriving Repr, DecidableEq

namespace ConfigHeader

/-- The 31 shared header bytes. -/
def encode
    (header : ConfigHeader) :
    List UInt8 :=
  [header.version] ++ ([header.contactCount] ++
    ([header.channelCount] ++ ([header.lockFlags] ++
    ([header.pinLen] ++ (header.pin.toList ++
    ([header.notifVisual.toUInt8] ++
    ([header.notifAudible.toUInt8] ++
    ((Bytes.u32ToLeBytes header.radioPreset.freqHz).toList ++
    ([header.radioPreset.bwCode] ++ ([header.radioPreset.sf] ++
    ([header.radioPreset.cr] ++
    [header.radioPreset.txPowerDbm])))))))))))

/-- Read the 31 shared header bytes. -/
def parser : Parser ConfigHeader := do
  let version ← byte
  let contactCount ← byte
  let channelCount ← byte
  let lockFlags ← byte
  let pinLen ← byte
  let pin ← bytes 16
  let notifVisual ← flag
  let notifAudible ← flag
  let freqHz ← u32Le
  let bwCode ← byte
  let sf ← byte
  let cr ← byte
  let txPowerDbm ← byte
  pure
    { version := version
      contactCount := contactCount
      channelCount := channelCount
      lockFlags := lockFlags
      pinLen := pinLen
      pin := pin
      notifVisual := notifVisual
      notifAudible := notifAudible
      radioPreset :=
        { freqHz := freqHz
          bwCode := bwCode
          sf := sf
          cr := cr
          txPowerDbm := txPowerDbm } }

end ConfigHeader

namespace Contact

/-- One 67-byte contact record. -/
def encode
    (contact : Contact) :
    List UInt8 :=
  contact.pubkey.toList ++ ([contact.telemetryEnable.toUInt8] ++
    ([contact.role] ++ ([contact.displayNameLen] ++
    contact.displayName.toList)))

/-- Read one contact record. -/
def parser : Parser Contact := do
  let pubkey ← bytes 32
  let telemetryEnable ← flag
  let role ← byte
  let displayNameLen ← byte
  let displayName ← bytes 32
  pure
    { pubkey := pubkey
      telemetryEnable := telemetryEnable
      role := role
      displayName := displayName
      displayNameLen := displayNameLen }

/-- Read one contact record of the older version, which has no role. -/
def parserV2 : Parser Contact := do
  let pubkey ← bytes 32
  let telemetryEnable ← flag
  let displayNameLen ← byte
  let displayName ← bytes 32
  pure
    { pubkey := pubkey
      telemetryEnable := telemetryEnable
      role := roleChat
      displayName := displayName
      displayNameLen := displayNameLen }

end Contact

namespace Channel

/-- One 67-byte channel record. -/
def encode
    (channel : Channel) :
    List UInt8 :=
  channel.secret.toList ++ ([channel.keyLen] ++
    ([channel.primary.toUInt8] ++ ([channel.nameLen] ++
    channel.name.toList)))

/-- Read one channel record. -/
def parser : Parser Channel := do
  let secret ← bytes 32
  let keyLen ← byte
  let primary ← flag
  let nameLen ← byte
  let name ← bytes 32
  pure
    { secret := secret
      keyLen := keyLen
      primary := primary
      name := name
      nameLen := nameLen }

end Channel

namespace RoomExtra

/-- One 119-byte room record. -/
def encode
    (extra : RoomExtra) :
    List UInt8 :=
  extra.pubkey.toList ++ ([extra.guestPasswordLen] ++
    (extra.guestPassword.toList ++
    ((Bytes.u32ToLeBytes extra.syncSince).toList ++
    ([extra.permissions] ++ ([extra.outPathLen] ++
    extra.outPath.toList)))))

/-- The length fields stay inside their arrays. -/
structure Bounded
    (extra : RoomExtra) :
    Prop where
  guestPasswordLen : extra.guestPasswordLen.toNat ≤ maxLoginPasswordLen
  outPathLen : extra.outPathLen.toNat ≤ maxPathSize

/-- Read one room record; a length field past its array rejects the blob. -/
def parser : Parser RoomExtra := do
  let pubkey ← bytes 32
  let guestPasswordLen ← byte
  ensure (guestPasswordLen.toNat ≤ maxLoginPasswordLen)
  let guestPassword ← bytes maxLoginPasswordLen
  let syncSince ← u32Le
  let permissions ← byte
  let outPathLen ← byte
  ensure (outPathLen.toNat ≤ maxPathSize)
  let outPath ← bytes maxPathSize
  pure
    { pubkey := pubkey
      guestPassword := guestPassword
      guestPasswordLen := guestPasswordLen
      syncSince := syncSince
      permissions := permissions
      outPath := outPath
      outPathLen := outPathLen }

end RoomExtra

/-- The shared header of a configuration's blob. -/
def ProvisionedConfig.header
    (config : ProvisionedConfig) :
    ConfigHeader :=
  { version := cfgVersion
    contactCount := UInt8.ofNat config.contacts.elements.length
    channelCount := UInt8.ofNat config.channels.elements.length
    lockFlags := config.lockFlags
    pinLen := config.pinLen
    pin := config.pin
    notifVisual := config.notifDefaults.visual
    notifAudible := config.notifDefaults.audible
    radioPreset := config.radioPreset }

/-- Serialise a configuration as a current-version blob. -/
def serializeConfig
    (config : ProvisionedConfig) :
    List UInt8 :=
  config.header.encode ++
    ([UInt8.ofNat config.roomExtras.elements.length] ++
    (config.contacts.elements.flatMap Contact.encode ++
    (config.channels.elements.flatMap Channel.encode ++
    config.roomExtras.elements.flatMap RoomExtra.encode)))

/-- The configuration with a parsed header's settings. -/
def ConfigHeader.configWith
    (header : ConfigHeader)
    (contacts : BoundedList Contact maxContacts)
    (channels : BoundedList Channel maxChannels)
    (roomExtras : BoundedList RoomExtra maxContacts) :
    ProvisionedConfig :=
  { contacts := contacts
    channels := channels
    roomExtras := roomExtras
    radioPreset := header.radioPreset
    notifDefaults :=
      { visual := header.notifVisual
        audible := header.notifAudible }
    pin := header.pin
    pinLen := header.pinLen
    lockFlags := header.lockFlags }

/-- Read a fixed number of records into a bounded list. -/
def boundedTimes
    {α : Type}
    {capacity : Nat}
    (count : Nat)
    (parser : Parser α) :
    Parser (BoundedList α capacity) :=
  fun input => do
    let (elements, rest) ← times count parser input
    let list ← BoundedList.ofList? elements
    pure (list, rest)

/-- Read a current-version blob of the given total length. -/
def parserV3
    (blobLen : Nat) :
    Parser ProvisionedConfig := do
  let header ← ConfigHeader.parser
  let roomCount ← byte
  ensure
    (header.contactCount.toNat ≤ maxContacts &&
      header.channelCount.toNat ≤ maxChannels &&
      roomCount.toNat ≤ maxContacts)
  -- Every room is also a contact.
  ensure (roomCount ≤ header.contactCount)
  ensure
    (cfgHeaderLen +
        header.contactCount.toNat * contactEntryLen +
        header.channelCount.toNat * channelEntryLen +
        roomCount.toNat * roomExtraEntryLen ≤ blobLen)
  let contacts ← boundedTimes header.contactCount.toNat Contact.parser
  let channels ← boundedTimes header.channelCount.toNat Channel.parser
  let roomExtras ← boundedTimes roomCount.toNat RoomExtra.parser
  pure (header.configWith contacts channels roomExtras)

/-- Read an older blob of the given total length. -/
def parserV2
    (blobLen : Nat) :
    Parser ProvisionedConfig := do
  let header ← ConfigHeader.parser
  ensure
    (header.contactCount.toNat ≤ maxContacts &&
      header.channelCount.toNat ≤ maxChannels)
  ensure
    (cfgHeaderLenV2 +
        header.contactCount.toNat * contactEntryLenV2 +
        header.channelCount.toNat * channelEntryLen ≤ blobLen)
  let contacts ← boundedTimes header.contactCount.toNat Contact.parserV2
  let channels ← boundedTimes header.channelCount.toNat Channel.parser
  pure (header.configWith contacts channels .empty)

def deserializeV3
    (blob : List UInt8) :
    Option ProvisionedConfig :=
  (parserV3 blob.length blob).map Prod.fst

def deserializeV2Migrate
    (blob : List UInt8) :
    Option ProvisionedConfig :=
  (parserV2 blob.length blob).map Prod.fst

/-- Deserialise a configuration blob, dispatching on its version byte. -/
def deserializeConfig
    (blob : List UInt8) :
    Option ProvisionedConfig :=
  match blob with
  | [] =>
      none
  | version :: _ =>
      if version = cfgVersion then
        deserializeV3 blob
      else if version = cfgVersionV2 then
        deserializeV2Migrate blob
      else
        none

/-- The blob read at the next boot gives the same configuration back. -/
def ProvisionedConfig.Loadable
    (config : ProvisionedConfig) :
    Prop :=
  deserializeConfig (serializeConfig config) = some config

instance
    (config : ProvisionedConfig) :
    Decidable config.Loadable :=
  inferInstanceAs (Decidable (_ = _))

/-- The fields of a header are read back in order. -/
theorem reads_header
    (header : ConfigHeader) :
    Reads ConfigHeader.parser header.encode header := by
  unfold ConfigHeader.parser ConfigHeader.encode
  refine Reads.bind (reads_byte _) ?_
  refine Reads.bind (reads_byte _) ?_
  refine Reads.bind (reads_byte _) ?_
  refine Reads.bind (reads_byte _) ?_
  refine Reads.bind (reads_byte _) ?_
  refine Reads.bind (reads_bytes _) ?_
  refine Reads.bind (reads_flag _) ?_
  refine Reads.bind (reads_flag _) ?_
  refine Reads.bind (reads_u32Le _) ?_
  refine Reads.bind (reads_byte _) ?_
  refine Reads.bind (reads_byte _) ?_
  refine Reads.bind (reads_byte _) ?_
  exact Reads.last (reads_byte _)

/-- The fields of a contact are read back in order. -/
theorem reads_contact
    (contact : Contact) :
    Reads Contact.parser contact.encode contact := by
  unfold Contact.parser Contact.encode
  refine Reads.bind (reads_bytes _) ?_
  refine Reads.bind (reads_flag _) ?_
  refine Reads.bind (reads_byte _) ?_
  refine Reads.bind (reads_byte _) ?_
  exact Reads.last (reads_bytes _)

/-- The fields of a channel are read back in order. -/
theorem reads_channel
    (channel : Channel) :
    Reads Channel.parser channel.encode channel := by
  unfold Channel.parser Channel.encode
  refine Reads.bind (reads_bytes _) ?_
  refine Reads.bind (reads_byte _) ?_
  refine Reads.bind (reads_flag _) ?_
  refine Reads.bind (reads_byte _) ?_
  exact Reads.last (reads_bytes _)

/-- The fields of a room with bounded lengths are read back in order. -/
theorem reads_roomExtra
    {extra : RoomExtra}
    (bounded : extra.Bounded) :
    Reads RoomExtra.parser extra.encode extra := by
  unfold RoomExtra.parser RoomExtra.encode
  refine Reads.bind (reads_bytes _) ?_
  refine Reads.bind (reads_byte _) ?_
  refine Reads.check (decide_eq_true bounded.guestPasswordLen) ?_
  refine Reads.bind (reads_bytes _) ?_
  refine Reads.bind (reads_u32Le _) ?_
  refine Reads.bind (reads_byte _) ?_
  refine Reads.bind (reads_byte _) ?_
  refine Reads.check (decide_eq_true bounded.outPathLen) ?_
  exact Reads.last (reads_bytes _)

/-- The records of a bounded list are read back in order. -/
theorem reads_boundedTimes
    {α : Type}
    {capacity count : Nat}
    {parser : Parser α}
    {encode : α → List UInt8}
    (list : BoundedList α capacity)
    (counted : count = list.elements.length)
    (reads :
      ∀ value ∈ list.elements, Reads parser (encode value) value) :
    Reads (boundedTimes count parser)
      (list.elements.flatMap encode) list := by
  intro rest
  subst counted
  have readsElements := reads_times list.elements reads rest
  simp [boundedTimes, readsElements, BoundedList.ofList?_elements]

/-- A counter byte of a bounded list holds its length. -/
theorem toNat_ofNat_length
    {α : Type}
    {capacity : Nat}
    (list : BoundedList α capacity)
    (small : capacity < 256) :
    (UInt8.ofNat list.elements.length).toNat =
      list.elements.length := by
  have fits := list.fits
  simp
  omega

@[simp] theorem length_encode_contact
    (contact : Contact) :
    contact.encode.length = contactEntryLen := by
  simp [Contact.encode, contactEntryLen]

@[simp] theorem length_encode_channel
    (channel : Channel) :
    channel.encode.length = channelEntryLen := by
  simp [Channel.encode, channelEntryLen]

@[simp] theorem length_encode_roomExtra
    (extra : RoomExtra) :
    extra.encode.length = roomExtraEntryLen := by
  simp [RoomExtra.encode, roomExtraEntryLen,
    maxLoginPasswordLen, maxPathSize]

/-- A blob has exactly the length its counters announce. -/
theorem length_serializeConfig
    (config : ProvisionedConfig) :
    (serializeConfig config).length =
      cfgHeaderLen +
        config.contacts.elements.length * contactEntryLen +
        config.channels.elements.length * channelEntryLen +
        config.roomExtras.elements.length * roomExtraEntryLen := by
  simp [serializeConfig, ConfigHeader.encode, cfgHeaderLen,
    List.length_flatMap]
  omega

/-- A blob whose rooms have bounded lengths and contacts is read back. -/
theorem reads_serializeConfig
    {config : ProvisionedConfig}
    (roomsFit :
      config.roomExtras.elements.length ≤
        config.contacts.elements.length)
    (bounded :
      ∀ extra ∈ config.roomExtras.elements, extra.Bounded) :
    Reads (parserV3 (serializeConfig config).length)
      (serializeConfig config) config := by
  have contactCount := toNat_ofNat_length config.contacts (by decide)
  have channelCount := toNat_ofNat_length config.channels (by decide)
  have roomCount := toNat_ofNat_length config.roomExtras (by decide)
  rw [length_serializeConfig]
  unfold parserV3 serializeConfig
  refine Reads.bind (reads_header _) ?_
  refine Reads.bind (reads_byte _) ?_
  refine Reads.check ?_ ?_
  · simp only [ProvisionedConfig.header, contactCount,
      channelCount, roomCount, Bool.and_eq_true,
      decide_eq_true_eq]
    exact ⟨⟨config.contacts.fits, config.channels.fits⟩,
      config.roomExtras.fits⟩
  refine Reads.check ?_ ?_
  · simp only [ProvisionedConfig.header, UInt8.le_iff_toNat_le,
      contactCount, roomCount, decide_eq_true_eq]
    exact roomsFit
  refine Reads.check ?_ ?_
  · simp only [ProvisionedConfig.header, contactCount,
      channelCount, roomCount, decide_eq_true_eq]
    exact Nat.le_refl _
  refine Reads.bind
    (reads_boundedTimes config.contacts contactCount
      fun contact _ => reads_contact contact) ?_
  refine Reads.bind
    (reads_boundedTimes config.channels channelCount
      fun channel _ => reads_channel channel) ?_
  exact Reads.last
    (reads_boundedTimes config.roomExtras roomCount
      fun extra member => reads_roomExtra (bounded extra member))

/-- What a loaded blob guarantees of its rooms. -/
structure ProvisionedConfig.RoomsStorable
    (config : ProvisionedConfig) :
    Prop where
  roomsFit :
    config.roomExtras.elements.length ≤
      config.contacts.elements.length
  bounded :
    ∀ extra ∈ config.roomExtras.elements, extra.Bounded

/-- A room that was read has bounded lengths. -/
theorem yields_roomExtra :
    Yields RoomExtra.parser RoomExtra.Bounded := by
  unfold RoomExtra.parser
  refine Yields.bind (Yields.any _) fun pubkey _ => ?_
  refine Yields.bind (Yields.any _) fun guestPasswordLen _ => ?_
  refine Yields.bind (yields_ensure _) fun _ passwordFits => ?_
  refine Yields.bind (Yields.any _) fun guestPassword _ => ?_
  refine Yields.bind (Yields.any _) fun syncSince _ => ?_
  refine Yields.bind (Yields.any _) fun permissions _ => ?_
  refine Yields.bind (Yields.any _) fun outPathLen _ => ?_
  refine Yields.bind (yields_ensure _) fun _ pathFits => ?_
  refine Yields.bind (Yields.any _) fun outPath _ => ?_
  exact Yields.pure
    ⟨of_decide_eq_true passwordFits, of_decide_eq_true pathFits⟩

/-- Contacts of an older blob are chat contacts. -/
theorem yields_contactV2 :
    Yields Contact.parserV2 fun contact => contact.isRoom = false := by
  unfold Contact.parserV2
  refine Yields.bind (Yields.any _) fun pubkey _ => ?_
  refine Yields.bind (Yields.any _) fun telemetryEnable _ => ?_
  refine Yields.bind (Yields.any _) fun displayNameLen _ => ?_
  refine Yields.bind (Yields.any _) fun displayName _ => ?_
  exact Yields.pure rfl

/-- A bounded list that was read holds as many records as were asked for. -/
theorem yields_boundedTimes
    {α : Type}
    {capacity : Nat}
    {parser : Parser α}
    {property : α → Prop}
    (count : Nat)
    (yields : Yields parser property) :
    Yields
      (boundedTimes count parser : Parser (BoundedList α capacity))
      fun list =>
        list.elements.length = count ∧
          ∀ value ∈ list.elements, property value := by
  intro input list rest accepted
  obtain ⟨⟨elements, left⟩, readElements, bounded⟩ :=
    Option.bind_eq_some_iff.mp accepted
  obtain ⟨checked, isList, same⟩ := Option.bind_eq_some_iff.mp bounded
  obtain ⟨rfl, -⟩ := Prod.mk.inj (Option.some.inj same)
  have sameElements : checked.elements = elements := by
    simp only [BoundedList.ofList?] at isList
    split at isList
    · exact (Option.some.inj isList) ▸ rfl
    · cases isList
  rw [sameElements]
  exact yields_times count yields _ _ _ readElements

/-- Rooms read from a current-version blob are storable. -/
theorem yields_parserV3
    (blobLen : Nat) :
    Yields (parserV3 blobLen) ProvisionedConfig.RoomsStorable := by
  unfold parserV3
  refine Yields.bind (Yields.any _) fun header _ => ?_
  refine Yields.bind (Yields.any _) fun roomCount _ => ?_
  refine Yields.bind (Yields.any _) fun _ _ => ?_
  refine Yields.bind (yields_ensure _) fun _ roomsFit => ?_
  refine Yields.bind (Yields.any _) fun _ _ => ?_
  refine Yields.bind
    (yields_boundedTimes _ (Yields.any _)) fun contacts readContacts => ?_
  refine Yields.bind (Yields.any _) fun channels _ => ?_
  refine Yields.bind
    (yields_boundedTimes _ yields_roomExtra) fun rooms readRooms => ?_
  refine Yields.pure ⟨?_, readRooms.2⟩
  have fits := UInt8.le_iff_toNat_le.mp (of_decide_eq_true roomsFit)
  rw [← readRooms.1, ← readContacts.1] at fits
  exact fits

/-- An older blob has no rooms to store. -/
theorem yields_parserV2
    (blobLen : Nat) :
    Yields (parserV2 blobLen) fun config =>
      config.roomExtras = .empty ∧
        ∀ contact ∈ config.contacts.elements,
          contact.isRoom = false := by
  unfold parserV2
  refine Yields.bind (Yields.any _) fun header _ => ?_
  refine Yields.bind (Yields.any _) fun _ _ => ?_
  refine Yields.bind (Yields.any _) fun _ _ => ?_
  refine Yields.bind
    (yields_boundedTimes _ yields_contactV2) fun contacts readContacts => ?_
  refine Yields.bind (Yields.any _) fun channels _ => ?_
  exact Yields.pure ⟨rfl, readContacts.2⟩

/-- Every loaded configuration is storable again. -/
theorem roomsStorable_of_deserialize
    {blob : List UInt8}
    {config : ProvisionedConfig}
    (loaded : deserializeConfig blob = some config) :
    config.RoomsStorable := by
  rw [deserializeConfig.eq_def] at loaded
  split at loaded
  · cases loaded
  · split at loaded
    · obtain ⟨⟨read, rest⟩, accepted, rfl⟩ :=
        Option.map_eq_some_iff.mp loaded
      exact yields_parserV3 _ _ _ _ accepted
    · split at loaded
      · obtain ⟨⟨read, rest⟩, accepted, rfl⟩ :=
          Option.map_eq_some_iff.mp loaded
        have noRooms := (yields_parserV2 _ _ _ _ accepted).1
        exact
          { roomsFit := by simp [noRooms, BoundedList.empty]
            bounded := by simp [noRooms, BoundedList.empty] }
      · cases loaded

/-- A configuration is loadable exactly when its rooms are storable. -/
theorem loadable_iff
    {config : ProvisionedConfig} :
    config.Loadable ↔ config.RoomsStorable := by
  constructor
  · exact roomsStorable_of_deserialize
  · intro storable
    have reads :=
      reads_serializeConfig storable.roomsFit storable.bounded []
    rw [List.append_nil] at reads
    have version :
        ∃ rest, serializeConfig config = cfgVersion :: rest :=
      ⟨_, rfl⟩
    obtain ⟨rest, starts⟩ := version
    have dispatched :
        deserializeConfig (serializeConfig config) =
          deserializeV3 (serializeConfig config) := by
      rw [starts]
      simp [deserializeConfig]
    rw [ProvisionedConfig.Loadable, dispatched, deserializeV3, reads]
    rfl

end MeshCadet
