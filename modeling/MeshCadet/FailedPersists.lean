import MeshCadet.ChannelFrames
import MeshCadet.FirstBoot

namespace MeshCadet

/-!
# Failed persists of the admin server

The admin server changes the configuration in memory, saves it and answers.
When the save fails a list edit steps its counters back by one and a setting
stays as it is; the client is told that the save failed and can ask for the
lists again.
-/

def errStorageError : UInt8 :=
  0x06

def errRegionInvalid : UInt8 :=
  0x08

/-- Bytes of an admin PIN. -/
def maxPinLen : Nat :=
  16

/-- Bytes of a region name. -/
def regionNameMax : Nat :=
  31

/-- A setting frame: a length byte and as many bytes of text. -/
def decodeLengthPrefixed
    (maxLen : Nat)
    (tooLong : ProvError)
    (payload : List UInt8) :
    Except ProvError (List UInt8) :=
  match payload with
  | [] => .error .truncatedPayload
  | length :: rest =>
      if length.toNat > maxLen then
        .error tooLong
      else if rest.length < length.toNat then
        .error .truncatedPayload
      else
        .ok (rest.take length.toNat)

/-- Decode `visual(1) | audible(1)`. -/
def decodeSetNotifDefaults
    (payload : List UInt8) :
    Except ProvError NotifDefaults :=
  match payload with
  | visual :: audible :: _ =>
      .ok { visual := visual != 0, audible := audible != 0 }
  | _ => .error .truncatedPayload

/-- Decode `pin_len(1) | pin`. -/
def decodeSetPin
    (payload : List UInt8) :
    Except ProvError (List UInt8) :=
  decodeLengthPrefixed maxPinLen .pinTooLong payload

/-- Decode `name_len(1) | name`. -/
def decodeSetDeviceName
    (payload : List UInt8) :
    Except ProvError (List UInt8) :=
  decodeLengthPrefixed 32 .nameTooLong payload

/-- Why a region name is refused. -/
inductive RegionNameError where
  | empty
  | tooLong (length : Nat)
  | privateUnsupported
  | invalidByte (index : Nat) (byte : UInt8)
deriving Repr, DecidableEq

/-- The byte may be in a region name. -/
def isRegionNameByte
    (byte : UInt8) :
    Bool :=
  byte == 0x2D || byte == 0x24 || byte == 0x23 ||
    (0x30 ≤ byte && byte ≤ 0x39) || 0x41 ≤ byte

/-- Check a region name. -/
def validateRegionName
    (name : List UInt8) :
    Except RegionNameError Unit :=
  if name = [] then
    .error .empty
  else if name.length > regionNameMax then
    .error (.tooLong name.length)
  else if name.headD 0 = 0x24 then
    .error .privateUnsupported
  else
    match name.findIdx? fun byte => !isRegionNameByte byte with
    | some index => .error (.invalidByte index (name.getD index 0))
    | none => .ok ()

/-- Decode `name_len(1) | name`; an empty name clears the region. -/
def decodeSetRegion
    (payload : List UInt8) :
    Except ProvError (List UInt8) :=
  match decodeLengthPrefixed regionNameMax .regionNameInvalid payload with
  | .error problem => .error problem
  | .ok name =>
      if name = [] then
        .ok name
      else
        match validateRegionName name with
        | .ok _ => .ok name
        | .error _ => .error .regionNameInvalid

/-- The decision for a set-region frame. -/
inductive SetRegionOutcome where
  | apply (name : List UInt8)
  | privateUnsupported
  | invalidName (problem : RegionNameError)
  | decodeError
deriving Repr, DecidableEq

/-- The decision for a name that is not empty. -/
def classifyRegion
    (name : List UInt8) :
    SetRegionOutcome :=
  match validateRegionName name with
  | .ok _ => .apply name
  | .error .privateUnsupported => .privateUnsupported
  | .error problem => .invalidName problem

/-- Decide what a set-region frame means. -/
def handleSetRegion
    (payload : List UInt8) :
    SetRegionOutcome :=
  match payload with
  | [] => .decodeError
  | length :: rest =>
      if length.toNat > regionNameMax then
        .invalidName (.tooLong length.toNat)
      else if rest.length < length.toNat then
        .decodeError
      else
        match decodeSetRegion payload with
        | .ok _ | .error .regionNameInvalid =>
            if rest.take length.toNat = [] then
              .apply []
            else
              classifyRegion (rest.take length.toNat)
        | .error _ => .decodeError

/-- How saving the configuration ends: the blob is written before the flag. -/
inductive SaveOutcome where
  | saved
  | blobFailed
  | flagFailed
deriving Repr, DecidableEq

/-- Which list an edit touched. -/
inductive ConfigKind where
  | contact
  | channel
  | room
deriving Repr, DecidableEq

/-- The list an edit frame touches. -/
def AdminEdit.kind : AdminEdit → ConfigKind
  | .addContact _ | .delContact _ => .contact
  | .addChannel _ | .delChannel _ => .channel
  | .addRoom _ | .delRoom _ => .room

/-- The step back of the counters after a failed save. -/
def ProvisionedConfig.rollback
    (config : ProvisionedConfig) :
    ConfigKind → ProvisionedConfig
  | .contact => { config with contacts := config.contacts.dropLast }
  | .channel => { config with channels := config.channels.dropLast }
  | .room =>
      { config with
        contacts := config.contacts.dropLast
        roomExtras := config.roomExtras.dropLast }

/-- A frame that changes something the server keeps. -/
inductive AdminRequest where
  | edit (edit : AdminEdit)
  | setNotifDefaults (payload : List UInt8)
  | setPin (payload : List UInt8)
  | setDeviceName (payload : List UInt8)
  | setRegion (payload : List UInt8)
  | commitProvisioning
deriving Repr, DecidableEq

/-- How the flash answers during one request. -/
structure NvsOutcomes where
  save : SaveOutcome
  smallWrite : Bool
  erase : Bool
deriving Repr, DecidableEq

/--
What admin requests can reach: the server's configuration and name, the live
allowlist of the radio loop, and the stores in flash.
-/
structure AdminStores where
  config : ProvisionedConfig
  deviceName : List UInt8
  policy : PolicyFilter
  storedConfig : Option (List UInt8)
  storedName : List UInt8
  storedRegion : List UInt8
  replayStates : UInt8 → Option (List UInt8)
  roomSessions : UInt8 → Option (List UInt8)

namespace AdminStores

/-- Save the configuration. -/
def saveProvisionedConfig
    (stores : AdminStores) :
    SaveOutcome → AdminStores × Bool
  | .saved =>
      ({ stores with
          storedConfig := some (serializeConfig stores.config) },
        true)
  | .blobFailed =>
      (stores, false)
  | .flagFailed =>
      ({ stores with
          storedConfig := some (serializeConfig stores.config) },
        false)

/-- Save after a list edit, or step the counters back. -/
def persistOrRollback
    (stores : AdminStores)
    (kind : ConfigKind)
    (outcome : SaveOutcome) :
    AdminStores × Bool × AdminReply :=
  match stores.saveProvisionedConfig outcome with
  | (after, true) =>
      (after, true, .ok)
  | (after, false) =>
      ({ after with config := after.config.rollback kind },
        false, .error errStorageError "NVS save failed")

/-- Save after a setting; the setting stands either way. -/
def persistSetting
    (stores : AdminStores)
    (outcome : SaveOutcome) :
    AdminStores × AdminReply :=
  match stores.saveProvisionedConfig outcome with
  | (after, true) =>
      (after, .ok)
  | (after, false) =>
      (after, .error errStorageError "NVS save failed")

/-- Erase what is kept under a hash, if the flash lets it. -/
def eraseAt
    (store : UInt8 → Option (List UInt8))
    (hash : UInt8)
    (erases : Bool) :
    UInt8 → Option (List UInt8) :=
  fun other => if erases ∧ other = hash then none else store other

/--
What an edit erases after its save: a deleted contact's replay state whether the
save landed or not, a room's session only if it landed.  The hash is the first
byte of the key that starts the payload.
-/
def eraseCompanions
    (stores : AdminStores)
    (landed erases : Bool) :
    AdminEdit → AdminStores
  | .delContact payload =>
      { stores with
        replayStates :=
          eraseAt stores.replayStates (payload.headD 0) erases }
  | .addRoom payload | .delRoom payload =>
      { stores with
        roomSessions :=
          eraseAt stores.roomSessions (payload.headD 0)
            (landed && erases) }
  | _ => stores

/-- A list edit: change, save, erase. -/
def handleListEdit
    (stores : AdminStores)
    (edit : AdminEdit)
    (outcomes : NvsOutcomes) :
    Option (AdminStores × AdminReply) :=
  (stores.config.handleEdit edit).map fun
  | (next, .error code message) =>
      ({ stores with config := next }, .error code message)
  | (next, .ok) =>
      let (after, landed, reply) :=
        { stores with config := next }.persistOrRollback edit.kind
          outcomes.save
      (after.eraseCompanions landed outcomes.erase edit, reply)

/-- One request and its answer; `none` is the index panic. -/
def handle
    (stores : AdminStores)
    (outcomes : NvsOutcomes) :
    AdminRequest → Option (AdminStores × AdminReply)
  | .edit edit =>
      stores.handleListEdit edit outcomes
  | .setNotifDefaults payload =>
      match decodeSetNotifDefaults payload with
      | .error _ =>
          some
            (stores,
              .error errDecodeError "set_notif_defaults decode error")
      | .ok notifDefaults =>
          some
            ({ stores with
              config :=
                { stores.config with
                  notifDefaults := notifDefaults } }.persistSetting
                outcomes.save)
  | .setPin payload =>
      match decodeSetPin payload with
      | .error _ =>
          some (stores, .error errDecodeError "set_pin decode error")
      | .ok pin =>
          some
            ({ stores with
              config :=
                { stores.config with
                  pin := Bytes.zeroPadded 16 pin
                  pinLen := UInt8.ofNat pin.length } }.persistSetting
                outcomes.save)
  | .setDeviceName payload =>
      match decodeSetDeviceName payload with
      | .error _ =>
          some
            (stores, .error errDecodeError "set_device_name decode error")
      | .ok name =>
          if outcomes.smallWrite then
            some
              ({ stores with deviceName := name, storedName := name }, .ok)
          else
            some (stores, .error errStorageError "NVS save failed")
  | .setRegion payload =>
      match handleSetRegion payload with
      | .apply name =>
          if outcomes.smallWrite then
            some ({ stores with storedRegion := name }, .ok)
          else
            some (stores, .error errStorageError "NVS save failed")
      | .privateUnsupported =>
          some
            (stores,
              .error errRegionInvalid
                "private ($) regions are unsupported; use a public region name")
      | .invalidName _ =>
          some
            (stores,
              .error errRegionInvalid
                "invalid region name (1-31 chars: '-', '#', digits, 'A' and above)")
      | .decodeError =>
          some (stores, .error errDecodeError "set_region decode error")
  | .commitProvisioning =>
      some (stores.persistSetting outcomes.save)

/-- The server's state after a request; `none` once it has panicked. -/
def step
    (state : Option AdminStores)
    (event : AdminRequest × NvsOutcomes) :
    Option AdminStores :=
  state.bind fun stores => (stores.handle event.2 event.1).map Prod.fst

end AdminStores

section Queries

/-- A length byte and the bytes it counts. -/
def lengthPrefixed
    (bytes : List UInt8) :
    List UInt8 :=
  UInt8.ofNat bytes.length :: bytes

/-- The answer for one contact. -/
def encodeRspContact
    (contact : Contact)
    (index : Nat) :
    List UInt8 :=
  UInt8.ofNat index ::
    (contact.pubkey.toList ++
      contact.telemetryEnable.toUInt8 ::
        lengthPrefixed
          (contact.displayName.toList.take contact.displayNameLen.toNat))

/-- The answer for one channel; the secret stays on the device. -/
def encodeRspChannel
    (crypto : Crypto)
    (channel : Channel)
    (index : Nat) :
    List UInt8 :=
  UInt8.ofNat index ::
    channelHashVar crypto
        (channel.secret.toList.take channel.keyLenResolved) ::
      channel.keyLen ::
        channel.primary.toUInt8 ::
          lengthPrefixed (channel.name.toList.take channel.nameLen.toNat)

/-- The answer for one room, under the name of its contact. -/
def encodeRspRoom
    (config : ProvisionedConfig)
    (extra : RoomExtra)
    (index : Nat) :
    List UInt8 :=
  UInt8.ofNat index ::
    (extra.pubkey.toList ++
      (Bytes.u32ToLeBytes extra.syncSince).toList ++
      extra.permissions ::
        (lengthPrefixed (extra.outPath.toList.take extra.outPathLen.toNat) ++
          lengthPrefixed
            (((config.contactFor? extra.pubkey).map fun contact =>
              contact.displayName.toList.take
                contact.displayNameLen.toNat).getD [])))

/-- The answer to a region query, or why the stored name is unusable. -/
def handleQueryRegion
    (name : List UInt8) :
    Except RegionNameError (List UInt8) :=
  if name = [] then
    .ok (lengthPrefixed name)
  else
    match validateRegionName name with
    | .ok _ => .ok (lengthPrefixed name)
    | .error problem => .error problem

/-- What a client reads back. -/
structure Readback where
  contactCount : Nat
  channelCount : Nat
  deviceName : List UInt8
  contacts : List (List UInt8)
  channels : List (List UInt8)
  rooms : List (List UInt8)
  region : Except RegionNameError (List UInt8)
deriving Repr, DecidableEq

/-- The answers to the status, contact, channel, room and region queries. -/
def AdminStores.readback
    (crypto : Crypto)
    (stores : AdminStores) :
    Readback :=
  { contactCount := stores.config.contacts.elements.length
    channelCount := stores.config.channels.elements.length
    deviceName := stores.deviceName
    contacts :=
      stores.config.contacts.elements.zipIdx.map fun (contact, index) =>
        encodeRspContact contact index
    channels :=
      stores.config.channels.elements.zipIdx.map fun (channel, index) =>
        encodeRspChannel crypto channel index
    rooms :=
      stores.config.roomExtras.elements.zipIdx.map fun (extra, index) =>
        encodeRspRoom stores.config extra index
    region := handleQueryRegion stores.storedRegion }

end Queries

namespace ProvisionedConfig

/-- An edit is refused for its own reasons, never as a failed save. -/
theorem handleEdit_code
    {config next : ProvisionedConfig}
    {edit : AdminEdit}
    {code : UInt8}
    {message : String}
    (refused :
      config.handleEdit edit = some (next, .error code message)) :
    code ≠ errStorageError := by
  have codes :
      code = errContactListFull ∨ code = errChannelListFull ∨
        code = errContactNotFound ∨ code = errChannelNotFound ∨
        code = errDecodeError := by
    cases edit with
    | addContact payload =>
        simp only [handleEdit, handleAddContact] at refused
        grind
    | delContact payload =>
        simp only [handleEdit, handleDelContact] at refused
        grind
    | addChannel payload =>
        simp only [handleEdit, handleAddChannel] at refused
        grind
    | delChannel payload =>
        simp only [handleEdit, handleDelChannel] at refused
        grind
    | addRoom payload =>
        obtain ⟨⟨added, outcome⟩, -, same⟩ :=
          Option.map_eq_some_iff.mp refused
        cases outcome <;> grind
    | delRoom payload =>
        simp only [handleEdit] at refused
        grind
  rcases codes with rfl | rfl | rfl | rfl | rfl <;> decide

/--
The edit only adds: its key is new to the lists it goes to, and it takes the
primary mark from no other channel.
-/
def AddsOnly
    (config : ProvisionedConfig) :
    AdminEdit → Prop
  | .addContact payload =>
      ∀ add,
        decodeAddContact payload = .ok add →
          config.contactFor? add.pubkey = none
  | .addChannel payload =>
      ∀ add,
        decodeAddChannel payload = .ok add →
          config.channelFor? add.secret = none ∧
            (add.primary = true →
              ∀ other ∈ config.channels.elements, other.primary = false)
  | .addRoom payload =>
      ∀ add,
        decodeAddRoom payload = .ok add →
          config.contactFor? add.pubkey = none ∧
            config.roomExtra? add.pubkey = none
  | _ =>
      False

/-- An upsert of a new key is undone by one step back. -/
theorem upsertContact_dropLast
    {config next : ProvisionedConfig}
    {contact : Contact}
    {outcome : Upsert}
    (isNew : config.contactFor? contact.pubkey = none)
    (accepted : config.upsertContact contact = .ok (next, outcome)) :
    { next with contacts := next.contacts.dropLast } = config := by
  rcases upsertContact_cases accepted with
    ⟨old, found, -⟩ | ⟨-, contacts, pushed, rfl⟩
  · rw [isNew] at found
    cases found
  · rw [BoundedList.dropLast_of_push? pushed]

/-- A channel that takes no mark leaves the others as they are. -/
theorem demoted_eq
    {config : ProvisionedConfig}
    {primary : Bool}
    (noneMarked :
      primary = true →
        ∀ other ∈ config.channels.elements, other.primary = false) :
    (if primary then
        config.channels.map fun other => { other with primary := false }
      else
        config.channels) =
      config.channels := by
  cases primary with
  | false => rfl
  | true =>
      ext1
      have unchanged :
          ∀ other ∈ config.channels.elements,
            { other with primary := false } = other := by
        intro other member
        rw [← noneMarked rfl other member]
      simpa [BoundedList.map] using
        (List.map_congr_left unchanged).trans (List.map_id' _)

/-- A channel upsert that only adds is undone by one step back. -/
theorem upsertChannel_dropLast
    {config next : ProvisionedConfig}
    {channel : Channel}
    {outcome : Upsert}
    (isNew : config.channelFor? channel.secret = none)
    (noneMarked :
      channel.primary = true →
        ∀ other ∈ config.channels.elements, other.primary = false)
    (accepted : config.upsertChannel channel = .ok (next, outcome)) :
    { next with channels := next.channels.dropLast } = config := by
  simp only [upsertChannel, isNew, demoted_eq noneMarked] at accepted
  split at accepted
  · next channels pushed =>
    cases accepted
    rw [BoundedList.dropLast_of_push? pushed]
  · cases accepted

/-- A room upsert that only adds is undone by a step back of both counters. -/
theorem upsertRoom_dropLast
    {config next : ProvisionedConfig}
    {contact : Contact}
    {extra : RoomExtra}
    {outcome : Upsert}
    (newContact : config.contactFor? contact.pubkey = none)
    (newExtra : config.roomExtra? contact.pubkey = none)
    (accepted :
      config.upsertRoom contact extra = some (.ok (next, outcome))) :
    { next with
        contacts := next.contacts.dropLast
        roomExtras := next.roomExtras.dropLast } = config := by
  cases upserted :
      config.upsertContact { contact with role := roleRoom } with
  | error full =>
      simp [upsertRoom, upserted] at accepted
  | ok result =>
      obtain ⟨withContact, contactOutcome⟩ := result
      simp only [upsertRoom, upserted] at accepted
      obtain ⟨withRoom, extraAccepted, same⟩ :=
        Option.map_eq_some_iff.mp accepted
      simp only [Except.ok.injEq, Prod.mk.injEq] at same
      obtain ⟨rfl, rfl⟩ := same
      have undone :=
        @upsertContact_dropLast config withContact
          { contact with role := roleRoom } contactOutcome
          newContact upserted
      have stillNew :
          withContact.roomExtra? contact.pubkey = none := by
        simpa [roomExtra?, (upsertContact_spec upserted).2.2]
          using newExtra
      simp only [upsertRoomExtra, stillNew] at extraAccepted
      obtain ⟨roomExtras, pushed, rfl⟩ :=
        Option.map_eq_some_iff.mp extraAccepted
      rw [← undone]
      simp [BoundedList.dropLast_of_push? pushed]

/-- An accepted edit that only adds is undone by the step back. -/
theorem rollback_of_addsOnly
    {config next : ProvisionedConfig}
    {edit : AdminEdit}
    (addsOnly : config.AddsOnly edit)
    (accepted : config.handleEdit edit = some (next, .ok)) :
    next.rollback edit.kind = config := by
  cases edit with
  | addContact payload =>
      simp only [handleEdit, handleAddContact, Option.some.injEq] at accepted
      split at accepted
      · cases accepted
      · next add decoded =>
        split at accepted
        · next upserted =>
          cases accepted
          exact upsertContact_dropLast (addsOnly add decoded) upserted
        · cases accepted
  | addChannel payload =>
      simp only [handleEdit, handleAddChannel, Option.some.injEq] at accepted
      split at accepted
      · cases accepted
      · next add decoded =>
        obtain ⟨isNew, noneMarked⟩ := addsOnly add decoded
        split at accepted
        · next upserted =>
          cases accepted
          exact upsertChannel_dropLast isNew noneMarked upserted
        · cases accepted
  | addRoom payload =>
      obtain ⟨⟨added, outcome⟩, answered, same⟩ :=
        Option.map_eq_some_iff.mp accepted
      simp only [handleAddRoom] at answered
      split at answered
      · cases answered
        cases same
      · next add decoded =>
        obtain ⟨newContact, newExtra⟩ := addsOnly add decoded
        obtain ⟨result, upserted, isResult⟩ :=
          Option.map_eq_some_iff.mp answered
        cases result with
        | error full =>
            cases isResult
            cases same
        | ok result =>
            obtain ⟨after, contactOutcome⟩ := result
            have isNext : after = next := by
              cases contactOutcome <;>
                · cases isResult
                  cases same
                  rfl
            rw [← isNext]
            exact upsertRoom_dropLast newContact newExtra upserted
  | delContact payload => exact addsOnly.elim
  | delChannel payload => exact addsOnly.elim
  | delRoom payload => exact addsOnly.elim

end ProvisionedConfig

/-- The configuration with a setting request's setting; any other keeps it. -/
def AdminRequest.withSetting
    (config : ProvisionedConfig) :
    AdminRequest → ProvisionedConfig
  | .setNotifDefaults payload =>
      match decodeSetNotifDefaults payload with
      | .ok notifDefaults => { config with notifDefaults := notifDefaults }
      | .error _ => config
  | .setPin payload =>
      match decodeSetPin payload with
      | .ok pin =>
          { config with
            pin := Bytes.zeroPadded 16 pin
            pinLen := UInt8.ofNat pin.length }
      | .error _ => config
  | _ => config

/-- The request is no list edit, or one that only adds. -/
def AdminRequest.AddsOnly
    (config : ProvisionedConfig) :
    AdminRequest → Prop
  | .edit listEdit => config.AddsOnly listEdit
  | _ => True

namespace AdminStores

/-- A setting changes no list, so nothing that is read back. -/
theorem readback_withSetting
    (crypto : Crypto)
    (stores : AdminStores)
    (request : AdminRequest) :
    readback crypto
        { stores with config := request.withSetting stores.config } =
      readback crypto stores := by
  cases request with
  | setNotifDefaults payload =>
      simp only [AdminRequest.withSetting]
      split <;> rfl
  | setPin payload =>
      simp only [AdminRequest.withSetting]
      split <;> rfl
  | edit edit => rfl
  | setDeviceName payload => rfl
  | setRegion payload => rfl
  | commitProvisioning => rfl

/-- A setting whose save failed stands. -/
theorem persistSetting_failed
    {stores next : AdminStores}
    {outcome : SaveOutcome}
    {code : UInt8}
    {message : String}
    (failed :
      stores.persistSetting outcome = (next, .error code message)) :
    ∃ storedConfig,
      next = { stores with storedConfig := storedConfig } ∧
        (outcome ≠ .flagFailed → storedConfig = stores.storedConfig) := by
  cases outcome with
  | saved => cases failed
  | blobFailed =>
      cases failed
      exact ⟨_, rfl, fun _ => rfl⟩
  | flagFailed =>
      cases failed
      exact ⟨_, rfl, fun notFlag => absurd rfl notFlag⟩

/-- A session is erased only after a save that landed. -/
@[simp] theorem eraseAt_false
    (store : UInt8 → Option (List UInt8))
    (hash : UInt8) :
    eraseAt store hash false = store := by
  funext other
  simp [eraseAt]

/-- After a save that failed at most a deleted contact's state is erased. -/
theorem eraseCompanions_failed
    (stores : AdminStores)
    (erases : Bool)
    (edit : AdminEdit) :
    ∃ replayStates,
      stores.eraseCompanions false erases edit =
          { stores with replayStates := replayStates } ∧
        ((∀ payload, edit ≠ .delContact payload) →
          replayStates = stores.replayStates) := by
  cases edit with
  | delContact payload =>
      exact ⟨_, rfl, fun other => absurd rfl (other payload)⟩
  | addContact payload => exact ⟨_, rfl, fun _ => rfl⟩
  | addChannel payload => exact ⟨_, rfl, fun _ => rfl⟩
  | delChannel payload => exact ⟨_, rfl, fun _ => rfl⟩
  | addRoom payload =>
      exact ⟨stores.replayStates, by simp [eraseCompanions], fun _ => rfl⟩
  | delRoom payload =>
      exact ⟨stores.replayStates, by simp [eraseCompanions], fun _ => rfl⟩

/-- A list edit whose save failed is stepped back; the rest stays as it was. -/
theorem handleListEdit_failed
    {stores next : AdminStores}
    {edit : AdminEdit}
    {outcomes : NvsOutcomes}
    {message : String}
    (failed :
      stores.handleListEdit edit outcomes =
        some (next, .error errStorageError message)) :
    ∃ edited storedConfig replayStates,
      stores.config.handleEdit edit = some (edited, .ok) ∧
        next =
          { stores with
            config := edited.rollback edit.kind
            storedConfig := storedConfig
            replayStates := replayStates } ∧
        (outcomes.save ≠ .flagFailed →
          storedConfig = stores.storedConfig) ∧
        ((∀ payload, edit ≠ .delContact payload) →
          replayStates = stores.replayStates) := by
  obtain ⟨⟨edited, reply⟩, handled, answered⟩ :=
    Option.map_eq_some_iff.mp failed
  cases reply with
  | error code message' =>
      simp only [Prod.mk.injEq, AdminReply.error.injEq] at answered
      exact absurd answered.2.1
        (ProvisionedConfig.handleEdit_code handled)
  | ok =>
      cases saving : outcomes.save with
      | saved =>
          simp [persistOrRollback, saveProvisionedConfig, saving]
            at answered
      | blobFailed =>
          simp only [persistOrRollback, saveProvisionedConfig, saving,
            Prod.mk.injEq] at answered
          obtain ⟨replayStates, erased, kept⟩ :=
            eraseCompanions_failed
              { stores with config := edited.rollback edit.kind }
              outcomes.erase edit
          exact ⟨edited, stores.storedConfig, replayStates, handled,
            answered.1.symm.trans erased, fun _ => rfl, kept⟩
      | flagFailed =>
          simp only [persistOrRollback, saveProvisionedConfig, saving,
            Prod.mk.injEq] at answered
          obtain ⟨replayStates, erased, kept⟩ :=
            eraseCompanions_failed
              { stores with
                config := edited.rollback edit.kind
                storedConfig := some (serializeConfig edited) }
              outcomes.erase edit
          exact ⟨edited, some (serializeConfig edited), replayStates,
            handled, answered.1.symm.trans erased,
            fun notFlag => absurd rfl notFlag, kept⟩

/--
What a request leaves whose save failed: a configuration, a stored blob and the
replay states, and everything else as it was.
-/
theorem handle_failed
    {stores next : AdminStores}
    {request : AdminRequest}
    {outcomes : NvsOutcomes}
    {message : String}
    (failed :
      stores.handle outcomes request =
        some (next, .error errStorageError message)) :
    ∃ config storedConfig replayStates,
      next =
          { stores with
            config := config
            storedConfig := storedConfig
            replayStates := replayStates } ∧
        (request.AddsOnly stores.config →
          config = request.withSetting stores.config) ∧
        (outcomes.save ≠ .flagFailed →
          storedConfig = stores.storedConfig) ∧
        ((∀ payload, request ≠ .edit (.delContact payload)) →
          replayStates = stores.replayStates) := by
  cases request with
  | edit edit =>
      obtain ⟨edited, storedConfig, replayStates, handled, isNext,
          sameStored, sameReplay⟩ :=
        handleListEdit_failed failed
      exact ⟨edited.rollback edit.kind, storedConfig, replayStates, isNext,
        fun addsOnly =>
          ProvisionedConfig.rollback_of_addsOnly addsOnly handled,
        sameStored,
        fun notDel => sameReplay fun payload isDel =>
          notDel payload (isDel ▸ rfl)⟩
  | setNotifDefaults payload =>
      simp only [handle] at failed
      split at failed
      · cases failed
      · next notifDefaults decoded =>
        obtain ⟨storedConfig, isNext, sameStored⟩ :=
          persistSetting_failed (Option.some.inj failed)
        exact ⟨_, storedConfig, _, isNext,
          fun _ => by simp [AdminRequest.withSetting, decoded],
          sameStored, fun _ => rfl⟩
  | setPin payload =>
      simp only [handle] at failed
      split at failed
      · cases failed
      · next pin decoded =>
        obtain ⟨storedConfig, isNext, sameStored⟩ :=
          persistSetting_failed (Option.some.inj failed)
        exact ⟨_, storedConfig, _, isNext,
          fun _ => by simp [AdminRequest.withSetting, decoded],
          sameStored, fun _ => rfl⟩
  | setDeviceName payload =>
      simp only [handle] at failed
      split at failed
      · cases failed
      · split at failed
        · cases failed
        · cases failed
          exact ⟨_, _, _, rfl, fun _ => rfl, fun _ => rfl, fun _ => rfl⟩
  | setRegion payload =>
      simp only [handle] at failed
      split at failed
      · split at failed
        · cases failed
        · cases failed
          exact ⟨_, _, _, rfl, fun _ => rfl, fun _ => rfl, fun _ => rfl⟩
      · cases failed
      · cases failed
      · cases failed
  | commitProvisioning =>
      obtain ⟨storedConfig, isNext, sameStored⟩ :=
        persistSetting_failed (Option.some.inj failed)
      exact ⟨_, storedConfig, _, isNext, fun _ => rfl, sameStored,
        fun _ => rfl⟩

/--
In every run of admin requests, a request that is answered with a failed save
leaves the live allowlist, the room sessions, the name and the region as they
were, and the stored blob unless the blob itself was written; it leaves the
replay states unless it deletes a contact.  If it changes no list or only adds to
one, the configuration is what it was, up to the setting that was asked for, and
a client reads back what it would have read before.
-/
theorem failed_persist_leaves
    (crypto : Crypto)
    (initial : AdminStores)
    (events earlier later : List (AdminRequest × NvsOutcomes))
    (request : AdminRequest)
    (outcomes : NvsOutcomes)
    (split : events = earlier ++ (request, outcomes) :: later)
    (stores next : AdminStores)
    (message : String)
    (reached : Transition.run step (some initial) earlier = some stores)
    (failed :
      stores.handle outcomes request =
        some (next, .error errStorageError message)) :
    Transition.run step (some initial) events =
        Transition.run step (some next) later ∧
      next.policy = stores.policy ∧
      next.roomSessions = stores.roomSessions ∧
      next.deviceName = stores.deviceName ∧
      next.storedName = stores.storedName ∧
      next.storedRegion = stores.storedRegion ∧
      (outcomes.save ≠ .flagFailed →
        next.storedConfig = stores.storedConfig) ∧
      ((∀ payload, request ≠ .edit (.delContact payload)) →
        next.replayStates = stores.replayStates) ∧
      (request.AddsOnly stores.config →
        next.config = request.withSetting stores.config ∧
          next.readback crypto = stores.readback crypto) := by
  have continued :
      Transition.run step (some initial) events =
        Transition.run step (some next) later := by
    rw [split, Transition.run_append, reached, Transition.run_cons]
    simp [step, failed]
  obtain ⟨config, storedConfig, replayStates, rfl, undone, sameStored,
      sameReplay⟩ :=
    handle_failed failed
  refine ⟨continued, rfl, rfl, rfl, rfl, rfl, sameStored, sameReplay,
    fun addsOnly => ⟨undone addsOnly, ?_⟩⟩
  rw [undone addsOnly]
  exact readback_withSetting crypto stores request

/-- Two contacts, each with a replay state. -/
def sampleStores : AdminStores :=
  let config :=
    (Transition.run AdminServer.step (some .empty)
      [.addContact (List.replicate 32 0xAB ++ [0, 0]),
        .addContact (List.replicate 32 0xCD ++ [0, 0])]).getD .empty
  { config := config
    deviceName := []
    policy := config.policy
    storedConfig := some (serializeConfig config)
    storedName := []
    storedRegion := []
    replayStates := fun _ => some []
    roomSessions := fun _ => none }

/-- Nothing is written, but what is erased is erased. -/
def writesFail : NvsOutcomes :=
  { save := .blobFailed
    smallWrite := false
    erase := true }

/-- A frame that adds a third contact. -/
def thirdContact : AdminRequest :=
  .edit (.addContact (List.replicate 32 0xEF ++ [1, 0]))

/-- A third contact whose save fails is gone again. -/
theorem failed_persist_example :
    ∃ next,
      sampleStores.handle writesFail thirdContact =
          some (next, .error errStorageError "NVS save failed") ∧
        next.config = sampleStores.config := by
  have isNew :
      (decodeAddContact (List.replicate 32 0xEF ++ [1, 0])).toOption.all
          (fun add =>
            (sampleStores.config.contactFor? add.pubkey).isNone) =
        true := by
    decide +kernel
  have failed :
      ∃ next,
        sampleStores.handle writesFail thirdContact =
          some (next, .error errStorageError "NVS save failed") :=
    ⟨_, rfl⟩
  obtain ⟨next, failed⟩ := failed
  have left :=
    failed_persist_leaves
      (CryptoRecord.crypto
        { ciphers := []
          codes := []
          digests := []
          agreements := [] })
      sampleStores [(thirdContact, writesFail)] [] [] thirdContact
      writesFail rfl sampleStores next "NVS save failed" rfl failed
  refine ⟨next, failed, (left.2.2.2.2.2.2.2.2 ?_).1⟩
  intro add decoded
  rw [decoded] at isNew
  simpa [Except.toOption] using isNew

/--
A PIN whose save fails stands.  A contact whose deletion is not saved is gone,
with the one after it and its replay state.
-/
theorem failed_persists_change_memory :
    (¬ ∀ initial events earlier request outcomes later stores next message,
      events = earlier ++ (request, outcomes) :: later →
      Transition.run step (some initial) earlier = some stores →
      stores.handle outcomes request =
        some (next, .error errStorageError message) →
        next.config = stores.config ∧
          next.policy = stores.policy ∧
          next.replayStates = stores.replayStates) ∧
      (sampleStores.handle writesFail
          (.edit (.delContact (List.replicate 32 0xAB)))).map
        (fun answer =>
          (answer.1.config.contacts.elements.length,
            answer.1.replayStates 0xAB, answer.2)) =
        some (0, none, .error errStorageError "NVS save failed") := by
  refine ⟨fun unchanged => ?_, by decide +kernel⟩
  have failed :
      ∃ next,
        sampleStores.handle writesFail (.setPin [1, 0x31]) =
            some (next, .error errStorageError "NVS save failed") ∧
          next.config.pinLen = 1 :=
    ⟨_, rfl, rfl⟩
  obtain ⟨next, failed, pinLen⟩ := failed
  have same :=
    unchanged sampleStores [(.setPin [1, 0x31], writesFail)] [] _ _ []
      sampleStores next _ rfl rfl failed
  have oldPinLen : sampleStores.config.pinLen = 0 := by
    decide +kernel
  rw [same.1, oldPinLen] at pinLen
  exact absurd pinLen (by decide)

end AdminStores

end MeshCadet
