import MeshCadet.ConfigBlob
import MeshCadet.RoomPairing
import MeshCadet.Transition

namespace MeshCadet

/-!
# Admin edits of the configuration

The admin server decodes an edit frame, changes the configuration and answers.
An edit that would index past an array is a panic, so a run of edits goes over
optional configurations.  Every accepted edit is stored; the next boot loads
what the last one left.
-/

/-- Errors of payload decoding. -/
inductive ProvError where
  | truncatedPayload
  | nameTooLong
  | passwordTooLong
  | pathTooLong
  | keyLenInvalid
  | pinTooLong
  | regionNameInvalid
deriving Repr, DecidableEq

structure AddContactPayload where
  pubkey : Key
  telemetryEnable : Bool
  displayName : Vector UInt8 32
  displayNameLen : UInt8
deriving Repr, DecidableEq

structure AddChannelPayload where
  secret : Key
  keyLen : UInt8
  primary : Bool
  name : Vector UInt8 32
  nameLen : UInt8
deriving Repr, DecidableEq

structure AddRoomPayload where
  pubkey : Key
  guestPassword : Vector UInt8 maxLoginPasswordLen
  guestPasswordLen : UInt8
  name : Vector UInt8 32
  nameLen : UInt8
deriving Repr, DecidableEq

/-- The given number of bytes at an offset, zero-padded to a field. -/
def paddedField
    (length : Nat)
    (payload : List UInt8)
    (offset used : Nat) :
    Vector UInt8 length :=
  Bytes.zeroPadded length ((payload.drop offset).take used)

/-- Decode `pubkey(32) | telemetry(1) | name_len(1) | name`. -/
def decodeAddContact
    (payload : List UInt8) :
    Except ProvError AddContactPayload :=
  if short : payload.length < 34 then
    .error .truncatedPayload
  else
    let nameLen := payload[33].toNat
    if nameLen > 32 then
      .error .nameTooLong
    else if payload.length < 34 + nameLen then
      .error .truncatedPayload
    else
      .ok
        { pubkey := Bytes.slice payload 0 32
          telemetryEnable := payload[32] != 0
          displayName := paddedField 32 payload 34 nameLen
          displayNameLen := payload[33] }

/-- Decode `pubkey(32)`; also the channel and room deletion payloads. -/
def decodeDelContact
    (payload : List UInt8) :
    Except ProvError Key :=
  if short : payload.length < 32 then
    .error .truncatedPayload
  else
    .ok (Bytes.slice payload 0 32)

/-- Decode `secret(32) | key_len(1) | primary(1) | name_len(1) | name`. -/
def decodeAddChannel
    (payload : List UInt8) :
    Except ProvError AddChannelPayload :=
  if short : payload.length < 35 then
    .error .truncatedPayload
  else if payload[32] ≠ 16 ∧ payload[32] ≠ 32 then
    .error .keyLenInvalid
  else
    let nameLen := payload[34].toNat
    if nameLen > 32 then
      .error .nameTooLong
    else if payload.length < 35 + nameLen then
      .error .truncatedPayload
    else
      .ok
        { secret := Bytes.slice payload 0 32
          keyLen := payload[32]
          primary := payload[33] != 0
          name := paddedField 32 payload 35 nameLen
          nameLen := payload[34] }

/-- Decode `secret(32)`. -/
def decodeDelChannel
    (payload : List UInt8) :
    Except ProvError Key :=
  decodeDelContact payload

/-- Decode `pubkey(32) | pw_len(1) | pw | name_len(1) | name`. -/
def decodeAddRoom
    (payload : List UInt8) :
    Except ProvError AddRoomPayload :=
  if short : payload.length < 34 then
    .error .truncatedPayload
  else
    let pwLen := payload[32].toNat
    if pwLen > maxLoginPasswordLen then
      .error .passwordTooLong
    else if shortName : payload.length < 33 + pwLen + 1 then
      .error .truncatedPayload
    else
      let nameOff := 33 + pwLen
      have inside : nameOff < payload.length := by
        omega
      let nameLen := payload[nameOff].toNat
      if nameLen > 32 then
        .error .nameTooLong
      else if payload.length < nameOff + 1 + nameLen then
        .error .truncatedPayload
      else
        .ok
          { pubkey := Bytes.slice payload 0 32
            guestPassword :=
              paddedField maxLoginPasswordLen payload 33 pwLen
            guestPasswordLen := payload[32]
            name := paddedField 32 payload (nameOff + 1) nameLen
            nameLen := payload[nameOff] }

/-- Decode `pubkey(32)`. -/
def decodeDelRoom
    (payload : List UInt8) :
    Except ProvError Key :=
  decodeDelContact payload

/-- The answer to an edit frame. -/
inductive AdminReply where
  | ok
  | error (code : UInt8) (message : String)
deriving Repr, DecidableEq

def errContactListFull : UInt8 :=
  0x01

def errChannelListFull : UInt8 :=
  0x02

def errContactNotFound : UInt8 :=
  0x03

def errChannelNotFound : UInt8 :=
  0x04

def errDecodeError : UInt8 :=
  0x05

/-- An edit frame with its payload. -/
inductive AdminEdit where
  | addContact (payload : List UInt8)
  | delContact (payload : List UInt8)
  | addChannel (payload : List UInt8)
  | delChannel (payload : List UInt8)
  | addRoom (payload : List UInt8)
  | delRoom (payload : List UInt8)
deriving Repr, DecidableEq

namespace ProvisionedConfig

/-- Outcome of an add-room request. -/
inductive AddRoomOutcome where
  | added
  | updated
  | listFull
  | decodeError
deriving Repr, DecidableEq

/-- The contact an add-room payload describes. -/
def roomContact
    (add : AddRoomPayload) :
    Contact :=
  { pubkey := add.pubkey
    telemetryEnable := false
    role := roleChat
    displayName := add.name
    displayNameLen := add.nameLen }

/-- The fresh extras of an add-room payload. -/
def freshRoomExtra
    (add : AddRoomPayload) :
    RoomExtra :=
  { pubkey := add.pubkey
    guestPassword := add.guestPassword
    guestPasswordLen := add.guestPasswordLen
    syncSince := 0
    permissions := 0
    outPath := Vector.replicate maxPathSize 0
    outPathLen := 0 }

/-- Decode an add-room payload and upsert the room. -/
def handleAddRoom
    (config : ProvisionedConfig)
    (payload : List UInt8) :
    Option (ProvisionedConfig × AddRoomOutcome) :=
  match decodeAddRoom payload with
  | .error _ =>
      some (config, .decodeError)
  | .ok add =>
      (config.upsertRoom (roomContact add) (freshRoomExtra add)).map
        fun
        | .ok (next, .added) => (next, .added)
        | .ok (next, .updated) => (next, .updated)
        | .error _ => (config, .listFull)

/-- Outcome of a delete-room request. -/
inductive DelRoomOutcome where
  | removed
  | notFound
  | decodeError
deriving Repr, DecidableEq

/-- Decode a delete-room payload and remove the room. -/
def handleDelRoom
    (config : ProvisionedConfig)
    (payload : List UInt8) :
    ProvisionedConfig × DelRoomOutcome :=
  match decodeDelRoom payload with
  | .error _ =>
      (config, .decodeError)
  | .ok pubkey =>
      let (next, found) := config.removeRoom pubkey
      (next, if found then .removed else .notFound)

/-- The chat contact an add-contact payload describes. -/
def chatContact
    (add : AddContactPayload) :
    Contact :=
  { pubkey := add.pubkey
    telemetryEnable := add.telemetryEnable
    role := roleChat
    displayName := add.displayName
    displayNameLen := add.displayNameLen }

/-- The add-contact arm: a chat contact is upserted. -/
def handleAddContact
    (config : ProvisionedConfig)
    (payload : List UInt8) :
    ProvisionedConfig × AdminReply :=
  match decodeAddContact payload with
  | .error _ =>
      (config, .error errDecodeError "add_contact decode error")
  | .ok add =>
      match config.upsertContact (chatContact add) with
      | .ok (next, _) =>
          (next, .ok)
      | .error _ =>
          (config, .error errContactListFull "contact list full")

/-- The delete-contact arm: the contact is shifted out, its extras stay. -/
def handleDelContact
    (config : ProvisionedConfig)
    (payload : List UInt8) :
    ProvisionedConfig × AdminReply :=
  match decodeDelContact payload with
  | .error _ =>
      (config, .error errDecodeError "del_contact decode error")
  | .ok pubkey =>
      match config.contactFor? pubkey with
      | some _ =>
          (config.removeContact pubkey, .ok)
      | none =>
          (config, .error errContactNotFound "contact not found")

/-- The add-channel arm. -/
def handleAddChannel
    (config : ProvisionedConfig)
    (payload : List UInt8) :
    ProvisionedConfig × AdminReply :=
  match decodeAddChannel payload with
  | .error _ =>
      (config, .error errDecodeError "add_channel decode error")
  | .ok add =>
      match config.upsertChannel
          { secret := add.secret
            keyLen := add.keyLen
            primary := add.primary
            name := add.name
            nameLen := add.nameLen } with
      | .ok (next, _) =>
          (next, .ok)
      | .error _ =>
          (config, .error errChannelListFull "channel list full")

/-- The delete-channel arm. -/
def handleDelChannel
    (config : ProvisionedConfig)
    (payload : List UInt8) :
    ProvisionedConfig × AdminReply :=
  match decodeDelChannel payload with
  | .error _ =>
      (config, .error errDecodeError "del_channel decode error")
  | .ok secret =>
      match config.channelFor? secret with
      | some _ =>
          ({ config with
              channels :=
                config.channels.removeFirst (·.secret == secret) },
            .ok)
      | none =>
          (config, .error errChannelNotFound "channel not found")

/-- One edit frame and its answer; `none` is the index panic. -/
def handleEdit
    (config : ProvisionedConfig) :
    AdminEdit → Option (ProvisionedConfig × AdminReply)
  | .addContact payload => some (config.handleAddContact payload)
  | .delContact payload => some (config.handleDelContact payload)
  | .addChannel payload => some (config.handleAddChannel payload)
  | .delChannel payload => some (config.handleDelChannel payload)
  | .addRoom payload =>
      (config.handleAddRoom payload).map fun
        | (next, .added) => (next, .ok)
        | (next, .updated) => (next, .ok)
        | (next, .listFull) =>
            (next, .error errContactListFull "contact list full")
        | (next, .decodeError) =>
            (next, .error errDecodeError "add_room decode error")
  | .delRoom payload =>
      match config.handleDelRoom payload with
      | (next, .removed) => some (next, .ok)
      | (next, .notFound) =>
          some (next, .error errContactNotFound "room not found")
      | (next, .decodeError) =>
          some (next, .error errDecodeError "del_room decode error")

end ProvisionedConfig

/-- The configuration a boot starts from: the stored one, or an empty one. -/
def bootConfig
    (stored : Option (List UInt8)) :
    ProvisionedConfig :=
  (stored.bind deserializeConfig).getD .empty

namespace AdminServer

/-- The server's configuration after an edit; `none` once it has panicked. -/
def step
    (state : Option ProvisionedConfig)
    (edit : AdminEdit) :
    Option ProvisionedConfig :=
  state.bind fun config => (config.handleEdit edit).map Prod.fst

/-- No panic so far, rooms and contacts paired, and the blob loadable. -/
def Sound
    (state : Option ProvisionedConfig) :
    Prop :=
  ∃ config,
    state = some config ∧ config.Paired ∧ config.Loadable

/--
What an edit needs to keep rooms and contacts paired.  A contact edit does not
name a room; a room edit whose key has an extra finds that room's contact first.
-/
def KeepsPairing
    (config : ProvisionedConfig) :
    AdminEdit → Prop
  | .addContact payload =>
      ∀ add, decodeAddContact payload = .ok add →
        config.holdsRoom add.pubkey = false
  | .delContact payload =>
      ∀ pubkey, decodeDelContact payload = .ok pubkey →
        config.holdsRoom pubkey = false
  | .addRoom payload =>
      ∀ add, decodeAddRoom payload = .ok add →
        config.ExtraHeldByRoom add.pubkey
  | .delRoom payload =>
      ∀ pubkey, decodeDelRoom payload = .ok pubkey →
        config.ExtraHeldByRoom pubkey
  | _ =>
      True

/-- Every live room extra has bounded lengths. -/
def ExtrasBounded
    (config : ProvisionedConfig) :
    Prop :=
  ∀ extra ∈ config.roomExtras.elements, extra.Bounded

/-- A paired configuration is loadable when its extras are bounded. -/
theorem sound_some_iff
    {config : ProvisionedConfig} :
    Sound (some config) ↔ config.Paired ∧ ExtrasBounded config := by
  constructor
  · rintro ⟨_, ⟨rfl⟩, paired, loadable⟩
    exact ⟨paired, (loadable_iff.mp loadable).bounded⟩
  · rintro ⟨paired, bounded⟩
    exact ⟨config, rfl, paired,
      loadable_iff.mpr
        { roomsFit := paired.roomsHaveContacts.rooms_le_contacts
          bounded := bounded }⟩

/--
What is shown of each arm from a sound configuration: it answers, its extras
stay bounded, and it keeps the pairing exactly on its condition.
-/
def ArmSpec
    (config : ProvisionedConfig)
    (edit : AdminEdit) :
    Prop :=
  ∃ next reply,
    config.handleEdit edit = some (next, reply) ∧
      ExtrasBounded next ∧
      (next.Paired ↔ KeepsPairing config edit)

/-- A refused edit changes nothing. -/
theorem ArmSpec.refused
    {config : ProvisionedConfig}
    {edit : AdminEdit}
    (reply : AdminReply)
    (paired : config.Paired)
    (bounded : ExtrasBounded config)
    (keeps : KeepsPairing config edit)
    (answered : config.handleEdit edit = some (config, reply)) :
    ArmSpec config edit :=
  ⟨config, reply, answered, bounded, iff_of_true paired keeps⟩

/-- A key without a contact holds no room. -/
theorem holdsRoom_of_missing
    {config : ProvisionedConfig}
    {pubkey : Key}
    (missing : config.contactFor? pubkey = none) :
    config.holdsRoom pubkey = false := by
  simp [ProvisionedConfig.holdsRoom, missing]

/-- A contact that does not fit has no contact with its key. -/
theorem missing_of_full
    {config : ProvisionedConfig}
    {contact : Contact}
    {full : ContactListFull}
    (refused : config.upsertContact contact = .error full) :
    config.contactFor? contact.pubkey = none := by
  cases found : config.contactFor? contact.pubkey with
  | none =>
      rfl
  | some old =>
      simp [ProvisionedConfig.upsertContact, found] at refused

/-- A room that does not fit has no contact with its key. -/
theorem missing_of_roomFull
    {config : ProvisionedConfig}
    {contact : Contact}
    {extra : RoomExtra}
    {full : ContactListFull}
    (refused :
      config.upsertRoom contact extra = some (.error full)) :
    config.contactFor? contact.pubkey = none := by
  simp only [ProvisionedConfig.upsertRoom] at refused
  split at refused
  · next contactRefused =>
    have missing := missing_of_full contactRefused
    exact missing
  · obtain ⟨withRoom, -, impossible⟩ :=
      Option.map_eq_some_iff.mp refused
    cases impossible

/-- A key without a contact has no extra in a paired configuration. -/
theorem noExtra_of_missing
    {config : ProvisionedConfig}
    {pubkey : Key}
    (paired : config.Paired)
    (missing : config.contactFor? pubkey = none) :
    config.ExtraHeldByRoom pubkey := by
  intro hasExtra
  have counted := ProvisionedConfig.roomExtra?_isSome_iff.mp hasExtra
  have counts := ProvisionedConfig.paired_iff.mp paired pubkey
  obtain ⟨contact, member, isMatch⟩ :=
    List.countP_pos_iff.mp
      (show 0 < config.roomContactCount pubkey by omega)
  simp only [Bool.and_eq_true, beq_iff_eq] at isMatch
  have noMatch := List.find?_eq_none.mp missing contact member
  simp [isMatch.2] at noMatch

theorem addContact_arm
    {config : ProvisionedConfig}
    (paired : config.Paired)
    (bounded : ExtrasBounded config)
    (payload : List UInt8) :
    ArmSpec config (.addContact payload) := by
  cases decoded : decodeAddContact payload with
  | error problem =>
      refine ArmSpec.refused
        (.error errDecodeError "add_contact decode error") paired bounded ?_ ?_
      · simp [KeepsPairing, decoded]
      · simp [ProvisionedConfig.handleEdit,
          ProvisionedConfig.handleAddContact, decoded]
  | ok add =>
      cases upserted :
          config.upsertContact (ProvisionedConfig.chatContact add) with
      | error full =>
          have notRoom : config.holdsRoom add.pubkey = false :=
            holdsRoom_of_missing (missing_of_full upserted)
          refine ArmSpec.refused
            (.error errContactListFull "contact list full") paired bounded ?_ ?_
          · simp [KeepsPairing, decoded, notRoom]
          · simp [ProvisionedConfig.handleEdit,
              ProvisionedConfig.handleAddContact, decoded, upserted]
      | ok result =>
          obtain ⟨next, outcome⟩ := result
          have sameExtras :=
            (ProvisionedConfig.upsertContact_spec upserted).2.2
          have pairedIff :=
            ProvisionedConfig.upsertContact_paired_iff
              paired rfl upserted
          refine ⟨next, .ok, ?_, ?_, ?_⟩
          · simp [ProvisionedConfig.handleEdit,
              ProvisionedConfig.handleAddContact, decoded, upserted]
          · simpa [ExtrasBounded, sameExtras] using bounded
          · simpa [KeepsPairing, decoded,
              ProvisionedConfig.chatContact] using pairedIff

theorem delContact_arm
    {config : ProvisionedConfig}
    (paired : config.Paired)
    (bounded : ExtrasBounded config)
    (payload : List UInt8) :
    ArmSpec config (.delContact payload) := by
  cases decoded : decodeDelContact payload with
  | error problem =>
      refine ArmSpec.refused
        (.error errDecodeError "del_contact decode error") paired bounded ?_ ?_
      · simp [KeepsPairing, decoded]
      · simp [ProvisionedConfig.handleEdit,
          ProvisionedConfig.handleDelContact, decoded]
  | ok pubkey =>
      cases found : config.contactFor? pubkey with
      | none =>
          refine ArmSpec.refused
            (.error errContactNotFound "contact not found") paired bounded ?_ ?_
          · simp [KeepsPairing, decoded, holdsRoom_of_missing found]
          · simp [ProvisionedConfig.handleEdit,
              ProvisionedConfig.handleDelContact, decoded, found]
      | some contact =>
          have pairedIff :=
            ProvisionedConfig.removeContact_paired_iff paired pubkey
          refine ⟨config.removeContact pubkey, .ok, ?_, bounded, ?_⟩
          · simp [ProvisionedConfig.handleEdit,
              ProvisionedConfig.handleDelContact, decoded, found]
          · simpa [KeepsPairing, decoded] using pairedIff

/-- An edit that leaves contacts and extras alone leaves pairing alone. -/
theorem ArmSpec.channelsOnly
    {config next : ProvisionedConfig}
    {edit : AdminEdit}
    (reply : AdminReply)
    (paired : config.Paired)
    (bounded : ExtrasBounded config)
    (keeps : KeepsPairing config edit)
    (answered : config.handleEdit edit = some (next, reply))
    (sameContacts : next.contacts = config.contacts)
    (sameExtras : next.roomExtras = config.roomExtras) :
    ArmSpec config edit := by
  refine ⟨next, reply, answered, ?_, iff_of_true ?_ keeps⟩
  · simpa [ExtrasBounded, sameExtras] using bounded
  · rw [ProvisionedConfig.paired_iff] at paired ⊢
    simpa [ProvisionedConfig.roomContactCount,
      ProvisionedConfig.roomExtraCount, sameContacts, sameExtras]
      using paired

theorem upsertChannel_spec
    {config next : ProvisionedConfig}
    {channel : Channel}
    {outcome : Upsert}
    (accepted : config.upsertChannel channel = .ok (next, outcome)) :
    next.contacts = config.contacts ∧
      next.roomExtras = config.roomExtras := by
  simp only [ProvisionedConfig.upsertChannel] at accepted
  split at accepted
  · cases accepted
    exact ⟨rfl, rfl⟩
  · split at accepted
    · cases accepted
      exact ⟨rfl, rfl⟩
    · cases accepted

/-- The add-channel arm leaves contacts and extras alone. -/
theorem handleAddChannel_untouched
    (config : ProvisionedConfig)
    (payload : List UInt8) :
    (config.handleAddChannel payload).1.contacts = config.contacts ∧
      (config.handleAddChannel payload).1.roomExtras =
        config.roomExtras := by
  unfold ProvisionedConfig.handleAddChannel
  split
  · exact ⟨rfl, rfl⟩
  · split
    · next accepted => exact upsertChannel_spec accepted
    · exact ⟨rfl, rfl⟩

theorem addChannel_arm
    {config : ProvisionedConfig}
    (paired : config.Paired)
    (bounded : ExtrasBounded config)
    (payload : List UInt8) :
    ArmSpec config (.addChannel payload) := by
  have untouched := handleAddChannel_untouched config payload
  exact ArmSpec.channelsOnly (config.handleAddChannel payload).2
    paired bounded trivial rfl untouched.1 untouched.2

/-- The delete-channel arm leaves contacts and extras alone. -/
theorem handleDelChannel_untouched
    (config : ProvisionedConfig)
    (payload : List UInt8) :
    (config.handleDelChannel payload).1.contacts = config.contacts ∧
      (config.handleDelChannel payload).1.roomExtras =
        config.roomExtras := by
  unfold ProvisionedConfig.handleDelChannel
  split
  · exact ⟨rfl, rfl⟩
  · split
    · exact ⟨rfl, rfl⟩
    · exact ⟨rfl, rfl⟩

theorem delChannel_arm
    {config : ProvisionedConfig}
    (paired : config.Paired)
    (bounded : ExtrasBounded config)
    (payload : List UInt8) :
    ArmSpec config (.delChannel payload) := by
  have untouched := handleDelChannel_untouched config payload
  exact ArmSpec.channelsOnly (config.handleDelChannel payload).2
    paired bounded trivial rfl untouched.1 untouched.2

/-- A decoded room password is no longer than its field. -/
theorem freshRoomExtra_bounded
    {payload : List UInt8}
    {add : AddRoomPayload}
    (decoded : decodeAddRoom payload = .ok add) :
    (ProvisionedConfig.freshRoomExtra add).Bounded := by
  have passwordFits :
      add.guestPasswordLen.toNat ≤ maxLoginPasswordLen := by
    simp only [decodeAddRoom] at decoded
    split at decoded
    · cases decoded
    · split at decoded
      · cases decoded
      · next notLong =>
        split at decoded
        · cases decoded
        · split at decoded
          · cases decoded
          · split at decoded
            · cases decoded
            · cases decoded
              simpa using notLong
  exact
    { guestPasswordLen := passwordFits
      outPathLen := Nat.zero_le _ }

/-- The extras after a room upsert are old ones and the new one. -/
theorem upsertRoom_extras_bounded
    {config next : ProvisionedConfig}
    {contact : Contact}
    {extra : RoomExtra}
    {outcome : Upsert}
    (bounded : ExtrasBounded config)
    (extraBounded : extra.Bounded)
    (accepted :
      config.upsertRoom contact extra = some (.ok (next, outcome))) :
    ExtrasBounded next := by
  cases upserted :
      config.upsertContact { contact with role := roleRoom } with
  | error full =>
      simp [ProvisionedConfig.upsertRoom, upserted] at accepted
  | ok result =>
      obtain ⟨withContact, contactOutcome⟩ := result
      simp only [ProvisionedConfig.upsertRoom, upserted] at accepted
      obtain ⟨withRoom, extraAccepted, same⟩ :=
        Option.map_eq_some_iff.mp accepted
      simp only [Except.ok.injEq, Prod.mk.injEq] at same
      obtain ⟨rfl, rfl⟩ := same
      have sameExtras :=
        (ProvisionedConfig.upsertContact_spec upserted).2.2
      have ownBounded :
          ({ extra with pubkey := contact.pubkey } :
            RoomExtra).Bounded :=
        ⟨extraBounded.guestPasswordLen, extraBounded.outPathLen⟩
      intro other member
      simp only [ProvisionedConfig.upsertRoomExtra] at extraAccepted
      split at extraAccepted
      · cases extraAccepted
        rcases Search.mem_updateFirst member with
          old | ⟨_, _, rfl⟩
        · exact bounded other (sameExtras ▸ old)
        · exact ownBounded
      · obtain ⟨roomExtras, pushed, rfl⟩ :=
          Option.map_eq_some_iff.mp extraAccepted
        have appended := BoundedList.push?_eq_some_iff.mp pushed
        rw [appended] at member
        rcases List.mem_append.mp member with old | isNew
        · exact bounded other (sameExtras ▸ old)
        · rw [List.mem_singleton.mp isNew]
          exact ownBounded

theorem addRoom_arm
    {config : ProvisionedConfig}
    (paired : config.Paired)
    (bounded : ExtrasBounded config)
    (payload : List UInt8) :
    ArmSpec config (.addRoom payload) := by
  cases decoded : decodeAddRoom payload with
  | error problem =>
      refine ArmSpec.refused
        (.error errDecodeError "add_room decode error")
        paired bounded ?_ ?_
      · simp [KeepsPairing, decoded]
      · simp [ProvisionedConfig.handleEdit,
          ProvisionedConfig.handleAddRoom, decoded]
  | ok add =>
      obtain ⟨result, answered⟩ :=
        Option.isSome_iff_exists.mp
          (ProvisionedConfig.upsertRoom_isSome paired.roomsHaveContacts
            (ProvisionedConfig.roomContact add)
            (ProvisionedConfig.freshRoomExtra add))
      cases result with
      | error full =>
          have missing : config.contactFor? add.pubkey = none :=
            missing_of_roomFull answered
          refine ArmSpec.refused
            (.error errContactListFull "contact list full")
            paired bounded ?_ ?_
          · simpa [KeepsPairing, decoded] using
              noExtra_of_missing paired missing
          · simp [ProvisionedConfig.handleEdit,
              ProvisionedConfig.handleAddRoom, decoded, answered]
      | ok result =>
          obtain ⟨next, outcome⟩ := result
          have pairedIff :=
            ProvisionedConfig.upsertRoom_paired_iff paired answered
          refine ⟨next, .ok, ?_, ?_, ?_⟩
          · cases outcome <;>
              simp [ProvisionedConfig.handleEdit,
                ProvisionedConfig.handleAddRoom, decoded, answered]
          · exact upsertRoom_extras_bounded bounded
              (freshRoomExtra_bounded decoded) answered
          · simpa [KeepsPairing, decoded,
              ProvisionedConfig.roomContact] using pairedIff

theorem delRoom_arm
    {config : ProvisionedConfig}
    (paired : config.Paired)
    (bounded : ExtrasBounded config)
    (payload : List UInt8) :
    ArmSpec config (.delRoom payload) := by
  cases decoded : decodeDelRoom payload with
  | error problem =>
      refine ArmSpec.refused
        (.error errDecodeError "del_room decode error")
        paired bounded ?_ ?_
      · simp [KeepsPairing, decoded]
      · simp [ProvisionedConfig.handleEdit,
          ProvisionedConfig.handleDelRoom, decoded]
  | ok pubkey =>
      have pairedIff :=
        ProvisionedConfig.removeRoom_paired_iff paired pubkey
      have stillBounded :
          ExtrasBounded (config.removeRoom pubkey).1 := by
        intro extra member
        exact bounded extra (List.mem_of_mem_eraseP member)
      cases removed : config.removeRoom pubkey with
      | mk next found =>
          rw [removed] at pairedIff stillBounded
          have keeps :
              next.Paired ↔ KeepsPairing config (.delRoom payload) := by
            simpa [KeepsPairing, decoded] using pairedIff
          cases found with
          | true =>
              refine ⟨next, .ok, ?_, stillBounded, keeps⟩
              simp [ProvisionedConfig.handleEdit,
                ProvisionedConfig.handleDelRoom, decoded, removed]
          | false =>
              refine
                ⟨next, .error errContactNotFound "room not found",
                  ?_, stillBounded, keeps⟩
              simp [ProvisionedConfig.handleEdit,
                ProvisionedConfig.handleDelRoom, decoded, removed]

/-- Every arm, from a sound configuration, is as its condition says. -/
theorem arm_spec
    {config : ProvisionedConfig}
    (paired : config.Paired)
    (bounded : ExtrasBounded config)
    (edit : AdminEdit) :
    ArmSpec config edit := by
  cases edit with
  | addContact payload => exact addContact_arm paired bounded payload
  | delContact payload => exact delContact_arm paired bounded payload
  | addChannel payload => exact addChannel_arm paired bounded payload
  | delChannel payload => exact delChannel_arm paired bounded payload
  | addRoom payload => exact addRoom_arm paired bounded payload
  | delRoom payload => exact delRoom_arm paired bounded payload

/-- From a sound state, an edit stays sound exactly on its condition. -/
theorem step_sound_iff
    (state : Option ProvisionedConfig)
    (edit : AdminEdit)
    (sound : Sound state) :
    Sound (step state edit) ↔
      ∀ config, state = some config → KeepsPairing config edit := by
  obtain ⟨config, rfl, paired, loadable⟩ := sound
  obtain ⟨next, reply, answered, bounded, pairedIff⟩ :=
    arm_spec paired (loadable_iff.mp loadable).bounded edit
  have stepped : step (some config) edit = some next := by
    simp [step, answered]
  rw [stepped, sound_some_iff, pairedIff]
  simp [bounded]

/-- A boot starts from storable rooms. -/
theorem bootConfig_bounded
    (stored : Option (List UInt8)) :
    ExtrasBounded (bootConfig stored) := by
  cases loaded : stored.bind deserializeConfig with
  | none =>
      simp [ExtrasBounded, bootConfig, loaded,
        ProvisionedConfig.empty, BoundedList.empty]
  | some config =>
      obtain ⟨blob, -, deserialized⟩ :=
        Option.bind_eq_some_iff.mp loaded
      simpa [ExtrasBounded, bootConfig, loaded] using
        (roomsStorable_of_deserialize deserialized).bounded

/--
A server that booted from any stored blob never panics and always keeps a paired
and loadable configuration exactly when the blob's rooms were paired and each
edit keeps them paired.
-/
theorem admin_edits_sound_iff
    (stored : Option (List UInt8))
    (edits : List AdminEdit) :
    Transition.Always step Sound (some (bootConfig stored)) edits ↔
      (bootConfig stored).Paired ∧
        Transition.Along step
          (fun state edit =>
            ∀ config, state = some config → KeepsPairing config edit)
          (some (bootConfig stored)) edits := by
  constructor
  · intro always
    exact ⟨(sound_some_iff.mp always.head).1,
      (Transition.always_iff_along step_sound_iff always.head).mp
        always⟩
  · rintro ⟨paired, along⟩
    have sound : Sound (some (bootConfig stored)) :=
      sound_some_iff.mpr ⟨paired, bootConfig_bounded stored⟩
    exact
      (Transition.always_iff_along step_sound_iff sound).mpr along

/-- An edit sequence that deletes a room through the contact command. -/
def addRoomDelContact : List AdminEdit :=
  [.addRoom (List.replicate 32 0xAB ++ [0, 0]),
    .delContact (List.replicate 32 0xAB)]

/--
Deleting a room's contact leaves its extra behind: the stored blob then claims
more rooms than contacts and the next boot rejects it.
-/
theorem delContact_orphans_room :
    ¬ ∀ stored edits,
      Sound
        (Transition.run step (some (bootConfig stored)) edits) := by
  intro always
  obtain ⟨config, reached, paired, loadable⟩ :=
    always none addRoomDelContact
  have rejected :
      (Transition.run step (some (bootConfig none))
          addRoomDelContact).all
          (fun config => decide config.Loadable) =
        false := by
    decide +kernel
  rw [reached] at rejected
  simp [loadable] at rejected

end AdminServer

end MeshCadet
