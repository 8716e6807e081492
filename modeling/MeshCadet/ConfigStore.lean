import MeshCadet.BoundedList

namespace MeshCadet

/-!
# The provisioned configuration

Contacts, channels and room extras are bounded lists: the live prefixes of the
firmware's fixed arrays.  A room is a contact with the room role together with
an extra entry of the same public key.
-/

/-- Maximum number of provisioned contacts, and of room extras. -/
abbrev maxContacts : Nat :=
  16

/-- Maximum number of provisioned channels. -/
abbrev maxChannels : Nat :=
  8

/-- Longest guest password of a room. -/
abbrev maxLoginPasswordLen : Nat :=
  16

/-- Longest learned route. -/
abbrev maxPathSize : Nat :=
  64

/-- Ed25519 public keys and channel secrets. -/
abbrev Key : Type :=
  Vector UInt8 32

/-- A plain chat contact. -/
def roleChat : UInt8 :=
  0

/-- A room-server contact. -/
def roleRoom : UInt8 :=
  3

/-- A provisioned contact entry. -/
structure Contact where
  pubkey : Key
  telemetryEnable : Bool
  role : UInt8
  displayName : Vector UInt8 32
  displayNameLen : UInt8
deriving Repr, DecidableEq

/-- The contact is a room server. -/
def Contact.isRoom
    (contact : Contact) :
    Bool :=
  contact.role == roleRoom

/-- A provisioned channel entry. -/
structure Channel where
  secret : Key
  keyLen : UInt8
  primary : Bool
  name : Vector UInt8 32
  nameLen : UInt8
deriving Repr, DecidableEq

/-- The secret's length, clamped to one of the two valid ones. -/
def Channel.keyLenResolved
    (channel : Channel) :
    Nat :=
  if channel.keyLen = 16 then 16 else 32

/-- Room state paired with a room contact by public key. -/
structure RoomExtra where
  pubkey : Key
  guestPassword : Vector UInt8 maxLoginPasswordLen
  guestPasswordLen : UInt8
  syncSince : UInt32
  permissions : UInt8
  outPath : Vector UInt8 maxPathSize
  outPathLen : UInt8
deriving Repr, DecidableEq

/-- Radio modem preset parameters. -/
structure RadioPreset where
  freqHz : UInt32
  bwCode : UInt8
  sf : UInt8
  cr : UInt8
  txPowerDbm : UInt8
deriving Repr, DecidableEq

/-- The locked default preset. -/
def RadioPreset.default : RadioPreset :=
  { freqHz := 910525000
    bwCode := 0
    sf := 7
    cr := 1
    txPowerDbm := 22 }

/-- Notification default settings. -/
structure NotifDefaults where
  visual : Bool
  audible : Bool
deriving Repr, DecidableEq

/-- The full provisioned configuration. -/
structure ProvisionedConfig where
  contacts : BoundedList Contact maxContacts
  channels : BoundedList Channel maxChannels
  roomExtras : BoundedList RoomExtra maxContacts
  radioPreset : RadioPreset
  notifDefaults : NotifDefaults
  pin : Vector UInt8 16
  pinLen : UInt8
  lockFlags : UInt8
deriving Repr, DecidableEq

/-- Outcome of an upsert. -/
inductive Upsert where
  | updated
  | added
deriving Repr, DecidableEq

/-- A genuinely new contact does not fit. -/
inductive ContactListFull where
  | contactListFull
deriving Repr, DecidableEq

/-- A genuinely new channel does not fit. -/
inductive ChannelListFull where
  | channelListFull
deriving Repr, DecidableEq

namespace ProvisionedConfig

/-- An empty configuration with default settings. -/
def empty : ProvisionedConfig :=
  { contacts := .empty
    channels := .empty
    roomExtras := .empty
    radioPreset := .default
    notifDefaults := { visual := true, audible := true }
    pin := Vector.replicate 16 0
    pinLen := 0
    lockFlags := 0 }

/-- The first contact with a public key. -/
def contactFor?
    (config : ProvisionedConfig)
    (pubkey : Key) :
    Option Contact :=
  config.contacts.elements.find? (·.pubkey == pubkey)

/-- A room's extras, if it is configured. -/
def roomExtra?
    (config : ProvisionedConfig)
    (pubkey : Key) :
    Option RoomExtra :=
  config.roomExtras.elements.find? (·.pubkey == pubkey)

/-- The first channel with a secret. -/
def channelFor?
    (config : ProvisionedConfig)
    (secret : Key) :
    Option Channel :=
  config.channels.elements.find? (·.secret == secret)

/-- Insert or update a channel; a primary one demotes all others. -/
def upsertChannel
    (config : ProvisionedConfig)
    (channel : Channel) :
    Except ChannelListFull (ProvisionedConfig × Upsert) :=
  let demoted :=
    if channel.primary then
      config.channels.map fun other => { other with primary := false }
    else
      config.channels
  match config.channelFor? channel.secret with
  | some _ =>
      .ok
        ({ config with
            channels :=
              demoted.updateFirst
                (·.secret == channel.secret) fun _ => channel },
          .updated)
  | none =>
      match demoted.push? channel with
      | some channels =>
          .ok ({ config with channels := channels }, .added)
      | none =>
          .error .channelListFull

/-- Insert or update a contact, keyed on its public key. -/
def upsertContact
    (config : ProvisionedConfig)
    (contact : Contact) :
    Except ContactListFull (ProvisionedConfig × Upsert) :=
  match config.contactFor? contact.pubkey with
  | some _ =>
      .ok
        ({ config with
            contacts :=
              config.contacts.updateFirst
                (·.pubkey == contact.pubkey) fun _ => contact },
          .updated)
  | none =>
      match config.contacts.push? contact with
      | some contacts =>
          .ok ({ config with contacts := contacts }, .added)
      | none =>
          .error .contactListFull

/--
Insert or update a room's extras.  A new entry goes to the slot after the last
one without a capacity check; past the array's end that index panics.
-/
def upsertRoomExtra
    (config : ProvisionedConfig)
    (extra : RoomExtra) :
    Option ProvisionedConfig :=
  match config.roomExtra? extra.pubkey with
  | some _ =>
      some
        { config with
          roomExtras :=
            config.roomExtras.updateFirst
              (·.pubkey == extra.pubkey) fun _ => extra }
  | none =>
      (config.roomExtras.push? extra).map fun roomExtras =>
        { config with roomExtras := roomExtras }

/--
Insert or update a room: its contact, forced to the room role, and its extras,
forced to the contact's key.  `none` is the index panic.
-/
def upsertRoom
    (config : ProvisionedConfig)
    (contact : Contact)
    (extra : RoomExtra) :
    Option (Except ContactListFull (ProvisionedConfig × Upsert)) :=
  match config.upsertContact { contact with role := roleRoom } with
  | .error full =>
      some (.error full)
  | .ok (withContact, outcome) =>
      (withContact.upsertRoomExtra
          { extra with pubkey := contact.pubkey }).map
        fun withRoom => .ok (withRoom, outcome)

/-- Shift out the first contact with a public key. -/
def removeContact
    (config : ProvisionedConfig)
    (pubkey : Key) :
    ProvisionedConfig :=
  { config with
    contacts := config.contacts.removeFirst (·.pubkey == pubkey) }

/-- Shift out the first room extra with a public key. -/
def removeRoomExtra
    (config : ProvisionedConfig)
    (pubkey : Key) :
    ProvisionedConfig :=
  { config with
    roomExtras := config.roomExtras.removeFirst (·.pubkey == pubkey) }

/-- Remove a room's extras and its contact; says whether a contact was found. -/
def removeRoom
    (config : ProvisionedConfig)
    (pubkey : Key) :
    ProvisionedConfig × Bool :=
  ((config.removeRoomExtra pubkey).removeContact pubkey,
    (config.contactFor? pubkey).isSome)

/-- Live room contacts with a public key. -/
def roomContactCount
    (config : ProvisionedConfig)
    (pubkey : Key) :
    Nat :=
  config.contacts.elements.countP fun contact =>
    contact.isRoom && contact.pubkey == pubkey

/-- Live room extras with a public key. -/
def roomExtraCount
    (config : ProvisionedConfig)
    (pubkey : Key) :
    Nat :=
  config.roomExtras.elements.countP (·.pubkey == pubkey)

/--
Every room extra is paired with exactly one room contact of the same key, and
every room contact with exactly one extra.
-/
structure Paired
    (config : ProvisionedConfig) :
    Prop where
  extraHasContact :
    ∀ extra ∈ config.roomExtras.elements,
      config.roomContactCount extra.pubkey = 1
  contactHasExtra :
    ∀ contact ∈ config.contacts.elements,
      contact.isRoom = true →
        config.roomExtraCount contact.pubkey = 1

end ProvisionedConfig

end MeshCadet
