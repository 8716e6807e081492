import MeshCadet.RspPayloads
import MeshCadet.SerialLine

namespace MeshCadet

/-!
# The commands of the host

What each command sends, and what it does with the frames it receives.  A listing
is read up to the frame behind its last entry, and an export of the history skips
what it takes for leftovers of other commands.
-/

/-- The listings of the device. -/
inductive Listing where
  | contacts
  | channels
  | rooms
deriving Repr, DecidableEq

namespace Listing

/-- The type of the frame that asks for the listing. -/
def query : Listing → UInt8
  | contacts => 0x02
  | channels => 0x03
  | rooms => 0x05

/-- The type of the frame of an entry. -/
def entry : Listing → UInt8
  | contacts => 0x86
  | channels => 0x88
  | rooms => 0x8B

/-- The type of the frame behind the last entry. -/
def done : Listing → UInt8
  | contacts => 0x87
  | channels => 0x89
  | rooms => 0x8C

/-- The frames that list some entries. -/
def answer
    (listing : Listing)
    (payloads : List (List UInt8)) :
    List HostFrame :=
  (payloads.map fun payload =>
    { frameType := listing.entry, payload := payload }) ++
    [{ frameType := listing.done, payload := [] }]

/-- What the device lists. -/
def entries
    (readback : Readback) :
    Listing → List (List UInt8)
  | contacts => readback.contacts
  | channels => readback.channels
  | rooms => readback.rooms

/-- The rooms are listed as the room module lists them. -/
theorem answer_rooms
    (crypto : Crypto)
    (stores : AdminStores) :
    rooms.answer (rooms.entries (stores.readback crypto)) =
      handleQueryRooms stores.config := by
  rw [answer, entries, handleQueryRooms, AdminStores.readback,
    List.map_map]
  rfl

/-- Whether the payload of an entry is decoded. -/
def decodes : Listing → List UInt8 → Bool
  | contacts, payload => (decodeRspContact payload).toBool
  | channels, payload => (decodeRspChannel payload).toBool
  | rooms, payload => (decodeRspRoom payload).toBool

/-- What the device lists is decoded. -/
theorem decodes_entries
    (crypto : Crypto)
    (stores : AdminStores)
    (listing : Listing) :
    ∀ payload ∈ listing.entries (stores.readback crypto),
      listing.decodes payload = true := by
  intro payload member
  cases listing with
  | contacts =>
      obtain ⟨⟨contact, index⟩, -, rfl⟩ := List.mem_map.mp member
      simp only [decodes, decodeRspContact_encode]
      rfl
  | channels =>
      obtain ⟨⟨channel, index⟩, -, rfl⟩ := List.mem_map.mp member
      simp only [decodes, decodeRspChannel_encode]
      rfl
  | rooms =>
      obtain ⟨⟨extra, index⟩, -, rfl⟩ := List.mem_map.mp member
      simp only [decodes, decodeRspRoom_encode]
      rfl

end Listing

/-- The methods of a session that talk to the device. -/
inductive SessionCommand where
  | sendAndExpectOk (frameType : UInt8) (payload : List UInt8)
  | queryStatus
  | queryAdvert (payload : List UInt8)
  | list (listing : Listing)
  | queryLock
  | queryRegion
  | exportHistory
deriving Repr, DecidableEq

/-- Most frames of other commands that an export of the history skips. -/
def maxStrayFrames : Nat :=
  64

/-- What a command read so far. -/
structure Progress where
  statusRead : Bool
  strayFrames : Nat
deriving Repr, DecidableEq

/-- Nothing is read before the first frame. -/
def Progress.initial : Progress :=
  { statusRead := false
    strayFrames := 0 }

/-- What a command does with a frame: end, take it and read on, or skip it. -/
inductive Reaction where
  | finished
  | reads (progress : Progress)
  | skips (progress : Progress)
deriving Repr, DecidableEq

/-- The frames an export of the history takes for leftovers of other commands. -/
def strayTypes : List UInt8 :=
  [0x82, 0x83, 0x80, 0x86, 0x87, 0x88, 0x89]

namespace SessionCommand

/-- Add a contact. -/
def addContact : List UInt8 → SessionCommand :=
  sendAndExpectOk 0x10

/-- Delete a contact. -/
def delContact : List UInt8 → SessionCommand :=
  sendAndExpectOk 0x11

/-- Add a channel. -/
def addChannel : List UInt8 → SessionCommand :=
  sendAndExpectOk 0x20

/-- Delete a channel. -/
def delChannel : List UInt8 → SessionCommand :=
  sendAndExpectOk 0x21

/-- Add a room. -/
def addRoom : List UInt8 → SessionCommand :=
  sendAndExpectOk 0x22

/-- Delete a room. -/
def delRoom : List UInt8 → SessionCommand :=
  sendAndExpectOk 0x23

/-- Set the notification defaults. -/
def setNotifDefaults : List UInt8 → SessionCommand :=
  sendAndExpectOk 0x40

/-- Set the admin PIN. -/
def setPin : List UInt8 → SessionCommand :=
  sendAndExpectOk 0x50

/-- Set the device's name. -/
def setDeviceName : List UInt8 → SessionCommand :=
  sendAndExpectOk 0x51

/-- Set the PIN of the screen lock. -/
def setLockPin : List UInt8 → SessionCommand :=
  sendAndExpectOk 0x52

/-- Configure the screen lock. -/
def setLockConfig : List UInt8 → SessionCommand :=
  sendAndExpectOk 0x53

/-- Set the region. -/
def setRegion : List UInt8 → SessionCommand :=
  sendAndExpectOk 0x54

/-- Commit the provisioned configuration. -/
def commit : SessionCommand :=
  sendAndExpectOk 0x70 []

/-- Erase the history. -/
def clearHistory : SessionCommand :=
  sendAndExpectOk 0x72 []

/-- List the contacts. -/
def listContacts : SessionCommand :=
  list .contacts

/-- List the channels. -/
def listChannels : SessionCommand :=
  list .channels

/-- List the rooms. -/
def listRooms : SessionCommand :=
  list .rooms

/-- The frame of a command. -/
def request : SessionCommand → HostFrame
  | sendAndExpectOk frameType payload =>
      { frameType := frameType, payload := payload }
  | queryStatus => { frameType := 0x01, payload := [] }
  | queryAdvert payload => { frameType := 0x04, payload := payload }
  | list listing => { frameType := listing.query, payload := [] }
  | queryLock => { frameType := 0x06, payload := [] }
  | queryRegion => { frameType := 0x07, payload := [] }
  | exportHistory => { frameType := 0x71, payload := [] }

/-- What a command does with the next frame. -/
def onFrame
    (progress : Progress)
    (frame : HostFrame) :
    SessionCommand → Reaction
  | sendAndExpectOk _ _ => .finished
  | queryStatus =>
      if progress.statusRead then
        .finished
      else if frame.frameType = 0x82 ∧
          (decodeRspStatus frame.payload).toBool then
        .reads { progress with statusRead := true }
      else
        .finished
  | queryAdvert _ => .finished
  | list listing =>
      if frame.frameType = listing.entry ∧ listing.decodes frame.payload then
        .reads progress
      else
        .finished
  | queryLock => .finished
  | queryRegion => .finished
  | exportHistory =>
      if frame.frameType = 0x84 then
        if (decodeRspHistoryEntry frame.payload).isSome then
          .reads progress
        else
          .finished
      else if frame.frameType ∈ strayTypes then
        if maxStrayFrames < progress.strayFrames + 1 then
          .finished
        else
          .skips { progress with strayFrames := progress.strayFrames + 1 }
      else
        .finished

/-- A command reads on up to the last of the frames. -/
def Consumes
    (command : SessionCommand) :
    Progress → List HostFrame → Prop
  | _, [] => False
  | progress, frame :: rest =>
      match command.onFrame progress frame with
      | .finished => rest = []
      | .reads next => Consumes command next rest
      | .skips next => Consumes command next rest

/-- A listing is read up to the frame behind its last entry. -/
theorem consumes_answer
    {listing : Listing}
    {payloads : List (List UInt8)}
    (decoded : ∀ payload ∈ payloads, listing.decodes payload = true)
    (progress : Progress) :
    (list listing).Consumes progress (listing.answer payloads) := by
  induction payloads with
  | nil =>
      cases listing <;> rfl
  | cons payload rest inductionHypothesis =>
      have isEntry : listing.decodes payload = true :=
        decoded payload List.mem_cons_self
      have later :=
        inductionHypothesis fun other member =>
          decoded other (List.mem_cons_of_mem payload member)
      simpa [Listing.answer, Consumes, onFrame, isEntry] using later

end SessionCommand

end MeshCadet
