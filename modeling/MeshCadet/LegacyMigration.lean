import Mathlib.Data.Finset.Card
import Mathlib.Data.Fintype.Basic
import MeshCadet.HistoryStore
import MeshCadet.RegionCuts
import MeshCadet.Transition

namespace MeshCadet

/-!
# Migration of the legacy history

A boot that finds no marker appends every legacy entry to the region of its
conversation, and then sets the marker.  A boot that loses power leaves what it
has written and no marker, so the next one appends every entry again.
-/

open FlashCells HistoryRegion

/-- The legacy namespace: the values under its keys, where they are present. -/
structure LegacyNvs where
  head : Option UInt8
  cnt : Option UInt8
  slots : Nat → Option EntryBlob
  migrated : Option UInt8

namespace LegacyNvs

/-- The marker is present and set. -/
def isMigrated
    (nvs : LegacyNvs) :
    Bool :=
  match nvs.migrated with
  | some marker => marker != 0
  | none => false

/-- The ring's head and count, bounded by its size. -/
def readLegacyMeta
    (nvs : LegacyNvs) :
    UInt8 × UInt8 :=
  let head :=
    match nvs.head with
    | some head => min head 31
    | none => 0
  let cnt :=
    match nvs.cnt with
    | some cnt => min cnt 32
    | none => 0
  (head, cnt)

/-- The ring's entries that decode, oldest first. -/
def entries
    (nvs : LegacyNvs) :
    List HistoryEntry :=
  let (head, cnt) := nvs.readLegacyMeta
  let count := cnt.toNat
  let oldestSlot := if count < maxHistoryEntries then 0 else head.toNat
  (List.range count).filterMap fun i =>
    (nvs.slots ((oldestSlot + i) % maxHistoryEntries)).bind decodeEntryBlob

end LegacyNvs

/-- A legacy entry as it is stored: received, and with nothing pending. -/
def legacySlot
    (entry : HistoryEntry) :
    DecodedSlot :=
  { entry := entry
    isOurs := false
    acked := true }

namespace HistoryStore

/-- Append a legacy entry to the conversation it names. -/
def append
    (store : HistoryStore)
    (entry : HistoryEntry) :
    Except HistoryStoreError HistoryStore :=
  store.appendConversation entry.msgType entry.senderHash
    (legacySlot entry)

/-- Append the entries; a failure is only logged. -/
def migrateEntries
    (store : HistoryStore) :
    List HistoryEntry → HistoryStore
  | [] => store
  | entry :: rest =>
      match store.append entry with
      | .ok after => after.migrateEntries rest
      | .error _ => store.migrateEntries rest

/-- The region an append writes to, and its writes. -/
def conversationWrites
    (store : HistoryStore)
    (kind : HistoryMsgType)
    (convHash : UInt8)
    (slot : DecodedSlot) :
    Except HistoryStoreError
      (Fin maxConversationRegions × List RegionWrite) :=
  match store.findClaimedRegion kind convHash with
  | some region =>
      match (store region).appendRegionWrites slot with
      | some writes => .ok (region, writes)
      | none => .error .missingSector
  | none =>
      let unclaimed :=
        (List.finRange maxConversationRegions).find? fun region =>
          (store region).activeSector.isNone
      match unclaimed with
      | none => .error .directoryFull
      | some region =>
          let claimed := (store region).claimRegion kind convHash
          match claimed.appendRegionWrites slot with
          | some writes =>
              .ok (region, claimWrites kind convHash ++ writes)
          | none => .error .missingSector

/-- The writes that append a legacy entry. -/
def legacyWrites
    (store : HistoryStore)
    (entry : HistoryEntry) :
    Except HistoryStoreError
      (Fin maxConversationRegions × List RegionWrite) :=
  store.conversationWrites entry.msgType entry.senderHash
    (legacySlot entry)

/-- Carry out writes in a region. -/
def carryOut
    (store : HistoryStore)
    (region : Fin maxConversationRegions)
    (writes : List RegionWrite) :
    HistoryStore :=
  Function.update store region
    ((store region).applyWrites Medium.nor writes)

/-- Append the entries until power is lost after so many bytes. -/
def cutMigration
    (store : HistoryStore) :
    List HistoryEntry → Nat → HistoryStore
  | [], _ => store
  | entry :: rest, written =>
      match store.legacyWrites entry with
      | .error _ => store.cutMigration rest written
      | .ok (region, writes) =>
          if totalSize writes ≤ written then
            (store.carryOut region writes).cutMigration rest
              (written - totalSize writes)
          else
            store.carryOut region (cutWrites written writes)

end HistoryStore

/-- The history partition and the legacy namespace. -/
structure LegacyDevice where
  store : HistoryStore
  nvs : LegacyNvs

/-- A boot runs the migration to its end, or loses power after so many bytes. -/
inductive Boot where
  | complete
  | powerLoss (written : Nat)
deriving Repr, DecidableEq

/-- Migrate unless the marker is set; the marker comes last. -/
def migrateLegacyNvsOnce
    (device : LegacyDevice)
    (boot : Boot) :
    LegacyDevice :=
  if device.nvs.isMigrated then
    device
  else
    match boot with
    | .complete =>
        { store := device.store.migrateEntries device.nvs.entries
          nvs := { device.nvs with migrated := some 1 } }
    | .powerLoss written =>
        { device with
          store :=
            device.store.cutMigration device.nvs.entries written }

/-- The entry is of the conversation. -/
def isOfConversation
    (kind : HistoryMsgType)
    (convHash : UInt8)
    (entry : HistoryEntry) :
    Bool :=
  entry.msgType == kind && entry.senderHash == convHash

/-- The conversation's entries, as they are stored. -/
def legacyEntriesOf
    (kind : HistoryMsgType)
    (convHash : UInt8)
    (entries : List HistoryEntry) :
    List DecodedSlot :=
  (entries.filter (isOfConversation kind convHash)).map legacySlot

/-- Once the marker is set, every conversation of a legacy entry has its legacy
entries, each once, in the ring's order. -/
def MigratedOnce
    (device : LegacyDevice) :
    Prop :=
  device.nvs.isMigrated = true →
    ∀ entry ∈ device.nvs.entries,
      device.store.conversation entry.msgType entry.senderHash =
        legacyEntriesOf entry.msgType entry.senderHash device.nvs.entries

/-- All entries are of one conversation, and fill what is kept of it. -/
def FillsConversation
    (entries : List HistoryEntry) :
    Prop :=
  entries.length = maxHistoryEntries ∧
    ∃ kind convHash,
      ∀ entry ∈ entries, isOfConversation kind convHash entry = true

/-- Power is lost before the second byte of the first slot is stored; the slot is
the last 72 bytes of its append. -/
def LostEarly
    (store : HistoryStore) :
    List HistoryEntry → Nat → Prop
  | [], _ => True
  | entry :: rest, written =>
      match store.legacyWrites entry with
      | .error _ => LostEarly store rest written
      | .ok (_, writes) => written + 71 ≤ totalSize writes

/-- The conversations of the entries that have no region. -/
def unplaced
    (store : HistoryStore)
    (entries : List HistoryEntry) :
    Finset (HistoryMsgType × UInt8) :=
  (entries.map fun entry =>
    (entry.msgType, entry.senderHash)).toFinset.filter
      fun conversation =>
        store.findClaimedRegion conversation.1 conversation.2 = none

/-- The regions that no conversation has. -/
def freeRegions
    (store : HistoryStore) :
    Finset (Fin maxConversationRegions) :=
  Finset.univ.filter fun region => (store region).activeSector = none

/-- Every conversation of the entries has a region or gets one. -/
def HasRoom
    (store : HistoryStore)
    (entries : List HistoryEntry) :
    Prop :=
  (unplaced store entries).card ≤ (freeRegions store).card

/-- A boot that does not run the migration, or loses power early, or while the
repeated entries are all that is kept, or has room for all conversations. -/
def Harmless
    (device : LegacyDevice) :
    Boot → Prop
  | .complete =>
      device.nvs.isMigrated = true ∨
        HasRoom device.store device.nvs.entries
  | .powerLoss written =>
      device.nvs.isMigrated = true ∨
        FillsConversation device.nvs.entries ∨
          LostEarly device.store device.nvs.entries written

namespace HistoryStore

/-- An append to a conversation carries out its writes. -/
theorem appendConversation_eq
    (store : HistoryStore)
    (kind : HistoryMsgType)
    (convHash : UInt8)
    (slot : DecodedSlot) :
    store.appendConversation kind convHash slot =
      (store.conversationWrites kind convHash slot).map
        fun found => store.carryOut found.1 found.2 := by
  rw [appendConversation, conversationWrites, findOrClaimRegion]
  cases store.findClaimedRegion kind convHash with
  | some region =>
      simp only [appendRegion_eq]
      cases (store region).appendRegionWrites slot <;> rfl
  | none =>
      simp only
      cases (List.finRange maxConversationRegions).find? fun region =>
          (store region).activeSector.isNone with
      | none => rfl
      | some region =>
          simp only [Option.map_some, Function.update_self, appendRegion_eq]
          cases
            ((store region).claimRegion kind convHash).appendRegionWrites
              slot with
          | none => rfl
          | some writes =>
              simp only [Option.map_some, Except.map, carryOut,
                applyWrites_append, Function.update_idem]
              rfl

end HistoryStore

end MeshCadet
