import MeshCadet.ByteParser
import MeshCadet.RoomSession

namespace MeshCadet

open ByteParser

/-!
# Stored room sessions

What a device learned about a room is stored as one blob next to a counter of
its erasures, the erase epoch.  A running session remembers the epoch it was
loaded under and is stored only while the epoch is still that one.
-/

namespace PersistedRoomSession

/-- Never go back behind a post that was received. -/
def recordSyncedPostTs
    (session : PersistedRoomSession)
    (postTs : UInt32) :
    PersistedRoomSession :=
  if session.syncSince < postTs then
    { session with syncSince := postTs }
  else
    session

/-- The seed of a room that has no stored session. -/
def fromRoomExtra
    (extra : RoomExtra) :
    PersistedRoomSession :=
  { permissions := extra.permissions
    syncSince := extra.syncSince
    outPath := extra.outPath
    outPathLen := extra.outPathLen
    lastRoomTs := 0
    routeKnown := 0 < extra.outPathLen }

/-- The blob of a session; that a route is known is not stored. -/
def encode
    (session : PersistedRoomSession) :
    List UInt8 :=
  [session.permissions] ++
    ((Bytes.u32ToLeBytes session.syncSince).toList ++
      ([session.outPathLen] ++
        (session.outPath.toList ++
          (Bytes.u32ToLeBytes session.lastRoomTs).toList)))

/-- Read a blob; what comes behind the last field is ignored. -/
def parser : Parser PersistedRoomSession := do
  let permissions ← byte
  let syncSince ← u32Le
  let outPathLen ← byte
  ensure (outPathLen.toNat ≤ maxPathSize)
  let outPath ← bytes maxPathSize
  let lastRoomTs ← u32Le
  pure
    { permissions := permissions
      syncSince := syncSince
      outPath := outPath
      outPathLen := outPathLen
      lastRoomTs := lastRoomTs
      routeKnown := 0 < outPathLen }

/-- Decode a stored session. -/
def decode
    (blob : List UInt8) :
    Option PersistedRoomSession :=
  (parser blob).map Prod.fst

/-- A session as a reboot finds it: only a route of some hops is still known. -/
def reloaded
    (session : PersistedRoomSession) :
    PersistedRoomSession :=
  { session with routeKnown := 0 < session.outPathLen }

/-- A session whose route fits its field is read back. -/
theorem decode_encode
    {session : PersistedRoomSession}
    (routeFits : session.outPathLen.toNat ≤ maxPathSize) :
    decode session.encode = some session.reloaded := by
  have reads : Reads parser session.encode session.reloaded := by
    unfold parser encode
    refine Reads.bind (reads_byte _) ?_
    refine Reads.bind (reads_u32Le _) ?_
    refine Reads.bind (reads_byte _) ?_
    refine Reads.check (decide_eq_true routeFits) ?_
    refine Reads.bind (reads_bytes _) ?_
    exact Reads.last (reads_u32Le _)
  have whole := reads []
  rw [List.append_nil] at whole
  simp [decode, whole]

/-- The route of a session that was read fits its field. -/
theorem routeFits_of_decode
    {blob : List UInt8}
    {session : PersistedRoomSession}
    (decoded : decode blob = some session) :
    session.outPathLen.toNat ≤ maxPathSize := by
  have yields :
      Yields parser fun session =>
        session.outPathLen.toNat ≤ maxPathSize := by
    unfold parser
    refine Yields.bind (Yields.any _) fun permissions _ => ?_
    refine Yields.bind (Yields.any _) fun syncSince _ => ?_
    refine Yields.bind (Yields.any _) fun outPathLen _ => ?_
    refine Yields.bind (yields_ensure _) fun _ routeFits => ?_
    refine Yields.bind (Yields.any _) fun outPath _ => ?_
    refine Yields.bind (Yields.any _) fun lastRoomTs _ => ?_
    exact Yields.pure (of_decide_eq_true routeFits)
  obtain ⟨⟨read, rest⟩, accepted, rfl⟩ :=
    Option.map_eq_some_iff.mp decoded
  exact yields _ _ _ accepted

end PersistedRoomSession

/-- A running session may still be stored. -/
def roomSessionPersistIsCurrent
    (rememberedEpoch currentEpoch : UInt8) :
    Bool :=
  rememberedEpoch == currentEpoch

/-- The epoch after an erasure, wrapping at the end of its byte. -/
def nextRoomSessionEpoch
    (current : UInt8) :
    UInt8 :=
  current + 1

/-- What is stored for a room. -/
structure RoomStore where
  blob : Option (List UInt8)
  epoch : Option UInt8
deriving Repr, DecidableEq

namespace RoomStore

/-- The current erase epoch. -/
def loadRoomEpoch
    (store : RoomStore) :
    UInt8 :=
  store.epoch.getD 0

/-- The stored session, if there is a readable one. -/
def loadRoomSession
    (store : RoomStore) :
    Option PersistedRoomSession :=
  store.blob.bind PersistedRoomSession.decode

/-- Store a session. -/
def writeBlob
    (store : RoomStore)
    (session : PersistedRoomSession) :
    RoomStore :=
  { store with blob := some session.encode }

/-- Store a session unless the room was erased since it was loaded. -/
def saveRoomSession
    (store : RoomStore)
    (rememberedEpoch : UInt8)
    (session : PersistedRoomSession) :
    RoomStore :=
  if roomSessionPersistIsCurrent rememberedEpoch store.loadRoomEpoch then
    store.writeBlob session
  else
    store

/-- Remove the stored session. -/
def removeBlob
    (store : RoomStore) :
    RoomStore :=
  { store with blob := none }

/-- Store the epoch after one that was read. -/
def bumpEpoch
    (store : RoomStore)
    (current : UInt8) :
    RoomStore :=
  { store with epoch := some (nextRoomSessionEpoch current) }

@[simp] theorem loadRoomEpoch_writeBlob
    (store : RoomStore)
    (session : PersistedRoomSession) :
    (store.writeBlob session).loadRoomEpoch = store.loadRoomEpoch :=
  rfl

@[simp] theorem loadRoomEpoch_removeBlob
    (store : RoomStore) :
    store.removeBlob.loadRoomEpoch = store.loadRoomEpoch :=
  rfl

@[simp] theorem loadRoomEpoch_bumpEpoch
    (store : RoomStore)
    (current : UInt8) :
    (store.bumpEpoch current).loadRoomEpoch =
      nextRoomSessionEpoch current :=
  rfl

end RoomStore

end MeshCadet
