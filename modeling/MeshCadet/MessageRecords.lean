import MeshCadet.Dispatcher
import MeshCadet.HistoryEntry

namespace MeshCadet

/-!
# Message records of the user interface

The user interface keeps the records of every conversation in one map.  A record
is pushed when a message is composed or arrives and is never moved, so later
events have to find it: by the acknowledgement hash it was tagged with, or by its
place among the pending ones.
-/

/-- Delivery state of an outbound message. -/
inductive DeliveryState where
  | pending
  | acked
  | undelivered
deriving Repr, DecidableEq

/-- What the interface remembers of one message. -/
structure MessageRecord where
  isOurs : Bool
  delivery : DeliveryState
  ackHash : Option AckHash
deriving Repr, DecidableEq

namespace MessageRecord

/-- An outbound record without a delivery outcome. -/
def isPending
    (record : MessageRecord) :
    Bool :=
  record.isOurs && record.delivery == .pending

/-- A pending record that no acknowledgement hash was recorded on. -/
def isUntagged
    (record : MessageRecord) :
    Bool :=
  record.isOurs && record.ackHash.isNone && record.delivery == .pending

/-- An outbound record that waits for the given acknowledgement. -/
def waitsFor
    (ackHash : AckHash)
    (record : MessageRecord) :
    Bool :=
  record.isOurs && record.ackHash == some ackHash

/-- The record with its delivery outcome. -/
def settled
    (state : DeliveryState)
    (record : MessageRecord) :
    MessageRecord :=
  { record with delivery := state }

/-- The record with its acknowledgement hash. -/
def tagged
    (ackHash : AckHash)
    (record : MessageRecord) :
    MessageRecord :=
  { record with ackHash := some ackHash }

/-- The bubble of a message that was just composed. -/
def composed : MessageRecord :=
  { isOurs := true
    delivery := .pending
    ackHash := none }

/-- A received message or a notice of the system. -/
def inbound : MessageRecord :=
  { isOurs := false
    delivery := .pending
    ackHash := none }

/-- A record restored from flash at boot. -/
def restored
    (slot : DecodedSlot) :
    MessageRecord :=
  { isOurs := slot.isOurs
    delivery := if slot.acked then .acked else .pending
    ackHash := none }

/-- An outcome other than pending changes a pending record. -/
theorem settled_ne
    {state : DeliveryState}
    (outcome : state ≠ .pending)
    (record : MessageRecord)
    (pending : record.isPending = true) :
    record.settled state ≠ record := by
  intro same
  have delivery := congrArg MessageRecord.delivery same
  simp only [isPending, Bool.and_eq_true, beq_iff_eq] at pending
  rw [pending.2] at delivery
  exact outcome delivery

/-- A hash changes an untagged record. -/
theorem tagged_ne
    (ackHash : AckHash)
    (record : MessageRecord)
    (untagged : record.isUntagged = true) :
    record.tagged ackHash ≠ record := by
  intro same
  have hash := congrArg MessageRecord.ackHash same
  simp only [isUntagged, Bool.and_eq_true] at untagged
  simp [tagged, ← hash] at untagged

end MessageRecord

/-- The records of every conversation, oldest first. -/
abbrev Messages : Type :=
  UInt8 → List MessageRecord

namespace Messages

/-- Add a record to a conversation. -/
def push
    (messages : Messages)
    (hash : UInt8)
    (record : MessageRecord) :
    Messages :=
  Function.update messages hash (messages hash ++ [record])

/-- Settle the newest pending record, if there is one. -/
def settleNewestPending
    (messages : Messages)
    (toHash : UInt8)
    (newState : DeliveryState) :
    Messages × Bool :=
  (Function.update messages toHash
      (Search.updateLast MessageRecord.isPending
        (MessageRecord.settled newState) (messages toHash)),
    (messages toHash).any MessageRecord.isPending)

/-- Mark the newest pending outbound record as acknowledged. -/
def markLastUnackedOutbound
    (messages : Messages)
    (toHash : UInt8) :
    Messages × Bool :=
  messages.settleNewestPending toHash .acked

/-- Settle the outbound record that waits for the acknowledgement. -/
def markDeliveryByAckHash
    (messages : Messages)
    (toHash : UInt8)
    (ackHash : AckHash)
    (newState : DeliveryState) :
    Messages × Bool :=
  (Function.update messages toHash
      (Search.updateFirst (MessageRecord.waitsFor ackHash)
        (MessageRecord.settled newState) (messages toHash)),
    (messages toHash).any (MessageRecord.waitsFor ackHash))

/-- Record the hash on the oldest untagged pending outbound record. -/
def tagOldestUntaggedOutbound
    (messages : Messages)
    (toHash : UInt8)
    (ackHash : AckHash) :
    Messages × Bool :=
  (Function.update messages toHash
      (Search.updateFirst MessageRecord.isUntagged
        (MessageRecord.tagged ackHash) (messages toHash)),
    (messages toHash).any MessageRecord.isUntagged)

/-- What the interface does to its records on an event. -/
def handleEvent
    (messages : Messages) :
    UiEvent → Messages
  | .dmQueued toHash ackHash =>
      (messages.tagOldestUntaggedOutbound toHash ackHash).1
  | .dmAcked toHash _ ackHash =>
      match messages.markDeliveryByAckHash toHash ackHash .acked with
      | (marked, true) => marked
      | (same, false) => (same.markLastUnackedOutbound toHash).1
  | .dmUndelivered toHash _ ackHash =>
      match
        messages.markDeliveryByAckHash toHash ackHash .undelivered
      with
      | (marked, true) => marked
      | (same, false) =>
          (same.settleNewestPending toHash .undelivered).1
  | .channelAcked channelHash =>
      (messages.markLastUnackedOutbound channelHash).1
  | .incomingDm fromHash =>
      messages.push fromHash .inbound

/-- Without a record that waits for it, a hash settles nothing. -/
theorem markDeliveryByAckHash_none
    (messages : Messages)
    {toHash : UInt8}
    {ackHash : AckHash}
    (noneWaits :
      ∀ record ∈ messages toHash,
        MessageRecord.waitsFor ackHash record = false)
    (newState : DeliveryState) :
    messages.markDeliveryByAckHash toHash ackHash newState =
      (messages, false) := by
  have same :=
    Search.updateFirst_of_none (MessageRecord.settled newState) noneWaits
  have noWaiting :
      (messages toHash).any (MessageRecord.waitsFor ackHash) = false := by
    simpa using noneWaits
  simp [markDeliveryByAckHash, same, noWaiting]

end Messages

end MeshCadet
