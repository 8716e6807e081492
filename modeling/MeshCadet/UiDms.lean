import MeshCadet.ContactPolicy
import MeshCadet.DmCodec
import MeshCadet.FloodFrames
import MeshCadet.TxQueue

namespace MeshCadet

/-!
# Direct messages sent from the interface

A message is stamped with the second of uptime it was sent in, cut to what fits a
frame, encrypted for the contact and flooded.  The acknowledgement it waits for is
a hash of what was encrypted and of the sender's key.
-/

/-- Bytes of text a message carries. -/
def maxUiMsgBytes : Nat :=
  120

/-- The second of uptime, behind the base chosen at boot. -/
def txTimestamp
    (txEpochBase : UInt32)
    (nowMs : Nat) :
    UInt32 :=
  txEpochBase + UInt32.ofNat (nowMs / 1000)

/-- A frame and the acknowledgement it waits for. -/
structure BuiltDm where
  frame : List UInt8
  ackHash : AckHash
deriving Repr, DecidableEq

/-- The payload of a message to a contact. -/
def uiDmPayload
    (crypto : Crypto)
    (txEpochBase : UInt32)
    (nowMs : Nat)
    (sender : Identity)
    (destPubkey : Key)
    (destHash : UInt8)
    (text : List UInt8) :
    List UInt8 :=
  encodeDmPayload crypto (sender.ecdhSharedSecret crypto destPubkey)
    destHash (pubHash sender.pubkey)
    (encodeTxtMsgPlaintext (txTimestamp txEpochBase nowMs) 0 0
      (text.take maxUiMsgBytes))

/-- Build the frame of a message and the acknowledgement it waits for. -/
def buildUiDm
    (crypto : Crypto)
    (txEpochBase : UInt32)
    (nowMs : Nat)
    (sender : Identity)
    (destPubkey : Key)
    (destHash : UInt8)
    (text : List UInt8)
    (scope : Option (Vector UInt8 16)) :
    Option BuiltDm :=
  (PathLen.new 2 0).map fun pathLen =>
    { frame :=
        assembleFloodFrame crypto scope .txtMsg pathLen
          (uiDmPayload crypto txEpochBase nowMs sender destPubkey destHash
            text)
      ackHash :=
        computeAckHash crypto (txTimestamp txEpochBase nowMs) 0
          (text.take maxUiMsgBytes) sender.pubkey }

/-- What the dispatcher does with a message of the interface. -/
inductive SendDmResult where
  | unknownContact
  | suppressed (ackHash : AckHash)
  | encodingFailed
  | queued (recipient : Key) (built : BuiltDm)
deriving Repr, DecidableEq

/-- Send a message of the interface to the contact behind a hash. -/
def sendDm
    (crypto : Crypto)
    (identity : Identity)
    (policy : PolicyFilter)
    (scope : RegionScope)
    (txEpochBase : UInt32)
    (nowMs : Nat)
    (toHash : UInt8)
    (text : List UInt8) :
    SendDmResult :=
  match policy.contactPubkey toHash with
  | none => .unknownContact
  | some recipient =>
      match regionEmission scope with
      | none =>
          match buildUiDm crypto txEpochBase nowMs identity recipient toHash
              text none with
          | some built => .suppressed built.ackHash
          | none => .encodingFailed
      | some emission =>
          match buildUiDm crypto txEpochBase nowMs identity recipient toHash
              text emission with
          | some built => .queued recipient built
          | none => .encodingFailed

/-- The frame of a message is always built. -/
theorem buildUiDm_eq
    (crypto : Crypto)
    (txEpochBase : UInt32)
    (nowMs : Nat)
    (sender : Identity)
    (destPubkey : Key)
    (destHash : UInt8)
    (text : List UInt8)
    (scope : Option (Vector UInt8 16)) :
    buildUiDm crypto txEpochBase nowMs sender destPubkey destHash text
        scope =
      some
        { frame :=
            assembleFloodFrame crypto scope .txtMsg zeroHops
              (uiDmPayload crypto txEpochBase nowMs sender destPubkey
                destHash text)
          ackHash :=
            computeAckHash crypto (txTimestamp txEpochBase nowMs) 0
              (text.take maxUiMsgBytes) sender.pubkey } := by
  rw [buildUiDm, zeroHops_new, Option.map_some]

end MeshCadet
