import MeshCadet.InboundDms
import MeshCadet.UiDms

namespace MeshCadet

/-!
# Contacts with the same hash

A message names its sender and its recipient by one byte.  Of contacts with the
same first byte the one added first is found, so only its messages are decrypted
with the right key, and messages to the others are encrypted for it.
-/

/-- A contact's message is read with the contact's key and gives it the contact's
permission. -/
def ReceivedAs
    (crypto : Crypto)
    (identity : Identity)
    (policy : PolicyFilter)
    (contact : PolicyContact)
    (timestamp : UInt32)
    (attempt : UInt8)
    (text : List UInt8) :
    Prop :=
  readInboundDm crypto identity policy
      (contactDmPayload crypto identity contact.pubkey timestamp attempt
        text) =
    some
      { sender := contact.pubkey
        mayPullTelemetry := contact.telemetry
        srcHash := contact.hash
        timestamp := timestamp
        text := text.takeWhile fun byte => byte ≠ 0
        ackHash :=
          computeAckHash crypto timestamp (attempt &&& 0x03)
            (text.takeWhile fun byte => byte ≠ 0) contact.pubkey }

/-- A message to the contact's hash is encrypted for the contact, unless the
region lets nothing out. -/
def SentTo
    (crypto : Crypto)
    (identity : Identity)
    (policy : PolicyFilter)
    (contact : PolicyContact)
    (scope : RegionScope)
    (txEpochBase : UInt32)
    (nowMs : Nat)
    (text : List UInt8) :
    Prop :=
  match sendDm crypto identity policy scope txEpochBase nowMs contact.hash
      text with
  | .queued recipient built =>
      recipient = contact.pubkey ∧
        packetPayloadView built.frame =
          some
            (PayloadType.txtMsg.toU8,
              encodeDmPayload crypto
                (identity.ecdhSharedSecret crypto contact.pubkey)
                contact.hash (pubHash identity.pubkey)
                (encodeTxtMsgPlaintext (txTimestamp txEpochBase nowMs) 0 0
                  (text.take maxUiMsgBytes)))
  | .suppressed _ => regionEmission scope = none
  | .encodingFailed => False
  | .unknownContact => False

/-- Who is found under its hash is received as itself. -/
theorem receivedAs_of_find
    {crypto : Crypto}
    (inverse : crypto.DecryptsEncrypted)
    (identity : Identity)
    {policy : PolicyFilter}
    {contact : PolicyContact}
    (found : policy.find contact.hash = some contact)
    (timestamp : UInt32)
    (attempt : UInt8)
    (text : List UInt8) :
    ReceivedAs crypto identity policy contact timestamp attempt text := by
  have source :
      sourceHash
          (contactDmPayload crypto identity contact.pubkey timestamp
            attempt text) =
        contact.hash :=
    rfl
  have allowed := PolicyFilter.allowInboundDm_of_find found
  have sender :
      policy.contactPubkey contact.hash = some contact.pubkey := by
    simp [PolicyFilter.contactPubkey, found]
  have permission :
      policy.telemetryEnabled contact.hash = contact.telemetry := by
    simp [PolicyFilter.telemetryEnabled, found]
  have decoded :
      decodeDmPayload crypto
          (identity.ecdhSharedSecret crypto contact.pubkey)
          (contactDmPayload crypto identity contact.pubkey timestamp
            attempt text) =
        .ok (pubHash identity.pubkey, pubHash contact.pubkey,
          Blocks.padded 16
            (encodeTxtMsgPlaintext timestamp 0 attempt text)) :=
    decodeDmPayload_encode inverse _ _ _ _
  simp only [ReceivedAs, readInboundDm, source, allowed, sender, decoded,
    if_true, readChat_padded, permission]

/-- Only who is found under its hash is received as itself. -/
theorem find_of_receivedAs
    {crypto : Crypto}
    {identity : Identity}
    {policy : PolicyFilter}
    {contact : PolicyContact}
    {timestamp : UInt32}
    {attempt : UInt8}
    {text : List UInt8}
    (received :
      ReceivedAs crypto identity policy contact timestamp attempt text) :
    policy.contactPubkey contact.hash = some contact.pubkey := by
  have source :
      sourceHash
          (contactDmPayload crypto identity contact.pubkey timestamp
            attempt text) =
        contact.hash :=
    rfl
  unfold ReceivedAs readInboundDm at received
  rw [source] at received
  split at received
  · cases isSender : policy.contactPubkey contact.hash with
    | none => simp [isSender] at received
    | some sender =>
        simp only [isSender] at received
        split at received
        · cases received
        · split at received
          · unfold readChat at received
            split at received
            · cases received
            · split at received
              · rw [Option.some_inj] at received
                exact congrArg some (congrArg InboundDm.sender received)
              · cases received
          · cases received
  · cases received

/-- Messages to who is found under its hash are encrypted for it. -/
theorem sentTo_of_find
    (crypto : Crypto)
    (identity : Identity)
    {policy : PolicyFilter}
    {contact : PolicyContact}
    (found : policy.find contact.hash = some contact)
    (scope : RegionScope)
    (txEpochBase : UInt32)
    (nowMs : Nat)
    (text : List UInt8) :
    SentTo crypto identity policy contact scope txEpochBase nowMs text := by
  have recipient :
      policy.contactPubkey contact.hash = some contact.pubkey := by
    simp [PolicyFilter.contactPubkey, found]
  unfold SentTo sendDm
  rw [recipient]
  cases isEmission : regionEmission scope with
  | none => simp [buildUiDm_eq]
  | some emission =>
      simp [buildUiDm_eq, packetPayloadView_assemble, uiDmPayload]

/-- A contact's messages are read with its own key and permission, and messages
to it are encrypted under its own key, exactly when no contact added before it
has the same hash. -/
theorem contact_resolved_iff
    {crypto : Crypto}
    (inverse : crypto.DecryptsEncrypted)
    (identity : Identity)
    {earlier later : List PolicyContact}
    {contact : PolicyContact}
    (fit :
      (earlier ++ contact :: later).length ≤ maxPolicyContacts)
    (distinct :
      ((earlier ++ contact :: later).map PolicyContact.pubkey).Nodup)
    (timestamp : UInt32)
    (attempt : UInt8)
    (text : List UInt8)
    (scope : RegionScope)
    (txEpochBase : UInt32)
    (nowMs : Nat)
    (draft : List UInt8) :
    (ReceivedAs crypto identity
          (PolicyFilter.new.addContacts (earlier ++ contact :: later))
          contact timestamp attempt text ∧
        SentTo crypto identity
          (PolicyFilter.new.addContacts (earlier ++ contact :: later))
          contact scope txEpochBase nowMs draft) ↔
      ∀ other ∈ earlier, other.hash ≠ contact.hash := by
  rw [← PolicyFilter.find_addContacts_iff fit distinct]
  constructor
  · rintro ⟨received, -⟩
    have sender := find_of_receivedAs received
    obtain ⟨found, isFound, samePubkey⟩ :=
      Option.map_eq_some_iff.mp sender
    -- the contact found has the same key, so it is the same contact
    have member : found ∈ earlier ++ contact :: later := by
      rw [← PolicyFilter.elements_new_addContacts fit]
      exact List.mem_of_find?_eq_some isFound
    have same : found = contact :=
      List.inj_on_of_nodup_map distinct member (by simp) samePubkey
    rw [isFound, same]
  · intro found
    exact ⟨receivedAs_of_find inverse identity found timestamp attempt text,
      sentTo_of_find crypto identity found scope txEpochBase nowMs draft⟩

/-- The primitives on a message with the text `hi` of either contact. -/
def contactMessages : CryptoRecord :=
  { ciphers :=
      [(Crypto.aesKey RecordedKeys.anaSecret,
          RecordedKeys.hiPlaintext,
          RecordedKeys.anaHiCiphertext),
        (Crypto.aesKey RecordedKeys.boSecret,
          RecordedKeys.hiPlaintext,
          #v[0x76, 0x80, 0xB6, 0xEE, 0x5A, 0xC5, 0x74, 0x7D, 0x1B, 0xE3,
            0xA1, 0x45, 0x77, 0xAC, 0xE4, 0xDC])]
    codes :=
      [(RecordedKeys.anaSecret.toList,
          RecordedKeys.anaHiCiphertext.toList,
          RecordedKeys.anaHiCode),
        (RecordedKeys.boSecret.toList,
          [0x76, 0x80, 0xB6, 0xEE, 0x5A, 0xC5, 0x74, 0x7D, 0x1B, 0xE3,
            0xA1, 0x45, 0x77, 0xAC, 0xE4, 0xDC],
          #v[0x4A, 0xA0, 0xD1, 0x3F, 0x3E, 0x43, 0x05, 0xB9, 0x60, 0x0A,
            0x5B, 0xBB, 0x91, 0x5D, 0x43, 0x65, 0xBF, 0x9C, 0x2B, 0x26,
            0x34, 0x3D, 0xAB, 0xC3, 0xB3, 0x93, 0x46, 0x4D, 0x0B, 0xC5,
            0x78, 0x6C]),
        (RecordedKeys.anaSecret.toList,
          [0x76, 0x80, 0xB6, 0xEE, 0x5A, 0xC5, 0x74, 0x7D, 0x1B, 0xE3,
            0xA1, 0x45, 0x77, 0xAC, 0xE4, 0xDC],
          #v[0x17, 0x00, 0x84, 0xF6, 0xEE, 0xA8, 0xB7, 0x36, 0x8F, 0x22,
            0x9F, 0x43, 0x0B, 0x0A, 0x3B, 0x34, 0xFF, 0x38, 0xB1, 0x1C,
            0x9E, 0x79, 0xA4, 0x42, 0xC1, 0xC8, 0xF2, 0x16, 0x95, 0xD9,
            0xC6, 0x11])]
    digests :=
      [([0x01, 0x02, 0x03, 0x64, 0x00, 0x68, 0x69, 0x0B, 0x51, 0x3A, 0xD9,
          0xB4, 0x92, 0x40, 0x15, 0xCA, 0x09, 0x02, 0xED, 0x07, 0x90, 0x44,
          0xD3, 0xAC, 0x5D, 0xBE, 0xC2, 0x30, 0x6F, 0x06, 0x94, 0x8C, 0x10,
          0xDA, 0x8E, 0xB6, 0xE3, 0x9F, 0x2D],
          #v[0x47, 0xBF, 0x7C, 0xBF, 0x21, 0x5A, 0x13, 0xA3, 0x29, 0x4A,
            0x1F, 0x57, 0x5F, 0xF0, 0x6B, 0xB6, 0x22, 0x0B, 0xD6, 0x9D,
            0xE2, 0xCF, 0xBF, 0x6A, 0x43, 0x18, 0xDA, 0xFC, 0x91, 0x7D,
            0xE3, 0x20]),
        ([0x01, 0x02, 0x03, 0x64, 0x00, 0x68, 0x69, 0x8A, 0x88, 0xE3, 0xDD,
          0x74, 0x09, 0xF1, 0x95, 0xFD, 0x52, 0xDB, 0x2D, 0x3C, 0xBA, 0x5D,
          0x72, 0xCA, 0x67, 0x09, 0xBF, 0x1D, 0x94, 0x12, 0x1B, 0xF3, 0x74,
          0x88, 0x01, 0xB4, 0x0F, 0x6F, 0x5C],
          RecordedKeys.deviceHiDigest)]
    agreements := RecordedKeys.agreements }

/-- The first contact. -/
def ana : PolicyContact :=
  { pubkey := RecordedKeys.anaPubkey
    telemetry := true }

/-- A contact whose hash is the first contact's. -/
def bo : PolicyContact :=
  { pubkey := RecordedKeys.boPubkey
    telemetry := false }

/-- The contact that was added first is resolved. -/
theorem contact_resolved_first :
    (ReceivedAs contactMessages.crypto RecordedKeys.device
          (PolicyFilter.new.addContacts ([] ++ ana :: [bo])) ana
          0x64030201 0 [0x68, 0x69] ∧
        SentTo contactMessages.crypto RecordedKeys.device
          (PolicyFilter.new.addContacts ([] ++ ana :: [bo])) ana .unscoped
          0x64030201 0 [0x68, 0x69]) ↔
      ∀ other ∈ ([] : List PolicyContact), other.hash ≠ ana.hash :=
  contact_resolved_iff contactMessages.decryptsEncrypted
    RecordedKeys.device (by decide) (by decide) 0x64030201 0 [0x68, 0x69]
    .unscoped 0x64030201 0 [0x68, 0x69]

/-- The message of a contact added later with the same hash is not read, and a
message to it is encrypted for the first. -/
theorem sameHash_unresolved :
    ana.pubkey ≠ bo.pubkey ∧
      ana.hash = bo.hash ∧
      readInboundDm contactMessages.crypto RecordedKeys.device
          (PolicyFilter.new.addContacts [ana, bo])
          (contactDmPayload contactMessages.crypto RecordedKeys.device
            bo.pubkey 0x64030201 0 [0x68, 0x69]) =
        none ∧
      (∃ built,
        sendDm contactMessages.crypto RecordedKeys.device
            (PolicyFilter.new.addContacts [ana, bo]) .unscoped 0x64030201
            0 bo.hash [0x68, 0x69] =
          .queued ana.pubkey built) ∧
      ¬ReceivedAs contactMessages.crypto RecordedKeys.device
        (PolicyFilter.new.addContacts [ana, bo]) bo 0x64030201 0
        [0x68, 0x69] := by
  have unread :
      readInboundDm contactMessages.crypto RecordedKeys.device
          (PolicyFilter.new.addContacts [ana, bo])
          (contactDmPayload contactMessages.crypto RecordedKeys.device
            bo.pubkey 0x64030201 0 [0x68, 0x69]) =
        none := by
    decide +kernel
  refine ⟨by decide, by decide, unread, ⟨_, rfl⟩, ?_⟩
  intro received
  rw [ReceivedAs, unread] at received
  cases received

end MeshCadet
