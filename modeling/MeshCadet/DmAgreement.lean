import MeshCadet.ContactCollisions
import MeshCadet.UiDms

namespace MeshCadet

/-!
# Sender and recipient of a direct message

Both sides hold the same secret.  The recipient reads back the sender's timestamp,
type and text, and computes the acknowledgement hash the sender waits for.  The
two-byte code covers the ciphertext only: a changed code or ciphertext needs the
code of another ciphertext, and the routing hashes are read as they come.
-/

/-- The byte of flags of a type and an attempt. -/
def txtFlags
    (txtType attempt : UInt8) :
    UInt8 :=
  (txtType <<< 2) ||| (attempt &&& 0x03)

/-- The payload of a text message under a secret. -/
def txtMsgPayload
    (crypto : Crypto)
    (secret : Key)
    (destHash srcHash : UInt8)
    (timestamp : UInt32)
    (txtType attempt : UInt8)
    (text : List UInt8) :
    List UInt8 :=
  encodeDmPayload crypto secret destHash srcHash
    (encodeTxtMsgPlaintext timestamp txtType attempt text)

/-- The ciphertext of a payload. -/
def dmCiphertext
    (payload : List UInt8) :
    List UInt8 :=
  payload.drop 4

/-- The code of a payload. -/
def dmCode
    (payload : List UInt8) :
    List UInt8 :=
  (payload.drop 2).take 2

/-- Padding to whole blocks adds fewer zeros than a block has. -/
theorem padded_sixteen
    (bytes : List UInt8) :
    ∃ padding,
      padding < 16 ∧
        Blocks.padded 16 bytes = bytes ++ List.replicate padding 0 := by
  refine ⟨_, ?_, Blocks.padded_eq_append (by decide) bytes⟩
  have blocks := Nat.div_add_mod (bytes.length + 16 - 1) 16
  simp only [Blocks.count]
  omega

/-- A payload that decodes carries the code of its own ciphertext. -/
theorem code_of_decoded
    {crypto : Crypto}
    {secret : Key}
    {payload : List UInt8}
    (decodes :
      ∃ decoded, decodeDmPayload crypto secret payload = .ok decoded) :
    dmCode payload =
      (crypto.hmacSha256_2 secret.toList (dmCiphertext payload)).toList := by
  have authentic := decodeDmPayload_ok_iff.mp decodes
  simp only [Authenticates, Crypto.macMatches, Bool.and_eq_true,
    List.drop_drop, beq_iff_eq] at authentic
  exact authentic.2

/-- A payload that starts with two hashes is the hashes, the code and the
ciphertext. -/
theorem dmPayload_split
    (payload : List UInt8) :
    payload.drop 2 = dmCode payload ++ dmCiphertext payload := by
  rw [dmCode, dmCiphertext, show 4 = 2 + 2 from rfl, ← List.drop_drop,
    List.take_append_drop]

/-- A code that decodes determines that the ciphertext was changed too. -/
theorem ciphertext_ne_of_changed
    {crypto : Crypto}
    {secret : Key}
    {original changed : List UInt8}
    (originalDecodes :
      ∃ decoded, decodeDmPayload crypto secret original = .ok decoded)
    (decodes :
      ∃ decoded, decodeDmPayload crypto secret changed = .ok decoded)
    (isChanged : changed.drop 2 ≠ original.drop 2) :
    dmCiphertext changed ≠ dmCiphertext original := by
  intro sameCiphertext
  apply isChanged
  rw [dmPayload_split, dmPayload_split original,
    code_of_decoded decodes, code_of_decoded originalDecodes,
    sameCiphertext]

/-- The routing hashes of a payload are read as they come. -/
theorem decodeDmPayload_cons
    (crypto : Crypto)
    (secret : Key)
    (destHash srcHash : UInt8)
    (rest : List UInt8) :
    decodeDmPayload crypto secret (destHash :: srcHash :: rest) =
      (decodeDmPayload crypto secret (0 :: 0 :: rest)).map fun decoded =>
        (destHash, srcHash, decoded.2.2) := by
  simp only [decodeDmPayload]
  split
  · rfl
  · split
    · rfl
    · split <;> simp [Except.map]

/-- What the recipient reads names its own hash, and decodes under the secret
shared with the contact behind the source. -/
theorem readInboundDm_some
    {crypto : Crypto}
    {receiver : Identity}
    {policy : PolicyFilter}
    {destHash srcHash : UInt8}
    {rest : List UInt8}
    {message : InboundDm}
    (read :
      readInboundDm crypto receiver policy (destHash :: srcHash :: rest) =
        some message) :
    destHash = pubHash receiver.pubkey ∧
      ∃ contact,
        policy.contactPubkey srcHash = some contact ∧
          ∃ decoded,
            decodeDmPayload crypto
                (receiver.ecdhSharedSecret crypto contact)
                (destHash :: srcHash :: rest) =
              .ok decoded := by
  have source : sourceHash (destHash :: srcHash :: rest) = srcHash := rfl
  unfold readInboundDm at read
  rw [source] at read
  split at read
  · cases isContact : policy.contactPubkey srcHash with
    | none =>
        simp [isContact] at read
    | some contact =>
        simp only [isContact] at read
        rw [decodeDmPayload_cons] at read
        cases decoded :
            decodeDmPayload crypto
              (receiver.ecdhSharedSecret crypto contact)
              (0 :: 0 :: rest) with
        | error reason =>
            simp [decoded, Except.map] at read
        | ok fields =>
            simp only [decoded, Except.map] at read
            split at read
            · next toUs =>
              refine ⟨toUs, contact, rfl, (destHash, srcHash, fields.2.2), ?_⟩
              rw [decodeDmPayload_cons, decoded]
              rfl
            · cases read
  · cases read

/-- A message of a contact is read as it was written. -/
theorem readInboundDm_txtMsg
    {crypto : Crypto}
    (inverse : crypto.DecryptsEncrypted)
    {receiver : Identity}
    {policy : PolicyFilter}
    {sender secret : Key}
    {srcHash : UInt8}
    (isContact : policy.contactPubkey srcHash = some sender)
    (shared : receiver.ecdhSharedSecret crypto sender = secret)
    (timestamp : UInt32)
    {txtType : UInt8}
    (sixBits : txtType < 64)
    (isText : (TxtType.fromByte txtType).isText = true)
    (attempt : UInt8)
    {text : List UInt8}
    (noZero : ∀ byte ∈ text, byte ≠ 0) :
    readInboundDm crypto receiver policy
        (txtMsgPayload crypto secret (pubHash receiver.pubkey) srcHash
          timestamp txtType attempt text) =
      some
        { sender := sender
          mayPullTelemetry := policy.telemetryEnabled srcHash
          srcHash := srcHash
          timestamp := timestamp
          text := text
          ackHash :=
            computeAckHash crypto timestamp (txtFlags txtType attempt) text
              sender } := by
  subst shared
  have source :
      sourceHash
          (txtMsgPayload crypto (receiver.ecdhSharedSecret crypto sender)
            (pubHash receiver.pubkey) srcHash timestamp txtType attempt
            text) =
        srcHash :=
    rfl
  obtain ⟨contact, found, isSender⟩ := Option.map_eq_some_iff.mp isContact
  have allowed : policy.allowInboundDm srcHash = true :=
    PolicyFilter.allowInboundDm_of_find found
  have decoded :
      decodeDmPayload crypto (receiver.ecdhSharedSecret crypto sender)
          (txtMsgPayload crypto (receiver.ecdhSharedSecret crypto sender)
            (pubHash receiver.pubkey) srcHash timestamp txtType attempt
            text) =
        .ok (pubHash receiver.pubkey, srcHash,
          Blocks.padded 16
            (encodeTxtMsgPlaintext timestamp txtType attempt text)) :=
    decodeDmPayload_encode inverse _ _ _ _
  simp only [readInboundDm, source, allowed, isContact, decoded, if_true,
    readChat_encode crypto policy sender srcHash timestamp sixBits isText,
    takeWhile_noZero noZero, txtFlags]

/-- The recipient computes the hash the sender waits for. -/
theorem buildUiDm_ack_agreement
    {crypto : Crypto}
    (inverse : crypto.DecryptsEncrypted)
    {sender receiver : Identity}
    {policy : PolicyFilter}
    (isContact :
      policy.contactPubkey (pubHash sender.pubkey) = some sender.pubkey)
    (shared :
      receiver.ecdhSharedSecret crypto sender.pubkey =
        sender.ecdhSharedSecret crypto receiver.pubkey)
    {txEpochBase : UInt32}
    {nowMs : Nat}
    {draft : List UInt8}
    (noZero : ∀ byte ∈ draft, byte ≠ 0)
    {scope : Option (Vector UInt8 16)}
    {built : BuiltDm}
    (isBuilt :
      buildUiDm crypto txEpochBase nowMs sender receiver.pubkey
          (pubHash receiver.pubkey) draft scope =
        some built) :
    ∃ payload message,
      packetPayloadView built.frame =
          some (PayloadType.txtMsg.toU8, payload) ∧
        readInboundDm crypto receiver policy payload = some message ∧
        message.timestamp = txTimestamp txEpochBase nowMs ∧
        message.text = draft.take maxUiMsgBytes ∧
        message.ackHash = built.ackHash := by
  rw [buildUiDm_eq, Option.some_inj] at isBuilt
  subst isBuilt
  refine ⟨_, _, packetPayloadView_assemble crypto scope .txtMsg _,
    readInboundDm_txtMsg inverse isContact shared _
      (show (0 : UInt8) < 64 by decide) rfl 0
      (fun byte member => noZero byte (List.mem_of_mem_take member)),
    rfl, rfl, ?_⟩
  rw [show txtFlags 0 0 = 0 from rfl]

/--
Between parties with a shared secret a text message decodes to its plaintext and
fewer than sixteen zeros, and is read with its timestamp, type and text and with
the acknowledgement hash its sender waits for.  A payload with a changed code or
ciphertext decodes only with the code of another ciphertext, which collides with
the original one if the code was kept.  The routing hashes are outside the code:
a payload with other ones still decodes, but is read only by the device it then
names, and only if the secret shared with the contact it then names gives the
ciphertext the same code.
-/
theorem dm_round_trip_and_ack_agreement
    {crypto : Crypto}
    (inverse : crypto.DecryptsEncrypted)
    (secret : Key)
    (destHash srcHash : UInt8)
    (timestamp : UInt32)
    {txtType : UInt8}
    (sixBits : txtType < 64)
    (attempt : UInt8)
    {text : List UInt8}
    (noZero : ∀ byte ∈ text, byte ≠ 0) :
    let plaintext := encodeTxtMsgPlaintext timestamp txtType attempt text
    let payload :=
      txtMsgPayload crypto secret destHash srcHash timestamp txtType
        attempt text
    (∃ received padding,
      decodeDmPayload crypto secret payload =
          .ok (destHash, srcHash, received) ∧
        received = plaintext ++ List.replicate padding 0 ∧
        padding < 16 ∧
        decodeTxtMsgPlaintext received =
          .ok
            { timestamp := timestamp
              txtType := .fromByte txtType
              attempt := attempt &&& 0x03
              textOffset := 5 } ∧
        (received.drop 5).takeWhile (fun byte => byte ≠ 0) = text ∧
        received.getD 4 0 = txtFlags txtType attempt) ∧
      (∀ receiver policy sender,
        policy.contactPubkey srcHash = some sender →
        receiver.ecdhSharedSecret crypto sender = secret →
        destHash = pubHash receiver.pubkey →
        (TxtType.fromByte txtType).isText = true →
          ∃ message,
            readInboundDm crypto receiver policy payload = some message ∧
              message.timestamp = timestamp ∧
              message.text = text ∧
              message.ackHash =
                computeAckHash crypto timestamp
                  (txtFlags txtType attempt) text sender) ∧
      (∀ sender receiver policy txEpochBase nowMs draft scope built,
        policy.contactPubkey (pubHash sender.pubkey) =
            some sender.pubkey →
        receiver.ecdhSharedSecret crypto sender.pubkey =
            sender.ecdhSharedSecret crypto receiver.pubkey →
        (∀ byte ∈ draft, byte ≠ 0) →
        buildUiDm crypto txEpochBase nowMs sender receiver.pubkey
            (pubHash receiver.pubkey) draft scope =
          some built →
          ∃ uiPayload message,
            packetPayloadView built.frame =
                some (PayloadType.txtMsg.toU8, uiPayload) ∧
              readInboundDm crypto receiver policy uiPayload =
                some message ∧
              message.timestamp = txTimestamp txEpochBase nowMs ∧
              message.text = draft.take maxUiMsgBytes ∧
              message.ackHash = built.ackHash) ∧
      (∀ changed,
        (∃ decoded,
          decodeDmPayload crypto secret changed = .ok decoded) →
        changed.drop 2 ≠ payload.drop 2 →
          dmCiphertext changed ≠ dmCiphertext payload ∧
            dmCode changed =
              (crypto.hmacSha256_2 secret.toList
                (dmCiphertext changed)).toList ∧
            (dmCode changed = dmCode payload →
              crypto.hmacSha256_2 secret.toList (dmCiphertext changed) =
                crypto.hmacSha256_2 secret.toList
                  (dmCiphertext payload))) ∧
      (∀ otherDest otherSrc,
        (∃ received,
          decodeDmPayload crypto secret
              (otherDest :: otherSrc :: payload.drop 2) =
            .ok (otherDest, otherSrc, received)) ∧
          ∀ receiver policy message,
            readInboundDm crypto receiver policy
                (otherDest :: otherSrc :: payload.drop 2) =
              some message →
              otherDest = pubHash receiver.pubkey ∧
                ∃ contact,
                  policy.contactPubkey otherSrc = some contact ∧
                    crypto.hmacSha256_2
                        (receiver.ecdhSharedSecret crypto contact).toList
                        (dmCiphertext payload) =
                      crypto.hmacSha256_2 secret.toList
                        (dmCiphertext payload)) := by
  intro plaintext payload
  obtain ⟨padding, few, padded⟩ := padded_sixteen plaintext
  have decoded :
      decodeDmPayload crypto secret payload =
        .ok (destHash, srcHash, Blocks.padded 16 plaintext) :=
    decodeDmPayload_encode inverse _ _ _ _
  have ownCode :
      dmCode payload =
        (crypto.hmacSha256_2 secret.toList (dmCiphertext payload)).toList :=
    code_of_decoded ⟨_, decoded⟩
  refine ⟨⟨_, padding, decoded, padded, few,
    decodeTxtMsgPlaintext_encode timestamp sixBits attempt text, ?_,
    flags_encode timestamp txtType attempt text⟩, ?_, ?_, ?_, ?_⟩
  · rw [text_encode, takeWhile_noZero noZero]
  · rintro receiver policy sender isContact shared rfl isText
    exact ⟨_, readInboundDm_txtMsg inverse isContact shared timestamp
      sixBits isText attempt noZero, rfl, rfl, rfl⟩
  · intro sender receiver policy txEpochBase nowMs draft scope built
      isContact shared draftNoZero isBuilt
    exact buildUiDm_ack_agreement inverse isContact shared draftNoZero
      isBuilt
  · intro changed decodes isChanged
    have changedCode := code_of_decoded decodes
    refine ⟨ciphertext_ne_of_changed ⟨_, decoded⟩ decodes isChanged,
      changedCode, ?_⟩
    intro codeKept
    rw [changedCode, ownCode] at codeKept
    exact Vector.toList_inj.mp codeKept
  · intro otherDest otherSrc
    have isSplit : payload = destHash :: srcHash :: payload.drop 2 := rfl
    refine ⟨?_, ?_⟩
    · rw [isSplit, decodeDmPayload_cons] at decoded
      rw [decodeDmPayload_cons]
      cases rest :
          decodeDmPayload crypto secret (0 :: 0 :: payload.drop 2) with
      | error reason =>
          rw [rest] at decoded
          cases decoded
      | ok fields =>
          exact ⟨_, rfl⟩
    · intro receiver policy message read
      obtain ⟨toUs, contact, isContact, decodes⟩ :=
        readInboundDm_some read
      refine ⟨toUs, contact, isContact, ?_⟩
      have sameCode := code_of_decoded decodes
      have unchanged :
          dmCode (otherDest :: otherSrc :: payload.drop 2) =
            dmCode payload :=
        rfl
      rw [unchanged, ownCode] at sameCode
      exact (Vector.toList_inj.mp sameCode).symm

/-- The message `hi` arrives, and its text and hash are read back. -/
theorem hi_arrives :
    ∃ message,
      readInboundDm contactMessages.crypto RecordedKeys.device
          (PolicyFilter.new.addContacts [ana])
          (txtMsgPayload contactMessages.crypto RecordedKeys.anaSecret
            0x8A 0x0B 0x64030201 0 0 [0x68, 0x69]) =
        some message ∧
        message.text = [0x68, 0x69] := by
  have agreement :=
    dm_round_trip_and_ack_agreement contactMessages.decryptsEncrypted
      RecordedKeys.anaSecret 0x8A 0x0B 0x64030201
      (show (0 : UInt8) < 64 by decide) 0
      (show ∀ byte ∈ ([0x68, 0x69] : List UInt8), byte ≠ 0 by simp)
  obtain ⟨message, isRead, -, isText, -⟩ :=
    agreement.2.1 RecordedKeys.device
      (PolicyFilter.new.addContacts [ana]) RecordedKeys.anaPubkey
      (by decide +kernel) (by decide +kernel) (by decide +kernel) rfl
  exact ⟨message, isRead, isText⟩

/--
A payload with a changed destination decodes although its ciphertext is the
original one: no other ciphertext with its code is needed.
-/
theorem changed_destination_decodes :
    ¬ ∀ (crypto : Crypto),
      crypto.DecryptsEncrypted →
      ∀ secret destHash srcHash timestamp txtType attempt text changed,
        (∀ byte ∈ text, byte ≠ (0 : UInt8)) →
        (∃ decoded,
          decodeDmPayload crypto secret changed = .ok decoded) →
        changed ≠
            txtMsgPayload crypto secret destHash srcHash timestamp txtType
              attempt text →
          dmCiphertext changed ≠
            dmCiphertext
              (txtMsgPayload crypto secret destHash srcHash timestamp
                txtType attempt text) := by
  intro protects
  have decoded :=
    decodeDmPayload_encode contactMessages.decryptsEncrypted
      RecordedKeys.anaSecret 0x8B 0x0B
      (encodeTxtMsgPlaintext 0x64030201 0 0 [0x68, 0x69])
  exact
    protects contactMessages.crypto contactMessages.decryptsEncrypted
      RecordedKeys.anaSecret 0x8A 0x0B 0x64030201 0 0 [0x68, 0x69]
      (txtMsgPayload contactMessages.crypto RecordedKeys.anaSecret 0x8B
        0x0B 0x64030201 0 0 [0x68, 0x69])
      (by decide +kernel) ⟨_, decoded⟩
      (by
        intro same
        cases congrArg List.head? same)
      rfl

end MeshCadet
