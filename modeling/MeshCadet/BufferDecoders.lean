import MeshCadet.Outcome
import MeshCadet.RoomSession

namespace MeshCadet

/-!
# Decoders over fixed buffers

The decoders of login replies and room pushes decrypt into buffers that their
callers fix, and decryption writes as many bytes as the ciphertext has.  Every
index, slice and copy can panic here; where none does, the result is that of the
decoders over byte strings.
-/

open Outcome

/-- Decrypt block after block into a buffer. -/
def decryptLoop
    {Failure : Type}
    (crypto : Crypto)
    (key : Vector UInt8 16)
    (ciphertext : List UInt8) :
    Nat → Nat → List UInt8 → Outcome Failure (List UInt8)
  | 0, _, out => pure out
  | remaining + 1, i, out => do
      let source ← slice ciphertext (i * 16) ((i + 1) * 16)
      let block ← copyFromSlice 16 source
      let out ← write out (i * 16) (crypto.decryptBlock key block).toList
      decryptLoop crypto key ciphertext remaining (i + 1) out

/-- Decrypt into a buffer; returns it and the number of plaintext bytes. -/
def aes128EcbDecryptInto
    {Failure : Type}
    (crypto : Crypto)
    (key : Vector UInt8 16)
    (ciphertext out : List UInt8) :
    Outcome Failure (List UInt8 × Nat) := do
  let out ←
    decryptLoop crypto key ciphertext (ciphertext.length / 16) 0 out
  pure (out, ciphertext.length)

/-- Check the code in front of the ciphertext, then decrypt into a buffer. -/
def macThenDecryptInto
    (crypto : Crypto)
    (key : Vector UInt8 16)
    (hmacKey payload out : List UInt8) :
    Outcome Unit (List UInt8 × Nat) :=
  if payload.length < 2 then
    .failed ()
  else do
    let mac ← slice payload 0 2
    let ciphertext ← slice payload 2 payload.length
    if ciphertext.length % 16 ≠ 0 then
      .failed ()
    else if mac ≠ (crypto.hmacSha256_2 hmacKey ciphertext).toList then
      .failed ()
    else
      aes128EcbDecryptInto crypto key ciphertext out

/-- Decode the envelope of a direct message into a buffer. -/
def decodeDmPayloadInto
    (crypto : Crypto)
    (secret : Key)
    (payload out : List UInt8) :
    Outcome CodecError (UInt8 × UInt8 × List UInt8 × Nat) :=
  if payload.length < 4 then
    .failed .truncatedPayload
  else do
    let destHash ← index payload 0
    let srcHash ← index payload 1
    let macAndCiphertext ← slice payload 2 payload.length
    if macAndCiphertext.length < 2 ∨
        (macAndCiphertext.length - 2) % 16 ≠ 0 then
      .failed .misalignedCiphertext
    else do
      let (out, ptLen) ←
        (macThenDecryptInto crypto (Crypto.aesKey secret) secret.toList
          macAndCiphertext out).mapFailure fun _ => .macMismatch
      pure (destHash, srcHash, out, ptLen)

/-- Decode the fields in front of the text, out of a buffer. -/
def decodeTxtMsgPlaintextIn
    (plaintext : List UInt8)
    (ptLen : Nat) :
    Outcome CodecError TxtMsgFields :=
  if ptLen < 5 then
    .failed .truncatedPayload
  else do
    let timestamp ← wordAt plaintext 0 4
    let typeByte ← index plaintext 4
    pure
      { timestamp := timestamp
        txtType := .fromByte (typeByte >>> 2)
        attempt := typeByte &&& 0x03
        textOffset := 5 }

/-- Decode the reply to a login, out of a slice of a buffer. -/
def decodeLoginResponseIn
    (plaintext : List UInt8) :
    Outcome RoomCodecError LoginResponse :=
  if plaintext.length < 13 then
    .failed .truncatedPayload
  else do
    let serverTs ← wordAt plaintext 0 4
    let code ← index plaintext 4
    let roleCode ← index plaintext 6
    let permissions ← index plaintext 7
    let firmwareVerLevel ← index plaintext 12
    if code ≠ 0 then
      .failed (.loginRejected code)
    else
      pure
        { serverTs := serverTs
          code := code
          roleCode := roleCode
          permissions := .fromU8 permissions
          firmwareVerLevel := firmwareVerLevel }

/-- Decode what follows the path of a path return, out of a buffer. -/
def decodePathExtraIn
    (plaintext : List UInt8)
    (ptLen extraOffset : Nat) :
    Outcome CodecError PathExtra := do
  let extraByte ← index plaintext extraOffset
  let extraType := extraByte &&& 0x0F
  if extraType = 0x03 then
    if ptLen < extraOffset + 1 + 4 then
      .failed .truncatedPayload
    else do
      let hash ←
        arrayAt 4 plaintext (extraOffset + 1) (extraOffset + 5)
      pure (.ack hash)
  else if extraType = 0x01 then
    if ptLen < extraOffset + 1 + 13 then
      .failed .truncatedPayload
    else do
      let bundled ←
        arrayAt 13 plaintext (extraOffset + 1) (extraOffset + 14)
      pure (.response bundled)
  else
    pure .none

/-- Decode the plaintext of a path return, out of a buffer. -/
def decodePathReturnPlaintextIn
    (plaintext : List UInt8)
    (ptLen : Nat) :
    Outcome CodecError ReturnPath :=
  if ptLen < 2 then
    .failed .truncatedPayload
  else do
    let pathLenByte ← index plaintext 0
    let pathLen : PathLen := { byte := pathLenByte }
    if ¬ pathLen.isValid then
      .failed .invalidPathLen
    else if ptLen < 1 + pathLen.pathBytes + 1 then
      .failed .truncatedPayload
    else do
      let source ← slice plaintext 1 (1 + pathLen.pathBytes)
      let path ← write (List.replicate maxPathSize 0) 0 source
      let path ← copyFromSlice maxPathSize path
      let extra ←
        decodePathExtraIn plaintext ptLen (1 + pathLen.pathBytes)
      pure
        { pathLenByte := pathLenByte
          path := path
          pathByteCount := pathLen.pathBytes
          extra := extra }

/-- Bytes of the buffer a login reply datagram is decrypted into. -/
def loginResponseBuf : Nat :=
  32

/-- Bytes of the buffer a path return or a push is decrypted into. -/
def plaintextBuf : Nat :=
  256

/-- Decode a login reply sent as a datagram. -/
def decodeLoginResponseDatagramIn
    (crypto : Crypto)
    (secret : Key)
    (payload : List UInt8) :
    Outcome RoomSessionError RoomLoginOutcome := do
  let (_, _, pt, ptLen) ←
    (decodeDmPayloadInto crypto secret payload
      (List.replicate loginResponseBuf 0)).mapFailure .codec
  let plaintext ← slice pt 0 ptLen
  let response ← (decodeLoginResponseIn plaintext).mapFailure .room
  pure
    { permissions := response.permissions
      outPath := none
      serverTs := response.serverTs }

/-- Decode a login reply bundled in a path return. -/
def decodeLoginPathReturnIn
    (crypto : Crypto)
    (secret : Key)
    (payload : List UInt8) :
    Outcome RoomSessionError RoomLoginOutcome := do
  let (_, _, pt, ptLen) ←
    (decodeDmPayloadInto crypto secret payload
      (List.replicate plaintextBuf 0)).mapFailure .codec
  let returned ← (decodePathReturnPlaintextIn pt ptLen).mapFailure .codec
  match returned.extra with
  | .response bundled => do
      let response ←
        (decodeLoginResponseIn bundled.toList).mapFailure .room
      pure
        { permissions := response.permissions
          outPath := some (returned.path, returned.pathByteCount)
          serverTs := response.serverTs }
  | _ => .failed .notLoginReply

/-- Decode a room push into the caller's buffer. -/
def decodeRoomPushIn
    (crypto : Crypto)
    (secret : Key)
    (payload plaintextBuf : List UInt8) :
    Outcome RoomCodecError (UInt8 × UInt8 × RoomPush) := do
  let (destHash, srcHash, pt, ptLen) ←
    (decodeDmPayloadInto crypto secret payload
      plaintextBuf).mapFailure .codec
  let fields ← (decodeTxtMsgPlaintextIn pt ptLen).mapFailure .codec
  if fields.txtType ≠ .signedPlain then
    .failed .notSignedPlain
  else if ptLen < fields.textOffset + 4 then
    .failed .truncatedPayload
  else do
    let authorPubkeyPrefix ←
      arrayAt 4 pt fields.textOffset (fields.textOffset + 4)
    let textOffset := fields.textOffset + 4
    let rawTextLen := ptLen - textOffset
    let rawText ← slice pt textOffset (textOffset + rawTextLen)
    pure
      (destHash, srcHash,
        { postTs := fields.timestamp
          attempt := fields.attempt
          authorPubkeyPrefix := authorPubkeyPrefix
          text := rawText.takeWhile fun byte => byte ≠ 0 })

section Decryption

variable {Failure : Type} {crypto : Crypto} {key : Vector UInt8 16}
variable {ciphertext : List UInt8}

/-- The bytes of a block inside the ciphertext. -/
theorem slice_block
    {blockCount i : Nat}
    (whole : ciphertext.length = 16 * blockCount)
    (inside : i < blockCount) :
    (do
      let source ← slice ciphertext (i * 16) ((i + 1) * 16)
      copyFromSlice 16 source : Outcome Failure (Vector UInt8 16)) =
      .value (Blocks.block 16 ciphertext i) := by
  have fits : (i + 1) * 16 ≤ ciphertext.length := by omega
  have sliced :
      (do
        let source ← slice ciphertext (i * 16) ((i + 1) * 16)
        copyFromSlice 16 source : Outcome Failure (Vector UInt8 16)) =
        arrayAt 16 ciphertext (i * 16) ((i + 1) * 16) := rfl
  have isBlock :
      fieldAt 16 ciphertext (i * 16) = Blocks.block 16 ciphertext i := by
    apply Vector.ext
    intro place before
    simp [fieldAt, Blocks.block, Nat.mul_comm]
  rw [sliced, arrayAt_eq fits (Nat.succ_mul i 16), isBlock]

/--
Decryption goes on while the buffer has room for another block, and panics at
the first block that does not fit.
-/
theorem decryptLoop_eq
    {blockCount : Nat}
    (whole : ciphertext.length = 16 * blockCount)
    {out : List UInt8}
    {remaining done : Nat}
    (split : done + remaining = blockCount)
    (fits : 16 * done ≤ out.length) :
    (decryptLoop crypto key ciphertext remaining done
        (Blocks.join
            (fun index =>
              crypto.decryptBlock key (Blocks.block 16 ciphertext index))
            done ++
          out.drop (16 * done)) : Outcome Failure (List UInt8)) =
      if 16 * blockCount ≤ out.length then
        .value
          (Blocks.join
              (fun index =>
                crypto.decryptBlock key (Blocks.block 16 ciphertext index))
              blockCount ++
            out.drop (16 * blockCount))
      else
        .panicked := by
  induction remaining generalizing done with
  | zero =>
      have isDone : done = blockCount := by omega
      subst isDone
      rw [if_pos fits]
      rfl
  | succ remaining inductionHypothesis =>
      let plain : Nat → Vector UInt8 16 := fun index =>
        crypto.decryptBlock key (Blocks.block 16 ciphertext index)
      have inCiphertext : done < blockCount := by omega
      have source :=
        @slice_block Failure ciphertext blockCount done whole inCiphertext
      have filled : (Blocks.join plain done).length = done * 16 := by
        simp [Nat.mul_comm]
      have started : done * 16 = 16 * done := Nat.mul_comm done 16
      have blockLength : (plain done).toList.length = 16 :=
        Vector.length_toList
      rw [decryptLoop, ← bind_assoc, source, value_bind, ← started, ← filled]
      by_cases room : 16 * (done + 1) ≤ out.length
      · have inside :
            (Blocks.join plain done).length + (plain done).toList.length ≤
              out.length := by
          omega
        have next :
            (Blocks.join plain done).length + (plain done).toList.length =
              16 * (done + 1) := by
          omega
        rw [write_behind inside, value_bind, next]
        exact inductionHypothesis (by omega) room
      · have filledFits : (Blocks.join plain done).length ≤ out.length := by
          omega
        have past :
            out.length <
              (Blocks.join plain done).length +
                (plain done).toList.length := by
          omega
        rw [write_past filledFits past, panicked_bind, if_neg (by omega)]

/--
Decryption of whole blocks fills the front of the buffer with the plaintext, or
panics if the buffer is shorter.
-/
theorem aes128EcbDecryptInto_eq
    (aligned : ciphertext.length % 16 = 0)
    (out : List UInt8) :
    (aes128EcbDecryptInto crypto key ciphertext out :
        Outcome Failure (List UInt8 × Nat)) =
      if ciphertext.length ≤ out.length then
        .value
          (crypto.aes128EcbDecrypt key ciphertext ++
              out.drop ciphertext.length,
            ciphertext.length)
      else
        .panicked := by
  have whole : ciphertext.length = 16 * (ciphertext.length / 16) := by
    omega
  have count : Blocks.count 16 ciphertext = ciphertext.length / 16 := by
    rw [Blocks.count]
    omega
  have decrypted :=
    @decryptLoop_eq Failure crypto key ciphertext _ whole out
      (ciphertext.length / 16) 0 (Nat.zero_add _) (Nat.zero_le _)
  rw [Blocks.join, List.nil_append, Nat.mul_zero, List.drop_zero, ← whole]
    at decrypted
  rw [aes128EcbDecryptInto, decrypted]
  by_cases fits : ciphertext.length ≤ out.length
  · rw [if_pos fits, if_pos fits, value_bind, Crypto.aes128EcbDecrypt,
      Blocks.mapBlocks, count]
    rfl
  · rw [if_neg fits, if_neg fits]
    rfl

/-- Checking and decrypting into a buffer fails on a wrong code. -/
theorem macThenDecryptInto_eq
    (hmacKey payload out : List UInt8) :
    macThenDecryptInto crypto key hmacKey payload out =
      match crypto.macThenDecrypt key hmacKey payload with
      | none => .failed ()
      | some plaintext =>
          if plaintext.length ≤ out.length then
            .value
              (plaintext ++ out.drop plaintext.length, plaintext.length)
          else
            .panicked := by
  rw [macThenDecryptInto, Crypto.macThenDecrypt, Crypto.macMatches]
  by_cases short : payload.length < 2
  · simp [short, Nat.not_le_of_lt short]
  · have long : 2 ≤ payload.length := Nat.le_of_not_lt short
    have rest : (payload.drop 2).take (payload.length - 2) =
        payload.drop 2 := by
      rw [← List.length_drop]
      exact List.take_length
    rw [if_neg short, slice_eq (Nat.zero_le _) long, value_bind,
      slice_eq long (Nat.le_refl _), value_bind, rest]
    simp only [List.drop_zero, Nat.sub_zero, decide_eq_true long,
      Bool.true_and]
    by_cases aligned : (payload.drop 2).length % 16 = 0
    · by_cases isCode :
          payload.take 2 =
            (crypto.hmacSha256_2 hmacKey (payload.drop 2)).toList
      · have length :
            (crypto.aes128EcbDecrypt key (payload.drop 2)).length =
              (payload.drop 2).length := by
          rw [Crypto.aes128EcbDecrypt, Blocks.length_mapBlocks,
            Blocks.count]
          omega
        have accepted :
            ((payload.drop 2).length % 16 == 0 &&
              payload.take 2 ==
                (crypto.hmacSha256_2 hmacKey (payload.drop 2)).toList) =
              true := by
          rw [aligned, isCode]
          simp
        rw [if_neg (not_not_intro aligned), if_neg (not_not_intro isCode),
          accepted, if_pos rfl, aes128EcbDecryptInto_eq aligned]
        simp only [length]
      · have refused :
            ((payload.drop 2).length % 16 == 0 &&
              payload.take 2 ==
                (crypto.hmacSha256_2 hmacKey (payload.drop 2)).toList) =
              false := by
          simp [isCode]
        rw [if_neg (not_not_intro aligned), if_pos isCode, refused]
        rfl
    · have refused :
          ((payload.drop 2).length % 16 == 0 &&
            payload.take 2 ==
              (crypto.hmacSha256_2 hmacKey (payload.drop 2)).toList) =
            false := by
        rw [beq_eq_false_iff_ne.mpr aligned, Bool.false_and]
      rw [if_pos aligned, refused]
      rfl

/-- Bytes of plaintext that a direct message decrypts to. -/
theorem length_of_decodeDmPayload
    {secret : Key}
    {payload plaintext : List UInt8}
    {destHash srcHash : UInt8}
    (decoded :
      decodeDmPayload crypto secret payload =
        .ok (destHash, srcHash, plaintext)) :
    plaintext.length = (payload.drop 4).length := by
  match payload with
  | [] => cases decoded
  | [_] => cases decoded
  | first :: second :: rest =>
      rw [decodeDmPayload] at decoded
      by_cases short : rest.length < 2
      · rw [if_pos short] at decoded
        cases decoded
      · by_cases aligned : (rest.length - 2) % 16 = 0
        · rw [if_neg short, if_neg (not_not_intro aligned),
            Crypto.macThenDecrypt] at decoded
          split at decoded
          · rename_i isPlain
            split at isPlain
            · cases isPlain
              cases decoded
              rw [Crypto.aes128EcbDecrypt, Blocks.length_mapBlocks,
                Blocks.count]
              simp only [List.length_drop, List.length_cons]
              omega
            · cases isPlain
          · cases decoded
        · rw [if_neg short, if_pos aligned] at decoded
          cases decoded

/-- The envelope is decoded as before, if the plaintext fits the buffer. -/
theorem decodeDmPayloadInto_eq
    (secret : Key)
    (payload out : List UInt8) :
    decodeDmPayloadInto crypto secret payload out =
      match decodeDmPayload crypto secret payload with
      | .error problem => .failed problem
      | .ok (destHash, srcHash, plaintext) =>
          if plaintext.length ≤ out.length then
            .value
              (destHash, srcHash, plaintext ++ out.drop plaintext.length,
                plaintext.length)
          else
            .panicked := by
  match payload with
  | [] => rfl
  | [_] => rfl
  | destHash :: srcHash :: rest =>
      have behind :
          (slice (destHash :: srcHash :: rest) 2
              (destHash :: srcHash :: rest).length :
            Outcome CodecError (List UInt8)) =
            .value rest := by
        rw [slice_eq (by simp) (Nat.le_refl _)]
        simp
      by_cases short : rest.length < 2
      · have tooShort : (destHash :: srcHash :: rest).length < 4 := by
          simp
          omega
        rw [decodeDmPayloadInto, if_pos tooShort]
        simp [decodeDmPayload, short]
      · have long : ¬ (destHash :: srcHash :: rest).length < 4 := by
          simp
          omega
        rw [decodeDmPayloadInto, if_neg long]
        rw [index_getD (by simp), value_bind, index_getD (by simp),
          value_bind, behind, value_bind]
        by_cases aligned : (rest.length - 2) % 16 = 0
        · rw [if_neg (by omega), macThenDecryptInto_eq]
          simp only [decodeDmPayload, if_neg short,
            if_neg (not_not_intro aligned)]
          cases crypto.macThenDecrypt (Crypto.aesKey secret) secret.toList
              rest with
          | none => rfl
          | some plaintext =>
              by_cases fits : plaintext.length ≤ out.length
              · simp only [if_pos fits]
                rfl
              · simp only [if_neg fits]
                rfl
        · rw [if_pos (.inr aligned)]
          simp [decodeDmPayload, short, aligned]

end Decryption

section Plaintext

variable {plaintext : List UInt8}

/-- The bytes of a plaintext at the front of a buffer. -/
theorem index_front
    {Failure : Type}
    {place : Nat}
    (inside : place < plaintext.length)
    (rest : List UInt8) :
    (index (plaintext ++ rest) place : Outcome Failure UInt8) =
      .value (plaintext.getD place 0) := by
  rw [index_getD (by rw [List.length_append]; omega),
    List.getD_append _ _ _ _ inside]

/-- A field of a plaintext at the front of a buffer. -/
theorem arrayAt_front
    {Failure : Type}
    {length start stop : Nat}
    (inside : stop ≤ plaintext.length)
    (rest : List UInt8)
    (isStop : stop = start + length) :
    (arrayAt length (plaintext ++ rest) start stop :
        Outcome Failure (Vector UInt8 length)) =
      .value (Bytes.zeroPadded length (plaintext.drop start)) := by
  have inBuffer : stop ≤ (plaintext ++ rest).length := by
    rw [List.length_append]
    omega
  rw [arrayAt_eq inBuffer isStop, fieldAt_append (by omega),
    zeroPadded_drop]

/-- The timestamp of a plaintext at the front of a buffer. -/
theorem wordAt_front
    {Failure : Type}
    (inside : 4 ≤ plaintext.length)
    (rest : List UInt8) :
    (wordAt (plaintext ++ rest) 0 4 : Outcome Failure UInt32) =
      .value (leadingTimestamp plaintext) := by
  have inBuffer : 4 ≤ (plaintext ++ rest).length := by
    rw [List.length_append]
    omega
  have bytes :
      fieldAt 4 plaintext 0 =
        #v[plaintext.getD 0 0, plaintext.getD 1 0, plaintext.getD 2 0,
          plaintext.getD 3 0] := by
    apply Vector.ext
    intro place inside
    match place, inside with
    | 0, _ => rfl
    | 1, _ => rfl
    | 2, _ => rfl
    | 3, _ => rfl
  rw [wordAt_eq inBuffer rfl, fieldAt_append inside, bytes]
  rfl

theorem decodeTxtMsgPlaintextIn_eq
    (rest : List UInt8) :
    decodeTxtMsgPlaintextIn (plaintext ++ rest) plaintext.length =
      ofExcept (decodeTxtMsgPlaintext plaintext) := by
  rw [decodeTxtMsgPlaintextIn, decodeTxtMsgPlaintext]
  by_cases short : plaintext.length < 5
  · rw [if_pos short, if_pos short]
    rfl
  · rw [if_neg short, if_neg short, wordAt_front (by omega), value_bind,
      index_front (by omega), value_bind]
    rfl

theorem decodeLoginResponseIn_eq
    (plaintext : List UInt8) :
    decodeLoginResponseIn plaintext =
      ofExcept (decodeLoginResponse plaintext) := by
  rw [decodeLoginResponseIn, decodeLoginResponse]
  by_cases short : plaintext.length < 13
  · rw [if_pos short, if_pos short]
    rfl
  · have word :=
      @wordAt_front plaintext RoomCodecError (by omega) []
    rw [List.append_nil] at word
    rw [if_neg short, if_neg short, word, value_bind,
      index_getD (by omega), value_bind, index_getD (by omega), value_bind,
      index_getD (by omega), value_bind, index_getD (by omega), value_bind]
    by_cases rejected : plaintext.getD 4 0 ≠ 0
    · rw [if_pos rejected, if_pos rejected]
      rfl
    · rw [if_neg rejected, if_neg rejected]
      rfl

theorem decodePathExtraIn_eq
    {extraOffset : Nat}
    (inside : extraOffset < plaintext.length)
    (rest : List UInt8) :
    decodePathExtraIn (plaintext ++ rest) plaintext.length extraOffset =
      ofExcept (decodePathExtra plaintext extraOffset) := by
  rw [decodePathExtraIn, decodePathExtra, index_front inside, value_bind]
  by_cases isAck : plaintext.getD extraOffset 0 &&& 0x0F = 0x03
  · simp only [if_pos isAck]
    by_cases short : plaintext.length < extraOffset + 1 + 4
    · rw [if_pos short, if_pos short]
      rfl
    · rw [if_neg short, if_neg short, arrayAt_front (by omega) _ rfl,
        value_bind]
      rfl
  · simp only [if_neg isAck]
    by_cases isResponse : plaintext.getD extraOffset 0 &&& 0x0F = 0x01
    · simp only [if_pos isResponse]
      by_cases short : plaintext.length < extraOffset + 1 + 13
      · rw [if_pos short, if_pos short]
        rfl
      · rw [if_neg short, if_neg short, arrayAt_front (by omega) _ rfl,
          value_bind]
        rfl
    · simp only [if_neg isResponse]
      rfl

theorem decodePathReturnPlaintextIn_eq
    (rest : List UInt8) :
    decodePathReturnPlaintextIn (plaintext ++ rest) plaintext.length =
      ofExcept (decodePathReturnPlaintext plaintext) := by
  rw [decodePathReturnPlaintextIn, decodePathReturnPlaintext]
  by_cases short : plaintext.length < 2
  · rw [if_pos short, if_pos short]
    rfl
  rw [if_neg short, if_neg short, index_front (by omega), value_bind]
  have sameByte :
      ({ byte := plaintext.getD 0 0 } : PathLen) =
        leadingPathLen plaintext := rfl
  simp only [sameByte]
  by_cases isValid : (leadingPathLen plaintext).isValid = true
  swap
  · rw [if_pos isValid, if_pos isValid]
    rfl
  rw [if_neg (not_not_intro isValid), if_neg (not_not_intro isValid)]
  by_cases truncated :
      plaintext.length < 1 + (leadingPathLen plaintext).pathBytes + 1
  · rw [if_pos truncated, if_pos truncated]
    rfl
  rw [if_neg truncated, if_neg truncated]
  have pathFits : (leadingPathLen plaintext).pathBytes ≤ maxPathSize := by
    have both := isValid
    rw [PathLen.isValid, Bool.and_eq_true, decide_eq_true_eq,
      decide_eq_true_eq] at both
    exact both.2
  have inBuffer :
      1 + (leadingPathLen plaintext).pathBytes ≤
        (plaintext ++ rest).length := by
    rw [List.length_append]
    omega
  have sliced :
      ((plaintext ++ rest).drop 1).take
          (1 + (leadingPathLen plaintext).pathBytes - 1) =
        (plaintext.drop 1).take (leadingPathLen plaintext).pathBytes := by
    rw [Nat.add_sub_cancel_left, List.drop_append_of_le_length (by omega),
      List.take_append_of_le_length (by rw [List.length_drop]; omega)]
  have copied :=
    @zeroed_copy CodecError maxPathSize
      ((plaintext.drop 1).take (leadingPathLen plaintext).pathBytes)
      (Nat.le_trans (List.length_take_le _ _) pathFits)
  rw [slice_eq (Nat.le_add_right _ _) inBuffer, value_bind, sliced,
    ← bind_assoc, copied, value_bind, decodePathExtraIn_eq (by omega)]
  cases decodePathExtra plaintext
      (1 + (leadingPathLen plaintext).pathBytes) with
  | error problem => rfl
  | ok extra => rfl

end Plaintext

/--
A payload with the right code whose ciphertext is longer than the buffer it is
decrypted into.
-/
def Overruns
    (crypto : Crypto)
    (secret : Key)
    (payload : List UInt8)
    (bufferLen : Nat) :
    Prop :=
  Authenticates crypto secret payload ∧
    bufferLen < (payload.drop 4).length

section Decoders

variable {crypto : Crypto} {secret : Key} {payload out : List UInt8}

/-- A payload that overruns the buffer makes decryption panic. -/
theorem decodeDmPayloadInto_overruns
    (overruns : Overruns crypto secret payload out.length) :
    decodeDmPayloadInto crypto secret payload out = .panicked := by
  obtain ⟨⟨destHash, srcHash, plaintext⟩, decoded⟩ :=
    decodeDmPayload_ok_iff.mpr overruns.1
  have length := length_of_decodeDmPayload decoded
  have past : ¬ plaintext.length ≤ out.length := by
    rw [length]
    exact Nat.not_le_of_lt overruns.2
  rw [decodeDmPayloadInto_eq, decoded]
  exact if_neg past

/-- Any other payload is decoded to the front of the buffer, or refused. -/
theorem decodeDmPayloadInto_fits
    (fits : ¬ Overruns crypto secret payload out.length) :
    (∃ problem,
      decodeDmPayload crypto secret payload = .error problem ∧
        decodeDmPayloadInto crypto secret payload out = .failed problem) ∨
      ∃ destHash srcHash plaintext,
        decodeDmPayload crypto secret payload =
            .ok (destHash, srcHash, plaintext) ∧
          decodeDmPayloadInto crypto secret payload out =
            .value
              (destHash, srcHash, plaintext ++ out.drop plaintext.length,
                plaintext.length) := by
  rw [decodeDmPayloadInto_eq]
  cases decoded : decodeDmPayload crypto secret payload with
  | error problem =>
      exact .inl ⟨problem, rfl, rfl⟩
  | ok message =>
      obtain ⟨destHash, srcHash, plaintext⟩ := message
      have length := length_of_decodeDmPayload decoded
      have authentic : Authenticates crypto secret payload :=
        decodeDmPayload_ok_iff.mp ⟨_, decoded⟩
      have inside : plaintext.length ≤ out.length := by
        by_contra past
        exact fits ⟨authentic, length ▸ Nat.lt_of_not_le past⟩
      exact .inr ⟨destHash, srcHash, plaintext, rfl, if_pos inside⟩

theorem decodeLoginResponseDatagramIn_eq
    (fits : ¬ Overruns crypto secret payload loginResponseBuf) :
    decodeLoginResponseDatagramIn crypto secret payload =
      ofExcept (decodeLoginResponseDatagram crypto secret payload) := by
  have buffer :
      (List.replicate loginResponseBuf (0 : UInt8)).length =
        loginResponseBuf := List.length_replicate
  rw [← buffer] at fits
  rw [decodeLoginResponseDatagramIn, decodeLoginResponseDatagram]
  rcases decodeDmPayloadInto_fits fits with
    ⟨problem, refused, isFailed⟩ |
      ⟨destHash, srcHash, plaintext, decoded, isValue⟩
  · rw [isFailed, refused]
    rfl
  · have front :
        (slice
            (plaintext ++
              (List.replicate loginResponseBuf (0 : UInt8)).drop
                plaintext.length)
            0 plaintext.length :
          Outcome RoomSessionError (List UInt8)) =
          .value plaintext := by
      rw [slice_eq (Nat.zero_le _) (by simp)]
      simp
    rw [isValue, decoded, mapFailure_value, value_bind]
    simp only
    rw [front, value_bind, decodeLoginResponseIn_eq]
    cases decodeLoginResponse plaintext <;> rfl

/-- A path return is decoded out of the plaintext of its envelope. -/
theorem decodePathReturn_eq
    {destHash srcHash : UInt8}
    {plaintext : List UInt8}
    (decoded :
      decodeDmPayload crypto secret payload =
        .ok (destHash, srcHash, plaintext)) :
    decodePathReturn crypto secret payload =
      (decodePathReturnPlaintext plaintext).map fun returned =>
        (destHash, srcHash, returned) := by
  cases parsed : decodePathReturnPlaintext plaintext <;>
    simp [decodePathReturn, decoded, parsed, Bind.bind, Except.bind, pure,
      Except.pure, Except.map]

theorem decodeLoginPathReturnIn_eq
    (fits : ¬ Overruns crypto secret payload plaintextBuf) :
    decodeLoginPathReturnIn crypto secret payload =
      ofExcept (decodeLoginPathReturn crypto secret payload) := by
  have buffer :
      (List.replicate plaintextBuf (0 : UInt8)).length = plaintextBuf :=
    List.length_replicate
  rw [← buffer] at fits
  rw [decodeLoginPathReturnIn, decodeLoginPathReturn]
  rcases decodeDmPayloadInto_fits fits with
    ⟨problem, refused, isFailed⟩ |
      ⟨destHash, srcHash, plaintext, decoded, isValue⟩
  · rw [isFailed, decodePathReturn, refused]
    rfl
  · rw [isValue, decodePathReturn_eq decoded, mapFailure_value, value_bind]
    simp only
    rw [decodePathReturnPlaintextIn_eq]
    cases decodePathReturnPlaintext plaintext with
    | error problem =>
        rfl
    | ok returned =>
        simp only [Outcome.ofExcept, mapFailure_value, value_bind,
          Except.map]
        cases returned.extra with
        | ack hash =>
            rfl
        | none =>
            rfl
        | response bundled =>
            simp only
            rw [decodeLoginResponseIn_eq]
            cases decodeLoginResponse bundled.toList <;> rfl

theorem decodeRoomPushIn_eq
    (fits : ¬ Overruns crypto secret payload out.length) :
    decodeRoomPushIn crypto secret payload out =
      ofExcept (decodeRoomPush crypto secret payload) := by
  rw [decodeRoomPushIn, decodeRoomPush]
  rcases decodeDmPayloadInto_fits fits with
    ⟨problem, refused, isFailed⟩ |
      ⟨destHash, srcHash, plaintext, decoded, isValue⟩
  · rw [isFailed, refused]
    rfl
  rw [isValue, decoded, mapFailure_value, value_bind]
  simp only
  rw [decodeTxtMsgPlaintextIn_eq, decodeRoomPushPlaintext]
  cases fieldsOf : decodeTxtMsgPlaintext plaintext with
  | error problem =>
      rfl
  | ok fields =>
      simp only [Outcome.ofExcept, mapFailure_value, value_bind]
      by_cases otherType : fields.txtType ≠ .signedPlain
      · rw [if_pos otherType, if_pos otherType]
        rfl
      rw [if_neg otherType, if_neg otherType]
      by_cases truncated : plaintext.length < fields.textOffset + 4
      · rw [if_pos truncated, if_pos truncated]
        rfl
      have inside : fields.textOffset + 4 ≤ plaintext.length :=
        Nat.le_of_not_lt truncated
      have whole :
          fields.textOffset + 4 +
              (plaintext.length - (fields.textOffset + 4)) =
            plaintext.length :=
        Nat.add_sub_cancel' inside
      have inBuffer :
          plaintext.length ≤
            (plaintext ++ out.drop plaintext.length).length := by
        rw [List.length_append]
        omega
      have text :
          ((plaintext ++ out.drop plaintext.length).drop
              (fields.textOffset + 4)).take
              (plaintext.length - (fields.textOffset + 4)) =
            plaintext.drop (fields.textOffset + 4) := by
        rw [List.drop_append_of_le_length inside,
          ← List.length_drop, List.take_left]
      rw [if_neg truncated, if_neg truncated, arrayAt_front inside _ rfl,
        value_bind, whole, slice_eq inside inBuffer, value_bind, text]
      rfl

/-- A decoder panics when its payload overruns the buffer. -/
theorem decodeLoginResponseDatagramIn_overruns
    (overruns : Overruns crypto secret payload loginResponseBuf) :
    decodeLoginResponseDatagramIn crypto secret payload = .panicked := by
  have buffer :
      (List.replicate loginResponseBuf (0 : UInt8)).length =
        loginResponseBuf := List.length_replicate
  rw [← buffer] at overruns
  rw [decodeLoginResponseDatagramIn, decodeDmPayloadInto_overruns overruns]
  rfl

theorem decodeLoginPathReturnIn_overruns
    (overruns : Overruns crypto secret payload plaintextBuf) :
    decodeLoginPathReturnIn crypto secret payload = .panicked := by
  have buffer :
      (List.replicate plaintextBuf (0 : UInt8)).length = plaintextBuf :=
    List.length_replicate
  rw [← buffer] at overruns
  rw [decodeLoginPathReturnIn, decodeDmPayloadInto_overruns overruns]
  rfl

theorem decodeRoomPushIn_overruns
    (overruns : Overruns crypto secret payload out.length) :
    decodeRoomPushIn crypto secret payload out = .panicked := by
  rw [decodeRoomPushIn, decodeDmPayloadInto_overruns overruns]
  rfl

/-- A decoder that follows one over byte strings panics on overruns only. -/
theorem ne_panicked_iff
    {Failure Value : Type}
    {checked : Outcome Failure Value}
    {decoded : Except Failure Value}
    {overruns : Prop}
    (agrees : ¬ overruns → checked = ofExcept decoded)
    (panics : overruns → checked = .panicked) :
    checked ≠ .panicked ↔ ¬ overruns := by
  constructor
  · intro returns isOverrun
    exact returns (panics isOverrun)
  · intro fits
    rw [agrees fits]
    exact ofExcept_ne_panicked decoded

end Decoders

/--
The decoders return a value or an error exactly if the payload's code is wrong
or its ciphertext fits the buffer it is decrypted into.
-/
theorem decoders_return_iff
    (crypto : Crypto)
    (secret : Key)
    (payload : List UInt8) :
    (decodeLoginResponseDatagramIn crypto secret payload ≠ .panicked ↔
      ¬ Overruns crypto secret payload loginResponseBuf) ∧
      (decodeLoginPathReturnIn crypto secret payload ≠ .panicked ↔
        ¬ Overruns crypto secret payload plaintextBuf) ∧
      ∀ buffer,
        (decodeRoomPushIn crypto secret payload buffer ≠ .panicked ↔
          ¬ Overruns crypto secret payload buffer.length) :=
  ⟨ne_panicked_iff decodeLoginResponseDatagramIn_eq
      decodeLoginResponseDatagramIn_overruns,
    ne_panicked_iff decodeLoginPathReturnIn_eq
      decodeLoginPathReturnIn_overruns,
    fun _ => ne_panicked_iff decodeRoomPushIn_eq decodeRoomPushIn_overruns⟩

/--
A login reply of three blocks under the shared secret panics: the buffer of the
datagram decoder holds two.
-/
theorem long_loginReply_panics :
    decodeLoginResponseDatagramIn (CryptoRecord.crypto ⟨[], [], [], []⟩)
        (Vector.replicate 32 0)
        (encodeDmPayload (CryptoRecord.crypto ⟨[], [], [], []⟩)
          (Vector.replicate 32 0) 1 2 (List.replicate 48 0)) =
      .panicked := by
  have decoded :=
    decodeDmPayload_encode (CryptoRecord.decryptsEncrypted ⟨[], [], [], []⟩)
      (Vector.replicate 32 0) 1 2 (List.replicate 48 0)
  refine decodeLoginResponseDatagramIn_overruns
    ⟨decodeDmPayload_ok_iff.mp ⟨_, decoded⟩, ?_⟩
  rw [← length_of_decodeDmPayload decoded]
  decide

end MeshCadet
