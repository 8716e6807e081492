import MeshCadet.BufferFills
import MeshCadet.RoomFrames

namespace MeshCadet

/-!
# Buffers of the frames for a room server

Each frame is assembled in a buffer whose length is a constant, summed by hand
from the parts of the largest frame.  The sums for a login and for a keep-alive
hold; the one for a post leaves out the two bytes of the code, so that the last
block of a scoped post does not fit.
-/

open Outcome BufferFills

/-- Bytes of the codes of a scoped frame. -/
def transportCodeBytes : Nat :=
  4

/-- The buffer of a login. -/
def maxLoginFrameLen : Nat :=
  2 + transportCodeBytes + 1 + 32 + 2 + 32

/-- The buffer of a post. -/
def maxPostFrameLen : Nat :=
  2 + transportCodeBytes + 2 + ((6 + maxPostTextLen + 1) / 16 + 1) * 16

/-- The buffer of a keep-alive. -/
def maxKeepAliveFrameLen : Nat :=
  2 + maxPathSize + 20

section Writers

variable (crypto : Crypto)

/-- Encrypt the first blocks into a buffer. -/
def writeBlocks
    (key : Vector UInt8 16)
    (plaintext : List UInt8) :
    Nat → List UInt8 → Outcome Empty (List UInt8)
  | 0, out => .value out
  | i + 1, out => do
      let out ← writeBlocks key plaintext i out
      write out (16 * i)
        (crypto.encryptBlock key (Blocks.block 16 plaintext i)).toList

/-- Encrypt zero-padded blocks into a buffer. -/
def aes128EcbEncryptInto
    (key : Vector UInt8 16)
    (plaintext : List UInt8) :
    Writer Empty :=
  fun out => do
    let nblocks := Blocks.count 16 plaintext
    let out ← writeBlocks crypto key plaintext nblocks out
    pure (out, 16 * nblocks)

/-- Encrypt into a buffer, and put the code of the ciphertext in front. -/
def encryptThenMacInto
    (key : Vector UInt8 16)
    (hmacKey plaintext : List UInt8) :
    Writer Empty :=
  fun out => do
    let ctLen := 16 * Blocks.count 16 plaintext
    let encrypted ←
      onTail 2 (aes128EcbEncryptInto crypto key plaintext) out
    let ciphertext ← slice encrypted.1 2 (2 + ctLen)
    let mac := crypto.hmacSha256_2 hmacKey ciphertext
    let out ← write encrypted.1 0 [mac.getD 0 0]
    let out ← write out 1 [mac.getD 1 0]
    pure (out, 2 + ctLen)

/-- Encode a direct message into a buffer. -/
def encodeDmPayloadInto
    (secret : Key)
    (destHash srcHash : UInt8)
    (plaintext : List UInt8) :
    Writer Empty :=
  fun out => do
    let out ← write out 0 [destHash]
    let out ← write out 1 [srcHash]
    let written ←
      onTail 2
        (encryptThenMacInto crypto (Crypto.aesKey secret) secret.toList
          plaintext)
        out
    pure (written.1, 2 + written.2)

/-- Encode a login into a buffer. -/
def encodeAnonReqLoginInto
    (secret : Key)
    (destHash : UInt8)
    (senderPubkey : Key)
    (timestamp syncSince : UInt32)
    (password : List UInt8) :
    Writer Empty :=
  fun out => do
    let pt := List.replicate (8 + maxLoginPasswordLen) 0
    let pt ← write pt 0 (Bytes.u32ToLeBytes timestamp).toList
    let pt ← write pt 4 (Bytes.u32ToLeBytes syncSince).toList
    let pwLen := min password.length (maxLoginPasswordLen - 1)
    let cut ← slice password 0 pwLen
    let pt ← write pt 8 cut
    let plaintext ← slice pt 0 (8 + pwLen + 1)
    let out ← write out 0 [destHash]
    let out ← write out 1 senderPubkey.toList
    let written ←
      onTail anonReqHeaderLen
        (encryptThenMacInto crypto (Crypto.aesKey secret) secret.toList
          plaintext)
        out
    pure (written.1, anonReqHeaderLen + written.2)

/-- Encode a post into a buffer. -/
def encodeRoomPostInto
    (secret : Key)
    (destHash srcHash : UInt8)
    (timestamp : UInt32)
    (attempt : UInt8)
    (text : List UInt8) :
    Writer Empty :=
  fun out => do
    let pt := List.replicate (6 + maxPostTextLen) 0
    let pt ← write pt 0 (Bytes.u32ToLeBytes timestamp).toList
    let pt ← write pt 4 [((0 : UInt8) <<< 2) ||| (attempt &&& 0x03)]
    let textLen := min text.length maxPostTextLen
    let cut ← slice text 0 textLen
    let pt ← write pt 5 cut
    let plaintext ← slice pt 0 (5 + textLen + 1)
    encodeDmPayloadInto crypto secret destHash srcHash plaintext out

/-- Encode a keep-alive into a buffer. -/
def encodeKeepAliveInto
    (secret : Key)
    (destHash srcHash : UInt8)
    (timestamp forceSince : UInt32) :
    Writer Empty :=
  fun out => do
    let pt := List.replicate 9 0
    let pt ← write pt 0 (Bytes.u32ToLeBytes timestamp).toList
    let pt ← write pt 4 [reqTypeKeepAlive]
    let pt ← write pt 5 (Bytes.u32ToLeBytes forceSince).toList
    encodeDmPayloadInto crypto secret destHash srcHash pt out

/-- Put the outer framing around a payload that is in the buffer. -/
def assembleFloodFrameInto
    (scope : Option (Vector UInt8 16))
    (payloadType : PayloadType)
    (pathLen : PathLen)
    (payloadLen : Nat)
    (out : List UInt8) :
    Outcome Empty (List UInt8 × Nat) :=
  match scope with
  | none => do
      let out ← write out 0 [Header.new .flood payloadType]
      let out ← write out 1 [pathLen.byte]
      pure (out, 2 + payloadLen)
  | some key =>
      let payloadEnd := 2 + payloadLen
      if out.length < payloadEnd + transportCodeBytes then
        .panicked
      else do
        let payload ← slice out 2 payloadEnd
        let codes :=
          scopedTransportCodes crypto key payloadType.toU8 payload
        if codes.getD 0 0 ||| codes.getD 1 0 = 0 then
          .panicked
        else do
          let out ← copyWithin out 2 payloadEnd (2 + transportCodeBytes)
          let out ← write out 0 [Header.new .transportFlood payloadType]
          let out ← write out 1 codes.toList
          let out ← write out (1 + transportCodeBytes) [pathLen.byte]
          pure (out, payloadEnd + transportCodeBytes)

/-- Encode the frame of a login into a buffer. -/
def encodeRoomLoginFrameInto
    (secret : Key)
    (destHash : UInt8)
    (senderPubkey : Key)
    (timestamp syncSince : UInt32)
    (password : List UInt8)
    (scope : Option (Vector UInt8 16)) :
    Writer Empty :=
  fun out => do
    let written ←
      onTail 2
        (encodeAnonReqLoginInto crypto secret destHash senderPubkey
          timestamp syncSince password)
        out
    assembleFloodFrameInto crypto scope .anonReq zeroHops written.2
      written.1

/-- Encode the frame of a post into a buffer, with the hash that will
acknowledge it. -/
def encodeRoomPostCheckedInto
    (secret : Key)
    (destHash srcHash : UInt8)
    (candidateTs lastRoomTs : UInt32)
    (text : List UInt8)
    (clientPubkey : Key)
    (scope : Option (Vector UInt8 16))
    (out : List UInt8) :
    Outcome Empty
      (Except RoomPostError ((List UInt8 × Nat) × Vector UInt8 4)) :=
  if candidateTs ≤ lastRoomTs then
    pure (.error .nonMonotonicTimestamp)
  else do
    let written ←
      onTail 2
        (encodeRoomPostInto crypto secret destHash srcHash candidateTs 0
          text)
        out
    let textLen := min text.length maxPostTextLen
    let cut ← slice text 0 textLen
    let ack := roomPostAckHash crypto candidateTs 0 cut clientPubkey
    let framed ←
      assembleFloodFrameInto crypto scope .txtMsg zeroHops written.2
        written.1
    pure (.ok (framed, ack))

/-- The outer framing of a frame sent straight over a route. -/
def encodeRoomDirectPrefixInto
    (payloadType : PayloadType)
    (outPath out : List UInt8) :
    Outcome Empty (Option (List UInt8 × Nat)) :=
  if 255 < outPath.length then
    pure none
  else
    match PathLen.new 1 (UInt8.ofNat outPath.length) with
    | none => pure none
    | some pathLen => do
        let out ← write out 0 [Header.new .direct payloadType]
        let out ← write out 1 [pathLen.byte]
        let n := pathLen.hopCount.toNat
        let path ← slice outPath 0 n
        let out ← write out 2 path
        pure (some (out, 2 + n))

/-- Encode the frame of a keep-alive into a buffer. -/
def encodeRoomKeepAliveFrameInto
    (secret : Key)
    (destHash srcHash : UInt8)
    (outPath : List UInt8)
    (timestamp forceSince : UInt32)
    (out : List UInt8) :
    Outcome Empty (Option (List UInt8 × Nat)) := do
  let written ← encodeRoomDirectPrefixInto .req outPath out
  match written with
  | none => pure none
  | some (out, prefixLen) => do
      let payload ←
        onTail prefixLen
          (encodeKeepAliveInto crypto secret destHash srcHash timestamp
            forceSince)
          out
      pure (some (payload.1, prefixLen + payload.2))

end Writers

section Filling

variable (crypto : Crypto)

/-- The blocks written so far, and the rest of the buffer. -/
theorem writeBlocks_eq
    (key : Vector UInt8 16)
    (plaintext : List UInt8)
    {blocks : Nat}
    {out : List UInt8}
    (fits : 16 * blocks ≤ out.length) :
    writeBlocks crypto key plaintext blocks out =
      .value
        (Blocks.join
            (fun i =>
              crypto.encryptBlock key (Blocks.block 16 plaintext i))
            blocks ++
          out.drop (16 * blocks)) := by
  induction blocks with
  | zero =>
      rfl
  | succ i inductionHypothesis =>
      have written := inductionHypothesis (by omega)
      have behind :=
        @write_behind_front Empty
          (Blocks.join
            (fun i =>
              crypto.encryptBlock key (Blocks.block 16 plaintext i)) i)
          (out.drop (16 * i)) (16 * i) (Blocks.length_join _ _)
          (crypto.encryptBlock key
            (Blocks.block 16 plaintext i)).toList
          (by
            rw [List.length_drop, Vector.length_toList]
            omega)
      rw [writeBlocks, written, value_bind, behind, Blocks.join,
        List.drop_drop, Vector.length_toList, Nat.mul_succ]

/-- The ciphertext is filled in. -/
theorem aes128EcbEncrypt_fills
    (key : Vector UInt8 16)
    (plaintext : List UInt8) :
    Fills (aes128EcbEncryptInto crypto key plaintext)
      (crypto.aes128EcbEncrypt key plaintext) := by
  intro out fits
  have length :
      (crypto.aes128EcbEncrypt key plaintext).length =
        16 * Blocks.count 16 plaintext :=
    Blocks.length_mapBlocks _ _
  rw [length] at fits
  rw [aes128EcbEncryptInto, writeBlocks_eq crypto key plaintext fits,
    value_bind, length]
  rfl

/-- The ciphertext is filled in behind its code. -/
theorem encryptThenMac_fills
    (key : Vector UInt8 16)
    (hmacKey plaintext : List UInt8) :
    Fills (encryptThenMacInto crypto key hmacKey plaintext)
      (crypto.encryptThenMac key hmacKey plaintext) := by
  intro out fits
  have length :
      (crypto.aes128EcbEncrypt key plaintext).length =
        16 * Blocks.count 16 plaintext :=
    Blocks.length_mapBlocks _ _
  have isCode :
      crypto.encryptThenMac key hmacKey plaintext =
        (crypto.hmacSha256_2 hmacKey
            (crypto.aes128EcbEncrypt key plaintext)).getD 0 0 ::
          (crypto.hmacSha256_2 hmacKey
              (crypto.aes128EcbEncrypt key plaintext)).getD 1 0 ::
            crypto.aes128EcbEncrypt key plaintext := rfl
  rw [isCode] at fits ⊢
  match out, fits with
  | first :: second :: rest, fits =>
      have room :
          (crypto.aes128EcbEncrypt key plaintext).length ≤ rest.length := by
        simpa using fits
      have encrypted :
          onTail 2 (aes128EcbEncryptInto crypto key plaintext)
              (first :: second :: rest) =
            .value
              ([first, second] ++ crypto.aes128EcbEncrypt key plaintext ++
                rest.drop (crypto.aes128EcbEncrypt key plaintext).length,
                (crypto.aes128EcbEncrypt key plaintext).length) :=
        @Fills.onTail Empty _ _ [first, second] rest
          (aes128EcbEncrypt_fills crypto key plaintext) 2 rfl room
      have ciphertext :
          (slice
              ([first, second] ++ crypto.aes128EcbEncrypt key plaintext ++
                rest.drop (crypto.aes128EcbEncrypt key plaintext).length)
              2 (2 + 16 * Blocks.count 16 plaintext) :
              Outcome Empty (List UInt8)) =
            .value (crypto.aes128EcbEncrypt key plaintext) := by
        rw [slice_eq (Nat.le_add_right _ _) (by
            rw [List.length_append, List.length_append, ← length]
            exact Nat.le_add_right _ _),
          Nat.add_sub_cancel_left, ← length, List.append_assoc]
        simp only [List.cons_append, List.nil_append, List.drop_succ_cons,
          List.drop_zero, List.take_left]
      rw [encryptThenMacInto, encrypted, value_bind, ciphertext, value_bind]
      simp [write, length]
      omega

/-- A direct message is filled in. -/
theorem encodeDmPayload_fills
    (secret : Key)
    (destHash srcHash : UInt8)
    (plaintext : List UInt8) :
    Fills
      (encodeDmPayloadInto crypto secret destHash srcHash plaintext)
      (encodeDmPayload crypto secret destHash srcHash plaintext) := by
  unfold encodeDmPayloadInto
  exact
    (FillsBehind.write rfl
      (FillsBehind.write rfl
        (FillsBehind.onTail
          (encryptThenMac_fills crypto (Crypto.aesKey secret)
            secret.toList plaintext) rfl))).fills

/-- The front of a zeroed array, filled with a string that ends in a zero. -/
theorem slice_zeroed
    {filled : List UInt8}
    {length stop : Nat}
    (isStop : filled.length + 1 = stop)
    (fits : stop ≤ length) :
    (slice (filled ++ (List.replicate length 0).drop filled.length) 0
        stop : Outcome Empty (List UInt8)) =
      .value (filled ++ [0]) := by
  subst isStop
  rw [slice_eq (Nat.zero_le _) (by
      rw [List.length_append, List.length_drop, List.length_replicate]
      omega),
    List.drop_zero, Nat.sub_zero, List.take_length_add_append,
    List.drop_replicate, List.take_replicate]
  have one : min 1 (length - filled.length) = 1 := by omega
  rw [one]
  rfl

/-- Cutting a string copies its front. -/
theorem slice_cut
    (text : List UInt8)
    (limit : Nat) :
    (slice text 0 (min text.length limit) : Outcome Empty (List UInt8)) =
      .value (text.take limit) := by
  rw [slice_eq (Nat.zero_le _) (Nat.min_le_left _ _), List.drop_zero,
    Nat.sub_zero, Nat.min_comm, ← List.take_eq_take_min]

/-- Two fields and a text that is cut and ends in a zero, in a zeroed array. -/
theorem terminated_steps
    {α : Type}
    (first second text : List UInt8)
    {limit length secondAt textAt : Nat}
    (isSecond : first.length = secondAt)
    (isText : (first ++ second).length = textAt)
    (room : textAt + limit + 1 ≤ length)
    (next : List UInt8 → Outcome Empty α) :
    (do
      let pt ← write (List.replicate length 0) 0 first
      let pt ← write pt secondAt second
      let cut ← slice text 0 (min text.length limit)
      let pt ← write pt textAt cut
      let plaintext ← slice pt 0 (textAt + min text.length limit + 1)
      next plaintext) =
      next (first ++ second ++ text.take limit ++ [0]) := by
  have cutLength : (text.take limit).length = min text.length limit := by
    rw [List.length_take, Nat.min_comm]
  have reached := isText
  rw [List.length_append, isSecond] at reached
  have firstWritten :
      (write (List.replicate length 0) 0 first :
          Outcome Empty (List UInt8)) =
        .value (first ++ (List.replicate length 0).drop first.length) :=
    @fill_next Empty (List.replicate length 0) 0 [] rfl first
      (by rw [List.length_replicate]; omega)
  have secondWritten :=
    @fill_next Empty (List.replicate length 0) secondAt first isSecond
      second (by rw [List.length_replicate]; omega)
  have textWritten :=
    @fill_next Empty (List.replicate length 0) textAt (first ++ second)
      isText (text.take limit)
      (by rw [cutLength, List.length_replicate]; omega)
  have terminated :=
    @slice_zeroed (first ++ second ++ text.take limit) length
      (textAt + min text.length limit + 1)
      (by rw [List.length_append, isText, cutLength])
      (by omega)
  rw [firstWritten, value_bind, secondWritten, value_bind, slice_cut,
    value_bind, textWritten, value_bind, terminated, value_bind]

/-- The plaintext of a login, as it is put together in an array. -/
theorem loginPlaintext_steps
    {α : Type}
    (timestamp syncSince : UInt32)
    (password : List UInt8)
    (next : List UInt8 → Outcome Empty α) :
    (do
      let pt ←
        write (List.replicate (8 + maxLoginPasswordLen) 0) 0
          (Bytes.u32ToLeBytes timestamp).toList
      let pt ← write pt 4 (Bytes.u32ToLeBytes syncSince).toList
      let cut ←
        slice password 0
          (min password.length (maxLoginPasswordLen - 1))
      let pt ← write pt 8 cut
      let plaintext ←
        slice pt 0
          (8 + min password.length (maxLoginPasswordLen - 1) + 1)
      next plaintext) =
      next (loginPlaintext timestamp syncSince password) := by
  rw [terminated_steps (Bytes.u32ToLeBytes timestamp).toList
    (Bytes.u32ToLeBytes syncSince).toList password (by simp) (by simp)
    (by simp [maxLoginPasswordLen]) next]
  simp [loginPlaintext]

/-- A login is filled in. -/
theorem encodeAnonReqLogin_fills
    (secret : Key)
    (destHash : UInt8)
    (senderPubkey : Key)
    (timestamp syncSince : UInt32)
    (password : List UInt8) :
    Fills
      (encodeAnonReqLoginInto crypto secret destHash senderPubkey timestamp
        syncSince password)
      (encodeAnonReqLogin crypto secret destHash senderPubkey timestamp
        syncSince password) := by
  unfold encodeAnonReqLoginInto
  dsimp only
  simp only [loginPlaintext_steps]
  exact
    (FillsBehind.write rfl
      (FillsBehind.write rfl
        (FillsBehind.onTail
          (encryptThenMac_fills crypto (Crypto.aesKey secret)
            secret.toList (loginPlaintext timestamp syncSince password))
          (by simp [anonReqHeaderLen])))).fills

/-- The plaintext of a post, as it is put together in an array. -/
theorem postPlaintext_steps
    {α : Type}
    (timestamp : UInt32)
    (attempt : UInt8)
    (text : List UInt8)
    (next : List UInt8 → Outcome Empty α) :
    (do
      let pt ←
        write (List.replicate (6 + maxPostTextLen) 0) 0
          (Bytes.u32ToLeBytes timestamp).toList
      let pt ← write pt 4 [((0 : UInt8) <<< 2) ||| (attempt &&& 0x03)]
      let cut ← slice text 0 (min text.length maxPostTextLen)
      let pt ← write pt 5 cut
      let plaintext ← slice pt 0 (5 + min text.length maxPostTextLen + 1)
      next plaintext) =
      next (postPlaintext timestamp attempt text) := by
  rw [terminated_steps (Bytes.u32ToLeBytes timestamp).toList
    [((0 : UInt8) <<< 2) ||| (attempt &&& 0x03)] text (by simp) (by simp)
    (by simp [maxPostTextLen]) next]
  simp [postPlaintext]

/-- A post is filled in. -/
theorem encodeRoomPost_fills
    (secret : Key)
    (destHash srcHash : UInt8)
    (timestamp : UInt32)
    (attempt : UInt8)
    (text : List UInt8) :
    Fills
      (encodeRoomPostInto crypto secret destHash srcHash timestamp attempt
        text)
      (encodeRoomPost crypto secret destHash srcHash timestamp attempt
        text) := by
  intro out fits
  rw [encodeRoomPostInto]
  dsimp only
  rw [postPlaintext_steps]
  exact encodeDmPayload_fills crypto secret destHash srcHash _ out fits

/-- A keep-alive is filled in. -/
theorem encodeKeepAlive_fills
    (secret : Key)
    (destHash srcHash : UInt8)
    (timestamp forceSince : UInt32) :
    Fills
      (encodeKeepAliveInto crypto secret destHash srcHash timestamp
        forceSince)
      (encodeKeepAlive crypto secret destHash srcHash timestamp
        forceSince) := by
  intro out fits
  have first :
      (write (List.replicate 9 0) 0
          (Bytes.u32ToLeBytes timestamp).toList :
          Outcome Empty (List UInt8)) =
        _ :=
    @fill_next Empty (List.replicate 9 0) 0 [] rfl
      (Bytes.u32ToLeBytes timestamp).toList (by simp)
  have second :=
    @fill_next Empty (List.replicate 9 0) 4
      ([] ++ (Bytes.u32ToLeBytes timestamp).toList) (by simp)
      [reqTypeKeepAlive] (by simp)
  have third :=
    @fill_next Empty (List.replicate 9 0) 5
      ([] ++ (Bytes.u32ToLeBytes timestamp).toList ++ [reqTypeKeepAlive])
      (by simp) (Bytes.u32ToLeBytes forceSince).toList (by simp)
  have whole :
      [] ++ (Bytes.u32ToLeBytes timestamp).toList ++ [reqTypeKeepAlive] ++
          (Bytes.u32ToLeBytes forceSince).toList ++
          (List.replicate 9 (0 : UInt8)).drop
            ([] ++ (Bytes.u32ToLeBytes timestamp).toList ++
              [reqTypeKeepAlive] ++
                (Bytes.u32ToLeBytes forceSince).toList).length =
        keepAlivePlaintext timestamp forceSince := by
    simp [keepAlivePlaintext]
  rw [encodeKeepAliveInto, first, value_bind, second, value_bind, third,
    value_bind, whole]
  exact encodeDmPayload_fills crypto secret destHash srcHash _ out fits

end Filling

section Framing

variable (crypto : Crypto)

/-- A code is never zero. -/
theorem scopedTransportCodes_ne_zero
    (key : Vector UInt8 16)
    (payloadType : UInt8)
    (payload : List UInt8) :
    (scopedTransportCodes crypto key payloadType payload).getD 0 0 |||
        (scopedTransportCodes crypto key payloadType payload).getD 1 0 ≠
      0 := by
  have remapped
      (raw : Vector UInt8 2) :
      (remapTransportCode raw)[0] ||| (remapTransportCode raw)[1] ≠ 0 := by
    rw [remapTransportCode]
    split
    case isTrue zero =>
      simp
    case isFalse notZero =>
      split
      case isTrue ones =>
        simp
      case isFalse notOnes =>
        intro none
        obtain ⟨low, high⟩ := UInt8.or_eq_zero_iff.mp none
        refine notZero (Vector.ext fun position before => ?_)
        rcases Nat.lt_succ_iff_lt_or_eq.mp before with first | second
        · have isFirst : position = 0 := Nat.lt_one_iff.mp first
          subst isFirst
          exact low
        · subst second
          exact high
  rw [scopedTransportCodes]
  exact remapped _

/-- A payload without codes is framed in a buffer that holds it. -/
theorem assembleFloodFrameInto_none
    (payloadType : PayloadType)
    (pathLen : PathLen)
    (first second : UInt8)
    (payload rest : List UInt8) :
    assembleFloodFrameInto crypto none payloadType pathLen payload.length
        ([first, second] ++ payload ++ rest) =
      .value
        (assembleFloodFrame crypto none payloadType pathLen payload ++ rest,
          (assembleFloodFrame crypto none payloadType pathLen
            payload).length) := by
  simp [assembleFloodFrameInto, assembleFloodFrame, write]
  omega

/-- The six bytes in front of a scoped payload. -/
theorem six_bytes
    {front : List UInt8}
    (length : front.length = 6) :
    ∃ a b c d e f, front = [a, b, c, d, e, f] := by
  match front, length with
  | [a, b, c, d, e, f], _ => exact ⟨a, b, c, d, e, f, rfl⟩

/-- One with codes needs four bytes more, or panics. -/
theorem assembleFloodFrameInto_some
    (key : Vector UInt8 16)
    (payloadType : PayloadType)
    (pathLen : PathLen)
    (first second : UInt8)
    (payload rest : List UInt8) :
    assembleFloodFrameInto crypto (some key) payloadType pathLen
        payload.length ([first, second] ++ payload ++ rest) =
      if rest.length < 4 then .panicked
      else
        .value
          (assembleFloodFrame crypto (some key) payloadType pathLen
              payload ++ rest.drop 4,
            (assembleFloodFrame crypto (some key) payloadType pathLen
              payload).length) := by
  have length :
      ([first, second] ++ payload ++ rest).length =
        2 + payload.length + rest.length := by
    rw [List.length_append, List.length_append]
    rfl
  rw [assembleFloodFrameInto, length]
  dsimp only
  by_cases short : rest.length < 4
  · rw [if_pos short, if_pos (by rw [transportCodeBytes]; omega)]
  · have middle :
        (slice ([first, second] ++ payload ++ rest) 2
            (2 + payload.length) : Outcome Empty (List UInt8)) =
          .value payload := by
      rw [slice_eq (Nat.le_add_right _ _) (by omega),
        Nat.add_sub_cancel_left, List.append_assoc]
      simp only [List.cons_append, List.nil_append, List.drop_succ_cons,
        List.drop_zero, List.take_left]
    have shifted :=
      @copyWithin_eq Empty payload [first, second] rest 2
        (2 + payload.length) (2 + transportCodeBytes) rfl rfl (by
          rw [length, transportCodeBytes]
          omega)
    have frontLength :
        (([first, second] ++ payload ++ rest).take
          (2 + transportCodeBytes)).length = 6 := by
      rw [List.length_take, length, transportCodeBytes]
      omega
    have behind :
        ([first, second] ++ payload ++ rest).drop
            (2 + transportCodeBytes + payload.length) =
          rest.drop 4 := by
      have position :
          2 + transportCodeBytes + payload.length =
            ([first, second] ++ payload).length + 4 := by
        rw [List.length_append, transportCodeBytes]
        simp
        omega
      rw [position, ← List.drop_drop, List.drop_left]
    obtain ⟨a, b, c, d, e, f, isFront⟩ := six_bytes frontLength
    rw [isFront, behind] at shifted
    rw [if_neg (by rw [transportCodeBytes]; omega), middle, value_bind,
      if_neg (scopedTransportCodes_ne_zero crypto key _ _), shifted,
      value_bind, if_neg short]
    obtain ⟨low, high, isCodes⟩ :
        ∃ low high : UInt8,
          (scopedTransportCodes crypto key payloadType.toU8
            payload).toList = [low, high, 0, 0] :=
      ⟨_, _, rfl⟩
    simp only [assembleFloodFrame, isCodes]
    simp [write, transportCodeBytes]
    omega

/-- The length of a flooded frame. -/
theorem length_assembleFloodFrame
    (scope : Option (Vector UInt8 16))
    (payloadType : PayloadType)
    (payload : List UInt8) :
    (assembleFloodFrame crypto scope payloadType zeroHops payload).length =
      (if scope = none then 2 else 6) + payload.length := by
  cases scope with
  | none =>
      simp [assembleFloodFrame]
      omega
  | some key =>
      simp [assembleFloodFrame]
      omega

/-- The two bytes in front of a payload. -/
theorem two_bytes
    {out : List UInt8}
    (atLeast : 2 ≤ out.length) :
    ∃ first second rest, out = first :: second :: rest := by
  match out, atLeast with
  | first :: second :: rest, _ => exact ⟨first, second, rest, rfl⟩

/-- A payload that is filled in is framed if the frame fits its buffer. -/
theorem framed_eq
    {writer : Writer Empty}
    {payload out : List UInt8}
    (fills : Fills writer payload)
    (scope : Option (Vector UInt8 16))
    (payloadType : PayloadType)
    (fits : 2 + payload.length ≤ out.length) :
    (onTail 2 writer out >>= fun written =>
      assembleFloodFrameInto crypto scope payloadType zeroHops written.2
        written.1) =
      if (assembleFloodFrame crypto scope payloadType zeroHops
          payload).length ≤ out.length then
        .value
          (assembleFloodFrame crypto scope payloadType zeroHops payload ++
            out.drop
              (assembleFloodFrame crypto scope payloadType zeroHops
                payload).length,
            (assembleFloodFrame crypto scope payloadType zeroHops
              payload).length)
      else .panicked := by
  obtain ⟨first, second, rest, rfl⟩ := @two_bytes out (by omega)
  have room : payload.length ≤ rest.length := by
    simp only [List.length_cons] at fits
    omega
  have filled :
      onTail 2 writer (first :: second :: rest) =
        .value
          ([first, second] ++ payload ++ rest.drop payload.length,
            payload.length) :=
    @Fills.onTail Empty _ _ [first, second] rest fills 2 rfl room
  have whole : (first :: second :: rest).length = 2 + rest.length := by
    simp only [List.length_cons]
    omega
  rw [filled, value_bind]
  dsimp only
  cases scope with
  | none =>
      have length :
          (assembleFloodFrame crypto none payloadType zeroHops
            payload).length = payload.length + 2 := by
        rw [length_assembleFloodFrame, if_pos rfl, Nat.add_comm]
      rw [assembleFloodFrameInto_none, length, whole,
        if_pos (by omega), List.drop_succ_cons, List.drop_succ_cons]
  | some key =>
      have length :
          (assembleFloodFrame crypto (some key) payloadType zeroHops
            payload).length = payload.length + 4 + 2 := by
        rw [length_assembleFloodFrame, if_neg (by simp)]
        omega
      rw [assembleFloodFrameInto_some, length, whole,
        List.length_drop, List.drop_drop, List.drop_succ_cons,
        List.drop_succ_cons]
      by_cases short : rest.length - payload.length < 4
      · rw [if_pos short, if_neg (by omega)]
      · rw [if_neg short, if_pos (by omega)]

end Framing

section Bounds

variable
    (crypto : Crypto)
    (secret : Key)
    (destHash srcHash : UInt8)

/-- The payload of a login takes at most 67 bytes. -/
theorem length_login_le
    (senderPubkey : Key)
    (timestamp syncSince : UInt32)
    (password : List UInt8) :
    (encodeAnonReqLogin crypto secret destHash senderPubkey timestamp
      syncSince password).length ≤ 67 := by
  have plaintext :
      (loginPlaintext timestamp syncSince password).length ≤ 16 * 2 := by
    simp [loginPlaintext, maxLoginPasswordLen]
    omega
  have encrypted :=
    length_encryptThenMac_le crypto (Crypto.aesKey secret) secret.toList
      plaintext
  simp [encodeAnonReqLogin]
  omega

/-- The frame of a login fits its buffer. -/
theorem encodeRoomLoginFrameInto_eq
    (senderPubkey : Key)
    (timestamp syncSince : UInt32)
    (password : List UInt8)
    (scope : Option (Vector UInt8 16))
    {out : List UInt8}
    (isBuffer : out.length = maxLoginFrameLen) :
    (encodeRoomLoginFrame crypto secret destHash senderPubkey timestamp
        syncSince password scope).length ≤ maxLoginFrameLen ∧
      encodeRoomLoginFrameInto crypto secret destHash senderPubkey
          timestamp syncSince password scope out =
        .value
          (encodeRoomLoginFrame crypto secret destHash senderPubkey
              timestamp syncSince password scope ++
            out.drop
              (encodeRoomLoginFrame crypto secret destHash senderPubkey
                timestamp syncSince password scope).length,
            (encodeRoomLoginFrame crypto secret destHash senderPubkey
              timestamp syncSince password scope).length) := by
  have payload :=
    length_login_le crypto secret destHash senderPubkey timestamp syncSince
      password
  have size : maxLoginFrameLen = 73 := rfl
  have fits :
      (encodeRoomLoginFrame crypto secret destHash senderPubkey timestamp
        syncSince password scope).length ≤ maxLoginFrameLen := by
    rw [encodeRoomLoginFrame, length_assembleFloodFrame, size]
    split <;> omega
  refine ⟨fits, ?_⟩
  have framed :=
    @framed_eq crypto _ _ out
      (encodeAnonReqLogin_fills crypto secret destHash senderPubkey
        timestamp syncSince password)
      scope .anonReq (by omega)
  rw [isBuffer] at framed
  exact framed.trans (if_pos fits)

/-- The length of the payload of a post, by the length of its text. -/
theorem length_post
    (timestamp : UInt32)
    (text : List UInt8) :
    (encodeRoomPost crypto secret destHash srcHash timestamp 0
        text).length =
      4 + 16 * ((min 150 text.length + 21) / 16) := by
  simp [encodeRoomPost, encodeDmPayload, Crypto.encryptThenMac,
    Crypto.aes128EcbEncrypt, Blocks.count, postPlaintext, maxPostTextLen]
  omega

/-- The frame of a post fits its buffer, or encoding it panics. -/
theorem encodeRoomPostCheckedInto_eq
    {candidateTs lastRoomTs : UInt32}
    (newer : ¬ candidateTs ≤ lastRoomTs)
    (text : List UInt8)
    (clientPubkey : Key)
    (scope : Option (Vector UInt8 16))
    {out : List UInt8}
    (isBuffer : out.length = maxPostFrameLen) :
    encodeRoomPostCheckedInto crypto secret destHash srcHash candidateTs
        lastRoomTs text clientPubkey scope out =
      (if (assembleFloodFrame crypto scope .txtMsg zeroHops
            (encodeRoomPost crypto secret destHash srcHash candidateTs 0
              text)).length ≤ maxPostFrameLen then
        .value
          (assembleFloodFrame crypto scope .txtMsg zeroHops
              (encodeRoomPost crypto secret destHash srcHash candidateTs 0
                text) ++
            out.drop
              (assembleFloodFrame crypto scope .txtMsg zeroHops
                (encodeRoomPost crypto secret destHash srcHash candidateTs
                  0 text)).length,
            (assembleFloodFrame crypto scope .txtMsg zeroHops
              (encodeRoomPost crypto secret destHash srcHash candidateTs 0
                text)).length)
      else .panicked : Outcome Empty (List UInt8 × Nat)) >>= fun framed =>
        .value
          (.ok
            (framed,
              roomPostAckHash crypto candidateTs 0
                (text.take maxPostTextLen) clientPubkey)) := by
  have payload := length_post crypto secret destHash srcHash candidateTs text
  have size : maxPostFrameLen = 168 := rfl
  have framed :=
    @framed_eq crypto _ _ out
      (encodeRoomPost_fills crypto secret destHash srcHash candidateTs 0
        text)
      scope .txtMsg (by omega)
  rw [isBuffer] at framed
  rw [← framed, encodeRoomPostCheckedInto, if_neg newer]
  simp only [slice_cut, value_bind, bind_assoc, pure_eq]

/-- A keep-alive takes twenty bytes. -/
theorem length_keepAlive
    (timestamp forceSince : UInt32) :
    (encodeKeepAlive crypto secret destHash srcHash timestamp
      forceSince).length = 20 := by
  simp [encodeKeepAlive, encodeDmPayload, Crypto.encryptThenMac,
    Crypto.aes128EcbEncrypt, Blocks.count, keepAlivePlaintext]

/-- A path of more hops than a length byte can tell is refused. -/
theorem encodeRoomDirectPrefixInto_long
    (payloadType : PayloadType)
    {outPath : List UInt8}
    (long : 63 < outPath.length)
    (out : List UInt8) :
    encodeRoomDirectPrefixInto payloadType outPath out = .value none := by
  rw [encodeRoomDirectPrefixInto]
  by_cases longer : 255 < outPath.length
  · rw [if_pos longer]
    rfl
  · have hops :
        (UInt8.ofNat outPath.length).toNat = outPath.length :=
      UInt8.toNat_ofNat_of_lt' (show outPath.length < 256 by omega)
    rw [if_neg longer, PathLen.new_many (by omega) 1]
    rfl

/-- The header, the number of hops and the path are filled in. -/
theorem encodeRoomDirectPrefixInto_short
    (payloadType : PayloadType)
    {outPath out : List UInt8}
    (short : outPath.length ≤ 63)
    (fits : 2 + outPath.length ≤ out.length) :
    encodeRoomDirectPrefixInto payloadType outPath out =
      .value
        (some
          ([Header.new .direct payloadType] ++
              [UInt8.ofNat outPath.length] ++ outPath ++
            out.drop
              ([Header.new .direct payloadType] ++
                [UInt8.ofNat outPath.length] ++ outPath).length,
            2 + outPath.length)) := by
  have hops :
      (UInt8.ofNat outPath.length).toNat = outPath.length :=
    UInt8.toNat_ofNat_of_lt' (show outPath.length < 256 by omega)
  have few : (UInt8.ofNat outPath.length).toNat ≤ 63 := by
    omega
  have header :
      (write out 0 [Header.new .direct payloadType] :
          Outcome Empty (List UInt8)) =
        .value
          ([Header.new .direct payloadType] ++
            out.drop [Header.new .direct payloadType].length) :=
    @fill_next Empty out 0 [] rfl [Header.new .direct payloadType] (by
      rw [List.length_singleton]
      omega)
  have pathLen :=
    @fill_next Empty out 1 [Header.new .direct payloadType] rfl
      [UInt8.ofNat outPath.length] (by
        rw [List.length_singleton]
        omega)
  have path :=
    @fill_next Empty out 2
      ([Header.new .direct payloadType] ++ [UInt8.ofNat outPath.length])
      rfl outPath fits
  have copied :
      (slice outPath 0 outPath.length : Outcome Empty (List UInt8)) =
        .value outPath := by
    rw [slice_eq (Nat.zero_le _) (Nat.le_refl _), List.drop_zero,
      Nat.sub_zero, List.take_length]
  rw [encodeRoomDirectPrefixInto, if_neg (by omega), PathLen.new_one few]
  dsimp only
  rw [(PathLen.of_few few).2, hops, header, value_bind, pathLen,
    value_bind, copied, value_bind, path, value_bind]
  rfl

/-- The frame of a keep-alive fits its buffer. -/
theorem encodeRoomKeepAliveFrameInto_eq
    (outPath : List UInt8)
    (timestamp forceSince : UInt32)
    {out : List UInt8}
    (isBuffer : out.length = maxKeepAliveFrameLen) :
    encodeRoomKeepAliveFrameInto crypto secret destHash srcHash outPath
        timestamp forceSince out =
      .value
        ((encodeRoomKeepAliveFrame crypto secret destHash srcHash outPath
          timestamp forceSince).map fun frame =>
            (frame ++ out.drop frame.length, frame.length)) := by
  have size : maxKeepAliveFrameLen = 86 := rfl
  by_cases long : 63 < outPath.length
  · rw [encodeRoomKeepAliveFrameInto,
      encodeRoomDirectPrefixInto_long .req long, value_bind,
      encodeRoomKeepAliveFrame, encodeRoomDirectPrefix_long .req long]
    rfl
  · have payload :=
      length_keepAlive crypto secret destHash srcHash timestamp forceSince
    have behind :
        ([Header.new .direct .req] ++ [UInt8.ofNat outPath.length] ++
            outPath).length =
          2 + outPath.length := by
      simp
      omega
    have filled :=
      @Fills.onTail Empty _ _
        ([Header.new .direct .req] ++ [UInt8.ofNat outPath.length] ++
          outPath)
        (out.drop
          ([Header.new .direct .req] ++ [UInt8.ofNat outPath.length] ++
            outPath).length)
        (encodeKeepAlive_fills crypto secret destHash srcHash timestamp
          forceSince) (2 + outPath.length) behind (by
          rw [payload, List.length_drop, behind, isBuffer, size]
          omega)
    have total :
        ([Header.new .direct .req] ++ [UInt8.ofNat outPath.length] ++
              outPath ++
            encodeKeepAlive crypto secret destHash srcHash timestamp
              forceSince).length =
          2 + outPath.length + 20 := by
      rw [List.length_append, behind, payload]
    rw [encodeRoomKeepAliveFrameInto,
      encodeRoomDirectPrefixInto_short .req (by omega) (by omega),
      value_bind]
    dsimp only
    rw [filled, value_bind, payload, behind, List.drop_drop,
      encodeRoomKeepAliveFrame, encodeRoomDirectPrefix_short .req (by omega),
      Option.map_some, Option.map_some, pure_eq]
    rw [← total]
    rfl

/-- When the frame of a post fits its buffer. -/
theorem postFrame_fits_iff
    (timestamp : UInt32)
    (text : List UInt8)
    (scope : Option (Vector UInt8 16)) :
    (assembleFloodFrame crypto scope .txtMsg zeroHops
        (encodeRoomPost crypto secret destHash srcHash timestamp 0
          text)).length ≤ maxPostFrameLen ↔
      scope = none ∨ text.length ≤ 138 := by
  have size : maxPostFrameLen = 168 := rfl
  rw [length_assembleFloodFrame, length_post, size]
  cases scope with
  | none =>
      rw [if_pos rfl]
      simp only [true_or, iff_true]
      omega
  | some key =>
      rw [if_neg (by simp)]
      simp only [reduceCtorEq, false_or]
      omega

/--
Encoding a login or a keep-alive into a buffer of the declared length does not
panic and gives a frame within it.  Encoding a post does exactly where it is
refused for its timestamp, has no scope, or has a text of at most 138 bytes.
-/
theorem frame_bounds :
    (∀ senderPubkey timestamp syncSince password scope out,
      out.length = maxLoginFrameLen →
        ∃ written length,
          encodeRoomLoginFrameInto crypto secret destHash senderPubkey
              timestamp syncSince password scope out =
            .value (written, length) ∧
          length ≤ maxLoginFrameLen) ∧
      (∀ outPath timestamp forceSince out,
        out.length = maxKeepAliveFrameLen →
          ∃ result,
            encodeRoomKeepAliveFrameInto crypto secret destHash srcHash
                outPath timestamp forceSince out =
              .value result ∧
            ∀ written length,
              result = some (written, length) →
                length ≤ maxKeepAliveFrameLen) ∧
      ∀ candidateTs lastRoomTs text clientPubkey scope out,
        out.length = maxPostFrameLen →
          ((∃ result,
            encodeRoomPostCheckedInto crypto secret destHash srcHash
                candidateTs lastRoomTs text clientPubkey scope out =
              .value result ∧
            ∀ written length ackHash,
              result = .ok ((written, length), ackHash) →
                length ≤ maxPostFrameLen) ↔
            candidateTs ≤ lastRoomTs ∨
              scope = none ∨ text.length ≤ 138) := by
  refine ⟨?_, ?_, ?_⟩
  · intro senderPubkey timestamp syncSince password scope out isBuffer
    obtain ⟨fits, encoded⟩ :=
      encodeRoomLoginFrameInto_eq crypto secret destHash senderPubkey
        timestamp syncSince password scope isBuffer
    exact ⟨_, _, encoded, fits⟩
  · intro outPath timestamp forceSince out isBuffer
    refine ⟨_, encodeRoomKeepAliveFrameInto_eq crypto secret destHash
      srcHash outPath timestamp forceSince isBuffer, ?_⟩
    intro written length isWritten
    obtain ⟨frame, isFrame, same⟩ := Option.map_eq_some_iff.mp isWritten
    obtain ⟨short, rfl⟩ := keepAliveFrame_eq isFrame
    cases same
    have size : maxKeepAliveFrameLen = 86 := rfl
    rw [List.length_append, length_keepAlive, size]
    simp
    omega
  · intro candidateTs lastRoomTs text clientPubkey scope out isBuffer
    by_cases stale : candidateTs ≤ lastRoomTs
    · simp [stale, encodeRoomPostCheckedInto]
    · have encoded :=
        encodeRoomPostCheckedInto_eq crypto secret destHash srcHash stale
          text clientPubkey scope isBuffer
      have fits :=
        postFrame_fits_iff crypto secret destHash srcHash candidateTs text
          scope
      rw [encoded, ← fits, or_iff_right stale]
      split
      case isTrue inside =>
        simp [inside]
      case isFalse outside =>
        simp [outside]

/-- A scoped post of 139 bytes panics in its buffer. -/
theorem scoped_post_panics :
    encodeRoomPostCheckedInto
        (CryptoRecord.crypto ⟨[], [], [], []⟩) (Vector.replicate 32 0) 1 2
        1 0 (List.replicate 139 65) (Vector.replicate 32 0)
        (some (Vector.replicate 16 0))
        (List.replicate maxPostFrameLen 0) =
      .panicked := by
  have fits :=
    postFrame_fits_iff (CryptoRecord.crypto ⟨[], [], [], []⟩)
      (Vector.replicate 32 0) 1 2 1 (List.replicate 139 65)
      (some (Vector.replicate 16 0))
  rw [encodeRoomPostCheckedInto_eq _ _ _ _ (by decide) _ _ _
    List.length_replicate, if_neg (by rw [fits]; simp)]
  rfl

end Bounds

end MeshCadet
