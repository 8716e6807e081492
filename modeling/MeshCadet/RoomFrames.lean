import MeshCadet.FloodFrames
import MeshCadet.RoomSession
import MeshCadet.TxQueue

namespace MeshCadet

/-!
# Frames for a room server

A login and a post are flooded, a keep-alive goes straight over the learned
route.  The plaintext of each starts with a timestamp, which the server compares
with the last one it saw from the client.
-/

/-- Bytes of a login payload in front of its code. -/
def anonReqHeaderLen : Nat :=
  33

/-- Bytes of text a post carries. -/
def maxPostTextLen : Nat :=
  150

/-- The request type of a keep-alive. -/
def reqTypeKeepAlive : UInt8 :=
  0x02

/-- The plaintext of a login; the password is cut and ends in a zero. -/
def loginPlaintext
    (timestamp syncSince : UInt32)
    (password : List UInt8) :
    List UInt8 :=
  (Bytes.u32ToLeBytes timestamp).toList ++
    ((Bytes.u32ToLeBytes syncSince).toList ++
      (password.take (maxLoginPasswordLen - 1) ++ [0]))

/-- Encode a login; the client's whole key stands in front of the code. -/
def encodeAnonReqLogin
    (crypto : Crypto)
    (secret : Key)
    (destHash : UInt8)
    (senderPubkey : Key)
    (timestamp syncSince : UInt32)
    (password : List UInt8) :
    List UInt8 :=
  destHash :: senderPubkey.toList ++
    crypto.encryptThenMac (Crypto.aesKey secret) secret.toList
      (loginPlaintext timestamp syncSince password)

/-- The flooded frame of a login. -/
def encodeRoomLoginFrame
    (crypto : Crypto)
    (secret : Key)
    (destHash : UInt8)
    (senderPubkey : Key)
    (timestamp syncSince : UInt32)
    (password : List UInt8)
    (scope : Option (Vector UInt8 16)) :
    List UInt8 :=
  assembleFloodFrame crypto scope .anonReq zeroHops
    (encodeAnonReqLogin crypto secret destHash senderPubkey timestamp
      syncSince password)

/-- The plaintext of a post; the text is cut and ends in a zero. -/
def postPlaintext
    (timestamp : UInt32)
    (attempt : UInt8)
    (text : List UInt8) :
    List UInt8 :=
  (Bytes.u32ToLeBytes timestamp).toList ++
    ([((0 : UInt8) <<< 2) ||| (attempt &&& 0x03)] ++
      (text.take maxPostTextLen ++ [0]))

/-- Encode a post. -/
def encodeRoomPost
    (crypto : Crypto)
    (secret : Key)
    (destHash srcHash : UInt8)
    (timestamp : UInt32)
    (attempt : UInt8)
    (text : List UInt8) :
    List UInt8 :=
  encodeDmPayload crypto secret destHash srcHash
    (postPlaintext timestamp attempt text)

/-- The hash with which the server acknowledges a post. -/
def roomPostAckHash
    (crypto : Crypto)
    (timestamp : UInt32)
    (attempt : UInt8)
    (text : List UInt8)
    (clientPubkey : Key) :
    Vector UInt8 4 :=
  computeAckHash crypto timestamp
    (((0 : UInt8) <<< 2) ||| (attempt &&& 0x03)) text clientPubkey

/-- Why a post is not encoded. -/
inductive RoomPostError where
  | nonMonotonicTimestamp
deriving Repr, DecidableEq

/-- The flooded frame of a post and the hash that will acknowledge it, unless the
timestamp is not above the last one the server saw. -/
def encodeRoomPostChecked
    (crypto : Crypto)
    (secret : Key)
    (destHash srcHash : UInt8)
    (candidateTs lastRoomTs : UInt32)
    (text : List UInt8)
    (clientPubkey : Key)
    (scope : Option (Vector UInt8 16)) :
    Except RoomPostError (List UInt8 × Vector UInt8 4) :=
  if candidateTs ≤ lastRoomTs then
    .error .nonMonotonicTimestamp
  else
    .ok
      (assembleFloodFrame crypto scope .txtMsg zeroHops
          (encodeRoomPost crypto secret destHash srcHash candidateTs 0 text),
        roomPostAckHash crypto candidateTs 0 (text.take maxPostTextLen)
          clientPubkey)

/-- The plaintext of a keep-alive. -/
def keepAlivePlaintext
    (timestamp forceSince : UInt32) :
    List UInt8 :=
  (Bytes.u32ToLeBytes timestamp).toList ++
    ([reqTypeKeepAlive] ++ (Bytes.u32ToLeBytes forceSince).toList)

/-- Encode a keep-alive. -/
def encodeKeepAlive
    (crypto : Crypto)
    (secret : Key)
    (destHash srcHash : UInt8)
    (timestamp forceSince : UInt32) :
    List UInt8 :=
  encodeDmPayload crypto secret destHash srcHash
    (keepAlivePlaintext timestamp forceSince)

/-- The frame of a keep-alive, if the route can be written out. -/
def encodeRoomKeepAliveFrame
    (crypto : Crypto)
    (secret : Key)
    (destHash srcHash : UInt8)
    (outPath : List UInt8)
    (timestamp forceSince : UInt32) :
    Option (List UInt8) :=
  (encodeRoomDirectPrefix .req outPath).map fun directPrefix =>
    directPrefix ++
      encodeKeepAlive crypto secret destHash srcHash timestamp forceSince

/-- Bytes of a payload in front of its code. -/
def envelopeLen
    (payloadType : UInt8) :
    Nat :=
  if payloadType = PayloadType.anonReq.toU8 then
    anonReqHeaderLen
  else
    2

/-- The timestamp the server reads in a frame. -/
def frameTimestamp
    (crypto : Crypto)
    (secret : Key)
    (frame : List UInt8) :
    Option UInt32 :=
  match packetPayloadView frame with
  | some (payloadType, payload) =>
      (crypto.macThenDecrypt (Crypto.aesKey secret) secret.toList
        (payload.drop (envelopeLen payloadType))).map leadingTimestamp
  | none => none

/-- A leading word is read back from a padded plaintext. -/
theorem leadingTimestamp_padded
    (timestamp : UInt32)
    (rest : List UInt8) :
    leadingTimestamp
        (Blocks.padded 16
          ((Bytes.u32ToLeBytes timestamp).toList ++ rest)) =
      timestamp := by
  have unpadded :
      leadingTimestamp ((Bytes.u32ToLeBytes timestamp).toList ++ rest) =
        timestamp :=
    Bytes.u32FromLeBytes_toLeBytes timestamp
  refine Eq.trans ?_ unpadded
  simp only [leadingTimestamp, Blocks.getD_padded (show 0 < 16 by decide)]

/-- The payload of a frame sent straight over a short route is found again. -/
theorem packetPayloadView_direct
    (payloadType : PayloadType)
    {outPath : List UInt8}
    (short : outPath.length ≤ 63)
    (payload : List UInt8) :
    packetPayloadView
        ([Header.new .direct payloadType, UInt8.ofNat outPath.length] ++
          outPath ++ payload) =
      some (payloadType.toU8, payload) := by
  have dropped :
      ([Header.new .direct payloadType, UInt8.ofNat outPath.length] ++
          outPath ++ payload).drop (2 + outPath.length) =
        payload :=
    List.drop_left' (by simp; omega)
  simp only [packetPayloadView, parse_direct payloadType short,
    directHeader, Header.payloadTypeBits_new, dropped]

/-- The code and the ciphertext of a plaintext of so many blocks. -/
theorem length_encryptThenMac_le
    (crypto : Crypto)
    (key : Vector UInt8 16)
    (hmacKey : List UInt8)
    {plaintext : List UInt8}
    {blocks : Nat}
    (few : plaintext.length ≤ 16 * blocks) :
    (crypto.encryptThenMac key hmacKey plaintext).length ≤
      2 + 16 * blocks := by
  have count : Blocks.count 16 plaintext ≤ blocks := by
    simp only [Blocks.count]
    omega
  simp [Crypto.encryptThenMac, Crypto.aes128EcbEncrypt]
  omega

/-- Flooding puts at most six bytes in front of a payload. -/
theorem length_assembleFloodFrame_le
    (crypto : Crypto)
    (scope : Option (Vector UInt8 16))
    (payloadType : PayloadType)
    (payload : List UInt8) :
    (assembleFloodFrame crypto scope payloadType zeroHops payload).length ≤
      6 + payload.length := by
  cases scope <;> simp [assembleFloodFrame] <;> omega

/-- The frame of a login fits a frame buffer. -/
theorem length_loginFrame_le
    (crypto : Crypto)
    (secret : Key)
    (destHash : UInt8)
    (senderPubkey : Key)
    (timestamp syncSince : UInt32)
    (password : List UInt8)
    (scope : Option (Vector UInt8 16)) :
    (encodeRoomLoginFrame crypto secret destHash senderPubkey timestamp
      syncSince password scope).length ≤ frameBuf := by
  have plaintext :
      (loginPlaintext timestamp syncSince password).length ≤ 16 * 2 := by
    simp [loginPlaintext, maxLoginPasswordLen]
    omega
  have encrypted :=
    length_encryptThenMac_le crypto (Crypto.aesKey secret) secret.toList
      plaintext
  have payload :
      (encodeAnonReqLogin crypto secret destHash senderPubkey timestamp
        syncSince password).length ≤ 67 := by
    simp [encodeAnonReqLogin]
    omega
  have framed :=
    length_assembleFloodFrame_le crypto scope .anonReq
      (encodeAnonReqLogin crypto secret destHash senderPubkey timestamp
        syncSince password)
  simp only [encodeRoomLoginFrame, frameBuf]
  omega

/-- The frame of a post fits a frame buffer. -/
theorem length_postFrame_le
    {crypto : Crypto}
    {secret : Key}
    {destHash srcHash : UInt8}
    {candidateTs lastRoomTs : UInt32}
    {text : List UInt8}
    {clientPubkey : Key}
    {scope : Option (Vector UInt8 16)}
    {frame : List UInt8}
    {ackHash : Vector UInt8 4}
    (encoded :
      encodeRoomPostChecked crypto secret destHash srcHash candidateTs
          lastRoomTs text clientPubkey scope =
        .ok (frame, ackHash)) :
    frame.length ≤ frameBuf := by
  unfold encodeRoomPostChecked at encoded
  split at encoded
  · cases encoded
  · cases encoded
    have plaintext :
        (postPlaintext candidateTs 0 text).length ≤ 16 * 10 := by
      simp [postPlaintext, maxPostTextLen]
      omega
    have encrypted :=
      length_encryptThenMac_le crypto (Crypto.aesKey secret)
        secret.toList plaintext
    have payload :
        (encodeRoomPost crypto secret destHash srcHash candidateTs 0
          text).length ≤ 164 := by
      simp [encodeRoomPost, encodeDmPayload]
      omega
    have framed :=
      length_assembleFloodFrame_le crypto scope .txtMsg
        (encodeRoomPost crypto secret destHash srcHash candidateTs 0 text)
    simp only [frameBuf]
    omega

/-- A keep-alive is written only over a route of up to 63 bytes. -/
theorem keepAliveFrame_eq
    {crypto : Crypto}
    {secret : Key}
    {destHash srcHash : UInt8}
    {outPath : List UInt8}
    {timestamp forceSince : UInt32}
    {frame : List UInt8}
    (encoded :
      encodeRoomKeepAliveFrame crypto secret destHash srcHash outPath
          timestamp forceSince =
        some frame) :
    outPath.length ≤ 63 ∧
      frame =
        [Header.new .direct .req, UInt8.ofNat outPath.length] ++ outPath ++
          encodeKeepAlive crypto secret destHash srcHash timestamp
            forceSince := by
  obtain ⟨directPrefix, written, rfl⟩ :=
    Option.map_eq_some_iff.mp encoded
  have short : outPath.length ≤ 63 := by
    by_contra long
    rw [encodeRoomDirectPrefix_long .req (by omega)] at written
    cases written
  rw [encodeRoomDirectPrefix_short .req short] at written
  cases written
  exact ⟨short, rfl⟩

/-- The frame of a keep-alive fits a frame buffer. -/
theorem length_keepAliveFrame_le
    {crypto : Crypto}
    {secret : Key}
    {destHash srcHash : UInt8}
    {outPath : List UInt8}
    {timestamp forceSince : UInt32}
    {frame : List UInt8}
    (encoded :
      encodeRoomKeepAliveFrame crypto secret destHash srcHash outPath
          timestamp forceSince =
        some frame) :
    frame.length ≤ frameBuf := by
  obtain ⟨short, rfl⟩ := keepAliveFrame_eq encoded
  have plaintext :
      (keepAlivePlaintext timestamp forceSince).length ≤ 16 * 1 := by
    simp [keepAlivePlaintext]
  have encrypted :=
    length_encryptThenMac_le crypto (Crypto.aesKey secret) secret.toList
      plaintext
  simp [encodeKeepAlive, encodeDmPayload, frameBuf]
  omega

section Timestamps

variable
    {crypto : Crypto}
    (inverse : crypto.DecryptsEncrypted)
    (secret : Key)
    (destHash srcHash : UInt8)
    (timestamp : UInt32)

include inverse

/-- The server reads the word that leads a plaintext it can decrypt. -/
theorem frameTimestamp_eq
    (plaintext : List UInt8)
    {frame payload : List UInt8}
    {payloadType : UInt8}
    (leads :
      leadingTimestamp (Blocks.padded 16 plaintext) = timestamp)
    (view : packetPayloadView frame = some (payloadType, payload))
    (encrypted :
      payload.drop (envelopeLen payloadType) =
        crypto.encryptThenMac (Crypto.aesKey secret) secret.toList
          plaintext) :
    frameTimestamp crypto secret frame = some timestamp := by
  simp only [frameTimestamp, view, encrypted,
    Crypto.macThenDecrypt_encryptThenMac inverse, Option.map_some, leads]

/-- The server reads the timestamp of a login. -/
theorem frameTimestamp_login
    (senderPubkey : Key)
    (syncSince : UInt32)
    (password : List UInt8)
    (scope : Option (Vector UInt8 16)) :
    frameTimestamp crypto secret
        (encodeRoomLoginFrame crypto secret destHash senderPubkey timestamp
          syncSince password scope) =
      some timestamp := by
  refine frameTimestamp_eq inverse secret timestamp
    (loginPlaintext timestamp syncSince password)
    (leadingTimestamp_padded timestamp _)
    (packetPayloadView_assemble crypto scope .anonReq _) ?_
  exact List.drop_left' (by simp [envelopeLen, anonReqHeaderLen])

/-- The server reads the timestamp of a post. -/
theorem frameTimestamp_post
    {lastRoomTs : UInt32}
    {text : List UInt8}
    {clientPubkey : Key}
    {scope : Option (Vector UInt8 16)}
    {frame : List UInt8}
    {ackHash : Vector UInt8 4}
    (encoded :
      encodeRoomPostChecked crypto secret destHash srcHash timestamp
          lastRoomTs text clientPubkey scope =
        .ok (frame, ackHash)) :
    frameTimestamp crypto secret frame = some timestamp := by
  unfold encodeRoomPostChecked at encoded
  split at encoded
  · cases encoded
  · cases encoded
    refine frameTimestamp_eq inverse secret timestamp
      (postPlaintext timestamp 0 text)
      (leadingTimestamp_padded timestamp _)
      (packetPayloadView_assemble crypto scope .txtMsg _) ?_
    exact List.drop_left' (by simp [envelopeLen, PayloadType.toU8])

/-- The server reads the timestamp of a keep-alive. -/
theorem frameTimestamp_keepAlive
    {outPath : List UInt8}
    {forceSince : UInt32}
    {frame : List UInt8}
    (encoded :
      encodeRoomKeepAliveFrame crypto secret destHash srcHash outPath
          timestamp forceSince =
        some frame) :
    frameTimestamp crypto secret frame = some timestamp := by
  obtain ⟨short, rfl⟩ := keepAliveFrame_eq encoded
  refine frameTimestamp_eq inverse secret timestamp
    (keepAlivePlaintext timestamp forceSince)
    (leadingTimestamp_padded timestamp _)
    (packetPayloadView_direct .req short _) ?_
  exact List.drop_left' (by simp [envelopeLen, PayloadType.toU8])

end Timestamps

end MeshCadet
