import MeshCadet.BufferDecoders
import MeshCadet.RoomServer

namespace MeshCadet

/-!
# Posts and keep-alives at the room server double

A client posts with its own timestamp, which the double only compares with the
last one it saw from the client: an older one is a replay, the same one a retry.
The stored post carries the double's own time.  A keep-alive sets the client's
watermark, gives up a push that was not acknowledged, and is answered with the
number of posts the client has not read.
-/

open Outcome RingBuffer

/-- The hash with which the server acknowledges a keep-alive. -/
def keepAliveAckHash
    (crypto : Crypto)
    (timestamp forceSince : UInt32)
    (clientPubkey : Key) :
    Vector UInt8 4 :=
  computeAckHash crypto timestamp reqTypeKeepAlive
    (Bytes.u32ToLeBytes forceSince).toList clientPubkey

/-- A decoded acknowledgement of a keep-alive. -/
structure KeepAliveAck where
  ackHash : Vector UInt8 4
  unsyncedCount : UInt8
deriving Repr, DecidableEq

/-- The bytes of an acknowledgement. -/
def KeepAliveAck.payload
    (ack : KeepAliveAck) :
    List UInt8 :=
  ack.ackHash.toList ++ [ack.unsyncedCount]

/-- Decode the acknowledgement of a keep-alive. -/
def decodeKeepAliveAck
    (payload : List UInt8) :
    Except RoomCodecError KeepAliveAck :=
  if payload.length < 5 then
    .error .truncatedPayload
  else
    .ok
      { ackHash := Bytes.zeroPadded 4 payload
        unsyncedCount := payload.getD 4 0 }

/-- The acknowledgement of a keep-alive is read back. -/
theorem decodeKeepAliveAck_payload
    (ack : KeepAliveAck) :
    decodeKeepAliveAck ack.payload = .ok ack := by
  have isHash : Bytes.zeroPadded 4 ack.payload = ack.ackHash := by
    apply Vector.ext
    intro place inside
    simp [KeepAliveAck.payload, Bytes.zeroPadded,
      List.getD_eq_getElem?_getD, List.getElem?_append_left]
  have isCount : ack.payload.getD 4 0 = ack.unsyncedCount := by
    simp [KeepAliveAck.payload]
  have long : ¬ ack.payload.length < 5 := by
    simp [KeepAliveAck.payload]
  rw [decodeKeepAliveAck, if_neg long, isHash, isCount]

/-- A post that was decrypted. -/
structure PostRequest where
  timestamp : UInt32
  attempt : UInt8
  text : List UInt8
deriving Repr, DecidableEq

/-- Bytes of the buffer a post is decrypted into. -/
def postBuf : Nat :=
  256

/-- Read a post; only the plain subtype is one. -/
def readPost
    (crypto : Crypto)
    (secret : Key)
    (payload : List UInt8) :
    Outcome Unit PostRequest := do
  let (_, _, pt, ptLen) ←
    (decodeDmPayloadInto crypto secret payload
      (List.replicate postBuf 0)).mapFailure fun _ => ()
  let fields ← (decodeTxtMsgPlaintextIn pt ptLen).mapFailure fun _ => ()
  if fields.txtType ≠ .plain then
    .failed ()
  else do
    let text ← slice pt fields.textOffset ptLen
    pure
      { timestamp := fields.timestamp
        attempt := fields.attempt
        text := text.takeWhile fun byte => byte ≠ 0 }

/-- The hash with which the server acknowledges a post. -/
def PostRequest.ackHash
    (request : PostRequest)
    (crypto : Crypto)
    (clientPubkey : Key) :
    Vector UInt8 4 :=
  roomPostAckHash crypto request.timestamp request.attempt request.text
    clientPubkey

/-- A keep-alive that was decrypted. -/
structure KeepAliveRequest where
  timestamp : UInt32
  forceSince : UInt32
deriving Repr, DecidableEq

/-- Bytes of the buffer a keep-alive is decrypted into. -/
def keepAliveBuf : Nat :=
  32

/-- Read a keep-alive; the watermark may be missing from it. -/
def readKeepAlive
    (crypto : Crypto)
    (secret : Key)
    (payload : List UInt8) :
    Outcome Unit KeepAliveRequest := do
  let (_, _, pt, ptLen) ←
    (decodeDmPayloadInto crypto secret payload
      (List.replicate keepAliveBuf 0)).mapFailure fun _ => ()
  if ptLen < 5 then
    .failed ()
  else do
    let reqType ← index pt 4
    if reqType ≠ reqTypeKeepAlive then
      .failed ()
    else do
      let timestamp ← wordAt pt 0 4
      let forceSince ← if 9 ≤ ptLen then wordAt pt 5 9 else pure 0
      pure
        { timestamp := timestamp
          forceSince := forceSince }

namespace DoubleClient

/-- Remember the timestamp of a message. -/
def seen
    (timestamp : UInt32)
    (client : DoubleClient) :
    DoubleClient :=
  { client with lastTimestamp := timestamp }

/-- The client after a keep-alive: a watermark of zero leaves its own. -/
def keptAlive
    (request : KeepAliveRequest)
    (client : DoubleClient) :
    DoubleClient :=
  { client with
    lastTimestamp := request.timestamp
    syncSince :=
      if 0 < request.forceSince then
        request.forceSince
      else
        client.syncSince
    pendingAck := none }

end DoubleClient

/-- Count one more, saturating. -/
def saturatingSucc
    (count : UInt8) :
    UInt8 :=
  if count = 255 then 255 else count + 1

/-- Bytes of the buffer a login is decrypted into. -/
def loginBuf : Nat :=
  64

namespace RoomServerDouble

/-- Set the server's clock. -/
def setServerTime
    (server : RoomServerDouble)
    (time : UInt32) :
    RoomServerDouble :=
  { server with clock := { server.clock with currentTime := time } }

/-- Handle a login whose plaintext is written to a fixed buffer. -/
def handleLoginIn
    (server : RoomServerDouble)
    (crypto : Crypto)
    (payload : List UInt8) :
    Outcome Empty (RoomServerDouble × Option (List UInt8)) :=
  let senderPubkey : Key := Bytes.zeroPadded 32 (payload.drop 1)
  let secret := server.identity.ecdhSharedSecret crypto senderPubkey
  if payload.length < anonReqHeaderLen + 2 then
    .value (server, none)
  else if payload.getD 0 0 ≠ pubHash server.identity.pubkey then
    .value (server, none)
  else
    match macThenDecryptInto crypto (Crypto.aesKey secret) secret.toList
        (payload.drop anonReqHeaderLen) (List.replicate loginBuf 0) with
    | .panicked => .panicked
    | _ => .value (server.handleLogin crypto payload)

/-- Store a client's text under the server's own time. -/
def storePost
    (server : RoomServerDouble)
    (clientPubkey : Key)
    (text : List UInt8) :
    RoomServerDouble :=
  let (clock, serverTs) := server.clock.currentTimeUnique
  seedPost { server with clock := clock } clientPubkey serverTs text

/-- Remember the timestamp of a client's message. -/
def noted
    (server : RoomServerDouble)
    (clientPubkey : Key)
    (timestamp : UInt32) :
    RoomServerDouble :=
  { server with
    clients :=
      Search.updateFirst (DoubleClient.isClient clientPubkey)
        (DoubleClient.seen timestamp) server.clients }

/-- Accept a post: refuse a replay, drop the post of a client that may not post,
and acknowledge a retry without storing it again. -/
def acceptPost
    (server : RoomServerDouble)
    (crypto : Crypto)
    (clientPubkey : Key)
    (request : PostRequest) :
    RoomServerDouble × Option (Vector UInt8 4) :=
  match server.clientOf clientPubkey with
  | none => (server, none)
  | some client =>
      if request.timestamp < client.lastTimestamp then
        (server, none)
      else
        let noted := server.noted clientPubkey request.timestamp
        if ¬ client.permissions.canPost then
          (noted, none)
        else
          (if request.timestamp = client.lastTimestamp then
              noted
            else
              noted.storePost clientPubkey request.text,
            some (request.ackHash crypto clientPubkey))

/-- Handle a post; what is not accepted gets no acknowledgement. -/
def handlePost
    (server : RoomServerDouble)
    (crypto : Crypto)
    (clientPubkey : Key)
    (payload : List UInt8) :
    Outcome Empty (RoomServerDouble × Option (Vector UInt8 4)) :=
  match server.clientOf clientPubkey with
  | none => .value (server, none)
  | some client =>
      match readPost crypto client.sharedSecret payload with
      | .value request =>
          .value (server.acceptPost crypto clientPubkey request)
      | .failed _ => .value (server, none)
      | .panicked => .panicked

/-- The posts of others a client has not read, up to 255. -/
def unsyncedCount
    (server : RoomServerDouble)
    (client : DoubleClient) :
    UInt8 :=
  server.posts.toList.foldl
    (fun count post =>
      if post.isDue client.syncSince client.pubkey then
        saturatingSucc count
      else
        count)
    0

/-- Accept a keep-alive and count what the client has not read. -/
def acceptKeepAlive
    (server : RoomServerDouble)
    (crypto : Crypto)
    (clientPubkey : Key)
    (request : KeepAliveRequest) :
    RoomServerDouble × Option KeepAliveAck :=
  match server.clientOf clientPubkey with
  | none => (server, none)
  | some client =>
      if request.timestamp < client.lastTimestamp then
        (server, none)
      else
        ({ server with
            clients :=
              Search.updateFirst (DoubleClient.isClient clientPubkey)
                (DoubleClient.keptAlive request) server.clients },
          some
            { ackHash :=
                keepAliveAckHash crypto request.timestamp
                  request.forceSince clientPubkey
              unsyncedCount :=
                server.unsyncedCount (client.keptAlive request) })

/-- Handle a keep-alive; what is not accepted gets no acknowledgement. -/
def handleKeepAlive
    (server : RoomServerDouble)
    (crypto : Crypto)
    (clientPubkey : Key)
    (payload : List UInt8) :
    Outcome Empty (RoomServerDouble × Option (List UInt8)) :=
  match server.clientOf clientPubkey with
  | none => .value (server, none)
  | some client =>
      match readKeepAlive crypto client.sharedSecret payload with
      | .value request =>
          let (changed, ack) :=
            server.acceptKeepAlive crypto clientPubkey request
          .value (changed, ack.map KeepAliveAck.payload)
      | .failed _ => .value (server, none)
      | .panicked => .panicked

/-- What a post does: nothing if it is a replay, or it notes the timestamp of a client
that may not post, or of a retry, or it stores the text; the last two are
acknowledged. -/
theorem acceptPost_cases
    (server : RoomServerDouble)
    (crypto : Crypto)
    (clientPubkey : Key)
    (request : PostRequest) :
    (server.acceptPost crypto clientPubkey request = (server, none) ∧
      ∀ client,
        server.clientOf clientPubkey = some client →
          request.timestamp < client.lastTimestamp) ∨
      ∃ client,
        server.clientOf clientPubkey = some client ∧
          client.lastTimestamp ≤ request.timestamp ∧
          (client.permissions.canPost = false ∧
              server.acceptPost crypto clientPubkey request =
                (server.noted clientPubkey request.timestamp, none) ∨
            client.permissions.canPost = true ∧
              request.timestamp = client.lastTimestamp ∧
              server.acceptPost crypto clientPubkey request =
                (server.noted clientPubkey request.timestamp,
                  some (request.ackHash crypto clientPubkey)) ∨
            client.permissions.canPost = true ∧
              client.lastTimestamp < request.timestamp ∧
              server.acceptPost crypto clientPubkey request =
                ((server.noted clientPubkey request.timestamp).storePost
                    clientPubkey request.text,
                  some (request.ackHash crypto clientPubkey))) := by
  unfold acceptPost
  cases known : server.clientOf clientPubkey with
  | none =>
      refine .inl ⟨rfl, ?_⟩
      intro client isClient
      cases isClient
  | some client =>
      by_cases older : request.timestamp < client.lastTimestamp
      · refine .inl ⟨if_pos older, ?_⟩
        rintro _ ⟨⟩
        exact older
      · have notBefore : client.lastTimestamp ≤ request.timestamp :=
          UInt32.not_lt.mp older
        refine .inr ⟨client, rfl, notBefore, ?_⟩
        simp only [if_neg older]
        cases may : client.permissions.canPost with
        | false =>
            exact .inl ⟨rfl, rfl⟩
        | true =>
            by_cases retry : request.timestamp = client.lastTimestamp
            · refine .inr (.inl ⟨rfl, retry, ?_⟩)
              simp only [not_true_eq_false, if_false, if_pos retry]
            · have later : client.lastTimestamp < request.timestamp :=
                UInt32.lt_of_le_of_ne notBefore (Ne.symm retry)
              refine .inr (.inr ⟨rfl, later, ?_⟩)
              simp only [not_true_eq_false, if_false, if_neg retry]

/-- What a keep-alive does: nothing, or it is noted and answered. -/
theorem acceptKeepAlive_cases
    (server : RoomServerDouble)
    (crypto : Crypto)
    (clientPubkey : Key)
    (request : KeepAliveRequest) :
    server.acceptKeepAlive crypto clientPubkey request = (server, none) ∨
      ∃ client,
        server.clientOf clientPubkey = some client ∧
          client.lastTimestamp ≤ request.timestamp ∧
          server.acceptKeepAlive crypto clientPubkey request =
            ({ server with
                clients :=
                  Search.updateFirst (DoubleClient.isClient clientPubkey)
                    (DoubleClient.keptAlive request) server.clients },
              some
                { ackHash :=
                    keepAliveAckHash crypto request.timestamp
                      request.forceSince clientPubkey
                  unsyncedCount :=
                    server.unsyncedCount (client.keptAlive request) }) := by
  unfold acceptKeepAlive
  cases known : server.clientOf clientPubkey with
  | none =>
      exact .inl rfl
  | some client =>
      by_cases older : request.timestamp < client.lastTimestamp
      · exact .inl (if_pos older)
      · exact .inr ⟨client, rfl, UInt32.not_lt.mp older, if_neg older⟩

/-- Counting saturates only from 255 on. -/
theorem toNat_foldl_saturatingSucc
    {α : Type}
    (counted : α → Bool)
    (elements : List α)
    {start : UInt8}
    (few : start.toNat + elements.length < 256) :
    (elements.foldl
        (fun count element =>
          if counted element then saturatingSucc count else count)
        start).toNat =
      start.toNat + elements.countP counted := by
  induction elements generalizing start with
  | nil =>
      rfl
  | cons first rest inductionHypothesis =>
      simp only [List.length_cons] at few
      cases isCounted : counted first with
      | false =>
          simp only [List.foldl_cons, isCounted, Bool.false_eq_true,
            if_false, List.countP_cons]
          rw [inductionHypothesis (by omega), Nat.add_zero]
      | true =>
          have notMax : start ≠ 255 := by
            rintro rfl
            have isMax : (255 : UInt8).toNat = 255 := rfl
            omega
          have next : (saturatingSucc start).toNat = start.toNat + 1 := by
            rw [saturatingSucc, if_neg notMax, UInt8.toNat_add]
            exact Nat.mod_eq_of_lt (by change start.toNat + 1 < 256; omega)
          simp only [List.foldl_cons, isCounted, if_true,
            List.countP_cons]
          rw [inductionHypothesis (by omega), next]
          omega

/-- The posts in the queue that a client has not read, oldest first. -/
def due
    (server : RoomServerDouble)
    (client : DoubleClient) :
    List DoublePost :=
  server.visited.filter fun post =>
    post.isDue client.syncSince client.pubkey

/-- The count in an acknowledgement is the number of posts not read. -/
theorem toNat_unsyncedCount
    (server : RoomServerDouble)
    (client : DoubleClient) :
    (server.unsyncedCount client).toNat = (server.due client).length := by
  have few :
      (0 : UInt8).toNat + server.posts.toList.length < 256 := by
    rw [Vector.length_toList]
    decide
  have sameCount := (Ring.contents_perm
    (show server.postRing.count = maxUnsyncedPosts from rfl)).countP_eq
      fun post => post.isDue client.syncSince client.pubkey
  rw [unsyncedCount, toNat_foldl_saturatingSucc _ _ few, due,
    ← List.countP_eq_length_filter, visited, sameCount]
  exact Nat.zero_add _

end RoomServerDouble

/-- The post in a plaintext, if it is one. -/
def postOf
    (plaintext : List UInt8) :
    Option PostRequest :=
  match decodeTxtMsgPlaintext plaintext with
  | .error _ => none
  | .ok fields =>
      if fields.txtType ≠ .plain then
        none
      else
        some
          { timestamp := fields.timestamp
            attempt := fields.attempt
            text :=
              (plaintext.drop fields.textOffset).takeWhile
                fun byte => byte ≠ 0 }

/-- The keep-alive in a plaintext, if it is one. -/
def keepAliveOf
    (plaintext : List UInt8) :
    Option KeepAliveRequest :=
  if plaintext.length < 5 then
    none
  else if plaintext.getD 4 0 ≠ reqTypeKeepAlive then
    none
  else
    some
      { timestamp := leadingTimestamp plaintext
        forceSince :=
          if 9 ≤ plaintext.length then
            leadingTimestamp (plaintext.drop 5)
          else
            0 }

section Reading

variable {crypto : Crypto} {secret : Key} {payload : List UInt8}

/-- A text is read out of the buffer behind its fields. -/
theorem slice_text
    {Failure : Type}
    {plaintext : List UInt8}
    {offset : Nat}
    (inside : offset ≤ plaintext.length)
    (rest : List UInt8) :
    (slice (plaintext ++ rest) offset plaintext.length :
        Outcome Failure (List UInt8)) =
      .value (plaintext.drop offset) := by
  have inBuffer : plaintext.length ≤ (plaintext ++ rest).length := by
    rw [List.length_append]
    omega
  rw [slice_eq inside inBuffer, List.drop_append_of_le_length inside,
    ← List.length_drop, List.take_left]

/-- A payload that the buffer takes is read as its plaintext is. -/
theorem readPost_eq
    (fits : ¬ Overruns crypto secret payload postBuf) :
    readPost crypto secret payload =
      match decodeDmPayload crypto secret payload with
      | .error _ => .failed ()
      | .ok (_, _, plaintext) => ofOption (postOf plaintext) := by
  have buffer :
      (List.replicate postBuf (0 : UInt8)).length = postBuf :=
    List.length_replicate
  rw [← buffer] at fits
  rw [readPost]
  rcases decodeDmPayloadInto_fits fits with
    ⟨problem, refused, isFailed⟩ |
      ⟨destHash, srcHash, plaintext, decoded, isValue⟩
  · rw [isFailed, refused]
    rfl
  rw [isValue, decoded, mapFailure_value, value_bind]
  simp only
  rw [decodeTxtMsgPlaintextIn_eq, postOf]
  cases fieldsOf : decodeTxtMsgPlaintext plaintext with
  | error problem =>
      rfl
  | ok fields =>
      simp only [Outcome.ofExcept, mapFailure_value, value_bind]
      by_cases otherType : fields.txtType ≠ .plain
      · rw [if_pos otherType, if_pos otherType]
        rfl
      have inside : fields.textOffset ≤ plaintext.length := by
        unfold decodeTxtMsgPlaintext at fieldsOf
        split at fieldsOf
        · cases fieldsOf
        · cases fieldsOf
          change 5 ≤ plaintext.length
          omega
      rw [if_neg otherType, if_neg otherType, slice_text inside,
        value_bind]
      rfl

/-- A payload that overruns the buffer is a panic. -/
theorem readPost_overruns
    (overruns : Overruns crypto secret payload postBuf) :
    readPost crypto secret payload = .panicked := by
  have buffer :
      (List.replicate postBuf (0 : UInt8)).length = postBuf :=
    List.length_replicate
  rw [← buffer] at overruns
  rw [readPost, decodeDmPayloadInto_overruns overruns]
  rfl

/-- A payload that the buffer takes is read as its plaintext is. -/
theorem readKeepAlive_eq
    (fits : ¬ Overruns crypto secret payload keepAliveBuf) :
    readKeepAlive crypto secret payload =
      match decodeDmPayload crypto secret payload with
      | .error _ => .failed ()
      | .ok (_, _, plaintext) => ofOption (keepAliveOf plaintext) := by
  have buffer :
      (List.replicate keepAliveBuf (0 : UInt8)).length = keepAliveBuf :=
    List.length_replicate
  rw [← buffer] at fits
  rw [readKeepAlive]
  rcases decodeDmPayloadInto_fits fits with
    ⟨problem, refused, isFailed⟩ |
      ⟨destHash, srcHash, plaintext, decoded, isValue⟩
  · rw [isFailed, refused]
    rfl
  rw [isValue, decoded, mapFailure_value, value_bind]
  simp only
  rw [keepAliveOf]
  by_cases short : plaintext.length < 5
  · rw [if_pos short, if_pos short]
    rfl
  rw [if_neg short, if_neg short, index_front (by omega), value_bind]
  by_cases otherType : plaintext.getD 4 0 ≠ reqTypeKeepAlive
  · rw [if_pos otherType, if_pos otherType]
    rfl
  rw [if_neg otherType, if_neg otherType, wordAt_front (by omega),
    value_bind]
  by_cases hasSince : 9 ≤ plaintext.length
  · have word :
        ∀ rest,
          (wordAt (plaintext ++ rest) 5 9 : Outcome Unit UInt32) =
            .value (leadingTimestamp (plaintext.drop 5)) := by
      intro rest
      rw [wordAt, arrayAt_front hasSince rest rfl, value_bind]
      congr 1
    rw [if_pos hasSince, if_pos hasSince, word, value_bind]
    rfl
  · rw [if_neg hasSince, if_neg hasSince]
    rfl

/-- Only a payload made with the secret is read as a post, whose text has no zero
bytes. -/
theorem readPost_value
    {request : PostRequest}
    (isRead : readPost crypto secret payload = .value request) :
    Authenticates crypto secret payload ∧
      ∀ byte ∈ request.text, byte ≠ 0 := by
  by_cases overruns : Overruns crypto secret payload postBuf
  · rw [readPost_overruns overruns] at isRead
    cases isRead
  rw [readPost_eq overruns] at isRead
  cases decoded : decodeDmPayload crypto secret payload with
  | error problem =>
      rw [decoded] at isRead
      cases isRead
  | ok message =>
      rw [decoded] at isRead
      have isPost := ofOption_eq_value_iff.mp isRead
      refine ⟨decodeDmPayload_ok_iff.mp ⟨_, decoded⟩, ?_⟩
      unfold postOf at isPost
      split at isPost
      · cases isPost
      · split at isPost
        · cases isPost
        · cases isPost
          intro byte member isZero
          have kept := List.mem_takeWhile_imp member
          simp [isZero] at kept

/-- An encoded message of few blocks does not overrun a buffer. -/
theorem encodeDmPayload_fits
    {plaintext : List UInt8}
    {blocks bufferLen : Nat}
    (few : plaintext.length ≤ 16 * blocks)
    (room : 16 * blocks ≤ bufferLen)
    (destHash srcHash : UInt8) :
    ¬ Overruns crypto secret
      (encodeDmPayload crypto secret destHash srcHash plaintext)
      bufferLen := by
  rintro ⟨-, past⟩
  have encrypted :=
    length_encryptThenMac_le crypto (Crypto.aesKey secret) secret.toList few
  have dropped :
      ((encodeDmPayload crypto secret destHash srcHash plaintext).drop
        4).length =
        (crypto.encryptThenMac (Crypto.aesKey secret) secret.toList
          plaintext).length - 2 := by
    rw [List.length_drop]
    simp only [encodeDmPayload, List.length_append, List.length_cons,
      List.length_nil]
    omega
  omega

/-- The request that the server reads in a client's post. -/
def postRequest
    (timestamp : UInt32)
    (attempt : UInt8)
    (text : List UInt8) :
    PostRequest :=
  { timestamp := timestamp
    attempt := attempt &&& 0x03
    text := (text.take maxPostTextLen).takeWhile fun byte => byte ≠ 0 }

/-- A client's post is read. -/
theorem readPost_encode
    (inverse : crypto.DecryptsEncrypted)
    (destHash srcHash : UInt8)
    (timestamp : UInt32)
    (attempt : UInt8)
    (text : List UInt8) :
    readPost crypto secret
        (encodeRoomPost crypto secret destHash srcHash timestamp attempt
          text) =
      .value (postRequest timestamp attempt text) := by
  have isPlaintext :
      postPlaintext timestamp attempt text =
        encodeTxtMsgPlaintext timestamp 0 attempt
          (text.take maxPostTextLen ++ [0]) := by
    simp [postPlaintext, encodeTxtMsgPlaintext]
  have few : (postPlaintext timestamp attempt text).length ≤ 16 * 10 := by
    simp [postPlaintext, maxPostTextLen]
    omega
  have isText :
      (text.take maxPostTextLen ++ [0]).takeWhile (fun byte => byte ≠ 0) =
        (text.take maxPostTextLen).takeWhile fun byte => byte ≠ 0 :=
    takeWhile_zeros _ 1
  have isType : TxtType.fromByte 0 = .plain := rfl
  rw [encodeRoomPost,
    readPost_eq (encodeDmPayload_fits few (by decide) destHash srcHash),
    decodeDmPayload_encode inverse, isPlaintext]
  simp only
  rw [postOf,
    decodeTxtMsgPlaintext_encode timestamp (show (0 : UInt8) < 64 by decide)]
  simp only [isType, ne_eq, not_true_eq_false, if_false]
  rw [text_encode, isText]
  rfl

/-- A client's keep-alive is read. -/
theorem readKeepAlive_encode
    (inverse : crypto.DecryptsEncrypted)
    (destHash srcHash : UInt8)
    (timestamp forceSince : UInt32) :
    readKeepAlive crypto secret
        (encodeKeepAlive crypto secret destHash srcHash timestamp
          forceSince) =
      .value
        { timestamp := timestamp
          forceSince := forceSince } := by
  have few : (keepAlivePlaintext timestamp forceSince).length ≤ 16 * 1 := by
    simp [keepAlivePlaintext]
  obtain ⟨zeros, padded⟩ :
      ∃ zeros,
        Blocks.padded 16 (keepAlivePlaintext timestamp forceSince) =
          (Bytes.u32ToLeBytes timestamp).toList ++
            ([reqTypeKeepAlive] ++
              ((Bytes.u32ToLeBytes forceSince).toList ++
                List.replicate zeros 0)) := by
    rw [Blocks.padded_eq_append (by decide)]
    exact ⟨_, by simp [keepAlivePlaintext]; rfl⟩
  have long :
      9 ≤ (Blocks.padded 16
        (keepAlivePlaintext timestamp forceSince)).length := by
    rw [padded]
    simp
    omega
  have isTimestamp :
      leadingTimestamp
          (Blocks.padded 16 (keepAlivePlaintext timestamp forceSince)) =
        timestamp :=
    leadingTimestamp_padded timestamp _
  have isType :
      (Blocks.padded 16 (keepAlivePlaintext timestamp forceSince)).getD
          4 0 =
        reqTypeKeepAlive := by
    rw [padded]
    rfl
  have isSince :
      leadingTimestamp
          ((Blocks.padded 16
            (keepAlivePlaintext timestamp forceSince)).drop 5) =
        forceSince := by
    rw [padded, ← List.append_assoc, List.drop_left' (by simp)]
    exact Bytes.u32FromLeBytes_toLeBytes forceSince
  rw [encodeKeepAlive,
    readKeepAlive_eq
      (encodeDmPayload_fits few (by decide) destHash srcHash),
    decodeDmPayload_encode inverse]
  simp only
  rw [keepAliveOf, if_neg (by omega), isType,
    if_neg (not_not_intro rfl), if_pos long, isTimestamp, isSince]
  rfl

end Reading

end MeshCadet
