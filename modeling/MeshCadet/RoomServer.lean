import MeshCadet.RingBuffer
import MeshCadet.RoomFrames
import MeshCadet.RoomPushes
import MeshCadet.Search
import MeshCadet.WatermarkLog

namespace MeshCadet

open RingBuffer

/-!
# The room server double

The double stands in for a room server in tests.  It keeps a few clients and the
last posts, and pushes to each client one post at a time: the next one goes out
only when the last one is acknowledged, or after the client logged in again.
-/

/-- Clients the double keeps. -/
def maxRoomClients : Nat :=
  8

/-- Posts the double keeps. -/
def maxUnsyncedPosts : Nat :=
  32

/-- A client of the double. -/
structure DoubleClient where
  used : Bool
  pubkey : Key
  sharedSecret : Key
  permissions : RoomPermission
  syncSince : UInt32
  lastTimestamp : UInt32
  pendingAck : Option (Vector UInt8 4)
  pushPostTs : UInt32
deriving Repr, DecidableEq

namespace DoubleClient

/-- A slot for a client. -/
def empty : DoubleClient :=
  { used := false
    pubkey := Vector.replicate 32 0
    sharedSecret := Vector.replicate 32 0
    permissions := .guest
    syncSince := 0
    lastTimestamp := 0
    pendingAck := none
    pushPostTs := 0 }

/-- The slot is the client's with this key. -/
def isClient
    (pubkey : Key)
    (client : DoubleClient) :
    Bool :=
  client.used && client.pubkey == pubkey

/-- Wait for the acknowledgement of a push. -/
def awaiting
    (ackHash : Vector UInt8 4)
    (postTs : UInt32)
    (client : DoubleClient) :
    DoubleClient :=
  { client with
    pendingAck := some ackHash
    pushPostTs := postTs }

/-- The last push was acknowledged. -/
def acknowledged
    (client : DoubleClient) :
    DoubleClient :=
  { client with
    pendingAck := none
    syncSince := client.pushPostTs }

end DoubleClient

/-- A post; its text is already cut. -/
structure DoublePost where
  used : Bool
  authorPubkey : Key
  timestamp : UInt32
  text : List UInt8
deriving Repr, DecidableEq

namespace DoublePost

/-- A slot for a post. -/
def empty : DoublePost :=
  { used := false
    authorPubkey := Vector.replicate 32 0
    timestamp := 0
    text := [] }

/-- A post as it is kept. -/
def new
    (authorPubkey : Key)
    (timestamp : UInt32)
    (text : List UInt8) :
    DoublePost :=
  { used := true
    authorPubkey := authorPubkey
    timestamp := timestamp
    text := text.take maxPostTextLen }

/-- The first bytes of the author's key. -/
def authorPrefix
    (post : DoublePost) :
    Vector UInt8 4 :=
  Bytes.zeroPadded 4 post.authorPubkey.toList

/-- The plaintext of the post's push, on its first attempt. -/
def pushPlaintext
    (post : DoublePost) :
    List UInt8 :=
  encodeTxtMsgPlaintext post.timestamp 2 0
    (post.authorPrefix.toList ++ post.text)

/-- The hash with which a client acknowledges the post's push. -/
def ackHash
    (post : DoublePost)
    (crypto : Crypto)
    (clientPubkey : Key) :
    Vector UInt8 4 :=
  computeAckHash crypto post.timestamp
    (((2 : UInt8) <<< 2) ||| ((0 : UInt8) &&& 0x03))
    (post.authorPrefix.toList ++ post.text) clientPubkey

/-- The post is one to push to a client that has read up to a timestamp. -/
def isDue
    (post : DoublePost)
    (syncSince : UInt32)
    (clientPubkey : Key) :
    Bool :=
  post.used && (decide (syncSince < post.timestamp) &&
    post.authorPubkey != clientPubkey)

/-- Posts are ordered by their timestamps. -/
def order
    (post : DoublePost) :
    Nat :=
  post.timestamp.toNat

/-- What a client reads in the post's push. -/
def carried
    (post : DoublePost) :
    RoomPush :=
  { postTs := post.timestamp
    attempt := 0
    authorPubkeyPrefix := post.authorPrefix
    text := post.text }

end DoublePost

/-- The double's clock; no reading is given out twice. -/
structure ServerClock where
  currentTime : UInt32
  lastUnique : UInt32
deriving Repr, DecidableEq

/-- The time, or the second after the last reading. -/
def ServerClock.currentTimeUnique
    (clock : ServerClock) :
    ServerClock × UInt32 :=
  if clock.currentTime ≤ clock.lastUnique then
    ({ clock with lastUnique := clock.lastUnique + 1 },
      clock.lastUnique + 1)
  else
    ({ clock with lastUnique := clock.currentTime }, clock.currentTime)

/-- The double. -/
structure RoomServerDouble where
  identity : Identity
  adminPassword : List UInt8
  guestPassword : List UInt8
  allowReadOnly : Bool
  clients : List DoubleClient
  posts : Vector DoublePost maxUnsyncedPosts
  nextPostIdx : Nat
  clock : ServerClock
  nextInside : nextPostIdx < maxUnsyncedPosts
deriving DecidableEq

/-- A login that was addressed to the double and decrypted. -/
structure LoginRequest where
  senderPubkey : Key
  sharedSecret : Key
  timestamp : UInt32
  syncSince : UInt32
  password : List UInt8
deriving Repr, DecidableEq

/-- The slot of a client after an accepted login. -/
def DoubleClient.loggedIn
    (request : LoginRequest)
    (permissions : RoomPermission)
    (client : DoubleClient) :
    DoubleClient :=
  { client with
    used := true
    pubkey := request.senderPubkey
    sharedSecret := request.sharedSecret
    permissions := permissions
    syncSince := request.syncSince
    lastTimestamp := request.timestamp
    pendingAck := none }

/-- The plaintext of the reply to a login. -/
def loginReply
    (serverTs : UInt32)
    (permissions : RoomPermission) :
    List UInt8 :=
  (Bytes.u32ToLeBytes serverTs).toList ++
    [0, 0,
      match permissions with
      | .admin => 1
      | .guest => 2
      | _ => 0,
      permissions.toU8, 0xAA, 0xBB, 0xCC, 0xDD, 1]

namespace RoomServerDouble

/-- A double without clients and posts; passwords are cut. -/
def new
    (identity : Identity)
    (adminPassword guestPassword : List UInt8)
    (allowReadOnly : Bool) :
    RoomServerDouble :=
  { identity := identity
    adminPassword := adminPassword.take (maxLoginPasswordLen - 1)
    guestPassword := guestPassword.take (maxLoginPasswordLen - 1)
    allowReadOnly := allowReadOnly
    clients := List.replicate maxRoomClients .empty
    posts := Vector.replicate maxUnsyncedPosts .empty
    nextPostIdx := 0
    clock :=
      { currentTime := 0
        lastUnique := 0 }
    nextInside := by decide }

/-- The client with a key. -/
def clientOf
    (server : RoomServerDouble)
    (pubkey : Key) :
    Option DoubleClient :=
  server.clients.find? (DoubleClient.isClient pubkey)

/-- The slot for a client is its own one, or else a free one. -/
def isSlotFor
    (server : RoomServerDouble)
    (pubkey : Key)
    (client : DoubleClient) :
    Bool :=
  if (server.clientOf pubkey).isSome then
    client.isClient pubkey
  else
    !client.used

/-- Read a login that is addressed to the double. -/
def readLogin
    (server : RoomServerDouble)
    (crypto : Crypto)
    (payload : List UInt8) :
    Option LoginRequest :=
  if payload.length < anonReqHeaderLen + 2 then
    none
  else if payload.getD 0 0 ≠ pubHash server.identity.pubkey then
    none
  else
    let senderPubkey : Key := Bytes.zeroPadded 32 (payload.drop 1)
    let secret := server.identity.ecdhSharedSecret crypto senderPubkey
    match crypto.macThenDecrypt (Crypto.aesKey secret) secret.toList
        (payload.drop anonReqHeaderLen) with
    | none => none
    | some plaintext =>
        if plaintext.length < 9 then
          none
        else
          some
            { senderPubkey := senderPubkey
              sharedSecret := secret
              timestamp := leadingTimestamp plaintext
              syncSince := leadingTimestamp (plaintext.drop 4)
              password :=
                (plaintext.drop 8).takeWhile fun byte => byte ≠ 0 }

/-- The role a password earns, if it earns a reply. -/
def permissionsFor
    (server : RoomServerDouble)
    (password : List UInt8) :
    Option RoomPermission :=
  if password ≠ [] ∧ password = server.adminPassword then
    some .admin
  else if password ≠ [] ∧ password = server.guestPassword then
    some .readWrite
  else if server.allowReadOnly then
    some .guest
  else
    none

/-- Register a client, or refuse a timestamp it has used. -/
def acceptLogin
    (server : RoomServerDouble)
    (crypto : Crypto)
    (request : LoginRequest)
    (permissions : RoomPermission) :
    RoomServerDouble × Option (List UInt8) :=
  match server.clients.find? (server.isSlotFor request.senderPubkey) with
  | none => (server, none)
  | some slot =>
      if slot.used ∧ request.timestamp ≤ slot.lastTimestamp then
        (server, none)
      else
        let (clock, serverTs) := server.clock.currentTimeUnique
        ({ server with
            clients :=
              Search.updateFirst (server.isSlotFor request.senderPubkey)
                (DoubleClient.loggedIn request permissions) server.clients
            clock := clock },
          some
            (encodeDmPayload crypto request.sharedSecret
              (pubHash request.senderPubkey)
              (pubHash server.identity.pubkey)
              (loginReply serverTs permissions)))

/-- Handle a login; what is not accepted gets no reply. -/
def handleLogin
    (server : RoomServerDouble)
    (crypto : Crypto)
    (payload : List UInt8) :
    RoomServerDouble × Option (List UInt8) :=
  match server.readLogin crypto payload with
  | none => (server, none)
  | some request =>
      match server.permissionsFor request.password with
      | none => (server, none)
      | some permissions => server.acceptLogin crypto request permissions

/-- Put a post into the queue, in the place of the oldest one. -/
def seedPost
    (server : RoomServerDouble)
    (authorPubkey : Key)
    (timestamp : UInt32)
    (text : List UInt8) :
    RoomServerDouble :=
  { server with
    posts :=
      server.posts.set server.nextPostIdx
        (.new authorPubkey timestamp text) server.nextInside
    nextPostIdx := (server.nextPostIdx + 1) % maxUnsyncedPosts
    nextInside := Nat.mod_lt _ (by decide) }

/-- The queue as a ring, which starts at the place of the next post. -/
def postRing
    (server : RoomServerDouble) :
    Ring DoublePost maxUnsyncedPosts :=
  { slots := server.posts
    head := server.nextPostIdx
    count := maxUnsyncedPosts
    headInside := server.nextInside
    fits := Nat.le_refl _ }

/-- The places of the queue in the order in which a push visits them. -/
def visited
    (server : RoomServerDouble) :
    List DoublePost :=
  server.postRing.contents

/-- Push the first post that is due, unless a push waits for its
acknowledgement. -/
def pushNext
    (server : RoomServerDouble)
    (crypto : Crypto)
    (clientPubkey : Key) :
    RoomServerDouble × Option (List UInt8) :=
  match server.clientOf clientPubkey with
  | none => (server, none)
  | some client =>
      if client.pendingAck.isSome then
        (server, none)
      else
        match server.visited.find? fun post =>
            post.isDue client.syncSince clientPubkey with
        | none => (server, none)
        | some post =>
            ({ server with
                clients :=
                  Search.updateFirst (DoubleClient.isClient clientPubkey)
                    (DoubleClient.awaiting
                      (post.ackHash crypto clientPubkey) post.timestamp)
                    server.clients },
              some
                (encodeDmPayload crypto client.sharedSecret
                  (pubHash clientPubkey) (pubHash server.identity.pubkey)
                  post.pushPlaintext))

/-- Handle an acknowledgement; only the one waited for means anything. -/
def handleAck
    (server : RoomServerDouble)
    (clientPubkey : Key)
    (ack : Vector UInt8 4) :
    RoomServerDouble × Bool :=
  match server.clientOf clientPubkey with
  | none => (server, false)
  | some client =>
      if client.pendingAck = some ack then
        ({ server with
            clients :=
              Search.updateFirst (DoubleClient.isClient clientPubkey)
                DoubleClient.acknowledged server.clients },
          true)
      else
        (server, false)

/-- What a padded login plaintext is made of. -/
theorem padded_loginPlaintext
    (timestamp syncSince : UInt32)
    (password : List UInt8) :
    ∃ zeros,
      Blocks.padded 16 (loginPlaintext timestamp syncSince password) =
        (Bytes.u32ToLeBytes timestamp).toList ++
          ((Bytes.u32ToLeBytes syncSince).toList ++
            (password.take (maxLoginPasswordLen - 1) ++
              List.replicate (zeros + 1) 0)) := by
  rw [Blocks.padded_eq_append (by decide)]
  generalize
    16 * Blocks.count 16 (loginPlaintext timestamp syncSince password) -
      (loginPlaintext timestamp syncSince password).length = zeros
  exact ⟨zeros, by simp [loginPlaintext, List.replicate_succ]⟩

/-- The request that the double reads in a client's login. -/
def loginRequest
    (server : RoomServerDouble)
    (crypto : Crypto)
    (senderPubkey : Key)
    (timestamp syncSince : UInt32)
    (password : List UInt8) :
    LoginRequest :=
  { senderPubkey := senderPubkey
    sharedSecret := server.identity.ecdhSharedSecret crypto senderPubkey
    timestamp := timestamp
    syncSince := syncSince
    password :=
      (password.take (maxLoginPasswordLen - 1)).takeWhile
        fun byte => byte ≠ 0 }

/-- What the double reads in front of and behind the code of a login. -/
theorem encodeAnonReqLogin_read
    (crypto : Crypto)
    (secret : Key)
    (destHash : UInt8)
    (senderPubkey : Key)
    (timestamp syncSince : UInt32)
    (password : List UInt8) :
    let payload :=
      encodeAnonReqLogin crypto secret destHash senderPubkey timestamp
        syncSince password
    ¬ payload.length < anonReqHeaderLen + 2 ∧
      payload.getD 0 0 = destHash ∧
      Bytes.zeroPadded 32 (payload.drop 1) = senderPubkey ∧
      payload.drop anonReqHeaderLen =
        crypto.encryptThenMac (Crypto.aesKey secret) secret.toList
          (loginPlaintext timestamp syncSince password) := by
  intro payload
  refine ⟨?_, rfl, ?_, ?_⟩
  · simp [payload, encodeAnonReqLogin, Crypto.encryptThenMac,
      anonReqHeaderLen]
    omega
  · apply Vector.ext
    intro index inside
    simp [payload, encodeAnonReqLogin, Bytes.zeroPadded,
      List.getD_eq_getElem?_getD, List.getElem?_append_left]
  · exact List.drop_left' (by simp [anonReqHeaderLen])

/-- What the double reads in the plaintext of a login. -/
theorem loginPlaintext_read
    (timestamp syncSince : UInt32)
    (password : List UInt8) :
    let plaintext :=
      Blocks.padded 16 (loginPlaintext timestamp syncSince password)
    ¬ plaintext.length < 9 ∧
      leadingTimestamp plaintext = timestamp ∧
      leadingTimestamp (plaintext.drop 4) = syncSince ∧
      ((plaintext.drop 8).takeWhile fun byte => byte ≠ 0) =
        (password.take (maxLoginPasswordLen - 1)).takeWhile
          fun byte => byte ≠ 0 := by
  obtain ⟨zeros, padded⟩ :=
    padded_loginPlaintext timestamp syncSince password
  intro plaintext
  refine ⟨?_, leadingTimestamp_padded timestamp _, ?_, ?_⟩
  · simp only [plaintext, padded]
    simp
    omega
  · simp only [plaintext, padded]
    rw [List.drop_left' (by simp)]
    exact Bytes.u32FromLeBytes_toLeBytes syncSince
  · simp only [plaintext, padded]
    rw [← List.append_assoc, List.drop_left' (by simp), takeWhile_zeros]

/-- A login encoded for the double is read. -/
theorem readLogin_encode
    {crypto : Crypto}
    (inverse : crypto.DecryptsEncrypted)
    (server : RoomServerDouble)
    (senderPubkey : Key)
    (timestamp syncSince : UInt32)
    (password : List UInt8) :
    server.readLogin crypto
        (encodeAnonReqLogin crypto
          (server.identity.ecdhSharedSecret crypto senderPubkey)
          (pubHash server.identity.pubkey) senderPubkey timestamp
          syncSince password) =
      some
        (server.loginRequest crypto senderPubkey timestamp syncSince
          password) := by
  obtain ⟨long, isAddressed, isSender, isCiphertext⟩ :=
    encodeAnonReqLogin_read crypto
      (server.identity.ecdhSharedSecret crypto senderPubkey)
      (pubHash server.identity.pubkey) senderPubkey timestamp syncSince
      password
  obtain ⟨longPlaintext, isTimestamp, isSyncSince, isPassword⟩ :=
    loginPlaintext_read timestamp syncSince password
  simp only [readLogin, long, isAddressed, isSender, isCiphertext,
    Crypto.macThenDecrypt_encryptThenMac inverse, longPlaintext,
    isTimestamp, isSyncSince, isPassword, loginRequest, if_false, ne_eq,
    not_true_eq_false]

/-- A client's own slot is found again after it is changed. -/
theorem clientOf_update
    {server changed : RoomServerDouble}
    {pubkey : Key}
    {change : DoubleClient → DoubleClient}
    (kept :
      ∀ client, client.isClient pubkey = true →
        (change client).isClient pubkey = true)
    (updated :
      changed.clients =
        Search.updateFirst (DoubleClient.isClient pubkey) change
          server.clients) :
    changed.clientOf pubkey = (server.clientOf pubkey).map change := by
  rw [clientOf, updated, Search.find?_updateFirst kept, clientOf]

/-- The slot for a client holds the client after a login. -/
theorem find?_loggedIn
    (server : RoomServerDouble)
    (request : LoginRequest)
    (permissions : RoomPermission) :
    (Search.updateFirst (server.isSlotFor request.senderPubkey)
          (DoubleClient.loggedIn request permissions)
          server.clients).find?
        (DoubleClient.isClient request.senderPubkey) =
      (server.clients.find?
        (server.isSlotFor request.senderPubkey)).map
          (DoubleClient.loggedIn request permissions) := by
  have isOwn :
      ∀ client : DoubleClient,
        (client.loggedIn request permissions).isClient
          request.senderPubkey = true := by
    simp [DoubleClient.loggedIn, DoubleClient.isClient]
  cases known : (server.clientOf request.senderPubkey).isSome with
  | true =>
      have ownSlot :
          server.isSlotFor request.senderPubkey =
            DoubleClient.isClient request.senderPubkey := by
        funext client
        simp [isSlotFor, known]
      rw [ownSlot]
      exact Search.find?_updateFirst (fun client _ => isOwn client) _
  | false =>
      apply Search.find?_updateFirst_of_none
      · exact fun client _ => isOwn client
      · have unknown : server.clientOf request.senderPubkey = none := by
          simpa using known
        simpa [clientOf] using unknown

/-- A login is accepted and answered, or it changes nothing. -/
theorem acceptLogin_cases
    (server : RoomServerDouble)
    (crypto : Crypto)
    (request : LoginRequest)
    (permissions : RoomPermission) :
    server.acceptLogin crypto request permissions = (server, none) ∨
      ∃ slot changed reply,
        server.acceptLogin crypto request permissions =
            (changed, some reply) ∧
          changed.identity = server.identity ∧
          changed.visited = server.visited ∧
          changed.clientOf request.senderPubkey =
            some (DoubleClient.loggedIn request permissions slot) := by
  unfold acceptLogin
  split
  · exact .inl rfl
  · next slot found =>
    split
    · exact .inl rfl
    · refine .inr ⟨slot, _, _, rfl, rfl, rfl, ?_⟩
      rw [clientOf, find?_loggedIn, found, Option.map_some]

/-- A client's login is accepted and answered, or it changes nothing. -/
theorem handleLogin_cases
    {crypto : Crypto}
    (inverse : crypto.DecryptsEncrypted)
    (server : RoomServerDouble)
    (senderPubkey : Key)
    (timestamp syncSince : UInt32)
    (password : List UInt8) :
    let payload :=
      encodeAnonReqLogin crypto
        (server.identity.ecdhSharedSecret crypto senderPubkey)
        (pubHash server.identity.pubkey) senderPubkey timestamp syncSince
        password
    server.handleLogin crypto payload = (server, none) ∨
      ∃ slot permissions changed reply,
        server.handleLogin crypto payload = (changed, some reply) ∧
          changed.identity = server.identity ∧
          changed.visited = server.visited ∧
          changed.clientOf senderPubkey =
            some
              (DoubleClient.loggedIn
                (server.loginRequest crypto senderPubkey timestamp
                  syncSince password)
                permissions slot) := by
  intro payload
  simp only [payload, handleLogin, readLogin_encode inverse]
  split
  · exact .inl rfl
  · next permissions _ =>
    rcases server.acceptLogin_cases crypto
        (server.loginRequest crypto senderPubkey timestamp syncSince
          password) permissions with
      refused | ⟨slot, changed, reply, accepted⟩
    · exact .inl refused
    · exact .inr ⟨slot, permissions, changed, reply, accepted⟩

/-- A seeded post takes the place of the oldest one. -/
theorem visited_seedPost
    (server : RoomServerDouble)
    (authorPubkey : Key)
    (timestamp : UInt32)
    (text : List UInt8) :
    (server.seedPost authorPubkey timestamp text).visited =
      server.visited.tail ++ [.new authorPubkey timestamp text] := by
  have full : server.postRing.contents.length = maxUnsyncedPosts := by
    simp [postRing]
  have pushed :=
    Ring.push_full full (DoublePost.new authorPubkey timestamp text)
  rw [visited, visited, ← pushed.1]
  simp [Ring.push, postRing, seedPost]

/-- The posts of others that are still in the queue, oldest first. -/
def kept
    (server : RoomServerDouble)
    (clientPubkey : Key) :
    List DoublePost :=
  server.visited.filter fun post =>
    post.used && post.authorPubkey != clientPubkey

/-- A push looks for the first kept post that the client has not read. -/
theorem find?_visited
    (server : RoomServerDouble)
    (clientPubkey : Key)
    (syncSince : UInt32) :
    (server.visited.find? fun post => post.isDue syncSince clientPubkey) =
      (server.kept clientPubkey).find? fun post =>
        decide (syncSince.toNat < post.order) := by
  rw [kept, List.find?_filter]
  congr 1
  funext post
  have sameOrder :
      decide (syncSince < post.timestamp) =
        decide (syncSince.toNat < post.order) :=
    decide_eq_decide.mpr UInt32.lt_iff_toNat_lt
  simp only [DoublePost.isDue, sameOrder]
  cases post.used <;> cases post.authorPubkey != clientPubkey <;> simp

/-- What a push does: it waits or has nothing to push and changes nothing, or it
pushes the first due post and waits for its acknowledgement. -/
theorem pushNext_cases
    (server : RoomServerDouble)
    (crypto : Crypto)
    (clientPubkey : Key) :
    (server.pushNext crypto clientPubkey = (server, none) ∧
      ∀ client,
        server.clientOf clientPubkey = some client →
        client.pendingAck = none →
          ∀ post ∈ server.kept clientPubkey,
            post.order ≤ client.syncSince.toNat) ∨
      ∃ client post changed,
        server.clientOf clientPubkey = some client ∧
          client.pendingAck = none ∧
          ((server.kept clientPubkey).find? fun post =>
            decide (client.syncSince.toNat < post.order)) =
              some post ∧
          server.pushNext crypto clientPubkey =
            (changed,
              some
                (encodeDmPayload crypto client.sharedSecret
                  (pubHash clientPubkey) (pubHash server.identity.pubkey)
                  post.pushPlaintext)) ∧
          changed.identity = server.identity ∧
          changed.visited = server.visited ∧
          changed.clientOf clientPubkey =
            some
              (client.awaiting (post.ackHash crypto clientPubkey)
                post.timestamp) := by
  unfold pushNext
  cases known : server.clientOf clientPubkey with
  | none => simp
  | some client =>
      cases waits : client.pendingAck with
      | some hash => simp [waits]
      | none =>
          simp only [waits, Option.isSome_none, Bool.false_eq_true,
            if_false, find?_visited]
          cases found :
              (server.kept clientPubkey).find? fun post =>
                decide (client.syncSince.toNat < post.order) with
          | none =>
              refine .inl ⟨rfl, ?_⟩
              rintro _ ⟨⟩ -
              exact WatermarkLog.le_of_find?_eq_none found
          | some post =>
              refine .inr ⟨client, post, _, rfl, waits, found, rfl, rfl,
                rfl, ?_⟩
              rw [@clientOf_update server _ clientPubkey
                (DoubleClient.awaiting _ _) (fun _ own => own) rfl,
                known, Option.map_some]

/-- What an acknowledgement does: it changes nothing, or it was waited for. -/
theorem handleAck_cases
    (server : RoomServerDouble)
    (clientPubkey : Key)
    (ack : Vector UInt8 4) :
    server.handleAck clientPubkey ack = (server, false) ∧
        (∀ client,
          server.clientOf clientPubkey = some client →
            client.pendingAck ≠ some ack) ∨
      ∃ client changed,
        server.clientOf clientPubkey = some client ∧
          client.pendingAck = some ack ∧
          server.handleAck clientPubkey ack = (changed, true) ∧
          changed.identity = server.identity ∧
          changed.visited = server.visited ∧
          changed.clientOf clientPubkey = some client.acknowledged := by
  unfold handleAck
  cases known : server.clientOf clientPubkey with
  | none => simp
  | some client =>
      by_cases waited : client.pendingAck = some ack
      · simp only [waited, if_true]
        refine .inr ⟨client, _, rfl, waited, rfl, rfl, rfl, ?_⟩
        rw [@clientOf_update server _ clientPubkey
          DoubleClient.acknowledged (fun _ own => own) rfl, known,
          Option.map_some]
      · simp [waited]

end RoomServerDouble

/-- The client reads the post in its push. -/
theorem decodeRoomPush_push
    {crypto : Crypto}
    (inverse : crypto.DecryptsEncrypted)
    (secret : Key)
    (destHash srcHash : UInt8)
    {post : DoublePost}
    (noZero : ∀ byte ∈ post.text, byte ≠ 0) :
    decodeRoomPush crypto secret
        (encodeDmPayload crypto secret destHash srcHash
          post.pushPlaintext) =
      .ok (destHash, srcHash, post.carried) := by
  have isType :
      TxtType.fromByte 2 = .signedPlain :=
    rfl
  obtain ⟨zeros, padded⟩ :
      ∃ zeros,
        Blocks.padded 16 post.pushPlaintext =
          (Bytes.u32ToLeBytes post.timestamp).toList ++
            ([((2 : UInt8) <<< 2) ||| ((0 : UInt8) &&& 0x03)] ++
              (post.authorPrefix.toList ++
                (post.text ++ List.replicate zeros 0))) := by
    rw [Blocks.padded_eq_append (by decide)]
    generalize
      16 * Blocks.count 16 post.pushPlaintext -
        post.pushPlaintext.length = zeros
    exact ⟨zeros, by simp [DoublePost.pushPlaintext,
      encodeTxtMsgPlaintext]⟩
  have long : ¬ (Blocks.padded 16 post.pushPlaintext).length < 5 + 4 := by
    rw [padded]
    simp
    omega
  have isAuthor :
      Bytes.zeroPadded 4 ((Blocks.padded 16 post.pushPlaintext).drop 5) =
        post.authorPrefix := by
    rw [padded, ← List.append_assoc, List.drop_left' (by simp)]
    apply Vector.ext
    intro index inside
    simp [Bytes.zeroPadded, List.getD_eq_getElem?_getD,
      List.getElem?_append_left]
  have isText :
      (((Blocks.padded 16 post.pushPlaintext).drop (5 + 4)).takeWhile
          fun byte => byte ≠ 0) =
        post.text := by
    rw [padded, ← List.append_assoc, ← List.append_assoc,
      List.drop_left' (by simp), takeWhile_zeros,
      takeWhile_noZero noZero]
  have fields :=
    decodeTxtMsgPlaintext_encode post.timestamp
      (show (2 : UInt8) < 64 by decide) 0
      (post.authorPrefix.toList ++ post.text)
  rw [decodeRoomPush, decodeDmPayload_encode inverse]
  simp only [DoublePost.pushPlaintext] at long isAuthor isText ⊢
  simp only [decodeRoomPushPlaintext, fields, isType, ne_eq,
    not_true_eq_false, if_false, long, isAuthor, isText, Except.map]
  rfl

end MeshCadet
