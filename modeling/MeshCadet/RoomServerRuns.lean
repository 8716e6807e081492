import MeshCadet.RoomPosts
import MeshCadet.Transition

namespace MeshCadet

/-!
# Runs of the room server double

Anyone may send the double any bytes at any time.  Along every run the queue is
the end of one log, ordered by the double's own time, in which every post was
authenticated by its author; each client has one slot, and what a slot waits for
is the acknowledgement of a logged post of another.
-/

open Outcome RingBuffer WatermarkLog

/-- A stored post and the payload that brought it. -/
structure StoredPost where
  payload : List UInt8
  post : DoublePost
deriving Repr, DecidableEq

/-- The double, and a record of all posts it stored. -/
structure RoomServerRun where
  server : RoomServerDouble
  stored : List StoredPost
deriving DecidableEq

/-- What happens at the double. -/
inductive RoomServerEvent where
  | setTime (time : UInt32)
  | login (payload : List UInt8)
  | post (clientPubkey : Key) (payload : List UInt8)
  | keepAlive (clientPubkey : Key) (payload : List UInt8)
  | push (clientPubkey : Key)
  | ack (clientPubkey : Key) (hash : Vector UInt8 4)

namespace RoomServerRun

/-- The double after a handler; one that panics leaves it as it was. -/
def after
    {Reply : Type}
    (server : RoomServerDouble)
    (outcome : Outcome Empty (RoomServerDouble × Reply)) :
    RoomServerDouble :=
  match outcome with
  | .value (changed, _) => changed
  | _ => server

/-- Record the newest post when the queue moved on. -/
def record
    (run : RoomServerRun)
    (payload : List UInt8)
    (changed : RoomServerDouble) :
    RoomServerRun :=
  { server := changed
    stored :=
      if changed.nextPostIdx = run.server.nextPostIdx then
        run.stored
      else
        run.stored ++
          changed.visited.getLast?.toList.map fun post =>
            { payload := payload
              post := post } }

/-- One event. -/
def step
    (crypto : Crypto)
    (run : RoomServerRun) :
    RoomServerEvent → RoomServerRun
  | .setTime time =>
      { run with server := run.server.setServerTime time }
  | .login payload =>
      { run with
        server := after run.server (run.server.handleLoginIn crypto payload) }
  | .post clientPubkey payload =>
      run.record payload
        (after run.server
          (run.server.handlePost crypto clientPubkey payload))
  | .keepAlive clientPubkey payload =>
      { run with
        server :=
          after run.server
            (run.server.handleKeepAlive crypto clientPubkey payload) }
  | .push clientPubkey =>
      { run with server := (run.server.pushNext crypto clientPubkey).1 }
  | .ack clientPubkey hash =>
      { run with server := (run.server.handleAck clientPubkey hash).1 }

/-- A new double. -/
def start
    (identity : Identity)
    (adminPassword guestPassword : List UInt8)
    (allowReadOnly : Bool) :
    RoomServerRun :=
  { server := .new identity adminPassword guestPassword allowReadOnly
    stored := [] }

/-- All posts, oldest first. -/
def log
    (run : RoomServerRun) :
    List DoublePost :=
  run.stored.map StoredPost.post

end RoomServerRun

/-- The slots hold different clients. -/
def DoubleClient.Apart
    (first second : DoubleClient) :
    Prop :=
  first.used = true → second.used = true → first.pubkey ≠ second.pubkey

/-- A client waits only for the acknowledgement of the post pushed last, which is
one of another. -/
def DoubleClient.WaitsFor
    (crypto : Crypto)
    (posts : List DoublePost)
    (client : DoubleClient) :
    Prop :=
  ∀ hash,
    client.pendingAck = some hash →
      ∃ post ∈ posts,
        post.authorPubkey ≠ client.pubkey ∧
          hash = post.ackHash crypto client.pubkey ∧
          client.pushPostTs = post.timestamp

/-- A used slot shares its client's secret and waits for a logged post. -/
structure DoubleClient.Sound
    (crypto : Crypto)
    (identity : Identity)
    (posts : List DoublePost)
    (client : DoubleClient) :
    Prop where
  secret :
    client.used = true →
      client.sharedSecret = identity.ecdhSharedSecret crypto client.pubkey
  waits : client.used = true → client.WaitsFor crypto posts

/-- A stored post came from a client with a slot, under the secret shared with it,
and its text is one that a push can carry. -/
structure StoredPost.Sound
    (crypto : Crypto)
    (server : RoomServerDouble)
    (stored : StoredPost) :
    Prop where
  isUsed : stored.post.used = true
  registered : (server.clientOf stored.post.authorPubkey).isSome = true
  authentic :
    Authenticates crypto
      (server.identity.ecdhSharedSecret crypto stored.post.authorPubkey)
      stored.payload
  short : stored.post.text.length ≤ maxPostTextLen
  noZero : ∀ byte ∈ stored.post.text, byte ≠ 0

/-- What holds in every state of a run. -/
structure RoomServerRun.Sound
    (crypto : Crypto)
    (identity : Identity)
    (run : RoomServerRun) :
    Prop where
  sameIdentity : run.server.identity = identity
  slots : run.server.clients.length = maxRoomClients
  apart : run.server.clients.Pairwise DoubleClient.Apart
  clients :
    ∀ client ∈ run.server.clients, client.Sound crypto identity run.log
  window :
    run.server.visited =
      (List.replicate maxUnsyncedPosts DoublePost.empty ++ run.log).drop
        run.log.length
  ordered : Ordered DoublePost.order run.log
  past :
    ∀ post ∈ run.log, post.timestamp ≤ run.server.clock.lastUnique
  posts : ∀ stored ∈ run.stored, stored.Sound crypto run.server

/-- A reading comes after all earlier ones while the clock has one left. -/
theorem ServerClock.currentTimeUnique_spec
    {clock : ServerClock}
    (left : clock.lastUnique.toNat + 1 < 2 ^ 32) :
    clock.currentTimeUnique.1.currentTime = clock.currentTime ∧
      clock.currentTimeUnique.1.lastUnique = clock.currentTimeUnique.2 ∧
      clock.lastUnique < clock.currentTimeUnique.2 ∧
      clock.currentTimeUnique.2.toNat ≤
        max (clock.lastUnique.toNat + 1) clock.currentTime.toNat := by
  unfold currentTimeUnique
  split
  · have next : (clock.lastUnique + 1).toNat =
        clock.lastUnique.toNat + 1 := by
      rw [UInt32.toNat_add]
      exact Nat.mod_eq_of_lt left
    refine ⟨rfl, rfl, ?_, ?_⟩
    · rw [UInt32.lt_iff_toNat_lt, next]
      exact Nat.lt_succ_self _
    · change (clock.lastUnique + 1).toNat ≤ _
      omega
  · next later =>
    refine ⟨rfl, rfl, UInt32.not_le.mp later, ?_⟩
    change clock.currentTime.toNat ≤ _
    omega

namespace RoomServerDouble

/-- A change of a client's slot that leaves whose it is. -/
structure KeepsOwner
    (change : DoubleClient → DoubleClient) :
    Prop where
  used : ∀ client, (change client).used = client.used
  pubkey : ∀ client, (change client).pubkey = client.pubkey
  secret : ∀ client, (change client).sharedSecret = client.sharedSecret

theorem KeepsOwner.isClient
    {change : DoubleClient → DoubleClient}
    (keeps : KeepsOwner change)
    (key : Key)
    (client : DoubleClient) :
    (change client).isClient key = client.isClient key := by
  rw [DoubleClient.isClient, DoubleClient.isClient, keeps.used,
    keeps.pubkey]

theorem keepsOwner_seen
    (timestamp : UInt32) :
    KeepsOwner (DoubleClient.seen timestamp) :=
  ⟨fun _ => rfl, fun _ => rfl, fun _ => rfl⟩

theorem keepsOwner_keptAlive
    (request : KeepAliveRequest) :
    KeepsOwner (DoubleClient.keptAlive request) :=
  ⟨fun _ => rfl, fun _ => rfl, fun _ => rfl⟩

theorem keepsOwner_awaiting
    (ackHash : Vector UInt8 4)
    (postTs : UInt32) :
    KeepsOwner (DoubleClient.awaiting ackHash postTs) :=
  ⟨fun _ => rfl, fun _ => rfl, fun _ => rfl⟩

theorem keepsOwner_acknowledged :
    KeepsOwner DoubleClient.acknowledged :=
  ⟨fun _ => rfl, fun _ => rfl, fun _ => rfl⟩

/-- Change the slot of a client. -/
def updateClient
    (server : RoomServerDouble)
    (clientPubkey : Key)
    (change : DoubleClient → DoubleClient) :
    RoomServerDouble :=
  { server with
    clients :=
      Search.updateFirst (DoubleClient.isClient clientPubkey) change
        server.clients }

theorem isClient_iff
    {key : Key}
    {client : DoubleClient} :
    client.isClient key = true ↔
      client.used = true ∧ client.pubkey = key := by
  simp [DoubleClient.isClient]

/-- The slot found is a used one of the client. -/
theorem clientOf_eq_some
    {server : RoomServerDouble}
    {key : Key}
    {client : DoubleClient}
    (found : server.clientOf key = some client) :
    client ∈ server.clients ∧ client.used = true ∧
      client.pubkey = key := by
  obtain ⟨used, isKey⟩ := isClient_iff.mp (List.find?_some found)
  exact ⟨List.mem_of_find?_eq_some found, used, isKey⟩

/-- Another client's slot is found as before. -/
theorem clientOf_updateClient
    (server : RoomServerDouble)
    {change : DoubleClient → DoubleClient}
    (keeps : KeepsOwner change)
    (clientPubkey key : Key) :
    (server.updateClient clientPubkey change).clientOf key =
      if key = clientPubkey then
        (server.clientOf key).map change
      else
        server.clientOf key := by
  split
  · next same =>
    subst same
    exact clientOf_update (fun client own => by rw [keeps.isClient, own]) rfl
  · next other =>
    apply Search.find?_updateFirst_apart
    intro client _ own
    have notKey : client.isClient key = false := by
      rw [Bool.eq_false_iff]
      intro isKey
      have first := (isClient_iff.mp own).2
      have second := (isClient_iff.mp isKey).2
      exact other (second.symm.trans first)
    exact ⟨notKey, by rw [keeps.isClient, notKey]⟩

/-- A login finds its client's own slot, or a free one when there is none. -/
theorem isSlotFor_cases
    {server : RoomServerDouble}
    {key : Key}
    {slot : DoubleClient}
    (isSlot : server.isSlotFor key slot = true) :
    slot.isClient key = true ∨
      slot.used = false ∧ server.clientOf key = none := by
  unfold isSlotFor at isSlot
  split at isSlot
  · exact .inl isSlot
  · next unknown =>
    exact .inr ⟨by simpa using isSlot, by simpa using unknown⟩

/-- A login fills the slot of its own client and leaves those of others. -/
theorem clientOf_login
    {server : RoomServerDouble}
    {request : LoginRequest}
    {slot : DoubleClient}
    (found :
      server.clients.find? (server.isSlotFor request.senderPubkey) =
        some slot)
    (permissions : RoomPermission)
    (key : Key) :
    (Search.updateFirst (server.isSlotFor request.senderPubkey)
          (DoubleClient.loggedIn request permissions)
          server.clients).find?
        (DoubleClient.isClient key) =
      if key = request.senderPubkey then
        some (DoubleClient.loggedIn request permissions slot)
      else
        server.clientOf key := by
  split
  · next same =>
    subst same
    rw [server.find?_loggedIn, found]
    rfl
  · next other =>
    apply Search.find?_updateFirst_apart
    intro client _ isSlot
    constructor
    · rw [Bool.eq_false_iff]
      intro isKey
      obtain ⟨used, sameKey⟩ := isClient_iff.mp isKey
      rcases isSlotFor_cases isSlot with own | ⟨unused, -⟩
      · have ownKey := (isClient_iff.mp own).2
        exact other (sameKey.symm.trans ownKey)
      · rw [used] at unused
        cases unused
    · rw [Bool.eq_false_iff]
      intro isKey
      have sameKey := (isClient_iff.mp isKey).2
      exact other sameKey.symm

/-- What a login does: nothing, or it fills the slot for its client. -/
theorem handleLoginIn_cases
    (server : RoomServerDouble)
    (crypto : Crypto)
    (payload : List UInt8) :
    RoomServerRun.after server (server.handleLoginIn crypto payload) =
        server ∨
      ∃ request permissions slot,
        server.readLogin crypto payload = some request ∧
          server.permissionsFor request.password = some permissions ∧
          server.clients.find?
              (server.isSlotFor request.senderPubkey) =
            some slot ∧
          ¬ (slot.used = true ∧
            request.timestamp ≤ slot.lastTimestamp) ∧
          RoomServerRun.after server
              (server.handleLoginIn crypto payload) =
            { server with
              clients :=
                Search.updateFirst
                  (server.isSlotFor request.senderPubkey)
                  (DoubleClient.loggedIn request permissions)
                  server.clients
              clock := server.clock.currentTimeUnique.1 } := by
  have plain :
      RoomServerRun.after server (server.handleLoginIn crypto payload) =
          server ∨
        RoomServerRun.after server
            (server.handleLoginIn crypto payload) =
          (server.handleLogin crypto payload).1 := by
    unfold handleLoginIn
    simp only
    split
    · exact .inl rfl
    · split
      · exact .inl rfl
      · split
        · exact .inl rfl
        · exact .inr rfl
  rcases plain with same | same
  · exact .inl same
  · rw [same, handleLogin]
    split
    · exact .inl rfl
    · next request isRead =>
      split
      · exact .inl rfl
      · next permissions earned =>
        unfold acceptLogin
        split
        · exact .inl rfl
        · next slot found =>
          split
          · exact .inl rfl
          · next fresh =>
            exact .inr
              ⟨request, permissions, slot, isRead, earned, found, fresh,
                rfl⟩

/-- A login is read under the secret shared with its sender. -/
theorem readLogin_secret
    {server : RoomServerDouble}
    {crypto : Crypto}
    {payload : List UInt8}
    {request : LoginRequest}
    (isRead : server.readLogin crypto payload = some request) :
    request.sharedSecret =
      server.identity.ecdhSharedSecret crypto request.senderPubkey := by
  unfold readLogin at isRead
  split at isRead
  · cases isRead
  · split at isRead
    · cases isRead
    · simp only at isRead
      split at isRead
      · cases isRead
      · split at isRead
        · cases isRead
        · rw [← Option.some.inj isRead]

/-- What a post does: nothing, or its timestamp is noted, and a new one of a client
that may post is stored as well. -/
theorem handlePost_cases
    (server : RoomServerDouble)
    (crypto : Crypto)
    (clientPubkey : Key)
    (payload : List UInt8) :
    RoomServerRun.after server
        (server.handlePost crypto clientPubkey payload) = server ∨
      ∃ client request,
        server.clientOf clientPubkey = some client ∧
          readPost crypto client.sharedSecret payload = .value request ∧
          (RoomServerRun.after server
              (server.handlePost crypto clientPubkey payload) =
            server.updateClient clientPubkey
              (DoubleClient.seen request.timestamp) ∨
          RoomServerRun.after server
              (server.handlePost crypto clientPubkey payload) =
            (server.updateClient clientPubkey
              (DoubleClient.seen request.timestamp)).storePost
                clientPubkey request.text) := by
  rw [handlePost]
  split
  · exact .inl rfl
  · next client known =>
    split
    · next request isRead =>
      rcases server.acceptPost_cases crypto clientPubkey request with
        ⟨refused, -⟩ |
          ⟨_, -, -, ⟨-, dropped⟩ | ⟨-, -, retried⟩ | ⟨-, -, stored⟩⟩
      · rw [refused]
        exact .inl rfl
      · rw [dropped]
        exact .inr ⟨client, request, known, isRead, .inl rfl⟩
      · rw [retried]
        exact .inr ⟨client, request, known, isRead, .inl rfl⟩
      · rw [stored]
        exact .inr ⟨client, request, known, isRead, .inr rfl⟩
    · exact .inl rfl
    · exact .inl rfl

/-- What a keep-alive does: nothing, or its client's slot is changed. -/
theorem handleKeepAlive_cases
    (server : RoomServerDouble)
    (crypto : Crypto)
    (clientPubkey : Key)
    (payload : List UInt8) :
    RoomServerRun.after server
        (server.handleKeepAlive crypto clientPubkey payload) = server ∨
      ∃ request,
        RoomServerRun.after server
            (server.handleKeepAlive crypto clientPubkey payload) =
          server.updateClient clientPubkey
            (DoubleClient.keptAlive request) := by
  rw [handleKeepAlive]
  split
  · exact .inl rfl
  · split
    · next request _ =>
      rcases server.acceptKeepAlive_cases crypto clientPubkey request with
        refused | ⟨_, -, -, accepted⟩
      · rw [refused]
        exact .inl rfl
      · rw [accepted]
        exact .inr ⟨request, rfl⟩
    · exact .inl rfl
    · exact .inl rfl

/-- What a push does: nothing, or its client waits for the first due post. -/
theorem pushNext_updates
    (server : RoomServerDouble)
    (crypto : Crypto)
    (clientPubkey : Key) :
    (server.pushNext crypto clientPubkey).1 = server ∨
      ∃ client post,
        server.clientOf clientPubkey = some client ∧
          post ∈ server.visited ∧
          post.isDue client.syncSince clientPubkey = true ∧
          (server.pushNext crypto clientPubkey).1 =
            server.updateClient clientPubkey
              (DoubleClient.awaiting (post.ackHash crypto clientPubkey)
                post.timestamp) := by
  unfold pushNext
  split
  · exact .inl rfl
  · next client known =>
    split
    · exact .inl rfl
    · split
      · exact .inl rfl
      · next post found =>
        have isDue : post.isDue client.syncSince clientPubkey = true := by
          simpa using List.find?_some found
        exact .inr
          ⟨client, post, known, List.mem_of_find?_eq_some found, isDue,
            rfl⟩

/-- What an acknowledgement does: nothing, or its client has read the post. -/
theorem handleAck_updates
    (server : RoomServerDouble)
    (clientPubkey : Key)
    (hash : Vector UInt8 4) :
    (server.handleAck clientPubkey hash).1 = server ∨
      (server.handleAck clientPubkey hash).1 =
        server.updateClient clientPubkey DoubleClient.acknowledged := by
  unfold handleAck
  split
  · exact .inl rfl
  · split
    · exact .inr rfl
    · exact .inl rfl

/-- The post that a client's text becomes. -/
def stamped
    (server : RoomServerDouble)
    (clientPubkey : Key)
    (text : List UInt8) :
    DoublePost :=
  .new clientPubkey server.clock.currentTimeUnique.2 text

/-- Storing a post moves the queue on. -/
theorem storePost_moves
    (server : RoomServerDouble)
    (clientPubkey : Key)
    (text : List UInt8) :
    (server.storePost clientPubkey text).visited =
        server.visited.tail ++ [server.stamped clientPubkey text] ∧
      (server.storePost clientPubkey text).nextPostIdx ≠
        server.nextPostIdx := by
  constructor
  · exact visited_seedPost _ _ _ _
  · have inside : server.nextPostIdx < 32 := server.nextInside
    change (server.nextPostIdx + 1) % 32 ≠ server.nextPostIdx
    omega

end RoomServerDouble

namespace RoomServerRun

variable {crypto : Crypto} {identity : Identity} {run : RoomServerRun}

/-- Nothing is recorded when the queue did not move. -/
theorem record_same
    (payload : List UInt8)
    {changed : RoomServerDouble}
    (same : changed.nextPostIdx = run.server.nextPostIdx) :
    run.record payload changed = { run with server := changed } := by
  rw [record, if_pos same]

/-- A stored post is recorded. -/
theorem record_storePost
    (payload : List UInt8)
    {server : RoomServerDouble}
    (same : server.nextPostIdx = run.server.nextPostIdx)
    (clientPubkey : Key)
    (text : List UInt8) :
    run.record payload (server.storePost clientPubkey text) =
      { server := server.storePost clientPubkey text
        stored :=
          run.stored ++
            [{ payload := payload
               post := server.stamped clientPubkey text }] } := by
  obtain ⟨visited, moved⟩ := server.storePost_moves clientPubkey text
  rw [same] at moved
  rw [record, if_neg moved, visited, List.getLast?_concat]
  rfl

/-- A slot keeps waiting for a logged post when the log grows. -/
theorem waitsFor_mono
    {posts more : List DoublePost}
    {client : DoubleClient}
    (waits : client.WaitsFor crypto posts)
    (grown : ∀ post ∈ posts, post ∈ more) :
    client.WaitsFor crypto more := by
  intro hash isPending
  obtain ⟨post, member, isOther, isHash, isTime⟩ := waits hash isPending
  exact ⟨post, grown post member, isOther, isHash, isTime⟩

/-- A client whose slot was found keeps a slot. -/
theorem isSome_clientOf_updateClient
    {server : RoomServerDouble}
    {change : DoubleClient → DoubleClient}
    (keeps : RoomServerDouble.KeepsOwner change)
    (clientPubkey key : Key) :
    ((server.updateClient clientPubkey change).clientOf key).isSome =
      (server.clientOf key).isSome := by
  rw [server.clientOf_updateClient keeps]
  split
  · exact Option.isSome_map
  · rfl

/-- A post behind the log is the last one in the window on it. -/
theorem window_concat
    {visited log : List DoublePost}
    (window :
      visited =
        (List.replicate maxUnsyncedPosts DoublePost.empty ++ log).drop
          log.length)
    (post : DoublePost) :
    visited.tail ++ [post] =
      (List.replicate maxUnsyncedPosts DoublePost.empty ++
          (log ++ [post])).drop
        (log ++ [post]).length := by
  have positive : 0 < maxUnsyncedPosts := by decide
  have inside :
      log.length + 1 ≤
        (List.replicate maxUnsyncedPosts DoublePost.empty ++ log).length := by
    rw [List.length_append, List.length_replicate]
    omega
  rw [window, List.tail_drop, ← List.append_assoc, List.length_append,
    List.length_singleton]
  exact (List.drop_append_of_le_length inside).symm

/-- A change of a slot that leaves whose it is keeps a run sound. -/
theorem Sound.updateClient
    (sound : run.Sound crypto identity)
    {clientPubkey : Key}
    {change : DoubleClient → DoubleClient}
    (keeps : RoomServerDouble.KeepsOwner change)
    (waits :
      ∀ client ∈ run.server.clients,
        client.isClient clientPubkey = true →
          client.WaitsFor crypto run.log →
            (change client).WaitsFor crypto run.log) :
    Sound crypto identity
      { run with server := run.server.updateClient clientPubkey change } where
  sameIdentity := sound.sameIdentity
  slots := (Search.length_updateFirst _ _ _).trans sound.slots
  apart := by
    apply Search.pairwise_updateFirst _ sound.apart
    intro found _ _ other _
    constructor
    · intro apart used otherUsed
      rw [keeps.used] at used
      rw [keeps.pubkey]
      exact apart used otherUsed
    · intro apart otherUsed used
      rw [keeps.used] at used
      rw [keeps.pubkey]
      exact apart otherUsed used
  clients := by
    apply Search.forall_mem_updateFirst _ sound.clients
    intro client member isOwn slot
    refine ⟨?_, fun used => ?_⟩
    · rw [keeps.used, keeps.secret, keeps.pubkey]
      exact slot.secret
    · rw [keeps.used] at used
      exact waits client member isOwn (slot.waits used)
  window := sound.window
  ordered := sound.ordered
  past := sound.past
  posts := by
    intro stored member
    have before := sound.posts stored member
    refine ⟨before.isUsed, ?_, before.authentic, before.short,
      before.noZero⟩
    rw [isSome_clientOf_updateClient keeps]
    exact before.registered

/-- A login keeps a run sound: its slot is the client's own or was free. -/
theorem Sound.loggedIn
    (sound : run.Sound crypto identity)
    {request : LoginRequest}
    {slot : DoubleClient}
    (found :
      run.server.clients.find?
          (run.server.isSlotFor request.senderPubkey) =
        some slot)
    (secret :
      request.sharedSecret =
        run.server.identity.ecdhSharedSecret crypto request.senderPubkey)
    (permissions : RoomPermission)
    (clock : ServerClock)
    (later : run.server.clock.lastUnique ≤ clock.lastUnique) :
    Sound crypto identity
      { run with
        server :=
          { run.server with
            clients :=
              Search.updateFirst
                (run.server.isSlotFor request.senderPubkey)
                (DoubleClient.loggedIn request permissions)
                run.server.clients
            clock := clock } } where
  sameIdentity := sound.sameIdentity
  slots := (Search.length_updateFirst _ _ _).trans sound.slots
  apart := by
    apply Search.pairwise_updateFirst _ sound.apart
    intro found member isSlot other isOther
    have ownKey :
        (DoubleClient.loggedIn request permissions found).pubkey =
          request.senderPubkey := rfl
    rcases RoomServerDouble.isSlotFor_cases isSlot with own | ⟨-, unknown⟩
    · obtain ⟨used, isKey⟩ := RoomServerDouble.isClient_iff.mp own
      constructor
      · intro apart _ otherUsed
        rw [ownKey, ← isKey]
        exact apart used otherUsed
      · intro apart otherUsed _
        rw [ownKey, ← isKey]
        exact apart otherUsed used
    · have isNotOther :
          other.used = true → other.pubkey ≠ request.senderPubkey := by
        intro otherUsed same
        have notOwn := List.find?_eq_none.mp unknown other isOther
        exact notOwn (RoomServerDouble.isClient_iff.mpr ⟨otherUsed, same⟩)
      constructor
      · intro _ _ otherUsed
        rw [ownKey]
        exact (isNotOther otherUsed).symm
      · intro _ otherUsed _
        rw [ownKey]
        exact isNotOther otherUsed
  clients := by
    apply Search.forall_mem_updateFirst _ sound.clients
    intro client _ _ _
    refine ⟨fun _ => ?_, fun _ hash isPending => ?_⟩
    · exact secret.trans (by rw [sound.sameIdentity]; rfl)
    · cases isPending
  window := sound.window
  ordered := sound.ordered
  past := by
    intro post member
    exact UInt32.le_trans (sound.past post member) later
  posts := by
    intro stored member
    have before := sound.posts stored member
    refine ⟨before.isUsed, ?_, before.authentic, before.short,
      before.noZero⟩
    have isSlot :=
      RoomServerDouble.clientOf_login found permissions
        stored.post.authorPubkey
    refine (congrArg Option.isSome isSlot).trans ?_
    split
    · rfl
    · exact before.registered

/-- Storing an authenticated post of a client with a slot keeps a run sound. -/
theorem Sound.store
    (sound : run.Sound crypto identity)
    (left : run.server.clock.lastUnique.toNat + 1 < 2 ^ 32)
    {clientPubkey : Key}
    (known : (run.server.clientOf clientPubkey).isSome = true)
    {payload text : List UInt8}
    (authentic :
      Authenticates crypto
        (run.server.identity.ecdhSharedSecret crypto clientPubkey)
        payload)
    (noZero : ∀ byte ∈ text, byte ≠ 0) :
    Sound crypto identity
      { server := run.server.storePost clientPubkey text
        stored :=
          run.stored ++
            [{ payload := payload
               post := run.server.stamped clientPubkey text }] } := by
  obtain ⟨-, isLast, later, -⟩ :=
    ServerClock.currentTimeUnique_spec left
  have grown :
      RoomServerRun.log
          { server := run.server.storePost clientPubkey text
            stored :=
              run.stored ++
                [{ payload := payload
                   post := run.server.stamped clientPubkey text }] } =
        run.log ++ [run.server.stamped clientPubkey text] := by
    simp [log]
  refine
    { sameIdentity := sound.sameIdentity
      slots := sound.slots
      apart := sound.apart
      clients := ?_
      window := ?_
      ordered := ?_
      past := ?_
      posts := ?_ }
  · intro client member
    have before := sound.clients client member
    refine ⟨before.secret, fun used => ?_⟩
    rw [grown]
    exact waitsFor_mono (before.waits used)
      fun post member => List.mem_append_left _ member
  · have visited := (run.server.storePost_moves clientPubkey text).1
    rw [grown, visited]
    exact window_concat sound.window _
  · rw [grown, Ordered, List.pairwise_append]
    refine ⟨sound.ordered, List.pairwise_singleton _ _, ?_⟩
    intro earlier member last isLastPost
    rw [List.mem_singleton.mp isLastPost]
    have notLater := sound.past earlier member
    have before := UInt32.lt_of_le_of_lt notLater later
    exact UInt32.lt_iff_toNat_lt.mp before
  · rw [grown]
    intro post member
    change post.timestamp ≤
      run.server.clock.currentTimeUnique.1.lastUnique
    rw [isLast]
    rcases List.mem_append.mp member with earlier | isNew
    · exact UInt32.le_of_lt
        (UInt32.lt_of_le_of_lt (sound.past post earlier) later)
    · rw [List.mem_singleton.mp isNew]
      exact UInt32.le_refl _
  · intro stored member
    rcases List.mem_append.mp member with earlier | isNew
    · have before := sound.posts stored earlier
      exact ⟨before.isUsed, before.registered, before.authentic,
        before.short, before.noZero⟩
    · rw [List.mem_singleton.mp isNew]
      refine ⟨rfl, known, authentic, ?_, ?_⟩
      · exact List.length_take_le _ _
      · intro byte inText
        exact noZero byte (List.mem_of_mem_take inText)

/-- A new double is sound. -/
theorem sound_start
    (crypto : Crypto)
    (identity : Identity)
    (adminPassword guestPassword : List UInt8)
    (allowReadOnly : Bool) :
    Sound crypto identity
      (start identity adminPassword guestPassword allowReadOnly) where
  sameIdentity := rfl
  slots := List.length_replicate
  apart := by
    apply List.pairwise_replicate.mpr
    right
    intro used
    cases used
  clients := by
    intro client member
    rw [List.eq_of_mem_replicate member]
    constructor <;>
      · intro used
        cases used
  window := by
    apply List.ext_getElem
    · simp [log, start, RoomServerDouble.visited,
        RoomServerDouble.postRing]
    · intro place inVisited _
      simp [log, start, RoomServerDouble.visited,
        RoomServerDouble.postRing, RoomServerDouble.new, Ring.contents,
        Vector.get]
  ordered := List.Pairwise.nil
  past := by
    intro post member
    cases member
  posts := by
    intro stored member
    cases member

/-- The posts in the queue that are in use are logged ones. -/
theorem Sound.mem_log
    (sound : run.Sound crypto identity)
    {post : DoublePost}
    (member : post ∈ run.server.visited)
    (isUsed : post.used = true) :
    post ∈ run.log := by
  rw [sound.window] at member
  rcases List.mem_append.mp (List.mem_of_mem_drop member) with
    isEmpty | logged
  · rw [List.eq_of_mem_replicate isEmpty] at isUsed
    cases isUsed
  · exact logged

/-- Each event keeps a run sound while the clock has a reading left. -/
theorem Sound.step
    (sound : run.Sound crypto identity)
    (left : run.server.clock.lastUnique.toNat + 1 < 2 ^ 32)
    (event : RoomServerEvent) :
    Sound crypto identity (RoomServerRun.step crypto run event) := by
  cases event with
  | setTime time =>
      exact
        { sameIdentity := sound.sameIdentity
          slots := sound.slots
          apart := sound.apart
          clients := sound.clients
          window := sound.window
          ordered := sound.ordered
          past := sound.past
          posts := fun stored member =>
            have before := sound.posts stored member
            ⟨before.isUsed, before.registered, before.authentic,
              before.short, before.noZero⟩ }
  | login payload =>
      rcases run.server.handleLoginIn_cases crypto payload with
        refused |
          ⟨request, permissions, slot, isRead, -, found, -, accepted⟩
      · simp only [RoomServerRun.step, refused]
        exact sound
      · obtain ⟨-, isLast, later, -⟩ :=
          ServerClock.currentTimeUnique_spec left
        simp only [RoomServerRun.step, accepted]
        apply sound.loggedIn found
          (RoomServerDouble.readLogin_secret isRead)
        rw [isLast]
        exact UInt32.le_of_lt later
  | post clientPubkey payload =>
      rcases run.server.handlePost_cases crypto clientPubkey payload with
        refused | ⟨client, request, known, isRead, noted | stored⟩
      · simp only [RoomServerRun.step, refused]
        rw [record_same payload rfl]
        exact sound
      · have same :
            (run.server.updateClient clientPubkey
              (DoubleClient.seen request.timestamp)).nextPostIdx =
              run.server.nextPostIdx := rfl
        simp only [RoomServerRun.step, noted]
        rw [record_same payload same]
        exact sound.updateClient
          (RoomServerDouble.keepsOwner_seen request.timestamp)
          fun _ _ _ waits => waits
      · have keeps :=
          RoomServerDouble.keepsOwner_seen request.timestamp
        obtain ⟨member, used, isKey⟩ :=
          RoomServerDouble.clientOf_eq_some known
        have secret := (sound.clients client member).secret used
        obtain ⟨authentic, noZero⟩ := readPost_value isRead
        have notedSound :
            Sound crypto identity
              { run with
                server :=
                  run.server.updateClient clientPubkey
                    (DoubleClient.seen request.timestamp) } :=
          sound.updateClient keeps fun _ _ _ waits => waits
        rw [secret, isKey, ← sound.sameIdentity] at authentic
        have same :
            (run.server.updateClient clientPubkey
              (DoubleClient.seen request.timestamp)).nextPostIdx =
              run.server.nextPostIdx := rfl
        simp only [RoomServerRun.step, stored]
        rw [record_storePost payload same]
        apply notedSound.store left _ authentic noZero
        rw [isSome_clientOf_updateClient keeps, known]
        rfl
  | keepAlive clientPubkey payload =>
      rcases run.server.handleKeepAlive_cases crypto clientPubkey payload
        with refused | ⟨request, accepted⟩
      · simp only [RoomServerRun.step, refused]
        exact sound
      · simp only [RoomServerRun.step, accepted]
        apply sound.updateClient
          (RoomServerDouble.keepsOwner_keptAlive request)
        intro client _ _ _ hash isPending
        cases isPending
  | push clientPubkey =>
      rcases run.server.pushNext_updates crypto clientPubkey with
        quiet | ⟨client, post, -, member, isDue, pushed⟩
      · simp only [RoomServerRun.step, quiet]
        exact sound
      · simp only [RoomServerRun.step, pushed]
        apply sound.updateClient
          (RoomServerDouble.keepsOwner_awaiting _ post.timestamp)
        intro waiting _ own _ hash isPending
        obtain ⟨isUsed, rest⟩ := (Bool.and_eq_true _ _).mp isDue
        have isOther := bne_iff_ne.mp ((Bool.and_eq_true _ _).mp rest).2
        have isKey : waiting.pubkey = clientPubkey :=
          (RoomServerDouble.isClient_iff.mp own).2
        refine ⟨post, sound.mem_log member isUsed, ?_, ?_, rfl⟩
        · change post.authorPubkey ≠ waiting.pubkey
          rw [isKey]
          exact isOther
        · change hash = post.ackHash crypto waiting.pubkey
          rw [isKey]
          exact (Option.some.inj isPending).symm
  | ack clientPubkey hash =>
      rcases run.server.handleAck_updates clientPubkey hash with
        ignored | accepted
      · simp only [RoomServerRun.step, ignored]
        exact sound
      · simp only [RoomServerRun.step, accepted]
        apply sound.updateClient RoomServerDouble.keepsOwner_acknowledged
        intro client _ _ _ other isPending
        cases isPending

/-- A sound run stays sound while the clock has a reading left. -/
theorem Sound.always
    (sound : run.Sound crypto identity)
    {events : List RoomServerEvent}
    (left :
      Transition.Along (RoomServerRun.step crypto)
        (fun run _ => run.server.clock.lastUnique.toNat + 1 < 2 ^ 32)
        run events) :
    Transition.Always (RoomServerRun.step crypto) (Sound crypto identity)
      run events :=
  Transition.always_of_along
    (fun _ event sound left => sound.step left event) sound left

/-- What an event does to the clock: nothing, or it is set or read. -/
theorem clock_step
    (crypto : Crypto)
    (run : RoomServerRun)
    (event : RoomServerEvent) :
    (RoomServerRun.step crypto run event).server.clock = run.server.clock ∨
      (∃ time,
        event = .setTime time ∧
          (RoomServerRun.step crypto run event).server.clock =
            { run.server.clock with currentTime := time }) ∨
      (RoomServerRun.step crypto run event).server.clock =
        run.server.clock.currentTimeUnique.1 := by
  cases event with
  | setTime time =>
      exact .inr (.inl ⟨time, rfl, rfl⟩)
  | login payload =>
      rcases run.server.handleLoginIn_cases crypto payload with
        refused | ⟨_, _, _, -, -, -, -, accepted⟩
      · exact .inl (congrArg RoomServerDouble.clock refused)
      · exact .inr (.inr (congrArg RoomServerDouble.clock accepted))
  | post clientPubkey payload =>
      rcases run.server.handlePost_cases crypto clientPubkey payload with
        refused | ⟨_, _, -, -, noted | stored⟩
      · exact .inl (congrArg RoomServerDouble.clock refused)
      · exact .inl ((congrArg RoomServerDouble.clock noted).trans rfl)
      · exact .inr (.inr (congrArg RoomServerDouble.clock stored))
  | keepAlive clientPubkey payload =>
      rcases run.server.handleKeepAlive_cases crypto clientPubkey payload
        with refused | ⟨_, accepted⟩
      · exact .inl (congrArg RoomServerDouble.clock refused)
      · exact .inl ((congrArg RoomServerDouble.clock accepted).trans rfl)
  | push clientPubkey =>
      rcases run.server.pushNext_updates crypto clientPubkey with
        quiet | ⟨_, _, -, -, -, pushed⟩
      · exact .inl (congrArg RoomServerDouble.clock quiet)
      · exact .inl ((congrArg RoomServerDouble.clock pushed).trans rfl)
  | ack clientPubkey hash =>
      rcases run.server.handleAck_updates clientPubkey hash with
        ignored | accepted
      · exact .inl (congrArg RoomServerDouble.clock ignored)
      · exact .inl ((congrArg RoomServerDouble.clock accepted).trans rfl)

/-- The clock is never set to one of its last readings. -/
def SetInTime
    (events : List RoomServerEvent) :
    Prop :=
  ∀ time,
    .setTime time ∈ events → time.toNat + events.length < 2 ^ 32

/-- A clock that is set in time has a reading left for every event. -/
theorem along_readingsLeft
    {events : List RoomServerEvent}
    {spare : Nat}
    (inTime :
      ∀ time, .setTime time ∈ events → time.toNat + spare < 2 ^ 32)
    (enough : events.length ≤ spare)
    (last : run.server.clock.lastUnique.toNat + spare < 2 ^ 32)
    (current : run.server.clock.currentTime.toNat + spare < 2 ^ 32) :
    Transition.Along (step crypto)
      (fun run _ => run.server.clock.lastUnique.toNat + 1 < 2 ^ 32)
      run events := by
  induction events generalizing run spare with
  | nil =>
      trivial
  | cons event rest inductionHypothesis =>
      rw [List.length_cons] at enough
      have left : run.server.clock.lastUnique.toNat + 1 < 2 ^ 32 := by
        omega
      obtain ⟨sameTime, isLast, -, below⟩ :=
        ServerClock.currentTimeUnique_spec left
      have restInTime :
          ∀ time,
            .setTime time ∈ rest → time.toNat + (spare - 1) < 2 ^ 32 := by
        intro time member
        have early := inTime time (List.mem_cons_of_mem event member)
        omega
      refine ⟨left, inductionHypothesis restInTime (by omega) ?_ ?_⟩
      · rcases clock_step crypto run event with
          same | ⟨time, -, isSet⟩ | isRead
        · rw [same]
          omega
        · rw [isSet]
          change run.server.clock.lastUnique.toNat + _ < _
          omega
        · rw [isRead, isLast]
          omega
      · rcases clock_step crypto run event with
          same | ⟨time, isEvent, isSet⟩ | isRead
        · rw [same]
          omega
        · have early :=
            inTime time (by rw [isEvent]; exact List.mem_cons_self)
          rw [isSet]
          change time.toNat + _ < _
          omega
        · rw [isRead, sameTime]
          omega

/-- A new double's clock has a reading left for every event of a run. -/
theorem along_readingsLeft_start
    {events : List RoomServerEvent}
    (inTime : SetInTime events)
    (few : events.length < 2 ^ 32)
    (identity : Identity)
    (adminPassword guestPassword : List UInt8)
    (allowReadOnly : Bool) :
    Transition.Along (step crypto)
      (fun run _ => run.server.clock.lastUnique.toNat + 1 < 2 ^ 32)
      (start identity adminPassword guestPassword allowReadOnly) events := by
  have fromZero : (0 : UInt32).toNat + events.length < 2 ^ 32 := by
    change 0 + events.length < 2 ^ 32
    omega
  exact along_readingsLeft inTime le_rfl fromZero fromZero

/--
Whoever sends the double what bytes in what order: as long as its clock does not
run out, one slot belongs to each client, the queue is the end of a log in the
order of the double's own time, every logged post was authenticated by a client
with a slot, and what a slot waits for is the acknowledgement of a logged post of
another client.
-/
theorem room_server_sound
    (crypto : Crypto)
    (identity : Identity)
    (adminPassword guestPassword : List UInt8)
    (allowReadOnly : Bool)
    {events : List RoomServerEvent}
    (inTime : SetInTime events)
    (few : events.length < 2 ^ 32) :
    Transition.Always (step crypto) (Sound crypto identity)
      (start identity adminPassword guestPassword allowReadOnly)
      events := by
  apply Sound.always
  · exact
      sound_start crypto identity adminPassword guestPassword allowReadOnly
  · exact along_readingsLeft_start inTime few identity adminPassword
      guestPassword allowReadOnly

/-- The secret the server shares with the second client. -/
def boRoomSecret : Key :=
  #v[0x3E, 0xF2, 0xFA, 0x10, 0xFF, 0x78, 0xCB, 0xAD, 0xA8, 0x7C, 0xDB, 0xE4,
     0x12, 0x27, 0xE9, 0xCA, 0x54, 0x96, 0x6D, 0xCB, 0x94, 0xB2, 0xA9, 0x04,
     0xBA, 0x18, 0x46, 0x15, 0xD5, 0x9F, 0x8B, 0x19]

/-- The primitives on the frames of two clients of one room. -/
def roomRecord : CryptoRecord :=
  { ciphers :=
      [(Crypto.aesKey RecordedKeys.anaSecret,
          #v[0x01, 0x00, 0x00, 0x00, 0x00, 0x00, 0x00, 0x00, 0x67, 0x6F,
             0x00, 0x00, 0x00, 0x00, 0x00, 0x00],
          #v[0x97, 0xB1, 0x58, 0x49, 0x17, 0x62, 0x2A, 0x12, 0x3B, 0x36,
             0x5D, 0x45, 0xE1, 0x95, 0x55, 0x6F]),
        (Crypto.aesKey boRoomSecret,
          #v[0x01, 0x00, 0x00, 0x00, 0x00, 0x00, 0x00, 0x00, 0x67, 0x6F,
             0x00, 0x00, 0x00, 0x00, 0x00, 0x00],
          #v[0x4E, 0xE0, 0x5A, 0x42, 0x53, 0x46, 0xBD, 0xC0, 0xD5, 0x03,
             0xE0, 0x53, 0xA9, 0x9D, 0xD3, 0x41]),
        (Crypto.aesKey RecordedKeys.anaSecret,
          #v[0x32, 0x00, 0x00, 0x00, 0x00, 0x00, 0x00, 0x02, 0xAA, 0xBB,
             0xCC, 0xDD, 0x01, 0x00, 0x00, 0x00],
          #v[0x87, 0xA8, 0x57, 0x19, 0x65, 0x4E, 0x46, 0xF0, 0x5B, 0xDD,
             0xA9, 0x80, 0xFE, 0xFD, 0x2A, 0xA2]),
        (Crypto.aesKey boRoomSecret,
          #v[0x33, 0x00, 0x00, 0x00, 0x00, 0x00, 0x00, 0x02, 0xAA, 0xBB,
             0xCC, 0xDD, 0x01, 0x00, 0x00, 0x00],
          #v[0xBC, 0x28, 0xD1, 0x54, 0xD0, 0x0D, 0x69, 0x14, 0x06, 0xC4,
             0x60, 0xBF, 0x31, 0x0C, 0xD4, 0x16]),
        (Crypto.aesKey boRoomSecret,
          #v[0x02, 0x00, 0x00, 0x00, 0x00, 0x68, 0x69, 0x00, 0x00, 0x00,
             0x00, 0x00, 0x00, 0x00, 0x00, 0x00],
          #v[0x1F, 0xF7, 0x68, 0xE6, 0xCC, 0x8D, 0xF0, 0x9B, 0x73, 0xBF,
             0xDD, 0x20, 0xE8, 0xD8, 0x47, 0xE7]),
        (Crypto.aesKey RecordedKeys.anaSecret,
          #v[0x03, 0x00, 0x00, 0x00, 0x02, 0x00, 0x00, 0x00, 0x00, 0x00,
             0x00, 0x00, 0x00, 0x00, 0x00, 0x00],
          #v[0x51, 0x85, 0x1D, 0x55, 0xDC, 0x60, 0x87, 0xB1, 0x6C, 0xCA,
             0xA8, 0x9A, 0x30, 0x13, 0x26, 0xE8]),
        (Crypto.aesKey RecordedKeys.anaSecret,
          #v[0x34, 0x00, 0x00, 0x00, 0x08, 0x0B, 0xEE, 0xF5, 0xA9, 0x68,
             0x69, 0x00, 0x00, 0x00, 0x00, 0x00],
          #v[0xC9, 0x97, 0xBF, 0xAF, 0x3B, 0x62, 0x16, 0x65, 0xCE, 0x25,
             0x95, 0xFE, 0xE5, 0x9D, 0x9A, 0xC7])]
    codes :=
      [(RecordedKeys.anaSecret.toList,
          [0x97, 0xB1, 0x58, 0x49, 0x17, 0x62, 0x2A, 0x12, 0x3B, 0x36, 0x5D,
           0x45, 0xE1, 0x95, 0x55, 0x6F],
          #v[0x53, 0xC1, 0x4C, 0x92, 0x50, 0x71, 0x0B, 0x42, 0x78, 0xB8,
             0x26, 0x4C, 0x88, 0x78, 0x6E, 0x44, 0xB4, 0xDC, 0xF7, 0xA1,
             0x30, 0x7E, 0x3C, 0x16, 0x34, 0x79, 0x44, 0xE0, 0xBD, 0x5A,
             0x9D, 0xBF]),
        (boRoomSecret.toList,
          [0x4E, 0xE0, 0x5A, 0x42, 0x53, 0x46, 0xBD, 0xC0, 0xD5, 0x03, 0xE0,
           0x53, 0xA9, 0x9D, 0xD3, 0x41],
          #v[0x5C, 0xCF, 0x1B, 0xB9, 0x3B, 0xB1, 0xB0, 0x56, 0x02, 0x92,
             0x2B, 0x32, 0x6B, 0x8D, 0xC4, 0x71, 0x91, 0x73, 0x56, 0xAD,
             0xD9, 0xCD, 0x0F, 0x54, 0x7B, 0x25, 0x47, 0xA1, 0x01, 0xBE,
             0x30, 0x1D]),
        (RecordedKeys.anaSecret.toList,
          [0x87, 0xA8, 0x57, 0x19, 0x65, 0x4E, 0x46, 0xF0, 0x5B, 0xDD, 0xA9,
           0x80, 0xFE, 0xFD, 0x2A, 0xA2],
          #v[0xAC, 0x16, 0x4A, 0x5B, 0x64, 0xED, 0xC3, 0xF3, 0x9F, 0x4C,
             0x35, 0x8D, 0x98, 0xD9, 0xD2, 0x5F, 0x1B, 0xB9, 0x56, 0x5A,
             0xBD, 0x3F, 0x80, 0x51, 0x8E, 0x15, 0xED, 0x85, 0xC1, 0x2F,
             0x5E, 0x5E]),
        (boRoomSecret.toList,
          [0xBC, 0x28, 0xD1, 0x54, 0xD0, 0x0D, 0x69, 0x14, 0x06, 0xC4, 0x60,
           0xBF, 0x31, 0x0C, 0xD4, 0x16],
          #v[0x16, 0x3D, 0xC7, 0x74, 0x1E, 0x79, 0x57, 0x4F, 0x5B, 0x53,
             0x87, 0x3C, 0x83, 0x5E, 0xD2, 0x43, 0xC2, 0x71, 0x04, 0x72,
             0xF8, 0xD4, 0x56, 0x19, 0x53, 0x8E, 0xB3, 0xB9, 0xB9, 0xE0,
             0x30, 0x46]),
        (boRoomSecret.toList,
          [0x1F, 0xF7, 0x68, 0xE6, 0xCC, 0x8D, 0xF0, 0x9B, 0x73, 0xBF, 0xDD,
           0x20, 0xE8, 0xD8, 0x47, 0xE7],
          #v[0x96, 0xF0, 0x08, 0x23, 0x8E, 0xAE, 0x65, 0x3B, 0x54, 0xD9,
             0x21, 0x85, 0x7E, 0x33, 0x3A, 0xDA, 0xC7, 0x5F, 0x44, 0x7D,
             0x47, 0x38, 0x17, 0xE8, 0x4B, 0xC5, 0x16, 0xF4, 0xF4, 0x82,
             0x33, 0xD3]),
        (RecordedKeys.anaSecret.toList,
          [0x51, 0x85, 0x1D, 0x55, 0xDC, 0x60, 0x87, 0xB1, 0x6C, 0xCA, 0xA8,
           0x9A, 0x30, 0x13, 0x26, 0xE8],
          #v[0x39, 0x23, 0x59, 0x79, 0x99, 0x7B, 0xE0, 0x8D, 0xC8, 0x34,
             0x37, 0xFD, 0x5E, 0xBE, 0xAA, 0x92, 0xAA, 0x91, 0x83, 0xEF,
             0xBA, 0x4F, 0x5A, 0x22, 0xF4, 0x5A, 0xD8, 0xE9, 0xC5, 0x85,
             0xB0, 0x0A]),
        (RecordedKeys.anaSecret.toList,
          [0xC9, 0x97, 0xBF, 0xAF, 0x3B, 0x62, 0x16, 0x65, 0xCE, 0x25, 0x95,
           0xFE, 0xE5, 0x9D, 0x9A, 0xC7],
          #v[0xF4, 0xF4, 0xF6, 0xB3, 0x86, 0xE5, 0xA0, 0x23, 0x2C, 0x75,
             0x9B, 0x5A, 0x56, 0x3B, 0x23, 0xC5, 0x9A, 0x66, 0x10, 0x26,
             0x1F, 0x10, 0xAF, 0x61, 0x04, 0xD7, 0xE7, 0x51, 0xAF, 0xEE,
             0x00, 0xCC])]
    digests :=
      [([0x02, 0x00, 0x00, 0x00, 0x00, 0x68, 0x69] ++
            RecordedKeys.boPubkey.toList,
          #v[0x2C, 0x4A, 0x08, 0x40, 0x8C, 0x15, 0x5B, 0x33, 0xA1, 0xA6,
             0x6E, 0x14, 0x55, 0xFC, 0x22, 0xF9, 0x9C, 0xDB, 0x20, 0x71,
             0x08, 0xC6, 0x85, 0x09, 0x8E, 0xC0, 0x18, 0x9B, 0xD2, 0x58,
             0xE5, 0x5E]),
        ([0x03, 0x00, 0x00, 0x00, 0x02, 0x00, 0x00, 0x00, 0x00] ++
            RecordedKeys.device.pubkey.toList,
          #v[0xC8, 0x3F, 0x67, 0x76, 0xE9, 0xD7, 0x8C, 0xB3, 0x11, 0xDC,
             0x16, 0xA6, 0x55, 0x20, 0x57, 0x1B, 0x05, 0xC3, 0xE2, 0xA7,
             0xB8, 0x8C, 0x52, 0x1E, 0x8B, 0x7E, 0x81, 0xE7, 0xDC, 0xDF,
             0x0C, 0x80]),
        ([0x34, 0x00, 0x00, 0x00, 0x08, 0x0B, 0xEE, 0xF5, 0xA9, 0x68, 0x69] ++
            RecordedKeys.device.pubkey.toList,
          #v[0xD9, 0x82, 0xA0, 0x2D, 0x28, 0xF9, 0x00, 0x20, 0x90, 0x82,
             0x8C, 0x38, 0x89, 0xFF, 0xC2, 0xEE, 0x86, 0x21, 0xB0, 0x43,
             0xE9, 0x8D, 0xAF, 0x77, 0xD1, 0x0A, 0xA2, 0x72, 0xD5, 0x15,
             0x75, 0xA6])]
    agreements :=
      RecordedKeys.agreements ++
        [(Vector.replicate 32 0x0C, RecordedKeys.device.pubkey,
          RecordedKeys.anaSecret),
          (Vector.replicate 32 0x0C, RecordedKeys.boPubkey, boRoomSecret)] }

/-- The server of the room. -/
def roomServer : Identity :=
  { seed := Vector.replicate 32 0x0C
    pubkey := RecordedKeys.anaPubkey }

/-- A new double of the server, whose guests may post. -/
def newRoom : RoomServerRun :=
  start roomServer [0x61] [0x67, 0x6F] false

/-- The login of a guest with a secret. -/
def guestLogin
    (secret clientPubkey : Key) :
    RoomServerEvent :=
  .login
    (encodeAnonReqLogin roomRecord.crypto secret
      (pubHash roomServer.pubkey) clientPubkey 1 0 [0x67, 0x6F])

/-- The post `hi` of the second client. -/
def postHi : RoomServerEvent :=
  .post RecordedKeys.boPubkey
    (encodeRoomPost roomRecord.crypto boRoomSecret
      (pubHash roomServer.pubkey) (pubHash RecordedKeys.boPubkey) 2 0
      [0x68, 0x69])

/-- Both clients log in, and the post of the second one arrives twice. -/
def roomEvents : List RoomServerEvent :=
  [.setTime 50,
    guestLogin RecordedKeys.anaSecret RecordedKeys.device.pubkey,
    guestLogin boRoomSecret RecordedKeys.boPubkey, postHi, postHi,
    .push RecordedKeys.device.pubkey]

/-- The clock is set early enough for the events. -/
theorem roomEvents_inTime : SetInTime roomEvents := by
  intro time member
  have isTime : time = 50 := by
    simpa [roomEvents, guestLogin, postHi] using member
  subst isTime
  decide

/-- One post is stored, its push waits for an acknowledgement, and every state was
sound. -/
theorem room_server_sound_recorded :
    ((Transition.run (step roomRecord.crypto) newRoom
          roomEvents).stored.length = 1 ∧
      ((Transition.run (step roomRecord.crypto) newRoom
          roomEvents).server.clientOf
            RecordedKeys.device.pubkey).map DoubleClient.pushPostTs =
        some 52) ∧
      Transition.Always (step roomRecord.crypto)
        (Sound roomRecord.crypto roomServer) newRoom roomEvents :=
  ⟨by decide +kernel,
    room_server_sound roomRecord.crypto roomServer [0x61] [0x67, 0x6F]
      false roomEvents_inTime (by decide)⟩

end RoomServerRun

end MeshCadet
