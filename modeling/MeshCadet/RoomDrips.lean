import MeshCadet.RoomServerRuns

namespace MeshCadet

/-!
# Draining a room server

The answer to a keep-alive tells a client how many posts it has not read.  The
double pushes one post for each acknowledgement, and the count is exactly how
often it does: that many rounds bring the posts counted, in order, and the next
one brings nothing.
-/

open Outcome WatermarkLog

/-- The hash with which a client acknowledges what it read. -/
def RoomPush.ackHash
    (push : RoomPush)
    (crypto : Crypto)
    (clientPubkey : Key) :
    Vector UInt8 4 :=
  roomPushAckHash crypto push.postTs push.attempt push.pushBody clientPubkey

namespace RoomServerDouble

/-- One round: a push, which the client reads and acknowledges. -/
def exchange
    (server : RoomServerDouble)
    (crypto : Crypto)
    (clientPubkey : Key) :
    RoomServerDouble × Option RoomPush :=
  let secret := server.identity.ecdhSharedSecret crypto clientPubkey
  match server.pushNext crypto clientPubkey with
  | (pushed, none) => (pushed, none)
  | (pushed, some payload) =>
      match decodeRoomPush crypto secret payload with
      | .error _ => (pushed, none)
      | .ok (_, _, push) =>
          ((pushed.handleAck clientPubkey
            (push.ackHash crypto clientPubkey)).1, some push)

/-- Rounds one after another, and what the client read in them. -/
def drip
    (crypto : Crypto)
    (clientPubkey : Key) :
    Nat → RoomServerDouble → RoomServerDouble × List RoomPush
  | 0, server => (server, [])
  | rounds + 1, server =>
      let (next, push) := server.exchange crypto clientPubkey
      let (last, pushes) := drip crypto clientPubkey rounds next
      (last, push.toList ++ pushes)

/-- The first post that a client has not read is the one pushed next. -/
theorem find?_visited_due
    {server : RoomServerDouble}
    {client : DoubleClient} :
    (server.visited.find? fun post =>
        post.isDue client.syncSince client.pubkey) =
      (server.due client).head? := by
  rw [due, List.head?_filter]

/-- A client that has read the first due post has the others to read. -/
theorem due_read
    {server changed : RoomServerDouble}
    {client reader : DoubleClient}
    {post : DoublePost}
    {rest : List DoublePost}
    (isDue : server.due client = post :: rest)
    (ordered : Ordered DoublePost.order (server.due client))
    (sameQueue : changed.visited = server.visited)
    (sameKey : reader.pubkey = client.pubkey)
    (read : reader.syncSince = post.timestamp) :
    changed.due reader = rest := by
  have member : post ∈ server.due client := by
    rw [isDue]
    exact List.mem_cons_self
  have ahead : client.syncSince < post.timestamp := by
    have isOne := (List.mem_filter.mp member).2
    simp only [DoublePost.isDue, Bool.and_eq_true,
      decide_eq_true_eq] at isOne
    exact isOne.2.1
  have again :
      changed.due reader =
        (server.due client).filter fun other =>
          decide (post.timestamp < other.timestamp) := by
    rw [due, due, sameQueue, sameKey, read, List.filter_filter]
    congr 1
    funext other
    have further :
        post.timestamp < other.timestamp →
          client.syncSince < other.timestamp :=
      fun later => UInt32.lt_trans ahead later
    simp only [DoublePost.isDue]
    cases other.used <;> cases other.authorPubkey != client.pubkey <;>
      simp_all
  rw [again, isDue]
  rw [isDue] at ordered
  obtain ⟨before, -⟩ := List.pairwise_cons.mp ordered
  rw [List.filter_cons_of_neg (by simp),
    List.filter_eq_self]
  intro other isOther
  have later := before other isOther
  exact decide_eq_true (UInt32.lt_iff_toNat_lt.mpr later)

/-- A client that is not waited for, and what is due to it. -/
structure Drains
    (server : RoomServerDouble)
    (crypto : Crypto)
    (clientPubkey : Key)
    (posts : List DoublePost) :
    Prop where
  idle :
    ∃ client,
      server.clientOf clientPubkey = some client ∧
        client.pendingAck = none ∧
        client.sharedSecret =
          server.identity.ecdhSharedSecret crypto clientPubkey ∧
        server.due client = posts
  ordered : Ordered DoublePost.order posts
  noZero : ∀ post ∈ posts, ∀ byte ∈ post.text, byte ≠ 0

/-- Nothing is pushed when nothing is due. -/
theorem Drains.quiet
    {server : RoomServerDouble}
    {crypto : Crypto}
    {clientPubkey : Key}
    (drains : server.Drains crypto clientPubkey []) :
    server.pushNext crypto clientPubkey = (server, none) := by
  obtain ⟨client, known, idle, -, isDue⟩ := drains.idle
  have isKey := (clientOf_eq_some known).2.2
  have none := @find?_visited_due server client
  rw [isDue, isKey] at none
  rw [pushNext, known]
  simp only [idle, Option.isSome_none, Bool.false_eq_true, if_false]
  rw [none]
  rfl

/-- A round brings the first due post, and the others stay due. -/
theorem Drains.exchange
    {server : RoomServerDouble}
    {crypto : Crypto}
    (inverse : crypto.DecryptsEncrypted)
    {clientPubkey : Key}
    {post : DoublePost}
    {rest : List DoublePost}
    (drains : server.Drains crypto clientPubkey (post :: rest)) :
    ∃ next,
      server.exchange crypto clientPubkey = (next, some post.carried) ∧
        next.visited = server.visited ∧
        next.Drains crypto clientPubkey rest := by
  obtain ⟨client, known, idle, secret, isDue⟩ := drains.idle
  have isKey := (clientOf_eq_some known).2.2
  have found := @find?_visited_due server client
  rw [isDue, isKey, List.head?_cons] at found
  let pushed :=
    server.updateClient clientPubkey
      (DoubleClient.awaiting (post.ackHash crypto clientPubkey)
        post.timestamp)
  let payload :=
    encodeDmPayload crypto client.sharedSecret (pubHash clientPubkey)
      (pubHash server.identity.pubkey) post.pushPlaintext
  have isPush :
      server.pushNext crypto clientPubkey = (pushed, some payload) := by
    rw [pushNext, known]
    simp only [idle, Option.isSome_none, Bool.false_eq_true, if_false]
    rw [found]
    rfl
  have isRead :=
    decodeRoomPush_push inverse client.sharedSecret (pubHash clientPubkey)
      (pubHash server.identity.pubkey)
      (drains.noZero post List.mem_cons_self)
  have sameHash :
      post.carried.ackHash crypto clientPubkey =
        post.ackHash crypto clientPubkey := rfl
  have waiting :
      pushed.clientOf clientPubkey =
        some
          (client.awaiting (post.ackHash crypto clientPubkey)
            post.timestamp) := by
    rw [clientOf_updateClient _ (keepsOwner_awaiting _ _), if_pos rfl,
      known]
    rfl
  have acknowledged :
      (pushed.handleAck clientPubkey
          (post.ackHash crypto clientPubkey)).1 =
        pushed.updateClient clientPubkey DoubleClient.acknowledged := by
    rw [handleAck, waiting]
    simp only [DoubleClient.awaiting, if_true]
    rfl
  refine
    ⟨pushed.updateClient clientPubkey DoubleClient.acknowledged, ?_, rfl,
      ?_⟩
  · simp only [RoomServerDouble.exchange, isPush, ← secret]
    simp only [payload, isRead, sameHash, acknowledged]
  · let reader :=
      (client.awaiting (post.ackHash crypto clientPubkey)
        post.timestamp).acknowledged
    refine ⟨⟨reader, ?_, rfl, secret, ?_⟩, ?_, ?_⟩
    · rw [clientOf_updateClient _ keepsOwner_acknowledged, if_pos rfl,
        waiting]
      rfl
    · have ordered := drains.ordered
      rw [← isDue] at ordered
      exact due_read isDue ordered rfl rfl rfl
    · exact (List.pairwise_cons.mp drains.ordered).2
    · intro other member
      exact drains.noZero other (List.mem_cons_of_mem post member)

/-- As many rounds as posts are due bring them all, in order. -/
theorem Drains.drip
    {crypto : Crypto}
    (inverse : crypto.DecryptsEncrypted)
    {clientPubkey : Key}
    {posts : List DoublePost}
    {server : RoomServerDouble}
    (drains : server.Drains crypto clientPubkey posts) :
    (RoomServerDouble.drip crypto clientPubkey posts.length server).2 =
        posts.map DoublePost.carried ∧
      Drains
        (RoomServerDouble.drip crypto clientPubkey posts.length server).1
        crypto clientPubkey [] := by
  induction posts generalizing server with
  | nil =>
      exact ⟨rfl, drains⟩
  | cons post rest inductionHypothesis =>
      obtain ⟨next, round, -, restDrains⟩ := drains.exchange inverse
      obtain ⟨restRead, drained⟩ := inductionHypothesis restDrains
      simp only [List.length_cons, RoomServerDouble.drip, round]
      refine ⟨?_, drained⟩
      rw [restRead]
      rfl

end RoomServerDouble

namespace RoomServerRun

variable {crypto : Crypto} {identity : Identity} {run : RoomServerRun}

/-- What is due to a client is part of the log, in its order. -/
theorem Sound.due
    (sound : run.Sound crypto identity)
    (client : DoubleClient) :
    Ordered DoublePost.order (run.server.due client) ∧
      ∀ post ∈ run.server.due client, ∀ byte ∈ post.text, byte ≠ 0 := by
  have inLog : (run.server.due client).Sublist run.log := by
    have fromWindow :
        (run.server.due client).Sublist
          ((List.replicate maxUnsyncedPosts DoublePost.empty ++
            run.log).filter fun post =>
              post.isDue client.syncSince client.pubkey) := by
      rw [RoomServerDouble.due, sound.window]
      exact (List.drop_sublist _ _).filter _
    have empties :
        (List.replicate maxUnsyncedPosts DoublePost.empty).filter
            (fun post => post.isDue client.syncSince client.pubkey) =
          [] := by
      rw [List.filter_eq_nil_iff]
      intro post member
      rw [List.eq_of_mem_replicate member]
      exact Bool.false_ne_true
    rw [List.filter_append, empties, List.nil_append] at fromWindow
    exact fromWindow.trans List.filter_sublist
  refine ⟨sound.ordered.sublist inLog, ?_⟩
  intro post member
  obtain ⟨stored, isStored, rfl⟩ :=
    List.mem_map.mp (inLog.subset member)
  exact (sound.posts stored isStored).noZero

/-- An accepted keep-alive makes the double ready to push what it counts. -/
theorem Sound.keepAlive
    (sound : run.Sound crypto identity)
    {clientPubkey : Key}
    {payload bytes : List UInt8}
    {changed : RoomServerDouble}
    (accepted :
      run.server.handleKeepAlive crypto clientPubkey payload =
        .value (changed, some bytes)) :
    ∃ client ack,
      decodeKeepAliveAck bytes = .ok ack ∧
        changed.clientOf clientPubkey = some client ∧
        ack.unsyncedCount.toNat = (changed.due client).length ∧
        changed.Drains crypto clientPubkey (changed.due client) := by
  rw [RoomServerDouble.handleKeepAlive] at accepted
  split at accepted
  · cases accepted
  · next client known =>
    split at accepted
    · next request _ =>
      rcases run.server.acceptKeepAlive_cases crypto clientPubkey request
        with refused | ⟨found, isFound, -, isAccepted⟩
      · rw [refused] at accepted
        cases accepted
      · rw [isAccepted] at accepted
        cases accepted
        obtain ⟨member, used, isKey⟩ :=
          RoomServerDouble.clientOf_eq_some isFound
        have secret := (sound.clients found member).secret used
        rw [isKey, ← sound.sameIdentity] at secret
        obtain ⟨ordered, noZero⟩ := sound.due (found.keptAlive request)
        have kept :
            (run.server.updateClient clientPubkey
                (DoubleClient.keptAlive request)).clientOf clientPubkey =
              some (found.keptAlive request) := by
          rw [RoomServerDouble.clientOf_updateClient _
            (RoomServerDouble.keepsOwner_keptAlive request), if_pos rfl,
            isFound]
          rfl
        exact
          ⟨found.keptAlive request, _, decodeKeepAliveAck_payload _, kept,
            run.server.toNat_unsyncedCount _,
            ⟨⟨found.keptAlive request, kept, rfl, secret, rfl⟩, ordered,
              noZero⟩⟩
    · cases accepted
    · cases accepted

/--
After any run, the count in the answer to a keep-alive is the number of rounds of
push and acknowledgement that are left: so many rounds bring the client the posts
it has not read, in their order, with text, author and time, and then nothing is
pushed any more.
-/
theorem drip_unsyncedCount
    (inverse : crypto.DecryptsEncrypted)
    (identity : Identity)
    (adminPassword guestPassword : List UInt8)
    (allowReadOnly : Bool)
    {events : List RoomServerEvent}
    (inTime : SetInTime events)
    (few : events.length < 2 ^ 32)
    {clientPubkey : Key}
    {payload bytes : List UInt8}
    {changed : RoomServerDouble}
    (accepted :
      (Transition.run (step crypto)
          (start identity adminPassword guestPassword allowReadOnly)
          events).server.handleKeepAlive crypto clientPubkey payload =
        .value (changed, some bytes)) :
    ∃ client ack,
      decodeKeepAliveAck bytes = .ok ack ∧
        changed.clientOf clientPubkey = some client ∧
        ack.unsyncedCount.toNat = (changed.due client).length ∧
        ∃ last,
          RoomServerDouble.drip crypto clientPubkey
              ack.unsyncedCount.toNat changed =
            (last, (changed.due client).map DoublePost.carried) ∧
          last.pushNext crypto clientPubkey = (last, none) := by
  have left :=
    @along_readingsLeft_start crypto events inTime few identity
      adminPassword guestPassword allowReadOnly
  have sound :=
    (sound_start crypto identity adminPassword guestPassword
      allowReadOnly).always left |>.last
  obtain ⟨client, ack, isAck, known, isCount, drains⟩ :=
    sound.keepAlive accepted
  obtain ⟨read, drained⟩ := drains.drip inverse
  rw [← isCount] at read drained
  refine ⟨client, ack, isAck, known, isCount, _, ?_, drained.quiet⟩
  rw [← read]

/-- The keep-alive of the first client. -/
def keepAlivePayload : List UInt8 :=
  encodeKeepAlive roomRecord.crypto RecordedKeys.anaSecret
    (pubHash roomServer.pubkey) (pubHash RecordedKeys.device.pubkey) 3 0

/-- The double after the keep-alive, and its answer. -/
def keepAliveAnswer : RoomServerDouble × List UInt8 :=
  match
    (Transition.run (step roomRecord.crypto) newRoom
      roomEvents).server.handleKeepAlive roomRecord.crypto
        RecordedKeys.device.pubkey keepAlivePayload with
  | .value (changed, some bytes) => (changed, bytes)
  | _ => (newRoom.server, [])

/-- The keep-alive counts the post whose push was lost, and one round brings it. -/
theorem drip_unsyncedCount_recorded :
    ∃ client ack,
      decodeKeepAliveAck keepAliveAnswer.2 = .ok ack ∧
        keepAliveAnswer.1.clientOf RecordedKeys.device.pubkey =
          some client ∧
        ack.unsyncedCount.toNat = (keepAliveAnswer.1.due client).length ∧
        ∃ last,
          RoomServerDouble.drip roomRecord.crypto
              RecordedKeys.device.pubkey ack.unsyncedCount.toNat
              keepAliveAnswer.1 =
            (last,
              (keepAliveAnswer.1.due client).map DoublePost.carried) ∧
          last.pushNext roomRecord.crypto RecordedKeys.device.pubkey =
            (last, none) :=
  drip_unsyncedCount roomRecord.decryptsEncrypted roomServer [0x61]
    [0x67, 0x6F] false roomEvents_inTime (by decide)
    (show
      (Transition.run (step roomRecord.crypto) newRoom
          roomEvents).server.handleKeepAlive roomRecord.crypto
            RecordedKeys.device.pubkey keepAlivePayload =
        .value (keepAliveAnswer.1, some keepAliveAnswer.2) by
      decide +kernel)

/-- The answer counts one post. -/
example :
    (decodeKeepAliveAck keepAliveAnswer.2).map KeepAliveAck.unsyncedCount =
      .ok 1 := by
  decide +kernel

end RoomServerRun

end MeshCadet
