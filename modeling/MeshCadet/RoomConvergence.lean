import Mathlib.Data.List.Nodup
import MeshCadet.RoomSync

namespace MeshCadet

/-!
# Convergence with a room server

The posts of others form a log, and both watermarks are positions in it: the
client has received what is up to its own one, and the server's is never above
it.  Each push on its way carries a post before which the client has received
everything, and each acknowledgement belongs to a post it has received.
-/

open WatermarkLog

/-- The watermark of a session as a position in the log. -/
def PersistedRoomSession.mark
    (session : PersistedRoomSession) :
    Nat :=
  session.syncSince.toNat

/-- A session's watermark is raised to a post it receives, and never lowered. -/
theorem PersistedRoomSession.mark_recordSyncedPostTs
    (session : PersistedRoomSession)
    (postTs : UInt32) :
    (session.recordSyncedPostTs postTs).mark =
      max session.mark postTs.toNat := by
  unfold recordSyncedPostTs mark
  split
  · next later =>
    have later' := UInt32.lt_iff_toNat_lt.mp later
    change postTs.toNat = _
    omega
  · next notLater =>
    have notLater' := mt UInt32.lt_iff_toNat_lt.mpr notLater
    omega

namespace RoomSyncSetup

/-- The push of a post. -/
def pushOf
    (setup : RoomSyncSetup)
    (post : DoublePost) :
    List UInt8 :=
  encodeDmPayload setup.crypto setup.secret (pubHash setup.client.pubkey)
    (pubHash setup.server.pubkey) post.pushPlaintext

/-- The hash with which the client acknowledges a post. -/
def hashOf
    (setup : RoomSyncSetup)
    (post : DoublePost) :
    Vector UInt8 4 :=
  post.ackHash setup.crypto setup.client.pubkey

/-- A registered client shares the secret, its watermark is not above the
session's, and it waits for the acknowledgement of the post pushed last. -/
structure Registered
    (setup : RoomSyncSetup)
    (seeded : List DoublePost)
    (mark : Nat)
    (client : DoubleClient) :
    Prop where
  secret : client.sharedSecret = setup.secret
  behind : client.syncSince.toNat ≤ mark
  pending :
    ∀ ack,
      client.pendingAck = some ack →
        ∃ post ∈ setup.others seeded,
          ack = setup.hashOf post ∧ client.pushPostTs = post.timestamp

/-- A push on its way: the client has received all posts before its own. -/
def Pushed
    (setup : RoomSyncSetup)
    (seeded : List DoublePost)
    (mark : Nat)
    (payload : List UInt8) :
    Prop :=
  ∃ post ∈ setup.others seeded,
    payload = setup.pushOf post ∧
      Reaches DoublePost.order mark (setup.others seeded) post

/-- An acknowledgement on its way: the client has received its post. -/
def Acknowledged
    (setup : RoomSyncSetup)
    (seeded : List DoublePost)
    (mark : Nat)
    (ack : Vector UInt8 4) :
    Prop :=
  ∃ post ∈ setup.others seeded,
    ack = setup.hashOf post ∧ post.order ≤ mark

/-- The posts of others that left the queue were received. -/
def Queued
    (setup : RoomSyncSetup)
    (seeded : List DoublePost)
    (mark : Nat)
    (server : RoomServerDouble) :
    Prop :=
  ∃ gone,
    setup.others seeded = gone ++ server.kept setup.client.pubkey ∧
      ∀ post ∈ gone, post.order ≤ mark

/-- The posts so far: in order, above the client's first watermark, without zero
bytes, and acknowledged by different hashes. -/
structure Posted
    (setup : RoomSyncSetup)
    (seeded : List DoublePost) :
    Prop where
  ordered : Ordered DoublePost.order seeded
  late : ∀ post ∈ seeded, setup.session.mark < post.order
  noZero : ∀ post ∈ seeded, ∀ byte ∈ post.text, byte ≠ 0
  apart : ((setup.others seeded).map setup.hashOf).Nodup

/-- What every event keeps. -/
structure Sound
    (setup : RoomSyncSetup)
    (state : RoomSync) :
    Prop where
  identity : state.server.identity = setup.server
  posted : setup.Posted state.seeded
  queued : setup.Queued state.seeded state.session.mark state.server
  received :
    state.received =
      (upTo DoublePost.order state.session.mark
        (setup.others state.seeded)).map DoublePost.carried
  marked :
    state.session.mark = setup.session.mark ∨
      ∃ post ∈ state.seeded, post.order = state.session.mark
  pushes :
    ∀ payload ∈ state.pushes,
      setup.Pushed state.seeded state.session.mark payload
  acks :
    ∀ ack ∈ state.acks,
      setup.Acknowledged state.seeded state.session.mark ack
  client :
    ∀ client,
      state.server.clientOf setup.client.pubkey = some client →
        setup.Registered state.seeded state.session.mark client

section Posts

variable
    {setup : RoomSyncSetup}
    {seeded : List DoublePost}

/-- The posts of others are in order. -/
theorem Posted.othersOrdered
    (posted : setup.Posted seeded) :
    Ordered DoublePost.order (setup.others seeded) :=
  posted.ordered.sublist List.filter_sublist

/-- A hash belongs to one post only. -/
theorem Posted.eq_of_hash
    (posted : setup.Posted seeded)
    {first second : DoublePost}
    (firstMember : first ∈ setup.others seeded)
    (secondMember : second ∈ setup.others seeded)
    (same : setup.hashOf first = setup.hashOf second) :
    first = second :=
  List.inj_on_of_nodup_map posted.apart firstMember secondMember same

/-- The client reads the post in its push. -/
theorem Posted.readPush
    (inverse : setup.crypto.DecryptsEncrypted)
    (posted : setup.Posted seeded)
    {post : DoublePost}
    (member : post ∈ setup.others seeded) :
    decodeRoomPush setup.crypto setup.secret (setup.pushOf post) =
      .ok (pubHash setup.client.pubkey, pubHash setup.server.pubkey,
        post.carried) :=
  decodeRoomPush_push inverse setup.secret _ _
    (posted.noZero post (List.mem_of_mem_filter member))

end Posts

section Marks

variable
    {setup : RoomSyncSetup}
    {seeded : List DoublePost}
    {mark higher : Nat}

theorem Queued.raise
    {server : RoomServerDouble}
    (queued : setup.Queued seeded mark server)
    (raised : mark ≤ higher) :
    setup.Queued seeded higher server := by
  obtain ⟨gone, split, wereReceived⟩ := queued
  exact ⟨gone, split,
    fun post member => (wereReceived post member).trans raised⟩

theorem Pushed.raise
    {payload : List UInt8}
    (pushed : setup.Pushed seeded mark payload)
    (raised : mark ≤ higher) :
    setup.Pushed seeded higher payload := by
  obtain ⟨post, member, isPush, reaches⟩ := pushed
  exact ⟨post, member, isPush, reaches.mono raised⟩

theorem Acknowledged.raise
    {ack : Vector UInt8 4}
    (acknowledged : setup.Acknowledged seeded mark ack)
    (raised : mark ≤ higher) :
    setup.Acknowledged seeded higher ack := by
  obtain ⟨post, member, isHash, covered⟩ := acknowledged
  exact ⟨post, member, isHash, covered.trans raised⟩

theorem Registered.raise
    {client : DoubleClient}
    (registered : setup.Registered seeded mark client)
    (raised : mark ≤ higher) :
    setup.Registered seeded higher client :=
  { registered with
    behind := registered.behind.trans raised }

/-- The posts of others after one more was seeded. -/
theorem others_append
    (setup : RoomSyncSetup)
    (seeded : List DoublePost)
    (post : DoublePost) :
    setup.others (seeded ++ [post]) =
      setup.others seeded ++ setup.others [post] := by
  simp [others]

/-- A post of others is still one after another was seeded. -/
theorem mem_others_append
    {post : DoublePost}
    (member : post ∈ setup.others seeded)
    (later : DoublePost) :
    post ∈ setup.others (seeded ++ [later]) := by
  rw [others_append]
  exact List.mem_append_left _ member

theorem Pushed.append
    {payload : List UInt8}
    (pushed : setup.Pushed seeded mark payload)
    {later : DoublePost}
    (behind : ∀ post ∈ seeded, post.order < later.order) :
    setup.Pushed (seeded ++ [later]) mark payload := by
  obtain ⟨post, member, isPush, reaches⟩ := pushed
  refine ⟨post, mem_others_append member later, isPush, ?_⟩
  rw [others_append]
  apply reaches.append
  intro other isLater
  have same : other = later := by
    simpa using List.mem_of_mem_filter isLater
  rw [same]
  exact (behind post (List.mem_of_mem_filter member)).le

theorem Acknowledged.append
    {ack : Vector UInt8 4}
    (acknowledged : setup.Acknowledged seeded mark ack)
    (later : DoublePost) :
    setup.Acknowledged (seeded ++ [later]) mark ack := by
  obtain ⟨post, member, facts⟩ := acknowledged
  exact ⟨post, mem_others_append member later, facts⟩

theorem Registered.append
    {client : DoubleClient}
    (registered : setup.Registered seeded mark client)
    (later : DoublePost) :
    setup.Registered (seeded ++ [later]) mark client :=
  { registered with
    pending := by
      intro ack pending
      obtain ⟨post, member, facts⟩ := registered.pending ack pending
      exact ⟨post, mem_others_append member later, facts⟩ }

/-- A new post behind all others, with a hash of its own. -/
theorem Posted.append
    (posted : setup.Posted seeded)
    {later : DoublePost}
    (behind : ∀ post ∈ seeded, post.order < later.order)
    (late : setup.session.mark < later.order)
    (noZero : ∀ byte ∈ later.text, byte ≠ 0)
    (apart :
      later.authorPubkey ≠ setup.client.pubkey →
        ∀ post ∈ setup.others seeded,
          setup.hashOf post ≠ setup.hashOf later) :
    setup.Posted (seeded ++ [later]) where
  ordered := by
    refine List.pairwise_append.mpr
      ⟨posted.ordered, List.pairwise_singleton _ _, ?_⟩
    intro post member other isLater
    cases List.mem_singleton.mp isLater
    exact behind post member
  late := by
    intro post member
    rcases List.mem_append.mp member with before | now
    · exact posted.late post before
    · cases List.mem_singleton.mp now
      exact late
  noZero := by
    intro post member
    rcases List.mem_append.mp member with before | now
    · exact posted.noZero post before
    · cases List.mem_singleton.mp now
      exact noZero
  apart := by
    rw [others_append, List.map_append]
    by_cases own : later.authorPubkey = setup.client.pubkey
    · simpa [others, own] using posted.apart
    · have isOther : setup.others [later] = [later] := by
        simp [others, own]
      rw [isOther]
      refine List.nodup_append.mpr
        ⟨posted.apart, List.nodup_singleton _, ?_⟩
      intro hash isHash other isLater
      obtain ⟨post, member, rfl⟩ := List.mem_map.mp isHash
      cases List.mem_singleton.mp isLater
      exact apart own post member

/-- The oldest post may leave the queue when it was received. -/
theorem Queued.seedPost
    {server : RoomServerDouble}
    (queued : setup.Queued seeded mark server)
    (authorPubkey : Key)
    (timestamp : UInt32)
    (text : List UInt8)
    (oldestReceived :
      ∀ oldest,
        server.visited.head? = some oldest →
        oldest.used = true →
          oldest.authorPubkey = setup.client.pubkey ∨
            oldest.order ≤ mark) :
    setup.Queued (seeded ++ [.new authorPubkey timestamp text]) mark
      (server.seedPost authorPubkey timestamp text) := by
  obtain ⟨gone, split, wereReceived⟩ := queued
  have keptAfter :
      (server.seedPost authorPubkey timestamp text).kept
          setup.client.pubkey =
        (server.visited.tail.filter fun post =>
            post.used && post.authorPubkey != setup.client.pubkey) ++
          setup.others [.new authorPubkey timestamp text] := by
    rw [RoomServerDouble.kept, RoomServerDouble.visited_seedPost,
      List.filter_append]
    simp only [others, DoublePost.new, List.filter_cons, Bool.true_and,
      List.filter_nil]
  have keptBefore :
      server.kept setup.client.pubkey =
        server.visited.filter fun post =>
          post.used && post.authorPubkey != setup.client.pubkey :=
    rfl
  rw [Queued, others_append, split, keptAfter, keptBefore]
  cases visited : server.visited with
  | nil => exact ⟨gone, by simp, wereReceived⟩
  | cons oldest rest =>
      rw [visited] at oldestReceived
      cases isDue :
          (oldest.used && oldest.authorPubkey != setup.client.pubkey) with
      | false => exact ⟨gone, by simp [isDue], wereReceived⟩
      | true =>
          have isKept :
              oldest.used = true ∧
                oldest.authorPubkey ≠ setup.client.pubkey := by
            simpa using isDue
          refine ⟨gone ++ [oldest], by simp [isDue], ?_⟩
          intro post member
          rcases List.mem_append.mp member with before | now
          · exact wereReceived post before
          · cases List.mem_singleton.mp now
            rcases oldestReceived oldest rfl isKept.1 with own | covered
            · exact absurd own isKept.2
            · exact covered

end Marks

section States

variable
    {setup : RoomSyncSetup}
    {state : RoomSync}

/-- Received posts are told apart by their timestamps. -/
theorem Sound.carried_mem_received
    (sound : setup.Sound state)
    {post : DoublePost} :
    post.carried ∈ state.received → post.order ≤ state.session.mark := by
  intro received
  rw [sound.received] at received
  obtain ⟨other, member, same⟩ := List.mem_map.mp received
  have isRead : other.order ≤ state.session.mark := by
    simpa [upTo] using (List.mem_filter.mp member).2
  have sameTs : other.timestamp = post.timestamp :=
    congrArg RoomPush.postTs same
  rw [DoublePost.order, ← sameTs]
  exact isRead

/-- A post the watermark covers was received. -/
theorem Sound.mem_received
    (sound : setup.Sound state)
    {post : DoublePost}
    (member : post ∈ setup.others state.seeded)
    (covered : post.order ≤ state.session.mark) :
    post.carried ∈ state.received := by
  rw [sound.received]
  exact List.mem_map_of_mem
    (List.mem_filter.mpr ⟨member, by simpa using covered⟩)

/-- Reading the next post adds it to what was received. -/
theorem Sound.received_advance
    (sound : setup.Sound state)
    {post : DoublePost}
    (member : post ∈ setup.others state.seeded)
    (reaches :
      Reaches DoublePost.order state.session.mark (setup.others state.seeded)
        post)
    (ahead : state.session.mark < post.order) :
    (upTo DoublePost.order post.order (setup.others state.seeded)).map
        DoublePost.carried =
      state.received ++ [post.carried] := by
  rw [upTo_advance sound.posted.othersOrdered member reaches ahead,
    List.map_append, sound.received]
  rfl

/-- Everything was received exactly when the watermark covers every post. -/
theorem Sound.received_eq_wanted_iff
    (sound : setup.Sound state) :
    state.received = setup.wanted state.seeded ↔
      ∀ post ∈ setup.others state.seeded, post.order ≤ state.session.mark := by
  constructor
  · intro all post member
    apply sound.carried_mem_received
    rw [all]
    exact List.mem_map_of_mem member
  · intro covered
    rw [sound.received, upTo_eq_self_iff.mpr covered, wanted]

/-- What was received is the first part of what is wanted. -/
theorem Sound.received_prefix
    (sound : setup.Sound state) :
    state.received <+: setup.wanted state.seeded := by
  rw [sound.received]
  exact (upTo_isPrefix sound.posted.othersOrdered _).map _

/-- The next post continues what was received. -/
theorem Sound.next_isPrefix
    (sound : setup.Sound state)
    {post : DoublePost}
    (member : post ∈ setup.others state.seeded)
    (reaches :
      Reaches DoublePost.order state.session.mark (setup.others state.seeded)
        post)
    (ahead : state.session.mark < post.order) :
    state.received ++ [post.carried] <+: setup.wanted state.seeded := by
  rw [← sound.received_advance member reaches ahead]
  exact (upTo_isPrefix sound.posted.othersOrdered _).map _

/-- When no kept post is above the server's watermark, all were received. -/
theorem Sound.complete
    (sound : setup.Sound state)
    {client : DoubleClient}
    (registered : setup.Registered state.seeded state.session.mark client)
    (none :
      ∀ post ∈ state.server.kept setup.client.pubkey,
        post.order ≤ client.syncSince.toNat) :
    state.received = setup.wanted state.seeded := by
  obtain ⟨gone, split, wereReceived⟩ := sound.queued
  rw [sound.received_eq_wanted_iff, split]
  intro post member
  rcases List.mem_append.mp member with left | isKept
  · exact wereReceived post left
  · exact (none post isKept).trans registered.behind

/-- What is known of all events says what was to be shown. -/
theorem Sound.inSync
    (inverse : setup.crypto.DecryptsEncrypted)
    (sound : setup.Sound state) :
    setup.InSync state where
  inOrder := sound.received_prefix
  next := by
    intro payload onWay
    obtain ⟨post, member, rfl, reaches⟩ := sound.pushes payload onWay
    refine ⟨post.carried, ?_, ?_⟩
    · simp only [readPush, sound.posted.readPush inverse member]
    rcases Nat.lt_or_ge state.session.mark post.order with ahead | covered
    · exact .inr (sound.next_isPrefix member reaches ahead)
    · exact .inl (sound.mem_received member covered)
  behind := fun client known =>
    UInt32.le_iff_toNat_le.mpr (sound.client client known).behind
  complete := by
    intro client known waitsNot nothing
    rcases state.server.pushNext_cases setup.crypto
        setup.client.pubkey with
      ⟨-, none⟩ | ⟨other, post, changed, -, -, -, pushed, -⟩
    · exact sound.complete (sound.client client known)
        (none client known waitsNot)
    · rw [pushed] at nothing
      cases nothing

end States

section Steps

variable
    {setup : RoomSyncSetup}
    {state : RoomSync}

/-- Pushes that are fewer and acknowledgements that are fewer are known. -/
theorem Sound.forget
    (sound : setup.Sound state)
    {pushes : List (List UInt8)}
    {acks : List (Vector UInt8 4)}
    (fewerPushes : pushes.Sublist state.pushes)
    (fewerAcks : acks.Sublist state.acks) :
    setup.Sound
      { state with
        pushes := pushes
        acks := acks } :=
  { sound with
    pushes := fun payload member =>
      sound.pushes payload (fewerPushes.subset member)
    acks := fun ack member => sound.acks ack (fewerAcks.subset member) }

/-- The server may change what it keeps of the client. -/
theorem Sound.withServer
    (sound : setup.Sound state)
    {server : RoomServerDouble}
    (sameIdentity : server.identity = state.server.identity)
    (sameVisited : server.visited = state.server.visited)
    (registered :
      ∀ client,
        server.clientOf setup.client.pubkey = some client →
          setup.Registered state.seeded state.session.mark client) :
    setup.Sound { state with server := server } :=
  { sound with
    identity := sameIdentity.trans sound.identity
    queued := by
      obtain ⟨gone, split, wereReceived⟩ := sound.queued
      refine ⟨gone, ?_, wereReceived⟩
      rw [RoomServerDouble.kept, sameVisited]
      exact split
    client := registered }

/-- A login makes the server's watermark the client's. -/
theorem login_registered
    (inverse : setup.crypto.DecryptsEncrypted)
    (agrees :
      setup.server.ecdhSharedSecret setup.crypto setup.client.pubkey =
        setup.secret)
    (sound : setup.Sound state)
    (timestamp : UInt32) :
    state.server.handleLogin setup.crypto
          (setup.loginPayload state timestamp) =
        (state.server, none) ∨
      ∃ changed reply client,
        state.server.handleLogin setup.crypto
              (setup.loginPayload state timestamp) =
            (changed, some reply) ∧
          changed.identity = state.server.identity ∧
          changed.visited = state.server.visited ∧
          changed.clientOf setup.client.pubkey = some client ∧
          client.sharedSecret = setup.secret ∧
          client.syncSince = state.session.syncSince ∧
          client.pendingAck = none := by
  have payload :
      setup.loginPayload state timestamp =
        encodeAnonReqLogin setup.crypto
          (state.server.identity.ecdhSharedSecret setup.crypto
            setup.client.pubkey)
          (pubHash state.server.identity.pubkey) setup.client.pubkey
          timestamp state.session.syncSince setup.password := by
    rw [sound.identity, agrees, loginPayload]
  rw [payload]
  rcases state.server.handleLogin_cases inverse setup.client.pubkey
      timestamp state.session.syncSince setup.password with
    refused | ⟨slot, permissions, changed, reply, accepted, sameIdentity,
      sameVisited, known⟩
  · exact .inl refused
  · refine .inr ⟨changed, reply, _, accepted, sameIdentity, sameVisited,
      known, ?_, rfl, rfl⟩
    rw [DoubleClient.loggedIn, RoomServerDouble.loginRequest,
      sound.identity, agrees]

theorem Sound.login
    (inverse : setup.crypto.DecryptsEncrypted)
    (agrees :
      setup.server.ecdhSharedSecret setup.crypto setup.client.pubkey =
        setup.secret)
    (sound : setup.Sound state)
    (timestamp : UInt32) :
    setup.Sound (setup.step state (.login timestamp)) := by
  simp only [RoomSyncSetup.step]
  rcases login_registered inverse agrees sound timestamp with
    refused | ⟨changed, reply, client, accepted, sameIdentity,
      sameVisited, known, secret, watermark, waitsNot⟩
  · rw [refused]
    exact sound
  · rw [accepted]
    refine sound.withServer sameIdentity sameVisited ?_
    intro other isKnown
    rw [known] at isKnown
    cases isKnown
    exact
      { secret := secret
        behind := by
          rw [watermark]
          exact Nat.le_refl _
        pending := by simp [waitsNot] }

/-- The first post that is due is one before which the client has received
everything. -/
theorem Sound.due_of_find?
    (sound : setup.Sound state)
    {client : DoubleClient}
    (registered :
      setup.Registered state.seeded state.session.mark client)
    {post : DoublePost}
    (found :
      ((state.server.kept setup.client.pubkey).find? fun post =>
        decide (client.syncSince.toNat < post.order)) = some post) :
    post ∈ setup.others state.seeded ∧
      client.syncSince.toNat < post.order ∧
      Reaches DoublePost.order state.session.mark
        (setup.others state.seeded) post := by
  obtain ⟨gone, split, wereReceived⟩ := sound.queued
  have keptOrdered :
      Ordered DoublePost.order
        (state.server.kept setup.client.pubkey) := by
    have ordered := sound.posted.othersOrdered
    rw [split] at ordered
    exact ordered.sublist (List.sublist_append_right _ _)
  obtain ⟨isKept, ahead, reachesKept⟩ :=
    reaches_of_find? keptOrdered found
  rw [split]
  refine ⟨List.mem_append_right gone isKept, ahead, ?_⟩
  intro other isOther before
  rcases List.mem_append.mp isOther with left | stillKept
  · exact wereReceived other left
  · exact (reachesKept other stillKept before).trans registered.behind

/-- A push carries a post before which the client has received everything. -/
theorem Sound.push
    (sound : setup.Sound state) :
    setup.Sound (setup.step state .push) := by
  simp only [RoomSyncSetup.step]
  rcases state.server.pushNext_cases setup.crypto setup.client.pubkey with
    ⟨nothing, -⟩ | ⟨client, post, changed, known, waitsNot, found, pushed,
      sameIdentity, sameVisited, nowKnown⟩
  · rw [nothing]
    simpa using sound
  · have registered := sound.client client known
    obtain ⟨member, -, reaches⟩ := sound.due_of_find? registered found
    rw [pushed]
    have withServer :=
      sound.withServer sameIdentity sameVisited (by
        intro other isKnown
        rw [nowKnown] at isKnown
        cases isKnown
        exact
          { secret := registered.secret
            behind := registered.behind
            pending := by
              rintro ack ⟨⟩
              exact ⟨post, member, rfl, rfl⟩ })
    exact
      { withServer with
        pushes := by
          intro payload onWay
          rcases List.mem_append.mp onWay with before | now
          · exact sound.pushes payload before
          · cases List.mem_singleton.mp now
            refine ⟨post, member, ?_, reaches⟩
            rw [pushOf, registered.secret, sound.identity] }

/-- An acknowledgement that the server waits for is that of the post pushed last,
which the client has received. -/
theorem Sound.deliverAck
    (sound : setup.Sound state)
    (index : Nat) :
    setup.Sound (setup.step state (.deliverAck index)) := by
  simp only [RoomSyncSetup.step]
  split
  · next ack found =>
    have onWay : ack ∈ state.acks := List.mem_of_getElem? found
    have fewer :=
      sound.forget (List.Sublist.refl _)
        (List.eraseIdx_sublist state.acks index)
    rcases state.server.handleAck_cases setup.client.pubkey ack with
      ⟨ignored, -⟩ | ⟨client, changed, known, waited, handled,
        sameIdentity, sameVisited, nowKnown⟩
    · rw [ignored]
      exact fewer
    · rw [handled]
      refine fewer.withServer sameIdentity sameVisited ?_
      intro other isKnown
      rw [nowKnown] at isKnown
      cases isKnown
      have registered := sound.client client known
      obtain ⟨pushed, pushedMember, isPushed, sameTs⟩ :=
        registered.pending ack waited
      obtain ⟨post, member, isHash, covered⟩ := sound.acks ack onWay
      have samePost : pushed = post :=
        sound.posted.eq_of_hash pushedMember member
          (isPushed.symm.trans isHash)
      cases samePost
      exact
        { secret := registered.secret
          behind := by
            change client.pushPostTs.toNat ≤ _
            rw [sameTs]
            exact covered
          pending := by simp [DoubleClient.acknowledged] }
  · exact sound

/-- The client acknowledges the push of a post. -/
theorem handleRoomPush_pushOf
    (inverse : setup.crypto.DecryptsEncrypted)
    (posted : setup.Posted state.seeded)
    {post : DoublePost}
    (member : post ∈ setup.others state.seeded)
    (recent : List HistoryEntry) :
    ∃ outcome,
      handleRoomPush setup.crypto setup.secret (setup.pushOf post)
            setup.client.pubkey setup.convHash recent =
          .ok outcome ∧
        outcome.ackHash = setup.hashOf post ∧
        outcome.postTs = post.timestamp := by
  simp only [handleRoomPush, posted.readPush inverse member]
  exact ⟨_, rfl, rfl, rfl⟩

/-- A delivered push is a repetition or the next one. -/
theorem Sound.receive
    (inverse : setup.crypto.DecryptsEncrypted)
    (sound : setup.Sound state)
    {post : DoublePost}
    (member : post ∈ setup.others state.seeded)
    (reaches :
      Reaches DoublePost.order state.session.mark
        (setup.others state.seeded) post)
    (recent : List HistoryEntry) :
    setup.Sound (setup.receive state (setup.pushOf post) recent) := by
  obtain ⟨outcome, handled, isHash, sameTs⟩ :=
    handleRoomPush_pushOf inverse sound.posted member recent
  have reads : setup.readPush (setup.pushOf post) = some post.carried := by
    simp only [RoomSyncSetup.readPush,
      sound.posted.readPush inverse member]
  have mark :
      (state.session.recordSyncedPostTs outcome.postTs).mark =
        max state.session.mark post.order := by
    rw [PersistedRoomSession.mark_recordSyncedPostTs, sameTs,
      DoublePost.order]
  have raised :
      state.session.mark ≤
        (state.session.recordSyncedPostTs outcome.postTs).mark := by
    omega
  have covers :
      post.order ≤
        (state.session.recordSyncedPostTs outcome.postTs).mark := by
    omega
  simp only [RoomSyncSetup.receive, handled, reads, isHash]
  exact
    { identity := sound.identity
      posted := sound.posted
      queued := sound.queued.raise raised
      received := by
        rcases Nat.lt_or_ge state.session.mark post.order with
          ahead | covered
        · have isNew : post.carried ∉ state.received := fun wasReceived =>
            Nat.not_le.mpr ahead (sound.carried_mem_received wasReceived)
          rw [mark, Nat.max_eq_right ahead.le,
            sound.received_advance member reaches ahead]
          simp [note, isNew]
        · have wasReceived := sound.mem_received member covered
          rw [mark, Nat.max_eq_left covered, ← sound.received]
          simp [note, wasReceived]
      marked := by
        rcases Nat.lt_or_ge state.session.mark post.order with
          ahead | covered
        · right
          refine ⟨post, List.mem_of_mem_filter member, ?_⟩
          exact (mark.trans (Nat.max_eq_right ahead.le)).symm
        · rw [mark, Nat.max_eq_left covered]
          exact sound.marked
      pushes := fun payload onWay =>
        (sound.pushes payload onWay).raise raised
      acks := by
        intro ack onWay
        rcases List.mem_append.mp onWay with before | now
        · exact (sound.acks ack before).raise raised
        · cases List.mem_singleton.mp now
          exact ⟨post, member, rfl, covers⟩
      client := fun client known =>
        (sound.client client known).raise raised }

theorem Sound.deliver
    (inverse : setup.crypto.DecryptsEncrypted)
    (sound : setup.Sound state)
    (index : Nat)
    (recent : List HistoryEntry) :
    setup.Sound (setup.step state (.deliver index recent)) := by
  simp only [RoomSyncSetup.step]
  split
  · next payload found =>
    obtain ⟨post, member, rfl, reaches⟩ :=
      sound.pushes payload (List.mem_of_getElem? found)
    exact
      (sound.forget (List.eraseIdx_sublist state.pushes index)
        (List.Sublist.refl _)).receive inverse member reaches recent
  · exact sound

/-- A post is seeded behind all others and all that was read. -/
theorem Sound.seed
    (sound : setup.Sound state)
    {authorPubkey : Key}
    {timestamp : UInt32}
    {text : List UInt8}
    (seeds : setup.Seeds state (.seed authorPubkey timestamp text))
    (apart :
      setup.HashesApart state (.seed authorPubkey timestamp text)) :
    setup.Sound
      (setup.step state (.seed authorPubkey timestamp text)) := by
  obtain ⟨aboveFirst, aboveAll, noZero, oldestReceived⟩ := seeds
  have late :
      setup.session.mark <
        (DoublePost.new authorPubkey timestamp text).order :=
    UInt32.lt_iff_toNat_lt.mp aboveFirst
  have behind :
      ∀ post ∈ state.seeded,
        post.order < (DoublePost.new authorPubkey timestamp text).order :=
    fun post member => UInt32.lt_iff_toNat_lt.mp (aboveAll post member)
  have aboveMark :
      state.session.mark <
        (DoublePost.new authorPubkey timestamp text).order := by
    rcases sound.marked with isFirst | ⟨post, member, isLast⟩
    · rw [isFirst]
      exact late
    · rw [← isLast]
      exact behind post member
  have newAbove :
      ∀ post ∈ setup.others [.new authorPubkey timestamp text],
        state.session.mark < post.order := by
    intro post member
    cases List.mem_singleton.mp (List.mem_of_mem_filter member)
    exact aboveMark
  simp only [RoomSyncSetup.step]
  exact
    { identity := sound.identity
      posted :=
        sound.posted.append behind late
          (fun byte member => noZero byte (List.mem_of_mem_take member))
          apart
      queued :=
        sound.queued.seedPost authorPubkey timestamp text
          fun oldest isOldest used =>
            (oldestReceived oldest isOldest used).imp_right
              UInt32.le_iff_toNat_le.mp
      received := by
        rw [others_append, upTo_append _ newAbove]
        exact sound.received
      marked := by
        rcases sound.marked with isFirst | ⟨post, member, isLast⟩
        · exact .inl isFirst
        · exact .inr ⟨post, List.mem_append_left _ member, isLast⟩
      pushes := fun payload onWay =>
        (sound.pushes payload onWay).append behind
      acks := fun ack onWay => (sound.acks ack onWay).append _
      client := fun client known =>
        (sound.client client known).append _ }

/-- What an event does keeps what is known. -/
theorem Sound.step
    (inverse : setup.crypto.DecryptsEncrypted)
    (agrees :
      setup.server.ecdhSharedSecret setup.crypto setup.client.pubkey =
        setup.secret)
    (sound : setup.Sound state)
    {event : RoomSyncEvent}
    (seeds : setup.Seeds state event)
    (apart : setup.HashesApart state event) :
    setup.Sound (setup.step state event) := by
  cases event with
  | seed authorPubkey timestamp text => exact sound.seed seeds apart
  | login timestamp => exact sound.login inverse agrees timestamp
  | push => exact sound.push
  | deliver index recent => exact sound.deliver inverse index recent
  | lose index =>
      exact sound.forget (List.eraseIdx_sublist _ _)
        (List.Sublist.refl _)
  | deliverAck index => exact sound.deliverAck index
  | loseAck index =>
      exact sound.forget (List.Sublist.refl _)
        (List.eraseIdx_sublist _ _)

end Steps

end RoomSyncSetup

end MeshCadet
