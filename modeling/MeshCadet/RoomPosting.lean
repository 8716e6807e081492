import MeshCadet.RoomServerRuns

namespace MeshCadet

/-!
# Posting exactly once

A client sends a post again until it is acknowledged, and the network delivers its
messages late, repeatedly or in another order.  When no two messages of a client
share a timestamp, the double stores each post at most once, in the order of the
client's timestamps, and acknowledges only what it has stored.
-/

open Outcome
open RoomServerRun (roomRecord roomServer)

/-- A message that a client makes for the double. -/
inductive RoomMessage where
  | login (timestamp syncSince : UInt32) (password : List UInt8)
  | post (timestamp : UInt32) (attempt : UInt8) (text : List UInt8)
  | keepAlive (timestamp forceSince : UInt32)
deriving Repr, DecidableEq

namespace RoomMessage

/-- The timestamp the message carries. -/
def timestamp : RoomMessage → UInt32
  | login timestamp _ _ => timestamp
  | post timestamp _ _ => timestamp
  | keepAlive timestamp _ => timestamp

/-- The same message on its first attempt. -/
def firstAttempt : RoomMessage → RoomMessage
  | login timestamp syncSince password =>
      login timestamp syncSince password
  | post timestamp _ text => post timestamp 0 text
  | keepAlive timestamp forceSince => keepAlive timestamp forceSince

/-- The bytes of the message. -/
def payload
    (crypto : Crypto)
    (server : Identity)
    (clientPubkey : Key) :
    RoomMessage → List UInt8
  | login timestamp syncSince password =>
      encodeAnonReqLogin crypto
        (server.ecdhSharedSecret crypto clientPubkey)
        (pubHash server.pubkey) clientPubkey timestamp syncSince password
  | post timestamp attempt text =>
      encodeRoomPost crypto (server.ecdhSharedSecret crypto clientPubkey)
        (pubHash server.pubkey) (pubHash clientPubkey) timestamp attempt
        text
  | keepAlive timestamp forceSince =>
      encodeKeepAlive crypto (server.ecdhSharedSecret crypto clientPubkey)
        (pubHash server.pubkey) (pubHash clientPubkey) timestamp
        forceSince

end RoomMessage

/-- The text of a post as the double reads it. -/
def storedText
    (text : List UInt8) :
    List UInt8 :=
  (text.take maxPostTextLen).takeWhile fun byte => byte ≠ 0

/-- A stored post, under its author's key and timestamp. -/
structure PostedAs where
  author : Key
  timestamp : UInt32
  post : DoublePost
deriving Repr, DecidableEq

/-- A post that was acknowledged to its author. -/
structure AckedPost where
  author : Key
  timestamp : UInt32
  text : List UInt8
deriving Repr, DecidableEq

/-- The double; the other fields record the messages that arrived, the posts that
were stored and those that were acknowledged. -/
structure RoomPosting where
  server : RoomServerDouble
  arrived : List (Key × RoomMessage)
  stored : List PostedAs
  acked : List AckedPost
deriving DecidableEq

/-- What happens at the double.  A message may arrive any number of times. -/
inductive RoomPostingEvent where
  | arrive (clientPubkey : Key) (message : RoomMessage)
  | setTime (time : UInt32)
  | push (clientPubkey : Key)
  | ack (clientPubkey : Key) (hash : Vector UInt8 4)

namespace RoomPosting

/-- Record the newest post when the queue moved on. -/
def newlyStored
    (before changed : RoomServerDouble)
    (author : Key)
    (timestamp : UInt32) :
    List PostedAs :=
  if changed.nextPostIdx = before.nextPostIdx then
    []
  else
    changed.visited.getLast?.toList.map fun post =>
      { author := author
        timestamp := timestamp
        post := post }

/-- A message arrives. -/
def arrive
    (crypto : Crypto)
    (state : RoomPosting)
    (clientPubkey : Key)
    (message : RoomMessage) :
    RoomPosting :=
  let payload :=
    message.payload crypto state.server.identity clientPubkey
  let noted :=
    { state with arrived := state.arrived ++ [(clientPubkey, message)] }
  match message with
  | .login _ _ _ =>
      { noted with
        server :=
          RoomServerRun.after state.server
            (state.server.handleLoginIn crypto payload) }
  | .keepAlive _ _ =>
      { noted with
        server :=
          RoomServerRun.after state.server
            (state.server.handleKeepAlive crypto clientPubkey payload) }
  | .post timestamp _ text =>
      match state.server.handlePost crypto clientPubkey payload with
      | .value (changed, reply) =>
          { noted with
            server := changed
            stored :=
              state.stored ++
                newlyStored state.server changed clientPubkey timestamp
            acked :=
              state.acked ++
                reply.toList.map fun _ =>
                  { author := clientPubkey
                    timestamp := timestamp
                    text := text } }
      | _ => noted

/-- One event. -/
def step
    (crypto : Crypto)
    (state : RoomPosting) :
    RoomPostingEvent → RoomPosting
  | .arrive clientPubkey message => state.arrive crypto clientPubkey message
  | .setTime time =>
      { state with server := state.server.setServerTime time }
  | .push clientPubkey =>
      { state with server := (state.server.pushNext crypto clientPubkey).1 }
  | .ack clientPubkey hash =>
      { state with server := (state.server.handleAck clientPubkey hash).1 }

/-- A new double. -/
def start
    (identity : Identity)
    (adminPassword guestPassword : List UInt8)
    (allowReadOnly : Bool) :
    RoomPosting :=
  { server := .new identity adminPassword guestPassword allowReadOnly
    arrived := []
    stored := []
    acked := [] }

/-- Messages of a client that share a timestamp are attempts of one message. -/
def TimestampsApart
    (events : List RoomPostingEvent) :
    Prop :=
  ∀ clientPubkey first second,
    .arrive clientPubkey first ∈ events →
    .arrive clientPubkey second ∈ events →
    first.timestamp = second.timestamp →
      first.firstAttempt = second.firstAttempt

/-- Every stored post is one that arrived, none is stored twice, each client's are
in the order of its timestamps, and what was acknowledged is stored. -/
structure ExactlyOnce
    (state : RoomPosting) :
    Prop where
  queue :
    state.server.visited =
      (List.replicate maxUnsyncedPosts DoublePost.empty ++
        state.stored.map PostedAs.post).drop state.stored.length
  inOrder :
    state.stored.Pairwise fun earlier later =>
      earlier.author = later.author → earlier.timestamp < later.timestamp
  genuine :
    ∀ posted ∈ state.stored,
      posted.post.authorPubkey = posted.author ∧
        ∃ attempt text,
          (posted.author, .post posted.timestamp attempt text) ∈
              state.arrived ∧
            posted.post.text = storedText text
  acked :
    ∀ acked ∈ state.acked,
      ∃ posted ∈ state.stored,
        posted.author = acked.author ∧
          posted.timestamp = acked.timestamp ∧
          posted.post.text = storedText acked.text

/-- A post of a client with its text is among the stored ones. -/
def Holds
    (stored : List PostedAs)
    (author : Key)
    (timestamp : UInt32)
    (text : List UInt8) :
    Prop :=
  ∃ posted ∈ stored,
    posted.author = author ∧ posted.timestamp = timestamp ∧
      posted.post.text = storedText text

theorem Holds.mono
    {stored more : List PostedAs}
    {author : Key}
    {timestamp : UInt32}
    {text : List UInt8}
    (holds : Holds stored author timestamp text) :
    Holds (stored ++ more) author timestamp text := by
  obtain ⟨posted, member, rest⟩ := holds
  exact ⟨posted, List.mem_append_left _ member, rest⟩

/-- A slot's timestamp is that of a message that arrived, at or after those of its
client's stored posts, and a post with just this timestamp is stored if the client
may post. -/
structure Slot
    (crypto : Crypto)
    (state : RoomPosting)
    (key : Key)
    (client : DoubleClient) :
    Prop where
  secret :
    client.sharedSecret =
      state.server.identity.ecdhSharedSecret crypto key
  noted :
    ∃ message,
      (key, message) ∈ state.arrived ∧
        message.timestamp = client.lastTimestamp
  behind :
    ∀ posted ∈ state.stored,
      posted.author = key → posted.timestamp ≤ client.lastTimestamp
  settled :
    client.permissions.canPost = true →
      ∀ attempt text,
        (key, .post client.lastTimestamp attempt text) ∈ state.arrived →
          Holds state.stored key client.lastTimestamp text

/-- All slots are as they should be, and every author has one. -/
structure Slots
    (crypto : Crypto)
    (state : RoomPosting) :
    Prop where
  slot :
    ∀ key client,
      state.server.clientOf key = some client →
        Slot crypto state key client
  registered :
    ∀ posted ∈ state.stored,
      (state.server.clientOf posted.author).isSome = true

variable {crypto : Crypto} {state next : RoomPosting}
variable {key : Key} {message : RoomMessage}

/-- A server that keeps timestamps, roles and secrets keeps the slots. -/
theorem Slots.serverChanged
    (slots : Slots crypto state)
    {server : RoomServerDouble}
    (sameIdentity : server.identity = state.server.identity)
    (kept :
      ∀ key,
        (server.clientOf key).map
            (fun client =>
              (client.sharedSecret, client.lastTimestamp,
                client.permissions)) =
          (state.server.clientOf key).map fun client =>
            (client.sharedSecret, client.lastTimestamp,
              client.permissions)) :
    Slots crypto { state with server := server } where
  slot := by
    intro key client known
    have same := kept key
    simp only at known
    rw [known] at same
    obtain ⟨before, isBefore, fields⟩ :=
      Option.map_eq_some_iff.mp same.symm
    simp only [Prod.mk.injEq] at fields
    obtain ⟨sameSecret, sameLast, sameRole⟩ := fields
    have slot := slots.slot key before isBefore
    exact
      { secret := by
          rw [← sameSecret, sameIdentity]
          exact slot.secret
        noted := by
          rw [← sameLast]
          exact slot.noted
        behind := by
          rw [← sameLast]
          exact slot.behind
        settled := by
          rw [← sameLast, ← sameRole]
          exact slot.settled }
  registered := by
    intro posted member
    have isSome := congrArg Option.isSome (kept posted.author)
    rw [Option.isSome_map, Option.isSome_map] at isSome
    exact isSome.trans (slots.registered posted member)

/-- A message that changes no slot keeps them, if it is not a post that is still
to be stored. -/
theorem Slots.refused
    (slots : Slots crypto state)
    (settled :
      ∀ client,
        state.server.clientOf key = some client →
          ∀ attempt text, message ≠ .post client.lastTimestamp attempt text) :
    Slots crypto
      { state with arrived := state.arrived ++ [(key, message)] } where
  slot := by
    intro other client known
    have slot := slots.slot other client known
    obtain ⟨earlier, member, isLast⟩ := slot.noted
    refine
      { secret := slot.secret
        noted := ⟨earlier, List.mem_append_left _ member, isLast⟩
        behind := slot.behind
        settled := ?_ }
    intro may attempt text arrived
    rcases List.mem_append.mp arrived with before | isNew
    · exact slot.settled may attempt text before
    · obtain ⟨rfl, isMessage⟩ := Prod.mk.inj (List.mem_singleton.mp isNew)
      exact absurd isMessage.symm (settled client known attempt text)
  registered := slots.registered

/-- A message that its client's slot notes keeps the slots. -/
theorem Slots.accepted
    (slots : Slots crypto state)
    (added : List PostedAs)
    (arrived : next.arrived = state.arrived ++ [(key, message)])
    (stored : next.stored = state.stored ++ added)
    (own :
      ∀ posted ∈ added,
        posted.author = key ∧ posted.timestamp = message.timestamp)
    (sameIdentity : next.server.identity = state.server.identity)
    {client : DoubleClient}
    (known : next.server.clientOf key = some client)
    (secret :
      client.sharedSecret =
        state.server.identity.ecdhSharedSecret crypto key)
    (isLast : client.lastTimestamp = message.timestamp)
    (settled :
      client.permissions.canPost = true →
        ∀ attempt text,
          (key, .post message.timestamp attempt text) ∈ next.arrived →
            Holds next.stored key message.timestamp text)
    (others :
      ∀ other ≠ key,
        next.server.clientOf other = state.server.clientOf other)
    (notBefore :
      ∀ posted ∈ state.stored,
        posted.author = key → posted.timestamp ≤ message.timestamp) :
    Slots crypto next where
  slot := by
    intro other found isFound
    by_cases same : other = key
    · subst same
      rw [known] at isFound
      cases isFound
      refine
        { secret := secret.trans (by rw [sameIdentity])
          noted := ⟨message, ?_, isLast.symm⟩
          behind := ?_
          settled := ?_ }
      · rw [arrived]
        exact List.mem_append_right _ List.mem_cons_self
      · intro posted member isAuthor
        rw [isLast]
        rw [stored] at member
        rcases List.mem_append.mp member with before | isNew
        · exact notBefore posted before isAuthor
        · rw [(own posted isNew).2]
          exact UInt32.le_refl _
      · rw [isLast]
        exact settled
    · rw [others other same] at isFound
      have slot := slots.slot other found isFound
      obtain ⟨earlier, member, isEarlier⟩ := slot.noted
      refine
        { secret := slot.secret.trans (by rw [sameIdentity])
          noted := ⟨earlier, ?_, isEarlier⟩
          behind := ?_
          settled := ?_ }
      · rw [arrived]
        exact List.mem_append_left _ member
      · intro posted isPosted isAuthor
        rw [stored] at isPosted
        rcases List.mem_append.mp isPosted with before | isNew
        · exact slot.behind posted before isAuthor
        · exact absurd (isAuthor.symm.trans (own posted isNew).1) same
      · intro may attempt text isArrived
        rw [arrived] at isArrived
        rw [stored]
        rcases List.mem_append.mp isArrived with before | isNew
        · exact (slot.settled may attempt text before).mono
        · obtain ⟨isKey, -⟩ := Prod.mk.inj (List.mem_singleton.mp isNew)
          exact absurd isKey same
  registered := by
    intro posted member
    by_cases same : posted.author = key
    · rw [same, known]
      rfl
    · rw [others posted.author same]
      rw [stored] at member
      rcases List.mem_append.mp member with before | isNew
      · exact slots.registered posted before
      · exact absurd (own posted isNew).1 same

/-- A message that stores nothing keeps the record exact. -/
theorem ExactlyOnce.arrived
    (exact' : ExactlyOnce state)
    (arrived : next.arrived = state.arrived ++ [(key, message)])
    (stored : next.stored = state.stored)
    (queue : next.server.visited = state.server.visited)
    (acked :
      ∀ acked ∈ next.acked,
        acked ∈ state.acked ∨
          Holds state.stored acked.author acked.timestamp acked.text) :
    ExactlyOnce next where
  queue := by
    rw [queue, stored]
    exact exact'.queue
  inOrder := by
    rw [stored]
    exact exact'.inOrder
  genuine := by
    rw [stored, arrived]
    intro posted member
    obtain ⟨isAuthor, attempt, text, isArrived, isText⟩ :=
      exact'.genuine posted member
    exact
      ⟨isAuthor, attempt, text, List.mem_append_left _ isArrived, isText⟩
  acked := by
    rw [stored]
    intro entry member
    rcases acked entry member with before | holds
    · exact exact'.acked entry before
    · exact holds

/-- A post with a later timestamp than its author's others keeps it exact. -/
theorem ExactlyOnce.stored
    (exact' : ExactlyOnce state)
    {timestamp : UInt32}
    {attempt : UInt8}
    {text : List UInt8}
    {post : DoublePost}
    (arrived :
      next.arrived =
        state.arrived ++ [(key, .post timestamp attempt text)])
    (stored :
      next.stored =
        state.stored ++
          [{ author := key
             timestamp := timestamp
             post := post }])
    (queue : next.server.visited = state.server.visited.tail ++ [post])
    (acked :
      next.acked =
        state.acked ++
          [{ author := key
             timestamp := timestamp
             text := text }])
    (isAuthor : post.authorPubkey = key)
    (isText : post.text = storedText text)
    (later :
      ∀ posted ∈ state.stored,
        posted.author = key → posted.timestamp < timestamp) :
    ExactlyOnce next where
  queue := by
    have window :
        state.server.visited =
          (List.replicate maxUnsyncedPosts DoublePost.empty ++
            state.stored.map PostedAs.post).drop
              (state.stored.map PostedAs.post).length := by
      rw [List.length_map]
      exact exact'.queue
    rw [queue, stored, RoomServerRun.window_concat window post]
    simp
  inOrder := by
    rw [stored, List.pairwise_append]
    refine ⟨exact'.inOrder, List.pairwise_singleton _ _, ?_⟩
    intro earlier member last isLast same
    rw [List.mem_singleton.mp isLast] at same ⊢
    exact later earlier member same
  genuine := by
    rw [stored, arrived]
    intro posted member
    rcases List.mem_append.mp member with before | isNew
    · obtain ⟨isOwn, attempt, text, isArrived, isText⟩ :=
        exact'.genuine posted before
      exact ⟨isOwn, attempt, text, List.mem_append_left _ isArrived, isText⟩
    · rw [List.mem_singleton.mp isNew]
      exact
        ⟨isAuthor, attempt, text,
          List.mem_append_right _ List.mem_cons_self, isText⟩
  acked := by
    rw [stored, acked]
    intro entry member
    rcases List.mem_append.mp member with before | isNew
    · exact Holds.mono (exact'.acked entry before)
    · rw [List.mem_singleton.mp isNew]
      exact
        ⟨_, List.mem_append_right _ List.mem_cons_self, rfl, rfl, isText⟩

/-- The messages that arrived are among all, the record is exact and the slots are
as they should be. -/
structure Sound
    (crypto : Crypto)
    (all : List RoomPostingEvent)
    (state : RoomPosting) :
    Prop where
  among :
    ∀ key message,
      (key, message) ∈ state.arrived → .arrive key message ∈ all
  exactlyOnce : ExactlyOnce state
  slots : Slots crypto state

section Arrivals

variable {all : List RoomPostingEvent}

/-- The messages that arrived with one more are still among all. -/
theorem Sound.among_concat
    (sound : Sound crypto all state)
    (member : .arrive key message ∈ all)
    (other : Key)
    (earlier : RoomMessage)
    (arrived :
      (other, earlier) ∈ state.arrived ++ [(key, message)]) :
    .arrive other earlier ∈ all := by
  rcases List.mem_append.mp arrived with before | isNew
  · exact sound.among other earlier before
  · obtain ⟨rfl, rfl⟩ := Prod.mk.inj (List.mem_singleton.mp isNew)
    exact member

/-- The slot of a client after one of its slots was changed. -/
theorem clientOf_updated
    {server : RoomServerDouble}
    {client : DoubleClient}
    (known : server.clientOf key = some client)
    {change : DoubleClient → DoubleClient}
    (keeps : RoomServerDouble.KeepsOwner change) :
    (server.updateClient key change).clientOf key = some (change client) ∧
      ∀ other ≠ key,
        (server.updateClient key change).clientOf other =
          server.clientOf other := by
  constructor
  · rw [server.clientOf_updateClient keeps, if_pos rfl, known]
    rfl
  · intro other isOther
    rw [server.clientOf_updateClient keeps, if_neg isOther]

/-- No post shares its timestamp with a message of another kind. -/
theorem Sound.notPost
    (sound : Sound crypto all state)
    (apart : TimestampsApart all)
    (member : .arrive key message ∈ all)
    (notPost :
      ∀ timestamp text,
        message.firstAttempt ≠ .post timestamp 0 text)
    (attempt : UInt8)
    (text : List UInt8) :
    (key, .post message.timestamp attempt text) ∉
      state.arrived ++ [(key, message)] := by
  intro arrived
  have isOne := sound.among_concat member _ _ arrived
  have same := apart key _ _ member isOne rfl
  exact notPost _ _ same

/-- A keep-alive keeps the record exact and the slots as they should be. -/
theorem Sound.keepAlive
    (inverse : crypto.DecryptsEncrypted)
    (sound : Sound crypto all state)
    (apart : TimestampsApart all)
    {timestamp forceSince : UInt32}
    (member : .arrive key (.keepAlive timestamp forceSince) ∈ all) :
    Sound crypto all
      (state.arrive crypto key (.keepAlive timestamp forceSince)) := by
  have among := fun other earlier =>
    @Sound.among_concat crypto state key
      (.keepAlive timestamp forceSince) all sound member other earlier
  have quiet :
      Sound crypto all
        { state with
          arrived :=
            state.arrived ++ [(key, .keepAlive timestamp forceSince)] } :=
    { among := among
      exactlyOnce :=
        sound.exactlyOnce.arrived rfl rfl rfl fun _ entry => .inl entry
      slots :=
        sound.slots.refused
          fun client _ attempt text isPost => by cases isPost }
  simp only [arrive, RoomMessage.payload, RoomServerDouble.handleKeepAlive]
  cases known : state.server.clientOf key with
  | none =>
      exact quiet
  | some client =>
      have slot := sound.slots.slot key client known
      simp only [slot.secret,
        readKeepAlive_encode inverse]
      rcases state.server.acceptKeepAlive_cases crypto key
          { timestamp := timestamp
            forceSince := forceSince } with
        refused | ⟨found, isFound, notBefore, accepted⟩
      · rw [refused]
        exact quiet
      · rw [accepted]
        rw [known] at isFound
        cases isFound
        obtain ⟨own, others⟩ :=
          clientOf_updated known
            (RoomServerDouble.keepsOwner_keptAlive
              { timestamp := timestamp
                forceSince := forceSince })
        exact
          { among := among
            exactlyOnce :=
              sound.exactlyOnce.arrived rfl rfl rfl
                fun _ entry => .inl entry
            slots :=
              sound.slots.accepted [] rfl
                (List.append_nil _).symm (fun _ none => by cases none) rfl
                own slot.secret rfl
                (fun _ attempt text isPost =>
                  absurd isPost
                    (sound.notPost apart member (by simp
                      [RoomMessage.firstAttempt]) attempt text))
                others
                (fun posted isPosted isAuthor =>
                  UInt32.le_trans (slot.behind posted isPosted isAuthor)
                    notBefore) }

/-- A login keeps the record exact and the slots as they should be. -/
theorem Sound.login
    (inverse : crypto.DecryptsEncrypted)
    (sound : Sound crypto all state)
    (apart : TimestampsApart all)
    {timestamp syncSince : UInt32}
    {password : List UInt8}
    (member : .arrive key (.login timestamp syncSince password) ∈ all) :
    Sound crypto all
      (state.arrive crypto key (.login timestamp syncSince password)) := by
  have among := fun other earlier =>
    @Sound.among_concat crypto state key
      (.login timestamp syncSince password) all sound member other earlier
  simp only [arrive, RoomMessage.payload]
  rcases state.server.handleLoginIn_cases crypto
      (encodeAnonReqLogin crypto
        (state.server.identity.ecdhSharedSecret crypto key)
        (pubHash state.server.identity.pubkey) key timestamp syncSince
        password) with
    refused | ⟨request, permissions, slot, isRead, -, found, fresh, accepted⟩
  · rw [refused]
    exact
      { among := among
        exactlyOnce :=
          sound.exactlyOnce.arrived rfl rfl rfl fun _ entry => .inl entry
        slots :=
          sound.slots.refused
            fun client _ attempt text isPost => by cases isPost }
  · rw [RoomServerDouble.readLogin_encode inverse] at isRead
    cases isRead
    have clientOf :=
      RoomServerDouble.clientOf_login found permissions
    have own :=
      (clientOf key).trans (if_pos rfl)
    have others :
        ∀ other ≠ key,
          (Search.updateFirst (state.server.isSlotFor key)
              (DoubleClient.loggedIn
                (state.server.loginRequest crypto key timestamp syncSince
                  password) permissions)
              state.server.clients).find?
              (DoubleClient.isClient other) =
            state.server.clientOf other :=
      fun other isOther => (clientOf other).trans (if_neg isOther)
    have notBefore :
        ∀ posted ∈ state.stored,
          posted.author = key → posted.timestamp ≤ timestamp := by
      intro posted isPosted isAuthor
      have registered := sound.slots.registered posted isPosted
      rw [isAuthor] at registered
      obtain ⟨client, known⟩ := Option.isSome_iff_exists.mp registered
      have ownSlot :
          state.server.isSlotFor key = DoubleClient.isClient key := by
        funext other
        rw [RoomServerDouble.isSlotFor, if_pos registered]
      have isSlot : client = slot := by
        have isFound := found
        change state.server.clients.find? (state.server.isSlotFor key) = _
          at isFound
        rw [ownSlot] at isFound
        exact Option.some.inj (known.symm.trans isFound)
      subst isSlot
      have used := (RoomServerDouble.clientOf_eq_some known).2.1
      have later : client.lastTimestamp < timestamp :=
        UInt32.not_le.mp fun notLater => fresh ⟨used, notLater⟩
      have behind :=
        (sound.slots.slot key client known).behind posted isPosted isAuthor
      exact UInt32.le_of_lt (UInt32.lt_of_le_of_lt behind later)
    rw [accepted]
    exact
      { among := among
        exactlyOnce :=
          sound.exactlyOnce.arrived rfl rfl rfl fun _ entry => .inl entry
        slots :=
          sound.slots.accepted [] rfl (List.append_nil _).symm
            (fun _ none => by cases none) rfl own rfl rfl
            (fun _ attempt text isPost =>
              absurd isPost
                (sound.notPost apart member
                  (by simp [RoomMessage.firstAttempt]) attempt text))
            others notBefore }

/-- A post that its client's slot notes without storing it was not allowed, or is
stored already. -/
theorem Sound.notedPost
    (sound : Sound crypto all state)
    {client : DoubleClient}
    (known : state.server.clientOf key = some client)
    {timestamp : UInt32}
    {attempt : UInt8}
    {text : List UInt8}
    (member : .arrive key (.post timestamp attempt text) ∈ all)
    (notBefore : client.lastTimestamp ≤ timestamp)
    {acked : List AckedPost}
    (isAcked :
      ∀ entry ∈ acked,
        entry ∈ state.acked ∨
          Holds state.stored entry.author entry.timestamp entry.text)
    (settled :
      client.permissions.canPost = true →
        ∀ other again,
          (key, .post timestamp other again) ∈
              state.arrived ++ [(key, .post timestamp attempt text)] →
            Holds state.stored key timestamp again) :
    Sound crypto all
      { server := state.server.noted key timestamp
        arrived :=
          state.arrived ++ [(key, .post timestamp attempt text)]
        stored := state.stored ++ []
        acked := acked } := by
  have slot := sound.slots.slot key client known
  obtain ⟨own, others⟩ :=
    clientOf_updated known (RoomServerDouble.keepsOwner_seen timestamp)
  rw [List.append_nil]
  exact
    { among := fun other earlier =>
        @Sound.among_concat crypto state key
          (.post timestamp attempt text) all sound member other earlier
      exactlyOnce := sound.exactlyOnce.arrived rfl rfl rfl isAcked
      slots :=
        sound.slots.accepted [] rfl (List.append_nil _).symm
          (fun _ none => by cases none) rfl own slot.secret rfl settled
          others
          (fun posted isPosted isAuthor =>
            UInt32.le_trans (slot.behind posted isPosted isAuthor)
              notBefore) }

/-- A retry of the last message its client's slot noted is stored already. -/
theorem Sound.retry
    (sound : Sound crypto all state)
    (apart : TimestampsApart all)
    {client : DoubleClient}
    (known : state.server.clientOf key = some client)
    (may : client.permissions.canPost = true)
    {attempt : UInt8}
    {text : List UInt8}
    (member :
      .arrive key (.post client.lastTimestamp attempt text) ∈ all) :
    Holds state.stored key client.lastTimestamp text := by
  have slot := sound.slots.slot key client known
  obtain ⟨earlier, isEarlier, isLast⟩ := slot.noted
  have first :=
    apart key _ _ (sound.among key earlier isEarlier) member isLast
  cases earlier with
  | login _ _ _ =>
      cases first
  | keepAlive _ _ =>
      cases first
  | post _ earlierAttempt _ =>
      cases first
      exact slot.settled may earlierAttempt text isEarlier

/-- A new post of a client that may post is stored under its timestamp. -/
theorem Sound.storedPost
    (sound : Sound crypto all state)
    (apart : TimestampsApart all)
    {client : DoubleClient}
    (known : state.server.clientOf key = some client)
    {timestamp : UInt32}
    {attempt : UInt8}
    {text : List UInt8}
    (member : .arrive key (.post timestamp attempt text) ∈ all)
    (later : client.lastTimestamp < timestamp) :
    let changed :=
      (state.server.noted key timestamp).storePost key (storedText text)
    Sound crypto all
      { server := changed
        arrived :=
          state.arrived ++ [(key, .post timestamp attempt text)]
        stored :=
          state.stored ++ newlyStored state.server changed key timestamp
        acked :=
          state.acked ++
            [{ author := key
               timestamp := timestamp
               text := text }] } := by
  intro changed
  have slot := sound.slots.slot key client known
  have among := fun other earlier =>
    @Sound.among_concat crypto state key
      (.post timestamp attempt text) all sound member other earlier
  have keeps := RoomServerDouble.keepsOwner_seen timestamp
  obtain ⟨own, others⟩ := clientOf_updated known keeps
  obtain ⟨visited, moved⟩ :=
    (state.server.noted key timestamp).storePost_moves key
      (storedText text)
  have movedOn : changed.nextPostIdx ≠ state.server.nextPostIdx := moved
  have isNew :
      newlyStored state.server changed key timestamp =
        [{ author := key
           timestamp := timestamp
           post :=
            (state.server.noted key timestamp).stamped key
              (storedText text) }] := by
    rw [newlyStored, if_neg movedOn, visited, List.getLast?_concat]
    rfl
  have isText :
      (storedText text).take maxPostTextLen = storedText text := by
    apply List.take_of_length_le
    exact
      (List.takeWhile_prefix _).length_le.trans (List.length_take_le _ _)
  rw [isNew]
  refine
    { among := among
      exactlyOnce :=
        sound.exactlyOnce.stored rfl rfl visited rfl rfl isText ?_
      slots :=
        sound.slots.accepted _ rfl rfl ?_ rfl own slot.secret rfl ?_
          others ?_ }
  · intro posted isPosted isAuthor
    exact
      UInt32.lt_of_le_of_lt (slot.behind posted isPosted isAuthor) later
  · intro posted isPosted
    rw [List.mem_singleton.mp isPosted]
    exact ⟨rfl, rfl⟩
  · intro _ other again isArrived
    have first := apart key _ _ member (among _ _ isArrived) rfl
    cases first
    exact
      ⟨_, List.mem_append_right _ List.mem_cons_self, rfl, rfl, isText⟩
  · intro posted isPosted isAuthor
    exact UInt32.le_trans (slot.behind posted isPosted isAuthor)
      (UInt32.le_of_lt later)

/-- A replayed post, or one of an unknown client, keeps the record exact. -/
theorem Sound.refusedPost
    (sound : Sound crypto all state)
    {timestamp : UInt32}
    {attempt : UInt8}
    {text : List UInt8}
    (member : .arrive key (.post timestamp attempt text) ∈ all)
    (older :
      ∀ client,
        state.server.clientOf key = some client →
          timestamp < client.lastTimestamp) :
    Sound crypto all
      { server := state.server
        arrived :=
          state.arrived ++ [(key, .post timestamp attempt text)]
        stored := state.stored ++ []
        acked := state.acked ++ [] } := by
  rw [List.append_nil, List.append_nil]
  refine
    { among := fun other earlier =>
        @Sound.among_concat crypto state key
          (.post timestamp attempt text) all sound member other earlier
      exactlyOnce :=
        sound.exactlyOnce.arrived rfl rfl rfl fun _ entry => .inl entry
      slots := sound.slots.refused ?_ }
  intro client known other again isPost
  cases isPost
  exact absurd (older client known) (UInt32.lt_irrefl _)

/-- A post keeps the record exact and the slots as they should be. -/
theorem Sound.post
    (inverse : crypto.DecryptsEncrypted)
    (sound : Sound crypto all state)
    (apart : TimestampsApart all)
    {timestamp : UInt32}
    {attempt : UInt8}
    {text : List UInt8}
    (member : .arrive key (.post timestamp attempt text) ∈ all) :
    Sound crypto all
      (state.arrive crypto key (.post timestamp attempt text)) := by
  simp only [arrive, RoomMessage.payload, RoomServerDouble.handlePost]
  cases known : state.server.clientOf key with
  | none =>
      have unknown :
          ∀ client,
            state.server.clientOf key = some client →
              timestamp < client.lastTimestamp := by
        intro client isClient
        rw [known] at isClient
        cases isClient
      simp only [newlyStored, if_pos]
      exact sound.refusedPost member unknown
  | some client =>
      have slot := sound.slots.slot key client known
      simp only [slot.secret, readPost_encode inverse]
      rcases state.server.acceptPost_cases crypto key
          (postRequest timestamp attempt text) with
        ⟨refused, older⟩ | ⟨found, isFound, notBefore, cases⟩
      · rw [refused]
        simp only [newlyStored, if_pos]
        exact sound.refusedPost member older
      rw [known] at isFound
      cases isFound
      rcases cases with
        ⟨mayNot, dropped⟩ | ⟨may, isRetry, retried⟩ | ⟨-, later, stored⟩
      · rw [dropped]
        simp only [newlyStored, RoomServerDouble.noted, if_pos]
        apply sound.notedPost known member notBefore
        · intro entry isEntry
          exact .inl (by simpa using isEntry)
        · intro may
          rw [may] at mayNot
          cases mayNot
      · have isLast : timestamp = client.lastTimestamp := isRetry
        subst isLast
        rw [retried]
        simp only [newlyStored, RoomServerDouble.noted, if_pos]
        apply sound.notedPost known member notBefore
        · intro entry isEntry
          rcases List.mem_append.mp isEntry with before | isNew
          · exact .inl before
          · rw [List.mem_singleton.mp isNew]
            exact .inr (sound.retry apart known may member)
        · intro _ other again isArrived
          exact
            sound.retry apart known may
              (sound.among_concat member _ _ isArrived)
      · rw [stored]
        exact sound.storedPost apart known member later

end Arrivals

/-- A new double has stored and acknowledged nothing. -/
theorem sound_start
    (crypto : Crypto)
    (all : List RoomPostingEvent)
    (identity : Identity)
    (adminPassword guestPassword : List UInt8)
    (allowReadOnly : Bool) :
    Sound crypto all
      (start identity adminPassword guestPassword allowReadOnly) where
  among := by
    intro key message arrived
    cases arrived
  exactlyOnce :=
    { queue :=
        (RoomServerRun.sound_start crypto identity adminPassword
          guestPassword allowReadOnly).window
      inOrder := List.Pairwise.nil
      genuine := by
        intro posted member
        cases member
      acked := by
        intro acked member
        cases member }
  slots :=
    { slot := by
        intro key client known
        obtain ⟨member, used, -⟩ :=
          RoomServerDouble.clientOf_eq_some known
        rw [List.eq_of_mem_replicate member] at used
        cases used
      registered := by
        intro posted member
        cases member }

/-- A change of one slot that keeps timestamp, role and secret. -/
theorem Sound.slotChanged
    {all : List RoomPostingEvent}
    (sound : Sound crypto all state)
    {change : DoubleClient → DoubleClient}
    (keeps : RoomServerDouble.KeepsOwner change)
    (sameLast :
      ∀ client, (change client).lastTimestamp = client.lastTimestamp)
    (sameRole :
      ∀ client, (change client).permissions = client.permissions) :
    Sound crypto all
      { state with server := state.server.updateClient key change } where
  among := sound.among
  exactlyOnce :=
    { queue := sound.exactlyOnce.queue
      inOrder := sound.exactlyOnce.inOrder
      genuine := sound.exactlyOnce.genuine
      acked := sound.exactlyOnce.acked }
  slots := by
    have sameIdentity :
        (state.server.updateClient key change).identity =
          state.server.identity := rfl
    apply sound.slots.serverChanged sameIdentity
    intro other
    rw [state.server.clientOf_updateClient keeps]
    split
    · rw [Option.map_map]
      congr 1
      funext client
      simp only [Function.comp_apply, keeps.secret, sameLast, sameRole]
    · rfl

/-- Each event keeps the record exact and the slots as they should be. -/
theorem Sound.step
    (inverse : crypto.DecryptsEncrypted)
    {all : List RoomPostingEvent}
    (apart : TimestampsApart all)
    (sound : Sound crypto all state)
    {event : RoomPostingEvent}
    (member : event ∈ all) :
    Sound crypto all (RoomPosting.step crypto state event) := by
  cases event with
  | arrive clientPubkey message =>
      cases message with
      | login timestamp syncSince password =>
          exact sound.login inverse apart member
      | post timestamp attempt text =>
          exact sound.post inverse apart member
      | keepAlive timestamp forceSince =>
          exact sound.keepAlive inverse apart member
  | setTime time =>
      exact
        { among := sound.among
          exactlyOnce :=
            { queue := sound.exactlyOnce.queue
              inOrder := sound.exactlyOnce.inOrder
              genuine := sound.exactlyOnce.genuine
              acked := sound.exactlyOnce.acked }
          slots := sound.slots.serverChanged rfl fun _ => rfl }
  | push clientPubkey =>
      rcases state.server.pushNext_updates crypto clientPubkey with
        quiet | ⟨_, post, -, -, -, pushed⟩
      · simp only [RoomPosting.step, quiet]
        exact sound
      · simp only [RoomPosting.step, pushed]
        exact
          sound.slotChanged
            (RoomServerDouble.keepsOwner_awaiting _ post.timestamp)
            (fun _ => rfl) fun _ => rfl
  | ack clientPubkey hash =>
      rcases state.server.handleAck_updates clientPubkey hash with
        ignored | accepted
      · simp only [RoomPosting.step, ignored]
        exact sound
      · simp only [RoomPosting.step, accepted]
        exact
          sound.slotChanged RoomServerDouble.keepsOwner_acknowledged
            (fun _ => rfl) fun _ => rfl

/--
However often and in whatever order the messages of the clients arrive, among
pushes, acknowledgements and settings of the clock: if no two messages of a client
share a timestamp, each post is stored at most once, each client's posts are
stored in the order of its timestamps and with its text, and every acknowledged
post is among the stored ones, the newest of which are the double's queue.
-/
theorem posts_exactly_once
    (inverse : crypto.DecryptsEncrypted)
    (identity : Identity)
    (adminPassword guestPassword : List UInt8)
    (allowReadOnly : Bool)
    {events : List RoomPostingEvent}
    (apart : TimestampsApart events) :
    Transition.Always (step crypto) ExactlyOnce
      (start identity adminPassword guestPassword allowReadOnly)
      events := by
  let new := start identity adminPassword guestPassword allowReadOnly
  have among :
      Transition.Along (step crypto) (fun _ event => event ∈ events) new
        events :=
    Transition.along_of_forall (fun _ member => member) new
  have always :
      Transition.Always (step crypto) (Sound crypto events) new events :=
    Transition.always_of_along
      (fun _ _ sound member => sound.step inverse apart member)
      (sound_start crypto events identity adminPassword guestPassword
        allowReadOnly)
      among
  exact always.mono fun _ sound => sound.exactlyOnce

/-- The post of a client arrives before its login and then twice, and its login
comes again. -/
def retriedPost : List RoomPostingEvent :=
  [.arrive RecordedKeys.boPubkey (.post 2 0 [0x68, 0x69]),
    .arrive RecordedKeys.boPubkey (.login 1 0 [0x67, 0x6F]),
    .arrive RecordedKeys.boPubkey (.post 2 0 [0x68, 0x69]),
    .setTime 50,
    .arrive RecordedKeys.boPubkey (.post 2 0 [0x68, 0x69]),
    .arrive RecordedKeys.boPubkey (.login 1 0 [0x67, 0x6F])]

/-- The messages of the client do not share a timestamp. -/
theorem retriedPost_apart : TimestampsApart retriedPost := by
  intro key first second isFirst isSecond same
  simp only [retriedPost, List.mem_cons, List.not_mem_nil, or_false,
    RoomPostingEvent.arrive.injEq, reduceCtorEq,
    false_or] at isFirst isSecond
  rcases isFirst with ⟨-, rfl⟩ | ⟨-, rfl⟩ | ⟨-, rfl⟩ | ⟨-, rfl⟩ | ⟨-, rfl⟩ <;>
    rcases isSecond with
      ⟨-, rfl⟩ | ⟨-, rfl⟩ | ⟨-, rfl⟩ | ⟨-, rfl⟩ | ⟨-, rfl⟩ <;>
    revert same <;> decide

/-- The post is stored once and acknowledged twice. -/
theorem posts_exactly_once_recorded :
    ((Transition.run (step roomRecord.crypto)
          (start roomServer [0x61] [0x67, 0x6F] false)
          retriedPost).stored.length = 1 ∧
      (Transition.run (step roomRecord.crypto)
          (start roomServer [0x61] [0x67, 0x6F] false)
          retriedPost).acked.length = 2) ∧
      Transition.Always (step roomRecord.crypto) ExactlyOnce
        (start roomServer [0x61] [0x67, 0x6F] false) retriedPost :=
  ⟨by decide +kernel,
    posts_exactly_once roomRecord.decryptsEncrypted roomServer [0x61]
      [0x67, 0x6F] false retriedPost_apart⟩

end RoomPosting

end MeshCadet
