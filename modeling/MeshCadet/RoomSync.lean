import MeshCadet.RoomServer
import MeshCadet.RoomSessionStore
import MeshCadet.Transition

namespace MeshCadet

/-!
# Synchronisation with a room server

The server pushes one post at a time and advances its watermark for the client
when the push is acknowledged; the client advances its own one with every push it
reads and tells it the server at a login.  Pushes and acknowledgements are lost or
arrive at any later time, and a login makes the server push the last post again.
-/

/-- A room server and one of its clients. -/
structure RoomSyncSetup where
  crypto : Crypto
  server : Identity
  client : Identity
  adminPassword : List UInt8
  guestPassword : List UInt8
  allowReadOnly : Bool
  password : List UInt8
  convHash : UInt8
  session : PersistedRoomSession

/--
The server, the client's session, the pushes and the acknowledgements on their
way.  The last two fields record the posts that were seeded and, in the order of
their first arrival, the posts the client received.
-/
structure RoomSync where
  server : RoomServerDouble
  session : PersistedRoomSession
  pushes : List (List UInt8)
  acks : List (Vector UInt8 4)
  seeded : List DoublePost
  received : List RoomPush
deriving DecidableEq

/-- What happens between a room server and its client.  A push is read next to
whatever history the client has. -/
inductive RoomSyncEvent where
  | seed (authorPubkey : Key) (timestamp : UInt32) (text : List UInt8)
  | login (timestamp : UInt32)
  | push
  | deliver (index : Nat) (recent : List HistoryEntry)
  | lose (index : Nat)
  | deliverAck (index : Nat)
  | loseAck (index : Nat)

namespace RoomSyncSetup

/-- The secret the client shares with the server. -/
def secret
    (setup : RoomSyncSetup) :
    Key :=
  setup.client.ecdhSharedSecret setup.crypto setup.server.pubkey

/-- Nothing was posted yet and the client is unknown. -/
def start
    (setup : RoomSyncSetup) :
    RoomSync :=
  { server :=
      .new setup.server setup.adminPassword setup.guestPassword
        setup.allowReadOnly
    session := setup.session
    pushes := []
    acks := []
    seeded := []
    received := [] }

/-- The client's login. -/
def loginPayload
    (setup : RoomSyncSetup)
    (state : RoomSync)
    (timestamp : UInt32) :
    List UInt8 :=
  encodeAnonReqLogin setup.crypto setup.secret
    (pubHash setup.server.pubkey) setup.client.pubkey timestamp
    state.session.syncSince setup.password

/-- The post a push carries. -/
def readPush
    (setup : RoomSyncSetup)
    (payload : List UInt8) :
    Option RoomPush :=
  match decodeRoomPush setup.crypto setup.secret payload with
  | .ok (_, _, push) => some push
  | .error _ => none

/-- Record the post of a push unless it was received before. -/
def note
    (received : List RoomPush)
    (push : Option RoomPush) :
    List RoomPush :=
  received ++ push.toList.filter fun push => decide (push ∉ received)

/-- The client handles a push. -/
def receive
    (setup : RoomSyncSetup)
    (state : RoomSync)
    (payload : List UInt8)
    (recent : List HistoryEntry) :
    RoomSync :=
  match handleRoomPush setup.crypto setup.secret payload
      setup.client.pubkey setup.convHash recent with
  | .ok outcome =>
      { state with
        session := state.session.recordSyncedPostTs outcome.postTs
        acks := state.acks ++ [outcome.ackHash]
        received := note state.received (setup.readPush payload) }
  | .error _ => state

/-- One event. -/
def step
    (setup : RoomSyncSetup)
    (state : RoomSync) :
    RoomSyncEvent → RoomSync
  | .seed authorPubkey timestamp text =>
      { state with
        server := state.server.seedPost authorPubkey timestamp text
        seeded := state.seeded ++ [.new authorPubkey timestamp text] }
  | .login timestamp =>
      { state with
        server :=
          (state.server.handleLogin setup.crypto
            (setup.loginPayload state timestamp)).1 }
  | .push =>
      let (server, payload) :=
        state.server.pushNext setup.crypto setup.client.pubkey
      { state with
        server := server
        pushes := state.pushes ++ payload.toList }
  | .deliver index recent =>
      match state.pushes[index]? with
      | some payload =>
          setup.receive
            { state with pushes := state.pushes.eraseIdx index } payload
            recent
      | none => state
  | .lose index =>
      { state with pushes := state.pushes.eraseIdx index }
  | .deliverAck index =>
      match state.acks[index]? with
      | some ack =>
          { state with
            server :=
              (state.server.handleAck setup.client.pubkey ack).1
            acks := state.acks.eraseIdx index }
      | none => state
  | .loseAck index =>
      { state with acks := state.acks.eraseIdx index }

/-- The posts of others, in the order they were seeded. -/
def others
    (setup : RoomSyncSetup)
    (seeded : List DoublePost) :
    List DoublePost :=
  seeded.filter fun post => post.authorPubkey != setup.client.pubkey

/-- What the client is to receive. -/
def wanted
    (setup : RoomSyncSetup)
    (seeded : List DoublePost) :
    List RoomPush :=
  (setup.others seeded).map DoublePost.carried

/-- Posts come with growing timestamps above the client's first watermark, without
zero bytes, and never in the place of one that the client is still to receive. -/
def Seeds
    (setup : RoomSyncSetup)
    (state : RoomSync) :
    RoomSyncEvent → Prop
  | .seed _ timestamp text =>
      setup.session.syncSince < timestamp ∧
        (∀ post ∈ state.seeded, post.timestamp < timestamp) ∧
        (∀ byte ∈ text, byte ≠ 0) ∧
        ∀ oldest,
          state.server.visited.head? = some oldest →
          oldest.used = true →
            oldest.authorPubkey = setup.client.pubkey ∨
              oldest.timestamp ≤ state.session.syncSince
  | _ => True

/-- Each post of another is acknowledged by a hash of its own. -/
def HashesApart
    (setup : RoomSyncSetup)
    (state : RoomSync) :
    RoomSyncEvent → Prop
  | .seed authorPubkey timestamp text =>
      authorPubkey ≠ setup.client.pubkey →
        ∀ post ∈ setup.others state.seeded,
          post.ackHash setup.crypto setup.client.pubkey ≠
            (DoublePost.new authorPubkey timestamp text).ackHash
              setup.crypto setup.client.pubkey
  | _ => True

/--
The client has received the first posts of others.  A push on its way carries the
next one or one that was received.  The server's watermark is not above the
client's, and when the server waits for nothing and has nothing to push, the
client has received everything.
-/
structure InSync
    (setup : RoomSyncSetup)
    (state : RoomSync) :
    Prop where
  inOrder : state.received <+: setup.wanted state.seeded
  next :
    ∀ payload ∈ state.pushes,
      ∃ push,
        setup.readPush payload = some push ∧
          (push ∈ state.received ∨
            state.received ++ [push] <+: setup.wanted state.seeded)
  behind :
    ∀ client,
      state.server.clientOf setup.client.pubkey = some client →
        client.syncSince ≤ state.session.syncSince
  complete :
    ∀ client,
      state.server.clientOf setup.client.pubkey = some client →
      client.pendingAck = none →
      (state.server.pushNext setup.crypto setup.client.pubkey).2 = none →
        state.received = setup.wanted state.seeded

/-- A push, its delivery and the delivery of its acknowledgement. -/
def exchange
    (setup : RoomSyncSetup)
    (state : RoomSync)
    (recent : List HistoryEntry) :
    RoomSync :=
  Transition.run setup.step state
    [.push, .deliver state.pushes.length recent,
      .deliverAck state.acks.length]

end RoomSyncSetup

end MeshCadet
