import MeshCadet.LearnedRoutes
import MeshCadet.RoomFrames
import MeshCadet.RoomSessionStore
import MeshCadet.Transition

namespace MeshCadet

/-!
# Timestamps of the frames for a room server

The server drops a frame whose timestamp is behind the last one it saw, so every
frame that is built takes the clock, or the second after the last timestamp if
the clock is behind it.  The last timestamp is stored before the main loop comes
to the radio again.  A post that is not acknowledged is sent again as it was.
-/

/-- The timestamp of the next frame; it stays at the end of its range. -/
def roomTxTimestamp
    (trustedWallClockSecs : Option UInt32)
    (lastRoomTs : UInt32) :
    UInt32 :=
  let floor :=
    if lastRoomTs = 0xFFFFFFFF then lastRoomTs else lastRoomTs + 1
  match trustedWallClockSecs with
  | some wall => max wall floor
  | none => floor

/-- Server clocks from here on are not believed. -/
def roomClockPlausibilityCeilingSecs : UInt32 :=
  4102444800

/-- How far a watermark may be ahead of the server's clock. -/
def syncSinceServerClockSlackSecs : UInt32 :=
  86400

/-- The watermark from which everything is pushed again. -/
def syncSinceRewindFloor : UInt32 :=
  1

/-- The watermark to go back to when the server's clock will not reach it. -/
def reconcileSyncSince
    (syncSince serverTs : UInt32) :
    Option UInt32 :=
  if serverTs = 0 ∨ roomClockPlausibilityCeilingSecs ≤ serverTs then
    none
  else if syncSince.toNat ≤
      serverTs.toNat + syncSinceServerClockSlackSecs.toNat then
    none
  else if syncSince = syncSinceRewindFloor then
    none
  else
    some syncSinceRewindFloor

/-- A room as it is provisioned; its route fits its field. -/
structure ProvisionedRoom where
  crypto : Crypto
  identity : Identity
  pubkey : Key
  extra : RoomExtra
  routeFits : extra.outPathLen.toNat ≤ maxPathSize

/-- A frame, the timestamp it was built with, and whether it is the copy of a
post that was not acknowledged. -/
structure RoomFrame where
  timestamp : UInt32
  bytes : List UInt8
  copied : Bool
deriving Repr, DecidableEq

/-- A frame on the air and the last timestamp stored at that moment. -/
structure AirFrame where
  frame : RoomFrame
  stored : UInt32
deriving Repr, DecidableEq

/--
The part of a device that sends to one room: what is stored, the runtime built at
boot, whether the runtime has advanced its last timestamp and not stored it yet,
the frames waiting for the radio and the posts waiting for an acknowledgement.
The last two fields record the posts built and the frames put on the air in every
boot so far.
-/
structure RoomSender where
  store : RoomStore
  session : PersistedRoomSession
  sessionEpoch : UInt8
  resyncPending : Bool
  unsaved : Bool
  queue : List RoomFrame
  outstanding : List RoomFrame
  posts : List RoomFrame
  air : List AirFrame
deriving Repr, DecidableEq

/-- What is sent to a room server. -/
inductive RoomRequest where
  | login
  | keepAlive
  | post (text : List UInt8)
deriving Repr, DecidableEq

/--
What the main loop does.  A send reads the clock, trusted or not, and the region;
a save follows it before the loop comes to the radio.  A drop takes the oldest
waiting frame out of a full queue.
-/
inductive RoomSendEvent where
  | send
      (request : RoomRequest)
      (clock : Option UInt32)
      (region : RegionScope)
  | save
  | transmit
  | drop
  | resend (index : Nat)
  | settle (index : Nat)
  | pathReply (payload : List UInt8)
  | reply (payload : List UInt8)
  | pushed (postTs : UInt32)
  | invalidateRoute
  | reboot
deriving Repr, DecidableEq

namespace ProvisionedRoom

/-- The secret shared with the server. -/
def secret
    (room : ProvisionedRoom) :
    Key :=
  room.identity.ecdhSharedSecret room.crypto room.pubkey

/-- The password of the room. -/
def guestPassword
    (room : ProvisionedRoom) :
    List UInt8 :=
  room.extra.guestPassword.toList.take room.extra.guestPasswordLen.toNat

/-- The session a boot finds. -/
def bootSession
    (room : ProvisionedRoom)
    (store : RoomStore) :
    PersistedRoomSession :=
  store.loadRoomSession.getD (.fromRoomExtra room.extra)

/-- The last timestamp that is stored. -/
def storedTs
    (room : ProvisionedRoom)
    (store : RoomStore) :
    UInt32 :=
  (room.bootSession store).lastRoomTs

/-- A boot from a store. -/
def booted
    (room : ProvisionedRoom)
    (store : RoomStore) :
    RoomSender :=
  { store := store
    session := room.bootSession store
    sessionEpoch := store.loadRoomEpoch
    resyncPending := true
    unsaved := false
    queue := []
    outstanding := []
    posts := []
    air := [] }

/-- Encode a request, if the session and the region allow it. -/
def encode
    (room : ProvisionedRoom)
    (state : RoomSender)
    (timestamp : UInt32)
    (region : RegionScope) :
    RoomRequest → Option (List UInt8)
  | .login =>
      (regionEmission region).map fun scope =>
        encodeRoomLoginFrame room.crypto room.secret (pubHash room.pubkey)
          room.identity.pubkey timestamp state.session.syncSince
          room.guestPassword scope
  | .keepAlive =>
      if state.session.hasRoute then
        encodeRoomKeepAliveFrame room.crypto room.secret
          (pubHash room.pubkey) (pubHash room.identity.pubkey)
          state.session.route timestamp
          (if state.resyncPending then state.session.syncSince else 0)
      else
        none
  | .post text =>
      if state.session.permission.canPost then
        (regionEmission region).bind fun scope =>
          match encodeRoomPostChecked room.crypto room.secret
              (pubHash room.pubkey) (pubHash room.identity.pubkey)
              timestamp state.session.lastRoomTs text
              room.identity.pubkey scope with
          | .ok (bytes, _) => some bytes
          | .error _ => none
      else
        none

/-- The posts to wait for after a frame was queued. -/
def waitFor
    (frame : RoomFrame) :
    RoomRequest → List RoomFrame
  | .post _ => [frame]
  | _ => []

/-- Queue a frame and record its timestamp. -/
def enqueue
    (state : RoomSender)
    (request : RoomRequest)
    (timestamp : UInt32)
    (bytes : List UInt8) :
    RoomSender :=
  let frame : RoomFrame :=
    { timestamp := timestamp
      bytes := bytes.take frameBuf
      copied := false }
  { state with
    session := state.session.recordSentTimestamp timestamp
    resyncPending := state.resyncPending && request != .keepAlive
    unsaved := true
    queue := state.queue ++ [frame]
    outstanding := state.outstanding ++ waitFor frame request
    posts := state.posts ++ waitFor frame request }

/-- Take over what an accepted login reply says. -/
def applyReply
    (state : RoomSender)
    (reply : Except RoomSessionError RoomLoginOutcome) :
    RoomSender :=
  match reply with
  | .error _ => state
  | .ok outcome =>
      let learned := state.session.applyLoginOutcome outcome
      { state with
        session :=
          { learned with
            syncSince :=
              (reconcileSyncSince learned.syncSince
                outcome.serverTs).getD learned.syncSince }
        resyncPending := true }

/-- One event. -/
def step
    (room : ProvisionedRoom)
    (state : RoomSender) :
    RoomSendEvent → RoomSender
  | .send request clock region =>
      if state.unsaved then
        state
      else
        let timestamp := roomTxTimestamp clock state.session.lastRoomTs
        match room.encode state timestamp region request with
        | some bytes => enqueue state request timestamp bytes
        | none => state
  | .save =>
      { state with
        store :=
          state.store.saveRoomSession state.sessionEpoch state.session
        unsaved := false }
  | .transmit =>
      if state.unsaved then
        state
      else
        match state.queue with
        | [] => state
        | frame :: rest =>
            { state with
              queue := rest
              air :=
                state.air ++
                  [{ frame := frame
                     stored := room.storedTs state.store }] }
  | .drop => { state with queue := state.queue.tail }
  | .resend index =>
      match state.outstanding[index]? with
      | some frame =>
          { state with
            queue := state.queue ++ [{ frame with copied := true }] }
      | none => state
  | .settle index =>
      { state with outstanding := state.outstanding.eraseIdx index }
  | .pathReply payload =>
      applyReply state
        (decodeLoginPathReturn room.crypto room.secret payload)
  | .reply payload =>
      applyReply state
        (decodeLoginResponseDatagram room.crypto room.secret payload)
  | .pushed postTs =>
      { state with session := state.session.recordSyncedPostTs postTs }
  | .invalidateRoute =>
      { state with session := state.session.invalidateRoute }
  | .reboot =>
      { room.booted state.store with
        posts := state.posts
        air := state.air }

/-- A frame that is no copy has a later timestamp than the frame before it. -/
def Follows
    (earlier later : RoomFrame) :
    Prop :=
  later.copied = false → earlier.timestamp < later.timestamp

/-- The server reads the frame's timestamp, and a copy is one of a post. -/
structure Known
    (room : ProvisionedRoom)
    (posts : List RoomFrame)
    (frame : RoomFrame) :
    Prop where
  carried :
    frameTimestamp room.crypto room.secret frame.bytes =
      some frame.timestamp
  ofPost :
    frame.copied = true →
      ∃ post ∈ posts,
        post.copied = false ∧
          post.bytes = frame.bytes ∧
          post.timestamp = frame.timestamp

/--
On the air, a frame that is no copy has a timestamp above all before it; a copy is
one of a post that was built before, byte for byte; the timestamp the server reads
in a frame was stored when the frame was sent.
-/
structure ReplaySafe
    (room : ProvisionedRoom)
    (state : RoomSender) :
    Prop where
  fresh : (state.air.map AirFrame.frame).Pairwise Follows
  known : ∀ sent ∈ state.air, room.Known state.posts sent.frame
  stored : ∀ sent ∈ state.air, sent.frame.timestamp ≤ sent.stored

/-- A send meets a stored timestamp below the largest one. -/
def BelowMax
    (room : ProvisionedRoom)
    (state : RoomSender) :
    RoomSendEvent → Prop
  | .send _ _ _ => room.storedTs state.store < 0xFFFFFFFF
  | _ => True

/--
Nothing that was sent is above the stored timestamp and nothing that waits is
above the session's, and between a send and its save alone these two differ.  The
session can be stored and read back.
-/
structure Sound
    (room : ProvisionedRoom)
    (state : RoomSender) :
    Prop where
  ordered :
    (state.air.map AirFrame.frame ++ state.queue).Pairwise Follows
  known :
    ∀ frame ∈ state.air.map AirFrame.frame ++ state.queue,
      room.Known state.posts frame
  stored : ∀ sent ∈ state.air, sent.frame.timestamp ≤ sent.stored
  tracked :
    ∀ frame ∈ state.outstanding,
      frame ∈ state.posts ∧
        frame.copied = false ∧
        room.Known state.posts frame
  sent :
    ∀ sent ∈ state.air,
      sent.frame.timestamp ≤ room.storedTs state.store
  waiting :
    ∀ frame ∈ state.queue ++ state.outstanding,
      frame.timestamp ≤ state.session.lastRoomTs
  saved :
    state.unsaved = false →
      room.storedTs state.store = state.session.lastRoomTs
  ahead : room.storedTs state.store ≤ state.session.lastRoomTs
  routeFits : state.session.outPathLen.toNat ≤ maxPathSize
  epoch : state.sessionEpoch = state.store.loadRoomEpoch

/-- Below the end of the range, the next timestamp is a later one. -/
theorem lt_roomTxTimestamp
    (clock : Option UInt32)
    {lastRoomTs : UInt32}
    (below : lastRoomTs < 0xFFFFFFFF) :
    lastRoomTs < roomTxTimestamp clock lastRoomTs := by
  have notMax : lastRoomTs ≠ 0xFFFFFFFF := by
    rintro rfl
    exact absurd below (by decide)
  have bump : lastRoomTs < lastRoomTs + 1 := by
    rw [UInt32.lt_iff_toNat_lt] at below ⊢
    rw [UInt32.toNat_add]
    have small : lastRoomTs.toNat < 4294967295 := below
    have one : (1 : UInt32).toNat = 1 := rfl
    omega
  cases clock with
  | none => simpa [roomTxTimestamp, notMax] using bump
  | some wall =>
      simp only [roomTxTimestamp, notMax, if_false]
      refine UInt32.lt_of_lt_of_le bump ?_
      rw [show max wall (lastRoomTs + 1) =
          if wall ≤ lastRoomTs + 1 then lastRoomTs + 1 else wall from rfl]
      split
      · exact UInt32.le_refl _
      · next later => exact UInt32.le_of_lt (UInt32.not_le.mp later)

/-- What is known of a frame stays known when a post is built. -/
theorem Known.append
    {room : ProvisionedRoom}
    {posts : List RoomFrame}
    {frame : RoomFrame}
    (known : room.Known posts frame)
    (more : List RoomFrame) :
    room.Known (posts ++ more) frame where
  carried := known.carried
  ofPost := by
    intro copied
    obtain ⟨post, member, same⟩ := known.ofPost copied
    exact ⟨post, List.mem_append_left more member, same⟩

/-- A built frame carries its timestamp and fits a frame buffer. -/
theorem encode_carries
    {room : ProvisionedRoom}
    (inverse : room.crypto.DecryptsEncrypted)
    {state : RoomSender}
    {timestamp : UInt32}
    {region : RegionScope}
    {request : RoomRequest}
    {bytes : List UInt8}
    (encoded : room.encode state timestamp region request = some bytes) :
    frameTimestamp room.crypto room.secret bytes = some timestamp ∧
      bytes.length ≤ frameBuf := by
  cases request with
  | login =>
      obtain ⟨scope, -, rfl⟩ := Option.map_eq_some_iff.mp encoded
      exact ⟨frameTimestamp_login inverse _ _ _ _ _ _ _,
        length_loginFrame_le _ _ _ _ _ _ _ _⟩
  | keepAlive =>
      simp only [encode] at encoded
      split at encoded
      · exact ⟨frameTimestamp_keepAlive inverse _ _ _ _ encoded,
          length_keepAliveFrame_le encoded⟩
      · cases encoded
  | post text =>
      simp only [encode] at encoded
      split at encoded
      · obtain ⟨scope, -, checked⟩ := Option.bind_eq_some_iff.mp encoded
        split at checked
        · next isEncoded =>
          cases checked
          exact ⟨frameTimestamp_post inverse _ _ _ _ isEncoded,
            length_postFrame_le isEncoded⟩
        · cases checked
      · cases encoded

/-- A session whose last timestamp is the same one may replace the session. -/
theorem Sound.withSession
    {room : ProvisionedRoom}
    {state : RoomSender}
    (sound : room.Sound state)
    {session : PersistedRoomSession}
    (resyncPending : Bool)
    (same : session.lastRoomTs = state.session.lastRoomTs)
    (routeFits : session.outPathLen.toNat ≤ maxPathSize) :
    room.Sound
      { state with
        session := session
        resyncPending := resyncPending } :=
  { sound with
    waiting := by simpa only [same] using sound.waiting
    saved := by simpa only [same] using sound.saved
    ahead := by simpa only [same] using sound.ahead
    routeFits := routeFits }

/-- What holds of all that is recorded is what was to be shown. -/
theorem Sound.replaySafe
    {room : ProvisionedRoom}
    {state : RoomSender}
    (sound : room.Sound state) :
    room.ReplaySafe state where
  fresh := (List.pairwise_append.mp sound.ordered).1
  known := fun sent member =>
    sound.known sent.frame
      (List.mem_append_left _ (List.mem_map_of_mem member))
  stored := sound.stored

/-- A boot has sent nothing. -/
theorem sound_booted
    (room : ProvisionedRoom)
    (store : RoomStore) :
    room.Sound (room.booted store) where
  ordered := List.Pairwise.nil
  known := by simp [booted]
  stored := by simp [booted]
  tracked := by simp [booted]
  sent := by simp [booted]
  waiting := by simp [booted]
  saved := fun _ => rfl
  ahead := UInt32.le_refl _
  routeFits := by
    simp only [booted, bootSession, RoomStore.loadRoomSession]
    cases loaded : store.blob.bind PersistedRoomSession.decode with
    | none => exact room.routeFits
    | some session =>
        obtain ⟨blob, -, decoded⟩ := Option.bind_eq_some_iff.mp loaded
        exact PersistedRoomSession.routeFits_of_decode decoded
  epoch := rfl

/-- A reboot forgets what waits and keeps what was sent. -/
theorem Sound.reboot
    {room : ProvisionedRoom}
    {state : RoomSender}
    (sound : room.Sound state) :
    room.Sound (room.step state .reboot) :=
  { sound_booted room state.store with
    ordered := by
      simpa [ProvisionedRoom.step, booted] using
        (List.pairwise_append.mp sound.ordered).1
    known := fun frame member =>
      sound.known frame
        (List.mem_append_left _
          (by simpa [ProvisionedRoom.step, booted] using member))
    stored := sound.stored
    tracked := by simp [ProvisionedRoom.step, booted]
    sent := sound.sent
    waiting := by simp [ProvisionedRoom.step, booted] }

/-- A save stores the session's last timestamp. -/
theorem Sound.save
    {room : ProvisionedRoom}
    {state : RoomSender}
    (sound : room.Sound state) :
    room.Sound (room.step state .save) := by
  have written :
      state.store.saveRoomSession state.sessionEpoch state.session =
        state.store.writeBlob state.session := by
    simp [RoomStore.saveRoomSession, roomSessionPersistIsCurrent,
      sound.epoch]
  have nowStored :
      room.storedTs (state.store.writeBlob state.session) =
        state.session.lastRoomTs := by
    simp [storedTs, bootSession, RoomStore.loadRoomSession,
      RoomStore.writeBlob,
      PersistedRoomSession.decode_encode sound.routeFits,
      PersistedRoomSession.reloaded]
  simp only [ProvisionedRoom.step, written]
  exact
    { sound with
      sent := fun sent member => by
        rw [nowStored]
        exact UInt32.le_trans (sound.sent sent member) sound.ahead
      saved := fun _ => nowStored
      ahead := by
        rw [nowStored]
        exact UInt32.le_refl _
      epoch := sound.epoch }

/-- A frame is sent when its timestamp is stored. -/
theorem Sound.transmit
    {room : ProvisionedRoom}
    {state : RoomSender}
    (sound : room.Sound state) :
    room.Sound (room.step state .transmit) := by
  simp only [ProvisionedRoom.step]
  split
  · exact sound
  · next saved =>
    split
    · exact sound
    · next frame rest queue =>
      have isStored :
          frame.timestamp ≤ room.storedTs state.store := by
        rw [sound.saved (by simpa using saved)]
        exact sound.waiting frame (by simp [queue])
      have sameFrames :
          (state.air ++
                [AirFrame.mk frame (room.storedTs state.store)]).map
              AirFrame.frame ++ rest =
            state.air.map AirFrame.frame ++ state.queue := by
        simp [queue]
      exact
        { sound with
          ordered := by simpa only [sameFrames] using sound.ordered
          known := by simpa only [sameFrames] using sound.known
          stored := by
            intro sent member
            rcases List.mem_append.mp member with before | now
            · exact sound.stored sent before
            · cases List.mem_singleton.mp now
              exact isStored
          sent := by
            intro sent member
            rcases List.mem_append.mp member with before | now
            · exact sound.sent sent before
            · cases List.mem_singleton.mp now
              exact isStored
          waiting := fun waiting member =>
            sound.waiting waiting (by
              rw [queue]
              exact List.mem_cons_of_mem frame member) }

/-- What leaves the queue or the posts waited for leaves all else as it was. -/
theorem Sound.forget
    {room : ProvisionedRoom}
    {state : RoomSender}
    (sound : room.Sound state)
    {queue outstanding : List RoomFrame}
    (fewerQueued : queue.Sublist state.queue)
    (fewerTracked : outstanding.Sublist state.outstanding) :
    room.Sound
      { state with
        queue := queue
        outstanding := outstanding } :=
  { sound with
    ordered :=
      sound.ordered.sublist
        ((List.Sublist.refl _).append fewerQueued)
    known := fun frame member =>
      sound.known frame
        (((List.Sublist.refl _).append fewerQueued).subset member)
    tracked := fun frame member =>
      sound.tracked frame (fewerTracked.subset member)
    waiting := fun frame member =>
      sound.waiting frame ((fewerQueued.append fewerTracked).subset member) }

/-- Queueing a frame that follows all frames before it. -/
theorem pairwise_queue
    {before : List RoomFrame}
    (ordered : before.Pairwise Follows)
    {frame : RoomFrame}
    (follows : ∀ earlier ∈ before, Follows earlier frame) :
    (before ++ [frame]).Pairwise Follows := by
  rw [List.pairwise_append]
  refine ⟨ordered, List.pairwise_singleton _ _, ?_⟩
  intro earlier member later isFrame
  cases List.mem_singleton.mp isFrame
  exact follows earlier member

/-- A copy of a post that waits for its acknowledgement may be queued. -/
theorem Sound.resend
    {room : ProvisionedRoom}
    {state : RoomSender}
    (sound : room.Sound state)
    (index : Nat) :
    room.Sound (room.step state (.resend index)) := by
  simp only [ProvisionedRoom.step]
  split
  · next frame found =>
    have member : frame ∈ state.outstanding :=
      List.mem_of_getElem? found
    obtain ⟨isPost, noCopy, known⟩ := sound.tracked frame member
    exact
      { sound with
        ordered := by
          rw [← List.append_assoc]
          refine pairwise_queue sound.ordered ?_
          intro earlier _ notCopied
          cases notCopied
        known := by
          intro other isKnown
          rw [← List.append_assoc] at isKnown
          rcases List.mem_append.mp isKnown with before | now
          · exact sound.known other before
          · cases List.mem_singleton.mp now
            exact
              { carried := known.carried
                ofPost := fun _ => ⟨frame, isPost, noCopy, rfl, rfl⟩ }
        waiting := by
          intro other isWaiting
          simp only [List.mem_append, List.mem_singleton] at isWaiting
          rcases isWaiting with (before | rfl) | tracked
          · exact sound.waiting other (List.mem_append_left _ before)
          · exact sound.waiting frame (List.mem_append_right _ member)
          · exact sound.waiting other (List.mem_append_right _ tracked) }
  · exact sound

/-- A frame with a later timestamp than the session's may be queued. -/
theorem Sound.enqueue
    {room : ProvisionedRoom}
    {state : RoomSender}
    (sound : room.Sound state)
    {request : RoomRequest}
    {timestamp : UInt32}
    {bytes : List UInt8}
    (later : state.session.lastRoomTs < timestamp)
    (carries :
      frameTimestamp room.crypto room.secret bytes = some timestamp ∧
        bytes.length ≤ frameBuf) :
    room.Sound (enqueue state request timestamp bytes) := by
  have recorded :
      state.session.recordSentTimestamp timestamp =
        { state.session with lastRoomTs := timestamp } := by
    simp [PersistedRoomSession.recordSentTimestamp, later]
  have whole : bytes.take frameBuf = bytes :=
    List.take_of_length_le carries.2
  have below :
      ∀ earlier ∈ state.air.map AirFrame.frame ++ state.queue,
        earlier.timestamp ≤ state.session.lastRoomTs := by
    intro earlier member
    rcases List.mem_append.mp member with wasSent | isQueued
    · obtain ⟨sent, isSent, rfl⟩ := List.mem_map.mp wasSent
      exact UInt32.le_trans (sound.sent sent isSent) sound.ahead
    · exact sound.waiting earlier (List.mem_append_left _ isQueued)
  let frame : RoomFrame :=
    { timestamp := timestamp
      bytes := bytes
      copied := false }
  have known :
      ∀ posts, room.Known posts frame := fun posts =>
    { carried := carries.1
      ofPost := by simp [frame] }
  have ofRequest :
      ∀ other ∈ waitFor frame request, other = frame := by
    cases request <;> simp [waitFor]
  simp only [ProvisionedRoom.enqueue, recorded, whole]
  exact
    { ordered := by
        rw [← List.append_assoc]
        refine pairwise_queue sound.ordered fun earlier member _ => ?_
        exact UInt32.lt_of_le_of_lt (below earlier member) later
      known := by
        intro other member
        rw [← List.append_assoc] at member
        rcases List.mem_append.mp member with before | now
        · exact (sound.known other before).append _
        · cases List.mem_singleton.mp now
          exact known _
      stored := sound.stored
      tracked := by
        intro other member
        rcases List.mem_append.mp member with before | now
        · obtain ⟨isPost, noCopy, isKnown⟩ := sound.tracked other before
          exact ⟨List.mem_append_left _ isPost, noCopy,
            isKnown.append _⟩
        · cases ofRequest other now
          exact ⟨List.mem_append_right _ now, rfl, known _⟩
      sent := sound.sent
      waiting := by
        intro other member
        have cases' :
            other ∈ state.queue ++ state.outstanding ∨
              other = frame := by
          simp only [List.mem_append, List.mem_singleton] at member ⊢
          rcases member with (queued | isFrame) | tracked | now
          · exact .inl (.inl queued)
          · exact .inr isFrame
          · exact .inl (.inr tracked)
          · exact .inr (ofRequest other now)
        rcases cases' with before | rfl
        · exact
            UInt32.le_trans (sound.waiting other before)
              (UInt32.le_of_lt later)
        · exact UInt32.le_refl _
      saved := by simp
      ahead :=
        UInt32.le_trans sound.ahead (UInt32.le_of_lt later)
      routeFits := sound.routeFits
      epoch := sound.epoch }

/-- A send below the end of the range keeps what is known. -/
theorem Sound.send
    {room : ProvisionedRoom}
    (inverse : room.crypto.DecryptsEncrypted)
    {state : RoomSender}
    (sound : room.Sound state)
    (request : RoomRequest)
    (clock : Option UInt32)
    (region : RegionScope)
    (below : room.storedTs state.store < 0xFFFFFFFF) :
    room.Sound (room.step state (.send request clock region)) := by
  simp only [ProvisionedRoom.step]
  split
  · exact sound
  · next saved =>
    split
    · next bytes encoded =>
      refine sound.enqueue (lt_roomTxTimestamp clock ?_)
        (encode_carries inverse encoded)
      rw [← sound.saved (by simpa using saved)]
      exact below
    · exact sound

/-- A reply to a login teaches a route that fits its field. -/
theorem Sound.applyReply
    {room : ProvisionedRoom}
    {state : RoomSender}
    (sound : room.Sound state)
    {reply : Except RoomSessionError RoomLoginOutcome}
    (teaches :
      ∀ outcome path pathByteCount,
        reply = .ok outcome →
        outcome.outPath = some (path, pathByteCount) →
          pathByteCount ≤ maxPathSize) :
    room.Sound (applyReply state reply) := by
  cases reply with
  | error error => exact sound
  | ok outcome =>
      refine sound.withSession true ?_ ?_
      · simp only [PersistedRoomSession.applyLoginOutcome]
        split <;> rfl
      · simp only [PersistedRoomSession.applyLoginOutcome]
        split
        · next path pathByteCount isPath =>
          have fits := teaches outcome path pathByteCount rfl isPath
          simp only [maxPathSize] at fits
          rw [UInt8.toNat_ofNat_of_lt'
            (show min pathByteCount 255 < 256 by omega)]
          simp only [maxPathSize]
          omega
        · exact sound.routeFits

/-- What an event does keeps what is known. -/
theorem Sound.step
    {room : ProvisionedRoom}
    (inverse : room.crypto.DecryptsEncrypted)
    {state : RoomSender}
    {event : RoomSendEvent}
    (sound : room.Sound state)
    (below : room.BelowMax state event) :
    room.Sound (room.step state event) := by
  cases event with
  | send request clock region =>
      exact sound.send inverse request clock region below
  | save => exact sound.save
  | transmit => exact sound.transmit
  | drop =>
      exact sound.forget (List.tail_sublist _) (List.Sublist.refl _)
  | resend index => exact sound.resend index
  | settle index =>
      exact sound.forget (List.Sublist.refl _)
        (List.eraseIdx_sublist _ _)
  | pathReply payload =>
      refine sound.applyReply fun outcome path pathByteCount ok isPath => ?_
      exact PersistedRoomSession.pathByteCount_of_loginPathReturn ok isPath
  | reply payload =>
      refine sound.applyReply fun outcome path pathByteCount ok isPath => ?_
      simp only [decodeLoginResponseDatagram] at ok
      split at ok
      · cases ok
      · split at ok
        · cases ok
        · cases ok
          cases isPath
  | pushed postTs =>
      refine sound.withSession state.resyncPending ?_ ?_
      · simp only [PersistedRoomSession.recordSyncedPostTs]
        split <;> rfl
      · simp only [PersistedRoomSession.recordSyncedPostTs]
        split <;> exact sound.routeFits
  | invalidateRoute =>
      exact sound.withSession state.resyncPending rfl (Nat.zero_le _)
  | reboot => exact sound.reboot

/--
In every run of sends, retransmissions and reboots in which no send meets the
largest timestamp stored, each frame on the air that is no copy of a post has a
timestamp above all before it, and each frame was sent after its timestamp was
stored.
-/
theorem transmitted_timestamps_fresh
    (room : ProvisionedRoom)
    (inverse : room.crypto.DecryptsEncrypted)
    (store : RoomStore)
    (events : List RoomSendEvent)
    (below :
      Transition.Along room.step room.BelowMax (room.booted store)
        events) :
    Transition.Always room.step room.ReplaySafe (room.booted store)
      events :=
  Transition.Always.mono
    (fun _ sound => Sound.replaySafe sound)
    (Transition.always_of_along
      (fun _ _ sound guarded => Sound.step inverse sound guarded)
      (sound_booted room store) below)

/-- The primitives on two posts in successive seconds. -/
def successivePosts : CryptoRecord :=
  { ciphers :=
      [(Crypto.aesKey RecordedKeys.anaSecret,
          RecordedKeys.hiPlaintext,
          RecordedKeys.anaHiCiphertext),
        (Crypto.aesKey RecordedKeys.anaSecret,
          #v[0x02, 0x02, 0x03, 0x64, 0x00, 0x79, 0x6F, 0x00, 0x00, 0x00,
            0x00, 0x00, 0x00, 0x00, 0x00, 0x00],
          #v[0xBA, 0xE5, 0x8C, 0x67, 0x6D, 0xC9, 0x1D, 0xC8, 0x2F, 0x40,
            0x41, 0x06, 0xF2, 0x9D, 0x4A, 0x53])]
    codes :=
      [(RecordedKeys.anaSecret.toList,
          RecordedKeys.anaHiCiphertext.toList,
          RecordedKeys.anaHiCode),
        (RecordedKeys.anaSecret.toList,
          [0xBA, 0xE5, 0x8C, 0x67, 0x6D, 0xC9, 0x1D, 0xC8, 0x2F, 0x40,
            0x41, 0x06, 0xF2, 0x9D, 0x4A, 0x53],
          #v[0x3F, 0x33, 0x86, 0x69, 0x09, 0xC9, 0x23, 0xFD, 0x1F, 0xCB,
            0x74, 0x1C, 0xC0, 0x45, 0x46, 0x91, 0x27, 0x59, 0xBD, 0x88,
            0x7A, 0xD6, 0x77, 0x24, 0x08, 0x3F, 0x5E, 0xE3, 0xB3, 0x9F,
            0xC7, 0xDE])]
    digests :=
      [([0x01, 0x02, 0x03, 0x64, 0x00, 0x68, 0x69] ++
          RecordedKeys.device.pubkey.toList,
          RecordedKeys.deviceHiDigest),
        ([0x02, 0x02, 0x03, 0x64, 0x00, 0x79, 0x6F] ++
          RecordedKeys.device.pubkey.toList,
          #v[0x88, 0x81, 0x41, 0x3B, 0x7B, 0x92, 0x61, 0xCC, 0xE2, 0x1B,
            0x86, 0x7E, 0x85, 0x0E, 0x81, 0xAD, 0x8D, 0x22, 0x14, 0x6F,
            0x75, 0x5C, 0x17, 0xC8, 0x53, 0x34, 0x60, 0xD1, 0x11, 0x0B,
            0x66, 0xEA])]
    agreements := RecordedKeys.agreements }

/-- A room in which the device may post. -/
def postingRoom : ProvisionedRoom :=
  { crypto := successivePosts.crypto
    identity := RecordedKeys.device
    pubkey := RecordedKeys.anaPubkey
    extra :=
      { pubkey := RecordedKeys.anaPubkey
        guestPassword := Vector.replicate maxLoginPasswordLen 0
        guestPasswordLen := 0
        syncSince := 0
        permissions := 2
        outPath := Vector.replicate maxPathSize 0
        outPathLen := 0 }
    routeFits := by decide }

/-- Nothing was stored for the room yet. -/
def unstored : RoomStore :=
  { blob := none
    epoch := none }

/-- The post `hi` is sent with a clock and sent again. -/
def postSentAgain : List RoomSendEvent :=
  [.send (.post [0x68, 0x69]) (some 0x64030201) .unscoped, .save,
    .transmit, .resend 0, .transmit]

/-- The post `yo` is sent without a clock. -/
def postWithoutClock : List RoomSendEvent :=
  [.send (.post [0x79, 0x6F]) none .unscoped, .save, .transmit]

/-- A post, its copy, a reboot without a clock and another post. -/
theorem transmitted_timestamps_example :
    Transition.Always postingRoom.step postingRoom.ReplaySafe
        (postingRoom.booted unstored)
        (postSentAgain ++ .reboot :: postWithoutClock) ∧
      (Transition.run postingRoom.step (postingRoom.booted unstored)
          (postSentAgain ++ .reboot :: postWithoutClock)).air.map
            (fun sent => sent.frame.timestamp) =
        [0x64030201, 0x64030201, 0x64030202] := by
  refine
    ⟨transmitted_timestamps_fresh postingRoom
      successivePosts.decryptsEncrypted unstored
      (postSentAgain ++ .reboot :: postWithoutClock) ?_, ?_⟩
  · refine ⟨?_, trivial, trivial, trivial, trivial, trivial, ?_, trivial,
      trivial, trivial⟩
    · change postingRoom.storedTs _ < 0xFFFFFFFF
      decide +kernel
    · change postingRoom.storedTs _ < 0xFFFFFFFF
      decide +kernel
  · decide +kernel

/-- A post that is sent again puts its timestamp on the air twice. -/
theorem transmitted_timestamp_repeated :
    (¬ ∀ (room : ProvisionedRoom) (store : RoomStore)
        (events : List RoomSendEvent),
      room.crypto.DecryptsEncrypted →
      Transition.Along room.step room.BelowMax (room.booted store)
        events →
        Transition.Always room.step
          (fun state =>
            (state.air.map fun sent => sent.frame.timestamp).Pairwise
              (· < ·))
          (room.booted store) events) ∧
      (Transition.run postingRoom.step (postingRoom.booted unstored)
          postSentAgain).air.map (fun sent => sent.frame.timestamp) =
        [0x64030201, 0x64030201] := by
  have repeated :
      (Transition.run postingRoom.step (postingRoom.booted unstored)
          postSentAgain).air.map (fun sent => sent.frame.timestamp) =
        [0x64030201, 0x64030201] := by
    decide +kernel
  refine ⟨fun increasing => ?_, repeated⟩
  have last :=
    (increasing postingRoom unstored postSentAgain
      successivePosts.decryptsEncrypted
      ⟨by
        change postingRoom.storedTs _ < 0xFFFFFFFF
        decide +kernel, trivial, trivial, trivial, trivial, trivial⟩).last
  simp only [repeated] at last
  exact absurd last (by decide)

end ProvisionedRoom

end MeshCadet
