import MeshCadet.RoomConvergence

namespace MeshCadet

/-!
# Draining a room server

After a login the server's watermark is the client's, and an exchange without loss
keeps them equal, so that each exchange brings the next post and the server has
nothing more to push exactly when the client has received everything.
-/

open WatermarkLog

namespace RoomSyncSetup

/-- The server answers a login with this timestamp. -/
def LoginAnswered
    (setup : RoomSyncSetup)
    (state : RoomSync)
    (timestamp : UInt32) :
    Prop :=
  (state.server.handleLogin setup.crypto
    (setup.loginPayload state timestamp)).2.isSome = true

/-- The server has nothing to push to the client. -/
def HasNothing
    (setup : RoomSyncSetup)
    (state : RoomSync) :
    Prop :=
  (state.server.pushNext setup.crypto setup.client.pubkey).2 = none

instance
    (setup : RoomSyncSetup)
    (state : RoomSync) :
    Decidable (setup.HasNothing state) :=
  inferInstanceAs (Decidable (_ = none))

/-- Each exchange brings the next post, and the server runs out exactly when the
client has received everything. -/
def Drains
    (setup : RoomSyncSetup)
    (state : RoomSync)
    (recents : List (List HistoryEntry)) :
    Prop :=
  (recents.foldl setup.exchange state).received =
      (setup.wanted state.seeded).take
        (state.received.length + recents.length) ∧
    (setup.HasNothing (recents.foldl setup.exchange state) ↔
      (recents.foldl setup.exchange state).received =
        setup.wanted state.seeded)

/-- The server waits for nothing and its watermark is the client's. -/
def Settled
    (setup : RoomSyncSetup)
    (state : RoomSync) :
    Prop :=
  ∃ client,
    state.server.clientOf setup.client.pubkey = some client ∧
      client.pendingAck = none ∧
      client.syncSince = state.session.syncSince

/-- Nothing was posted yet, and the server knows no client. -/
theorem sound_start
    (setup : RoomSyncSetup) :
    setup.Sound setup.start where
  identity := rfl
  posted :=
    { ordered := List.Pairwise.nil
      late := by simp [start]
      noZero := by simp [start]
      apart := by simp [start, others] }
  queued := by
    refine ⟨[], ?_, by simp⟩
    have noneUsed :
        ∀ post ∈ setup.start.server.visited, post.used = false := by
      intro post member
      simp only [start, RoomServerDouble.new, RoomServerDouble.visited,
        RoomServerDouble.postRing, RingBuffer.Ring.contents,
        List.mem_map] at member
      obtain ⟨offset, -, rfl⟩ := member
      simp [Vector.get, DoublePost.empty]
    have noneKept :
        setup.start.server.kept setup.client.pubkey = [] := by
      rw [RoomServerDouble.kept, List.filter_eq_nil_iff]
      intro post member
      simp [noneUsed post member]
    rw [noneKept]
    rfl
  received := rfl
  marked := .inl rfl
  pushes := by simp [start]
  acks := by simp [start]
  client := by
    intro client known
    have isSlot := List.mem_of_find?_eq_some known
    have isClient := List.find?_some known
    rw [List.eq_of_mem_replicate isSlot] at isClient
    simp [DoubleClient.isClient, DoubleClient.empty] at isClient

section Exchanges

variable
    {setup : RoomSyncSetup}
    {state : RoomSync}

/-- With equal watermarks, nothing is left to push exactly when everything was
received. -/
theorem Settled.hasNothing_iff
    (inverse : setup.crypto.DecryptsEncrypted)
    (sound : setup.Sound state)
    (settled : setup.Settled state) :
    setup.HasNothing state ↔
      state.received = setup.wanted state.seeded := by
  obtain ⟨client, known, waitsNot, sameMark⟩ := settled
  constructor
  · exact (sound.inSync inverse).complete client known waitsNot
  · intro all
    rcases state.server.pushNext_cases setup.crypto
        setup.client.pubkey with
      ⟨nothing, -⟩ | ⟨other, post, changed, isKnown, -, found, -⟩
    · rw [HasNothing, nothing]
    · rw [known] at isKnown
      cases isKnown
      obtain ⟨member, ahead, -⟩ :=
        sound.due_of_find? (sound.client client known) found
      have covered := sound.received_eq_wanted_iff.mp all post member
      rw [sameMark] at ahead
      exact absurd ahead (Nat.not_lt.mpr covered)

/-- Three events that seed nothing keep what is known. -/
theorem Sound.exchange
    (inverse : setup.crypto.DecryptsEncrypted)
    (sound : setup.Sound state)
    (recent : List HistoryEntry) :
    setup.Sound (setup.exchange state recent) :=
  (sound.push.deliver inverse _ recent).deliverAck _

/-- Without anything to push, an exchange changes nothing. -/
theorem exchange_nothing
    (nothing :
      state.server.pushNext setup.crypto setup.client.pubkey =
        (state.server, none))
    (recent : List HistoryEntry) :
    setup.exchange state recent = state := by
  simp [RoomSyncSetup.exchange, RoomSyncSetup.step, nothing]

/-- The client receives a post above its watermark, whatever is on its way. -/
theorem Sound.receive_next
    (inverse : setup.crypto.DecryptsEncrypted)
    (sound : setup.Sound state)
    {post : DoublePost}
    (member : post ∈ setup.others state.seeded)
    (ahead : state.session.mark < post.order)
    (server : RoomServerDouble)
    (pushes : List (List UInt8))
    (recent : List HistoryEntry) :
    setup.receive
        { state with
          server := server
          pushes := pushes }
        (setup.pushOf post) recent =
      { state with
        server := server
        session := { state.session with syncSince := post.timestamp }
        pushes := pushes
        acks := state.acks ++ [setup.hashOf post]
        received := state.received ++ [post.carried] } := by
  obtain ⟨outcome, handled, isHash, sameTs⟩ :=
    handleRoomPush_pushOf inverse sound.posted member recent
  have recorded :
      state.session.recordSyncedPostTs post.timestamp =
        { state.session with syncSince := post.timestamp } := by
    have later : state.session.syncSince < post.timestamp :=
      UInt32.lt_iff_toNat_lt.mpr ahead
    simp [PersistedRoomSession.recordSyncedPostTs, later]
  have reads : setup.readPush (setup.pushOf post) = some post.carried := by
    simp only [readPush, sound.posted.readPush inverse member]
  have isNew : post.carried ∉ state.received := fun wasReceived =>
    Nat.not_le.mpr ahead (sound.carried_mem_received wasReceived)
  simp [RoomSyncSetup.receive, handled, isHash, sameTs, recorded, reads,
    note, isNew]

/-- An exchange from equal watermarks brings the next post and makes the
watermarks equal again. -/
theorem Settled.exchange
    (inverse : setup.crypto.DecryptsEncrypted)
    (sound : setup.Sound state)
    (settled : setup.Settled state)
    (recent : List HistoryEntry) :
    setup.Settled (setup.exchange state recent) ∧
      (setup.exchange state recent).seeded = state.seeded ∧
      (setup.exchange state recent).received =
        (setup.wanted state.seeded).take (state.received.length + 1) := by
  rcases state.server.pushNext_cases setup.crypto setup.client.pubkey with
    ⟨nothing, -⟩ | ⟨client, post, changed, known, waitsNot, found, pushed,
      -, -, nowKnown⟩
  · have all :=
      (settled.hasNothing_iff inverse sound).mp (by
        rw [HasNothing, nothing])
    rw [exchange_nothing nothing]
    refine ⟨settled, rfl, ?_⟩
    rw [all, List.take_of_length_le (Nat.le_succ _)]
  · obtain ⟨own, isOwn, -, sameMark⟩ := settled
    rw [known] at isOwn
    cases isOwn
    obtain ⟨member, isDue, reaches⟩ :=
      sound.due_of_find? (sound.client client known) found
    have ahead : state.session.mark < post.order := by
      rw [sameMark] at isDue
      exact isDue
    have isPush :
        encodeDmPayload setup.crypto client.sharedSecret
            (pubHash setup.client.pubkey)
            (pubHash state.server.identity.pubkey) post.pushPlaintext =
          setup.pushOf post := by
      rw [pushOf, (sound.client client known).secret, sound.identity]
    rw [isPush] at pushed
    rcases changed.handleAck_cases setup.client.pubkey
        (setup.hashOf post) with
      ⟨-, unwanted⟩ | ⟨waiting, acked, isWaiting, -, acknowledged, -, -,
        isAcked⟩
    · exact absurd rfl (unwanted _ nowKnown)
    · rw [nowKnown] at isWaiting
      cases isWaiting
      have result :
          setup.exchange state recent =
            { state with
              server := acked
              session :=
                { state.session with syncSince := post.timestamp }
              received := state.received ++ [post.carried] } := by
        simp [RoomSyncSetup.exchange, RoomSyncSetup.step, pushed,
          sound.receive_next inverse member ahead, acknowledged,
          List.eraseIdx_append_of_length_le]
      rw [result]
      refine ⟨⟨_, isAcked, rfl, rfl⟩, rfl, ?_⟩
      have inOrder := sound.next_isPrefix member reaches ahead
      simpa using List.prefix_iff_eq_take.mp inOrder

/-- From equal watermarks, exchanges bring one post after the other. -/
theorem Settled.exchanges
    (inverse : setup.crypto.DecryptsEncrypted)
    (sound : setup.Sound state)
    (settled : setup.Settled state)
    (recents : List (List HistoryEntry)) :
    let last := recents.foldl setup.exchange state
    setup.Sound last ∧
      setup.Settled last ∧
      last.seeded = state.seeded ∧
      last.received =
        (setup.wanted state.seeded).take
          (state.received.length + recents.length) := by
  induction recents generalizing state with
  | nil =>
      refine ⟨sound, settled, rfl, ?_⟩
      exact List.prefix_iff_eq_take.mp sound.received_prefix
  | cons recent rest inductionHypothesis =>
      obtain ⟨nowSettled, sameSeeded, received⟩ :=
        settled.exchange inverse sound recent
      obtain ⟨lastSound, lastSettled, lastSeeded, lastReceived⟩ :=
        inductionHypothesis (sound.exchange inverse recent) nowSettled
      refine ⟨lastSound, lastSettled, lastSeeded.trans sameSeeded, ?_⟩
      rw [List.foldl_cons, lastReceived, sameSeeded, received,
        List.length_take, List.length_cons]
      rcases Nat.le_total (state.received.length + 1)
          (setup.wanted state.seeded).length with more | all
      · rw [Nat.min_eq_left more, Nat.add_assoc, Nat.add_comm 1]
      · rw [List.take_of_length_le (by omega),
          List.take_of_length_le (by omega)]

/-- After an answered login the watermarks are equal. -/
theorem LoginAnswered.settled
    (inverse : setup.crypto.DecryptsEncrypted)
    (agrees :
      setup.server.ecdhSharedSecret setup.crypto setup.client.pubkey =
        setup.secret)
    (sound : setup.Sound state)
    {timestamp : UInt32}
    (answered : setup.LoginAnswered state timestamp) :
    setup.Settled (setup.step state (.login timestamp)) := by
  unfold LoginAnswered at answered
  simp only [RoomSyncSetup.step]
  rcases login_registered inverse agrees sound timestamp with
    refused | ⟨changed, reply, client, accepted, -, -, known, -,
      watermark, waitsNot⟩
  · rw [refused] at answered
    cases answered
  · rw [accepted]
    exact ⟨client, known, waitsNot, watermark⟩

end Exchanges

/--
In every run of posts, logins, pushes and acknowledgements, delivered or lost at
any time, in which the posts come in order, are not overwritten before the client
received them and have acknowledgement hashes of their own, the client receives
the posts of others in order and without a gap, and the server's watermark is
never above the client's.  From an answered login on, exchanges without loss bring
one post after the other until the server has nothing to push.
-/
theorem room_sync_converges
    (setup : RoomSyncSetup)
    (inverse : setup.crypto.DecryptsEncrypted)
    (agrees :
      setup.server.ecdhSharedSecret setup.crypto setup.client.pubkey =
        setup.secret)
    (events : List RoomSyncEvent)
    (posted :
      Transition.Along setup.step
        (fun state event =>
          setup.Seeds state event ∧ setup.HashesApart state event)
        setup.start events) :
    Transition.Always setup.step setup.InSync setup.start events ∧
      ∀ timestamp,
        setup.LoginAnswered (Transition.run setup.step setup.start events)
            timestamp →
          ∀ recents,
            setup.Drains
              (setup.step (Transition.run setup.step setup.start events)
                (.login timestamp))
              recents := by
  have always :
      Transition.Always setup.step setup.Sound setup.start events :=
    Transition.always_of_along
      (fun _ _ sound guarded =>
        Sound.step inverse agrees sound guarded.1 guarded.2)
      (sound_start setup) posted
  refine
    ⟨Transition.Always.mono (fun _ sound => Sound.inSync inverse sound)
      always, ?_⟩
  intro timestamp answered recents
  have reached := always.last
  have settled := answered.settled inverse agrees reached
  have loggedIn := reached.login inverse agrees timestamp
  obtain ⟨lastSound, lastSettled, sameSeeded, received⟩ :=
    settled.exchanges inverse loggedIn recents
  refine ⟨received, ?_⟩
  rw [lastSettled.hasNothing_iff inverse lastSound, sameSeeded]

/-- The primitives on the frames of two posts whose acknowledgement hashes
collide. -/
def collidingPosts : CryptoRecord :=
  { ciphers :=
      [(Crypto.aesKey RecordedKeys.anaSecret,
          #v[0x01, 0x00, 0x00, 0x00, 0x00, 0x00, 0x00, 0x00, 0x70, 0x77,
             0x00, 0x00, 0x00, 0x00, 0x00, 0x00],
          #v[0x99, 0x71, 0x51, 0x6E, 0x7E, 0x2D, 0x77, 0x5E, 0x82, 0x79,
             0x46, 0x5F, 0xBC, 0xB3, 0x07, 0xBD]),
        (Crypto.aesKey RecordedKeys.anaSecret,
          #v[0x02, 0x00, 0x00, 0x00, 0x00, 0x00, 0x00, 0x00, 0x70, 0x77,
             0x00, 0x00, 0x00, 0x00, 0x00, 0x00],
          #v[0x26, 0x77, 0x35, 0x2E, 0x4C, 0xC3, 0x27, 0x37, 0x11, 0x32,
             0x4C, 0x61, 0x9D, 0x7A, 0xEF, 0xD2]),
        (Crypto.aesKey RecordedKeys.anaSecret,
          #v[0x02, 0x00, 0x00, 0x00, 0x83, 0x8D, 0x00, 0x00, 0x70, 0x77,
             0x00, 0x00, 0x00, 0x00, 0x00, 0x00],
          #v[0x06, 0xFE, 0x95, 0x8C, 0x5A, 0x3A, 0xB0, 0xEC, 0xF2, 0x50,
             0xCF, 0xA6, 0xB3, 0xC8, 0x5D, 0xCD]),
        (Crypto.aesKey RecordedKeys.anaSecret,
          #v[0x01, 0x00, 0x00, 0x00, 0x00, 0x00, 0x00, 0x02, 0xAA, 0xBB,
             0xCC, 0xDD, 0x01, 0x00, 0x00, 0x00],
          #v[0xCD, 0x24, 0x34, 0x01, 0x9B, 0x48, 0xE2, 0x3B, 0xD2, 0x67,
             0xFC, 0x2E, 0x58, 0x35, 0x3E, 0x83]),
        (Crypto.aesKey RecordedKeys.anaSecret,
          #v[0x02, 0x00, 0x00, 0x00, 0x00, 0x00, 0x00, 0x02, 0xAA, 0xBB,
             0xCC, 0xDD, 0x01, 0x00, 0x00, 0x00],
          #v[0xBF, 0x96, 0x9B, 0xB6, 0x2D, 0x07, 0x9C, 0x07, 0xF7, 0xB8,
             0x07, 0xF2, 0x95, 0xF8, 0xE2, 0x1D]),
        (Crypto.aesKey RecordedKeys.anaSecret,
          #v[0x83, 0x8D, 0x00, 0x00, 0x08, 0x0B, 0xEE, 0xF5, 0xA9, 0x68,
             0x69, 0x00, 0x00, 0x00, 0x00, 0x00],
          #v[0xEF, 0xAC, 0x15, 0x3B, 0x80, 0xF5, 0xEB, 0x35, 0x43, 0xD6,
             0x2F, 0x4D, 0x50, 0xA1, 0xA1, 0xF3]),
        (Crypto.aesKey RecordedKeys.anaSecret,
          #v[0x5E, 0x9F, 0x00, 0x00, 0x08, 0x0B, 0xEE, 0xF5, 0xA9, 0x68,
             0x69, 0x00, 0x00, 0x00, 0x00, 0x00],
          #v[0xD7, 0xCB, 0x2E, 0xC6, 0xF8, 0x10, 0x6E, 0x73, 0xFA, 0x64,
             0x48, 0x2F, 0x73, 0x07, 0xB9, 0xEC])]
    codes :=
      [(RecordedKeys.anaSecret.toList,
          [0x99, 0x71, 0x51, 0x6E, 0x7E, 0x2D, 0x77, 0x5E, 0x82, 0x79, 0x46,
           0x5F, 0xBC, 0xB3, 0x07, 0xBD],
          #v[0xB3, 0x5F, 0xB6, 0x6F, 0x85, 0xF7, 0x27, 0xAD, 0x9F, 0xF7,
             0xB9, 0xDE, 0x7C, 0x8C, 0x48, 0x75, 0xCE, 0xD8, 0x33, 0xD2,
             0x9B, 0x74, 0xD9, 0x8C, 0xF9, 0x13, 0x24, 0x16, 0x7A, 0xB6,
             0x3A, 0x25]),
        (RecordedKeys.anaSecret.toList,
          [0x26, 0x77, 0x35, 0x2E, 0x4C, 0xC3, 0x27, 0x37, 0x11, 0x32, 0x4C,
           0x61, 0x9D, 0x7A, 0xEF, 0xD2],
          #v[0x62, 0xE6, 0x2B, 0xF3, 0xEB, 0xDB, 0x32, 0x9A, 0xB0, 0xD6,
             0x38, 0x5A, 0xD5, 0x43, 0x35, 0x0A, 0xCC, 0xA8, 0x9E, 0xCD,
             0xF6, 0x02, 0x71, 0xFA, 0xEA, 0xA5, 0x3D, 0x71, 0x0F, 0x1A,
             0x0F, 0x79]),
        (RecordedKeys.anaSecret.toList,
          [0x06, 0xFE, 0x95, 0x8C, 0x5A, 0x3A, 0xB0, 0xEC, 0xF2, 0x50, 0xCF,
           0xA6, 0xB3, 0xC8, 0x5D, 0xCD],
          #v[0x48, 0xF5, 0x9B, 0xBC, 0xA5, 0xEF, 0xEB, 0x84, 0x96, 0xE6,
             0x9C, 0xDA, 0x8F, 0x71, 0xBA, 0x89, 0xE5, 0xDA, 0x63, 0x8F,
             0xDC, 0x6A, 0x07, 0xDF, 0x6F, 0x26, 0x64, 0x5A, 0xF5, 0xEE,
             0xE3, 0x3B]),
        (RecordedKeys.anaSecret.toList,
          [0xCD, 0x24, 0x34, 0x01, 0x9B, 0x48, 0xE2, 0x3B, 0xD2, 0x67, 0xFC,
           0x2E, 0x58, 0x35, 0x3E, 0x83],
          #v[0x0E, 0x63, 0xD5, 0x40, 0x7E, 0x24, 0xA2, 0xFC, 0x75, 0x7F,
             0x7F, 0x44, 0x7B, 0xBA, 0x32, 0xA7, 0x1D, 0x1E, 0x66, 0xBE,
             0xB5, 0x9E, 0x80, 0xB2, 0x40, 0xCE, 0x89, 0x12, 0x47, 0x51,
             0x5C, 0x4E]),
        (RecordedKeys.anaSecret.toList,
          [0xBF, 0x96, 0x9B, 0xB6, 0x2D, 0x07, 0x9C, 0x07, 0xF7, 0xB8, 0x07,
           0xF2, 0x95, 0xF8, 0xE2, 0x1D],
          #v[0x31, 0x5E, 0x1F, 0x2B, 0xC4, 0x02, 0xBE, 0xC3, 0xB2, 0x01,
             0xD0, 0x08, 0x16, 0x0F, 0x41, 0x38, 0x43, 0x54, 0x7A, 0x60,
             0x6C, 0x6C, 0xF8, 0x12, 0x48, 0x83, 0xEA, 0xC2, 0x0D, 0xBF,
             0xDF, 0xF4]),
        (RecordedKeys.anaSecret.toList,
          [0xEF, 0xAC, 0x15, 0x3B, 0x80, 0xF5, 0xEB, 0x35, 0x43, 0xD6, 0x2F,
           0x4D, 0x50, 0xA1, 0xA1, 0xF3],
          #v[0x2F, 0x03, 0x3F, 0x1E, 0xF6, 0xEF, 0x2B, 0x41, 0x1A, 0x88,
             0x9A, 0xCC, 0x5B, 0x18, 0x7C, 0x0D, 0xF5, 0xEB, 0x2D, 0x61,
             0x98, 0x65, 0xF5, 0x7A, 0x01, 0x0C, 0xC1, 0x04, 0x46, 0x68,
             0xA2, 0x8A]),
        (RecordedKeys.anaSecret.toList,
          [0xD7, 0xCB, 0x2E, 0xC6, 0xF8, 0x10, 0x6E, 0x73, 0xFA, 0x64, 0x48,
           0x2F, 0x73, 0x07, 0xB9, 0xEC],
          #v[0x70, 0xC5, 0x8B, 0xFB, 0xCF, 0xC0, 0x46, 0x45, 0x9B, 0xCC,
             0x3C, 0xED, 0x26, 0x6E, 0x4F, 0x05, 0xD5, 0x14, 0x64, 0x6A,
             0xA3, 0xD8, 0x98, 0xC9, 0xEE, 0x5E, 0x46, 0x76, 0xA2, 0x15,
             0x20, 0x2D])]
    digests :=
      [([0x83, 0x8D, 0x00, 0x00, 0x08, 0x0B, 0xEE, 0xF5, 0xA9, 0x68, 0x69] ++
            RecordedKeys.device.pubkey.toList,
          #v[0xCF, 0x4F, 0x09, 0xA6, 0xDD, 0xC7, 0xC2, 0x5D, 0x7F, 0x69,
             0xA9, 0x44, 0xEB, 0x0C, 0x5E, 0xDA, 0x80, 0x5D, 0x6E, 0x19,
             0x21, 0x15, 0x22, 0x7B, 0xCE, 0x87, 0x6B, 0x77, 0x71, 0x96,
             0xDD, 0x7C]),
        ([0x5E, 0x9F, 0x00, 0x00, 0x08, 0x0B, 0xEE, 0xF5, 0xA9, 0x68, 0x69] ++
            RecordedKeys.device.pubkey.toList,
          #v[0xCF, 0x4F, 0x09, 0xA6, 0x93, 0x05, 0x32, 0xFA, 0x7B, 0x3B,
             0x8B, 0xA1, 0xD3, 0x6F, 0x0A, 0x2F, 0x88, 0xD9, 0xEB, 0x8E,
             0xF7, 0xA4, 0x5E, 0xA4, 0x2D, 0xF4, 0x87, 0x47, 0xAE, 0x06,
             0xAC, 0x67])]
    agreements :=
      RecordedKeys.agreements ++
        [(Vector.replicate 32 0x0C, RecordedKeys.device.pubkey,
          RecordedKeys.anaSecret)] }

/-- A server whose guests may post, and a client that is one of them. -/
def guestRoom : RoomSyncSetup :=
  { crypto := collidingPosts.crypto
    server :=
      { seed := Vector.replicate 32 0x0C
        pubkey := RecordedKeys.anaPubkey }
    client := RecordedKeys.device
    adminPassword := [0x61]
    guestPassword := [0x70, 0x77]
    allowReadOnly := false
    password := [0x70, 0x77]
    convHash := 0x0B
    session := .empty }

/-- The post `hi` of somebody else. -/
def postHi
    (timestamp : UInt32) :
    RoomSyncEvent :=
  .seed RecordedKeys.boPubkey timestamp [0x68, 0x69]

/-- Both sides of the room share a secret. -/
theorem guestRoom_agrees :
    guestRoom.server.ecdhSharedSecret guestRoom.crypto
        guestRoom.client.pubkey =
      guestRoom.secret := by
  decide +kernel

/-- A later post is as it should be while the queue has a free place. -/
theorem seeds_of_free
    {state : RoomSync}
    {timestamp : UInt32}
    (late : 0 < timestamp)
    (behind : ∀ post ∈ state.seeded, post.timestamp < timestamp)
    (free : state.server.visited.head? = some .empty) :
    guestRoom.Seeds state (postHi timestamp) := by
  refine ⟨late, behind, by simp, ?_⟩
  intro oldest isOldest used
  rw [free] at isOldest
  cases isOldest
  cases used

/-- The room after some events. -/
def guestRoomAfter
    (events : List RoomSyncEvent) :
    RoomSync :=
  Transition.run guestRoom.step guestRoom.start events

/-- A post whose push is lost, and what follows the next login. -/
theorem room_sync_example :
    Transition.Always guestRoom.step guestRoom.InSync guestRoom.start
        [postHi 36227, .login 1, .push, .lose 0] ∧
      guestRoom.Drains
        (guestRoom.step
          (Transition.run guestRoom.step guestRoom.start
            [postHi 36227, .login 1, .push, .lose 0])
          (.login 2))
        [[]] := by
  have converges :=
    room_sync_converges guestRoom collidingPosts.decryptsEncrypted
      guestRoom_agrees [postHi 36227, .login 1, .push, .lose 0]
      ⟨⟨seeds_of_free (by decide) (by simp [start]) (by decide +kernel),
          by simp [HashesApart, postHi, others, start]⟩,
        ⟨trivial, trivial⟩, ⟨trivial, trivial⟩, ⟨trivial, trivial⟩,
        trivial⟩
  refine ⟨converges.1, converges.2 2 ?_ [[]]⟩
  unfold LoginAnswered
  decide +kernel

/-- The acknowledgement of a post arrives while the server waits for that of
another with the same hash. -/
def hashesCollide : List RoomSyncEvent :=
  [postHi 36227, postHi 40798, .login 1, .push, .deliver 0 [], .login 2,
    .push, .deliverAck 0, .lose 0]

/-- A push arrives after the next login, and nothing is lost. -/
def pushDelayed : List RoomSyncEvent :=
  [postHi 36227, .login 1, .push, .login 2, .deliver 0 [], .deliverAck 0]

/--
A colliding acknowledgement moves the server's watermark past a post that the
client never receives.  A push that arrives late leaves the server something to
push although the client has received everything and nothing is on its way.
-/
theorem room_sync_diverges :
    (¬ ∀ (setup : RoomSyncSetup) (events : List RoomSyncEvent),
      setup.crypto.DecryptsEncrypted →
      setup.server.ecdhSharedSecret setup.crypto setup.client.pubkey =
          setup.secret →
        Transition.Along setup.step setup.Seeds setup.start events →
          Transition.Always setup.step setup.InSync setup.start events) ∧
      (((guestRoomAfter hashesCollide).server.clientOf
              guestRoom.client.pubkey).map DoubleClient.syncSince =
            some 40798 ∧
        (guestRoomAfter hashesCollide).session.syncSince = 36227 ∧
        (guestRoomAfter hashesCollide).received.length = 1 ∧
        (guestRoom.wanted (guestRoomAfter hashesCollide).seeded).length =
          2 ∧
        guestRoom.HasNothing (guestRoomAfter hashesCollide)) ∧
      (guestRoomAfter pushDelayed).pushes = [] ∧
      (guestRoomAfter pushDelayed).acks = [] ∧
      (guestRoomAfter pushDelayed).received =
        guestRoom.wanted (guestRoomAfter pushDelayed).seeded ∧
      ¬ guestRoom.HasNothing (guestRoomAfter pushDelayed) := by
  have collided :
      ((guestRoomAfter hashesCollide).server.clientOf
              guestRoom.client.pubkey).map DoubleClient.syncSince =
            some 40798 ∧
        (guestRoomAfter hashesCollide).session.syncSince = 36227 ∧
        (guestRoomAfter hashesCollide).received.length = 1 ∧
        (guestRoom.wanted (guestRoomAfter hashesCollide).seeded).length =
          2 ∧
        guestRoom.HasNothing (guestRoomAfter hashesCollide) := by
    decide +kernel
  refine ⟨fun always => ?_, collided, by decide +kernel⟩
  obtain ⟨serverAhead, clientBehind, -⟩ := collided
  have last : guestRoom.InSync (guestRoomAfter hashesCollide) :=
    (always guestRoom hashesCollide collidingPosts.decryptsEncrypted
      guestRoom_agrees
      ⟨seeds_of_free (by decide) (by simp [start]) (by decide +kernel),
        seeds_of_free (by decide) (by decide +kernel) (by decide +kernel),
        trivial, trivial, trivial, trivial, trivial, trivial, trivial,
        trivial⟩).last
  obtain ⟨client, known, isAhead⟩ := Option.map_eq_some_iff.mp serverAhead
  have behind := last.behind client known
  rw [isAhead, clientBehind] at behind
  exact absurd behind (by decide)

end RoomSyncSetup

end MeshCadet
