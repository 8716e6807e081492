import MeshCadet.ByteParser
import MeshCadet.InboundDms
import MeshCadet.Transition

namespace MeshCadet

/-!
# The inbound replay guard

A contact's guard is a high-water timestamp and a ring of the fingerprints it
accepted last, stored as a blob between messages.  One invariant ties both to
the list of all acceptances; what the guard accepts and rejects follows from it,
whatever the timestamps do and however often the state goes through its stored
form.
-/

open ByteParser RingBuffer

namespace InboundReplayState

/-- The blob a state is stored as. -/
def encode
    (state : InboundReplayState) :
    List UInt8 :=
  (Bytes.u32ToLeBytes state.lastTs).toList ++
    (state.ring.slots.toList.flatMap Vector.toList ++
      ([UInt8.ofNat state.ring.head] ++
        [UInt8.ofNat state.ring.count]))

/-- The slots of a ring, from the fingerprints read. -/
def readSlots
    (fingerprints : List AckHash) :
    Vector AckHash replayRingLen :=
  Vector.ofFn fun index =>
    fingerprints.getD index (Vector.replicate 4 0)

/-- Read a stored state; a position or a count past the ring rejects it. -/
def parser : Parser InboundReplayState := do
  let lastTs ← u32Le
  let fingerprints ← times replayRingLen (bytes 4)
  let head ← byte
  let count ← byte
  if inside : head.toNat < replayRingLen ∧ count.toNat ≤ replayRingLen then
    pure
      { lastTs := lastTs
        ring :=
          { slots := readSlots fingerprints
            head := head.toNat
            count := count.toNat
            headInside := inside.1
            fits := inside.2 } }
  else
    failure

/-- The state a blob stores. -/
def decode
    (blob : List UInt8) :
    Option InboundReplayState :=
  (parser blob).map Prod.fst

theorem readSlots_toList
    (slots : Vector AckHash replayRingLen) :
    readSlots slots.toList = slots := by
  apply Vector.ext
  intro index inside
  simp [readSlots]

/-- A state is read back from its blob, whatever follows it. -/
theorem reads_state
    (state : InboundReplayState) :
    Reads parser state.encode state := by
  obtain ⟨lastTs, slots, head, count, headInside, fits⟩ := state
  have headByte : (UInt8.ofNat head).toNat = head := by
    rw [UInt8.toNat_ofNat', Nat.mod_eq_of_lt]
    exact headInside.trans (by decide)
  have countByte : (UInt8.ofNat count).toNat = count := by
    rw [UInt8.toNat_ofNat', Nat.mod_eq_of_lt]
    exact fits.trans_lt (by decide)
  have readsSlots :
      Reads (times replayRingLen (bytes 4))
        (slots.toList.flatMap Vector.toList) slots.toList := by
    have each :=
      @reads_times _ (bytes 4) Vector.toList slots.toList
        (fun fingerprint _ => reads_bytes fingerprint)
    rwa [Vector.length_toList] at each
  unfold parser encode
  refine Reads.bind (reads_u32Le lastTs) ?_
  refine Reads.bind readsSlots ?_
  refine Reads.bind (reads_byte _) ?_
  rw [← List.append_nil [UInt8.ofNat count]]
  refine Reads.bind (reads_byte _) ?_
  intro rest
  simp only [headByte, countByte, headInside, fits, and_self, dite_true,
    readSlots_toList]
  rfl

theorem decode_encode
    (state : InboundReplayState) :
    decode state.encode = some state := by
  have reads := reads_state state []
  rw [List.append_nil] at reads
  rw [decode, reads]
  rfl

/-- A rejected message is remembered, and nothing changes. -/
theorem eq_of_rejected
    {state after : InboundReplayState}
    {timestamp : UInt32}
    {fingerprint : AckHash}
    (rejected :
      state.checkAndRecordInbound timestamp fingerprint =
        (after, false)) :
    after = state ∧ state.ring.contains fingerprint = true := by
  unfold checkAndRecordInbound at rejected
  split at rejected
  · cases rejected
  · split at rejected
    · next remembered =>
      cases rejected
      exact ⟨rfl, remembered⟩
    · cases rejected

end InboundReplayState

/-- What happens to a contact's guard. -/
inductive ReplayEvent where
  | present (timestamp : UInt32) (fingerprint : AckHash)
  | reload
deriving Repr, DecidableEq

/-- The guard of a contact and all it accepted, oldest first. -/
structure ReplayLog where
  state : InboundReplayState
  accepted : List (UInt32 × AckHash)

namespace ReplayLog

/-- Nothing was presented yet. -/
def start : ReplayLog :=
  { state := InboundReplayState.empty
    accepted := [] }

/-- Present a message, or store the state and load it again. -/
def step
    (log : ReplayLog) :
    ReplayEvent → ReplayLog
  | .present timestamp fingerprint =>
      let (state, accepted) :=
        log.state.checkAndRecordInbound timestamp fingerprint
      { state := state
        accepted :=
          if accepted then
            log.accepted ++ [(timestamp, fingerprint)]
          else
            log.accepted }
  | .reload =>
      { log with
        state :=
          (InboundReplayState.decode log.state.encode).getD
            InboundReplayState.empty }

/-- The sixteen messages accepted last, oldest first. -/
def recent
    (log : ReplayLog) :
    List (UInt32 × AckHash) :=
  log.accepted.drop (log.accepted.length - replayRingLen)

/--
The mark is the largest accepted timestamp and the ring remembers the accepted
fingerprints.
-/
structure Tracks
    (log : ReplayLog) :
    Prop where
  below : ∀ message ∈ log.accepted, message.1 ≤ log.state.lastTs
  reached :
    log.state.lastTs = 0 ∨
      ∃ message ∈ log.accepted, message.1 = log.state.lastTs
  remembers : log.state.ring.Remembers (log.accepted.map Prod.snd)

theorem tracks_start :
    start.Tracks :=
  { below := by simp [start]
    reached := .inl rfl
    remembers := SeenRing.remembers_empty _ _ }

theorem step_reload
    (log : ReplayLog) :
    log.step .reload = log := by
  simp [step, InboundReplayState.decode_encode]

/-- An acceptance extends the list and keeps the invariant. -/
theorem Tracks.accept
    {log : ReplayLog}
    (tracks : log.Tracks)
    {timestamp : UInt32}
    {fingerprint : AckHash}
    {after : InboundReplayState}
    (accepted :
      log.state.checkAndRecordInbound timestamp fingerprint =
        (after, true)) :
    ReplayLog.Tracks
      { state := after
        accepted := log.accepted ++ [(timestamp, fingerprint)] } := by
  obtain ⟨grows, covers, inserted⟩ :=
    InboundReplayState.checkAndRecordInbound_accepted accepted
  refine ⟨?_, ?_, ?_⟩
  · intro message member
    rcases List.mem_append.mp member with earlier | isNew
    · exact UInt32.le_trans (tracks.below message earlier) grows
    · obtain rfl := List.mem_singleton.mp isNew
      exact covers
  · by_cases newer : log.state.lastTs < timestamp
    · rw [InboundReplayState.checkAndRecordInbound, if_pos newer]
        at accepted
      cases accepted
      exact .inr ⟨(timestamp, fingerprint), by simp, rfl⟩
    · rw [InboundReplayState.checkAndRecordInbound, if_neg newer]
        at accepted
      split at accepted
      · cases accepted
      · cases accepted
        rcases tracks.reached with isZero | ⟨message, member, same⟩
        · exact .inl isZero
        · exact .inr ⟨message, List.mem_append_left _ member, same⟩
  · rw [inserted, List.map_append]
    exact tracks.remembers.insert fingerprint

/-- Every event keeps the invariant. -/
theorem Tracks.step
    {log : ReplayLog}
    (tracks : log.Tracks)
    (event : ReplayEvent) :
    (log.step event).Tracks := by
  cases event with
  | reload =>
      rwa [step_reload]
  | present timestamp fingerprint =>
      cases decided :
          log.state.checkAndRecordInbound timestamp fingerprint with
      | mk after verdict =>
          cases verdict with
          | true =>
              simpa [ReplayLog.step, decided] using tracks.accept decided
          | false =>
              obtain ⟨rfl, -⟩ :=
                InboundReplayState.eq_of_rejected decided
              simpa [ReplayLog.step, decided] using tracks

theorem tracks_run
    (events : List ReplayEvent) :
    (Transition.run ReplayLog.step start events).Tracks :=
  (@Transition.always_of_invariant _ _ ReplayLog.step Tracks
    (fun _ event tracks => tracks.step event) _ tracks_start
    events).last

/-- The ring holds exactly the fingerprints accepted last. -/
theorem Tracks.contains_iff
    {log : ReplayLog}
    (tracks : log.Tracks)
    (fingerprint : AckHash) :
    log.state.ring.contains fingerprint = true ↔
      ∃ message ∈ log.recent, message.2 = fingerprint := by
  have sameKeys := tracks.remembers.perm
  rw [List.length_map, ← List.map_drop] at sameKeys
  rw [SeenRing.contains, List.contains_iff_mem, sameKeys.mem_iff,
    List.mem_map]
  rfl

/--
In every run from the empty state, messages and reloads in any order: the mark
is the largest accepted timestamp and never falls; the sixteen messages accepted
last are rejected when presented again; a rejected message has the fingerprint
of one of them and changes nothing, so a fingerprint not accepted before is
accepted at any timestamp; and the stored form reads back.
-/
theorem replay_guard_is_exact
    (events : List ReplayEvent) :
    let log := Transition.run ReplayLog.step start events
    ((∀ message ∈ log.accepted, message.1 ≤ log.state.lastTs) ∧
        (log.accepted = [] ∧ log.state.lastTs = 0 ∨
          ∃ message ∈ log.accepted, message.1 = log.state.lastTs) ∧
        ∀ event, log.state.lastTs ≤ (log.step event).state.lastTs) ∧
      (∀ message ∈ log.recent,
        (log.state.checkAndRecordInbound message.1 message.2).2 =
          false) ∧
      (∀ timestamp fingerprint,
        (log.state.checkAndRecordInbound timestamp fingerprint).2 =
            false →
          (log.state.checkAndRecordInbound timestamp fingerprint).1 =
              log.state ∧
            ∃ message ∈ log.recent, message.2 = fingerprint) ∧
      (∀ timestamp fingerprint,
        (∀ message ∈ log.accepted, message.2 ≠ fingerprint) →
          (log.state.checkAndRecordInbound timestamp fingerprint).2 =
            true) ∧
      InboundReplayState.decode log.state.encode = some log.state := by
  intro log
  have tracks : log.Tracks := tracks_run events
  have rejected
      (timestamp : UInt32)
      (fingerprint : AckHash)
      (isRejected :
        (log.state.checkAndRecordInbound timestamp fingerprint).2 =
          false) :
      (log.state.checkAndRecordInbound timestamp fingerprint).1 =
          log.state ∧
        ∃ message ∈ log.recent, message.2 = fingerprint := by
    obtain ⟨unchanged, remembered⟩ :=
      InboundReplayState.eq_of_rejected
        (Prod.ext rfl isRejected :
          log.state.checkAndRecordInbound timestamp fingerprint =
            (_, false))
    exact ⟨unchanged, (tracks.contains_iff fingerprint).mp remembered⟩
  refine ⟨⟨tracks.below, ?_, ?_⟩, ?_, rejected, ?_,
    InboundReplayState.decode_encode log.state⟩
  · rcases tracks.reached with isZero | someMessage
    · cases isEmpty : log.accepted with
      | nil =>
          exact .inl ⟨rfl, isZero⟩
      | cons oldest others =>
          right
          have isAccepted : oldest ∈ log.accepted := by
            simp [isEmpty]
          refine ⟨oldest, by simp, ?_⟩
          exact UInt32.le_antisymm (tracks.below oldest isAccepted)
            (isZero ▸ UInt32.zero_le)
    · exact .inr someMessage
  · intro event
    cases event with
    | reload =>
        rw [step_reload]
        exact UInt32.le_refl _
    | present timestamp fingerprint =>
        cases decided :
            log.state.checkAndRecordInbound timestamp fingerprint with
        | mk after verdict =>
            have nextState :
                (log.step (.present timestamp fingerprint)).state =
                  after := by
              simp [ReplayLog.step, decided]
            rw [nextState]
            cases verdict with
            | true =>
                exact
                  (InboundReplayState.checkAndRecordInbound_accepted
                    decided).1
            | false =>
                rw [(InboundReplayState.eq_of_rejected decided).1]
                exact UInt32.le_refl _
  · intro message isRecent
    rw [InboundReplayState.checkAndRecordInbound_rejected]
    · exact tracks.below message (List.mem_of_mem_drop isRecent)
    · exact (tracks.contains_iff message.2).mpr ⟨message, isRecent, rfl⟩
  · intro timestamp fingerprint isNew
    by_contra notAccepted
    obtain ⟨-, message, isRecent, same⟩ :=
      rejected timestamp fingerprint (by simpa using notAccepted)
    exact isNew message (List.mem_of_mem_drop isRecent) same

end ReplayLog

end MeshCadet
