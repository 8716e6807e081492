import MeshCadet.HostFrames
import MeshCadet.RspPayloads

namespace MeshCadet

open Resync

/-!
# The device's frames among its log

The device logs to the line that carries its frames.  The host returns all frames
exactly when none is larger than the reader allows and no log bytes that look like
a header keep it waiting in front of a frame.
-/

/-- A byte of the log, or a frame of the device. -/
inductive LineItem where
  | noise (byte : UInt8)
  | frame (frame : HostFrame)
deriving Repr, DecidableEq

namespace LineItem

/-- The bytes on the line. -/
def stream :
    List LineItem → List UInt8
  | [] => []
  | .noise byte :: rest => byte :: stream rest
  | .frame sent :: rest =>
      encodeFrame sent.frameType sent.payload ++ stream rest

/-- The frames of the device. -/
def deviceFrames :
    List LineItem → List HostFrame
  | [] => []
  | .noise _ :: rest => deviceFrames rest
  | .frame sent :: rest => sent :: deviceFrames rest

/-- No byte of the log begins a frame, alone or with what follows it. -/
def NoFalseFrame :
    List LineItem → Prop
  | [] => True
  | .noise byte :: rest =>
      (∀ frame : HostFrame,
        frame.payload.length < 65536 →
        ¬ encodeFrame frame.frameType frame.payload <+:
          byte :: stream rest) ∧
        NoFalseFrame rest
  | .frame _ :: rest => NoFalseFrame rest

/-- The bytes begin with a header that claims more than there is. -/
def ClaimsMore
    (bytes : List UInt8) :
    Prop :=
  [0x4D, 0x43] <+: bytes ∧
    claimedLen bytes ≤ maxValidFramePayloadLen ∧
      bytes.length < 7 + claimedLen bytes

/-- No frame stands behind log bytes that claim more than still comes. -/
def Unblocked :
    List LineItem → Prop
  | [] => True
  | .noise byte :: rest =>
      (ClaimsMore (byte :: stream rest) → deviceFrames rest = []) ∧
        Unblocked rest
  | .frame _ :: rest => Unblocked rest

/-- Without frames none stands behind the log. -/
theorem unblocked_of_no_frames
    {items : List LineItem}
    (none : deviceFrames items = []) :
    Unblocked items := by
  induction items with
  | nil => trivial
  | cons item rest inductionHypothesis =>
      cases item with
      | noise byte => exact ⟨fun _ => none, inductionHypothesis none⟩
      | frame sent => cases none

/-- A stream with a frame has room for a header. -/
theorem long_of_frames
    {items : List LineItem}
    (some : deviceFrames items ≠ []) :
    7 ≤ (stream items).length := by
  induction items with
  | nil => exact absurd rfl some
  | cons item rest inductionHypothesis =>
      cases item with
      | noise byte =>
          rw [stream, List.length_cons]
          exact Nat.le_succ_of_le (inductionHypothesis some)
      | frame sent =>
          rw [stream, List.length_append, length_encodeFrame]
          omega

/-- A stream that claims more than there is has to grow. -/
theorem head_of_claimsMore
    {bytes : List UInt8}
    (claims : ClaimsMore bytes) :
    head bytes = .wait := by
  obtain ⟨⟨rest, rfl⟩, small, fewer⟩ := claims
  rw [List.cons_append, List.singleton_append] at small fewer ⊢
  rw [head_magic, if_neg (Nat.not_lt_of_le small), if_pos fewer, ite_self]

/-- A stream with room for a header that has to grow claims more than there is. -/
theorem claimsMore_of_head
    {bytes : List UInt8}
    (long : 7 ≤ bytes.length)
    (waits : head bytes = .wait) :
    ClaimsMore bytes := by
  match bytes, long with
  | [], long => simp at long
  | [_], long => simp at long
  | first :: second :: rest, long =>
      rw [head] at waits
      split at waits
      · cases waits
      rename_i isMagic
      rw [not_not] at isMagic
      rw [if_neg (by omega)] at waits
      split at waits
      · cases waits
      rename_i small
      split at waits
      · rename_i fewer
        refine ⟨?_, Nat.le_of_not_lt small, fewer⟩
        rw [isMagic.1, isMagic.2]
        exact List.prefix_append [0x4D, 0x43] rest
      · split at waits <;> cases waits

/-- What is found in a stream of small sents, if the log fakes none. -/
theorem framesOf_stream
    {items : List LineItem}
    (noFalse : NoFalseFrame items)
    (small :
      ∀ sent ∈ deviceFrames items,
        sent.payload.length ≤ maxValidFramePayloadLen) :
    framesOf (stream items) = (deviceFrames items).map .ok ↔
      Unblocked items := by
  induction items with
  | nil =>
      exact iff_of_true framesOf_nil trivial
  | cons item rest inductionHypothesis =>
      cases item with
      | noise byte =>
          have later := inductionHypothesis noFalse.2 small
          cases front : head (byte :: stream rest) with
          | wait =>
              rw [stream, framesOf_wait front, deviceFrames, Unblocked]
              constructor
              · intro nothing
                have none : deviceFrames rest = [] :=
                  List.map_eq_nil_iff.mp nothing.symm
                exact ⟨fun _ => none, unblocked_of_no_frames none⟩
              · rintro ⟨unblocked, -⟩
                by_cases none : deviceFrames rest = []
                · rw [none]
                  rfl
                · have long := long_of_frames none
                  have longer : 7 ≤ (byte :: stream rest).length :=
                    Nat.le_succ_of_le long
                  have claims := claimsMore_of_head longer front
                  exact absurd (unblocked claims) none
          | skip =>
              have claimsNot : ¬ ClaimsMore (byte :: stream rest) := by
                intro claims
                rw [head_of_claimsMore claims] at front
                cases front
              rw [stream, framesOf_skip front, deviceFrames, Unblocked,
                later]
              exact (and_iff_right fun claims =>
                absurd claims claimsNot).symm
          | frame sent =>
              have begins := head_frame front
              have few : sent.payload.length < 65536 :=
                Nat.lt_of_le_of_lt begins.1 (by decide)
              exact absurd begins.2 (noFalse.1 sent few)
      | frame sent =>
          have isSmall := small sent List.mem_cons_self
          have later :=
            inductionHypothesis noFalse fun other member =>
              small other (List.mem_cons_of_mem sent member)
          have front :=
            head_encodeFrame isSmall sent.frameType (stream rest)
          rw [stream, framesOf_frame front, deviceFrames, Unblocked,
            List.map_cons, ← length_encodeFrame sent.frameType,
            List.drop_left, List.cons_eq_cons, and_iff_right rfl, later]

/-- The device's frames are found when they are small and nothing blocks them. -/
theorem framesOf_stream_iff
    {items : List LineItem}
    (noFalse : NoFalseFrame items) :
    framesOf (stream items) = (deviceFrames items).map .ok ↔
      (∀ sent ∈ deviceFrames items,
        sent.payload.length ≤ maxValidFramePayloadLen) ∧
        Unblocked items := by
  constructor
  · intro found
    have small :
        ∀ sent ∈ deviceFrames items,
          sent.payload.length ≤ maxValidFramePayloadLen := by
      intro sent member
      have isFound : .ok sent ∈ framesOf (stream items) := by
        rw [found]
        exact List.mem_map_of_mem member
      obtain ⟨_, isOk, isSmall⟩ := small_of_framesOf isFound
      cases isOk
      exact isSmall
    exact ⟨small, (framesOf_stream noFalse small).mp found⟩
  · rintro ⟨small, unblocked⟩
    exact (framesOf_stream noFalse small).mpr unblocked

/-- A line without a log carries its frames. -/
theorem deviceFrames_frames
    (frames : List HostFrame) :
    deviceFrames (frames.map .frame) = frames := by
  induction frames with
  | nil => rfl
  | cons first rest inductionHypothesis =>
      rw [List.map_cons, deviceFrames, inductionHypothesis]

/-- A line without a log fakes no frame, and nothing stands in front of one. -/
theorem no_log_frames
    (frames : List HostFrame) :
    NoFalseFrame (frames.map .frame) ∧ Unblocked (frames.map .frame) := by
  induction frames with
  | nil => exact ⟨trivial, trivial⟩
  | cons first rest inductionHypothesis => exact inductionHypothesis

end LineItem

open LineItem

/--
Whatever the chunks, successive calls return the device's frames, each once and in
order, exactly when all payloads are small enough for the reader and no frame
stands behind log bytes that claim more than still comes.
-/
theorem recvFrame_delivers_iff
    {items : List LineItem}
    {link : Link UInt8}
    (noFalse : NoFalseFrame items)
    (carries : link.stream = stream items) :
    Delivers recvPass link ((deviceFrames items).map .ok) ↔
      (∀ frame ∈ deviceFrames items,
        frame.payload.length ≤ maxValidFramePayloadLen) ∧
        Unblocked items := by
  rw [recvPass_reads.delivers_iff, carries]
  exact framesOf_stream_iff noFalse

/-- An acknowledgement, cut behind its first byte, after a log byte. -/
theorem recvFrame_delivers_okay :
    Delivers recvPass
      { buffer := [0x4D]
        chunks := [[0x4D], [], (encodeFrame 0x80 []).tail] }
      [.ok { frameType := 0x80, payload := [] }] := by
  let items : List LineItem :=
    [.noise 0x4D, .frame { frameType := 0x80, payload := [] }]
  have noFalse : NoFalseFrame items := by
    refine ⟨?_, trivial⟩
    rintro ⟨frameType, payload⟩ - isPrefix
    simp [stream, encodeFrame, frameBody] at isPrefix
  have carries :
      Link.stream
          { buffer := [0x4D]
            chunks := [[0x4D], [], (encodeFrame 0x80 []).tail] } =
        stream items := by
    simp [Link.stream, items, stream, encodeFrame, frameBody]
  refine (recvFrame_delivers_iff noFalse carries).mpr ⟨?_, ?_⟩
  · simp [items, deviceFrames]
  · refine ⟨?_, trivial⟩
    rintro ⟨isPrefix, -, -⟩
    simp [stream, encodeFrame, frameBody] at isPrefix

/-- The type of the answer for a room. -/
def frameRspRoom : UInt8 :=
  0x8B

/-- The type of the frame behind the last room. -/
def frameRspRoomsDone : UInt8 :=
  0x8C

/-- The frames that answer a query for the rooms. -/
def handleQueryRooms
    (config : ProvisionedConfig) :
    List HostFrame :=
  (config.roomExtras.elements.zipIdx.map fun (extra, index) =>
    { frameType := frameRspRoom
      payload := encodeRspRoom config extra index }) ++
    [{ frameType := frameRspRoomsDone, payload := [] }]

/-- The reader returns frames without a log exactly when all are small. -/
theorem delivers_frames_iff
    {frames : List HostFrame}
    {link : Link UInt8}
    (carries : link.stream = stream (frames.map .frame)) :
    Delivers recvPass link (frames.map .ok) ↔
      ∀ sent ∈ frames,
        sent.payload.length ≤ maxValidFramePayloadLen := by
  obtain ⟨noFalse, unblocked⟩ := no_log_frames frames
  have exactly := framesOf_stream_iff noFalse
  rw [deviceFrames_frames, and_iff_left unblocked] at exactly
  rw [recvPass_reads.delivers_iff, carries, exactly]

/--
The reader returns the whole answer to a query for the rooms exactly when every
room's path and name are together at most 94 bytes.
-/
theorem handleQueryRooms_delivered_iff
    {config : ProvisionedConfig}
    {link : Link UInt8}
    (carries :
      link.stream = stream ((handleQueryRooms config).map .frame)) :
    Delivers recvPass link ((handleQueryRooms config).map .ok) ↔
      ∀ extra ∈ config.roomExtras.elements,
        extra.usedPath.length + (config.roomName extra).length ≤ 94 := by
  have bound : maxValidFramePayloadLen = 134 := rfl
  rw [delivers_frames_iff carries]
  constructor
  · intro small extra member
    obtain ⟨index, here, isExtra⟩ := List.mem_iff_getElem.mp member
    have isSmall :=
      small
        { frameType := frameRspRoom
          payload := encodeRspRoom config extra index }
        (by
          refine List.mem_append_left _ (List.mem_map.mpr ?_)
          exact ⟨(extra, index), by
            rw [List.mem_zipIdx_iff_getElem?, ← isExtra]
            exact List.getElem?_eq_getElem here, rfl⟩)
    simp only [length_encodeRspRoom] at isSmall
    omega
  · intro few sent member
    rcases List.mem_append.mp member with isRoom | isDone
    · obtain ⟨⟨extra, index⟩, isAt, rfl⟩ := List.mem_map.mp isRoom
      have isMember := List.fst_mem_of_mem_zipIdx isAt
      have fewer := few extra isMember
      simp only [length_encodeRspRoom]
      omega
    · rw [List.mem_singleton.mp isDone]
      exact Nat.zero_le _

/-- A contact with the longest name. -/
def farRoomContact : Contact :=
  { pubkey := Vector.replicate 32 0x5A
    telemetryEnable := false
    role := roleRoom
    displayName := Vector.replicate 32 0x52
    displayNameLen := 32 }

/-- A room at the end of the longest path. -/
def farRoom : RoomExtra :=
  { pubkey := Vector.replicate 32 0x5A
    guestPassword := Vector.replicate maxLoginPasswordLen 0
    guestPasswordLen := 0
    syncSince := 0
    permissions := 0
    outPath := Vector.replicate maxPathSize 0x11
    outPathLen := 64 }

/-- A configuration with that room only. -/
def farRoomConfig : ProvisionedConfig :=
  { ProvisionedConfig.empty with
    contacts :=
      { elements := [farRoomContact]
        fits := by decide }
    roomExtras :=
      { elements := [farRoom]
        fits := by decide } }

/-- The answer for a room with the longest path and name is not returned. -/
theorem farRoom_undelivered :
    (encodeRspRoom farRoomConfig farRoom 0).length = 136 ∧
      NoFalseFrame ((handleQueryRooms farRoomConfig).map .frame) ∧
      ¬ Delivers recvPass
        { buffer := []
          chunks := [stream ((handleQueryRooms farRoomConfig).map .frame)] }
        ((handleQueryRooms farRoomConfig).map .ok) := by
  have named : (farRoomConfig.roomName farRoom).length = 32 := by
    decide
  have reached : farRoom.usedPath.length = 64 := by
    decide
  refine ⟨?_, (no_log_frames _).1, ?_⟩
  · rw [length_encodeRspRoom, named, reached]
  · intro delivered
    have few :=
      (handleQueryRooms_delivered_iff (List.append_nil _)).mp delivered
        farRoom List.mem_cons_self
    rw [named, reached] at few
    exact absurd few (by decide)

end MeshCadet
