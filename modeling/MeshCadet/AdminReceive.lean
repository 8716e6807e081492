import MeshCadet.HostFrames
import MeshCadet.Transition

namespace MeshCadet

/-!
# Requests on the device's side of the serial line

The device reads what has arrived, and then makes one pass over its buffer: it
drops what cannot start a frame, or handles the frame at the front.  It makes the
next pass only once it has read more, so what a read leaves in the buffer waits
for bytes that may never come.
-/

open Transition

namespace AdminServer

/-- Bytes the receive buffer holds. -/
def rxBufLen : Nat :=
  512

/-- Bytes of the longest name. -/
def maxNameLen : Nat :=
  32

/-- Bytes of the largest payload of a request. -/
def maxValidRequestPayloadLen : Nat :=
  32 + 1 + maxLoginPasswordLen + 1 + maxNameLen

/-- Bytes of a payload that are handed on. -/
def payloadCopyLen : Nat :=
  256

/-- Where the magic bytes, or the first of them at the end, begin; a single byte
does not tell yet. -/
def findMagicStart
    (buf : List UInt8) :
    Nat :=
  if buf.length < 2 then 0 else MeshCadet.findMagicStart buf

/-- The header claims more than any request has. -/
def oversizedPlen
    (rxBuf : List UInt8)
    (maxValidPayloadLen : Nat) :
    Bool :=
  if rxBuf.length < 5 then false else maxValidPayloadLen < claimedLen rxBuf

/-- A full buffer without a frame is emptied. -/
def flushIfRxBufferFull
    (rxBuf : List UInt8)
    (bufLen : Nat) :
    List UInt8 :=
  if bufLen ≤ rxBuf.length then [] else rxBuf

/-- One pass over the buffer; returns the frame that is handled, if any. -/
def pass
    (rxBuf : List UInt8) :
    Option HostFrame × List UInt8 :=
  let sync := findMagicStart rxBuf
  if 0 < sync then
    (none, rxBuf.drop sync)
  else if oversizedPlen rxBuf maxValidRequestPayloadLen then
    (none, rxBuf.drop 1)
  else
    match decodeFrame rxBuf with
    | .ok frame =>
        (some
          { frameType := frame.frameType
            payload := frame.payload.take payloadCopyLen },
          rxBuf.drop (frameOverhead + frame.payload.length))
    | .error .truncatedFrame =>
        (none, flushIfRxBufferFull rxBuf rxBufLen)
    | .error _ => (none, rxBuf.drop 1)

/-- The buffer, everything read so far, and the frames handled so far. -/
structure RxLoop where
  rxBuf : List UInt8
  received : List UInt8
  handled : List HostFrame
deriving Repr, DecidableEq

/-- Nothing was read. -/
def RxLoop.initial : RxLoop :=
  { rxBuf := []
    received := []
    handled := [] }

/-- Add what was read to the buffer and make a pass. -/
def RxLoop.process
    (loop : RxLoop)
    (read : List UInt8) :
    RxLoop :=
  { rxBuf := (pass (loop.rxBuf ++ read)).2
    received := loop.received ++ read
    handled :=
      loop.handled ++ (pass (loop.rxBuf ++ read)).1.toList }

/-- One turn of the loop.  While there is room it reads, and starts over if there
was nothing to read; it does not read into a full buffer. -/
def turn
    (loop : RxLoop)
    (read : List UInt8) :
    RxLoop :=
  if loop.rxBuf.length < rxBufLen then
    if read = [] then loop else loop.process read
  else
    loop.process []

/-- What is read is what comes next on the line, and fits the buffer. -/
def Arrives
    (line : List UInt8)
    (loop : RxLoop)
    (read : List UInt8) :
    Prop :=
  loop.received ++ read <+: line ∧
    loop.rxBuf.length + read.length ≤ rxBufLen

/-- Garbage, and the request behind it. -/
structure Request where
  garbage : List UInt8
  frame : HostFrame
deriving Repr, DecidableEq

/-- The bytes of a frame. -/
def frameBytes
    (frame : HostFrame) :
    List UInt8 :=
  encodeFrame frame.frameType frame.payload

/-- Requests among garbage, as they come over the line. -/
structure Line where
  requests : List Request
  rest : List UInt8
deriving Repr, DecidableEq

namespace Line

/-- The bytes on the line. -/
def bytes
    (line : Line) :
    List UInt8 :=
  (line.requests.flatMap fun request =>
    request.garbage ++ frameBytes request.frame) ++ line.rest

/-- The frames on the line. -/
def frames
    (line : Line) :
    List HostFrame :=
  line.requests.map Request.frame

/-- No magic bytes stand in the bytes. -/
def Markerless (bytes : List UInt8) : Prop :=
  ¬[0x4D, 0x43] <:+: bytes

/-- The garbage holds no magic bytes, and the frames are requests. -/
structure WellFormed (line : Line) : Prop where
  garbage : ∀ request ∈ line.requests, Markerless request.garbage
  rest : Markerless line.rest
  small :
    ∀ request ∈ line.requests,
      request.frame.payload.length ≤ maxValidRequestPayloadLen

end Line

/-- The frames that are complete within so many bytes. -/
def arrived : List Request → Nat → List HostFrame
  | [], _ => []
  | request :: requests, count =>
      let behind :=
        request.garbage.length + (frameBytes request.frame).length
      if behind ≤ count then
        request.frame :: arrived requests (count - behind)
      else
        []

/-- The first frames of the line were handled, each once, and the others are still
to come: only garbage was dropped. -/
def RxLoop.InOrder
    (line : Line)
    (loop : RxLoop) :
    Prop :=
  ∃ later : Line,
    later.WellFormed ∧
      line.frames = loop.handled ++ later.frames ∧
      loop.rxBuf ++ line.bytes.drop loop.received.length = later.bytes

/-- All frames whose last byte was read were handled. -/
def RxLoop.UpToDate
    (line : Line)
    (loop : RxLoop) :
    Prop :=
  loop.handled = arrived line.requests loop.received.length

/-- What is read completes no frame, or completes one that then stands at the
front of the buffer. -/
def AtFront
    (line : Line)
    (loop : RxLoop)
    (read : List UInt8) :
    Prop :=
  arrived line.requests (loop.received ++ read).length =
      arrived line.requests loop.received.length ∨
    ∃ frame,
      arrived line.requests (loop.received ++ read).length =
          arrived line.requests loop.received.length ++ [frame] ∧
        frameBytes frame <+: loop.rxBuf ++ read

/-- A pass over a full buffer makes room. -/
theorem pass_full
    {rxBuf : List UInt8}
    (full : rxBufLen ≤ rxBuf.length) :
    (pass rxBuf).2.length < rxBuf.length := by
  have many : rxBufLen = 512 := rfl
  have one : (rxBuf.drop 1).length < rxBuf.length := by
    rw [List.length_drop]
    omega
  rw [pass]
  by_cases sync : 0 < findMagicStart rxBuf
  · rw [if_pos sync, List.length_drop]
    omega
  rw [if_neg sync]
  by_cases oversized : oversizedPlen rxBuf maxValidRequestPayloadLen
  · rw [if_pos oversized]
    exact one
  rw [if_neg oversized]
  cases decodeFrame rxBuf with
  | ok frame =>
      have seven : frameOverhead = 7 := rfl
      rw [List.length_drop]
      omega
  | error problem =>
      cases problem with
      | truncatedFrame =>
          rw [flushIfRxBufferFull, if_pos full, List.length_nil]
          omega
      | badMagic => exact one
      | crcMismatch => exact one

/-- Bytes that do not begin with the magic bytes are dropped up to where these
may begin. -/
theorem pass_noise
    {rxBuf : List UInt8}
    (few : rxBuf.length ≤ rxBufLen)
    (noise : ¬[0x4D, 0x43] <+: rxBuf) :
    pass rxBuf = (none, rxBuf.drop (findMagicStart rxBuf)) := by
  match rxBuf, few, noise with
  | [], _, _ => rfl
  | [_], _, _ => rfl
  | first :: second :: rest, _, noise =>
      have notMagic : ¬(first = 0x4D ∧ second = 0x43) := by
        rintro ⟨rfl, rfl⟩
        exact noise ⟨rest, rfl⟩
      have sync : 0 < findMagicStart (first :: second :: rest) := by
        rw [findMagicStart, if_neg (by simp), MeshCadet.findMagicStart,
          if_neg notMagic]
        omega
      rw [pass, if_pos sync]

/-- Bytes that begin with the magic bytes are in step. -/
theorem findMagicStart_magic
    (rest : List UInt8) :
    findMagicStart (0x4D :: 0x43 :: rest) = 0 := by
  rw [findMagicStart, if_neg (by simp), MeshCadet.findMagicStart,
    if_pos ⟨rfl, rfl⟩]

/-- No more is dropped than there is. -/
theorem findMagicStart_le
    (buf : List UInt8) :
    MeshCadet.findMagicStart buf ≤ buf.length := by
  induction buf using MeshCadet.findMagicStart.induct with
  | case1 =>
      exact Nat.le_refl _
  | case2 =>
      exact Nat.zero_le _
  | case3 first notMagic =>
      rw [MeshCadet.findMagicStart, if_neg notMagic]
      exact Nat.le_refl _
  | case4 first second rest isMagic =>
      rw [MeshCadet.findMagicStart, if_pos isMagic]
      exact Nat.zero_le _
  | case5 first second rest notMagic inductionHypothesis =>
      rw [MeshCadet.findMagicStart, if_neg notMagic, List.length_cons]
      omega

theorem findMagicStart_le_length
    (buf : List UInt8) :
    findMagicStart buf ≤ buf.length := by
  rw [findMagicStart]
  split
  · exact Nat.zero_le _
  · exact findMagicStart_le buf

/-- No more is dropped than stands in front of the magic bytes. -/
theorem findMagicStart_le_garbage
    {buf more garbage rest : List UInt8}
    (split : buf ++ more = garbage ++ 0x4D :: 0x43 :: rest) :
    findMagicStart buf ≤ garbage.length := by
  rw [findMagicStart]
  split_ifs with short
  · exact Nat.zero_le _
  clear short
  induction garbage generalizing buf with
  | nil =>
      rcases buf with _ | ⟨first, _ | ⟨second, others⟩⟩
      · exact Nat.zero_le _
      · have isMagic : first = 0x4D := (List.cons.inj split).1
        rw [MeshCadet.findMagicStart, if_pos isMagic]
        exact Nat.zero_le _
      · have isMagic : first = 0x4D := (List.cons.inj split).1
        have alsoMagic : second = 0x43 :=
          (List.cons.inj (List.cons.inj split).2).1
        rw [MeshCadet.findMagicStart, if_pos ⟨isMagic, alsoMagic⟩]
        exact Nat.zero_le _
  | cons byte garbage inductionHypothesis =>
      rcases buf with _ | ⟨first, _ | ⟨second, others⟩⟩
      · exact Nat.zero_le _
      · rw [MeshCadet.findMagicStart, List.length_cons]
        split <;> omega
      · have later :=
          @inductionHypothesis (second :: others)
            (List.cons.inj split).2
        rw [MeshCadet.findMagicStart, List.length_cons]
        split <;> omega

/-- What stands at the front of a longer buffer is still decoded. -/
theorem decodeFrame_append
    {buf : List UInt8}
    {frame : HostFrame}
    (decoded : decodeFrame buf = .ok frame)
    (more : List UInt8) :
    decodeFrame (buf ++ more) = .ok frame := by
  have enough := (length_of_decodeFrame decoded).2
  have seven : frameOverhead = 7 := rfl
  have same :
      ∀ index, index < buf.length →
        (buf ++ more).getD index 0 = buf.getD index 0 := by
    intro index inside
    exact List.getD_append _ _ _ _ inside
  have claimed : claimedLen (buf ++ more) = claimedLen buf := by
    rw [claimedLen, claimedLen, same 3 (by omega), same 4 (by omega)]
  rw [decodeFrame] at decoded ⊢
  rw [claimed, same 0 (by omega), same 1 (by omega), same 2 (by omega),
    same (5 + claimedLen buf) (by omega),
    same (5 + claimedLen buf + 1) (by omega),
    List.take_append_of_le_length (by omega), List.length_append,
    if_neg (by omega), List.drop_append_of_le_length (by omega),
    List.take_append_of_le_length (by rw [List.length_drop]; omega)]
  rw [if_neg (by omega)] at decoded
  split at decoded
  · cases decoded
  rename_i isMagic
  rw [if_neg isMagic, if_neg (by omega)]
  rw [if_neg (by omega)] at decoded
  exact decoded

theorem length_frameBytes
    (frame : HostFrame) :
    (frameBytes frame).length = 7 + frame.payload.length :=
  length_encodeFrame _ _

/-- A frame begins with the magic bytes. -/
theorem frameBytes_magic
    (frame : HostFrame) :
    ∃ rest, frameBytes frame = 0x4D :: 0x43 :: rest :=
  ⟨_, rfl⟩

/-- A request at the front of the buffer is handled and consumed. -/
theorem pass_frame
    {frame : HostFrame}
    (small : frame.payload.length ≤ maxValidRequestPayloadLen)
    (more : List UInt8) :
    pass (frameBytes frame ++ more) = (some frame, more) := by
  have bound : maxValidRequestPayloadLen = 82 := rfl
  have seven : frameOverhead = 7 := rfl
  have few : frame.payload.length < 65536 := by omega
  have decoded :
      decodeFrame (frameBytes frame ++ more) = .ok frame :=
    decodeFrame_append
      (decodeFrame_encodeFrame few frame.frameType) more
  have claimed :
      claimedLen (frameBytes frame ++ more) = frame.payload.length :=
    claimedLen_encodeFrame few frame.frameType more
  have sync : findMagicStart (frameBytes frame ++ more) = 0 :=
    findMagicStart_magic _
  have isSmall :
      ¬oversizedPlen (frameBytes frame ++ more)
          maxValidRequestPayloadLen = true := by
    rw [oversizedPlen, claimed]
    split
    · exact Bool.false_ne_true
    · rw [decide_eq_true_eq]
      omega
  have whole :
      frame.payload.take payloadCopyLen = frame.payload :=
    List.take_of_length_le (by rw [payloadCopyLen]; omega)
  rw [pass, sync, if_neg (Nat.lt_irrefl 0), if_neg isSmall, decoded]
  simp only [whole]
  rw [seven, ← length_frameBytes, List.drop_left]

/-- The beginning of a request claims no more than the request does, and is not
all of it. -/
theorem claimedLen_of_prefix
    {frame : HostFrame}
    {rxBuf : List UInt8}
    (few : frame.payload.length < 65536)
    (begins : rxBuf <+: frameBytes frame)
    (header : 5 ≤ rxBuf.length) :
    claimedLen rxBuf = frame.payload.length := by
  obtain ⟨missing, isFrame⟩ := begins
  have claimed := claimedLen_encodeFrame few frame.frameType []
  have whole :
      encodeFrame frame.frameType frame.payload = rxBuf ++ missing :=
    isFrame.symm
  rw [List.append_nil, whole, claimedLen,
    List.getD_append _ _ _ _ (by omega),
    List.getD_append _ _ _ _ (by omega)] at claimed
  exact claimed

/-- The beginning of a request is not decoded. -/
theorem decodeFrame_of_prefix
    {frame : HostFrame}
    {rxBuf : List UInt8}
    (few : frame.payload.length < 65536)
    (begins : rxBuf <+: frameBytes frame)
    (incomplete : rxBuf.length < (frameBytes frame).length) :
    decodeFrame rxBuf = .error .truncatedFrame := by
  have seven : frameOverhead = 7 := rfl
  rw [decodeFrame]
  by_cases short : rxBuf.length < frameOverhead
  · rw [if_pos short]
  have claimed := claimedLen_of_prefix few begins (by omega)
  rw [length_frameBytes] at incomplete
  obtain ⟨missing, isFrame⟩ := begins
  obtain ⟨rest, isMagic⟩ := frameBytes_magic frame
  have first : rxBuf.getD 0 0 = 0x4D := by
    rw [← List.getD_append rxBuf missing 0 0 (by omega), isFrame, isMagic]
    rfl
  have second : rxBuf.getD 1 0 = 0x43 := by
    rw [← List.getD_append rxBuf missing 0 1 (by omega), isFrame, isMagic]
    rfl
  rw [if_neg short, first, second, if_neg (by simp), claimed,
    if_pos (by omega)]

/-- A buffer with the beginning of a request is kept. -/
theorem pass_beginning
    {frame : HostFrame}
    {rxBuf : List UInt8}
    (small : frame.payload.length ≤ maxValidRequestPayloadLen)
    (begins : rxBuf <+: frameBytes frame)
    (incomplete : rxBuf.length < (frameBytes frame).length) :
    pass rxBuf = (none, rxBuf) := by
  have bound : maxValidRequestPayloadLen = 82 := rfl
  have many : rxBufLen = 512 := rfl
  have few : frame.payload.length < 65536 := by omega
  have decoded := decodeFrame_of_prefix few begins incomplete
  have length := length_frameBytes frame
  have sync : findMagicStart rxBuf = 0 := by
    obtain ⟨rest, isMagic⟩ := frameBytes_magic frame
    rw [isMagic] at begins
    match rxBuf, begins with
    | [], _ => rfl
    | [_], _ => rfl
    | first :: second :: others, begins =>
        obtain ⟨rfl, after⟩ := List.cons_prefix_cons.mp begins
        obtain ⟨rfl, -⟩ := List.cons_prefix_cons.mp after
        exact findMagicStart_magic others
  have isSmall :
      ¬oversizedPlen rxBuf maxValidRequestPayloadLen = true := by
    rw [oversizedPlen]
    by_cases short : rxBuf.length < 5
    · rw [if_pos short]
      exact Bool.false_ne_true
    · rw [if_neg short,
        claimedLen_of_prefix few begins (Nat.le_of_not_lt short),
        decide_eq_true_eq]
      omega
  rw [pass, sync, if_neg (Nat.lt_irrefl 0), if_neg isSmall, decoded,
    flushIfRxBufferFull, if_neg (by omega)]

end AdminServer

end MeshCadet
