import MeshCadet.FailedPersists
import MeshCadet.Resync

namespace MeshCadet

/-!
# Frames on the serial line

The device writes its frames and its log to one serial line.  The host looks for
the two magic bytes, takes what follows for a header unless the length it claims
is too large, waits for as many bytes, and skips one byte if the checksum is
wrong.
-/

/-- Bytes of a frame around its payload. -/
def frameOverhead : Nat :=
  7

/-- Bytes of the largest history entry. -/
def maxRspHistoryEntryPayload : Nat :=
  73

/-- Bytes of the largest advert card. -/
def maxAdvertCardLen : Nat :=
  134

/-- Bytes of the largest payload the host takes a header for. -/
def maxValidFramePayloadLen : Nat :=
  if maxRspHistoryEntryPayload > maxAdvertCardLen then
    maxRspHistoryEntryPayload
  else
    maxAdvertCardLen

/-- One bit of the checksum. -/
def crc16Bit
    (crc : UInt16) :
    UInt16 :=
  if crc &&& 0x0001 ≠ 0 then
    (crc >>> 1) ^^^ 0xA001
  else
    crc >>> 1

/-- The checksum of a frame. -/
def crc16
    (data : List UInt8) :
    UInt16 :=
  data.foldl
    (fun crc byte => Nat.repeat crc16Bit 8 (crc ^^^ byte.toUInt16)) 0

/-- What stands in front of the checksum. -/
def frameBody
    (frameType : UInt8)
    (payload : List UInt8) :
    List UInt8 :=
  [0x4D, 0x43, frameType, UInt8.ofNat payload.length,
    UInt8.ofNat (payload.length >>> 8)] ++ payload

/-- Encode a frame. -/
def encodeFrame
    (frameType : UInt8)
    (payload : List UInt8) :
    List UInt8 :=
  frameBody frameType payload ++
    [UInt8.ofNat (crc16 (frameBody frameType payload)).toNat,
      UInt8.ofNat ((crc16 (frameBody frameType payload)).toNat >>> 8)]

/-- Why bytes are not a frame. -/
inductive FrameError where
  | truncatedFrame
  | badMagic
  | crcMismatch
deriving Repr, DecidableEq

/-- The type and the payload of a frame. -/
structure HostFrame where
  frameType : UInt8
  payload : List UInt8
deriving Repr, DecidableEq

/-- A word of two bytes, least significant first. -/
def wordOf
    (low high : UInt8) :
    Nat :=
  low.toNat ||| (high.toNat <<< 8)

/-- The length that a header claims. -/
def claimedLen
    (buf : List UInt8) :
    Nat :=
  wordOf (buf.getD 3 0) (buf.getD 4 0)

/-- Decode a frame at the front of a buffer. -/
def decodeFrame
    (buf : List UInt8) :
    Except FrameError HostFrame :=
  if buf.length < frameOverhead then
    .error .truncatedFrame
  else if buf.getD 0 0 ≠ 0x4D ∨ buf.getD 1 0 ≠ 0x43 then
    .error .badMagic
  else if buf.length < frameOverhead + claimedLen buf then
    .error .truncatedFrame
  else if (crc16 (buf.take (5 + claimedLen buf))).toNat ≠
      wordOf (buf.getD (5 + claimedLen buf) 0)
        (buf.getD (5 + claimedLen buf + 1) 0) then
    .error .crcMismatch
  else
    .ok
      { frameType := buf.getD 2 0
        payload := (buf.drop 5).take (claimedLen buf) }

/-- Where the magic bytes, or the first of them at the end, begin. -/
def findMagicStart :
    List UInt8 → Nat
  | [] => 0
  | [first] => if first = 0x4D then 0 else 1
  | first :: second :: rest =>
      if first = 0x4D ∧ second = 0x43 then
        0
      else
        1 + findMagicStart (second :: rest)

/-- One pass over the host's buffer; returns a frame or an error, if any. -/
def recvPass
    (accBuf : List UInt8) :
    Option (Except FrameError HostFrame) × List UInt8 :=
  let accBuf := accBuf.drop (findMagicStart accBuf)
  if 5 ≤ accBuf.length then
    if maxValidFramePayloadLen < claimedLen accBuf then
      (none, accBuf.drop 1)
    else
      let total := 7 + claimedLen accBuf
      if total ≤ accBuf.length then
        match decodeFrame (accBuf.take total) with
        | .ok frame => (some (.ok frame), accBuf.drop total)
        | .error .crcMismatch => (none, accBuf.drop 1)
        | .error .badMagic => (none, accBuf.drop 1)
        | .error problem => (some (.error problem), accBuf)
      else
        (none, accBuf)
  else
    (none, accBuf)

/--
Receive a frame, with as many turns as the deadline allows; the chunks are what
the transport returns.
-/
def recvFrame :
    Nat → Resync.Link UInt8 →
      Option (Except FrameError HostFrame) × Resync.Link UInt8 :=
  Resync.receive recvPass

/-- What begins at the front of a stream. -/
inductive Head where
  | wait
  | skip
  | frame (frame : HostFrame)
deriving Repr, DecidableEq

/-- Whether the stream begins with a frame, with noise, or is too short. -/
def head :
    List UInt8 → Head
  | [] => .wait
  | [first] => if first = 0x4D then .wait else .skip
  | first :: second :: rest =>
      if ¬ (first = 0x4D ∧ second = 0x43) then
        .skip
      else if (first :: second :: rest).length < 5 then
        .wait
      else if maxValidFramePayloadLen < claimedLen (first :: second :: rest)
      then
        .skip
      else if (first :: second :: rest).length <
          7 + claimedLen (first :: second :: rest) then
        .wait
      else
        match decodeFrame
          ((first :: second :: rest).take
            (7 + claimedLen (first :: second :: rest))) with
        | .ok frame => .frame frame
        | .error _ => .skip

/-- The second byte of a word counts 256 times. -/
theorem wordOf_eq
    (low high : UInt8) :
    wordOf low high = low.toNat + 256 * high.toNat := by
  have few := low.toNat_lt
  rw [wordOf, Nat.or_comm, ← Nat.shiftLeft_add_eq_or_of_lt few,
    Nat.shiftLeft_eq]
  omega

/-- The payload of a decoded frame is as long as its header claims. -/
theorem length_of_decodeFrame
    {buf : List UInt8}
    {frame : HostFrame}
    (decoded : decodeFrame buf = .ok frame) :
    frame.payload.length = claimedLen buf ∧
      frameOverhead + claimedLen buf ≤ buf.length := by
  rw [decodeFrame] at decoded
  split at decoded
  · cases decoded
  split at decoded
  · cases decoded
  split at decoded
  · cases decoded
  rename_i enough
  split at decoded
  · cases decoded
  cases decoded
  have long := Nat.le_of_not_lt enough
  have seven : frameOverhead = 7 := rfl
  refine ⟨?_, long⟩
  rw [List.length_take, List.length_drop]
  omega

/-- The header that a length is written into claims that length. -/
theorem wordOf_length
    {length : Nat}
    (few : length < 65536) :
    wordOf (UInt8.ofNat length) (UInt8.ofNat (length >>> 8)) = length := by
  rw [wordOf_eq, UInt8.toNat_ofNat', UInt8.toNat_ofNat',
    Nat.shiftRight_eq_div_pow]
  omega

theorem length_frameBody
    (frameType : UInt8)
    (payload : List UInt8) :
    (frameBody frameType payload).length = 5 + payload.length := by
  simp [frameBody]
  omega

theorem length_encodeFrame
    (frameType : UInt8)
    (payload : List UInt8) :
    (encodeFrame frameType payload).length = 7 + payload.length := by
  rw [encodeFrame, List.length_append, length_frameBody]
  simp
  omega

/-- An encoded frame claims the length of its payload. -/
theorem claimedLen_encodeFrame
    {payload : List UInt8}
    (few : payload.length < 65536)
    (frameType : UInt8)
    (rest : List UInt8) :
    claimedLen (encodeFrame frameType payload ++ rest) = payload.length :=
  wordOf_length few

/-- An encoded frame is decoded. -/
theorem decodeFrame_encodeFrame
    {payload : List UInt8}
    (few : payload.length < 65536)
    (frameType : UInt8) :
    decodeFrame (encodeFrame frameType payload) =
      .ok { frameType := frameType, payload := payload } := by
  have claimed := claimedLen_encodeFrame few frameType []
  rw [List.append_nil] at claimed
  have seven : frameOverhead = 7 := rfl
  have bodyLength := length_frameBody frameType payload
  have body :
      (encodeFrame frameType payload).take (5 + payload.length) =
        frameBody frameType payload := by
    rw [encodeFrame, ← bodyLength, List.take_left]
  have low :
      (encodeFrame frameType payload).getD (5 + payload.length) 0 =
        UInt8.ofNat (crc16 (frameBody frameType payload)).toNat := by
    rw [encodeFrame, ← bodyLength,
      List.getD_append_right _ _ _ _ (Nat.le_refl _), Nat.sub_self]
    rfl
  have high :
      (encodeFrame frameType payload).getD (5 + payload.length + 1) 0 =
        UInt8.ofNat ((crc16 (frameBody frameType payload)).toNat >>> 8) := by
    rw [encodeFrame, ← bodyLength,
      List.getD_append_right _ _ _ _ (Nat.le_add_right _ _),
      Nat.add_sub_cancel_left]
    rfl
  have checked :
      wordOf (UInt8.ofNat (crc16 (frameBody frameType payload)).toNat)
          (UInt8.ofNat
            ((crc16 (frameBody frameType payload)).toNat >>> 8)) =
        (crc16 (frameBody frameType payload)).toNat :=
    wordOf_length (UInt16.toNat_lt _)
  have isPayload :
      ((encodeFrame frameType payload).drop 5).take payload.length =
        payload := by
    have dropped :
        (encodeFrame frameType payload).drop 5 =
          payload ++
            [UInt8.ofNat (crc16 (frameBody frameType payload)).toNat,
              UInt8.ofNat
                ((crc16 (frameBody frameType payload)).toNat >>> 8)] := rfl
    rw [dropped, List.take_left]
  rw [decodeFrame, if_neg (by rw [length_encodeFrame, seven]; omega),
    if_neg (by simp [encodeFrame, frameBody]), claimed,
    if_neg (by rw [length_encodeFrame, seven]; omega), body, low, high,
    if_neg (not_not_intro checked.symm), isPayload]
  rfl

/-- A word is written as the bytes it was read from. -/
theorem ofNat_wordOf
    (low high : UInt8) :
    UInt8.ofNat (wordOf low high) = low ∧
      UInt8.ofNat (wordOf low high >>> 8) = high := by
  have lowFew := low.toNat_lt
  have highFew := high.toNat_lt
  constructor
  · apply UInt8.toNat_inj.mp
    rw [UInt8.toNat_ofNat', wordOf_eq]
    omega
  · apply UInt8.toNat_inj.mp
    rw [UInt8.toNat_ofNat', wordOf_eq, Nat.shiftRight_eq_div_pow]
    omega

/-- What is decoded from a whole buffer is what encodes to it. -/
theorem encodeFrame_of_decodeFrame
    {buf : List UInt8}
    {frame : HostFrame}
    (decoded : decodeFrame buf = .ok frame)
    (whole : buf.length = 7 + claimedLen buf) :
    buf = encodeFrame frame.frameType frame.payload := by
  match buf, whole with
  | [], whole => simp at whole; omega
  | [_], whole => simp at whole; omega
  | [_, _], whole => simp at whole; omega
  | [_, _, _], whole => simp at whole; omega
  | [_, _, _, _], whole => simp at whole; omega
  | first :: second :: frameType :: low :: high :: rest, whole =>
      have claimed :
          claimedLen (first :: second :: frameType :: low :: high :: rest) =
            wordOf low high := rfl
      have restLength : rest.length = wordOf low high + 2 := by
        rw [claimed] at whole
        simp only [List.length_cons] at whole
        omega
      obtain ⟨c0, c1, isTail⟩ :
          ∃ c0 c1, rest.drop (wordOf low high) = [c0, c1] := by
        apply List.length_eq_two.mp
        rw [List.length_drop]
        omega
      have isRest :
          rest = rest.take (wordOf low high) ++ [c0, c1] := by
        rw [← isTail, List.take_append_drop]
      generalize rest.take (wordOf low high) = payload at isRest
      subst isRest
      have payloadLength : payload.length = wordOf low high := by
        simpa using restLength
      let front := [first, second, frameType, low, high] ++ payload
      have isBuf :
          first :: second :: frameType :: low :: high ::
              (payload ++ [c0, c1]) =
            front ++ [c0, c1] := by
        simp [front]
      have frontLength : front.length = 5 + wordOf low high := by
        rw [List.length_append, payloadLength]
        rfl
      have seven : frameOverhead = 7 := rfl
      have tooShort :
          ¬ (front ++ [c0, c1]).length < frameOverhead := by
        rw [List.length_append, frontLength, seven, List.length_cons,
          List.length_singleton]
        omega
      have truncated :
          ¬ (front ++ [c0, c1]).length <
            frameOverhead + wordOf low high := by
        rw [List.length_append, frontLength, seven, List.length_cons,
          List.length_singleton]
        omega
      have body : (front ++ [c0, c1]).take (5 + wordOf low high) = front := by
        rw [← frontLength, List.take_left]
      have lowCrc : (front ++ [c0, c1]).getD (5 + wordOf low high) 0 = c0 := by
        rw [← frontLength,
          List.getD_append_right _ _ _ _ (Nat.le_refl _), Nat.sub_self]
        rfl
      have highCrc :
          (front ++ [c0, c1]).getD (5 + wordOf low high + 1) 0 = c1 := by
        rw [← frontLength,
          List.getD_append_right _ _ _ _ (Nat.le_add_right _ _),
          Nat.add_sub_cancel_left]
        rfl
      have isPayload :
          ((front ++ [c0, c1]).drop 5).take (wordOf low high) = payload := by
        have dropped : (front ++ [c0, c1]).drop 5 = payload ++ [c0, c1] := rfl
        rw [dropped, ← payloadLength, List.take_left]
      rw [isBuf] at decoded claimed ⊢
      rw [decodeFrame, if_neg tooShort, claimed, if_neg truncated, body,
        lowCrc, highCrc, isPayload] at decoded
      split at decoded
      · cases decoded
      rename_i isMagic
      obtain ⟨isFirst, isSecond⟩ := not_or.mp isMagic
      have sameFirst : first = 0x4D := not_not.mp isFirst
      have sameSecond : second = 0x43 := not_not.mp isSecond
      split at decoded
      · cases decoded
      rename_i isCrc
      rw [not_not] at isCrc
      cases decoded
      have isBody : frameBody frameType payload = front := by
        rw [frameBody, payloadLength, (ofNat_wordOf low high).1,
          (ofNat_wordOf low high).2, ← sameFirst, ← sameSecond]
      have sameType : (front ++ [c0, c1]).getD 2 0 = frameType := rfl
      rw [encodeFrame, sameType, isBody, isCrc, (ofNat_wordOf c0 c1).1,
        (ofNat_wordOf c0 c1).2]

/-- What the front of a stream is does not change once it is known. -/
theorem head_append
    {stream : List UInt8}
    (known : head stream ≠ .wait)
    (more : List UInt8) :
    head (stream ++ more) = head stream := by
  match stream, known with
  | [], known => exact absurd rfl known
  | [first], known =>
      have notMagic : first ≠ 0x4D := by
        intro isMagic
        exact known (if_pos isMagic)
      cases more with
      | nil => rfl
      | cons second rest =>
          rw [List.singleton_append, head, head, if_neg notMagic,
            if_pos fun both => notMagic both.1]
  | first :: second :: rest, known =>
      have seven : frameOverhead = 7 := rfl
      rw [List.cons_append, List.cons_append]
      rw [head] at known ⊢
      rw [head]
      by_cases isMagic : first = 0x4D ∧ second = 0x43
      swap
      · rw [if_pos isMagic, if_pos isMagic]
      rw [if_neg (not_not_intro isMagic)] at known ⊢
      rw [if_neg (not_not_intro isMagic)]
      by_cases short : (first :: second :: rest).length < 5
      · rw [if_pos short] at known
        exact absurd rfl known
      have sameClaim :
          claimedLen (first :: second :: (rest ++ more)) =
            claimedLen (first :: second :: rest) := by
        match rest, short with
        | [], short => simp at short
        | [_], short => simp at short
        | [_, _], short => simp at short
        | _ :: _ :: _ :: _, _ => rfl
      have longer :
          (first :: second :: rest).length ≤
            (first :: second :: (rest ++ more)).length := by
        simp
      rw [if_neg short] at known ⊢
      rw [if_neg (by omega), sameClaim]
      by_cases large :
          maxValidFramePayloadLen < claimedLen (first :: second :: rest)
      · rw [if_pos large, if_pos large]
      rw [if_neg large] at known ⊢
      rw [if_neg large]
      by_cases incomplete :
          (first :: second :: rest).length <
            7 + claimedLen (first :: second :: rest)
      · rw [if_pos incomplete] at known
        exact absurd rfl known
      have sameFront :
          (first :: second :: (rest ++ more)).take
              (7 + claimedLen (first :: second :: rest)) =
            (first :: second :: rest).take
              (7 + claimedLen (first :: second :: rest)) := by
        rw [← List.cons_append, ← List.cons_append]
        exact List.take_append_of_le_length (Nat.le_of_not_lt incomplete)
      rw [if_neg incomplete, if_neg (by omega), sameFront]

/-- What is known to begin at the front begins there in any longer stream. -/
theorem head_append_of_eq
    {stream : List UInt8}
    {front : Head}
    (begins : head stream = front)
    (known : front ≠ .wait)
    (more : List UInt8) :
    head (stream ++ more) = front := by
  rw [← begins] at known
  rw [head_append known, begins]

/-- A whole header claims the same length alone. -/
theorem claimedLen_take
    (buf : List UInt8) :
    claimedLen (buf.take (7 + claimedLen buf)) = claimedLen buf := by
  rw [claimedLen, claimedLen]
  simp only [List.getD_eq_getElem?_getD, List.getElem?_take]
  rw [if_pos (by omega), if_pos (by omega)]

/-- A frame at the front of a stream is what its bytes encode. -/
theorem head_frame
    {stream : List UInt8}
    {frame : HostFrame}
    (begins : head stream = .frame frame) :
    frame.payload.length ≤ maxValidFramePayloadLen ∧
      encodeFrame frame.frameType frame.payload <+: stream := by
  match stream, begins with
  | [], begins => cases begins
  | [first], begins =>
      rw [head] at begins
      split at begins <;> cases begins
  | first :: second :: rest, begins =>
      rw [head] at begins
      split at begins
      · cases begins
      split at begins
      · cases begins
      rename_i long
      split at begins
      · cases begins
      rename_i small
      split at begins
      · cases begins
      rename_i complete
      split at begins
      · rename_i found decoded
        cases begins
        have sameClaim :=
          claimedLen_take (first :: second :: rest)
        have whole :
            ((first :: second :: rest).take
                (7 + claimedLen (first :: second :: rest))).length =
              7 + claimedLen
                ((first :: second :: rest).take
                  (7 + claimedLen (first :: second :: rest))) := by
          rw [sameClaim, List.length_take]
          omega
        have isEncoded := encodeFrame_of_decodeFrame decoded whole
        refine ⟨?_, ?_⟩
        · rw [(length_of_decodeFrame decoded).1, sameClaim]
          exact Nat.le_of_not_lt small
        · rw [← isEncoded]
          exact List.take_prefix _ _
      · cases begins

/-- A small enough frame at the front of a stream is found. -/
theorem head_encodeFrame
    {payload : List UInt8}
    (small : payload.length ≤ maxValidFramePayloadLen)
    (frameType : UInt8)
    (more : List UInt8) :
    head (encodeFrame frameType payload ++ more) =
      .frame { frameType := frameType, payload := payload } := by
  have bound : maxValidFramePayloadLen = 134 := rfl
  have few : payload.length < 65536 := by omega
  have claimed := claimedLen_encodeFrame few frameType []
  have length := length_encodeFrame frameType payload
  have decoded := decodeFrame_encodeFrame few frameType
  rw [List.append_nil] at claimed
  have begins :
      head (encodeFrame frameType payload) =
        .frame { frameType := frameType, payload := payload } := by
    have isCons :
        encodeFrame frameType payload =
          0x4D :: 0x43 :: (encodeFrame frameType payload).drop 2 := rfl
    rw [isCons, head, ← isCons, if_neg (by simp), length, claimed,
      if_neg (by omega), if_neg (by omega), if_neg (by omega), ← length,
      List.take_length, decoded]
  exact head_append_of_eq begins nofun more

/-- The frames of a whole stream. -/
def framesOf :
    List UInt8 → List (Except FrameError HostFrame)
  | [] => []
  | first :: rest =>
      match head (first :: rest) with
      | .wait => []
      | .skip => framesOf rest
      | .frame frame =>
          .ok frame :: framesOf (rest.drop (6 + frame.payload.length))
termination_by stream => stream.length
decreasing_by
  all_goals simp only [List.length_drop, List.length_cons]; omega

theorem framesOf_nil :
    framesOf [] = [] := by
  rw [framesOf]

/-- Nothing is found at the front of a stream that has to grow. -/
theorem framesOf_wait
    {stream : List UInt8}
    (waits : head stream = .wait) :
    framesOf stream = [] := by
  cases stream with
  | nil => exact framesOf_nil
  | cons first rest => rw [framesOf, waits]

/-- A byte of noise at the front of a stream is dropped. -/
theorem framesOf_skip
    {first : UInt8}
    {rest : List UInt8}
    (skips : head (first :: rest) = .skip) :
    framesOf (first :: rest) = framesOf rest := by
  rw [framesOf, skips]

/-- A frame at the front of a stream is the first that is found. -/
theorem framesOf_frame
    {stream : List UInt8}
    {frame : HostFrame}
    (begins : head stream = .frame frame) :
    framesOf stream =
      .ok frame :: framesOf (stream.drop (7 + frame.payload.length)) := by
  cases stream with
  | nil => cases begins
  | cons first rest =>
      have isDrop :
          (first :: rest).drop (7 + frame.payload.length) =
            rest.drop (6 + frame.payload.length) := by
        rw [Nat.add_comm 7, Nat.add_comm 6]
        rfl
      rw [framesOf, begins, isDrop]

/-- Only frames that the reader takes for frames are found. -/
theorem small_of_framesOf
    {stream : List UInt8}
    {found : Except FrameError HostFrame}
    (member : found ∈ framesOf stream) :
    ∃ frame, found = .ok frame ∧
      frame.payload.length ≤ maxValidFramePayloadLen := by
  induction stream using framesOf.induct with
  | case1 =>
      rw [framesOf_nil] at member
      cases member
  | case2 first rest waits =>
      rw [framesOf_wait waits] at member
      cases member
  | case3 first rest skips inductionHypothesis =>
      rw [framesOf_skip skips] at member
      exact inductionHypothesis member
  | case4 first rest frame begins inductionHypothesis =>
      rw [framesOf, begins] at member
      rcases List.mem_cons.mp member with isFirst | later
      · exact ⟨frame, isFirst, (head_frame begins).1⟩
      · exact inductionHypothesis later

/-- What does not begin with the first magic byte, or not with both, is noise. -/
theorem framesOf_findMagicStart
    (buf more : List UInt8) :
    framesOf (buf ++ more) =
      framesOf (buf.drop (findMagicStart buf) ++ more) := by
  induction buf using findMagicStart.induct with
  | case1 =>
      rfl
  | case2 =>
      rfl
  | case3 first notMagic =>
      have skips : head [first] = .skip := by
        rw [head, if_neg notMagic]
      have known := head_append_of_eq skips nofun more
      rw [findMagicStart, if_neg notMagic]
      exact framesOf_skip known
  | case4 first second rest isMagic =>
      rw [findMagicStart, if_pos isMagic]
      rfl
  | case5 first second rest notMagic inductionHypothesis =>
      have skips : head (first :: second :: rest) = .skip := by
        rw [head, if_pos notMagic]
      have known := head_append_of_eq skips nofun more
      rw [findMagicStart, if_neg notMagic, Nat.add_comm 1, List.drop_succ_cons,
        ← inductionHypothesis]
      exact framesOf_skip known

/-- The synchronised buffer is short or begins with the magic bytes. -/
theorem synchronised
    (buf : List UInt8) :
    buf.drop (findMagicStart buf) = [] ∨
      buf.drop (findMagicStart buf) = [0x4D] ∨
        ∃ rest, buf.drop (findMagicStart buf) = 0x4D :: 0x43 :: rest := by
  induction buf using findMagicStart.induct with
  | case1 =>
      exact Or.inl rfl
  | case2 =>
      exact Or.inr (Or.inl rfl)
  | case3 first notMagic =>
      rw [findMagicStart, if_neg notMagic]
      exact Or.inl rfl
  | case4 first second rest isMagic =>
      rw [findMagicStart, if_pos isMagic, isMagic.1, isMagic.2]
      exact Or.inr (Or.inr ⟨rest, rfl⟩)
  | case5 first second rest notMagic inductionHypothesis =>
      rw [findMagicStart, if_neg notMagic, Nat.add_comm 1,
        List.drop_succ_cons]
      exact inductionHypothesis

/-- A buffer with all the bytes that its header claims is not truncated. -/
theorem decodeFrame_take
    {buf : List UInt8}
    (complete : 7 + claimedLen buf ≤ buf.length) :
    decodeFrame (buf.take (7 + claimedLen buf)) ≠ .error .truncatedFrame := by
  have sameClaim := claimedLen_take buf
  have length :
      (buf.take (7 + claimedLen buf)).length = 7 + claimedLen buf := by
    rw [List.length_take]
    omega
  have seven : frameOverhead = 7 := rfl
  rw [decodeFrame, if_neg (by omega), sameClaim]
  split
  · nofun
  rw [if_neg (by omega)]
  split <;> nofun

/-- A stream with both magic bytes at its front begins as its header says. -/
theorem head_magic
    (rest : List UInt8) :
    head (0x4D :: 0x43 :: rest) =
      if (0x4D :: 0x43 :: rest).length < 5 then
        .wait
      else if maxValidFramePayloadLen < claimedLen (0x4D :: 0x43 :: rest)
      then
        .skip
      else if (0x4D :: 0x43 :: rest).length <
          7 + claimedLen (0x4D :: 0x43 :: rest) then
        .wait
      else
        match decodeFrame
          ((0x4D :: 0x43 :: rest).take
            (7 + claimedLen (0x4D :: 0x43 :: rest))) with
        | .ok frame => .frame frame
        | .error _ => .skip :=
  rfl

/-- A pass does with a synchronised buffer what begins at its front. -/
theorem recvPass_eq
    (buf : List UInt8) :
    recvPass buf =
      match head (buf.drop (findMagicStart buf)) with
      | .wait => (none, buf.drop (findMagicStart buf))
      | .skip => (none, (buf.drop (findMagicStart buf)).drop 1)
      | .frame frame =>
          (some (.ok frame),
            (buf.drop (findMagicStart buf)).drop
              (7 + frame.payload.length)) := by
  rw [recvPass]
  rcases synchronised buf with isNil | isFirst | ⟨rest, isMagic⟩
  · rw [isNil]
    rfl
  · rw [isFirst]
    rfl
  · rw [isMagic, head_magic]
    by_cases short : (0x4D :: 0x43 :: rest).length < 5
    · rw [if_neg (Nat.not_le_of_lt short), if_pos short]
    rw [if_pos (Nat.le_of_not_lt short), if_neg short]
    by_cases large :
        maxValidFramePayloadLen < claimedLen (0x4D :: 0x43 :: rest)
    · rw [if_pos large, if_pos large]
    rw [if_neg large, if_neg large]
    by_cases incomplete :
        (0x4D :: 0x43 :: rest).length <
          7 + claimedLen (0x4D :: 0x43 :: rest)
    · rw [if_neg (Nat.not_le_of_lt incomplete), if_pos incomplete]
    have complete := Nat.le_of_not_lt incomplete
    rw [if_pos complete, if_neg incomplete]
    have notTruncated := decodeFrame_take complete
    have sameClaim := claimedLen_take (0x4D :: 0x43 :: rest)
    cases decoded :
        decodeFrame
          ((0x4D :: 0x43 :: rest).take
            (7 + claimedLen (0x4D :: 0x43 :: rest))) with
    | ok frame =>
        have length := (length_of_decodeFrame decoded).1
        rw [sameClaim] at length
        rw [← length]
    | error problem =>
        cases problem with
        | truncatedFrame => exact absurd decoded notTruncated
        | badMagic => rfl
        | crcMismatch => rfl

/-- The passes of the host find the frames of the stream. -/
theorem recvPass_reads :
    Resync.Reads recvPass framesOf where
  agrees := by
    intro buf more
    rw [framesOf_findMagicStart, recvPass_eq]
    cases begins : head (buf.drop (findMagicStart buf)) with
    | wait => rfl
    | skip =>
        have known := head_append_of_eq begins nofun more
        cases synced : buf.drop (findMagicStart buf) with
        | nil =>
            rw [synced] at begins
            cases begins
        | cons first rest =>
            rw [synced] at known
            exact framesOf_skip known
    | frame frame =>
        have known := head_append_of_eq begins nofun more
        have enough :
            7 + frame.payload.length ≤
              (buf.drop (findMagicStart buf)).length := by
          rw [← length_encodeFrame frame.frameType]
          exact (head_frame begins).2.length_le
        rw [framesOf_frame known, List.drop_append_of_le_length enough]
        rfl
  shrinks := by
    intro buf
    rw [recvPass_eq]
    cases begins : head (buf.drop (findMagicStart buf)) with
    | wait =>
        by_cases inFront : findMagicStart buf = 0
        · rw [inFront, List.drop_zero] at begins ⊢
          exact Or.inr ⟨rfl, framesOf_wait begins⟩
        · refine Or.inl ?_
          cases buf with
          | nil => exact absurd rfl inFront
          | cons first rest =>
              simp only [List.length_drop, List.length_cons]
              omega
    | skip =>
        refine Or.inl ?_
        have some : buf.drop (findMagicStart buf) ≠ [] := by
          intro isNil
          rw [isNil] at begins
          cases begins
        have positive := List.length_pos_of_ne_nil some
        simp only [List.length_drop] at positive ⊢
        omega
    | frame frame =>
        refine Or.inl ?_
        have enough :=
          (head_frame begins).2.length_le
        rw [length_encodeFrame] at enough
        simp only [List.length_drop] at enough ⊢
        omega

end MeshCadet
