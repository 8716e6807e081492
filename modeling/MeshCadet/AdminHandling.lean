import MeshCadet.AdminReceive

namespace MeshCadet

/-!
# When the device handles a request

Whatever the cuts between the reads, the device handles the requests in order,
each once, and drops only garbage.  It does so at once exactly if every read
completes no request, or one that then stands at the front of the buffer.
-/

open Transition

namespace AdminServer

instance
    (line : List UInt8)
    (loop : RxLoop)
    (read : List UInt8) :
    Decidable (Arrives line loop read) :=
  inferInstanceAs (Decidable (_ ∧ _))

instance
    (line : Line)
    (loop : RxLoop) :
    Decidable (loop.UpToDate line) :=
  inferInstanceAs (Decidable (_ = _))

namespace Line

/-- The garbage in front of the first request. -/
def front
    (line : Line) :
    List UInt8 :=
  match line.requests with
  | [] => line.rest
  | request :: _ => request.garbage

/-- The line without so many bytes of garbage at its front. -/
def skip
    (line : Line)
    (count : Nat) :
    Line :=
  match line.requests with
  | [] => { line with rest := line.rest.drop count }
  | request :: requests =>
      { line with
        requests :=
          { request with garbage := request.garbage.drop count } ::
            requests }

theorem markerless_nil : Markerless [] := by
  rintro ⟨before, after, isNil⟩
  simp at isNil

/-- Less garbage holds no magic bytes either. -/
theorem Markerless.drop
    {bytes : List UInt8}
    (markerless : Markerless bytes)
    (count : Nat) :
    Markerless (bytes.drop count) :=
  fun marker =>
    markerless (marker.trans (List.drop_suffix count bytes).isInfix)

theorem bytes_cons
    (request : Request)
    (requests : List Request)
    (rest : List UInt8) :
    bytes { requests := request :: requests, rest := rest } =
      request.garbage ++ frameBytes request.frame ++
        bytes { requests := requests, rest := rest } := by
  simp [bytes]

/-- Only bytes of garbage are missing. -/
theorem bytes_skip
    {line : Line}
    {count : Nat}
    (garbage : count ≤ line.front.length) :
    (line.skip count).bytes = line.bytes.drop count := by
  obtain ⟨requests, rest⟩ := line
  cases requests with
  | nil =>
      simp [skip, bytes]
  | cons request requests =>
      have few : count ≤ request.garbage.length := garbage
      rw [skip, bytes_cons, bytes_cons, List.append_assoc, List.append_assoc,
        List.drop_append_of_le_length few]

theorem frames_skip
    (line : Line)
    (count : Nat) :
    (line.skip count).frames = line.frames := by
  obtain ⟨requests, rest⟩ := line
  cases requests <;> rfl

theorem WellFormed.skip
    {line : Line}
    (wellFormed : line.WellFormed)
    (count : Nat) :
    (line.skip count).WellFormed := by
  obtain ⟨requests, rest⟩ := line
  cases requests with
  | nil =>
      exact
        { garbage := wellFormed.garbage
          rest := wellFormed.rest.drop count
          small := wellFormed.small }
  | cons request requests =>
      have first := List.mem_cons_self (a := request) (l := requests)
      refine
        { garbage := ?_
          rest := wellFormed.rest
          small := ?_ }
      · intro other member
        rcases List.mem_cons.mp member with rfl | later
        · exact (wellFormed.garbage request first).drop count
        · exact wellFormed.garbage other (List.mem_cons_of_mem _ later)
      · intro other member
        rcases List.mem_cons.mp member with rfl | later
        · exact wellFormed.small request first
        · exact wellFormed.small other (List.mem_cons_of_mem _ later)

/-- The line behind its first request. -/
theorem WellFormed.tail
    {request : Request}
    {requests : List Request}
    {rest : List UInt8}
    (wellFormed :
      WellFormed { requests := request :: requests, rest := rest }) :
    WellFormed { requests := requests, rest := rest } where
  garbage := fun other member =>
    wellFormed.garbage other (List.mem_cons_of_mem _ member)
  rest := wellFormed.rest
  small := fun other member =>
    wellFormed.small other (List.mem_cons_of_mem _ member)

end Line

theorem arrived_cons
    (request : Request)
    (requests : List Request)
    (count : Nat) :
    arrived (request :: requests) count =
      if request.garbage.length + (frameBytes request.frame).length ≤ count
      then
        request.frame ::
          arrived requests
            (count -
              (request.garbage.length +
                (frameBytes request.frame).length))
      else
        [] :=
  rfl

/-- Dropped garbage does not change which frames are complete. -/
theorem arrived_skip
    {line : Line}
    {dropped : Nat}
    (garbage : dropped ≤ line.front.length)
    (count : Nat) :
    arrived (line.skip dropped).requests count =
      arrived line.requests (dropped + count) := by
  obtain ⟨requests, rest⟩ := line
  cases requests with
  | nil => rfl
  | cons request requests =>
      have few : dropped ≤ request.garbage.length := garbage
      simp only [Line.skip, arrived_cons, List.length_drop]
      by_cases complete :
          request.garbage.length + (frameBytes request.frame).length ≤
            dropped + count
      · rw [if_pos complete, if_pos (by omega)]
        congr 2
        omega
      · rw [if_neg complete, if_neg (by omega)]

/-- A frame at the front is the first that is complete. -/
theorem arrived_front
    (frame : HostFrame)
    (requests : List Request)
    (count : Nat) :
    arrived ({ garbage := [], frame := frame } :: requests)
        ((frameBytes frame).length + count) =
      frame :: arrived requests count := by
  rw [arrived_cons, List.length_nil, Nat.zero_add,
    if_pos (Nat.le_add_right _ _), Nat.add_sub_cancel_left]

/-- Nothing is complete before the first byte. -/
theorem arrived_zero
    (requests : List Request) :
    arrived requests 0 = [] := by
  cases requests with
  | nil => rfl
  | cons request requests =>
      have length := length_frameBytes request.frame
      rw [arrived_cons, if_neg (by omega)]

/-- What the buffer and the line still hold. -/
structure Ahead
    (line : Line)
    (loop : RxLoop)
    (later : Line) :
    Prop where
  wellFormed : later.WellFormed
  frames : line.frames = loop.handled ++ later.frames
  bytes : loop.rxBuf ++ line.bytes.drop loop.received.length = later.bytes
  arrives : ∀ more,
    arrived line.requests (loop.received.length + more) =
      loop.handled ++ arrived later.requests (loop.rxBuf.length + more)
  fits : loop.rxBuf.length ≤ rxBufLen

/-- Garbage in front of a frame, or behind the last one, does not begin with the
magic bytes. -/
theorem noise_of_garbage
    {buf more garbage rest : List UInt8}
    (markerless : Line.Markerless garbage)
    (some : garbage ≠ [])
    (split : buf ++ more = garbage ++ 0x4D :: rest) :
    ¬[0x4D, 0x43] <+: buf := by
  rintro ⟨others, rfl⟩
  match garbage, some, split with
  | [_], _, split =>
      have isMagic : (0x43 : UInt8) = 0x4D :=
        (List.cons.inj (List.cons.inj split).2).1
      revert isMagic
      decide
  | first :: second :: garbage, _, split =>
      obtain ⟨rfl, tail⟩ := List.cons.inj split
      obtain ⟨rfl, -⟩ := List.cons.inj tail
      exact markerless ⟨[], garbage, rfl⟩

/--
A pass either drops garbage, and then no request stands at the front of the
buffer, or handles the request that does.
-/
theorem pass_line
    {line : Line}
    {buf more : List UInt8}
    (wellFormed : line.WellFormed)
    (few : buf.length ≤ rxBufLen)
    (split : buf ++ more = line.bytes) :
    (∃ dropped,
      dropped ≤ line.front.length ∧ dropped ≤ buf.length ∧
        pass buf = (none, buf.drop dropped) ∧
        ∀ request ∈ line.requests.head?,
          ¬frameBytes request.frame <+: buf) ∨
      ∃ frame requests behind,
        line.requests = { garbage := [], frame := frame } :: requests ∧
          buf = frameBytes frame ++ behind ∧
          pass buf = (some frame, behind) := by
  obtain ⟨requests, rest⟩ := line
  cases requests with
  | nil =>
      have isRest : buf ++ more = rest := by
        rw [split]
        rfl
      have noise : ¬[0x4D, 0x43] <+: buf := by
        intro begins
        apply wellFormed.rest
        have inRest := begins.trans (List.prefix_append buf more)
        rw [isRest] at inRest
        exact inRest.isInfix
      have kept := findMagicStart_le_length buf
      have length : buf.length ≤ rest.length := by
        rw [← isRest, List.length_append]
        exact Nat.le_add_right _ _
      exact Or.inl
        ⟨findMagicStart buf, Nat.le_trans kept length, kept,
          pass_noise few noise, nofun⟩
  | cons request requests =>
      obtain ⟨garbage, frame⟩ := request
      have first :=
        List.mem_cons_self
          (a := ({ garbage := garbage, frame := frame } : Request))
          (l := requests)
      have markerless : Line.Markerless garbage := wellFormed.garbage _ first
      have small : frame.payload.length ≤ maxValidRequestPayloadLen :=
        wellFormed.small _ first
      obtain ⟨others, isMagic⟩ := frameBytes_magic frame
      rw [Line.bytes_cons] at split
      by_cases isFront : frameBytes frame <+: buf
      · have noGarbage : garbage = [] := by
          by_contra some
          have fromMagic :
              buf ++ more =
                garbage ++ 0x4D ::
                  (0x43 :: others ++
                    Line.bytes { requests := requests, rest := rest }) := by
            rw [split, isMagic, List.append_assoc]
            rfl
          refine noise_of_garbage markerless some fromMagic ?_
          refine List.IsPrefix.trans ?_ isFront
          rw [isMagic]
          exact ⟨others, rfl⟩
        obtain ⟨behind, rfl⟩ := isFront
        subst noGarbage
        exact Or.inr
          ⟨frame, requests, behind, rfl, rfl, pass_frame small behind⟩
      have notFront :
          ∀ other ∈
            (({ garbage := garbage, frame := frame } : Request) ::
              requests).head?,
            ¬frameBytes other.frame <+: buf := by
        rintro other ⟨⟩
        exact isFront
      by_cases noGarbage : garbage = []
      · subst noGarbage
        rw [List.nil_append] at split
        have begins : buf <+: frameBytes frame := by
          rcases List.prefix_or_prefix_of_prefix
            (List.prefix_append buf more)
            (split ▸ List.prefix_append (frameBytes frame) _) with
            begins | whole
          · exact begins
          · exact absurd whole isFront
        have incomplete : buf.length < (frameBytes frame).length := by
          rcases Nat.lt_or_eq_of_le begins.length_le with less | same
          · exact less
          · exact absurd (begins.eq_of_length same ▸ List.prefix_refl _)
              isFront
        exact Or.inl
          ⟨0, Nat.zero_le _, Nat.zero_le _,
            pass_beginning small begins incomplete, notFront⟩
      · have fromMagic :
            buf ++ more =
              garbage ++ 0x4D :: 0x43 ::
                (others ++
                  Line.bytes { requests := requests, rest := rest }) := by
          rw [split, isMagic, List.append_assoc]
          rfl
        have noise := noise_of_garbage markerless noGarbage fromMagic
        exact Or.inl
          ⟨findMagicStart buf, findMagicStart_le_garbage fromMagic,
            findMagicStart_le_length buf, pass_noise few noise, notFront⟩

/-- At first everything is on the line. -/
theorem ahead_initial
    {line : Line}
    (wellFormed : line.WellFormed) :
    Ahead line RxLoop.initial line where
  wellFormed := wellFormed
  frames := rfl
  bytes := rfl
  arrives := fun more => by
    simp [RxLoop.initial]
  fits := Nat.zero_le _

/-- What a read adds to the buffer is taken from the line. -/
theorem bytes_of_arrives
    {line later : Line}
    {loop : RxLoop}
    {read : List UInt8}
    (ahead : Ahead line loop later)
    (arrives : Arrives line.bytes loop read) :
    loop.rxBuf ++ read ++
        line.bytes.drop (loop.received ++ read).length =
      later.bytes := by
  obtain ⟨⟨unread, isLine⟩, -⟩ := arrives
  rw [← ahead.bytes, ← isLine, List.drop_left, List.append_assoc,
    List.append_assoc, List.drop_left]

/--
What a pass over the buffer and the bytes of a read handles: nothing, if no
request stands at the front, or the request that does.
-/
inductive Handles
    (loop : RxLoop)
    (read : List UInt8)
    (later next : Line) :
    Prop where
  | nothing
      (same : (loop.process read).handled = loop.handled)
      (notFront :
        ∀ request ∈ later.requests.head?,
          ¬frameBytes request.frame <+: loop.rxBuf ++ read)
  | frame
      (frame : HostFrame)
      (first :
        later.requests = { garbage := [], frame := frame } :: next.requests)
      (added : (loop.process read).handled = loop.handled ++ [frame])
      (front : frameBytes frame <+: loop.rxBuf ++ read)

/-- A pass keeps what is ahead. -/
theorem ahead_process
    {line later : Line}
    {loop : RxLoop}
    {read : List UInt8}
    (ahead : Ahead line loop later)
    (arrives : Arrives line.bytes loop read) :
    ∃ next,
      Ahead line (loop.process read) next ∧
        Handles loop read later next := by
  have split := bytes_of_arrives ahead arrives
  have few : (loop.rxBuf ++ read).length ≤ rxBufLen := by
    rw [List.length_append]
    exact arrives.2
  rcases pass_line ahead.wellFormed few split with
    ⟨dropped, garbage, inside, isPass, notFront⟩ |
      ⟨frame, requests, behind, isFirst, isBuf, isPass⟩
  · have same : (loop.process read).handled = loop.handled := by
      rw [RxLoop.process, isPass]
      exact List.append_nil _
    have isBuffer :
        (loop.process read).rxBuf = (loop.rxBuf ++ read).drop dropped := by
      rw [RxLoop.process, isPass]
    refine ⟨later.skip dropped, ?_, Handles.nothing same notFront⟩
    refine
      { wellFormed := ahead.wellFormed.skip dropped
        frames := ?_
        bytes := ?_
        arrives := ?_
        fits := ?_ }
    · rw [same, Line.frames_skip, ahead.frames]
    · rw [isBuffer, Line.bytes_skip garbage, ← split]
      exact (List.drop_append_of_le_length inside).symm
    · intro more
      have isReceived :
          (loop.process read).received.length + more =
            loop.received.length + (read.length + more) := by
        rw [RxLoop.process, List.length_append, Nat.add_assoc]
      have kept :
          dropped + ((loop.process read).rxBuf.length + more) =
            loop.rxBuf.length + (read.length + more) := by
        rw [List.length_append] at inside
        rw [isBuffer, List.length_drop, List.length_append]
        omega
      rw [isReceived, ahead.arrives, same, arrived_skip garbage, kept]
    · rw [isBuffer, List.length_drop]
      omega
  · have added : (loop.process read).handled = loop.handled ++ [frame] := by
      rw [RxLoop.process, isPass]
      rfl
    have isBuffer : (loop.process read).rxBuf = behind := by
      rw [RxLoop.process, isPass]
    obtain ⟨laterRequests, rest⟩ := later
    subst isFirst
    refine
      ⟨{ requests := requests, rest := rest }, ?_,
        Handles.frame frame rfl added ⟨behind, isBuf.symm⟩⟩
    refine
      { wellFormed := ahead.wellFormed.tail
        frames := ?_
        bytes := ?_
        arrives := ?_
        fits := ?_ }
    · rw [ahead.frames, added, List.append_assoc]
      rfl
    · rw [Line.bytes_cons, List.nil_append, isBuf, List.append_assoc] at split
      rw [isBuffer]
      exact List.append_cancel_left split
    · intro more
      have isReceived :
          (loop.process read).received.length + more =
            loop.received.length + (read.length + more) := by
        rw [RxLoop.process, List.length_append, Nat.add_assoc]
      have kept :
          loop.rxBuf.length + (read.length + more) =
            (frameBytes frame).length + (behind.length + more) := by
        have length := congrArg List.length isBuf
        rw [List.length_append, List.length_append] at length
        omega
      rw [isReceived, ahead.arrives, kept, arrived_front, added, isBuffer,
        List.append_assoc]
      rfl
    · rw [isBuf, List.length_append] at few
      rw [isBuffer]
      omega

/-- A turn makes a pass, unless there was nothing to read. -/
theorem turn_eq
    {line : List UInt8}
    {loop : RxLoop}
    {read : List UInt8}
    (arrives : Arrives line loop read) :
    turn loop read = loop.process read ∨
      read = [] ∧ turn loop read = loop := by
  rw [turn]
  split
  · split
    · exact Or.inr ⟨‹_›, rfl⟩
    · exact Or.inl rfl
  · rename_i full
    have nothing : read = [] := by
      apply List.eq_nil_of_length_eq_zero
      have fits := arrives.2
      omega
    rw [nothing]
    exact Or.inl rfl

/-- A turn keeps what is ahead. -/
theorem ahead_turn
    {line later : Line}
    {loop : RxLoop}
    {read : List UInt8}
    (ahead : Ahead line loop later)
    (arrives : Arrives line.bytes loop read) :
    ∃ next, Ahead line (turn loop read) next := by
  rcases turn_eq arrives with isProcess | ⟨-, same⟩
  · obtain ⟨next, kept, -⟩ := ahead_process ahead arrives
    exact ⟨next, isProcess ▸ kept⟩
  · exact ⟨later, same.symm ▸ ahead⟩

/-- The frames that are complete once a read was added. -/
theorem arrived_read
    {line later : Line}
    {loop : RxLoop}
    (ahead : Ahead line loop later)
    (read : List UInt8) :
    arrived line.requests (loop.received ++ read).length =
      loop.handled ++
        arrived later.requests (loop.rxBuf ++ read).length := by
  rw [List.length_append, List.length_append, ahead.arrives]

/-- In a loop that is up to date, a turn stays so exactly if what it reads is
alone at the front. -/
theorem upToDate_turn_iff
    {line later : Line}
    {loop : RxLoop}
    {read : List UInt8}
    (ahead : Ahead line loop later)
    (upToDate : loop.UpToDate line)
    (arrives : Arrives line.bytes loop read) :
    (turn loop read).UpToDate line ↔ AtFront line loop read := by
  rcases turn_eq arrives with isProcess | ⟨rfl, same⟩
  swap
  · rw [same]
    refine ⟨fun _ => Or.inl ?_, fun _ => upToDate⟩
    rw [List.append_nil]
  have before : arrived line.requests loop.received.length = loop.handled :=
    upToDate.symm
  have after := arrived_read ahead read
  have isUpToDate :
      (loop.process read).UpToDate line ↔
        (loop.process read).handled =
          loop.handled ++
            arrived later.requests (loop.rxBuf ++ read).length := by
    rw [← after]
    exact Iff.rfl
  rw [isProcess, isUpToDate, AtFront, after, before]
  obtain ⟨next, kept, handles⟩ := ahead_process ahead arrives
  cases handles with
  | nothing unchanged notFront =>
      rw [unchanged]
      constructor
      · intro nothing
        exact Or.inl nothing.symm
      · rintro (nothing | ⟨frame, one, front⟩)
        · exact nothing.symm
        · exfalso
          have isFrame := List.append_cancel_left one
          cases requests : later.requests with
          | nil =>
              rw [requests] at isFrame
              cases isFrame
          | cons request others =>
              rw [requests, arrived_cons] at isFrame
              split at isFrame
              · have sameFrame : request.frame = frame :=
                  (List.cons.inj isFrame).1
                refine notFront request ?_ (sameFrame ▸ front)
                rw [requests]
                rfl
              · cases isFrame
  | frame frame first added front =>
      obtain ⟨behind, isBuf⟩ := front
      have isArrived :
          arrived later.requests (loop.rxBuf ++ read).length =
            frame :: arrived next.requests behind.length := by
        rw [← isBuf, first, List.length_append, arrived_front]
      rw [added, isArrived]
      constructor
      · intro same
        exact Or.inr ⟨frame, same.symm, behind, isBuf⟩
      · rintro (nothing | ⟨other, one, -⟩)
        · have length := congrArg List.length nothing
          simp at length
        · have isOther := List.append_cancel_left one
          rw [isOther, (List.cons.inj isOther).1]

/-- Whatever the reads, requests are handled in order, each once, and only garbage
is dropped. -/
theorem always_inOrder
    {line later : Line}
    {loop : RxLoop}
    {reads : List (List UInt8)}
    (ahead : Ahead line loop later)
    (arrives : Along turn (Arrives line.bytes) loop reads) :
    Always turn (RxLoop.InOrder line) loop reads := by
  have kept :
      Always turn (fun loop => ∃ later, Ahead line loop later) loop reads :=
    always_of_along
      (fun _ _ ⟨_, before⟩ arrives => ahead_turn before arrives)
      ⟨later, ahead⟩ arrives
  exact kept.mono fun _ ⟨next, holds⟩ =>
    ⟨next, holds.wellFormed, holds.frames, holds.bytes⟩

/--
However the line is cut into reads, the device handles its requests in order, each
once, and drops only garbage, and a full buffer does not stay full.  It handles
every request as soon as its last byte was read exactly if every read completes no
request, or one that then stands at the front of the buffer.
-/
theorem handled_at_once_iff
    {line : Line}
    {reads : List (List UInt8)}
    (wellFormed : line.WellFormed)
    (arrives : Along turn (Arrives line.bytes) RxLoop.initial reads) :
    (∀ rxBuf,
      rxBufLen ≤ rxBuf.length →
        (pass rxBuf).2.length < rxBuf.length) ∧
      Always turn (RxLoop.InOrder line) RxLoop.initial reads ∧
      (Always turn (RxLoop.UpToDate line) RxLoop.initial reads ↔
        Along turn (AtFront line) RxLoop.initial reads) := by
  have initially := ahead_initial wellFormed
  refine ⟨fun _ => pass_full, always_inOrder initially arrives, ?_⟩
  have preserved :
      ∀ loop read,
        (∃ later, Ahead line loop later) →
        RxLoop.UpToDate line loop →
        Arrives line.bytes loop read →
        ∃ later, Ahead line (turn loop read) later :=
    fun _ _ ⟨_, before⟩ _ comes => ahead_turn before comes
  have exact' :
      ∀ loop read,
        (∃ later, Ahead line loop later) →
        RxLoop.UpToDate line loop →
        Arrives line.bytes loop read →
        (RxLoop.UpToDate line (turn loop read) ↔ AtFront line loop read) :=
    fun _ _ ⟨_, before⟩ upToDate comes =>
      upToDate_turn_iff before upToDate comes
  exact
    always_iff_along_assuming preserved exact' ⟨line, initially⟩
      (arrived_zero line.requests).symm arrives

/-- A request for the status, without garbage. -/
def queryStatus : Request :=
  { garbage := []
    frame := { frameType := 0x01, payload := [] } }

/-- Two requests with garbage between them, the end of which looks like the start of a
frame. -/
def garbledLine : Line :=
  { requests :=
      [queryStatus,
        { garbage := [0x0D, 0x0A, 0x4D]
          frame := { frameType := 0x0C, payload := [0x07] } }]
    rest := [] }

theorem garbledLine_wellFormed : garbledLine.WellFormed where
  garbage := by
    unfold Line.Markerless
    decide
  rest := Line.markerless_nil
  small := by decide

/-- The line in four reads, of which each second one completes a request. -/
def garbledReads : List (List UInt8) :=
  [garbledLine.bytes.take 3, (garbledLine.bytes.drop 3).take 4,
    (garbledLine.bytes.drop 7).take 5, garbledLine.bytes.drop 12]

/-- Two requests with garbage between them are handled as soon as they were read. -/
theorem two_requests_handled :
    (∀ rxBuf,
      rxBufLen ≤ rxBuf.length →
        (pass rxBuf).2.length < rxBuf.length) ∧
      Always turn (RxLoop.InOrder garbledLine) RxLoop.initial
        garbledReads ∧
      Always turn (RxLoop.UpToDate garbledLine) RxLoop.initial
        garbledReads := by
  obtain ⟨room, inOrder, exact'⟩ :=
    @handled_at_once_iff garbledLine garbledReads garbledLine_wellFormed
      (by decide +kernel)
  refine ⟨room, inOrder, exact'.mpr ?_⟩
  refine ⟨.inl ?_, .inr ⟨queryStatus.frame, ?_⟩, .inl ?_,
    .inr ⟨{ frameType := 0x0C, payload := [0x07] }, ?_⟩, trivial⟩
  all_goals decide +kernel

/-- So many requests for the status. -/
def statusLine
    (count : Nat) :
    Line :=
  { requests := List.replicate count queryStatus
    rest := [] }

theorem statusLine_wellFormed
    (count : Nat) :
    (statusLine count).WellFormed where
  garbage := fun request member => by
    rw [List.eq_of_mem_replicate member]
    exact Line.markerless_nil
  rest := Line.markerless_nil
  small := fun request member => by
    rw [List.eq_of_mem_replicate member]
    exact Nat.zero_le _

/-- Two requests of one read: the second waits, though nothing is missing. -/
theorem second_request_waits :
    ¬∀ line : Line,
      line.WellFormed →
      ∀ reads,
        Along turn (Arrives line.bytes) RxLoop.initial reads →
        Always turn (RxLoop.UpToDate line) RxLoop.initial reads := by
  intro always
  have upToDate :=
    always (statusLine 2) (statusLine_wellFormed 2)
      [(statusLine 2).bytes, [], []]
      ⟨by decide +kernel, by decide +kernel, by decide +kernel, trivial⟩
  have last := upToDate.last
  revert last
  decide +kernel

end AdminServer

end MeshCadet
