import MeshCadet.AirtimeBudget
import MeshCadet.FloodFrames
import MeshCadet.TxQueue

namespace MeshCadet

/-!
# The transmit turn of the dispatcher loop

In each pass of the loop, the radio listens to the channel and sends the oldest
pending frame if the channel is clear and the budget allows it.  A frame leaves
the queue only when it was sent, when it is an advertisement, which is never sent,
or when four younger ones push it out; whatever else goes wrong, it is kept and
the loop backs off.
-/

open RingBuffer

/-- The payload type of an advertisement. -/
def payloadTypeAdvert : UInt8 :=
  0x04

/-- The payload type is that of an advertisement. -/
def isAdvertType
    (payloadType : UInt8) :
    Bool :=
  payloadType == payloadTypeAdvert

/-- The frame may go out. -/
def txGuardAllows
    (payloadType : UInt8) :
    Bool :=
  !isAdvertType payloadType

/-- Symbols that a payload takes beyond the first eight, five at a time. -/
def payloadSymbolGroups
    (payloadBytes : Nat) :
    Nat :=
  (8 * payloadBytes + 16 + 27) / 28

/-- The airtime of a frame in whole milliseconds, rounded up.  A symbol takes
2.048 ms, and 20.25 of them frame the groups of five.  The exact value is never
close to a whole number, so that rounding in floating point changes nothing. -/
def loraAirtimeMs
    (payloadBytes : Nat) :
    Nat :=
  (41472 + 10240 * payloadSymbolGroups payloadBytes + 999) / 1000

/-- Errors in a row after which a frame is sent without listening. -/
def cadFailLimit : Nat :=
  3

/-- What listening to the channel comes to. -/
inductive CadResult where
  | busy
  | clear
  | error
deriving Repr, DecidableEq

/-- What sending comes to; a failure may come after the frame was on the air. -/
inductive TransmitResult where
  | sent
  | failed (aired : Bool)
deriving Repr, DecidableEq

/-- One pass of the loop: its time and what the radio does in it. -/
structure TxTurn where
  nowMs : Nat
  cad : CadResult
  transmit : TransmitResult
deriving Repr, DecidableEq

/-- How a frame left the queue. -/
inductive TxFate where
  | sent (startMs : Nat)
  | refused
  | pushedOut
deriving Repr, DecidableEq

/-- The sender of the loop.  The last three fields record the frames that left
the queue, those that were on the air, and all that the duplicate filter was
given, with a mark at those that were received. -/
structure TxLoop where
  queue : TxQueue
  airtime : AirtimeLog
  dedup : DuplicateFilter
  backoffUntilMs : Nat
  cadErrStreak : Nat
  left : List (QueuedFrame × TxFate)
  aired : List (Nat × List UInt8)
  seen : List (Bool × List UInt8)

/-- What happens to the sender. -/
inductive TxEvent where
  | enqueue (frame : List UInt8) (tag : Option AckHash)
  | turn (turn : TxTurn)
  | hear (frame : List UInt8)

/-- Whether to send, and the errors in a row, after listening. -/
def clearToSend
    (cadErrStreak : Nat) :
    CadResult → Nat × Option Bool
  | .busy => (0, some false)
  | .clear => (0, some true)
  | .error =>
      if cadFailLimit ≤ cadErrStreak + 1 then
        (0, some true)
      else
        (cadErrStreak + 1, none)

namespace QueuedFrame

/-- The payload type in the frame's header byte. -/
def payloadType
    (frame : QueuedFrame) :
    UInt8 :=
  Header.payloadTypeBits (frame.bytes.getD 0 0)

/-- The airtime of the frame. -/
def airtimeMs
    (frame : QueuedFrame) :
    Nat :=
  loraAirtimeMs frame.bytes.length

end QueuedFrame

namespace TxLoop

/-- Nothing was queued or heard yet. -/
def new : TxLoop :=
  { queue := .new
    airtime := .new
    dedup := .new
    backoffUntilMs := 0
    cadErrStreak := 0
    left := []
    aired := []
    seen := [] }

/-- How long to wait after a failed attempt, which depends on the device. -/
def backoffMs
    (pubHash : UInt8) :
    Nat :=
  1000 + pubHash.toNat % 2000

/-- Wait before the next attempt. -/
def backOff
    (loop : TxLoop)
    (pubHash : UInt8)
    (nowMs : Nat) :
    TxLoop :=
  { loop with backoffUntilMs := nowMs + backoffMs pubHash }

/-- Take the oldest frame out of the queue. -/
def leave
    (loop : TxLoop)
    (frame : QueuedFrame)
    (fate : TxFate) :
    TxLoop :=
  { loop with
    queue := loop.queue.popFront
    left := loop.left ++ [(frame, fate)] }

/-- Send the oldest frame, if it may go out and the budget allows it. -/
def attempt
    (loop : TxLoop)
    (crypto : Crypto)
    (pubHash : UInt8)
    (turn : TxTurn)
    (frame : QueuedFrame) :
    TxLoop :=
  if ¬ txGuardAllows frame.payloadType then
    loop.leave frame .refused
  else if loop.airtime.budget.canTransmit turn.nowMs frame.airtimeMs then
    match turn.transmit with
    | .sent =>
        { loop.leave frame (.sent turn.nowMs) with
          airtime :=
            { budget :=
                loop.airtime.budget.recordTx turn.nowMs frame.airtimeMs
              sent :=
                loop.airtime.sent ++
                  [{ startMs := turn.nowMs
                     durationMs := frame.airtimeMs }] }
          dedup := loop.dedup.insert crypto frame.bytes
          aired := loop.aired ++ [(turn.nowMs, frame.bytes)]
          seen := loop.seen ++ [(false, frame.bytes)] }
    | .failed isAired =>
        { loop.backOff pubHash turn.nowMs with
          aired :=
            if isAired then
              loop.aired ++ [(turn.nowMs, frame.bytes)]
            else
              loop.aired }
  else
    loop.backOff pubHash turn.nowMs

/-- One pass over the queue; a frame without bytes is passed over. -/
def turn
    (loop : TxLoop)
    (crypto : Crypto)
    (pubHash : UInt8)
    (turn : TxTurn) :
    TxLoop :=
  if 0 < loop.queue.count ∧ loop.backoffUntilMs ≤ turn.nowMs then
    let (streak, clear) := clearToSend loop.cadErrStreak turn.cad
    let sensed := { loop with cadErrStreak := streak }
    match clear with
    | none => sensed
    | some false => sensed.backOff pubHash turn.nowMs
    | some true =>
        match loop.queue.peek with
        | none => sensed
        | some frame =>
            if 0 < frame.bytes.length then
              sensed.attempt crypto pubHash turn frame
            else
              sensed
  else
    loop

/-- Queue a frame; a full queue pushes its oldest one out. -/
def enqueue
    (loop : TxLoop)
    (frame : List UInt8)
    (tag : Option AckHash) :
    TxLoop :=
  { loop with
    queue := (loop.queue.enqueue frame tag).1
    left :=
      loop.left ++
        if loop.queue.count = txQueueSlots then
          loop.queue.peek.toList.map fun oldest => (oldest, .pushedOut)
        else
          [] }

/-- A frame was received; one seen before is dropped. -/
def hear
    (loop : TxLoop)
    (crypto : Crypto)
    (frame : List UInt8) :
    TxLoop :=
  if loop.dedup.isDuplicate crypto frame then
    loop
  else
    { loop with
      dedup := loop.dedup.insert crypto frame
      seen := loop.seen ++ [(true, frame)] }

/-- One event. -/
def step
    (crypto : Crypto)
    (pubHash : UInt8)
    (loop : TxLoop) :
    TxEvent → TxLoop
  | .enqueue frame tag => loop.enqueue frame tag
  | .turn turn => loop.turn crypto pubHash turn
  | .hear frame => loop.hear crypto frame

/-- The frames that a run queues, as they are kept. -/
def queuedFrames
    (events : List TxEvent) :
    List QueuedFrame :=
  events.filterMap fun event =>
    match event with
    | .enqueue frame tag =>
        some
          { bytes := frame.take frameBuf
            tag := tag }
    | _ => none

/-- The loop after listening without an error. -/
def sensed
    (loop : TxLoop) :
    TxLoop :=
  { loop with cadErrStreak := 0 }

/-- What a pass does: it waits, hears others, fails to listen, or attempts to send
the oldest frame. -/
theorem turn_cases
    (loop : TxLoop)
    (crypto : Crypto)
    (pubHash : UInt8)
    (turn : TxTurn) :
    ¬ (0 < loop.queue.count ∧ loop.backoffUntilMs ≤ turn.nowMs) ∧
        loop.turn crypto pubHash turn = loop ∨
      (0 < loop.queue.count ∧ loop.backoffUntilMs ≤ turn.nowMs) ∧
        (turn.cad = .busy ∧
            loop.turn crypto pubHash turn =
              loop.sensed.backOff pubHash turn.nowMs ∨
          turn.cad = .error ∧ loop.cadErrStreak + 1 < cadFailLimit ∧
            loop.turn crypto pubHash turn =
              { loop with cadErrStreak := loop.cadErrStreak + 1 } ∨
          (turn.cad = .clear ∨
              turn.cad = .error ∧
                cadFailLimit ≤ loop.cadErrStreak + 1) ∧
            ∃ frame,
              loop.queue.contents.head? = some frame ∧
                loop.turn crypto pubHash turn =
                  if 0 < frame.bytes.length then
                    loop.sensed.attempt crypto pubHash turn frame
                  else
                    loop.sensed) := by
  by_cases gate :
      0 < loop.queue.count ∧ loop.backoffUntilMs ≤ turn.nowMs
  · refine .inr ⟨gate, ?_⟩
    obtain ⟨frame, rest, isPending⟩ :=
      List.exists_cons_of_length_pos
        (show 0 < loop.queue.contents.length by
          rw [Ring.length_contents]
          exact gate.1)
    have oldest : loop.queue.contents.head? = some frame := by
      rw [isPending]
      rfl
    have peeked : loop.queue.peek = some frame := by
      rw [Ring.peek_eq, oldest]
    cases heard : turn.cad with
    | busy =>
        refine .inl ⟨rfl, ?_⟩
        rw [TxLoop.turn, if_pos gate, heard]
        rfl
    | clear =>
        refine .inr (.inr ⟨.inl rfl, frame, oldest, ?_⟩)
        rw [TxLoop.turn, if_pos gate, heard]
        simp only [clearToSend, peeked]
        rfl
    | error =>
        by_cases limit : cadFailLimit ≤ loop.cadErrStreak + 1
        · refine .inr (.inr ⟨.inr ⟨rfl, limit⟩, frame, oldest, ?_⟩)
          rw [TxLoop.turn, if_pos gate, heard]
          simp only [clearToSend, if_pos limit, peeked]
          rfl
        · refine .inr (.inl ⟨rfl, Nat.lt_of_not_le limit, ?_⟩)
          rw [TxLoop.turn, if_pos gate, heard]
          simp only [clearToSend, if_neg limit]
  · exact .inl ⟨gate, if_neg gate⟩

/-- What an attempt does: it refuses an advertisement, sends the frame, fails, or
has no budget left. -/
theorem attempt_cases
    (loop : TxLoop)
    (crypto : Crypto)
    (pubHash : UInt8)
    (turn : TxTurn)
    (frame : QueuedFrame) :
    txGuardAllows frame.payloadType = false ∧
        loop.attempt crypto pubHash turn frame =
          loop.leave frame .refused ∨
      txGuardAllows frame.payloadType = true ∧
        (loop.airtime.budget.canTransmit turn.nowMs frame.airtimeMs =
            false ∧
          loop.attempt crypto pubHash turn frame =
            loop.backOff pubHash turn.nowMs ∨
        loop.airtime.budget.canTransmit turn.nowMs frame.airtimeMs =
            true ∧
          (turn.transmit = .sent ∧
              loop.attempt crypto pubHash turn frame =
                { loop.leave frame (.sent turn.nowMs) with
                  airtime :=
                    loop.airtime.step
                      { startMs := turn.nowMs
                        durationMs := frame.airtimeMs }
                  dedup := loop.dedup.insert crypto frame.bytes
                  aired := loop.aired ++ [(turn.nowMs, frame.bytes)]
                  seen := loop.seen ++ [(false, frame.bytes)] } ∨
            ∃ isAired,
              turn.transmit = .failed isAired ∧
                loop.attempt crypto pubHash turn frame =
                  { loop.backOff pubHash turn.nowMs with
                    aired :=
                      if isAired then
                        loop.aired ++ [(turn.nowMs, frame.bytes)]
                      else
                        loop.aired })) := by
  unfold attempt
  cases guarded : txGuardAllows frame.payloadType with
  | false =>
      exact .inl ⟨rfl, rfl⟩
  | true =>
      refine .inr ⟨rfl, ?_⟩
      cases allowed :
          loop.airtime.budget.canTransmit turn.nowMs frame.airtimeMs with
      | false =>
          exact .inl ⟨rfl, rfl⟩
      | true =>
          refine .inr ⟨rfl, ?_⟩
          cases sending : turn.transmit with
          | sent =>
              refine .inl ⟨rfl, ?_⟩
              simp only [AirtimeLog.step, allowed, if_true]
              rfl
          | failed isAired =>
              exact .inr ⟨isAired, rfl, rfl⟩

/-- The transmission that a frame's fate stands for. -/
def txRecord :
    QueuedFrame × TxFate → Option TxRecord
  | (frame, .sent startMs) =>
      some
        { startMs := startMs
          durationMs := frame.airtimeMs }
  | _ => none

/-- No frame that was received has the key of one of the last frames before it. -/
def NoneSeenAgain
    (crypto : Crypto)
    (seen : List (Bool × List UInt8)) :
    Prop :=
  ∀ earlier first middle second later,
    seen = earlier ++ first :: (middle ++ (true, second) :: later) →
    middle.length < dedupSlots →
      packetDedupKey crypto first.2 ≠ packetDedupKey crypto second

/--
What the sender did with the frames it was given: they are those that left the
queue and those still in it, in one order; what was sent is no advertisement, what
was refused is one, and only given frames are on the air; the budget has all that
was sent, and no frame is handed on that was sent or received shortly before.
-/
structure Ledger
    (crypto : Crypto)
    (queued : List QueuedFrame)
    (loop : TxLoop) :
    Prop where
  conserved : queued = loop.left.map Prod.fst ++ loop.queue.contents
  sentAllowed :
    ∀ frame startMs,
      (frame, .sent startMs) ∈ loop.left →
        txGuardAllows frame.payloadType = true ∧
          (startMs, frame.bytes) ∈ loop.aired ∧
          (false, frame.bytes) ∈ loop.seen
  refused :
    ∀ frame,
      (frame, .refused) ∈ loop.left →
        txGuardAllows frame.payloadType = false
  airedAllowed :
    ∀ startMs bytes,
      (startMs, bytes) ∈ loop.aired →
        ∃ frame ∈ queued,
          frame.bytes = bytes ∧ txGuardAllows frame.payloadType = true
  accounted : loop.airtime.sent = loop.left.filterMap txRecord
  kept : loop.airtime.Kept
  remembered :
    loop.dedup.Remembers
      (loop.seen.map fun entry => packetDedupKey crypto entry.2)
  noneAgain : NoneSeenAgain crypto loop.seen

variable {crypto : Crypto} {pubHash : UInt8}
variable {queued : List QueuedFrame} {loop : TxLoop}

/-- A new sender has done nothing. -/
theorem ledger_new
    (crypto : Crypto) :
    Ledger crypto [] new where
  conserved := rfl
  sentAllowed := by
    intro frame startMs member
    cases member
  refused := by
    intro frame member
    cases member
  airedAllowed := by
    intro startMs bytes member
    cases member
  accounted := rfl
  kept := AirtimeLog.kept_new
  remembered :=
    SeenRing.remembers_empty (Vector.replicate 4 (0 : UInt8))
      (show 0 < dedupSlots by decide)
  noneAgain := by
    intro earlier first middle second later split
    have length := congrArg List.length split
    simp [new] at length

/-- A new frame keeps its distance when it is not a duplicate or is its own. -/
theorem NoneSeenAgain.concat
    {seen : List (Bool × List UInt8)}
    (noneAgain : NoneSeenAgain crypto seen)
    {entry : Bool × List UInt8}
    (isNew :
      entry.1 = true →
        ∀ other ∈ seen.drop (seen.length - dedupSlots),
          packetDedupKey crypto other.2 ≠
            packetDedupKey crypto entry.2) :
    NoneSeenAgain crypto (seen ++ [entry]) := by
  intro earlier first middle second later split near
  rcases List.eq_nil_or_concat later with rfl | ⟨rest, last, rfl⟩
  · have lastSplit :
        seen ++ [entry] =
          (earlier ++ first :: middle) ++ [(true, second)] := by
      rw [split]
      simp
    obtain ⟨rfl, isEntry⟩ := List.append_inj' lastSplit rfl
    cases isEntry
    apply isNew rfl first
    have inside :
        (earlier ++ first :: middle).length - dedupSlots ≤
          earlier.length := by
      simp only [List.length_append, List.length_cons]
      omega
    rw [List.drop_append_of_le_length inside]
    exact List.mem_append_right _ List.mem_cons_self
  · have lastSplit :
        seen ++ [entry] =
          (earlier ++ first :: (middle ++ (true, second) :: rest)) ++
            [last] := by
      rw [split]
      simp
    obtain ⟨isSeen, -⟩ := List.append_inj' lastSplit rfl
    exact noneAgain earlier first middle second rest isSeen near

/-- A frame that is not a duplicate has another key than the last frames. -/
theorem Ledger.isNew
    (ledger : Ledger crypto queued loop)
    {frame : List UInt8}
    (isNew : loop.dedup.isDuplicate crypto frame = false)
    {other : Bool × List UInt8}
    (member :
      other ∈ loop.seen.drop (loop.seen.length - dedupSlots)) :
    packetDedupKey crypto other.2 ≠ packetDedupKey crypto frame := by
  intro same
  have known : loop.dedup.isDuplicate crypto frame = true := by
    apply ledger.remembered.contains_iff.mpr
    rw [List.length_map, ← List.map_drop, ← same]
    exact List.mem_map_of_mem member
  rw [known] at isNew
  cases isNew

/-- Passing the time or counting errors changes nothing in the ledger. -/
theorem Ledger.waits
    (ledger : Ledger crypto queued loop)
    (backoffUntilMs cadErrStreak : Nat) :
    Ledger crypto queued
      { loop with
        backoffUntilMs := backoffUntilMs
        cadErrStreak := cadErrStreak } :=
  { conserved := ledger.conserved
    sentAllowed := ledger.sentAllowed
    refused := ledger.refused
    airedAllowed := ledger.airedAllowed
    accounted := ledger.accounted
    kept := ledger.kept
    remembered := ledger.remembered
    noneAgain := ledger.noneAgain }

/-- What is pending was queued. -/
theorem Ledger.mem_queued
    (ledger : Ledger crypto queued loop)
    {frame : QueuedFrame}
    (oldest : loop.queue.contents.head? = some frame) :
    frame ∈ queued := by
  rw [ledger.conserved]
  exact List.mem_append_right _ (List.mem_of_mem_head? oldest)

/-- The oldest frame leaves the queue and is recorded. -/
theorem leave_conserved
    {frame : QueuedFrame}
    (conserved : queued = loop.left.map Prod.fst ++ loop.queue.contents)
    (oldest : loop.queue.contents.head? = some frame)
    (fate : TxFate) :
    queued =
      (loop.left ++ [(frame, fate)]).map Prod.fst ++
        Ring.contents loop.queue.popFront := by
  obtain ⟨rest, isPending⟩ := List.head?_eq_some_iff.mp oldest
  rw [Ring.contents_popFront, conserved, isPending]
  simp

/-- An attempt keeps the ledger. -/
theorem Ledger.attempt
    (ledger : Ledger crypto queued loop)
    {frame : QueuedFrame}
    (oldest : loop.queue.contents.head? = some frame)
    (pubHash : UInt8)
    (turn : TxTurn) :
    Ledger crypto queued (loop.attempt crypto pubHash turn frame) := by
  have isQueued := ledger.mem_queued oldest
  rcases loop.attempt_cases crypto pubHash turn frame with
    ⟨isAdvert, result⟩ | ⟨mayGo, ⟨-, result⟩ | ⟨allowed, done⟩⟩
  · rw [result]
    refine
      { conserved := leave_conserved ledger.conserved oldest .refused
        sentAllowed := ?_
        refused := ?_
        airedAllowed := ledger.airedAllowed
        accounted := ?_
        kept := ledger.kept
        remembered := ledger.remembered
        noneAgain := ledger.noneAgain }
    · intro other startMs member
      rcases List.mem_append.mp member with before | isNew
      · exact ledger.sentAllowed other startMs before
      · cases List.mem_singleton.mp isNew
    · intro other member
      rcases List.mem_append.mp member with before | isNew
      · exact ledger.refused other before
      · cases List.mem_singleton.mp isNew
        exact isAdvert
    · change loop.airtime.sent = (loop.left ++ [_]).filterMap txRecord
      rw [List.filterMap_append, ledger.accounted]
      exact (List.append_nil _).symm
  · rw [result]
    exact ledger.waits _ _
  rcases done with ⟨-, result⟩ | ⟨isAired, -, result⟩
  · rw [result]
    refine
      { conserved :=
          leave_conserved ledger.conserved oldest (.sent turn.nowMs)
        sentAllowed := ?_
        refused := ?_
        airedAllowed := ?_
        accounted := ?_
        kept := ledger.kept.step _
        remembered := ?_
        noneAgain := ?_ }
    · intro other startMs member
      rcases List.mem_append.mp member with before | isNew
      · obtain ⟨allowed, isAired, isSeen⟩ :=
          ledger.sentAllowed other startMs before
        exact
          ⟨allowed, List.mem_append_left _ isAired,
            List.mem_append_left _ isSeen⟩
      · cases List.mem_singleton.mp isNew
        exact
          ⟨mayGo, List.mem_append_right _ List.mem_cons_self,
            List.mem_append_right _ List.mem_cons_self⟩
    · intro other member
      rcases List.mem_append.mp member with before | isNew
      · exact ledger.refused other before
      · cases List.mem_singleton.mp isNew
    · intro startMs bytes member
      rcases List.mem_append.mp member with before | isNew
      · exact ledger.airedAllowed startMs bytes before
      · cases List.mem_singleton.mp isNew
        exact ⟨frame, isQueued, rfl, mayGo⟩
    · have grown :
          (loop.airtime.step
            { startMs := turn.nowMs
              durationMs := frame.airtimeMs }).sent =
            loop.airtime.sent ++
              [{ startMs := turn.nowMs
                 durationMs := frame.airtimeMs }] := by
        rw [AirtimeLog.step, if_pos allowed]
      change (loop.airtime.step _).sent =
        (loop.left ++ [_]).filterMap txRecord
      rw [grown, List.filterMap_append, ledger.accounted]
      rfl
    · change SeenRing.Remembers _ ((loop.seen ++ [_]).map _)
      rw [List.map_append]
      exact ledger.remembered.insert _
    · apply ledger.noneAgain.concat
      intro isHeard
      cases isHeard
  · rw [result]
    refine
      { conserved := ledger.conserved
        sentAllowed := ?_
        refused := ledger.refused
        airedAllowed := ?_
        accounted := ledger.accounted
        kept := ledger.kept
        remembered := ledger.remembered
        noneAgain := ledger.noneAgain }
    · intro other startMs member
      obtain ⟨allowed, wasAired, isSeen⟩ :=
        ledger.sentAllowed other startMs member
      refine ⟨allowed, ?_, isSeen⟩
      change (startMs, other.bytes) ∈ if isAired = true then _ else _
      split
      · exact List.mem_append_left _ wasAired
      · exact wasAired
    · intro startMs bytes member
      change (startMs, bytes) ∈ if isAired = true then _ else _ at member
      split at member
      · rcases List.mem_append.mp member with before | isNew
        · exact ledger.airedAllowed startMs bytes before
        · cases List.mem_singleton.mp isNew
          exact ⟨frame, isQueued, rfl, mayGo⟩
      · exact ledger.airedAllowed startMs bytes member

/-- A pass over the queue keeps the ledger. -/
theorem Ledger.turn
    (ledger : Ledger crypto queued loop)
    (pubHash : UInt8)
    (turn : TxTurn) :
    Ledger crypto queued (loop.turn crypto pubHash turn) := by
  rcases loop.turn_cases crypto pubHash turn with
    ⟨-, result⟩ | ⟨-, ⟨-, result⟩ | ⟨-, -, result⟩ |
      ⟨-, frame, oldest, result⟩⟩
  · rw [result]
    exact ledger
  · rw [result]
    exact ledger.waits _ _
  · rw [result]
    exact ledger.waits loop.backoffUntilMs _
  · have sensed : Ledger crypto queued loop.sensed :=
      ledger.waits loop.backoffUntilMs _
    rw [result]
    split
    · exact sensed.attempt oldest pubHash turn
    · exact sensed

/-- A received frame keeps the ledger. -/
theorem Ledger.hear
    (ledger : Ledger crypto queued loop)
    (frame : List UInt8) :
    Ledger crypto queued (loop.hear crypto frame) := by
  unfold TxLoop.hear
  cases duplicate : loop.dedup.isDuplicate crypto frame with
  | true =>
      exact ledger
  | false =>
      refine
        { conserved := ledger.conserved
          sentAllowed := ?_
          refused := ledger.refused
          airedAllowed := ledger.airedAllowed
          accounted := ledger.accounted
          kept := ledger.kept
          remembered := ?_
          noneAgain := ?_ }
      · intro other startMs member
        obtain ⟨allowed, isAired, isSeen⟩ :=
          ledger.sentAllowed other startMs member
        exact ⟨allowed, isAired, List.mem_append_left _ isSeen⟩
      · change SeenRing.Remembers _ ((loop.seen ++ [_]).map _)
        rw [List.map_append]
        exact ledger.remembered.insert _
      · apply ledger.noneAgain.concat
        intro _ other member
        exact ledger.isNew duplicate member

/-- A queued frame keeps the ledger; the frame it pushes out is recorded. -/
theorem Ledger.enqueue
    (ledger : Ledger crypto queued loop)
    (frame : List UInt8)
    (tag : Option AckHash) :
    Ledger crypto
      (queued ++
        [{ bytes := frame.take frameBuf
           tag := tag }])
      (loop.enqueue frame tag) := by
  have aired :
      ∀ startMs bytes,
        (startMs, bytes) ∈ loop.aired →
          ∃ other ∈
              queued ++
                [{ bytes := frame.take frameBuf
                   tag := tag }],
            other.bytes = bytes ∧
              txGuardAllows other.payloadType = true := by
    intro startMs bytes member
    obtain ⟨other, isQueued, rest⟩ :=
      ledger.airedAllowed startMs bytes member
    exact ⟨other, List.mem_append_left _ isQueued, rest⟩
  by_cases full : loop.queue.count = txQueueSlots
  · obtain ⟨oldest, rest, isPending⟩ :=
      List.exists_cons_of_length_pos
        (show 0 < loop.queue.contents.length by
          rw [Ring.length_contents, full]
          decide)
    have peeked : loop.queue.peek = some oldest := by
      rw [Ring.peek_eq, isPending]
      rfl
    have pushed :=
      (Ring.push_full (full ▸ loop.queue.length_contents)
        { bytes := frame.take frameBuf
          tag := tag }).1
    have contents :
        (loop.enqueue frame tag).queue.contents =
          rest ++
            [{ bytes := frame.take frameBuf
               tag := tag }] := by
      rw [isPending] at pushed
      exact pushed
    have left :
        (loop.enqueue frame tag).left =
          loop.left ++ [(oldest, .pushedOut)] := by
      rw [TxLoop.enqueue, if_pos full, peeked]
      rfl
    refine
      { conserved := ?_
        sentAllowed := ?_
        refused := ?_
        airedAllowed := aired
        accounted := ?_
        kept := ledger.kept
        remembered := ledger.remembered
        noneAgain := ledger.noneAgain }
    · rw [contents, left, ledger.conserved, isPending]
      simp
    · rw [left]
      intro other startMs member
      rcases List.mem_append.mp member with before | isNew
      · exact ledger.sentAllowed other startMs before
      · cases List.mem_singleton.mp isNew
    · rw [left]
      intro other member
      rcases List.mem_append.mp member with before | isNew
      · exact ledger.refused other before
      · cases List.mem_singleton.mp isNew
    · rw [left, List.filterMap_append]
      exact ledger.accounted.trans (List.append_nil _).symm
  · have room : loop.queue.contents.length < txQueueSlots := by
      rw [Ring.length_contents]
      exact Nat.lt_of_le_of_ne loop.queue.fits full
    have contents :
        (loop.enqueue frame tag).queue.contents =
          loop.queue.contents ++
            [{ bytes := frame.take frameBuf
               tag := tag }] :=
      (Ring.push_room room _).1
    have left : (loop.enqueue frame tag).left = loop.left := by
      rw [TxLoop.enqueue, if_neg full]
      exact List.append_nil _
    refine
      { conserved := ?_
        sentAllowed := ?_
        refused := ?_
        airedAllowed := aired
        accounted := ?_
        kept := ledger.kept
        remembered := ledger.remembered
        noneAgain := ledger.noneAgain }
    · rw [contents, left, ledger.conserved, List.append_assoc]
    · rw [left]
      exact ledger.sentAllowed
    · rw [left]
      exact ledger.refused
    · rw [left]
      exact ledger.accounted

/-- Each event keeps the ledger, with the frame it queues. -/
theorem Ledger.step
    (ledger : Ledger crypto queued loop)
    (pubHash : UInt8)
    (event : TxEvent) :
    Ledger crypto (queued ++ queuedFrames [event])
      (TxLoop.step crypto pubHash loop event) := by
  cases event with
  | enqueue frame tag =>
      exact ledger.enqueue frame tag
  | turn turn =>
      rw [show queuedFrames [.turn turn] = [] from rfl, List.append_nil]
      exact ledger.turn pubHash turn
  | hear frame =>
      rw [show queuedFrames [.hear frame] = [] from rfl, List.append_nil]
      exact ledger.hear frame

/-- A run keeps the ledger, with the frames it queues. -/
theorem Ledger.run
    (ledger : Ledger crypto queued loop)
    (pubHash : UInt8)
    (events : List TxEvent) :
    Ledger crypto (queued ++ queuedFrames events)
      (Transition.run (TxLoop.step crypto pubHash) loop events) := by
  induction events generalizing queued loop with
  | nil =>
      rw [show queuedFrames [] = [] from rfl, List.append_nil]
      exact ledger
  | cons event rest inductionHypothesis =>
      have split :
          queuedFrames (event :: rest) =
            queuedFrames [event] ++ queuedFrames rest := by
        rw [queuedFrames, queuedFrames, queuedFrames,
          ← List.filterMap_append]
        rfl
      rw [split, ← List.append_assoc, Transition.run_cons]
      exact inductionHypothesis (ledger.step pubHash event)

/--
Along every run, whatever is queued, heard or goes wrong at the radio: no frame is
lost, duplicated or overtaken, only frames that were queued go on the air and never
an advertisement, a frame that left was sent, is an advertisement, or was pushed
out, the budget has everything that was sent, and no frame is handed on whose key
was sent or received among the last 128.
-/
theorem tx_ledger
    (crypto : Crypto)
    (pubHash : UInt8)
    (events : List TxEvent) :
    Ledger crypto (queuedFrames events)
      (Transition.run (TxLoop.step crypto pubHash) new events) :=
  (ledger_new crypto).run pubHash events

end TxLoop

end MeshCadet
