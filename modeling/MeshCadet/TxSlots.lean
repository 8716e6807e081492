import MeshCadet.TxQueue

namespace MeshCadet

/-!
# The buffers of the transmit queue

The transmit queue is laid out as three parallel arrays (frame buffers, lengths
and tags) around a head and a count.  A slot is overwritten in place, so a
buffer keeps the bytes of earlier frames behind its length.  `TxSlots.toRing`
forgets these stale bytes; every operation then is the operation of the ring,
and a whole run is a run of a list that holds at most four frames.
-/

open RingBuffer

/-- The queue as it is laid out in memory. -/
structure TxSlots where
  bufs : Vector (Vector UInt8 frameBuf) txQueueSlots
  lens : Vector Nat txQueueSlots
  tags : Vector (Option AckHash) txQueueSlots
  head : Nat
  count : Nat
  headInside : head < txQueueSlots
  countFits : count ≤ txQueueSlots
  lensFit : ∀ index : Fin txQueueSlots, lens.get index ≤ frameBuf

/-- Copy a frame to the front of a buffer; the bytes behind it stay. -/
def copyFrame
    (buf : Vector UInt8 frameBuf)
    (frame : List UInt8) :
    Vector UInt8 frameBuf :=
  Vector.ofFn fun index =>
    if index.val < frame.length then frame.getD index.val 0
    else buf.get index

/-- A buffer that a frame was copied into starts with that frame. -/
theorem take_copyFrame
    (buf : Vector UInt8 frameBuf)
    (frame : List UInt8) :
    (copyFrame buf frame).toList.take (min frame.length frameBuf) =
      frame.take frameBuf := by
  apply List.ext_getElem
  · simp
    omega
  · intro index inBuffer inFrame
    have inside : index < frame.length := by
      simp at inFrame
      omega
    simp [copyFrame, inside]

/-- Dropping at most as many elements as there are. -/
theorem drop_min
    (count : Nat)
    (bytes : List UInt8) :
    bytes.drop (min count bytes.length) = bytes.drop count := by
  rcases Nat.le_total count bytes.length with inside | past
  · rw [Nat.min_eq_left inside]
  · rw [Nat.min_eq_right past, List.drop_length,
      List.drop_eq_nil_of_le past]

namespace TxSlots

/-- Zeroed lengths lie inside the buffers. -/
theorem zeroed_fit
    (index : Fin txQueueSlots) :
    ((Vector.replicate txQueueSlots 0).get index : Nat) ≤ frameBuf := by
  simp [Vector.get]

/-- The first slot is one of the slots. -/
theorem slots_positive :
    0 < txQueueSlots :=
  Nat.succ_pos 3

/-- All slots free and zeroed. -/
def new : TxSlots :=
  { bufs := Vector.replicate txQueueSlots (Vector.replicate frameBuf 0)
    lens := Vector.replicate txQueueSlots 0
    tags := Vector.replicate txQueueSlots none
    head := 0
    count := 0
    headInside := slots_positive
    countFits := Nat.zero_le _
    lensFit := zeroed_fit }

/-- The slot of the oldest frame. -/
def oldest
    (queue : TxSlots) :
    Fin txQueueSlots :=
  ⟨queue.head, queue.headInside⟩

/-- The first free slot behind the pending frames. -/
def firstFree
    (queue : TxSlots) :
    Fin txQueueSlots :=
  ⟨(queue.head + queue.count) % txQueueSlots, Nat.mod_lt _ (by decide)⟩

/-- Fill one slot: the front of its buffer, its length and its tag. -/
def store
    (queue : TxSlots)
    (index : Fin txQueueSlots)
    (frame : List UInt8)
    (tag : Option AckHash) :
    TxSlots :=
  { queue with
    bufs :=
      queue.bufs.set index (copyFrame (queue.bufs.get index) frame)
        index.isLt
    lens :=
      queue.lens.set index (min frame.length frameBuf) index.isLt
    tags := queue.tags.set index tag index.isLt
    lensFit := by
      intro read
      rw [get_set]
      split
      · exact Nat.min_le_right _ _
      · exact queue.lensFit read }

/-- Move the head to the next slot. -/
def advance
    (queue : TxSlots) :
    TxSlots :=
  { queue with
    head := (queue.head + 1) % txQueueSlots
    headInside := Nat.mod_lt _ (by decide) }

/-- One more pending frame. -/
def grow
    (queue : TxSlots)
    (notFull : queue.count ≠ txQueueSlots) :
    TxSlots :=
  { queue with
    count := queue.count + 1
    countFits := Nat.lt_of_le_of_ne queue.countFits notFull }

/--
Enqueue a frame.  On a full queue the oldest slot is reused, and its length
and tag are read before it is overwritten.
-/
def enqueue
    (queue : TxSlots)
    (frame : List UInt8)
    (tag : Option AckHash) :
    TxSlots × Option (Nat × Option AckHash) :=
  if full : queue.count = txQueueSlots then
    ((queue.store queue.oldest frame tag).advance,
      some (queue.lens.get queue.oldest, queue.tags.get queue.oldest))
  else
    ((queue.store queue.firstFree frame tag).grow full, none)

/--
Copy the oldest frame to the front of `out`.  Returns `out` after the copy and
the number of bytes copied.
-/
def peek
    (queue : TxSlots)
    (out : List UInt8) :
    List UInt8 × Nat :=
  if queue.count = 0 then
    (out, 0)
  else
    let n := min (queue.lens.get queue.oldest) out.length
    ((queue.bufs.get queue.oldest).toList.take n ++ out.drop n, n)

/-- Remove the oldest frame, if there is one. -/
def popFront
    (queue : TxSlots) :
    TxSlots :=
  if queue.count = 0 then
    queue
  else
    { queue.advance with
      count := queue.count - 1
      countFits := Nat.le_trans (Nat.sub_le _ _) queue.countFits }

/-- At least one frame is waiting. -/
def hasPending
    (queue : TxSlots) :
    Bool :=
  decide (0 < queue.count)

/-- The frame a slot holds, without the stale bytes behind its length. -/
def frameAt
    (queue : TxSlots)
    (index : Fin txQueueSlots) :
    QueuedFrame :=
  { bytes := (queue.bufs.get index).toList.take (queue.lens.get index)
    tag := queue.tags.get index }

/-- The ring of frames that the buffers represent. -/
def toRing
    (queue : TxSlots) :
    TxQueue :=
  { slots := Vector.ofFn queue.frameAt
    head := queue.head
    count := queue.count
    headInside := queue.headInside
    fits := queue.countFits }

/-- The pending frames, oldest first. -/
def held
    (queue : TxSlots) :
    List QueuedFrame :=
  queue.toRing.contents

@[simp] theorem get_toRing
    (queue : TxSlots)
    (index : Fin txQueueSlots) :
    queue.toRing.slots.get index = queue.frameAt index := by
  have read :
      (Vector.ofFn queue.frameAt)[index.val] =
        queue.frameAt ⟨index.val, index.isLt⟩ :=
    Vector.getElem_ofFn index.isLt
  exact read

@[simp] theorem held_new :
    new.held = [] :=
  rfl

/-- The length of a stored frame is the length in its slot. -/
theorem length_frameAt
    (queue : TxSlots)
    (index : Fin txQueueSlots) :
    (queue.frameAt index).bytes.length = queue.lens.get index := by
  have fits := queue.lensFit index
  simp only [frameAt, List.length_take, Vector.length_toList]
  exact Nat.min_eq_left fits

/-- A filled slot holds the new frame; every other slot holds its old one. -/
theorem frameAt_store
    (queue : TxSlots)
    (index read : Fin txQueueSlots)
    (frame : List UInt8)
    (tag : Option AckHash) :
    (queue.store index frame tag).frameAt read =
      if index = read then
        { bytes := frame.take frameBuf, tag := tag }
      else queue.frameAt read := by
  by_cases same : index = read
  · subst same
    simp only [frameAt, store, get_set, if_true]
    rw [take_copyFrame]
  · have apart : index.val ≠ read.val := fun equal =>
      same (Fin.ext equal)
    simp only [frameAt, store, get_set, if_neg apart, if_neg same]

/-- Filling a slot sets that element of the ring. -/
theorem toRing_slots_store
    (queue : TxSlots)
    (index : Fin txQueueSlots)
    (frame : List UInt8)
    (tag : Option AckHash) :
    (queue.store index frame tag).toRing.slots =
      queue.toRing.slots.set index
        { bytes := frame.take frameBuf, tag := tag } index.isLt := by
  apply Vector.ext
  intro read inside
  have stored := queue.frameAt_store index ⟨read, inside⟩ frame tag
  rw [Vector.getElem_set]
  simp [toRing, stored, Fin.ext_iff]

/-- Enqueueing on the buffers is enqueueing on the ring they represent. -/
theorem toRing_enqueue
    (queue : TxSlots)
    (frame : List UInt8)
    (tag : Option AckHash) :
    ((queue.enqueue frame tag).1.toRing,
        (queue.enqueue frame tag).2) =
      queue.toRing.enqueue frame tag := by
  let element : QueuedFrame :=
    { bytes := frame.take frameBuf, tag := tag }
  by_cases full : queue.count = txQueueSlots
  · have slots := queue.toRing_slots_store queue.oldest frame tag
    have pushed :
        queue.toRing.push element =
          ((queue.store queue.oldest frame tag).advance.toRing,
            some (queue.toRing.slots.get queue.oldest)) := by
      have isFull : queue.toRing.count = txQueueSlots := full
      rw [Ring.push, dif_pos isFull]
      refine Prod.ext ?_ rfl
      have sameSlots :
          (queue.store queue.oldest frame tag).advance.toRing.slots =
            queue.toRing.slots.set queue.oldest element
              queue.oldest.isLt :=
        slots
      exact Ring.eq_of_parts sameSlots.symm rfl rfl
    rw [TxQueue.enqueue, pushed, enqueue, dif_pos full]
    simp only [get_toRing, Option.map_some, length_frameAt]
    rfl
  · have slots := queue.toRing_slots_store queue.firstFree frame tag
    have pushed :
        queue.toRing.push element =
          (((queue.store queue.firstFree frame tag).grow full).toRing,
            none) := by
      have notFull : queue.toRing.count ≠ txQueueSlots := full
      rw [Ring.push, dif_neg notFull]
      refine Prod.ext ?_ rfl
      have sameSlots :
          ((queue.store queue.firstFree frame tag).grow full).toRing.slots =
            queue.toRing.slots.set queue.firstFree element
              queue.firstFree.isLt :=
        slots
      exact Ring.eq_of_parts sameSlots.symm rfl rfl
    rw [TxQueue.enqueue, pushed, enqueue, dif_neg full]
    rfl

/-- Removing the oldest frame removes it from the ring. -/
theorem toRing_popFront
    (queue : TxSlots) :
    queue.popFront.toRing = Ring.popFront queue.toRing := by
  have sameCount : queue.toRing.count = queue.count := rfl
  by_cases isEmpty : queue.count = 0
  · rw [popFront, if_pos isEmpty, Ring.popFront,
      if_pos (sameCount.trans isEmpty)]
  · rw [popFront, if_neg isEmpty, Ring.popFront,
      if_neg (show queue.toRing.count ≠ 0 from isEmpty)]
    rfl

/-- What a peek copies is the front of the oldest pending frame. -/
theorem peek_eq
    (queue : TxSlots)
    (out : List UInt8) :
    queue.peek out =
      match queue.held with
      | [] => (out, 0)
      | oldest :: _ =>
          (oldest.bytes.take out.length ++ out.drop oldest.bytes.length,
            min oldest.bytes.length out.length) := by
  have front : queue.toRing.peek = queue.held.head? :=
    Ring.peek_eq queue.toRing
  by_cases isEmpty : queue.count = 0
  · rw [Ring.peek, if_pos (show queue.toRing.count = 0 from isEmpty)]
      at front
    have nothing : queue.held = [] :=
      List.head?_eq_none_iff.mp front.symm
    rw [peek, if_pos isEmpty, nothing]
  · rw [Ring.peek, if_neg (show queue.toRing.count ≠ 0 from isEmpty)]
      at front
    cases pending : queue.held with
    | nil =>
        rw [pending] at front
        cases front
    | cons oldest rest =>
        rw [pending, List.head?_cons, Option.some_inj] at front
        have isOldest : queue.frameAt queue.oldest = oldest := by
          rw [← front]
          exact (queue.get_toRing queue.oldest).symm
        have length := queue.length_frameAt queue.oldest
        rw [isOldest] at length
        have bytes :
            (queue.bufs.get queue.oldest).toList.take
                (min (queue.lens.get queue.oldest) out.length) =
              oldest.bytes.take out.length := by
          rw [← isOldest, frameAt, List.take_take, Nat.min_comm]
        rw [peek, if_neg isEmpty]
        simp only [bytes]
        rw [← length, drop_min]

end TxSlots

/-- An operation on the transmit queue. -/
inductive TxOp where
  | enqueue (frame : List UInt8) (tag : Option AckHash)
  | peek (out : List UInt8)
  | popFront
deriving Repr, DecidableEq

/-- What an operation on the transmit queue returns. -/
inductive TxReturn where
  | evicted (oldest : Option (Nat × Option AckHash))
  | copied (out : List UInt8) (bytes : Nat)
  | removed
deriving Repr, DecidableEq

namespace TxOp

/-- The operation does not enqueue a frame longer than a buffer. -/
def FrameFits : TxOp → Prop
  | .enqueue frame _ => frame.length ≤ frameBuf
  | .peek _ => True
  | .popFront => True

instance
    (op : TxOp) :
    Decidable op.FrameFits :=
  match op with
  | .enqueue frame _ =>
      inferInstanceAs (Decidable (frame.length ≤ frameBuf))
  | .peek _ => .isTrue trivial
  | .popFront => .isTrue trivial

/-- The frame an operation enqueues. -/
def enqueued? : TxOp → Option QueuedFrame
  | .enqueue frame tag => some { bytes := frame, tag := tag }
  | .peek _ => none
  | .popFront => none

/-- An operation on the buffers. -/
def onSlots
    (queue : TxSlots) :
    TxOp → TxSlots × TxReturn
  | .enqueue frame tag =>
      let (pushed, dropped) := queue.enqueue frame tag
      (pushed, .evicted dropped)
  | .peek out =>
      let (copied, bytes) := queue.peek out
      (queue, .copied copied bytes)
  | .popFront =>
      (queue.popFront, .removed)

/--
An operation on a list of at most four frames: append at the end, dropping the
first frame of a full list; copy the first frame; remove the first frame.
-/
def onList
    (frames : List QueuedFrame) :
    TxOp → List QueuedFrame × TxReturn
  | .enqueue frame tag =>
      let element : QueuedFrame := { bytes := frame, tag := tag }
      if frames.length < txQueueSlots then
        (frames ++ [element], .evicted none)
      else
        (frames.tail ++ [element],
          .evicted (frames.head?.map fun oldest =>
            (oldest.bytes.length, oldest.tag)))
  | .peek out =>
      match frames with
      | [] => (frames, .copied out 0)
      | oldest :: _ =>
          (frames,
            .copied
              (oldest.bytes.take out.length ++
                out.drop oldest.bytes.length)
              (min oldest.bytes.length out.length))
  | .popFront =>
      (frames.tail, .removed)

end TxOp

/-- Run operations in order, collecting what they return. -/
def runTxOps
    {State : Type}
    (step : State → TxOp → State × TxReturn) :
    State → List TxOp → State × List TxReturn
  | state, [] => (state, [])
  | state, op :: rest =>
      let (next, returned) := step state op
      let (final, more) := runTxOps step next rest
      (final, returned :: more)

/-- The frames a run enqueues, in order. -/
def enqueuedFrames
    (ops : List TxOp) :
    List QueuedFrame :=
  ops.filterMap TxOp.enqueued?

namespace TxOp

/--
One operation: the buffers return what the list returns, and hold the frames
of the list afterwards.
-/
theorem onSlots_eq_onList
    (queue : TxSlots)
    (op : TxOp)
    (fits : op.FrameFits) :
    ((onSlots queue op).1.held, (onSlots queue op).2) =
      onList queue.held op := by
  cases op with
  | enqueue frame tag =>
      have whole : frame.take frameBuf = frame :=
        List.take_of_length_le fits
      have onRing := queue.toRing_enqueue frame tag
      rw [TxQueue.enqueue, whole] at onRing
      have held := congrArg (fun pair => Ring.contents pair.1) onRing
      have dropped := congrArg Prod.snd onRing
      simp only at held dropped
      have newHeld :
          (onSlots queue (.enqueue frame tag)).1.held =
            Ring.contents (queue.enqueue frame tag).1.toRing := rfl
      have returned :
          (onSlots queue (.enqueue frame tag)).2 =
            .evicted (queue.enqueue frame tag).2 := rfl
      rw [newHeld, returned, held, dropped]
      rcases Nat.lt_or_eq_of_le (Ring.length_contents_le queue.toRing)
        with room | full
      · obtain ⟨contents, none⟩ :=
          Ring.push_room room { bytes := frame, tag := tag }
        have inside : queue.held.length < txQueueSlots := room
        rw [contents, none, onList, if_pos inside]
        rfl
      · obtain ⟨contents, oldest⟩ :=
          Ring.push_full full { bytes := frame, tag := tag }
        have notInside : ¬ queue.held.length < txQueueSlots :=
          Nat.not_lt_of_ge (Nat.le_of_eq full.symm)
        rw [contents, oldest, onList, if_neg notInside]
        rfl
  | peek out =>
      have copied := queue.peek_eq out
      have returned :
          onSlots queue (.peek out) =
            (queue, .copied (queue.peek out).1 (queue.peek out).2) := rfl
      rw [returned, copied]
      cases queue.held with
      | nil =>
          rfl
      | cons oldest rest =>
          rfl
  | popFront =>
      have removed := Ring.contents_popFront queue.toRing
      rw [← queue.toRing_popFront] at removed
      exact Prod.ext removed rfl

/-- An operation on the list leaves at most four frames. -/
theorem length_onList_le
    {frames : List QueuedFrame}
    (bounded : frames.length ≤ txQueueSlots)
    (op : TxOp) :
    (onList frames op).1.length ≤ txQueueSlots := by
  cases op with
  | enqueue frame tag =>
      by_cases room : frames.length < txQueueSlots
      · simp only [onList, if_pos room, List.length_append,
          List.length_singleton]
        exact room
      · have full : frames.length = txQueueSlots := by omega
        simp [onList, full, txQueueSlots]
  | peek out =>
      cases frames <;> exact bounded
  | popFront =>
      have shorter := List.length_tail (l := frames)
      simp [onList]
      omega

/--
An operation on the list keeps its order: the frames left are the end of the
frames there were and the one enqueued.
-/
theorem onList_isSuffix
    (frames : List QueuedFrame)
    (op : TxOp) :
    (onList frames op).1 <:+ frames ++ op.enqueued?.toList := by
  cases op with
  | enqueue frame tag =>
      by_cases room : frames.length < txQueueSlots
      · simp [onList, enqueued?, room]
      · simp only [onList, enqueued?, if_neg room, Option.toList_some]
        obtain ⟨front, split⟩ := List.tail_suffix frames
        refine ⟨front, ?_⟩
        rw [← List.append_assoc, split]
  | peek out =>
      cases frames <;> simp [onList, enqueued?]
  | popFront =>
      simpa [onList, enqueued?] using List.tail_suffix frames

end TxOp

/-- A run of the buffers is a run of the list. -/
theorem runTxOps_held
    (queue : TxSlots)
    (ops : List TxOp)
    (fit : ∀ op ∈ ops, op.FrameFits) :
    ((runTxOps TxOp.onSlots queue ops).1.held,
        (runTxOps TxOp.onSlots queue ops).2) =
      runTxOps TxOp.onList queue.held ops := by
  induction ops generalizing queue with
  | nil =>
      rfl
  | cons op rest inductionHypothesis =>
      have step :=
        TxOp.onSlots_eq_onList queue op (fit op List.mem_cons_self)
      have later :=
        inductionHypothesis (TxOp.onSlots queue op).1
          fun other member => fit other (List.mem_cons_of_mem op member)
      have nextHeld := congrArg Prod.fst step
      have returned := congrArg Prod.snd step
      simp only at nextHeld returned
      rw [nextHeld] at later
      simp only [runTxOps, ← later, ← returned]

/-- A run of the list never holds more than four frames. -/
theorem length_runTxOps_le
    {frames : List QueuedFrame}
    (bounded : frames.length ≤ txQueueSlots)
    (ops : List TxOp) :
    (runTxOps TxOp.onList frames ops).1.length ≤ txQueueSlots := by
  induction ops generalizing frames with
  | nil =>
      exact bounded
  | cons op rest inductionHypothesis =>
      exact inductionHypothesis (TxOp.length_onList_le bounded op)

/-- What a run of the list holds is the end of what was enqueued. -/
theorem runTxOps_isSuffix
    (frames : List QueuedFrame)
    (ops : List TxOp) :
    (runTxOps TxOp.onList frames ops).1 <:+
      frames ++ enqueuedFrames ops := by
  induction ops generalizing frames with
  | nil =>
      simp [runTxOps, enqueuedFrames]
  | cons op rest inductionHypothesis =>
      have later := inductionHypothesis (TxOp.onList frames op).1
      obtain ⟨front, split⟩ := TxOp.onList_isSuffix frames op
      have enqueued :
          enqueuedFrames (op :: rest) =
            op.enqueued?.toList ++ enqueuedFrames rest := by
        cases first : op.enqueued? <;>
          simp [enqueuedFrames, first]
      rw [enqueued, ← List.append_assoc, ← split, List.append_assoc]
      exact later.trans (List.suffix_append _ _)

/--
The transmit queue refines a first-in first-out list of at most four frames.
In every run the buffers return exactly what the list returns and hold exactly
its frames, which are the last ones enqueued, in order and unaltered.
-/
theorem txQueue_refines_fifo
    (ops : List TxOp)
    (fit : ∀ op ∈ ops, op.FrameFits) :
    (runTxOps TxOp.onSlots TxSlots.new ops).2 =
        (runTxOps TxOp.onList [] ops).2 ∧
      (runTxOps TxOp.onSlots TxSlots.new ops).1.held =
        (runTxOps TxOp.onList [] ops).1 ∧
      (runTxOps TxOp.onSlots TxSlots.new ops).1.held.length ≤
        txQueueSlots ∧
      (runTxOps TxOp.onSlots TxSlots.new ops).1.held <:+
        enqueuedFrames ops := by
  have refines := runTxOps_held TxSlots.new ops fit
  have held := congrArg Prod.fst refines
  have returned := congrArg Prod.snd refines
  simp only [TxSlots.held_new] at held returned
  refine ⟨returned, held, ?_, ?_⟩
  · rw [held]
    exact length_runTxOps_le (Nat.zero_le _) ops
  · rw [held]
    exact runTxOps_isSuffix [] ops

/-- Five frames through the queue, the first of them dropped. -/
theorem txQueue_refines_fifo_full :
    (runTxOps TxOp.onSlots TxSlots.new
        [.enqueue [1, 2] none, .enqueue [3] none, .enqueue [4] none,
          .enqueue [5] none, .enqueue [6] none, .popFront,
          .peek [0, 0, 0]]).2 =
      [.evicted none, .evicted none, .evicted none, .evicted none,
        .evicted (some (2, none)), .removed, .copied [4, 0, 0] 1] :=
  (txQueue_refines_fifo _ (by decide)).1.trans (by decide)

end MeshCadet
