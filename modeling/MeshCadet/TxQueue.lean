import MeshCadet.RingBuffer

namespace MeshCadet

/-!
# The transmit queue

Frames wait for the radio in a ring of four slots.  A frame that is expected to
earn an acknowledgement carries its hash as a tag, so that the caller can tell
which send lost its frame when a full queue drops the oldest one.
-/

open RingBuffer

/-- Bytes of the hash by which an acknowledgement names its message. -/
abbrev AckHash : Type :=
  Vector UInt8 4

/-- Bytes a frame buffer holds. -/
def frameBuf : Nat :=
  255

/-- Frames the transmit queue holds. -/
def txQueueSlots : Nat :=
  4

/-- A pending frame and the acknowledgement it is expected to earn. -/
structure QueuedFrame where
  bytes : List UInt8
  tag : Option AckHash
deriving Repr, DecidableEq

/-- First-in first-out queue of pending frames. -/
abbrev TxQueue : Type :=
  Ring QueuedFrame txQueueSlots

namespace TxQueue

/-- An empty queue. -/
def new : TxQueue :=
  Ring.empty { bytes := [], tag := none } (by decide)

/--
Add a frame.  A full queue drops its oldest frame and returns that frame's
length and tag.
-/
def enqueue
    (queue : TxQueue)
    (frame : List UInt8)
    (tag : Option AckHash) :
    TxQueue × Option (Nat × Option AckHash) :=
  let (pushed, dropped) :=
    queue.push { bytes := frame.take frameBuf, tag := tag }
  (pushed, dropped.map fun oldest => (oldest.bytes.length, oldest.tag))

/-- The tags of the pending frames, oldest first. -/
def tags
    (queue : TxQueue) :
    List (Option AckHash) :=
  queue.contents.map QueuedFrame.tag

@[simp] theorem tags_new :
    new.tags = [] :=
  rfl

/-- The queue never holds more frames than it has slots. -/
theorem length_tags_le
    (queue : TxQueue) :
    queue.tags.length ≤ txQueueSlots := by
  simpa [tags] using queue.fits

/-- Frames pushed onto a queue push as many out at the front as do not fit. -/
structure Pushes
    (before pushed dropped after : List (Option AckHash)) :
    Prop where
  conserved : before ++ pushed = dropped ++ after
  length : after.length = min (before.length + pushed.length) txQueueSlots

/-- Pushing nothing changes nothing. -/
theorem Pushes.nothing
    (queue : TxQueue) :
    Pushes queue.tags [] [] queue.tags :=
  { conserved := by simp
    length := by
      have fits := queue.length_tags_le
      simp
      omega }

/-- One push after another is one push of both. -/
theorem Pushes.append
    {before pushed dropped between more lost after : List (Option AckHash)}
    (first : Pushes before pushed dropped between)
    (second : Pushes between more lost after) :
    Pushes before (pushed ++ more) (dropped ++ lost) after :=
  { conserved := by
      rw [← List.append_assoc, first.conserved, List.append_assoc,
        second.conserved, List.append_assoc]
    length := by
      have firstLength := first.length
      have secondLength := second.length
      simp only [List.length_append]
      omega }

/-- What is pushed out is the front part that does not fit. -/
theorem Pushes.dropped_eq
    {before pushed dropped after : List (Option AckHash)}
    (pushes : Pushes before pushed dropped after) :
    dropped =
      (before ++ pushed).take
        ((before ++ pushed).length - txQueueSlots) := by
  have total := congrArg List.length pushes.conserved
  have length := pushes.length
  simp only [List.length_append] at total
  have dropCount :
      (dropped ++ after).length - txQueueSlots = dropped.length := by
    rw [List.length_append]
    omega
  rw [pushes.conserved, dropCount, List.take_left]

/-- A single push only drops what was queued before. -/
theorem Pushes.mem_of_dropped
    {before dropped after : List (Option AckHash)}
    {tag lost : Option AckHash}
    (pushes : Pushes before [tag] dropped after)
    (member : lost ∈ dropped) :
    lost ∈ before := by
  have fromFront :
      (before ++ [tag]).length - txQueueSlots ≤ before.length := by
    simp [txQueueSlots]
  rw [pushes.dropped_eq, List.take_append_of_le_length fromFront] at member
  exact List.mem_of_mem_take member

/-- The only copy of a new tag is the one just pushed. -/
theorem Pushes.count_new
    {before dropped after : List (Option AckHash)}
    {tag : Option AckHash}
    (pushes : Pushes before [tag] dropped after)
    (isNew : tag ∉ before) :
    after.count tag = 1 := by
  have noneBefore : before.count tag = 0 :=
    List.count_eq_zero_of_not_mem isNew
  have noneDropped : dropped.count tag = 0 :=
    List.count_eq_zero_of_not_mem fun member =>
      isNew (pushes.mem_of_dropped member)
  have conserved := congrArg (List.count tag) pushes.conserved
  rw [List.count_append, List.count_append,
    List.count_singleton_self] at conserved
  omega

/-- An enqueue pushes the new frame. -/
theorem enqueue_pushes
    (queue : TxQueue)
    (frame : List UInt8)
    (tag : Option AckHash) :
    Pushes queue.tags [tag]
      ((queue.enqueue frame tag).2.toList.map Prod.snd)
      (queue.enqueue frame tag).1.tags := by
  let element : QueuedFrame := { bytes := frame.take frameBuf, tag := tag }
  rcases Nat.lt_or_eq_of_le queue.length_contents_le with room | full
  · obtain ⟨contents, dropped⟩ := Ring.push_room room element
    have after :
        (queue.enqueue frame tag).1.tags = queue.tags ++ [tag] := by
      simp [enqueue, tags, contents, element]
    have lost :
        (queue.enqueue frame tag).2.toList.map Prod.snd = [] := by
      simp [enqueue, dropped, element]
    refine
      { conserved := by rw [after, lost, List.nil_append]
        length := ?_ }
    · have inside : queue.tags.length < txQueueSlots := by
        simpa [tags] using room
      simp [after]
      omega
  · obtain ⟨contents, dropped⟩ := Ring.push_full full element
    cases queued : queue.contents with
    | nil =>
        rw [queued] at full
        cases full
    | cons oldest rest =>
        have before :
            queue.tags = oldest.tag :: rest.map QueuedFrame.tag := by
          simp [tags, queued]
        have after :
            (queue.enqueue frame tag).1.tags =
              rest.map QueuedFrame.tag ++ [tag] := by
          simp [enqueue, tags, contents, queued, element]
        rw [queued, List.length_cons] at full
        have lost :
            (queue.enqueue frame tag).2.toList.map Prod.snd =
              [oldest.tag] := by
          simp [enqueue, dropped, queued, element]
        refine
          { conserved := by simp [before, after, lost]
            length := ?_ }
        · simp [before, after]
          omega

/-- Taking the oldest frame out leaves the other tags. -/
theorem popFront_tags
    (queue : TxQueue) :
    tags queue.popFront = queue.tags.tail := by
  simp [tags, Ring.contents_popFront]

/-- The frame that goes out next is the oldest one. -/
theorem peek_tag
    (queue : TxQueue) :
    queue.peek.bind QueuedFrame.tag = queue.tags.head?.join := by
  rw [Ring.peek_eq, tags, List.head?_map]
  cases queue.contents.head? <;> rfl

end TxQueue

end MeshCadet
