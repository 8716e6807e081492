import Mathlib.Data.List.Nodup
import Mathlib.Data.Option.Basic
import MeshCadet.Dispatcher
import MeshCadet.Transition

namespace MeshCadet

/-!
# Sends that are given up

A send is reported undelivered when its frame is pushed out of the full queue, when
the full table evicts it, or when its deadline passes and it is not retried.  A
report is right when no copy is left that could still go on air, and for a frame
pushed out when none on air is within its deadline either.  A retry adds copies, so
the accounting below counts those of every tracked send.
-/

open Dispatcher OutstandingSends Transition TxQueue

/-- A send reported undelivered, with the copies it had at that moment. -/
structure UndeliveredReport where
  cause : UndeliveredCause
  send : OutstandingSend
  copiesQueued : Nat
  copiesOnAir : Nat
  reportedAt : Nat
deriving Repr, DecidableEq

/-- No copy is left in the queue to go on air, and if the queue dropped one, none on
air is within its deadline. -/
structure UndeliveredReport.Sound
    (report : UndeliveredReport) :
    Prop where
  noneQueued : report.copiesQueued = 0
  noneAwaited :
    report.cause = .queueEviction →
      0 < report.copiesOnAir → report.send.deadlineMs ≤ report.reportedAt

/-- The dispatcher with a record of what it sent and reported. -/
structure TrackedDispatcher where
  dispatcher : Dispatcher
  sent : List AckHash
  onAir : List AckHash
  reports : List UndeliveredReport
  late : List AckHash

/-- What happens to the dispatcher's send path. -/
inductive DispatcherEvent where
  | send (kind : OutstandingKind) (ackHash : AckHash) (frame : List UInt8)
  | reply (frame : List UInt8)
  | sweep (now : Nat) (canPost : UInt8 → Bool)
  | drain
  | ack (ackHash : AckHash)

/-- The acknowledgement a new send waits for. -/
def DispatcherEvent.sentHash : DispatcherEvent → Option AckHash
  | send _ ackHash _ => some ackHash
  | _ => none

namespace TrackedDispatcher

/-- The state after boot. -/
def new : TrackedDispatcher :=
  { dispatcher := Dispatcher.new
    sent := []
    onAir := []
    reports := []
    late := [] }

/-- A send given up, with the copies it has at that moment. -/
def report
    (dispatcher : Dispatcher)
    (onAir : List AckHash)
    (given : Undelivered) :
    UndeliveredReport :=
  { cause := given.cause
    send := given.send
    copiesQueued := dispatcher.txq.tags.count (some given.send.ackHash)
    copiesOnAir := onAir.count given.send.ackHash
    reportedAt := dispatcher.now }

/-- Record the sends that were given up. -/
def recordReports
    (tracked : TrackedDispatcher)
    (dispatcher : Dispatcher)
    (undelivered : List Undelivered) :
    TrackedDispatcher :=
  { tracked with
    dispatcher := dispatcher
    reports :=
      tracked.reports ++
        undelivered.map (report dispatcher tracked.onAir) }

/-- One step of the send path. -/
def step
    (tracked : TrackedDispatcher) :
    DispatcherEvent → TrackedDispatcher
  | .send kind ackHash frame =>
      let (after, undelivered) :=
        tracked.dispatcher.sendAcked kind ackHash frame
      { tracked.recordReports after undelivered with
        sent := ackHash :: tracked.sent }
  | .reply frame =>
      let (after, undelivered) := tracked.dispatcher.queueFrame frame none
      tracked.recordReports after undelivered
  | .sweep now canPost =>
      let (after, undelivered) :=
        tracked.dispatcher.sweepRetries now canPost
      tracked.recordReports after undelivered
  | .drain =>
      let drained :=
        { tracked with dispatcher := tracked.dispatcher.drain }
      match tracked.dispatcher.txq.peek.bind QueuedFrame.tag with
      | some ackHash =>
          { drained with
            onAir := ackHash :: tracked.onAir
            late :=
              if tracked.reports.any (·.send.ackHash == ackHash) then
                ackHash :: tracked.late
              else
                tracked.late }
      | none => drained
  | .ack ackHash =>
      { tracked with
        dispatcher := (tracked.dispatcher.ackHeard ackHash).1 }

/-- Every report was right, and no frame went on air after its send was reported. -/
structure ReportsSound
    (tracked : TrackedDispatcher) :
    Prop where
  sound : ∀ report ∈ tracked.reports, report.Sound
  noneLate : tracked.late = []

/-- The tags a step adds to the queue. -/
def pushedTags
    (tracked : TrackedDispatcher) :
    DispatcherEvent → List (Option AckHash)
  | .send _ ackHash _ => [some ackHash]
  | .reply _ => [none]
  | .sweep now canPost =>
      (tracked.dispatcher.retriedSends now canPost).map
        fun send => some send.ackHash
  | .drain => []
  | .ack _ => []

/-- The tags a step pushes out of the full queue. -/
def droppedTags
    (tracked : TrackedDispatcher)
    (event : DispatcherEvent) :
    List (Option AckHash) :=
  let queued := tracked.dispatcher.txq.tags ++ tracked.pushedTags event
  queued.take (queued.length - txQueueSlots)

/-- The tags that are queued when a step has pushed its own. -/
def leftTags
    (tracked : TrackedDispatcher)
    (event : DispatcherEvent) :
    List (Option AckHash) :=
  let queued := tracked.dispatcher.txq.tags ++ tracked.pushedTags event
  queued.drop (queued.length - txQueueSlots)

/-- The sends that are tracked when a step drops frames. -/
def trackedSends
    (tracked : TrackedDispatcher) :
    DispatcherEvent → List OutstandingSend
  | .sweep now canPost => tracked.dispatcher.sweptSends now canPost
  | _ => tracked.dispatcher.outstanding.sends

/--
Of every tracked send the step drops no frame, or as many as were ever queued:
the original and one for every retry.
-/
def DropsWholeSends
    (tracked : TrackedDispatcher)
    (event : DispatcherEvent) :
    Prop :=
  ∀ send ∈ tracked.trackedSends event,
    (tracked.droppedTags event).count (some send.ackHash) = 0 ∨
      (tracked.droppedTags event).count (some send.ackHash) =
        send.attempts + 1

/-- A step drops a frame of a tracked send. -/
def dropsTracked
    (tracked : TrackedDispatcher)
    (event : DispatcherEvent) :
    Bool :=
  tracked.dispatcher.outstanding.sends.any fun send =>
    (tracked.droppedTags event).contains (some send.ackHash)

/--
The sends a step gives up without dropping their frames: the oldest one of a full
table in which a new send finds no room, and those whose deadline has passed and
that a sweep does not retry.
-/
def abandonedSends
    (tracked : TrackedDispatcher) :
    DispatcherEvent → List OutstandingSend
  | .send kind ackHash frame =>
      if tracked.dropsTracked (.send kind ackHash frame) then
        []
      else
        tracked.dispatcher.outstanding.evictee.toList
  | .sweep now canPost =>
      tracked.dispatcher.outstanding.sends.filter fun send =>
        send.deadlineMs ≤ now &&
          !(isOffered now send && mayRetry canPost send)
  | _ => []

/-- No copy is left of a send that the step gives up. -/
structure GivesUpWholeSends
    (tracked : TrackedDispatcher)
    (event : DispatcherEvent) :
    Prop where
  dropsWhole : tracked.DropsWholeSends event
  leavesNone :
    ∀ send ∈ tracked.abandonedSends event,
      some send.ackHash ∉ tracked.leftTags event

instance
    (tracked : TrackedDispatcher)
    (event : DispatcherEvent) :
    Decidable (tracked.DropsWholeSends event) :=
  inferInstanceAs
    (Decidable
      (∀ send ∈ tracked.trackedSends event,
        (tracked.droppedTags event).count (some send.ackHash) = 0 ∨
          (tracked.droppedTags event).count (some send.ackHash) =
            send.attempts + 1))

instance
    (tracked : TrackedDispatcher)
    (event : DispatcherEvent) :
    Decidable (tracked.GivesUpWholeSends event) :=
  decidable_of_iff
    (tracked.DropsWholeSends event ∧
      ∀ send ∈ tracked.abandonedSends event,
        some send.ackHash ∉ tracked.leftTags event)
    ⟨fun both => ⟨both.1, both.2⟩,
      fun whole => ⟨whole.dropsWhole, whole.leavesNone⟩⟩

end TrackedDispatcher

/--
The copies of every tracked send are accounted for: queued or on air, one for the
original and one for every retry.
-/
structure Accounted
    (sends : List OutstandingSend)
    (tags : List (Option AckHash))
    (sent onAir : List AckHash)
    (now : Nat)
    (reports : List UndeliveredReport) :
    Prop where
  distinct : (sends.map OutstandingSend.ackHash).Nodup
  knownSends : ∀ send ∈ sends, send.ackHash ∈ sent
  knownTags : ∀ ackHash, some ackHash ∈ tags → ackHash ∈ sent
  knownOnAir : ∀ ackHash ∈ onAir, ackHash ∈ sent
  copies :
    ∀ send ∈ sends,
      tags.count (some send.ackHash) + onAir.count send.ackHash =
        send.attempts + 1
  waiting : ∀ send ∈ sends, now < send.deadlineMs
  reported :
    ∀ report ∈ reports,
      report.send.ackHash ∈ sent ∧
        (∀ send ∈ sends, send.ackHash ≠ report.send.ackHash) ∧
        tags.count (some report.send.ackHash) ≤ report.copiesQueued

namespace Accounted

variable
    {sends fewer : List OutstandingSend}
    {tags : List (Option AckHash)}
    {sent onAir : List AckHash}
    {now : Nat}
    {reports : List UndeliveredReport}

/-- No tracked send has an acknowledgement that was never sent. -/
theorem apart
    (accounted : Accounted sends tags sent onAir now reports)
    {ackHash : AckHash}
    (fresh : ackHash ∉ sent) :
    ∀ other ∈ sends, other.ackHash ≠ ackHash := by
  rintro other member rfl
  exact fresh (accounted.knownSends other member)

/-- Nothing is tracked after boot. -/
theorem initial :
    Accounted [] [] [] [] 0 [] :=
  { distinct := List.nodup_nil
    knownSends := by simp
    knownTags := by simp
    knownOnAir := by simp
    copies := by simp
    waiting := by simp
    reported := by simp }

/-- Tracking fewer sends keeps the accounts. -/
theorem subset
    (accounted : Accounted sends tags sent onAir now reports)
    (distinct : (fewer.map OutstandingSend.ackHash).Nodup)
    (contained : ∀ send ∈ fewer, send ∈ sends) :
    Accounted fewer tags sent onAir now reports :=
  { distinct := distinct
    knownSends := fun send member =>
      accounted.knownSends send (contained send member)
    knownTags := accounted.knownTags
    knownOnAir := accounted.knownOnAir
    copies := fun send member =>
      accounted.copies send (contained send member)
    waiting := fun send member =>
      accounted.waiting send (contained send member)
    reported := fun report member =>
      ⟨(accounted.reported report member).1,
        fun send isTracked =>
          (accounted.reported report member).2.1 send
            (contained send isTracked),
        (accounted.reported report member).2.2⟩ }

/-- An untagged frame is no copy of anything. -/
theorem queueUntagged
    (accounted : Accounted sends tags sent onAir now reports) :
    Accounted sends (tags ++ [none]) sent onAir now reports :=
  { accounted with
    knownTags := by
      simpa using accounted.knownTags
    copies := by
      simpa using accounted.copies
    reported := by
      simpa using accounted.reported }

/-- The frame of a fresh send is no copy of another one. -/
theorem queueFresh
    (accounted : Accounted sends tags sent onAir now reports)
    {ackHash : AckHash}
    (fresh : ackHash ∉ sent) :
    Accounted sends (tags ++ [some ackHash]) (ackHash :: sent) onAir now
      reports := by
  have apart :
      ∀ known ∈ sent,
        (tags ++ [some ackHash]).count (some known) =
          tags.count (some known) := by
    intro known member
    have different : ackHash ≠ known := by
      rintro rfl
      exact fresh member
    simp [different]
  refine
    { accounted with
      knownSends := ?_
      knownTags := ?_
      knownOnAir := ?_
      copies := ?_
      reported := ?_ }
  · intro send member
    exact List.mem_cons_of_mem _ (accounted.knownSends send member)
  · intro queued member
    rcases List.mem_append.mp member with old | isNew
    · exact List.mem_cons_of_mem _ (accounted.knownTags queued old)
    · simp at isNew
      simp [isNew]
  · intro heard member
    exact List.mem_cons_of_mem _ (accounted.knownOnAir heard member)
  · intro send member
    rw [apart _ (accounted.knownSends send member)]
    exact accounted.copies send member
  · intro report member
    obtain ⟨known, notTracked, atMost⟩ :=
      accounted.reported report member
    refine ⟨List.mem_cons_of_mem _ known, notTracked, ?_⟩
    rw [apart _ known]
    exact atMost

/-- Among distinct sends, a selected one is counted once by its hash. -/
theorem count_selected
    (distinct : (sends.map OutstandingSend.ackHash).Nodup)
    (selected : OutstandingSend → Bool)
    {send : OutstandingSend}
    (member : send ∈ sends) :
    ((sends.filter selected).map
        fun other => some other.ackHash).count (some send.ackHash) =
      if selected send then 1 else 0 := by
  have distinctTags :
      (sends.map fun other => some other.ackHash).Nodup := by
    have tagged := distinct.map (Option.some_injective AckHash)
    rwa [List.map_map] at tagged
  split
  · next isSelected =>
    apply List.count_eq_one_of_mem
    · exact (List.filter_sublist.map _).nodup distinctTags
    · exact List.mem_map_of_mem
        (List.mem_filter.mpr ⟨member, isSelected⟩)
  · next notSelected =>
    apply List.count_eq_zero_of_not_mem
    intro counted
    obtain ⟨other, isOther, sameTag⟩ := List.mem_map.mp counted
    obtain ⟨otherMember, otherSelected⟩ := List.mem_filter.mp isOther
    have same : other = send :=
      List.inj_on_of_nodup_map distinctTags otherMember member sameTag
    exact notSelected (same ▸ otherSelected)

/-- Every retry of a sweep adds one copy. -/
theorem sweep
    {before : Nat}
    (accounted : Accounted sends tags sent onAir before reports)
    (allowed : OutstandingSend → Bool) :
    Accounted
      (sends.filterMap (sweptSend now allowed))
      (tags ++
        (sends.filter fun send =>
          isOffered now send && allowed send).map
            fun send => some send.ackHash)
      sent onAir now reports := by
  have hashBefore :
      ∀ send ∈ sends.filterMap (sweptSend now allowed),
        ∃ earlier ∈ sends, earlier.ackHash = send.ackHash := by
    intro send member
    rcases mem_swept member with
      ⟨old, -⟩ | ⟨earlier, isEarlier, -, -, rfl⟩
    · exact ⟨send, old, rfl⟩
    · exact ⟨earlier, isEarlier, rfl⟩
  have retriedBefore :
      ∀ ackHash,
        some ackHash ∈
            (sends.filter fun send =>
              isOffered now send && allowed send).map
                (fun send => some send.ackHash) →
          ∃ send ∈ sends, send.ackHash = ackHash := by
    intro ackHash retried
    obtain ⟨send, isRetried, sameTag⟩ := List.mem_map.mp retried
    exact
      ⟨send, List.mem_of_mem_filter isRetried, Option.some.inj sameTag⟩
  refine
    { distinct := distinct_swept accounted.distinct now allowed
      knownSends := ?_
      knownTags := ?_
      knownOnAir := accounted.knownOnAir
      copies := ?_
      waiting := ?_
      reported := ?_ }
  · intro send member
    obtain ⟨earlier, isEarlier, sameHash⟩ := hashBefore send member
    exact sameHash ▸ accounted.knownSends earlier isEarlier
  · intro ackHash member
    rcases List.mem_append.mp member with old | retried
    · exact accounted.knownTags ackHash old
    · obtain ⟨send, isSend, sameHash⟩ := retriedBefore ackHash retried
      exact sameHash ▸ accounted.knownSends send isSend
  · intro send member
    rw [List.count_append]
    rcases mem_swept member with
      ⟨old, stillWaiting⟩ | ⟨earlier, isEarlier, offered, permitted, rfl⟩
    · have notDue : ¬ send.deadlineMs ≤ now := by omega
      have notRetried :=
        count_selected accounted.distinct
          (fun send => isOffered now send && allowed send) old
      have copies := accounted.copies send old
      simp only [isOffered, notDue, decide_false, Bool.false_and,
        Bool.false_eq_true, ↓reduceIte] at notRetried ⊢
      omega
    · have retried :=
        count_selected accounted.distinct
          (fun send => isOffered now send && allowed send) isEarlier
      have copies := accounted.copies earlier isEarlier
      simp only [offered, permitted, Bool.and_self, ↓reduceIte]
        at retried
      simp only [OutstandingSend.retriedAt] at retried ⊢
      omega
  · intro send member
    rcases mem_swept member with
      ⟨-, stillWaiting⟩ | ⟨earlier, -, -, -, rfl⟩
    · exact stillWaiting
    · simp only [OutstandingSend.retriedAt, retryBackoffMs,
        deliveryAckDeadlineMs]
      omega
  · intro report member
    obtain ⟨known, notTracked, atMost⟩ :=
      accounted.reported report member
    refine ⟨known, ?_, ?_⟩
    · intro send isSwept
      obtain ⟨earlier, isEarlier, sameHash⟩ := hashBefore send isSwept
      exact sameHash ▸ notTracked earlier isEarlier
    · have noRetry :
          some report.send.ackHash ∉
            (sends.filter fun send =>
              isOffered now send && allowed send).map
                fun send => some send.ackHash := by
        intro retried
        obtain ⟨send, isSend, sameHash⟩ :=
          retriedBefore report.send.ackHash retried
        exact notTracked send isSend sameHash
      rw [List.count_append, List.count_eq_zero_of_not_mem noRetry]
      exact atMost

/-- An oldest frame on air is a copy as before. -/
theorem transmit
    {ackHash : AckHash}
    (accounted :
      Accounted sends (some ackHash :: tags) sent onAir now reports) :
    Accounted sends tags sent (ackHash :: onAir) now reports := by
  refine
    { accounted with
      knownTags := ?_
      knownOnAir := ?_
      copies := ?_
      reported := ?_ }
  · intro queued member
    exact accounted.knownTags queued (List.mem_cons_of_mem _ member)
  · intro heard member
    rcases List.mem_cons.mp member with rfl | old
    · exact accounted.knownTags heard (by simp)
    · exact accounted.knownOnAir heard old
  · intro send member
    have copies := accounted.copies send member
    by_cases isCopy : ackHash = send.ackHash
    · simp only [isCopy, List.count_cons_self] at copies ⊢
      omega
    · simpa [isCopy] using copies
  · intro report member
    obtain ⟨known, notTracked, atMost⟩ :=
      accounted.reported report member
    refine ⟨known, notTracked, ?_⟩
    rw [List.count_cons] at atMost
    omega

/-- An untagged frame on air is no copy of anything. -/
theorem transmitUntagged
    (accounted : Accounted sends (none :: tags) sent onAir now reports) :
    Accounted sends tags sent onAir now reports :=
  { accounted with
    knownTags := by
      simpa using accounted.knownTags
    copies := by
      simpa using accounted.copies
    reported := by
      simpa using accounted.reported }

/-- Dropped frames take their sends out. -/
theorem drop
    {dropped : List (Option AckHash)}
    (accounted :
      Accounted sends (dropped ++ tags) sent onAir now reports) :
    Accounted
      (sends.filter fun send => some send.ackHash ∉ dropped)
      tags sent onAir now reports := by
  refine
    { distinct := ?_
      knownSends := ?_
      knownTags := ?_
      knownOnAir := accounted.knownOnAir
      copies := ?_
      waiting := ?_
      reported := ?_ }
  · exact (List.filter_sublist.map _).nodup accounted.distinct
  · intro send member
    exact accounted.knownSends send (List.mem_of_mem_filter member)
  · intro ackHash member
    exact accounted.knownTags ackHash
      (List.mem_append_right _ member)
  · intro send member
    obtain ⟨isTracked, kept⟩ := List.mem_filter.mp member
    have copies := accounted.copies send isTracked
    have noneDropped :
        dropped.count (some send.ackHash) = 0 :=
      List.count_eq_zero_of_not_mem (by simpa using kept)
    rw [List.count_append] at copies
    omega
  · intro send member
    exact accounted.waiting send (List.mem_of_mem_filter member)
  · intro report member
    obtain ⟨known, notTracked, atMost⟩ := accounted.reported report member
    rw [List.count_append] at atMost
    refine ⟨known, ?_, by omega⟩
    intro send isKept
    exact notTracked send (List.mem_of_mem_filter isKept)

/-- Sends that are not tracked any more are reported with the copies they have. -/
theorem record
    {dispatcher : Dispatcher}
    (accounted :
      Accounted sends dispatcher.txq.tags sent onAir dispatcher.now reports)
    {undelivered : List Undelivered}
    (known : ∀ given ∈ undelivered, given.send.ackHash ∈ sent)
    (gone :
      ∀ given ∈ undelivered, ∀ send ∈ sends,
        send.ackHash ≠ given.send.ackHash) :
    Accounted sends dispatcher.txq.tags sent onAir dispatcher.now
      (reports ++
        undelivered.map (TrackedDispatcher.report dispatcher onAir)) :=
  { accounted with
    reported := by
      intro report member
      rcases List.mem_append.mp member with old | isNew
      · exact accounted.reported report old
      · obtain ⟨given, isGiven, rfl⟩ := List.mem_map.mp isNew
        exact ⟨known given isGiven, gone given isGiven, Nat.le_refl _⟩ }

/--
The reports of dropped frames are right exactly when every tracked send lost no
copy or all of them.
-/
theorem drops_sound_iff
    {dispatcher : Dispatcher}
    {dropped : List (Option AckHash)}
    {lost : List OutstandingSend}
    (accounted :
      Accounted sends (dropped ++ dispatcher.txq.tags) sent onAir
        dispatcher.now reports)
    (isLost :
      ∀ send,
        send ∈ lost ↔
          send ∈ sends ∧ some send.ackHash ∈ dropped) :
    (∀ given ∈ lost.map (Undelivered.mk .queueEviction),
        (TrackedDispatcher.report dispatcher onAir given).Sound) ↔
      ∀ send ∈ sends,
        dropped.count (some send.ackHash) = 0 ∨
          dropped.count (some send.ackHash) = send.attempts + 1 := by
  have allCopies :
      ∀ send ∈ sends,
        (TrackedDispatcher.report dispatcher onAir
            ⟨.queueEviction, send⟩).Sound ↔
          dropped.count (some send.ackHash) = send.attempts + 1 := by
    intro send member
    have copies := accounted.copies send member
    have waiting := accounted.waiting send member
    rw [List.count_append] at copies
    constructor
    · intro sound
      have noneQueued := sound.noneQueued
      have noneAwaited := sound.noneAwaited rfl
      simp only [TrackedDispatcher.report] at noneQueued noneAwaited
      omega
    · intro all
      exact
        { noneQueued := by
            simp only [TrackedDispatcher.report]
            omega
          noneAwaited := by
            simp only [TrackedDispatcher.report]
            omega }
  constructor
  · intro sound send member
    by_cases wasDropped : some send.ackHash ∈ dropped
    · right
      apply (allCopies send member).mp
      exact sound _
        (List.mem_map_of_mem ((isLost send).mpr ⟨member, wasDropped⟩))
    · exact .inl (List.count_eq_zero_of_not_mem wasDropped)
  · intro whole given member
    obtain ⟨send, wasLost, rfl⟩ := List.mem_map.mp member
    obtain ⟨wasTracked, wasDropped⟩ := (isLost send).mp wasLost
    apply (allCopies send wasTracked).mpr
    have some' := List.count_pos_iff.mpr wasDropped
    rcases whole send wasTracked with none' | all
    · omega
    · exact all

/-- The other reports are right exactly when no copy is queued. -/
theorem others_sound_iff
    {dispatcher : Dispatcher}
    {cause : UndeliveredCause}
    (other : cause ≠ .queueEviction)
    (abandoned : List OutstandingSend) :
    (∀ given ∈ abandoned.map (Undelivered.mk cause),
        (TrackedDispatcher.report dispatcher onAir given).Sound) ↔
      ∀ send ∈ abandoned, some send.ackHash ∉ dispatcher.txq.tags := by
  rw [List.forall_mem_map]
  refine forall₂_congr fun send _ => ?_
  constructor
  · intro sound
    exact List.count_eq_zero.mp sound.noneQueued
  · intro noneQueued
    exact
      { noneQueued := List.count_eq_zero.mpr noneQueued
        noneAwaited := fun isEviction => absurd isEviction other }

/-- A fresh send with its one queued frame is accounted for. -/
theorem track
    (accounted : Accounted sends tags sent onAir now reports)
    {send : OutstandingSend}
    (known : send.ackHash ∈ sent)
    (fresh : ∀ other ∈ sends, other.ackHash ≠ send.ackHash)
    (copies :
      tags.count (some send.ackHash) + onAir.count send.ackHash =
        send.attempts + 1)
    (waiting : now < send.deadlineMs)
    (notReported :
      ∀ report ∈ reports, send.ackHash ≠ report.send.ackHash) :
    Accounted (send :: sends) tags sent onAir now reports := by
  refine
    { accounted with
      distinct := ?_
      knownSends := ?_
      copies := ?_
      waiting := ?_
      reported := ?_ }
  · rw [List.map_cons, List.nodup_cons]
    refine ⟨?_, accounted.distinct⟩
    intro member
    obtain ⟨other, isTracked, sameHash⟩ := List.mem_map.mp member
    exact fresh other isTracked sameHash
  · exact List.forall_mem_cons.mpr ⟨known, accounted.knownSends⟩
  · exact List.forall_mem_cons.mpr ⟨copies, accounted.copies⟩
  · exact List.forall_mem_cons.mpr ⟨waiting, accounted.waiting⟩
  · intro report member
    obtain ⟨reportKnown, notTracked, atMost⟩ :=
      accounted.reported report member
    exact
      ⟨reportKnown,
        List.forall_mem_cons.mpr ⟨notReported report member, notTracked⟩,
        atMost⟩

end Accounted

namespace TrackedDispatcher

/-- The record accounts for every copy of the tracked sends. -/
def Accounts
    (tracked : TrackedDispatcher) :
    Prop :=
  Accounted tracked.dispatcher.outstanding.sends
    tracked.dispatcher.txq.tags tracked.sent tracked.onAir
    tracked.dispatcher.now tracked.reports

section Pushing

variable
    {tracked : TrackedDispatcher}
    {event : DispatcherEvent}
    {swept : OutstandingSends}
    {dropped : List (Nat × Option AckHash)}
    {after : Dispatcher}
    {sent : List AckHash}

/-- After a step has pushed its frames, the accounts hold of what is left. -/
theorem accounted_after_push
    (isSwept : swept.sends = tracked.trackedSends event)
    (pushes :
      Pushes tracked.dispatcher.txq.tags (tracked.pushedTags event)
        (dropped.map Prod.snd) after.txq.tags)
    (resolved :
      after.outstanding = (resolveEvictions swept dropped).1)
    (accounted :
      Accounted (tracked.trackedSends event)
        (tracked.dispatcher.txq.tags ++ tracked.pushedTags event)
        sent tracked.onAir after.now tracked.reports) :
    Accounted after.outstanding.sends after.txq.tags sent
        tracked.onAir after.now tracked.reports ∧
      (∀ send ∈ (resolveEvictions swept dropped).2,
        send ∈ tracked.trackedSends event ∧
          ∀ other ∈ after.outstanding.sends,
            other.ackHash ≠ send.ackHash) ∧
      ((∀ given ∈
            (resolveEvictions swept dropped).2.map
              (Undelivered.mk .queueEviction),
          (report after tracked.onAir given).Sound) ↔
        tracked.DropsWholeSends event) := by
  have distinct : swept.Distinct := by
    rw [OutstandingSends.Distinct, isSwept]
    exact accounted.distinct
  obtain ⟨remaining, isLost⟩ := resolveEvictions_eq distinct dropped
  rw [isSwept] at remaining
  simp only [isSwept] at isLost
  rw [pushes.conserved] at accounted
  have droppedEq :
      tracked.droppedTags event = dropped.map Prod.snd :=
    pushes.dropped_eq.symm
  refine ⟨?_, ?_, ?_⟩
  · rw [resolved, remaining]
    exact accounted.drop
  · intro send wasLost
    obtain ⟨wasTracked, wasDropped⟩ := (isLost send).mp wasLost
    refine ⟨wasTracked, ?_⟩
    intro other isLeft sameHash
    rw [resolved, remaining, List.mem_filter, sameHash] at isLeft
    exact of_decide_eq_true isLeft.2 wasDropped
  · rw [DropsWholeSends, droppedEq]
    exact accounted.drops_sound_iff isLost

/-- What is queued then is what the step leaves. -/
theorem leftTags_eq
    (pushes :
      Pushes tracked.dispatcher.txq.tags (tracked.pushedTags event)
        (dropped.map Prod.snd) after.txq.tags) :
    tracked.leftTags event = after.txq.tags := by
  have whole := pushes.conserved
  rw [pushes.dropped_eq] at whole
  rw [leftTags]
  exact
    List.append_cancel_left
      ((List.take_append_drop _ _).trans whole)

end Pushing

/-- A step that only adds reports stays sound exactly when these are right. -/
theorem reportsSound_append_iff
    {tracked after : TrackedDispatcher}
    (sound : tracked.ReportsSound)
    {dispatcher : Dispatcher}
    {undelivered : List Undelivered}
    (reports :
      after.reports =
        tracked.reports ++
          undelivered.map (report dispatcher tracked.onAir))
    (late : after.late = tracked.late) :
    after.ReportsSound ↔
      ∀ given ∈ undelivered,
        (report dispatcher tracked.onAir given).Sound := by
  constructor
  · intro afterSound given member
    refine afterSound.sound _ ?_
    rw [reports]
    exact List.mem_append_right _ (List.mem_map_of_mem member)
  · intro addedSound
    exact
      { sound := by
          intro given member
          rw [reports] at member
          rcases List.mem_append.mp member with old | isNew
          · exact sound.sound given old
          · obtain ⟨added, isAdded, rfl⟩ := List.mem_map.mp isNew
            exact addedSound added isAdded
        noneLate := late.trans sound.noneLate }

/-- A step that abandons no send leaves none queued. -/
theorem givesUpWholeSends_iff
    {tracked : TrackedDispatcher}
    {event : DispatcherEvent}
    (noneAbandoned : tracked.abandonedSends event = []) :
    tracked.GivesUpWholeSends event ↔ tracked.DropsWholeSends event := by
  constructor
  · intro whole
    exact whole.dropsWhole
  · intro whole
    exact
      { dropsWhole := whole
        leavesNone := by simp [noneAbandoned] }

/-- A step that pushes nothing and abandons nothing leaves no copies. -/
theorem givesUpWholeSends_of_noPush
    {tracked : TrackedDispatcher}
    {event : DispatcherEvent}
    (noPush : tracked.pushedTags event = [])
    (noneAbandoned : tracked.abandonedSends event = []) :
    tracked.GivesUpWholeSends event := by
  rw [givesUpWholeSends_iff noneAbandoned]
  intro send _
  left
  have fits := tracked.dispatcher.txq.length_tags_le
  have nothing :
      tracked.dispatcher.txq.tags.length - txQueueSlots = 0 := by
    omega
  simp [droppedTags, noPush, nothing]

/-- A reply may push out the frame of a tracked send. -/
theorem step_reply
    {tracked : TrackedDispatcher}
    (accounts : tracked.Accounts)
    (frame : List UInt8) :
    (tracked.step (.reply frame)).Accounts ∧
      (tracked.ReportsSound →
        ((tracked.step (.reply frame)).ReportsSound ↔
          tracked.GivesUpWholeSends (.reply frame))) := by
  obtain ⟨dropped, pushes, resolved, sameTime, undelivered⟩ :=
    tracked.dispatcher.queueFrame_eq frame none
  have queued :
      Accounted (tracked.trackedSends (.reply frame))
        (tracked.dispatcher.txq.tags ++
          tracked.pushedTags (.reply frame))
        tracked.sent tracked.onAir
        (tracked.dispatcher.queueFrame frame none).1.now
        tracked.reports := by
    rw [sameTime]
    exact accounts.queueUntagged
  obtain ⟨accounted, lost, soundIff⟩ :=
    accounted_after_push rfl pushes resolved queued
  constructor
  · rw [Accounts]
    simp only [step, recordReports, undelivered]
    exact
      accounted.record
        (List.forall_mem_map.mpr fun send member =>
          accounts.knownSends send (lost send member).1)
        (List.forall_mem_map.mpr fun send member => (lost send member).2)
  · intro sound
    rw [givesUpWholeSends_iff rfl, ← soundIff, ← undelivered]
    exact
      @reportsSound_append_iff tracked (tracked.step (.reply frame)) sound
        (tracked.dispatcher.queueFrame frame none).1
        (tracked.dispatcher.queueFrame frame none).2 rfl rfl

/-- A sweep gives up the sends that it does not keep. -/
theorem abandonedSends_sweep
    (tracked : TrackedDispatcher)
    (now : Nat)
    (canPost : UInt8 → Bool) :
    tracked.abandonedSends (.sweep now canPost) =
      tracked.dispatcher.outstanding.sends.filter fun send =>
        (sweptSend now (mayRetry canPost) send).isNone := by
  refine List.filter_congr fun send _ => ?_
  rw [sweptSend]
  by_cases waiting : now < send.deadlineMs
  · simp [waiting, Nat.not_le.mpr waiting]
  · cases retried : isOffered now send && mayRetry canPost send <;>
      simp [waiting, Nat.le_of_not_lt waiting]

/-- A sweep may push out frames by its retries, and gives up other sends. -/
theorem step_sweep
    {tracked : TrackedDispatcher}
    (accounts : tracked.Accounts)
    (now : Nat)
    (canPost : UInt8 → Bool) :
    (tracked.step (.sweep now canPost)).Accounts ∧
      (tracked.ReportsSound →
        ((tracked.step (.sweep now canPost)).ReportsSound ↔
          tracked.GivesUpWholeSends (.sweep now canPost))) := by
  obtain ⟨swept, dropped, isSwept, pushes, resolved, atTime,
    undelivered⟩ :=
    tracked.dispatcher.sweepRetries_eq now canPost
  rw [← tracked.abandonedSends_sweep] at undelivered
  have retried :
      Accounted (tracked.trackedSends (.sweep now canPost))
        (tracked.dispatcher.txq.tags ++
          tracked.pushedTags (.sweep now canPost))
        tracked.sent tracked.onAir
        (tracked.dispatcher.sweepRetries now canPost).1.now
        tracked.reports := by
    rw [atTime]
    exact accounts.sweep (mayRetry canPost)
  obtain ⟨accounted, lost, soundIff⟩ :=
    accounted_after_push isSwept pushes resolved retried
  have abandoned :
      ∀ send ∈ tracked.abandonedSends (.sweep now canPost),
        send.ackHash ∈ tracked.sent ∧
          ∀ other ∈
              (tracked.dispatcher.sweepRetries now
                canPost).1.outstanding.sends,
            other.ackHash ≠ send.ackHash := by
    intro send member
    rw [abandonedSends_sweep] at member
    obtain ⟨wasTracked, isNone⟩ := List.mem_filter.mp member
    refine ⟨accounts.knownSends send wasTracked, ?_⟩
    intro other isLeft sameHash
    rw [resolved] at isLeft
    have isKept := (resolveEvictions_sublist swept dropped).subset isLeft
    rw [isSwept] at isKept
    exact
      notKept_of_isNone accounts.distinct wasTracked isNone other isKept
        sameHash
  constructor
  · rw [Accounts]
    simp only [step, recordReports, undelivered]
    refine accounted.record ?_ ?_ <;> rw [List.forall_mem_append] <;>
      constructor <;> rw [List.forall_mem_map]
    · exact fun send member => (abandoned send member).1
    · exact fun send member =>
        retried.knownSends send (lost send member).1
    · exact fun send member => (abandoned send member).2
    · exact fun send member => (lost send member).2
  · intro sound
    refine
      (@reportsSound_append_iff tracked (tracked.step (.sweep now canPost))
        sound (tracked.dispatcher.sweepRetries now canPost).1
        (tracked.dispatcher.sweepRetries now canPost).2 rfl rfl).trans
        ?_
    have left :
        tracked.leftTags (.sweep now canPost) =
          (tracked.dispatcher.sweepRetries now canPost).1.txq.tags :=
      leftTags_eq pushes
    rw [undelivered, List.forall_mem_append, soundIff,
      Accounted.others_sound_iff (by decide), ← left]
    exact
      ⟨fun whole => ⟨whole.2, whole.1⟩,
        fun whole => ⟨whole.leavesNone, whole.dropsWhole⟩⟩

/-- A fresh send evicts what the full table evicts, if the queue made no room. -/
theorem abandonedSends_send
    {tracked : TrackedDispatcher}
    (distinct : tracked.dispatcher.outstanding.Distinct)
    {kind : OutstandingKind}
    {ackHash : AckHash}
    {frame : List UInt8}
    {dropped : List (Nat × Option AckHash)}
    (isDropped :
      tracked.droppedTags (.send kind ackHash frame) =
        dropped.map Prod.snd) :
    tracked.abandonedSends (.send kind ackHash frame) =
      (resolveEvictions tracked.dispatcher.outstanding
        dropped).1.evictee.toList := by
  obtain ⟨remaining, -⟩ := resolveEvictions_eq distinct dropped
  simp only [abandonedSends]
  cases drops : tracked.dropsTracked (.send kind ackHash frame) with
  | true =>
      rw [if_pos rfl]
      simp only [dropsTracked, List.any_eq_true, List.contains_iff_mem,
        isDropped] at drops
      obtain ⟨send, wasTracked, wasDropped⟩ := drops
      have fewer :
          (resolveEvictions tracked.dispatcher.outstanding
              dropped).1.sends.length <
            maxOutstandingSends := by
        rw [remaining]
        refine
          Nat.lt_of_lt_of_le
            (List.length_filter_lt_length_iff_exists.mpr
              ⟨send, wasTracked, by simpa using wasDropped⟩)
            tracked.dispatcher.outstanding.length_sends_le
      rw [evictee_eq_none fewer]
      rfl
  | false =>
      rw [if_neg Bool.false_ne_true]
      simp only [dropsTracked, List.any_eq_false, List.contains_iff_mem,
        isDropped] at drops
      rw [resolveEvictions_untracked drops]

/-- A fresh send may push out another one's frame before it is tracked, or evict
another one from the table. -/
theorem step_send
    {tracked : TrackedDispatcher}
    (accounts : tracked.Accounts)
    (kind : OutstandingKind)
    {ackHash : AckHash}
    (fresh : ackHash ∉ tracked.sent)
    (frame : List UInt8) :
    (tracked.step (.send kind ackHash frame)).Accounts ∧
      (tracked.ReportsSound →
        ((tracked.step (.send kind ackHash frame)).ReportsSound ↔
          tracked.GivesUpWholeSends (.send kind ackHash frame))) := by
  obtain ⟨dropped, pushes, resolved, sameTime, undelivered⟩ :=
    tracked.dispatcher.queueFrame_eq frame (some ackHash)
  let queued := (tracked.dispatcher.queueFrame frame (some ackHash)).1
  have pushed :
      Accounted (tracked.trackedSends (.send kind ackHash frame))
        (tracked.dispatcher.txq.tags ++
          tracked.pushedTags (.send kind ackHash frame))
        (ackHash :: tracked.sent) tracked.onAir queued.now
        tracked.reports := by
    simp only [queued, sameTime]
    exact accounts.queueFresh fresh
  obtain ⟨accounted, lost, soundIff⟩ :=
    accounted_after_push rfl pushes resolved pushed
  have apart := accounts.apart fresh
  have noneOnAir : tracked.onAir.count ackHash = 0 :=
    List.count_eq_zero_of_not_mem fun member =>
      fresh (accounts.knownOnAir ackHash member)
  have oneQueued : queued.txq.tags.count (some ackHash) = 1 :=
    pushes.count_new fun member =>
      fresh (accounts.knownTags ackHash member)
  let send :=
    OutstandingSend.new ackHash kind tracked.dispatcher.now frame
  have apartQueued :
      ∀ other ∈ queued.outstanding.sends, other.ackHash ≠ ackHash := by
    intro other member
    rw [resolved] at member
    exact apart other ((resolveEvictions_sublist _ dropped).subset member)
  have withSend :
      Accounted (send :: queued.outstanding.sends) queued.txq.tags
        (ackHash :: tracked.sent) tracked.onAir queued.now
        tracked.reports := by
    apply accounted.track
    · simp [send, OutstandingSend.new]
    · exact apartQueued
    · simpa [send, OutstandingSend.new, noneOnAir] using oneQueued
    · simp only [send, OutstandingSend.new, sameTime,
        deliveryAckDeadlineMs]
      omega
    · intro given member
      simp only [send, OutstandingSend.new]
      rintro rfl
      exact fresh (accounts.reported given member).1
  have exchanged := queued.outstanding.insert_sends send
  have distinctBefore :
      ((queued.outstanding.insert send).2.toList ++
          (queued.outstanding.insert send).1.sends).map
        OutstandingSend.ackHash |>.Nodup :=
    (exchanged.map OutstandingSend.ackHash).nodup_iff.mp withSend.distinct
  rw [List.map_append] at distinctBefore
  obtain ⟨-, distinctAfter, exclusive⟩ :=
    List.nodup_append.mp distinctBefore
  have inserted :
      Accounted (queued.outstanding.insert send).1.sends
        queued.txq.tags (ackHash :: tracked.sent) tracked.onAir
        queued.now tracked.reports :=
    withSend.subset distinctAfter fun other member =>
      exchanged.mem_iff.mpr (List.mem_append_right _ member)
  have kept :
      ∀ other ∈ (queued.outstanding.insert send).1.sends,
        other = send ∨ other ∈ queued.outstanding.sends :=
    fun other member =>
      List.mem_cons.mp
        (exchanged.mem_iff.mpr (List.mem_append_right _ member))
  have evicted :
      (queued.outstanding.insert send).2.toList =
        tracked.abandonedSends (.send kind ackHash frame) := by
    rw [OutstandingSends.insert_evicted, resolved]
    exact
      (abandonedSends_send accounts.distinct pushes.dropped_eq.symm).symm
  have given :
      (tracked.dispatcher.sendAcked kind ackHash frame).2 =
        (resolveEvictions tracked.dispatcher.outstanding dropped).2.map
            (Undelivered.mk .queueEviction) ++
          (tracked.abandonedSends (.send kind ackHash frame)).map
            (Undelivered.mk .tableEviction) := by
    rw [← evicted, ← undelivered]
    rfl
  constructor
  · rw [Accounts]
    simp only [step, recordReports, given]
    refine
      @Accounted.record _ _ _ _
        (tracked.dispatcher.sendAcked kind ackHash frame).1 inserted _
        ?_ ?_ <;>
      rw [List.forall_mem_append] <;> constructor <;>
        rw [List.forall_mem_map]
    · intro other member
      exact pushed.knownSends other (lost other member).1
    · intro other member
      rw [← evicted] at member
      exact
        withSend.knownSends other
          (exchanged.mem_iff.mpr (List.mem_append_left _ member))
    · intro other member isKept isThere sameHash
      rcases kept isKept isThere with rfl | old
      · exact apart other (lost other member).1 sameHash.symm
      · exact (lost other member).2 isKept old sameHash
    · intro other member isKept isThere sameHash
      rw [← evicted] at member
      exact
        exclusive _ (List.mem_map_of_mem member) _
          (List.mem_map_of_mem isThere) sameHash.symm
  · intro sound
    refine
      (@reportsSound_append_iff tracked
        (tracked.step (.send kind ackHash frame)) sound
        (tracked.dispatcher.sendAcked kind ackHash frame).1
        (tracked.dispatcher.sendAcked kind ackHash frame).2 rfl rfl).trans
        ?_
    have soundLost :
        (∀ lostSend ∈
            (resolveEvictions tracked.dispatcher.outstanding dropped).2.map
              (Undelivered.mk .queueEviction),
          (report (tracked.dispatcher.sendAcked kind ackHash frame).1
            tracked.onAir lostSend).Sound) ↔
          tracked.DropsWholeSends (.send kind ackHash frame) :=
      soundIff
    have left :
        tracked.leftTags (.send kind ackHash frame) =
          (tracked.dispatcher.sendAcked kind ackHash frame).1.txq.tags :=
      leftTags_eq pushes
    rw [given, List.forall_mem_append, soundLost,
      Accounted.others_sound_iff (by decide), ← left]
    exact
      ⟨fun whole => ⟨whole.1, whole.2⟩,
        fun whole => ⟨whole.dropsWhole, whole.leavesNone⟩⟩

/-- An acknowledgement only takes sends out. -/
theorem step_ack
    {tracked : TrackedDispatcher}
    (accounts : tracked.Accounts)
    (ackHash : AckHash) :
    (tracked.step (.ack ackHash)).Accounts ∧
      (tracked.ReportsSound →
        ((tracked.step (.ack ackHash)).ReportsSound ↔
          tracked.GivesUpWholeSends (.ack ackHash))) := by
  have distinct : tracked.dispatcher.outstanding.Distinct :=
    accounts.distinct
  have remaining := distinct.resolve_sends ackHash
  constructor
  · have sublist :
        (tracked.dispatcher.outstanding.resolve ackHash).1.sends.Sublist
          tracked.dispatcher.outstanding.sends := by
      rw [remaining]
      exact List.filter_sublist
    exact accounts.subset (distinct.sublist sublist)
      fun send member => sublist.subset member
  · intro sound
    exact iff_of_true
      { sound := sound.sound, noneLate := sound.noneLate }
      (givesUpWholeSends_of_noPush rfl rfl)

/-- While all reports are right, no frame on air belongs to a reported send. -/
theorem step_drain
    {tracked : TrackedDispatcher}
    (accounts : tracked.Accounts) :
    (tracked.step .drain).Accounts ∧
      (tracked.ReportsSound →
        ((tracked.step .drain).ReportsSound ↔
          tracked.GivesUpWholeSends .drain)) := by
  have oldest := tracked.dispatcher.txq.peek_tag
  have others := tracked.dispatcher.txq.popFront_tags
  have noDrop : tracked.GivesUpWholeSends .drain :=
    givesUpWholeSends_of_noPush rfl rfl
  have accounted := accounts
  rw [Accounts] at accounted
  cases queued : tracked.dispatcher.txq.tags with
  | nil =>
      rw [queued] at oldest others accounted
      have nothing :
          tracked.step .drain =
            { tracked with dispatcher := tracked.dispatcher.drain } := by
        simp [step, oldest]
      rw [nothing]
      refine ⟨?_, fun sound => iff_of_true ?_ noDrop⟩
      · rw [Accounts]
        simp only [Dispatcher.drain, others, List.tail_nil]
        exact accounted
      · exact { sound := sound.sound, noneLate := sound.noneLate }
  | cons tag rest =>
      rw [queued] at oldest others accounted
      cases tag with
      | none =>
          have untagged :
              tracked.step .drain =
                { tracked with
                  dispatcher := tracked.dispatcher.drain } := by
            simp [step, oldest]
          rw [untagged]
          refine ⟨?_, fun sound => iff_of_true ?_ noDrop⟩
          · rw [Accounts]
            simp only [Dispatcher.drain, others, List.tail_cons]
            exact accounted.transmitUntagged
          · exact { sound := sound.sound, noneLate := sound.noneLate }
      | some ackHash =>
          have transmitted :
              tracked.step .drain =
                { tracked with
                  dispatcher := tracked.dispatcher.drain
                  onAir := ackHash :: tracked.onAir
                  late :=
                    if
                      tracked.reports.any (·.send.ackHash == ackHash)
                    then
                      ackHash :: tracked.late
                    else
                      tracked.late } := by
            simp [step, oldest]
          rw [transmitted]
          refine ⟨?_, fun sound => iff_of_true ?_ noDrop⟩
          · rw [Accounts]
            simp only [Dispatcher.drain, others, List.tail_cons]
            exact accounted.transmit
          · have notReported :
                tracked.reports.any (·.send.ackHash == ackHash) =
                  false := by
              rw [List.any_eq_false]
              intro given member sameHash
              have atMost := (accounted.reported given member).2.2
              have noneQueued := (sound.sound given member).noneQueued
              rw [eq_of_beq sameHash, noneQueued,
                List.count_cons_self] at atMost
              omega
            exact
              { sound := sound.sound
                noneLate := by
                  simp [notReported, sound.noneLate] }

/-- Every step keeps the accounts, and stays sound exactly under the guard. -/
theorem step_accounts
    (tracked : TrackedDispatcher)
    (event : DispatcherEvent)
    (accounts : tracked.Accounts)
    (fresh :
      ∀ ackHash,
        event.sentHash = some ackHash → ackHash ∉ tracked.sent) :
    (tracked.step event).Accounts ∧
      (tracked.ReportsSound →
        ((tracked.step event).ReportsSound ↔
          tracked.GivesUpWholeSends event)) := by
  cases event with
  | send kind ackHash frame =>
      exact step_send accounts kind (fresh ackHash rfl) frame
  | reply frame =>
      exact step_reply accounts frame
  | sweep now canPost =>
      exact step_sweep accounts now canPost
  | drain =>
      exact step_drain accounts
  | ack ackHash =>
      exact step_ack accounts ackHash

/--
Over runs of sends with distinct acknowledgement hashes, every report is right, and
no frame goes on air after its send was reported, exactly when no step leaves a copy
of a send that it gives up, nor one on air of a send whose frame it drops.
-/
theorem undeliveredReports_sound_iff
    (events : List DispatcherEvent)
    (distinct : (events.filterMap DispatcherEvent.sentHash).Nodup) :
    Always step ReportsSound new events ↔
      Along step GivesUpWholeSends new events := by
  have records :
      ∀ (tracked : TrackedDispatcher) (event : DispatcherEvent),
        (tracked.step event).sent =
          event.sentHash.toList ++ tracked.sent := by
    intro tracked event
    cases event with
    | drain =>
        simp only [step, DispatcherEvent.sentHash]
        split <;> rfl
    | _ =>
        rfl
  have distinctInitially :
      (events.filterMap DispatcherEvent.sentHash ++ new.sent).Nodup := by
    simpa [new] using distinct
  have fresh := along_fresh records distinctInitially
  exact
    always_iff_along_assuming
      (fun tracked event accounts _ isFresh =>
        (step_accounts tracked event accounts isFresh).1)
      (fun tracked event accounts sound isFresh =>
        (step_accounts tracked event accounts isFresh).2 sound)
      Accounted.initial
      { sound := by simp [new], noneLate := rfl }
      fresh

/--
Two messages are on air and are retried.  A third one waits in the queue until it is
retried, and then two more retries push out both its copies.  The first two are
given up when their last deadline has passed.
-/
def rightlyGivenUp : List DispatcherEvent :=
  [.send (.dm 7) #v[33, 34, 35, 36] [9],
    .drain,
    .send (.dm 8) #v[37, 38, 39, 40] [10],
    .drain,
    .sweep 30000 fun _ => true,
    .drain,
    .drain,
    .send (.dm 9) #v[41, 42, 43, 44] [11],
    .sweep 60000 fun _ => true,
    .reply [12],
    .reply [13],
    .sweep 90000 fun _ => true,
    .drain,
    .drain,
    .drain,
    .drain,
    .sweep 250000 fun _ => true]

/-- All three are reported, and rightly. -/
theorem undeliveredReports_sound_rightlyGivenUp :
    (run step new rightlyGivenUp).reports.map UndeliveredReport.cause =
        [.queueEviction, .deadline, .deadline] ∧
      Always step ReportsSound new rightlyGivenUp :=
  ⟨by decide +kernel,
    (undeliveredReports_sound_iff rightlyGivenUp (by decide)).mpr
      (by decide +kernel)⟩

/--
A message waits in the queue until it is retried; three replies push its first
copy out, it is reported undelivered, and its second copy goes on air.
-/
def overtakenRetry : List DispatcherEvent :=
  [.send (.dm 7) #v[33, 34, 35, 36] [9],
    .sweep 30000 fun _ => true,
    .reply [10],
    .reply [11],
    .reply [12],
    .drain]

/-- A message waits in the queue, retried twice, until its last deadline has passed;
it is reported undelivered, and its first copy goes on air. -/
def overdueCopies : List DispatcherEvent :=
  [.send (.dm 7) #v[33, 34, 35, 36] [9],
    .sweep 30000 fun _ => true,
    .sweep 90000 fun _ => true,
    .sweep 200000 fun _ => true,
    .drain]

theorem overtakenRetry_on_air_after_report :
    (run step new overtakenRetry).late = [#v[33, 34, 35, 36]] ∧
      (run step new overdueCopies).late = [#v[33, 34, 35, 36]] ∧
      ¬ Always step ReportsSound new overtakenRetry := by
  have late :
      (run step new overtakenRetry).late = [#v[33, 34, 35, 36]] := by
    decide +kernel
  refine ⟨late, by decide +kernel, fun always => ?_⟩
  have noneLate := always.last.noneLate
  rw [late] at noneLate
  cases noneLate

end TrackedDispatcher

end MeshCadet
