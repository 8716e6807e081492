import MeshCadet.OutstandingSends

namespace MeshCadet

/-!
# The dispatcher's send path

How the dispatcher loop wires the transmit queue to the outstanding sends: a
frame dropped from the full queue takes its send out of the table, a send is
queued before it is tracked, and a retry queues the cached frame once more.
Every send that is given up is reported to the user interface.
-/

/-- What the dispatcher tells the user interface about a message. -/
inductive UiEvent where
  | dmQueued (toHash : UInt8) (ackHash : AckHash)
  | dmAcked (toHash : UInt8) (isChannel : Bool) (ackHash : AckHash)
  | dmUndelivered (toHash : UInt8) (isChannel : Bool) (ackHash : AckHash)
  | channelAcked (channelHash : UInt8)
  | incomingDm (fromHash : UInt8)
deriving Repr, DecidableEq

/-- The conversation a send belongs to, and whether it is a room. -/
def OutstandingKind.conversation : OutstandingKind → UInt8 × Bool
  | dm toHash => (toHash, false)
  | roomPost roomHash => (roomHash, true)

/-- The event that settles a send's record. -/
def deliveryEvent
    (send : OutstandingSend)
    (delivered : Bool) :
    UiEvent :=
  let (toHash, isChannel) := send.kind.conversation
  if delivered then
    .dmAcked toHash isChannel send.ackHash
  else
    .dmUndelivered toHash isChannel send.ackHash

/-- Why a send was given up. -/
inductive UndeliveredCause where
  | queueEviction
  | tableEviction
  | deadline
deriving Repr, DecidableEq

/-- A send that was given up. -/
structure Undelivered where
  cause : UndeliveredCause
  send : OutstandingSend
deriving Repr, DecidableEq

/-- Take the send out of the table whose frame the full queue dropped. -/
def logTxQueueEviction
    (outstanding : OutstandingSends)
    (dropped : Nat × Option AckHash) :
    OutstandingSends × Option OutstandingSend :=
  outstanding.resolveEvicted dropped.2

/-- Take out the sends of several dropped frames, one after the other. -/
def resolveEvictions
    (outstanding : OutstandingSends) :
    List (Nat × Option AckHash) →
      OutstandingSends × List OutstandingSend
  | [] =>
      (outstanding, [])
  | dropped :: rest =>
      let (after, lost) := logTxQueueEviction outstanding dropped
      let (last, others) := resolveEvictions after rest
      (last, lost.toList ++ others)

/-- The dispatcher's send state at the time of its current iteration. -/
structure Dispatcher where
  txq : TxQueue
  outstanding : OutstandingSends
  now : Nat

namespace Dispatcher

/-- The state after boot. -/
def new : Dispatcher :=
  { txq := TxQueue.new
    outstanding := OutstandingSends.new
    now := 0 }

/-- Queue a frame and give up the send whose frame it drops. -/
def queueFrame
    (dispatcher : Dispatcher)
    (frame : List UInt8)
    (tag : Option AckHash) :
    Dispatcher × List Undelivered :=
  let (txq, dropped) := dispatcher.txq.enqueue frame tag
  let (outstanding, lost) :=
    resolveEvictions dispatcher.outstanding dropped.toList
  ({ dispatcher with txq := txq, outstanding := outstanding },
    lost.map (Undelivered.mk .queueEviction))

/-- Track a send and give up the one a full table evicts. -/
def insertOutstanding
    (dispatcher : Dispatcher)
    (send : OutstandingSend) :
    Dispatcher × List Undelivered :=
  let (outstanding, evicted) := dispatcher.outstanding.insert send
  ({ dispatcher with outstanding := outstanding },
    evicted.toList.map (Undelivered.mk .tableEviction))

/-- Queue and track a message that earns an acknowledgement. -/
def sendAcked
    (dispatcher : Dispatcher)
    (kind : OutstandingKind)
    (ackHash : AckHash)
    (frame : List UInt8) :
    Dispatcher × List Undelivered :=
  let (queued, lost) := dispatcher.queueFrame frame (some ackHash)
  let (tracked, evicted) :=
    queued.insertOutstanding
      (OutstandingSend.new ackHash kind dispatcher.now frame)
  (tracked, lost ++ evicted)

/-- A retry of a room post needs a session that may still post. -/
def mayRetry
    (canPost : UInt8 → Bool)
    (send : OutstandingSend) :
    Bool :=
  match send.kind with
  | .roomPost roomHash => canPost roomHash
  | .dm _ => true

/-- Queue the cached frame of a send that may be retried once more. -/
def retryIf
    (canPost : UInt8 → Bool)
    (current : TxQueue × List (Nat × Option AckHash))
    (send : OutstandingSend) :
    (TxQueue × List (Nat × Option AckHash)) × Bool :=
  if mayRetry canPost send then
    let (txq, dropped) :=
      current.1.enqueue send.frame (some send.ackHash)
    ((txq, current.2 ++ dropped.toList), true)
  else
    (current, false)

/-- The retry sweep at the top of an iteration. -/
def sweepRetries
    (dispatcher : Dispatcher)
    (now : Nat)
    (canPost : UInt8 → Bool) :
    Dispatcher × List Undelivered :=
  let (swept, (txq, evictions), undelivered) :=
    dispatcher.outstanding.sweepExpired now (retryIf canPost)
      (dispatcher.txq, [])
  let (outstanding, lost) := resolveEvictions swept evictions
  ({ txq := txq, outstanding := outstanding, now := now },
    undelivered.map (Undelivered.mk .deadline) ++
      lost.map (Undelivered.mk .queueEviction))

/-- The oldest frame went on air. -/
def drain
    (dispatcher : Dispatcher) :
    Dispatcher :=
  { dispatcher with txq := dispatcher.txq.popFront }

/-- An acknowledgement was heard; its send is delivered. -/
def ackHeard
    (dispatcher : Dispatcher)
    (ackHash : AckHash) :
    Dispatcher × Option OutstandingSend :=
  let (outstanding, delivered) := dispatcher.outstanding.resolve ackHash
  ({ dispatcher with outstanding := outstanding }, delivered)

end Dispatcher

/-- What several dropped frames take out of the table. -/
theorem resolveEvictions_eq
    {outstanding : OutstandingSends}
    (distinct : outstanding.Distinct)
    (dropped : List (Nat × Option AckHash)) :
    (resolveEvictions outstanding dropped).1.sends =
        outstanding.sends.filter
          (fun send => some send.ackHash ∉ dropped.map Prod.snd) ∧
      ∀ send,
        send ∈ (resolveEvictions outstanding dropped).2 ↔
          send ∈ outstanding.sends ∧
            some send.ackHash ∈ dropped.map Prod.snd := by
  induction dropped generalizing outstanding with
  | nil =>
      simp [resolveEvictions]
  | cons first rest inductionHypothesis =>
      obtain ⟨length, tag⟩ := first
      cases tag with
      | none =>
          obtain ⟨remaining, lost⟩ := inductionHypothesis distinct
          have untagged :
              ∀ ackHash : AckHash,
                (some ackHash ∈ ((length, none) :: rest).map Prod.snd) =
                  (some ackHash ∈ rest.map Prod.snd) := by
            simp
          simp only [untagged]
          exact ⟨remaining, lost⟩
      | some ackHash =>
          have resolved := distinct.resolve_sends ackHash
          have stillDistinct : (outstanding.resolve ackHash).1.Distinct :=
            distinct.sublist (by rw [resolved]; exact List.filter_sublist)
          obtain ⟨remaining, lost⟩ := inductionHypothesis stillDistinct
          constructor
          · simp only [resolveEvictions, logTxQueueEviction,
              OutstandingSends.resolveEvicted, remaining, resolved,
              List.filter_filter]
            apply List.filter_congr
            intro send _
            rw [Bool.eq_iff_iff]
            simp [and_comm]
          · intro send
            have found :=
              @OutstandingSends.Distinct.resolve_eq_some_iff
                outstanding distinct ackHash send
            simp only [resolveEvictions, logTxQueueEviction,
              OutstandingSends.resolveEvicted, List.mem_append,
              Option.mem_toList, found, lost, resolved,
              List.mem_filter, List.map_cons, List.mem_cons,
              Option.some.injEq, bne_iff_ne]
            constructor
            · rintro (⟨member, isThis⟩ | ⟨⟨member, -⟩, isOther⟩)
              · exact ⟨member, .inl isThis⟩
              · exact ⟨member, .inr isOther⟩
            · rintro ⟨member, named⟩
              by_cases isThis : send.ackHash = ackHash
              · exact .inl ⟨member, isThis⟩
              · exact .inr
                  ⟨⟨member, isThis⟩, named.resolve_left isThis⟩

/-- Dropped frames of no tracked send take nothing out. -/
theorem resolveEvictions_untracked
    {outstanding : OutstandingSends}
    {dropped : List (Nat × Option AckHash)}
    (untracked :
      ∀ send ∈ outstanding.sends,
        some send.ackHash ∉ dropped.map Prod.snd) :
    (resolveEvictions outstanding dropped).1 = outstanding := by
  induction dropped with
  | nil =>
      rfl
  | cons first rest inductionHypothesis =>
      obtain ⟨length, tag⟩ := first
      have others :=
        inductionHypothesis fun send member inRest =>
          untracked send member (List.mem_cons_of_mem _ inRest)
      cases tag with
      | none =>
          exact others
      | some ackHash =>
          have same : (outstanding.resolve ackHash).1 = outstanding := by
            have slots :
                (outstanding.resolve ackHash).1.slots =
                  outstanding.slots := by
              refine SlotTable.takeFirst_eq_self fun send member => ?_
              rw [beq_eq_false_iff_ne]
              rintro rfl
              exact untracked send member List.mem_cons_self
            cases outstanding
            simpa [OutstandingSends.resolve] using slots
          simp only [resolveEvictions, logTxQueueEviction,
            OutstandingSends.resolveEvicted, same]
          exact others

namespace Dispatcher

open OutstandingSends TxQueue

/-- Queueing a frame pushes its tag and gives up the sends pushed out. -/
theorem queueFrame_eq
    (dispatcher : Dispatcher)
    (frame : List UInt8)
    (tag : Option AckHash) :
    ∃ dropped : List (Nat × Option AckHash),
      Pushes dispatcher.txq.tags [tag] (dropped.map Prod.snd)
          (dispatcher.queueFrame frame tag).1.txq.tags ∧
        (dispatcher.queueFrame frame tag).1.outstanding =
          (resolveEvictions dispatcher.outstanding dropped).1 ∧
        (dispatcher.queueFrame frame tag).1.now = dispatcher.now ∧
        (dispatcher.queueFrame frame tag).2 =
          (resolveEvictions dispatcher.outstanding dropped).2.map
            (Undelivered.mk .queueEviction) :=
  ⟨(dispatcher.txq.enqueue frame tag).2.toList,
    dispatcher.txq.enqueue_pushes frame tag, rfl, rfl, rfl⟩

/-- The sends whose frame a sweep queues once more. -/
def retriedSends
    (dispatcher : Dispatcher)
    (now : Nat)
    (canPost : UInt8 → Bool) :
    List OutstandingSend :=
  dispatcher.outstanding.sends.filter fun send =>
    isOffered now send && mayRetry canPost send

/-- The sends left by a sweep, before the dropped frames are resolved. -/
def sweptSends
    (dispatcher : Dispatcher)
    (now : Nat)
    (canPost : UInt8 → Bool) :
    List OutstandingSend :=
  dispatcher.outstanding.sends.filterMap
    (sweptSend now (mayRetry canPost))

/-- Retrying sends pushes their tags onto the queue. -/
theorem foldl_retryIf
    (canPost : UInt8 → Bool)
    (offered : List OutstandingSend)
    (txq : TxQueue)
    (evictions : List (Nat × Option AckHash)) :
    ∃ dropped : List (Nat × Option AckHash),
      let last :=
        offered.foldl
          (fun current send => (retryIf canPost current send).1)
          (txq, evictions)
      last.2 = evictions ++ dropped ∧
        Pushes txq.tags
          ((offered.filter (mayRetry canPost)).map
            fun send => some send.ackHash)
          (dropped.map Prod.snd) last.1.tags := by
  induction offered generalizing txq evictions with
  | nil =>
      exact ⟨[], by simp, Pushes.nothing txq⟩
  | cons send rest inductionHypothesis =>
      cases permitted : mayRetry canPost send with
      | false =>
          obtain ⟨dropped, collected, pushes⟩ :=
            inductionHypothesis txq evictions
          refine ⟨dropped, ?_, ?_⟩
          · simpa [retryIf, permitted] using collected
          · simpa [retryIf, permitted] using pushes
      | true =>
          let queued := txq.enqueue send.frame (some send.ackHash)
          obtain ⟨dropped, collected, pushes⟩ :=
            inductionHypothesis queued.1
              (evictions ++ queued.2.toList)
          refine ⟨queued.2.toList ++ dropped, ?_, ?_⟩
          · simpa [retryIf, permitted] using collected
          · have first :=
              txq.enqueue_pushes send.frame (some send.ackHash)
            have both := first.append pushes
            simpa [retryIf, permitted, queued] using both

/-- A sweep changes the sends, pushes the retries and resolves what it drops. -/
theorem sweepRetries_eq
    (dispatcher : Dispatcher)
    (now : Nat)
    (canPost : UInt8 → Bool) :
    ∃ (swept : OutstandingSends) (dropped : List (Nat × Option AckHash)),
      swept.sends = dispatcher.sweptSends now canPost ∧
        Pushes dispatcher.txq.tags
          ((dispatcher.retriedSends now canPost).map
            fun send => some send.ackHash)
          (dropped.map Prod.snd)
          (dispatcher.sweepRetries now canPost).1.txq.tags ∧
        (dispatcher.sweepRetries now canPost).1.outstanding =
          (resolveEvictions swept dropped).1 ∧
        (dispatcher.sweepRetries now canPost).1.now = now ∧
        (dispatcher.sweepRetries now canPost).2 =
          (dispatcher.outstanding.sends.filter fun send =>
              (sweptSend now (mayRetry canPost) send).isNone).map
              (Undelivered.mk .deadline) ++
            (resolveEvictions swept dropped).2.map
              (Undelivered.mk .queueEviction) := by
  have decides :
      ∀ (current : TxQueue × List (Nat × Option AckHash)) send,
        (retryIf canPost current send).2 = mayRetry canPost send := by
    intro current send
    cases permitted : mayRetry canPost send <;>
      simp [retryIf, permitted]
  have swept :=
    dispatcher.outstanding.sweepExpired_sends now
      (mayRetry canPost) decides (dispatcher.txq, [])
  have undelivered :=
    dispatcher.outstanding.sweepExpired_undelivered now
      (mayRetry canPost) decides (dispatcher.txq, [])
  have state :
      (dispatcher.outstanding.sweepExpired now (retryIf canPost)
          (dispatcher.txq, [])).2.1 =
        _ :=
    dispatcher.outstanding.sweepExpired_state now (dispatcher.txq, [])
  obtain ⟨dropped, collected, pushes⟩ :=
    foldl_retryIf canPost
      (dispatcher.outstanding.sends.filter (isOffered now))
      dispatcher.txq []
  rw [← state] at collected pushes
  rw [List.nil_append] at collected
  refine
    ⟨(dispatcher.outstanding.sweepExpired now (retryIf canPost)
        (dispatcher.txq, [])).1,
      dropped, swept, ?_, ?_, rfl, ?_⟩
  · have sameRetries :
        (dispatcher.outstanding.sends.filter (isOffered now)).filter
            (mayRetry canPost) =
          dispatcher.retriedSends now canPost := by
      rw [List.filter_filter]
      exact List.filter_congr fun _ _ => Bool.and_comm _ _
    rw [← sameRetries]
    exact pushes
  · simp only [sweepRetries, collected]
  · simp only [sweepRetries, collected, undelivered]

/-- The acknowledgements waited for, each with the message it is for. -/
def awaited
    (dispatcher : Dispatcher) :
    List (AckHash × OutstandingKind) :=
  dispatcher.outstanding.sends.map fun send => (send.ackHash, send.kind)

/-- The sends wait for different acknowledgements. -/
def Distinct
    (dispatcher : Dispatcher) :
    Prop :=
  (dispatcher.awaited.map Prod.fst).Nodup

theorem distinct_iff
    {dispatcher : Dispatcher} :
    dispatcher.Distinct ↔ dispatcher.outstanding.Distinct := by
  simp [Distinct, OutstandingSends.Distinct, awaited, Function.comp_def]

/-- Nothing is awaited after boot. -/
@[simp] theorem awaited_new :
    new.awaited = [] :=
  rfl

/-- Resolving dropped frames only takes sends out. -/
theorem resolveEvictions_sublist
    (outstanding : OutstandingSends)
    (dropped : List (Nat × Option AckHash)) :
    (resolveEvictions outstanding dropped).1.sends.Sublist
      outstanding.sends := by
  induction dropped generalizing outstanding with
  | nil =>
      exact List.Sublist.refl _
  | cons first rest inductionHypothesis =>
      obtain ⟨length, tag⟩ := first
      cases tag with
      | none => exact inductionHypothesis outstanding
      | some ackHash =>
          have resolved :
              (outstanding.resolve ackHash).1.sends.Sublist
                outstanding.sends := by
            rw [(outstanding.resolve_eq ackHash).1]
            exact List.eraseP_sublist
          exact (inductionHypothesis _).trans resolved

/-- Queueing a frame only takes sends out. -/
theorem queueFrame_sends
    (dispatcher : Dispatcher)
    (frame : List UInt8)
    (tag : Option AckHash) :
    (dispatcher.queueFrame frame tag).1.outstanding.sends.Sublist
      dispatcher.outstanding.sends := by
  obtain ⟨dropped, -, resolved, -, -⟩ :=
    dispatcher.queueFrame_eq frame tag
  rw [resolved]
  exact resolveEvictions_sublist dispatcher.outstanding dropped

theorem queueFrame_awaited
    (dispatcher : Dispatcher)
    (frame : List UInt8)
    (tag : Option AckHash) :
    (dispatcher.queueFrame frame tag).1.awaited.Sublist
      dispatcher.awaited :=
  (dispatcher.queueFrame_sends frame tag).map _

/-- A sweep leaves sends as they are or retries them. -/
theorem mem_sweepRetries_sends
    {dispatcher : Dispatcher}
    {now : Nat}
    {canPost : UInt8 → Bool}
    {send : OutstandingSend}
    (isTracked :
      send ∈ (dispatcher.sweepRetries now canPost).1.outstanding.sends) :
    send ∈ dispatcher.outstanding.sends ∨
      ∃ before ∈ dispatcher.outstanding.sends,
        send = before.retriedAt now := by
  obtain ⟨swept, dropped, isSwept, -, resolved, -, -⟩ :=
    dispatcher.sweepRetries_eq now canPost
  rw [resolved] at isTracked
  have inSwept :=
    (resolveEvictions_sublist swept dropped).subset isTracked
  rw [isSwept] at inSwept
  rcases mem_swept inSwept with
    ⟨old, -⟩ | ⟨before, isBefore, -, -, isRetry⟩
  · exact .inl old
  · exact .inr ⟨before, isBefore, isRetry⟩

/-- A sweep only takes sends out. -/
theorem sweepRetries_awaited
    {dispatcher : Dispatcher}
    (distinct : dispatcher.Distinct)
    (now : Nat)
    (canPost : UInt8 → Bool) :
    (dispatcher.sweepRetries now canPost).1.Distinct ∧
      (dispatcher.sweepRetries now canPost).1.awaited ⊆
        dispatcher.awaited := by
  constructor
  · obtain ⟨swept, dropped, isSwept, -, resolved, -, -⟩ :=
      dispatcher.sweepRetries_eq now canPost
    have sweptDistinct : swept.Distinct := by
      rw [OutstandingSends.Distinct, isSwept]
      exact distinct_swept (distinct_iff.mp distinct) now _
    rw [distinct_iff, resolved]
    exact sweptDistinct.sublist (resolveEvictions_sublist swept dropped)
  · intro pair member
    obtain ⟨send, isTracked, rfl⟩ := List.mem_map.mp member
    rcases mem_sweepRetries_sends isTracked with
      old | ⟨before, isBefore, rfl⟩
    · exact List.mem_map.mpr ⟨send, old, rfl⟩
    · exact List.mem_map.mpr ⟨before, isBefore, rfl⟩

/-- After a send, it is tracked besides some of those before. -/
theorem mem_sendAcked_sends
    {dispatcher : Dispatcher}
    {kind : OutstandingKind}
    {ackHash : AckHash}
    {frame : List UInt8}
    {send : OutstandingSend}
    (isTracked :
      send ∈
        (dispatcher.sendAcked kind ackHash frame).1.outstanding.sends) :
    send = .new ackHash kind dispatcher.now frame ∨
      send ∈ dispatcher.outstanding.sends := by
  have exchanged :=
    (dispatcher.queueFrame frame
      (some ackHash)).1.outstanding.insert_sends
        (.new ackHash kind dispatcher.now frame)
  have origin :=
    exchanged.mem_iff.mpr (List.mem_append_right _ isTracked)
  rcases List.mem_cons.mp origin with isNew | old
  · exact .inl isNew
  · exact .inr
      ((dispatcher.queueFrame_sends frame (some ackHash)).subset old)

/-- A fresh send is awaited besides some of those before. -/
theorem sendAcked_awaited
    {dispatcher : Dispatcher}
    (distinct : dispatcher.Distinct)
    (kind : OutstandingKind)
    {ackHash : AckHash}
    (fresh : ∀ pair ∈ dispatcher.awaited, pair.1 ≠ ackHash)
    (frame : List UInt8) :
    (dispatcher.sendAcked kind ackHash frame).1.Distinct ∧
      (dispatcher.sendAcked kind ackHash frame).1.awaited ⊆
        (ackHash, kind) :: dispatcher.awaited := by
  let queued := (dispatcher.queueFrame frame (some ackHash)).1
  let send := OutstandingSend.new ackHash kind dispatcher.now frame
  have exchanged := queued.outstanding.insert_sends send
  have sublist :=
    queueFrame_awaited dispatcher frame (some ackHash)
  constructor
  · have distinctBefore :
        ((send :: queued.outstanding.sends).map
          OutstandingSend.ackHash).Nodup := by
      have queuedDistinct : queued.outstanding.Distinct :=
        distinct_iff.mp ((sublist.map Prod.fst).nodup distinct)
      rw [List.map_cons, List.nodup_cons]
      refine ⟨?_, queuedDistinct⟩
      intro member
      obtain ⟨other, isTracked, sameHash⟩ := List.mem_map.mp member
      exact
        fresh (other.ackHash, other.kind)
          (sublist.subset (List.mem_map.mpr ⟨other, isTracked, rfl⟩))
          sameHash
    have distinctAfter :=
      (exchanged.map OutstandingSend.ackHash).nodup_iff.mp
        distinctBefore
    rw [List.map_append] at distinctAfter
    exact distinct_iff.mpr (List.nodup_append.mp distinctAfter).2.1
  · intro pair member
    obtain ⟨tracked, isTracked, rfl⟩ := List.mem_map.mp member
    rcases mem_sendAcked_sends isTracked with rfl | old
    · exact List.mem_cons_self
    · exact List.mem_cons_of_mem _ (List.mem_map.mpr ⟨tracked, old, rfl⟩)

/-- An acknowledgement resolves a send exactly when it is awaited. -/
theorem ackHeard_eq_some_iff
    {dispatcher : Dispatcher}
    (distinct : dispatcher.Distinct)
    {ackHash : AckHash}
    {kind : OutstandingKind} :
    (dispatcher.ackHeard ackHash).2.map OutstandingSend.kind =
        some kind ↔
      (ackHash, kind) ∈ dispatcher.awaited := by
  have resolved :=
    @OutstandingSends.Distinct.resolve_eq_some_iff
      dispatcher.outstanding (distinct_iff.mp distinct) ackHash
  rw [Option.map_eq_some_iff, awaited, List.mem_map]
  constructor
  · rintro ⟨send, delivered, rfl⟩
    obtain ⟨isTracked, rfl⟩ := resolved.mp delivered
    exact ⟨send, isTracked, rfl⟩
  · rintro ⟨send, isTracked, same⟩
    obtain ⟨rfl, rfl⟩ := Prod.mk.inj same
    exact ⟨send, resolved.mpr ⟨isTracked, rfl⟩, rfl⟩

/-- A heard acknowledgement is no longer awaited; the others still are. -/
theorem ackHeard_awaited
    {dispatcher : Dispatcher}
    (distinct : dispatcher.Distinct)
    (ackHash : AckHash) :
    (dispatcher.ackHeard ackHash).1.awaited =
      dispatcher.awaited.filter (·.1 != ackHash) := by
  have remaining :=
    (distinct_iff.mp distinct).resolve_sends ackHash
  simp only [ackHeard, awaited, remaining, List.filter_map]
  rfl

end Dispatcher

end MeshCadet
