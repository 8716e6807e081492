import MeshCadet.TxTurns

namespace MeshCadet

/-!
# Frames that keep the duty cycle

The budget forgets a transmission after 32 others.  That is no harm while 33
transmissions do not fit into it, which is so exactly when no frame is shorter
than 44 bytes.
-/

open RingBuffer

namespace TxLoop

/-- The times of the passes of a run. -/
def turnTimes
    (events : List TxEvent) :
    List Nat :=
  events.filterMap fun event =>
    match event with
    | .turn turn => some turn.nowMs
    | _ => none

/-- The shortest frame of which 33 do not fit into the budget. -/
def shortestSafeFrame : Nat :=
  44

/-- The least airtime of which 33 do not fit into the budget. -/
def leastSafeAirtime : Nat :=
  185

/-- Frames of so many bytes take so long. -/
theorem leastSafeAirtime_le
    {payloadBytes : Nat}
    (long : shortestSafeFrame ≤ payloadBytes) :
    leastSafeAirtime ≤ loraAirtimeMs payloadBytes := by
  rw [shortestSafeFrame] at long
  rw [leastSafeAirtime, loraAirtimeMs, payloadSymbolGroups]
  omega

/-- Records that all count take at least as long as so many of the shortest. -/
theorem length_mul_le_airtime
    {startsIn : Nat → Bool}
    {least : Nat}
    {records : List TxRecord}
    (inside : ∀ record ∈ records, startsIn record.startMs = true)
    (long : ∀ record ∈ records, least ≤ record.durationMs) :
    records.length * least ≤ MeshCadet.airtime startsIn records := by
  induction records with
  | nil =>
      simp
  | cons record rest inductionHypothesis =>
      have restAirtime :=
        inductionHypothesis
          (fun other member =>
            inside other (List.mem_cons_of_mem record member))
          fun other member =>
            long other (List.mem_cons_of_mem record member)
      have here := long record List.mem_cons_self
      have counts := inside record List.mem_cons_self
      rw [← List.singleton_append, airtime_append, airtime_singleton,
        if_pos counts, List.length_append, List.length_singleton,
        Nat.add_mul, Nat.one_mul]
      exact Nat.add_le_add here restAirtime

/-- What was sent came in order and took long enough. -/
structure SentLong
    (log : AirtimeLog) :
    Prop where
  inOrder :
    log.sent.Pairwise fun earlier later => earlier.startMs ≤ later.startMs
  long : ∀ record ∈ log.sent, leastSafeAirtime ≤ record.durationMs

/-- When a long frame is allowed, none of the forgotten ones counts. -/
theorem SentLong.forgetsOutside
    {log : AirtimeLog}
    (sentLong : SentLong log)
    (kept : log.Kept)
    {frame : TxRecord}
    (long : leastSafeAirtime ≤ frame.durationMs) :
    log.ForgetsOutside frame := by
  intro allowed
  let forgotten := log.sent.take (log.sent.length - budgetSlots)
  let remembered := log.sent.drop (log.sent.length - budgetSlots)
  have noneCounts :
      ∀ record ∈ forgotten,
        ¬ AirtimeBudget.cutoff frame.startMs ≤ record.startMs := by
    intro record member counts
    have isPart : forgotten ++ remembered = log.sent :=
      List.take_append_drop _ _
    have inOrder := sentLong.inOrder
    rw [← isPart, List.pairwise_append] at inOrder
    have allCount :
        ∀ later ∈ remembered,
          decide
              (AirtimeBudget.cutoff frame.startMs ≤ later.startMs) =
            true := by
      intro later isLater
      have notBefore := inOrder.2.2 record member later isLater
      exact decide_eq_true (counts.trans notBefore)
    have longEnough :
        ∀ later ∈ remembered, leastSafeAirtime ≤ later.durationMs :=
      fun later isLater => sentLong.long later (List.mem_of_mem_drop isLater)
    have many : remembered.length = budgetSlots := by
      have positive := List.length_pos_of_mem member
      rw [List.length_take] at positive
      rw [List.length_drop]
      omega
    have used :
        remembered.length * leastSafeAirtime ≤
          MeshCadet.airtime
            (fun start => AirtimeBudget.cutoff frame.startMs ≤ start)
            remembered :=
      length_mul_le_airtime allCount longEnough
    rw [many, ← kept.usedInWindow_eq] at used
    have fits :
        log.budget.usedInWindow frame.startMs + frame.durationMs ≤
          budgetMaxMs :=
      decide_eq_true_eq.mp allowed
    have tooMuch :
        budgetMaxMs < budgetSlots * leastSafeAirtime + leastSafeAirtime := by
      decide
    omega
  intro record member
  have early := noneCounts record member
  rw [AirtimeBudget.cutoff] at early
  omega

/-- The duty cycle is kept, and all that waits or was sent is long. -/
structure KeepsDutyCycle
    (loop : TxLoop) :
    Prop where
  kept : loop.airtime.Kept
  within' : loop.airtime.WithinDutyCycle
  sentLong : SentLong loop.airtime
  pendingLong :
    ∀ frame ∈ loop.queue.contents,
      shortestSafeFrame ≤ frame.bytes.length

/-- A long frame is queued, and a pass comes after all that was sent. -/
def LongAndLater
    (loop : TxLoop) :
    TxEvent → Prop
  | .enqueue frame _ => shortestSafeFrame ≤ (frame.take frameBuf).length
  | .turn turn =>
      ∀ record ∈ loop.airtime.sent, record.startMs ≤ turn.nowMs
  | .hear _ => True

variable {crypto : Crypto} {pubHash : UInt8} {loop : TxLoop}

/-- A sent frame is long and comes last. -/
theorem SentLong.step
    {log : AirtimeLog}
    (sentLong : SentLong log)
    {frame : TxRecord}
    (later : log.InOrder frame)
    (long : leastSafeAirtime ≤ frame.durationMs) :
    SentLong (log.step frame) := by
  unfold AirtimeLog.step
  split
  · refine ⟨?_, ?_⟩
    · refine List.pairwise_append.mpr
        ⟨sentLong.inOrder, List.pairwise_singleton _ _, ?_⟩
      intro earlier member last isLast
      rw [List.mem_singleton.mp isLast]
      exact later earlier member
    · intro record member
      rcases List.mem_append.mp member with before | isNew
      · exact sentLong.long record before
      · rw [List.mem_singleton.mp isNew]
        exact long
  · exact sentLong

/-- An attempt with a long frame keeps the duty cycle. -/
theorem KeepsDutyCycle.attempt
    (keeps : KeepsDutyCycle loop)
    {frame : QueuedFrame}
    (oldest : loop.queue.contents.head? = some frame)
    {turn : TxTurn}
    (later :
      ∀ record ∈ loop.airtime.sent, record.startMs ≤ turn.nowMs) :
    KeepsDutyCycle (loop.attempt crypto pubHash turn frame) := by
  have isPending : frame ∈ loop.queue.contents :=
    List.mem_of_mem_head? oldest
  have long := leastSafeAirtime_le (keeps.pendingLong frame isPending)
  have fewer :
      ∀ other ∈ Ring.contents loop.queue.popFront,
        shortestSafeFrame ≤ other.bytes.length := by
    rw [Ring.contents_popFront]
    exact fun other member =>
      keeps.pendingLong other (List.mem_of_mem_tail member)
  rcases loop.attempt_cases crypto pubHash turn frame with
    ⟨-, result⟩ | ⟨-, ⟨-, result⟩ | ⟨-, ⟨-, result⟩ | ⟨_, -, result⟩⟩⟩
  · rw [result]
    exact ⟨keeps.kept, keeps.within', keeps.sentLong, fewer⟩
  · rw [result]
    exact ⟨keeps.kept, keeps.within', keeps.sentLong, keeps.pendingLong⟩
  · rw [result]
    have room :
        loop.airtime.LeavesForgottenRoom
          { startMs := turn.nowMs
            durationMs := frame.airtimeMs } :=
      (keeps.sentLong.forgetsOutside keeps.kept long).leavesRoom
    have inOrder :
        loop.airtime.InOrder
          { startMs := turn.nowMs
            durationMs := frame.airtimeMs } := later
    exact
      ⟨keeps.kept.step _,
        (AirtimeLog.withinDutyCycle_step_iff keeps.kept keeps.within'
          inOrder).mpr room,
        keeps.sentLong.step inOrder long, fewer⟩
  · rw [result]
    exact ⟨keeps.kept, keeps.within', keeps.sentLong, keeps.pendingLong⟩

/-- The queue after an enqueue holds old frames and the new one. -/
theorem mem_enqueue
    {frame : List UInt8}
    {tag : Option AckHash}
    {other : QueuedFrame}
    (member : other ∈ (loop.enqueue frame tag).queue.contents) :
    other ∈ loop.queue.contents ∨
      other =
        { bytes := frame.take frameBuf
          tag := tag } := by
  rcases Nat.lt_or_eq_of_le loop.queue.length_contents_le with room | full
  · have contents := (Ring.push_room room
      { bytes := frame.take frameBuf
        tag := tag }).1
    have pushed := member
    change other ∈ (loop.queue.push _).1.contents at pushed
    rw [contents] at pushed
    rcases List.mem_append.mp pushed with before | isNew
    · exact .inl before
    · exact .inr (List.mem_singleton.mp isNew)
  · have contents := (Ring.push_full full
      { bytes := frame.take frameBuf
        tag := tag }).1
    have pushed := member
    change other ∈ (loop.queue.push _).1.contents at pushed
    rw [contents] at pushed
    rcases List.mem_append.mp pushed with before | isNew
    · exact .inl (List.mem_of_mem_tail before)
    · exact .inr (List.mem_singleton.mp isNew)

/-- Each event keeps the duty cycle while frames are long and times grow. -/
theorem KeepsDutyCycle.step
    (keeps : KeepsDutyCycle loop)
    {event : TxEvent}
    (fine : loop.LongAndLater event) :
    KeepsDutyCycle (TxLoop.step crypto pubHash loop event) := by
  cases event with
  | enqueue frame tag =>
      refine ⟨keeps.kept, keeps.within', keeps.sentLong, ?_⟩
      intro other member
      rcases mem_enqueue member with before | rfl
      · exact keeps.pendingLong other before
      · exact fine
  | turn turn =>
      have sensed : KeepsDutyCycle loop.sensed :=
        ⟨keeps.kept, keeps.within', keeps.sentLong, keeps.pendingLong⟩
      simp only [TxLoop.step]
      rcases loop.turn_cases crypto pubHash turn with
        ⟨-, result⟩ | ⟨-, ⟨-, result⟩ | ⟨-, -, result⟩ |
          ⟨-, frame, oldest, result⟩⟩
      · rw [result]
        exact keeps
      · rw [result]
        exact
          ⟨keeps.kept, keeps.within', keeps.sentLong, keeps.pendingLong⟩
      · rw [result]
        exact
          ⟨keeps.kept, keeps.within', keeps.sentLong, keeps.pendingLong⟩
      · rw [result]
        split
        · exact sensed.attempt oldest fine
        · exact sensed
  | hear frame =>
      simp only [TxLoop.step, hear]
      split
      · exact keeps
      · exact
          ⟨keeps.kept, keeps.within', keeps.sentLong, keeps.pendingLong⟩

/-- What is sent after an event was sent before, or in the pass it is. -/
theorem mem_sent_step
    {event : TxEvent}
    {record : TxRecord}
    (member :
      record ∈ (TxLoop.step crypto pubHash loop event).airtime.sent) :
    record ∈ loop.airtime.sent ∨
      ∃ turn, event = .turn turn ∧ record.startMs = turn.nowMs := by
  cases event with
  | enqueue frame tag =>
      exact .inl member
  | hear frame =>
      simp only [TxLoop.step, hear] at member
      split at member <;> exact .inl member
  | turn turn =>
      simp only [TxLoop.step] at member
      rcases loop.turn_cases crypto pubHash turn with
        ⟨-, result⟩ | ⟨-, ⟨-, result⟩ | ⟨-, -, result⟩ |
          ⟨-, frame, -, result⟩⟩
      · rw [result] at member
        exact .inl member
      · rw [result] at member
        exact .inl member
      · rw [result] at member
        exact .inl member
      rw [result] at member
      split at member
      · rcases loop.sensed.attempt_cases crypto pubHash turn frame with
          ⟨-, tried⟩ | ⟨-, ⟨-, tried⟩ | ⟨-, ⟨-, tried⟩ | ⟨_, -, tried⟩⟩⟩
        · rw [tried] at member
          exact .inl member
        · rw [tried] at member
          exact .inl member
        · rw [tried] at member
          change record ∈ (loop.airtime.step _).sent at member
          unfold AirtimeLog.step at member
          split at member
          · rcases List.mem_append.mp member with before | isNew
            · exact .inl before
            · rw [List.mem_singleton.mp isNew]
              exact .inr ⟨turn, rfl, rfl⟩
          · exact .inl member
        · rw [tried] at member
          exact .inl member
      · exact .inl member

/-- Long frames and growing times are met one event after the other. -/
theorem along_longAndLater
    {events : List TxEvent}
    (long :
      ∀ frame ∈ queuedFrames events,
        shortestSafeFrame ≤ frame.bytes.length)
    (later :
      ∀ record ∈ loop.airtime.sent,
        ∀ time ∈ turnTimes events, record.startMs ≤ time)
    (nonDecreasing :
      (turnTimes events).Pairwise fun earlier later => earlier ≤ later) :
    Transition.Along (TxLoop.step crypto pubHash) LongAndLater loop
      events := by
  induction events generalizing loop with
  | nil =>
      trivial
  | cons event rest inductionHypothesis =>
      refine ⟨?_, inductionHypothesis ?_ ?_ ?_⟩
      · cases event with
        | enqueue frame tag =>
            exact long _ List.mem_cons_self
        | turn turn =>
            exact fun record member =>
              later record member turn.nowMs List.mem_cons_self
        | hear frame =>
            trivial
      · intro frame member
        apply long
        cases event with
        | enqueue _ _ =>
            exact List.mem_cons_of_mem _ member
        | turn _ =>
            exact member
        | hear _ =>
            exact member
      · intro record member time isTime
        rcases mem_sent_step member with before | ⟨turn, rfl, isNow⟩
        · apply later record before
          cases event with
          | enqueue _ _ =>
              exact isTime
          | turn _ =>
              exact List.mem_cons_of_mem _ isTime
          | hear _ =>
              exact isTime
        · rw [isNow]
          exact (List.pairwise_cons.mp nonDecreasing).1 time isTime
      · cases event with
        | enqueue _ _ =>
            exact nonDecreasing
        | turn _ =>
            exact (List.pairwise_cons.mp nonDecreasing).2
        | hear _ =>
            exact nonDecreasing

/-- Thirty-five frames of 43 bytes, each sent as it is queued. -/
def shortBurst : List TxEvent :=
  (List.range 35).flatMap fun index =>
    [.enqueue (List.replicate 43 0) none,
      .turn
        { nowMs := 200 * index
          cad := .clear
          transmit := .sent }]

/-- Primitives that hash everything alike. -/
def flatCrypto : Crypto :=
  ({ ciphers := []
     codes := []
     digests := []
     agreements := [] } : CryptoRecord).crypto

/-- The sender after the burst. -/
def afterBurst : TxLoop :=
  Transition.run (TxLoop.step flatCrypto 0) new shortBurst

/-- The burst takes more airtime than the duty cycle allows. -/
theorem shortBurst_exceeds :
    ¬ afterBurst.airtime.WithinDutyCycle := by
  intro within'
  have total := within' 0
  exact absurd total (by decide +kernel)

/--
Whatever is queued and heard and goes wrong at the radio, the transmissions it
confirmed take in no window of 60 seconds more airtime than the duty cycle allows,
as long as no frame is shorter than 44 bytes; and this is the least length of which
that is true.
-/
theorem tx_dutyCycle_iff
    (shortest : Nat) :
    (∀ (crypto : Crypto) (pubHash : UInt8) (events : List TxEvent),
      (∀ frame ∈ queuedFrames events, shortest ≤ frame.bytes.length) →
      ((turnTimes events).Pairwise fun earlier later =>
        earlier ≤ later) →
        Transition.Always (TxLoop.step crypto pubHash)
          (fun loop => loop.airtime.WithinDutyCycle) new events) ↔
      shortestSafeFrame ≤ shortest := by
  constructor
  · intro always
    by_contra short
    have few : shortest ≤ 43 := Nat.lt_succ_iff.mp (Nat.lt_of_not_le short)
    have burst :=
      always flatCrypto 0 shortBurst
        (by
          intro frame member
          have length :
              ∀ frame ∈ queuedFrames shortBurst,
                frame.bytes.length = 43 := by
            decide +kernel
          rw [length frame member]
          exact few)
        (by decide +kernel)
    exact shortBurst_exceeds burst.last
  · intro safe crypto pubHash events long nonDecreasing
    have initially : KeepsDutyCycle new :=
      { kept := AirtimeLog.kept_new
        within' := fun _ => Nat.zero_le _
        sentLong := ⟨List.Pairwise.nil, fun _ member => by cases member⟩
        pendingLong := fun _ member => by cases member }
    have along :
        Transition.Along (TxLoop.step crypto pubHash) LongAndLater new
          events :=
      along_longAndLater
        (fun frame member => safe.trans (long frame member))
        (fun record member => by cases member) nonDecreasing
    have keeps :
        Transition.Always (TxLoop.step crypto pubHash) KeepsDutyCycle new
          events :=
      Transition.always_of_along
        (fun _ _ keeps fine => keeps.step fine) initially along
    exact keeps.mono fun _ keeps => keeps.within'

end TxLoop

end MeshCadet
