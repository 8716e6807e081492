import MeshCadet.TxDutyCycle

namespace MeshCadet

/-!
# Every pending frame goes out

Errors of the radio, a channel that cannot be sensed and an exhausted budget only
delay a frame.  Once the channel is never busy and the radio sends, the budget is
free again after 60 seconds, the last backoff has passed shortly after, and three
errors in a row do not stop the loop any more.
-/

open RingBuffer

namespace TxLoop

/-- The longest a backoff takes. -/
def longestBackoffMs : Nat :=
  1255

/-- When the budget and the backoffs do not hold back a frame any more. -/
def settleMs : Nat :=
  budgetWindowMs + longestBackoffMs

/-- Passes at some distance that take the oldest frame out of the queue. -/
def turnsPerFrame
    (periodMs : Nat) :
    Nat :=
  settleMs / periodMs + 1 + cadFailLimit

/-- The channel is not heard busy, and the radio sends. -/
def Willing
    (turn : TxTurn) :
    Prop :=
  turn.cad ≠ .busy ∧ turn.transmit = .sent

/-- The sender since a time: nothing was sent after it, no backoff reaches far, and
the pending frames fit the radio. -/
structure Since
    (startMs : Nat)
    (loop : TxLoop) :
    Prop where
  kept : loop.airtime.Kept
  sentBefore : ∀ record ∈ loop.airtime.sent, record.startMs ≤ startMs
  backedOff : loop.backoffUntilMs ≤ startMs + settleMs
  fewErrors : loop.cadErrStreak < cadFailLimit
  fits :
    ∀ frame ∈ loop.queue.contents,
      0 < frame.bytes.length ∧ frame.bytes.length ≤ frameBuf

/-- A frame that left was sent, or refused if it is an advertisement. -/
def Departed :
    QueuedFrame × TxFate → Prop
  | (frame, fate) =>
      (txGuardAllows frame.payloadType = true ∧
          ∃ startMs, fate = .sent startMs) ∨
        (txGuardAllows frame.payloadType = false ∧ fate = .refused)

/-- A backoff ends in time. -/
theorem backoffMs_le
    (pubHash : UInt8) :
    backoffMs pubHash ≤ longestBackoffMs := by
  have byte := pubHash.toNat_lt
  rw [backoffMs, longestBackoffMs]
  omega

/-- A frame that fits the radio fits into an empty budget. -/
theorem loraAirtimeMs_le
    {payloadBytes : Nat}
    (fits : payloadBytes ≤ frameBuf) :
    loraAirtimeMs payloadBytes ≤ budgetMaxMs := by
  rw [frameBuf] at fits
  rw [loraAirtimeMs, payloadSymbolGroups, budgetMaxMs]
  omega

/-- Nothing counts any more when the window has passed what was sent. -/
theorem canTransmit_later
    {log : AirtimeLog}
    (kept : log.Kept)
    {startMs nowMs requiredMs : Nat}
    (sentBefore : ∀ record ∈ log.sent, record.startMs ≤ startMs)
    (later : startMs + budgetWindowMs < nowMs)
    (fits : requiredMs ≤ budgetMaxMs) :
    log.budget.canTransmit nowMs requiredMs = true := by
  have none :
      (log.sent.drop (log.sent.length - budgetSlots)).filter
          (fun record =>
            decide (AirtimeBudget.cutoff nowMs ≤ record.startMs)) =
        [] := by
    rw [List.filter_eq_nil_iff]
    intro record member counted
    have early := sentBefore record (List.mem_of_mem_drop member)
    have counts : AirtimeBudget.cutoff nowMs ≤ record.startMs :=
      of_decide_eq_true counted
    rw [AirtimeBudget.cutoff] at counts
    omega
  have unused : log.budget.usedInWindow nowMs = 0 := by
    rw [kept.usedInWindow_eq, MeshCadet.airtime, none]
    rfl
  rw [AirtimeBudget.canTransmit, unused, Nat.zero_add]
  exact decide_eq_true fits

variable {crypto : Crypto} {pubHash : UInt8} {loop : TxLoop}
variable {startMs : Nat} {turn : TxTurn} {frame : QueuedFrame}

/-- The frame stays the oldest one for another pass. -/
structure Stays
    (startMs : Nat)
    (turn : TxTurn)
    (loop next : TxLoop) :
    Prop where
  since : Since startMs next
  pending : next.queue.contents = loop.queue.contents
  left : next.left = loop.left
  counted :
    startMs + settleMs ≤ turn.nowMs →
      next.cadErrStreak = loop.cadErrStreak + 1

/-- The frame leaves the queue in a pass. -/
structure Goes
    (turn : TxTurn)
    (frame : QueuedFrame)
    (loop next : TxLoop) :
    Prop where
  since : Since turn.nowMs next
  pending : next.queue.contents = loop.queue.contents.tail
  left :
    ∃ fate,
      next.left = loop.left ++ [(frame, fate)] ∧ Departed (frame, fate)

/-- A frame that goes out in an attempt. -/
theorem Since.goes
    (since : Since startMs loop)
    (later : startMs ≤ turn.nowMs)
    (open' : loop.backoffUntilMs ≤ turn.nowMs)
    {fate : TxFate}
    (departed : Departed (frame, fate))
    {next : TxLoop}
    (queue : next.queue = Ring.popFront loop.queue)
    (left : next.left = loop.left ++ [(frame, fate)])
    (kept : next.airtime.Kept)
    (sent :
      ∀ record ∈ next.airtime.sent,
        record ∈ loop.airtime.sent ∨ record.startMs = turn.nowMs)
    (backoff : next.backoffUntilMs = loop.backoffUntilMs)
    (streak : next.cadErrStreak = 0) :
    Goes turn frame loop next where
  since :=
    { kept := kept
      sentBefore := by
        intro record member
        rcases sent record member with before | isNow
        · exact (since.sentBefore record before).trans later
        · exact isNow.le
      backedOff := by
        rw [backoff]
        omega
      fewErrors := by
        rw [streak]
        decide
      fits := by
        rw [queue, Ring.contents_popFront]
        exact fun other member =>
          since.fits other (List.mem_of_mem_tail member) }
  pending := by
    rw [queue, Ring.contents_popFront]
  left := ⟨fate, left, departed⟩

/-- In a pass that is willing to send, the oldest frame stays or goes. -/
theorem Since.pass
    (since : Since startMs loop)
    (oldest : loop.queue.contents.head? = some frame)
    (willing : Willing turn)
    (later : startMs ≤ turn.nowMs) :
    Stays startMs turn loop (loop.turn crypto pubHash turn) ∨
      Goes turn frame loop (loop.turn crypto pubHash turn) := by
  obtain ⟨notBusy, sends⟩ := willing
  have isPending : frame ∈ loop.queue.contents :=
    List.mem_of_mem_head? oldest
  obtain ⟨nonempty, short⟩ := since.fits frame isPending
  have backoff := backoffMs_le pubHash
  rcases loop.turn_cases crypto pubHash turn with
    ⟨closed, result⟩ | ⟨⟨-, open'⟩, tried⟩
  · rw [result]
    refine .inl ⟨since, rfl, rfl, ?_⟩
    intro settled
    refine absurd ⟨?_, since.backedOff.trans settled⟩ closed
    rw [← Ring.length_contents]
    exact List.length_pos_of_mem isPending
  rcases tried with
    ⟨isBusy, -⟩ | ⟨-, few, result⟩ | ⟨-, found, isOldest, result⟩
  · exact absurd isBusy notBusy
  · rw [result]
    exact .inl
      ⟨⟨since.kept, since.sentBefore, since.backedOff, few, since.fits⟩,
        rfl, rfl, fun _ => rfl⟩
  rw [oldest] at isOldest
  cases isOldest
  rw [if_pos nonempty] at result
  rcases loop.sensed.attempt_cases crypto pubHash turn frame with
    ⟨isAdvert, attempted⟩ |
      ⟨mayGo, ⟨denied, attempted⟩ | ⟨-, ⟨-, attempted⟩ | failed⟩⟩
  · rw [result, attempted]
    exact .inr
      (since.goes later open' (.inr ⟨isAdvert, rfl⟩) rfl rfl
        since.kept (fun _ member => .inl member) rfl rfl)
  · -- The budget holds the frame back only while the window is open.
    have inWindow : turn.nowMs ≤ startMs + budgetWindowMs := by
      by_contra passed
      have allowed :=
        canTransmit_later since.kept since.sentBefore
          (Nat.lt_of_not_le passed) (loraAirtimeMs_le short)
      have deniedToo :
          loop.airtime.budget.canTransmit turn.nowMs
              (loraAirtimeMs frame.bytes.length) =
            false := denied
      rw [allowed] at deniedToo
      cases deniedToo
    rw [result, attempted]
    refine .inl ⟨⟨since.kept, since.sentBefore, ?_, ?_, since.fits⟩, rfl,
      rfl, ?_⟩
    · change turn.nowMs + backoffMs pubHash ≤ startMs + settleMs
      rw [settleMs]
      omega
    · change 0 < cadFailLimit
      decide
    · intro settled
      rw [settleMs, longestBackoffMs] at settled
      omega
  · rw [result, attempted]
    refine .inr
      (since.goes later open' (.inl ⟨mayGo, turn.nowMs, rfl⟩) rfl rfl
        (since.kept.step _) ?_ rfl rfl)
    intro record member
    change record ∈ (loop.airtime.step _).sent at member
    unfold AirtimeLog.step at member
    split at member
    · rcases List.mem_append.mp member with before | isNew
      · exact .inl before
      · rw [List.mem_singleton.mp isNew]
        exact .inr rfl
    · exact .inl member
  · obtain ⟨_, isFailed, -⟩ := failed
    rw [sends] at isFailed
    cases isFailed

/-- The passes from which on nothing holds a frame back. -/
def settledTurns
    (startMs : Nat)
    (turns : List TxTurn) :
    Nat :=
  turns.countP fun turn => decide (startMs + settleMs ≤ turn.nowMs)

/-- Passes some time apart. -/
def Spaced
    (periodMs : Nat)
    (turns : List TxTurn) :
    Prop :=
  turns.Pairwise fun earlier later =>
    earlier.nowMs + periodMs ≤ later.nowMs

/-- Of passes some time apart, few come before a time. -/
theorem few_before
    {periodMs fromMs untilMs : Nat}
    {turns : List TxTurn}
    (spaced : Spaced periodMs turns)
    (later : ∀ turn ∈ turns, fromMs ≤ turn.nowMs)
    (some' :
      0 < turns.countP fun turn => decide (turn.nowMs < untilMs)) :
    fromMs +
        ((turns.countP fun turn => decide (turn.nowMs < untilMs)) - 1) *
          periodMs <
      untilMs := by
  induction turns generalizing fromMs with
  | nil =>
      cases some'
  | cons turn rest inductionHypothesis =>
      obtain ⟨apart, restSpaced⟩ := List.pairwise_cons.mp spaced
      have here := later turn List.mem_cons_self
      by_cases early : turn.nowMs < untilMs
      · rw [List.countP_cons_of_pos (by simpa using early)]
        rcases Nat.eq_zero_or_pos
            (rest.countP fun turn => decide (turn.nowMs < untilMs)) with
          none | more
        · rw [none]
          omega
        · have restFew :=
            inductionHypothesis restSpaced
              (fun other member => apart other member) more
          obtain ⟨count, isCount⟩ :=
            Nat.exists_eq_add_of_lt more
          rw [isCount] at restFew ⊢
          simp only [Nat.zero_add, Nat.add_sub_cancel] at restFew ⊢
          rw [Nat.add_mul]
          omega
      · rw [List.countP_cons_of_neg (by simpa using early)] at some' ⊢
        exact
          inductionHypothesis restSpaced
            (fun other member =>
              later other (List.mem_cons_of_mem turn member))
            some'

/-- Of enough passes, three come when nothing holds a frame back any more. -/
theorem settledTurns_le
    {periodMs : Nat}
    (positive : 0 < periodMs)
    {turns : List TxTurn}
    (spaced : Spaced periodMs turns)
    (later : ∀ turn ∈ turns, startMs ≤ turn.nowMs)
    (enough : turnsPerFrame periodMs ≤ turns.length) :
    cadFailLimit ≤ settledTurns startMs turns := by
  have split :
      turns.length =
        settledTurns startMs turns +
          turns.countP fun turn =>
            decide (turn.nowMs < startMs + settleMs) := by
    rw [settledTurns,
      List.length_eq_countP_add_countP
        fun turn : TxTurn => decide (startMs + settleMs ≤ turn.nowMs)]
    congr 1
    apply List.countP_congr
    intro turn _
    simp
  rw [turnsPerFrame] at enough
  rcases Nat.eq_zero_or_pos
      (turns.countP fun turn =>
        decide (turn.nowMs < startMs + settleMs)) with none | more
  · generalize settleMs / periodMs = periods at enough
    omega
  · have few := few_before spaced later more
    have periods :
        (turns.countP fun turn =>
            decide (turn.nowMs < startMs + settleMs)) - 1 ≤
          settleMs / periodMs := by
      rw [Nat.le_div_iff_mul_le positive]
      omega
    generalize settleMs / periodMs = most at enough periods
    omega

/-- In willing passes, the oldest frame goes in one of them, unless fewer than three
of them come when nothing holds a frame back any more. -/
theorem Since.passes
    (since : Since startMs loop)
    (oldest : loop.queue.contents.head? = some frame)
    {turns : List TxTurn}
    (willing : ∀ turn ∈ turns, Willing turn)
    (later : ∀ turn ∈ turns, startMs ≤ turn.nowMs)
    {periodMs : Nat}
    (spaced : Spaced periodMs turns) :
    (∃ before turn after,
        turns = before ++ turn :: after ∧
          Goes turn frame loop
            (Transition.run (TxLoop.step crypto pubHash) loop
              ((before ++ [turn]).map .turn))) ∨
      settledTurns startMs turns < cadFailLimit ∧
        ((∀ turn ∈ turns, startMs + settleMs ≤ turn.nowMs) →
          loop.cadErrStreak + turns.length < cadFailLimit) := by
  induction turns generalizing loop with
  | nil =>
      exact .inr
        ⟨show 0 < cadFailLimit by decide, fun _ => since.fewErrors⟩
  | cons turn rest inductionHypothesis =>
      obtain ⟨apart, restSpaced⟩ := List.pairwise_cons.mp spaced
      have here := willing turn List.mem_cons_self
      have now := later turn List.mem_cons_self
      rcases since.pass oldest here now with stays | goes
      · have stillOldest :
            (loop.turn crypto pubHash turn).queue.contents.head? =
              some frame := by
          rw [stays.pending]
          exact oldest
        rcases inductionHypothesis stays.since stillOldest
            (fun other member =>
              willing other (List.mem_cons_of_mem turn member))
            (fun other member =>
              later other (List.mem_cons_of_mem turn member))
            restSpaced with
          ⟨before, last, after, rfl, goes⟩ | ⟨few, fewSettled⟩
        · refine .inl ⟨turn :: before, last, after, rfl, ?_⟩
          obtain ⟨fate, left, departed⟩ := goes.left
          exact
            { since := goes.since
              pending := goes.pending.trans (by rw [stays.pending])
              left := ⟨fate, left.trans (by rw [stays.left]), departed⟩ }
        · refine .inr ?_
          by_cases settled : startMs + settleMs ≤ turn.nowMs
          · -- From here on every pass counts an error.
            have counted := stays.counted settled
            have restFew :=
              fewSettled fun other member => by
                have behind := apart other member
                omega
            have most :
                settledTurns startMs (turn :: rest) ≤
                  (turn :: rest).length := List.countP_le_length
            rw [counted] at restFew
            rw [List.length_cons] at most ⊢
            exact ⟨by omega, fun _ => by omega⟩
          · refine ⟨?_, fun all => ?_⟩
            · rw [settledTurns,
                List.countP_cons_of_neg (by simpa using settled)]
              exact few
            · exact absurd (all turn List.mem_cons_self) settled
      · exact .inl ⟨[], turn, rest, rfl, goes⟩

/-- A pass over an empty queue does nothing. -/
theorem turn_of_empty
    (empty : loop.queue.contents = [])
    (turn : TxTurn) :
    loop.turn crypto pubHash turn = loop := by
  have none : loop.queue.count = 0 := by
    rw [← Ring.length_contents, empty]
    rfl
  rw [TxLoop.turn, if_neg (by omega)]

/-- Enough willing passes take all pending frames out, in their order. -/
theorem Since.drains
    (since : Since startMs loop)
    {turns : List TxTurn}
    (willing : ∀ turn ∈ turns, Willing turn)
    (later : ∀ turn ∈ turns, startMs ≤ turn.nowMs)
    {periodMs : Nat}
    (positive : 0 < periodMs)
    (spaced : Spaced periodMs turns)
    {pending : List QueuedFrame}
    (isPending : loop.queue.contents = pending)
    (enough : pending.length * turnsPerFrame periodMs ≤ turns.length) :
    ∃ departed,
      (Transition.run (TxLoop.step crypto pubHash) loop
            (turns.map .turn)).queue.contents = [] ∧
        (Transition.run (TxLoop.step crypto pubHash) loop
            (turns.map .turn)).left = loop.left ++ departed ∧
        departed.map Prod.fst = pending ∧
        ∀ entry ∈ departed, Departed entry := by
  induction pending generalizing loop startMs turns with
  | nil =>
      refine ⟨[], ?_⟩
      clear willing later spaced enough since
      induction turns with
      | nil =>
          exact ⟨isPending, (List.append_nil _).symm, rfl, by simp⟩
      | cons turn rest inductionHypothesis =>
          rw [List.map_cons, Transition.run_cons, TxLoop.step,
            turn_of_empty isPending]
          exact inductionHypothesis
  | cons frame rest inductionHypothesis =>
      rw [List.length_cons, Nat.add_mul, Nat.one_mul] at enough
      have oldest : loop.queue.contents.head? = some frame := by
        rw [isPending]
        rfl
      let first := turns.take (turnsPerFrame periodMs)
      have inFirst :
          ∀ turn ∈ first, turn ∈ turns := fun _ => List.mem_of_mem_take
      have firstSpaced : Spaced periodMs first :=
        List.Pairwise.sublist (List.take_sublist _ _) spaced
      have firstEnough : turnsPerFrame periodMs ≤ first.length := by
        rw [List.length_take]
        omega
      have settled :=
        settledTurns_le positive firstSpaced
          (fun turn member => later turn (inFirst turn member))
          firstEnough
      rcases since.passes oldest
          (fun turn member => willing turn (inFirst turn member))
          (fun turn member => later turn (inFirst turn member))
          firstSpaced with
        ⟨before, turn, after, isFirst, goes⟩ | ⟨few, -⟩
      swap
      · exact absurd settled (Nat.not_le_of_lt few)
      obtain ⟨fate, left, isDeparted⟩ := goes.left
      have isTurns :
          turns =
            (before ++ [turn]) ++
              (after ++ turns.drop (turnsPerFrame periodMs)) := by
        calc
          turns = first ++ turns.drop (turnsPerFrame periodMs) :=
            (List.take_append_drop _ _).symm
          _ = (before ++ turn :: after) ++
                turns.drop (turnsPerFrame periodMs) := by
            rw [isFirst]
          _ = _ := by
            simp
      let others := after ++ turns.drop (turnsPerFrame periodMs)
      have inOthers : ∀ other ∈ others, other ∈ turns := by
        intro other member
        rw [isTurns]
        exact List.mem_append_right _ member
      have othersSpaced := spaced
      rw [isTurns, Spaced, List.pairwise_append] at othersSpaced
      obtain ⟨-, othersApart, behind⟩ := othersSpaced
      obtain ⟨departed, emptied, restLeft, sameFrames, allDeparted⟩ :=
        inductionHypothesis goes.since
          (fun other member => willing other (inOthers other member))
          (fun other member => by
            have apart :=
              behind turn (List.mem_append_right _ List.mem_cons_self)
                other member
            omega)
          othersApart
          (by rw [goes.pending, isPending]; rfl)
          (by
            have firstLength := congrArg List.length isFirst
            have othersLength : others.length =
                after.length +
                  (turns.length - turnsPerFrame periodMs) := by
              rw [List.length_append, List.length_drop]
            rw [List.length_take, List.length_append,
              List.length_cons] at firstLength
            omega)
      refine ⟨(frame, fate) :: departed, ?_, ?_, ?_, ?_⟩
      · rw [isTurns, List.map_append, Transition.run_append]
        exact emptied
      · rw [isTurns, List.map_append, Transition.run_append, restLeft,
          left, List.append_assoc]
        rfl
      · rw [List.map_cons, sameFrames]
      · intro entry member
        rcases List.mem_cons.mp member with rfl | later
        · exact isDeparted
        · exact allDeparted entry later

/-- The sender up to a time: nothing was sent after it, and no backoff reaches far
beyond it. -/
structure Until
    (startMs : Nat)
    (loop : TxLoop) :
    Prop where
  sentBefore : ∀ record ∈ loop.airtime.sent, record.startMs ≤ startMs
  backedOff : loop.backoffUntilMs ≤ startMs + longestBackoffMs
  fewErrors : loop.cadErrStreak < cadFailLimit

/-- A new sender has sent nothing. -/
theorem until_new
    (startMs : Nat) :
    Until startMs new where
  sentBefore := by
    intro record member
    cases member
  backedOff := Nat.zero_le _
  fewErrors := show 0 < cadFailLimit by decide

/-- Listening leaves what was sent and the backoff. -/
theorem Until.sensed
    (until' : Until startMs loop) :
    Until startMs loop.sensed where
  sentBefore := until'.sentBefore
  backedOff := until'.backedOff
  fewErrors := show 0 < cadFailLimit by decide

/-- A backoff before the time ends soon after it. -/
theorem Until.backOff
    (until' : Until startMs loop)
    (pubHash : UInt8)
    {nowMs : Nat}
    (before : nowMs ≤ startMs) :
    Until startMs (loop.backOff pubHash nowMs) where
  sentBefore := until'.sentBefore
  backedOff := by
    have backoff := backoffMs_le pubHash
    change nowMs + backoffMs pubHash ≤ startMs + longestBackoffMs
    omega
  fewErrors := until'.fewErrors

/-- An attempt before the time sends before it. -/
theorem Until.attempt
    (until' : Until startMs loop)
    (crypto : Crypto)
    (pubHash : UInt8)
    (before : turn.nowMs ≤ startMs)
    (frame : QueuedFrame) :
    Until startMs (loop.attempt crypto pubHash turn frame) := by
  rcases loop.attempt_cases crypto pubHash turn frame with
    ⟨-, result⟩ | ⟨-, ⟨-, result⟩ | ⟨-, ⟨-, result⟩ | ⟨_, -, result⟩⟩⟩
  · rw [result]
    exact ⟨until'.sentBefore, until'.backedOff, until'.fewErrors⟩
  · rw [result]
    exact until'.backOff pubHash before
  · rw [result]
    refine ⟨?_, until'.backedOff, until'.fewErrors⟩
    intro record member
    change record ∈ (loop.airtime.step _).sent at member
    unfold AirtimeLog.step at member
    split at member
    · rcases List.mem_append.mp member with earlier | isNew
      · exact until'.sentBefore record earlier
      · rw [List.mem_singleton.mp isNew]
        exact before
    · exact until'.sentBefore record member
  · rw [result]
    have waits := until'.backOff pubHash before
    exact ⟨waits.sentBefore, waits.backedOff, waits.fewErrors⟩

/-- An event before the time. -/
theorem Until.step
    (until' : Until startMs loop)
    (crypto : Crypto)
    (pubHash : UInt8)
    {event : TxEvent}
    (before : ∀ nowMs ∈ turnTimes [event], nowMs ≤ startMs) :
    Until startMs (TxLoop.step crypto pubHash loop event) := by
  cases event with
  | enqueue frame tag =>
      exact ⟨until'.sentBefore, until'.backedOff, until'.fewErrors⟩
  | hear frame =>
      change Until startMs (loop.hear crypto frame)
      unfold TxLoop.hear
      split
      · exact until'
      · exact ⟨until'.sentBefore, until'.backedOff, until'.fewErrors⟩
  | turn turn =>
      have now : turn.nowMs ≤ startMs :=
        before turn.nowMs List.mem_cons_self
      change Until startMs (loop.turn crypto pubHash turn)
      rcases loop.turn_cases crypto pubHash turn with
        ⟨-, result⟩ | ⟨-, ⟨-, result⟩ | ⟨-, few, result⟩ |
          ⟨-, frame, -, result⟩⟩
      · rw [result]
        exact until'
      · rw [result]
        exact until'.sensed.backOff pubHash now
      · rw [result]
        exact ⟨until'.sentBefore, until'.backedOff, few⟩
      · rw [result]
        split
        · exact until'.sensed.attempt crypto pubHash now frame
        · exact until'.sensed

/-- A run whose passes come before the time. -/
theorem Until.run
    (until' : Until startMs loop)
    (crypto : Crypto)
    (pubHash : UInt8)
    {events : List TxEvent}
    (before : ∀ nowMs ∈ turnTimes events, nowMs ≤ startMs) :
    Until startMs
      (Transition.run (TxLoop.step crypto pubHash) loop events) := by
  have among :
      Transition.Along (TxLoop.step crypto pubHash)
        (fun _ event => event ∈ events) loop events :=
    Transition.along_of_forall (fun _ member => member) loop
  have always :
      Transition.Always (TxLoop.step crypto pubHash) (Until startMs) loop
        events :=
    Transition.always_of_along
      (fun _ event earlier member =>
        earlier.step crypto pubHash fun nowMs isTime => by
          apply before nowMs
          obtain ⟨other, isEvent, time⟩ := List.mem_filterMap.mp isTime
          rw [List.mem_singleton.mp isEvent] at time
          exact List.mem_filterMap.mpr ⟨event, member, time⟩)
      until' among
  exact always.last

/-- A queued frame fits the radio. -/
theorem length_le_of_mem_queuedFrames
    {events : List TxEvent}
    (isQueued : frame ∈ queuedFrames events) :
    frame.bytes.length ≤ frameBuf := by
  obtain ⟨event, -, queued⟩ := List.mem_filterMap.mp isQueued
  cases event with
  | enqueue bytes tag =>
      cases queued
      exact List.length_take_le _ _
  | turn turn =>
      cases queued
  | hear bytes =>
      cases queued

/--
Whatever was queued and heard and went wrong up to some time, from then on the
pending frames all leave in their order, each sent or, if it is an advertisement,
refused, once the channel is not heard busy and the radio sends: so many passes per
frame are enough, at any distance, with errors of listening in any of them.
-/
theorem tx_drains
    (crypto : Crypto)
    (pubHash : UInt8)
    {events : List TxEvent}
    (nonempty : ∀ frame ∈ queuedFrames events, frame.bytes ≠ [])
    {startMs : Nat}
    (before : ∀ nowMs ∈ turnTimes events, nowMs ≤ startMs)
    {turns : List TxTurn}
    (willing : ∀ turn ∈ turns, Willing turn)
    (later : ∀ turn ∈ turns, startMs ≤ turn.nowMs)
    {periodMs : Nat}
    (positive : 0 < periodMs)
    (spaced : Spaced periodMs turns)
    (enough :
      (Transition.run (TxLoop.step crypto pubHash) new events).queue.count *
          turnsPerFrame periodMs ≤
        turns.length) :
    ∃ departed,
      (Transition.run (TxLoop.step crypto pubHash) new
            (events ++ turns.map .turn)).queue.contents = [] ∧
        (Transition.run (TxLoop.step crypto pubHash) new
            (events ++ turns.map .turn)).left =
          (Transition.run (TxLoop.step crypto pubHash) new events).left ++
            departed ∧
        departed.map Prod.fst =
          (Transition.run (TxLoop.step crypto pubHash) new
            events).queue.contents ∧
        ∀ entry ∈ departed, Departed entry := by
  have ledger := (ledger_new crypto).run pubHash events
  have until' := (until_new startMs).run crypto pubHash before
  have since :
      Since startMs
        (Transition.run (TxLoop.step crypto pubHash) new events) :=
    { kept := ledger.kept
      sentBefore := until'.sentBefore
      backedOff := by
        have backedOff := until'.backedOff
        rw [settleMs]
        omega
      fewErrors := until'.fewErrors
      fits := by
        intro frame isPending
        have isQueued : frame ∈ queuedFrames events := by
          have conserved := ledger.conserved
          rw [List.nil_append] at conserved
          rw [conserved]
          exact List.mem_append_right _ isPending
        exact
          ⟨List.length_pos_iff.mpr (nonempty frame isQueued),
            length_le_of_mem_queuedFrames isQueued⟩ }
  rw [Transition.run_append]
  exact
    since.drains willing later positive spaced rfl
      (by
        rw [Ring.length_contents]
        exact enough)

/-- An advertisement and a message that is sent without success. -/
def heldBack : List TxEvent :=
  [.enqueue [0x11, 0x00, 0x01] none,
    .enqueue [0x09, 0x00, 0x02] none,
    .turn
      { nowMs := 10
        cad := .busy
        transmit := .sent },
    .turn
      { nowMs := 3000
        cad := .error
        transmit := .failed false }]

/-- Passes every 70 seconds in which the channel cannot be sensed. -/
def deafTurns : List TxTurn :=
  (List.range 8).map fun index =>
    { nowMs := 3000 + 70000 * index
      cad := .error
      transmit := .sent }

/-- The advertisement is refused in the second pass, and the message is sent in the
fifth. -/
theorem tx_drains_heldBack :
    (Transition.run (TxLoop.step flatCrypto 0) new
          (heldBack ++ deafTurns.map .turn)).left.map Prod.snd =
        [.refused, .sent 283000] ∧
      ∃ departed,
        (Transition.run (TxLoop.step flatCrypto 0) new
              (heldBack ++ deafTurns.map .turn)).queue.contents = [] ∧
          (Transition.run (TxLoop.step flatCrypto 0) new
              (heldBack ++ deafTurns.map .turn)).left =
            (Transition.run (TxLoop.step flatCrypto 0) new heldBack).left ++
              departed ∧
          departed.map Prod.fst =
            (Transition.run (TxLoop.step flatCrypto 0) new
              heldBack).queue.contents ∧
          ∀ entry ∈ departed, Departed entry :=
  ⟨by decide +kernel,
    tx_drains flatCrypto 0 (by decide +kernel)
      (show ∀ nowMs ∈ turnTimes heldBack, nowMs ≤ 3000 by decide +kernel)
      (by
        intro turn member
        obtain ⟨index, -, rfl⟩ := List.mem_map.mp member
        exact ⟨nofun, rfl⟩)
      (by
        intro turn member
        obtain ⟨index, -, rfl⟩ := List.mem_map.mp member
        exact Nat.le_add_right _ _)
      (show 0 < 70000 by decide)
      (show
          deafTurns.Pairwise fun earlier later =>
            earlier.nowMs + 70000 ≤ later.nowMs by
        decide +kernel)
      (by decide +kernel)⟩

end TxLoop

end MeshCadet
