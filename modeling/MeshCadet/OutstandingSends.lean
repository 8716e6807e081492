import Mathlib.Algebra.Group.Nat.Defs
import Mathlib.Data.List.Perm.Basic
import MeshCadet.SlotTable
import MeshCadet.TxQueue

namespace MeshCadet

/-!
# The outstanding sends

A table of eight slots tracks the sends that wait for an acknowledgement.  A new
send takes a free slot or evicts the oldest one; an acknowledgement takes its
send out; a sweep retries the sends whose deadline has passed, up to two times,
and gives up on the others.
-/

open SlotTable

/-- Sends the table holds. -/
def maxOutstandingSends : Nat :=
  2 * txQueueSlots

/-- How long a fresh send waits for its acknowledgement. -/
def deliveryAckDeadlineMs : Nat :=
  30000

/-- Retries after the original transmission. -/
def maxSendRetries : Nat :=
  2

/-- Additional wait for every retry. -/
def retryBackoffStepMs : Nat :=
  20000

/-- Bound of the jitter added to a retry's deadline. -/
def retryJitterMaxMs : Nat :=
  5000

/-- How long a retry waits for its acknowledgement. -/
def retryBackoffMs
    (attempt : Nat)
    (ackHash : AckHash) :
    Nat :=
  let jitter :=
    ((ackHash.getD 0 0).toNat * 1103 + (ackHash.getD 1 0).toNat * 71 +
        (ackHash.getD 2 0).toNat) %
      retryJitterMaxMs
  deliveryAckDeadlineMs + retryBackoffStepMs * attempt + jitter

/-- The two kinds of sends that earn an acknowledgement. -/
inductive OutstandingKind where
  | dm (toHash : UInt8)
  | roomPost (roomHash : UInt8)
deriving Repr, DecidableEq

/-- A send that waits for its acknowledgement. -/
structure OutstandingSend where
  ackHash : AckHash
  kind : OutstandingKind
  sentAtMs : Nat
  deadlineMs : Nat
  attempts : Nat
  frame : List UInt8
deriving Repr, DecidableEq

namespace OutstandingSend

/-- A send that has not been retried yet. -/
def new
    (ackHash : AckHash)
    (kind : OutstandingKind)
    (sentAtMs : Nat)
    (frame : List UInt8) :
    OutstandingSend :=
  { ackHash := ackHash
    kind := kind
    sentAtMs := sentAtMs
    deadlineMs := sentAtMs + deliveryAckDeadlineMs
    attempts := 0
    frame := frame.take frameBuf }

/-- The send after one more retry. -/
def retriedAt
    (send : OutstandingSend)
    (now : Nat) :
    OutstandingSend :=
  { send with
    attempts := send.attempts + 1
    deadlineMs :=
      now + retryBackoffMs (send.attempts + 1) send.ackHash }

end OutstandingSend

/-- The table of outstanding sends. -/
structure OutstandingSends where
  slots : List (Option OutstandingSend)
  capacity : slots.length = maxOutstandingSends

namespace OutstandingSends

/-- An empty table. -/
def new : OutstandingSends :=
  { slots := List.replicate maxOutstandingSends none
    capacity := List.length_replicate }

/-- The sends in the table, in slot order. -/
def sends
    (table : OutstandingSends) :
    List OutstandingSend :=
  entries table.slots

/-- The slot of the send with the lowest sending time, the first of equals. -/
def oldestIndex
    (slots : List (Option OutstandingSend)) :
    Nat :=
  (slots.zipIdx.foldl
    (fun (oldest : Nat × Nat) (slot : Option OutstandingSend × Nat) =>
      match slot.1 with
      | some send =>
          if send.sentAtMs < oldest.2 then
            (slot.2, send.sentAtMs)
          else
            oldest
      | none => oldest)
    (0, 2 ^ 64 - 1)).1

/-- Track a send; a full table evicts and returns its oldest one. -/
def insert
    (table : OutstandingSends)
    (send : OutstandingSend) :
    OutstandingSends × Option OutstandingSend :=
  match filled : fillFirst? send table.slots with
  | some slots =>
      ({ slots := slots
         capacity :=
          (fillFirst?_eq_some filled).1.trans table.capacity },
        none)
  | none =>
      let oldest := oldestIndex table.slots
      ({ slots := table.slots.set oldest (some send)
         capacity := List.length_set.trans table.capacity },
        table.slots[oldest]?.join)

/-- Take the first send waiting for this acknowledgement out of the table. -/
def resolve
    (table : OutstandingSends)
    (ackHash : AckHash) :
    OutstandingSends × Option OutstandingSend :=
  let taken := takeFirst (·.ackHash == ackHash) table.slots
  ({ slots := taken.1
     capacity :=
      (takeFirst_entries _ table.slots).1.trans table.capacity },
    taken.2)

/-- Take the send out whose frame the transmit queue dropped. -/
def resolveEvicted
    (table : OutstandingSends)
    (tag : Option AckHash) :
    OutstandingSends × Option OutstandingSend :=
  match tag with
  | some ackHash => table.resolve ackHash
  | none => (table, none)

/-- Visit one send whose turn it is in a sweep. -/
def sweepVisit
    {σ : Type}
    (now : Nat)
    (retryIf : σ → OutstandingSend → σ × Bool)
    (current : σ × List OutstandingSend)
    (send : OutstandingSend) :
    (σ × List OutstandingSend) × Option OutstandingSend :=
  let (state, undelivered) := current
  if now < send.deadlineMs then
    ((state, undelivered), some send)
  else
    let (next, retried) :=
      if send.attempts < maxSendRetries then
        retryIf state send
      else
        (state, false)
    if retried then
      ((next, undelivered), some (send.retriedAt now))
    else
      ((next, undelivered ++ [send]), none)

/--
Sweep the sends whose deadline has passed: those with retries left are offered to
the caller, the others and the declined ones are given up and returned.
-/
def sweepExpired
    {σ : Type}
    (table : OutstandingSends)
    (now : Nat)
    (retryIf : σ → OutstandingSend → σ × Bool)
    (state : σ) :
    OutstandingSends × σ × List OutstandingSend :=
  let swept := sweep (sweepVisit now retryIf) (state, []) table.slots
  ({ slots := swept.1
     capacity := (length_sweep _ _ _).trans table.capacity },
    swept.2.1, swept.2.2)

@[simp] theorem sends_new :
    new.sends = [] :=
  entries_replicate_none _

/-- One comparison of the scan for the oldest send. -/
def olderOf
    (oldest : Nat × Nat)
    (slot : Option OutstandingSend × Nat) :
    Nat × Nat :=
  match slot.1 with
  | some send =>
      if send.sentAtMs < oldest.2 then
        (slot.2, send.sentAtMs)
      else
        oldest
  | none => oldest

theorem oldestIndex_eq
    (slots : List (Option OutstandingSend)) :
    oldestIndex slots =
      (slots.zipIdx.foldl olderOf (0, 2 ^ 64 - 1)).1 :=
  rfl

/-- The slot chosen for eviction is a slot of the table. -/
theorem oldestIndex_lt
    {slots : List (Option OutstandingSend)}
    (positive : 0 < slots.length) :
    oldestIndex slots < slots.length := by
  have keeps :
      ∀ (visited : List (Option OutstandingSend × Nat)) (start : Nat × Nat),
        (∀ slot ∈ visited, slot.2 < slots.length) →
        start.1 < slots.length →
          (visited.foldl olderOf start).1 < slots.length := by
    intro visited
    induction visited with
    | nil =>
        intro start _ inside
        exact inside
    | cons slot rest inductionHypothesis =>
        intro start allInside inside
        apply inductionHypothesis
        · intro other member
          exact allInside other (by simp [member])
        · have slotInside := allInside slot (by simp)
          simp only [olderOf]
          split
          · split <;> assumption
          · exact inside
  rw [oldestIndex_eq]
  apply keeps
  · intro slot member
    exact List.snd_lt_of_mem_zipIdx member
  · exact positive

/--
The scan's best time is below all it visited, and it is the time in the best
slot unless nothing came below the starting bound.
-/
structure OldestSoFar
    (visited : List (Option OutstandingSend × Nat))
    (best : Nat × Nat) :
    Prop where
  below :
    ∀ slot ∈ visited, ∀ send,
      slot.1 = some send → best.2 ≤ send.sentAtMs
  reached :
    best.2 = 2 ^ 64 - 1 ∨
      ∃ send,
        (some send, best.1) ∈ visited ∧ send.sentAtMs = best.2

theorem OldestSoFar.visit
    {visited : List (Option OutstandingSend × Nat)}
    {best : Nat × Nat}
    (soFar : OldestSoFar visited best)
    (slot : Option OutstandingSend × Nat) :
    OldestSoFar (visited ++ [slot]) (olderOf best slot) := by
  have unchanged
      (notBelow :
        ∀ send, slot.1 = some send → best.2 ≤ send.sentAtMs) :
      OldestSoFar (visited ++ [slot]) best := by
    constructor
    · intro other member send isSend
      rcases List.mem_append.mp member with isVisited | isLast
      · exact soFar.below other isVisited send isSend
      · obtain rfl := List.mem_singleton.mp isLast
        exact notBelow send isSend
    · rcases soFar.reached with isBound | ⟨send, member, same⟩
      · exact .inl isBound
      · exact .inr ⟨send, List.mem_append_left _ member, same⟩
  obtain ⟨stored, position⟩ := slot
  cases stored with
  | none =>
      exact unchanged (fun send isSend => by cases isSend)
  | some send =>
      by_cases earlier : send.sentAtMs < best.2
      · simp only [olderOf, earlier, if_true]
        refine ⟨?_, .inr ⟨send, by simp, rfl⟩⟩
        intro other member another isSend
        rcases List.mem_append.mp member with isVisited | isLast
        · exact earlier.le.trans
            (soFar.below other isVisited another isSend)
        · obtain rfl := List.mem_singleton.mp isLast
          cases isSend
          exact Nat.le_refl _
      · simp only [olderOf, earlier, if_false]
        apply unchanged
        intro other isSend
        cases isSend
        exact Nat.le_of_not_lt earlier

theorem OldestSoFar.visits
    {visited : List (Option OutstandingSend × Nat)}
    {best : Nat × Nat}
    (soFar : OldestSoFar visited best)
    (remaining : List (Option OutstandingSend × Nat)) :
    OldestSoFar (visited ++ remaining)
      (remaining.foldl olderOf best) := by
  induction remaining generalizing visited best with
  | nil =>
      simpa using soFar
  | cons slot rest inductionHypothesis =>
      simpa using inductionHypothesis (soFar.visit slot)

/-- The send in the chosen slot was sent no later than any other. -/
theorem oldestIndex_least
    {slots : List (Option OutstandingSend)}
    (representable : ∀ send ∈ entries slots, send.sentAtMs < 2 ^ 64)
    {oldest : OutstandingSend}
    (chosen : slots[oldestIndex slots]? = some (some oldest)) :
    ∀ send ∈ entries slots, oldest.sentAtMs ≤ send.sentAtMs := by
  have nothingVisited : OldestSoFar [] (0, 2 ^ 64 - 1) :=
    ⟨by simp, .inl rfl⟩
  have scanned := nothingVisited.visits slots.zipIdx
  rw [List.nil_append] at scanned
  have chosenBelow :
      oldest.sentAtMs ≤
        (slots.zipIdx.foldl olderOf (0, 2 ^ 64 - 1)).2 := by
    rcases scanned.reached with isBound | ⟨send, member, same⟩
    · have isEntry : oldest ∈ entries slots :=
        List.reduceOption_mem_iff.mpr (List.mem_of_getElem? chosen)
      have bounded := representable oldest isEntry
      omega
    · have stored := List.mem_zipIdx_iff_getElem?.mp member
      simp only [← oldestIndex_eq, chosen, Option.some.injEq] at stored
      rw [stored]
      exact same.le
  intro send member
  have inSlots : some send ∈ slots := List.reduceOption_mem_iff.mp member
  obtain ⟨position, stored⟩ := List.getElem?_of_mem inSlots
  have isVisited : (some send, position) ∈ slots.zipIdx :=
    List.mem_zipIdx_iff_getElem?.mpr stored
  exact chosenBelow.trans (scanned.below _ isVisited send rfl)

/-- A full table evicts the send with the lowest sending time. -/
theorem insert_of_full
    {table : OutstandingSends}
    (full : table.sends.length = maxOutstandingSends)
    (representable : ∀ tracked ∈ table.sends, tracked.sentAtMs < 2 ^ 64)
    (send : OutstandingSend) :
    ∃ evicted ∈ table.sends,
      (table.insert send).2 = some evicted ∧
        ∀ tracked ∈ table.sends,
          evicted.sentAtMs ≤ tracked.sentAtMs := by
  have allCounted : table.sends.length = table.slots.length :=
    full.trans table.capacity.symm
  have occupied : ∀ slot ∈ table.slots, slot.isSome :=
    List.reduceOption_length_eq_iff.mp allCounted
  have inside : oldestIndex table.slots < table.slots.length :=
    oldestIndex_lt (by simp [table.capacity, maxOutstandingSends, txQueueSlots])
  obtain ⟨oldest, stored⟩ :=
    Option.isSome_iff_exists.mp (occupied _ (List.getElem_mem inside))
  have chosen :
      table.slots[oldestIndex table.slots]? = some (some oldest) := by
    rw [List.getElem?_eq_getElem inside, stored]
  refine ⟨oldest, List.reduceOption_mem_iff.mpr (List.mem_of_getElem? chosen),
    ?_, oldestIndex_least representable chosen⟩
  unfold insert
  split
  · next slots filled =>
    have longer := (fillFirst?_eq_some filled).2.length_eq
    have atMost := List.reduceOption_length_le slots
    have sameLength := (fillFirst?_eq_some filled).1
    simp only [List.length_cons, ← allCounted, sends, entries]
      at longer atMost sameLength allCounted
    omega
  · simp [chosen]

/-- Tracking a send exchanges it for the evicted one, if there is one. -/
theorem insert_sends
    (table : OutstandingSends)
    (send : OutstandingSend) :
    (send :: table.sends).Perm
      ((table.insert send).2.toList ++ (table.insert send).1.sends) := by
  unfold insert
  split
  · next slots filled =>
    exact (fillFirst?_eq_some filled).2.symm
  · next full =>
    have occupied := fillFirst?_eq_none full
    have inside : oldestIndex table.slots < table.slots.length :=
      oldestIndex_lt (by simp [table.capacity, maxOutstandingSends, txQueueSlots])
    have isSome := occupied _ (List.getElem_mem inside)
    obtain ⟨oldest, stored⟩ := Option.isSome_iff_exists.mp isSome
    have found :
        table.slots[oldestIndex table.slots]? = some (some oldest) := by
      rw [List.getElem?_eq_getElem inside, stored]
    simpa [found, sends] using (entries_set found send).symm

/-- The send that a new one evicts: the oldest of a full table. -/
def evictee
    (table : OutstandingSends) :
    Option OutstandingSend :=
  if table.slots.all Option.isSome then
    table.slots[oldestIndex table.slots]?.join
  else
    none

/-- The table holds no more sends than it has slots. -/
theorem length_sends_le
    (table : OutstandingSends) :
    table.sends.length ≤ maxOutstandingSends := by
  rw [← table.capacity]
  exact List.reduceOption_length_le table.slots

/-- A table with a free slot evicts nothing. -/
theorem evictee_eq_none
    {table : OutstandingSends}
    (hasRoom : table.sends.length < maxOutstandingSends) :
    table.evictee = none := by
  refine if_neg fun all => ?_
  have counted : table.sends.length = table.slots.length :=
    List.reduceOption_length_eq_iff.mpr (List.all_eq_true.mp all)
  rw [counted, table.capacity] at hasRoom
  exact Nat.lt_irrefl _ hasRoom

/-- It is the one that tracking a send evicts. -/
theorem insert_evicted
    (table : OutstandingSends)
    (send : OutstandingSend) :
    (table.insert send).2 = table.evictee := by
  unfold insert
  split
  · next slots filled =>
    have longer := (fillFirst?_eq_some filled).2.length_eq
    have atMost := List.reduceOption_length_le slots
    have sameLength := (fillFirst?_eq_some filled).1
    have hasRoom : table.sends.length < maxOutstandingSends := by
      simp only [List.length_cons, sends, entries, table.capacity]
        at longer atMost sameLength ⊢
      omega
    rw [evictee_eq_none hasRoom]
  · next full =>
    rw [evictee, if_pos (List.all_eq_true.mpr (fillFirst?_eq_none full))]

/-- A resolved send is the first one with the hash, and it is gone. -/
theorem resolve_eq
    (table : OutstandingSends)
    (ackHash : AckHash) :
    (table.resolve ackHash).1.sends =
        table.sends.eraseP (·.ackHash == ackHash) ∧
      (table.resolve ackHash).2 =
        table.sends.find? (·.ackHash == ackHash) :=
  (takeFirst_entries _ table.slots).2

/-- Resolving takes at most the resolved send out of the table. -/
theorem resolve_sends
    (table : OutstandingSends)
    (ackHash : AckHash) :
    table.sends.Perm
      ((table.resolve ackHash).2.toList ++
        (table.resolve ackHash).1.sends) := by
  obtain ⟨left, taken⟩ := table.resolve_eq ackHash
  rw [left, taken]
  exact perm_find?_eraseP _ _

/-- The sends in the table wait for different acknowledgements. -/
def Distinct
    (table : OutstandingSends) :
    Prop :=
  (table.sends.map OutstandingSend.ackHash).Nodup

/-- Resolving a hash removes all its sends. -/
theorem Distinct.resolve_sends
    {table : OutstandingSends}
    (distinct : table.Distinct)
    (ackHash : AckHash) :
    (table.resolve ackHash).1.sends =
      table.sends.filter (·.ackHash != ackHash) := by
  rw [(table.resolve_eq ackHash).1]
  exact eraseP_eq_filter distinct ackHash

/-- Resolving a hash finds the send that waits for it. -/
theorem Distinct.resolve_eq_some_iff
    {table : OutstandingSends}
    (distinct : table.Distinct)
    {ackHash : AckHash}
    {send : OutstandingSend} :
    (table.resolve ackHash).2 = some send ↔
      send ∈ table.sends ∧ send.ackHash = ackHash := by
  rw [(table.resolve_eq ackHash).2]
  exact find?_eq_some_iff distinct

/-- Removing sends keeps the others distinct. -/
theorem Distinct.sublist
    {table smaller : OutstandingSends}
    (distinct : table.Distinct)
    (sublist : smaller.sends.Sublist table.sends) :
    smaller.Distinct :=
  List.Nodup.sublist (sublist.map _) distinct

section Sweep

variable
    {σ : Type}
    (table : OutstandingSends)
    (now : Nat)
    {retryIf : σ → OutstandingSend → σ × Bool}
    (allowed : OutstandingSend → Bool)

/-- The sweep offers this send to the caller. -/
def isOffered
    (now : Nat)
    (send : OutstandingSend) :
    Bool :=
  send.deadlineMs ≤ now && send.attempts < maxSendRetries

/-- What a sweep makes of one send. -/
def sweptSend
    (send : OutstandingSend) :
    Option OutstandingSend :=
  if now < send.deadlineMs then
    some send
  else if isOffered now send && allowed send then
    some (send.retriedAt now)
  else
    none

/-- The sends left by a sweep whose caller decides by the send alone. -/
theorem sweepExpired_sends
    (decides : ∀ state send, (retryIf state send).2 = allowed send)
    (state : σ) :
    (table.sweepExpired now retryIf state).1.sends =
      table.sends.filterMap (sweptSend now allowed) := by
  apply sweep_entries
  rintro ⟨current, undelivered⟩ send
  have decided := decides current send
  simp only [sweepVisit, sweptSend, isOffered]
  split
  · rfl
  · next matured =>
    have due : send.deadlineMs ≤ now := Nat.le_of_not_lt matured
    by_cases left : send.attempts < maxSendRetries
    · cases permitted : allowed send <;>
        simp [left, due, decided, permitted]
    · simp [left]

/-- The sends a sweep gives up on are the ones it does not keep. -/
theorem sweepExpired_undelivered
    (decides : ∀ state send, (retryIf state send).2 = allowed send)
    (state : σ) :
    (table.sweepExpired now retryIf state).2.2 =
      table.sends.filter fun send =>
        (sweptSend now allowed send).isNone := by
  simp only [sweepExpired, sweep_state]
  suffices extends' :
      ∀ (visited : List OutstandingSend) (start : σ × List OutstandingSend),
        (visited.foldl
            (fun current send => (sweepVisit now retryIf current send).1)
            start).2 =
          start.2 ++
            visited.filter fun send =>
              (sweptSend now allowed send).isNone by
    simpa [sends] using extends' (entries table.slots) (state, [])
  intro visited
  induction visited with
  | nil =>
      simp
  | cons send rest inductionHypothesis =>
      rintro ⟨current, undelivered⟩
      rw [List.foldl_cons, inductionHypothesis]
      have decided := decides current send
      by_cases waiting : now < send.deadlineMs
      · simp [sweepVisit, sweptSend, waiting]
      · have due : send.deadlineMs ≤ now := Nat.le_of_not_lt waiting
        by_cases left : send.attempts < maxSendRetries
        · cases permitted : allowed send <;>
            simp [sweepVisit, sweptSend, isOffered, waiting, left, due,
              decided, permitted]
        · simp [sweepVisit, sweptSend, isOffered, waiting, left]

/-- The caller sees the offered sends in slot order. -/
theorem sweepExpired_state
    (state : σ) :
    (table.sweepExpired now retryIf state).2.1 =
      (table.sends.filter (isOffered now)).foldl
        (fun current send => (retryIf current send).1) state := by
  simp only [sweepExpired, sweep_state]
  suffices sameState :
      ∀ (visited : List OutstandingSend) (start : σ × List OutstandingSend),
        (visited.foldl
            (fun current send => (sweepVisit now retryIf current send).1)
            start).1 =
          (visited.filter (isOffered now)).foldl
            (fun current send => (retryIf current send).1) start.1 from
    sameState (entries table.slots) (state, [])
  intro visited
  induction visited with
  | nil =>
      simp
  | cons send rest inductionHypothesis =>
      rintro ⟨current, undelivered⟩
      rw [List.foldl_cons, inductionHypothesis]
      by_cases waiting : now < send.deadlineMs
      · have notDue : ¬ send.deadlineMs ≤ now := by omega
        simp [sweepVisit, isOffered, waiting, notDue]
      · have due : send.deadlineMs ≤ now := Nat.le_of_not_lt waiting
        by_cases left : send.attempts < maxSendRetries
        · cases retried : (retryIf current send).2 <;>
            simp [sweepVisit, isOffered, waiting, left, due, retried]
        · simp [sweepVisit, isOffered, waiting, left]

end Sweep

/-- A sweep leaves sends that were tracked before. -/
theorem mem_swept
    {sends : List OutstandingSend}
    {now : Nat}
    {allowed : OutstandingSend → Bool}
    {send : OutstandingSend}
    (member : send ∈ sends.filterMap (sweptSend now allowed)) :
    (send ∈ sends ∧ now < send.deadlineMs) ∨
      ∃ before ∈ sends,
        isOffered now before = true ∧
          allowed before = true ∧
          send = before.retriedAt now := by
  obtain ⟨before, isBefore, swept⟩ := List.mem_filterMap.mp member
  rw [sweptSend] at swept
  split at swept
  · next waiting =>
    cases swept
    exact .inl ⟨isBefore, waiting⟩
  · split at swept
    · next retried =>
      cases swept
      rw [Bool.and_eq_true] at retried
      exact .inr ⟨before, isBefore, retried.1, retried.2, rfl⟩
    · cases swept

/-- Nothing is left of a send that a sweep does not keep. -/
theorem notKept_of_isNone
    {sends : List OutstandingSend}
    {now : Nat}
    {allowed : OutstandingSend → Bool}
    {send : OutstandingSend}
    (distinct : (sends.map OutstandingSend.ackHash).Nodup)
    (member : send ∈ sends)
    (isNone : (sweptSend now allowed send).isNone = true) :
    ∀ other ∈ sends.filterMap (sweptSend now allowed),
      other.ackHash ≠ send.ackHash := by
  intro other isKept sameHash
  have notWaiting : ¬ now < send.deadlineMs := by
    intro waiting
    simp [sweptSend, waiting] at isNone
  rcases mem_swept isKept with
    ⟨old, waiting⟩ | ⟨earlier, isEarlier, offered, permitted, rfl⟩
  · cases List.inj_on_of_nodup_map distinct old member sameHash
    exact notWaiting waiting
  · cases List.inj_on_of_nodup_map distinct isEarlier member sameHash
    simp [sweptSend, notWaiting, offered, permitted] at isNone

/-- A sweep keeps the sends distinct. -/
theorem distinct_swept
    {sends : List OutstandingSend}
    (distinct : (sends.map OutstandingSend.ackHash).Nodup)
    (now : Nat)
    (allowed : OutstandingSend → Bool) :
    ((sends.filterMap (sweptSend now allowed)).map
      OutstandingSend.ackHash).Nodup := by
  refine List.Nodup.sublist ?_ distinct
  clear distinct
  induction sends with
  | nil =>
      simp
  | cons send rest inductionHypothesis =>
      cases swept : sweptSend now allowed send with
      | none =>
          rw [List.filterMap_cons_none swept]
          exact inductionHypothesis.cons _
      | some after =>
          have sameHash : after.ackHash = send.ackHash := by
            rw [sweptSend] at swept
            split at swept
            · cases swept
              rfl
            · split at swept
              · cases swept
                rfl
              · cases swept
          rw [List.filterMap_cons_some swept, List.map_cons,
            List.map_cons, sameHash]
          exact inductionHypothesis.cons_cons _

end OutstandingSends

end MeshCadet
