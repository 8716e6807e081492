import Mathlib.Algebra.GroupWithZero.Nat
import Mathlib.Algebra.Order.Ring.Nat
import Mathlib.Algebra.Order.BigOperators.Group.List
import Mathlib.Data.List.DropRight
import MeshCadet.RingBuffer
import MeshCadet.Transition

namespace MeshCadet

/-!
# The airtime budget

The last 32 transmissions are kept in a ring.  A frame may be sent when the ones
of them that started within the last 60 seconds leave it room in the budget.  A
transmission that the ring has dropped is not counted any more, even when it
started within that time.
-/

open RingBuffer

/-- Length of the budget's window in milliseconds. -/
def budgetWindowMs : Nat :=
  60000

/-- Airtime allowed inside the window. -/
def budgetMaxMs : Nat :=
  6000

/-- Transmissions the budget keeps. -/
def budgetSlots : Nat :=
  32

/-- When a transmission started and how long it takes. -/
structure TxRecord where
  startMs : Nat
  durationMs : Nat
deriving Repr, DecidableEq

/-- The airtime of the records whose start meets the condition. -/
def airtime
    (startsIn : Nat → Bool)
    (records : List TxRecord) :
    Nat :=
  ((records.filter fun record => startsIn record.startMs).map
    TxRecord.durationMs).sum

/-- The transmissions the device remembers. -/
abbrev AirtimeBudget : Type :=
  SeenRing TxRecord budgetSlots

namespace AirtimeBudget

/-- Nothing was transmitted yet. -/
def new : AirtimeBudget :=
  SeenRing.empty { startMs := 0, durationMs := 0 } (by decide)

/-- The earliest start that counts at the given time. -/
def cutoff
    (nowMs : Nat) :
    Nat :=
  nowMs - budgetWindowMs

/-- The airtime of the remembered transmissions within the window. -/
def usedInWindow
    (budget : AirtimeBudget)
    (nowMs : Nat) :
    Nat :=
  airtime (fun start => cutoff nowMs ≤ start)
    (budget.slots.toList.take budget.count)

/-- The frame stays within the budget, as far as the budget remembers. -/
def canTransmit
    (budget : AirtimeBudget)
    (nowMs requiredMs : Nat) :
    Bool :=
  budget.usedInWindow nowMs + requiredMs ≤ budgetMaxMs

/-- Remember a transmission. -/
def recordTx
    (budget : AirtimeBudget)
    (nowMs durationMs : Nat) :
    AirtimeBudget :=
  budget.insert { startMs := nowMs, durationMs := durationMs }

end AirtimeBudget

/-- The budget, with every transmission that was started, oldest first. -/
structure AirtimeLog where
  budget : AirtimeBudget
  sent : List TxRecord

namespace AirtimeLog

/-- Nothing was transmitted yet. -/
def new : AirtimeLog :=
  { budget := AirtimeBudget.new
    sent := [] }

/-- A frame is sent, and recorded, only when the budget allows it. -/
def step
    (log : AirtimeLog)
    (frame : TxRecord) :
    AirtimeLog :=
  if log.budget.canTransmit frame.startMs frame.durationMs then
    { budget := log.budget.recordTx frame.startMs frame.durationMs
      sent := log.sent ++ [frame] }
  else
    log

/-- No window of 60 seconds holds more airtime than the budget allows. -/
def WithinDutyCycle
    (log : AirtimeLog) :
    Prop :=
  ∀ earliest,
    airtime
        (fun start =>
          earliest ≤ start && start ≤ earliest + budgetWindowMs)
        log.sent ≤
      budgetMaxMs

/-- Transmissions that started in the window and are not remembered. -/
def forgottenInWindow
    (log : AirtimeLog)
    (nowMs : Nat) :
    Nat :=
  airtime (fun start => AirtimeBudget.cutoff nowMs ≤ start)
    (log.sent.take (log.sent.length - budgetSlots))

/--
An allowed frame leaves the forgotten transmissions of the window as much room
as they take.
-/
def LeavesForgottenRoom
    (log : AirtimeLog)
    (frame : TxRecord) :
    Prop :=
  log.budget.canTransmit frame.startMs frame.durationMs = true →
    log.forgottenInWindow frame.startMs ≤
      budgetMaxMs -
        (log.budget.usedInWindow frame.startMs + frame.durationMs)

/--
When a frame is allowed, every transmission that is older than the newest 32 started
more than 60 seconds ago.
-/
def ForgetsOutside
    (log : AirtimeLog)
    (frame : TxRecord) :
    Prop :=
  log.budget.canTransmit frame.startMs frame.durationMs = true →
    ∀ record ∈ log.sent.take (log.sent.length - budgetSlots),
      record.startMs + budgetWindowMs < frame.startMs

instance
    (log : AirtimeLog)
    (frame : TxRecord) :
    Decidable (log.ForgetsOutside frame) :=
  inferInstanceAs
    (Decidable
      (log.budget.canTransmit frame.startMs frame.durationMs = true →
        ∀ record ∈ log.sent.take (log.sent.length - budgetSlots),
          record.startMs + budgetWindowMs < frame.startMs))

/-- Every start is more than 60 seconds after those before its last 32. -/
def Spaced
    (starts : List Nat) :
    Prop :=
  ∀ i j older newer,
    starts[i]? = some older →
    starts[j]? = some newer →
    i + budgetSlots < j →
      older + budgetWindowMs < newer

end AirtimeLog

@[simp] theorem airtime_append
    (startsIn : Nat → Bool)
    (first second : List TxRecord) :
    airtime startsIn (first ++ second) =
      airtime startsIn first + airtime startsIn second := by
  simp [airtime]

@[simp] theorem airtime_singleton
    (startsIn : Nat → Bool)
    (record : TxRecord) :
    airtime startsIn [record] =
      if startsIn record.startMs then record.durationMs else 0 := by
  cases inside : startsIn record.startMs <;> simp [airtime, inside]

/-- Records take no more airtime anywhere than all together. -/
theorem airtime_le_sum
    (startsIn : Nat → Bool)
    (records : List TxRecord) :
    airtime startsIn records ≤
      (records.map TxRecord.durationMs).sum :=
  (List.filter_sublist.map _).sum_le_sum (fun _ _ => Nat.zero_le _)

@[simp] theorem airtime_cons
    (startsIn : Nat → Bool)
    (record : TxRecord)
    (records : List TxRecord) :
    airtime startsIn (record :: records) =
      (if startsIn record.startMs then record.durationMs else 0) +
        airtime startsIn records := by
  cases inside : startsIn record.startMs <;> simp [airtime, inside]

/-- Records that start in fewer places take less airtime. -/
theorem airtime_mono
    {startsIn widerIn : Nat → Bool}
    {records : List TxRecord}
    (wider :
      ∀ record ∈ records,
        startsIn record.startMs = true →
          widerIn record.startMs = true) :
    airtime startsIn records ≤ airtime widerIn records := by
  induction records with
  | nil =>
      exact Nat.le_refl _
  | cons record rest inductionHypothesis =>
      have later :=
        inductionHypothesis fun other member =>
          wider other (List.mem_cons_of_mem _ member)
      have first :
          airtime startsIn [record] ≤ airtime widerIn [record] := by
        have here := wider record List.mem_cons_self
        simp only [airtime_singleton]
        split
        · simp_all
        · exact Nat.zero_le _
      rw [← List.singleton_append, airtime_append, airtime_append]
      exact Nat.add_le_add first later

namespace AirtimeLog

/-- The budget remembers what was sent. -/
def Kept
    (log : AirtimeLog) :
    Prop :=
  log.budget.Remembers log.sent

theorem kept_new :
    new.Kept :=
  SeenRing.remembers_empty _ (by decide)

/-- Nothing that was sent started later than the frame. -/
def InOrder
    (log : AirtimeLog)
    (frame : TxRecord) :
    Prop :=
  ∀ record ∈ log.sent, record.startMs ≤ frame.startMs

/-- The budget counts the newest 32 of the transmissions. -/
theorem Kept.usedInWindow_eq
    {log : AirtimeLog}
    (kept : log.Kept)
    (nowMs : Nat) :
    log.budget.usedInWindow nowMs =
      airtime (fun start => AirtimeBudget.cutoff nowMs ≤ start)
        (log.sent.drop (log.sent.length - budgetSlots)) :=
  ((kept.perm.filter _).map _).sum_eq

/-- What is counted and what is forgotten is all that was sent. -/
theorem Kept.used_add_forgotten
    {log : AirtimeLog}
    (kept : log.Kept)
    (nowMs : Nat) :
    log.budget.usedInWindow nowMs + log.forgottenInWindow nowMs =
      airtime (fun start => AirtimeBudget.cutoff nowMs ≤ start)
        log.sent := by
  rw [kept.usedInWindow_eq, forgottenInWindow, Nat.add_comm,
    ← airtime_append, List.take_append_drop]

/-- Whether or not the frame is sent, the budget remembers it. -/
theorem Kept.step
    {log : AirtimeLog}
    (kept : log.Kept)
    (frame : TxRecord) :
    (log.step frame).Kept := by
  unfold AirtimeLog.step
  split
  · exact SeenRing.Remembers.insert kept frame
  · exact kept

/-- The windows stay within the budget when the latest one does. -/
theorem withinDutyCycle_concat_iff
    {log : AirtimeLog}
    (within' : log.WithinDutyCycle)
    (budget : AirtimeBudget)
    {frame : TxRecord}
    (inOrder : log.InOrder frame) :
    WithinDutyCycle { budget := budget, sent := log.sent ++ [frame] } ↔
      airtime
          (fun start => AirtimeBudget.cutoff frame.startMs ≤ start)
          log.sent +
        frame.durationMs ≤
      budgetMaxMs := by
  have reaches :
      AirtimeBudget.cutoff frame.startMs ≤ frame.startMs ∧
        frame.startMs ≤
          AirtimeBudget.cutoff frame.startMs + budgetWindowMs := by
    simp only [AirtimeBudget.cutoff]
    omega
  constructor
  · intro withinAfter
    have latest := withinAfter (AirtimeBudget.cutoff frame.startMs)
    have counted :
        airtime
            (fun start => AirtimeBudget.cutoff frame.startMs ≤ start)
            log.sent ≤
          airtime
            (fun start =>
              AirtimeBudget.cutoff frame.startMs ≤ start &&
                start ≤
                  AirtimeBudget.cutoff frame.startMs + budgetWindowMs)
            log.sent := by
      apply airtime_mono
      intro record member inside
      have earlier := inOrder record member
      have notBefore :
          AirtimeBudget.cutoff frame.startMs ≤ record.startMs := by
        simpa using inside
      simp only [Bool.and_eq_true, decide_eq_true_eq]
      omega
    simp only [airtime_append, airtime_singleton, reaches, decide_true,
      Bool.and_self, if_true] at latest
    omega
  · intro fits earliest
    simp only [airtime_append, airtime_singleton]
    split
    · next inside =>
      have smaller :
          airtime
              (fun start =>
                earliest ≤ start && start ≤ earliest + budgetWindowMs)
              log.sent ≤
            airtime
              (fun start =>
                AirtimeBudget.cutoff frame.startMs ≤ start)
              log.sent := by
        apply airtime_mono
        intro record _ within''
        simp only [Bool.and_eq_true, decide_eq_true_eq] at inside within''
        have notBefore :
            AirtimeBudget.cutoff frame.startMs ≤ record.startMs := by
          simp only [AirtimeBudget.cutoff]
          omega
        simpa using notBefore
      omega
    · simpa using within' earliest

/-- A frame keeps the duty cycle exactly when it leaves that room. -/
theorem withinDutyCycle_step_iff
    {log : AirtimeLog}
    (kept : log.Kept)
    (within' : log.WithinDutyCycle)
    {frame : TxRecord}
    (inOrder : log.InOrder frame) :
    (log.step frame).WithinDutyCycle ↔ log.LeavesForgottenRoom frame := by
  by_cases allowed :
      log.budget.canTransmit frame.startMs frame.durationMs = true
  · have counted := kept.used_add_forgotten frame.startMs
    have withinBudget :
        log.budget.usedInWindow frame.startMs + frame.durationMs ≤
          budgetMaxMs := by
      simpa [AirtimeBudget.canTransmit] using allowed
    simp only [AirtimeLog.step, allowed, if_true,
      withinDutyCycle_concat_iff within' _ inOrder,
      LeavesForgottenRoom, true_implies]
    omega
  · simp [AirtimeLog.step, allowed, LeavesForgottenRoom, within']

/-- Forgotten transmissions outside the window need no room. -/
theorem ForgetsOutside.leavesRoom
    {log : AirtimeLog}
    {frame : TxRecord}
    (outside : log.ForgetsOutside frame) :
    log.LeavesForgottenRoom frame := by
  intro allowed
  have none :
      (log.sent.take (log.sent.length - budgetSlots)).filter
          (fun record =>
            decide (AirtimeBudget.cutoff frame.startMs ≤ record.startMs)) =
        [] := by
    rw [List.filter_eq_nil_iff]
    intro record member
    have before := outside allowed record member
    rw [decide_eq_true_eq, AirtimeBudget.cutoff]
    omega
  rw [forgottenInWindow, airtime, none]
  exact Nat.zero_le _

/-- Frames at non-decreasing times come in order. -/
theorem along_inOrder
    {log : AirtimeLog}
    {frames : List TxRecord}
    (sentBefore : ∀ frame ∈ frames, log.InOrder frame)
    (nonDecreasing :
      frames.Pairwise fun earlier later =>
        earlier.startMs ≤ later.startMs) :
    Transition.Along step InOrder log frames := by
  induction frames generalizing log with
  | nil =>
      trivial
  | cons frame rest inductionHypothesis =>
      obtain ⟨first, later⟩ := List.pairwise_cons.mp nonDecreasing
      refine ⟨sentBefore frame List.mem_cons_self,
        inductionHypothesis ?_ later⟩
      intro next member record isSent
      have mayBeNew : record ∈ log.sent ∨ record = frame := by
        unfold AirtimeLog.step at isSent
        split at isSent
        · simpa using isSent
        · exact .inl isSent
      rcases mayBeNew with isOld | rfl
      · exact sentBefore next (List.mem_cons_of_mem _ member) record isOld
      · exact first next member

/-- What a part of a list holds but for its last elements, the list holds so too. -/
theorem take_length_sub_sublist
    {α : Type}
    {part whole : List α}
    (isPart : part.Sublist whole)
    (count : Nat) :
    (part.take (part.length - count)).Sublist
      (whole.take (whole.length - count)) := by
  have fromEnd := (isPart.reverse.drop count).reverse
  rwa [List.drop_reverse, List.drop_reverse, List.reverse_reverse,
    List.reverse_reverse] at fromEnd

/-- Spaced starts are out of the window when they are forgotten. -/
theorem along_forgetsOutside
    {log : AirtimeLog}
    {before frames : List TxRecord}
    (spaced : Spaced ((before ++ frames).map TxRecord.startMs))
    (isPart : log.sent.Sublist before) :
    Transition.Along step ForgetsOutside log frames := by
  induction frames generalizing log before with
  | nil =>
      trivial
  | cons frame rest inductionHypothesis =>
      refine ⟨?_, @inductionHypothesis _ (before ++ [frame]) ?_ ?_⟩
      · intro _ record member
        have forgotten :=
          (take_length_sub_sublist isPart budgetSlots).subset member
        obtain ⟨i, isRecord⟩ := List.mem_iff_getElem?.mp forgotten
        have early : i < before.length - budgetSlots := by
          have inside := (List.getElem?_eq_some_iff.mp isRecord).1
          rw [List.length_take] at inside
          omega
        rw [List.getElem?_take_of_lt early] at isRecord
        refine spaced i before.length _ _ ?_ ?_ (by omega)
        · rw [List.getElem?_map,
            List.getElem?_append_left (by omega), isRecord]
          rfl
        · rw [List.getElem?_map, List.getElem?_append_right (Nat.le_refl _),
            Nat.sub_self]
          rfl
      · rw [List.append_assoc]
        exact spaced
      · unfold AirtimeLog.step
        split
        · exact isPart.append (List.Sublist.refl _)
        · exact isPart.trans (List.sublist_append_left _ _)

/-- Frames are all sent when each has room in the budget beside the 32 before it. -/
theorem sent_append
    {log : AirtimeLog}
    (kept : log.Kept)
    (frames : List TxRecord)
    (room :
      ∀ before frame after,
        frames = before ++ frame :: after →
          (((log.sent ++ before).rtake budgetSlots).map
              TxRecord.durationMs).sum +
              frame.durationMs ≤
            budgetMaxMs) :
    (Transition.run step log frames).sent = log.sent ++ frames ∧
      (Transition.run step log frames).Kept := by
  induction frames using List.reverseRecOn with
  | nil =>
      exact ⟨(List.append_nil _).symm, kept⟩
  | append_singleton front frame inductionHypothesis =>
      obtain ⟨allSent, stillKept⟩ :=
        inductionHypothesis fun before other after isSplit =>
          room before other (after ++ [frame]) (by simp [isSplit])
      have counted :=
        stillKept.usedInWindow_eq frame.startMs
      have roomLeft := room front frame [] rfl
      have atMost :
          (Transition.run step log front).budget.usedInWindow
              frame.startMs ≤
            (((log.sent ++ front).rtake budgetSlots).map
              TxRecord.durationMs).sum := by
        rw [counted, allSent]
        exact airtime_le_sum _ _
      have allowed :
          (Transition.run step log front).budget.canTransmit
              frame.startMs frame.durationMs =
            true :=
        decide_eq_true (by omega)
      rw [Transition.run_append, Transition.run_cons, Transition.run_nil]
      refine ⟨?_, stillKept.step frame⟩
      rw [AirtimeLog.step, if_pos allowed, allSent, List.append_assoc]

/-- A frame of one millisecond. -/
def lightFrame
    (startMs : Nat) :
    TxRecord :=
  { startMs := startMs, durationMs := 1 }

/-- A frame that takes the budget but for some light ones. -/
def heavyFrame
    (startMs : Nat) :
    TxRecord :=
  { startMs := startMs, durationMs := 5936 }

/-- What frames take beyond a millisecond each. -/
def excess
    (records : List TxRecord) :
    Nat :=
  (records.map fun record => record.durationMs - 1).sum

@[simp] theorem excess_append
    (first second : List TxRecord) :
    excess (first ++ second) = excess first + excess second := by
  simp [excess]

@[simp] theorem excess_cons
    (record : TxRecord)
    (records : List TxRecord) :
    excess (record :: records) =
      record.durationMs - 1 + excess records := by
  simp [excess]

@[simp] theorem excess_lightFrames
    (starts : List Nat) :
    excess (starts.map lightFrame) = 0 := by
  simp [excess, lightFrame, Function.comp_def]

/-- Frames take a millisecond each and what they take beyond it. -/
theorem sum_durations_le
    (records : List TxRecord) :
    (records.map TxRecord.durationMs).sum ≤
      records.length + excess records := by
  induction records with
  | nil =>
      exact Nat.le_refl _
  | cons record rest inductionHypothesis =>
      rw [List.map_cons, List.sum_cons, List.length_cons, excess_cons]
      omega

/-- The newest frames take at most that, too. -/
theorem sum_rtake_le
    (records : List TxRecord)
    (count : Nat) :
    ((records.rtake count).map TxRecord.durationMs).sum ≤
      count + excess records := by
  have newest := sum_durations_le (records.rtake count)
  have few : (records.rtake count).length ≤ count := by
    rw [List.rtake, List.length_drop]
    omega
  have whole :
      excess records =
        excess (records.take (records.length - count)) +
          excess (records.rtake count) := by
    rw [← excess_append, List.rtake, List.take_append_drop]
  omega

/-- Two frames of an unspaced list of starts, with the starts between them. -/
theorem exists_split_of_not_spaced
    {starts : List Nat}
    (notSpaced : ¬ Spaced starts) :
    ∃ first older between newer last,
      starts = first ++ older :: (between ++ newer :: last) ∧
        budgetSlots ≤ between.length ∧
        newer ≤ older + budgetWindowMs := by
  simp only [Spaced, not_forall] at notSpaced
  obtain ⟨i, j, older, newer, isOlder, isNewer, apart, near⟩ := notSpaced
  obtain ⟨iInside, rfl⟩ := List.getElem?_eq_some_iff.mp isOlder
  obtain ⟨jInside, rfl⟩ := List.getElem?_eq_some_iff.mp isNewer
  refine ⟨starts.take i, starts[i],
    (starts.drop (i + 1)).take (j - (i + 1)), starts[j],
    starts.drop (j + 1), ?_, ?_, Nat.le_of_not_lt near⟩
  · have rest :
        starts.drop (i + 1) =
          (starts.drop (i + 1)).take (j - (i + 1)) ++
            starts[j] :: starts.drop (j + 1) := by
      rw [← List.drop_eq_getElem_cons jInside]
      conv_lhs =>
        rw [← List.take_append_drop (j - (i + 1)) (starts.drop (i + 1))]
      rw [List.drop_drop, Nat.add_sub_cancel' (by omega)]
    rw [← rest, ← List.drop_eq_getElem_cons, List.take_append_drop]
  · rw [List.length_take, List.length_drop]
    omega

/-- Starts that are not spaced carry frames that exceed the duty cycle. -/
theorem exceeds_of_not_spaced
    {starts : List Nat}
    (nonDecreasing : starts.Pairwise (· ≤ ·))
    (notSpaced : ¬ Spaced starts) :
    ∃ frames,
      frames.map TxRecord.startMs = starts ∧
        (∀ frame ∈ frames, 0 < frame.durationMs) ∧
        ¬ Transition.Always step WithinDutyCycle new frames := by
  obtain ⟨first, older, between, newer, last, rfl, many, near⟩ :=
    exists_split_of_not_spaced notSpaced
  -- All frames are light but for the two that share a window; when the newer of
  -- them is asked for, the budget has forgotten the older one.
  have startsOfLight :
      ∀ some : List Nat,
        (some.map lightFrame).map TxRecord.startMs = some := by
    intro some
    simp [lightFrame, Function.comp_def]
  let front :=
    first.map lightFrame ++ heavyFrame older :: between.map lightFrame
  refine ⟨front ++ heavyFrame newer :: last.map lightFrame, ?_, ?_, ?_⟩
  · simp [front, startsOfLight, heavyFrame]
  · simp only [front, List.mem_append, List.mem_cons, List.mem_map]
    rintro frame
      ((⟨start, _, rfl⟩ | rfl | ⟨start, _, rfl⟩) |
        rfl | ⟨start, _, rfl⟩) <;>
      exact Nat.zero_lt_succ _
  · intro always
    have frontSent :=
      sent_append kept_new front (by
        intro before frame after isSplit
        have newest := sum_rtake_le (new.sent ++ before) budgetSlots
        have whole : excess front = 5935 := by
          simp [front, heavyFrame]
        rw [isSplit, excess_append, excess_cons] at whole
        have noneBefore : excess (new.sent ++ before) = excess before := by
          rw [excess_append]
          exact Nat.zero_add _
        simp only [budgetSlots, budgetMaxMs] at newest ⊢
        omega)
    have newerSent :=
      sent_append frontSent.2 [heavyFrame newer] (by
        intro before frame after isSplit
        obtain ⟨rfl, rfl, rfl⟩ :
            before = [] ∧ frame = heavyFrame newer ∧ after = [] := by
          cases before with
          | nil =>
              simp_all
          | cons other others =>
              simp at isSplit
        have newest :
            (((Transition.run step new front).sent ++ []).rtake
                budgetSlots) =
              ((between.map lightFrame).rtake budgetSlots) := by
          rw [List.append_nil, frontSent.1]
          simp only [new, List.nil_append, front, List.rtake,
            List.length_append, List.length_cons, List.length_map]
          rw [List.drop_append, List.drop_of_length_le, List.nil_append]
          · rw [List.length_map,
              show
                first.length + (between.length + 1) - budgetSlots -
                    first.length =
                  between.length - budgetSlots + 1 by omega,
              List.drop_succ_cons]
          · rw [List.length_map]
            omega
        have light := sum_rtake_le (between.map lightFrame) budgetSlots
        rw [excess_lightFrames] at light
        rw [newest]
        simp only [budgetSlots, budgetMaxMs, heavyFrame] at light ⊢
        omega)
    have reached :=
      Transition.always_iff_prefix.mp always
        (front ++ [heavyFrame newer])
        ⟨last.map lightFrame, by simp⟩
    rw [Transition.run_append] at reached
    have total := reached older
    rw [newerSent.1, frontSent.1] at total
    have inWindow : older ≤ newer := by
      have later := (List.pairwise_append.mp nonDecreasing).2.1
      exact (List.pairwise_cons.mp later).1 newer (by simp)
    have olderCounts : older ≤ older + budgetWindowMs :=
      Nat.le_add_right _ _
    simp only [front, List.append_assoc, List.cons_append, airtime_append,
      airtime_cons, heavyFrame, inWindow, near, olderCounts, decide_true,
      Nat.le_refl, Bool.and_self, if_true, budgetMaxMs] at total
    omega

/--
Frames are sent only when the budget allows it, at non-decreasing times.  Every
window of 60 seconds stays within the duty cycle when no frame is allowed while a
transmission older than the newest 32 started within the last 60 seconds; and the
times at which that is so for frames of whatever length are exactly those where
every start is more than 60 seconds after those before its last 32.
-/
theorem dutyCycle_iff
    (starts : List Nat)
    (nonDecreasing : starts.Pairwise (· ≤ ·)) :
    (∀ frames : List TxRecord,
      frames.map TxRecord.startMs = starts →
      Transition.Along step ForgetsOutside new frames →
        Transition.Always step WithinDutyCycle new frames) ∧
      ((∀ frames : List TxRecord,
          frames.map TxRecord.startMs = starts →
          (∀ frame ∈ frames, 0 < frame.durationMs) →
            Transition.Always step WithinDutyCycle new frames) ↔
        Spaced starts) := by
  have holds :
      ∀ frames : List TxRecord,
        frames.map TxRecord.startMs = starts →
        Transition.Along step ForgetsOutside new frames →
          Transition.Always step WithinDutyCycle new frames := by
    rintro frames rfl outside
    have initially : new.WithinDutyCycle :=
      fun _ => Nat.zero_le _
    have assumed : Transition.Along step InOrder new frames :=
      along_inOrder
        (fun _ _ _ member => absurd member List.not_mem_nil)
        (List.pairwise_map.mp nonDecreasing)
    exact
      (@Transition.always_iff_along_assuming _ _ step WithinDutyCycle Kept
        LeavesForgottenRoom InOrder
        (fun _ frame kept _ _ => kept.step frame)
        (fun _ _ kept within' inOrder =>
          withinDutyCycle_step_iff kept within' inOrder)
        new frames kept_new initially assumed).mpr
          (outside.mono fun _ _ forgets => forgets.leavesRoom)
  refine ⟨holds, ?_, ?_⟩
  · intro always
    by_contra notSpaced
    obtain ⟨frames, haveStarts, positive, exceeds⟩ :=
      exceeds_of_not_spaced nonDecreasing notSpaced
    exact exceeds (always frames haveStarts positive)
  · rintro spaced frames rfl _
    exact holds frames rfl
      (@along_forgetsOutside new [] frames spaced (List.Sublist.refl _))

/-- A frame every two seconds, more of them than the budget keeps. -/
def steadyFrames : List TxRecord :=
  (List.range 40).map fun index =>
    { startMs := 2000 * index, durationMs := 194 + index % 2 }

/-- Each of them is out of the window when it is forgotten. -/
theorem dutyCycle_iff_steadyFrames :
    Transition.Always step WithinDutyCycle new steadyFrames ∧
      ∀ frames : List TxRecord,
        frames.map TxRecord.startMs =
            steadyFrames.map TxRecord.startMs →
        (∀ frame ∈ frames, 0 < frame.durationMs) →
          Transition.Always step WithinDutyCycle new frames := by
  have spaced : Spaced (steadyFrames.map TxRecord.startMs) := by
    intro i j older newer isOlder isNewer apart
    obtain ⟨_, rfl⟩ := List.getElem?_eq_some_iff.mp isOlder
    obtain ⟨_, rfl⟩ := List.getElem?_eq_some_iff.mp isNewer
    simp only [steadyFrames, List.getElem_map, List.getElem_range,
      budgetSlots, budgetWindowMs] at apart ⊢
    omega
  exact
    ⟨(dutyCycle_iff (steadyFrames.map TxRecord.startMs) (by decide)).1
        steadyFrames rfl (by decide +kernel),
      (dutyCycle_iff (steadyFrames.map TxRecord.startMs)
        (by decide)).2.mpr spaced⟩

/-- Frames that fill the budget, a short one, and one that is let through. -/
def shortFrames : List TxRecord :=
  (List.range 32).map (fun index =>
      { startMs := 200 * index, durationMs := 187 }) ++
    [{ startMs := 6400, durationMs := 16 },
      { startMs := 6420, durationMs := 187 }]

/-- Sent when allowed, at non-decreasing times, they exceed the duty cycle. -/
theorem shortFrames_exceed :
    (shortFrames.Pairwise fun earlier later =>
        earlier.startMs ≤ later.startMs) ∧
      (Transition.run step new shortFrames).sent = shortFrames ∧
      ¬ Transition.Always step WithinDutyCycle new shortFrames := by
  have allSent :
      (Transition.run step new shortFrames).sent = shortFrames := by
    decide +kernel
  refine ⟨by decide, allSent, ?_⟩
  intro always
  have total := always.last 0
  rw [allSent] at total
  exact absurd total (by decide +kernel)

end AirtimeLog

end MeshCadet
