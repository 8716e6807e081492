import Mathlib.Algebra.Group.Nat.Defs
import MeshCadet.HistoryEntry
import MeshCadet.Transition

namespace MeshCadet

/-!
# Room notification suppression

After a login a room session drains its backlog: new posts are folded into one
pending aggregate instead of one notification each.  The phase decides when
that window closes.  The ledger at the end of the module counts what went in
and what came out over a whole run.
-/

/-- Outcome of decoding an inbound room push. -/
structure RoomPushOutcome where
  ackHash : Vector UInt8 4
  postTs : UInt32
  entry : Option HistoryEntry
  authorPubkeyPrefix : Vector UInt8 4
deriving Repr, DecidableEq

/-- What a caller should do about incoming room posts. -/
inductive RoomNotification where
  | none
  | aggregate (count : UInt32)
  | live
deriving Repr, DecidableEq

/-- Per-room session phase; times are milliseconds of uptime. -/
structure RoomSyncPhase where
  draining : Bool
  drainedCount : UInt32
  lastProgressMs : Nat
  closerFailed : Bool
  firstSuppressedMs : Option Nat
deriving Repr, DecidableEq

/-- How long a window without a sign of life from its closer may stay open. -/
def drainWindowStallTimeoutMs : Nat :=
  300000

/-- How long a post may stay suppressed, whatever the closer does. -/
def drainSuppressionCeilingMs : Nat :=
  60000

/-- Addition of 32-bit counters that stops at the largest value. -/
def saturatingAddU32
    (left right : UInt32) :
    UInt32 :=
  if left.toNat + right.toNat < 2 ^ 32 then
    left + right
  else
    0xFFFFFFFF

/-- Adding nothing never saturates. -/
theorem saturatingAddU32_zero
    (count : UInt32) :
    saturatingAddU32 count 0 = count := by
  have bound := count.toNat_lt
  simp [saturatingAddU32, bound]

namespace RoomSyncPhase

/-- A fresh session, right after login: the drain window starts open. -/
def newAfterLogin
    (nowMs : Nat) :
    RoomSyncPhase :=
  { draining := true
    drainedCount := 0
    lastProgressMs := nowMs
    closerFailed := false
    firstSuppressedMs := Option.none }

/-- Reopen the drain window on a completed login. -/
def noteRelogin
    (_phase : RoomSyncPhase)
    (nowMs : Nat) :
    RoomSyncPhase :=
  newAfterLogin nowMs

/-- Nothing shows that the round trip closing the window is alive. -/
def isStalled
    (phase : RoomSyncPhase)
    (nowMs : Nat) :
    Bool :=
  phase.closerFailed ||
    decide (drainWindowStallTimeoutMs ≤ nowMs - phase.lastProgressMs)

/-- The window has suppressed a post for longer than the ceiling. -/
def suppressedTooLong
    (phase : RoomSyncPhase)
    (nowMs : Nat) :
    Bool :=
  match phase.firstSuppressedMs with
  | some first => decide (drainSuppressionCeilingMs ≤ nowMs - first)
  | Option.none => false

/-- The window must close now. -/
def mustClose
    (phase : RoomSyncPhase)
    (nowMs : Nat) :
    Bool :=
  phase.isStalled nowMs || phase.suppressedTooLong nowMs

/-- Close the window and take the pending aggregate plus `extra` posts. -/
def takeAggregate
    (phase : RoomSyncPhase)
    (extra : UInt32) :
    RoomSyncPhase × UInt32 :=
  ({ phase with
      draining := false
      closerFailed := false
      firstSuppressedMs := Option.none
      drainedCount := 0 },
    saturatingAddU32 phase.drainedCount extra)

/-- Close a window that can wait no longer. -/
def forceClose
    (phase : RoomSyncPhase)
    (extra : UInt32) :
    RoomSyncPhase × RoomNotification :=
  let (closed, count) := phase.takeAggregate extra
  (closed, .aggregate count)

/-- Classify one genuinely new post. -/
def onPostReceived
    (phase : RoomSyncPhase)
    (nowMs : Nat) :
    RoomSyncPhase × RoomNotification :=
  if !phase.draining then
    (phase, .live)
  else if phase.mustClose nowMs then
    phase.forceClose 1
  else
    -- The release build's counter wraps here; only the closers saturate.
    ({ phase with
        firstSuppressedMs := phase.firstSuppressedMs.or (some nowMs)
        drainedCount := phase.drainedCount + 1 },
      .none)

/-- Re-evaluate both bounds, independently of any other event. -/
def onSchedulerTick
    (phase : RoomSyncPhase)
    (nowMs : Nat) :
    RoomSyncPhase × Option RoomNotification :=
  if !phase.draining || !phase.mustClose nowMs then
    (phase, Option.none)
  else
    match phase.forceClose 0 with
    | (closed, .aggregate 0) => (closed, Option.none)
    | (closed, notification) => (closed, some notification)

/-- A tick that must close a window with a backlog announces the backlog. -/
theorem onSchedulerTick_flushes
    {phase : RoomSyncPhase}
    {nowMs : Nat}
    (draining : phase.draining = true)
    (closing : phase.mustClose nowMs = true)
    (backlog : phase.drainedCount ≠ 0) :
    phase.onSchedulerTick nowMs =
      ((phase.takeAggregate 0).1,
        some (.aggregate phase.drainedCount)) := by
  have count : (phase.takeAggregate 0).2 = phase.drainedCount :=
    saturatingAddU32_zero phase.drainedCount
  simp only [onSchedulerTick, forceClose, draining, closing, count,
    Bool.not_true, Bool.or_self, Bool.false_eq_true, if_false]
  split
  · next closed flushed =>
    obtain ⟨rfl, sameCount⟩ := Prod.mk.inj flushed
    exact absurd (RoomNotification.aggregate.inj sameCount) backlog
  · next closed notification notEmpty flushed =>
    obtain ⟨rfl, rfl⟩ := Prod.mk.inj flushed
    rfl

/-- Feed a push's outcome in; a duplicate is not classified at all. -/
def onPushOutcome
    (phase : RoomSyncPhase)
    (outcome : RoomPushOutcome)
    (nowMs : Nat) :
    RoomSyncPhase × RoomNotification :=
  if outcome.entry.isNone then
    (phase, .none)
  else
    phase.onPostReceived nowMs

/-- Feed a keep-alive ACK's unsynced count in. -/
def onKeepAliveAck
    (phase : RoomSyncPhase)
    (unsyncedCount : UInt8)
    (nowMs : Nat) :
    RoomSyncPhase × Option RoomNotification :=
  if !phase.draining then
    (phase, Option.none)
  else
    let alive :=
      { phase with
        lastProgressMs := nowMs
        closerFailed := false }
    if unsyncedCount ≠ 0 then
      (alive, Option.none)
    else
      match alive.takeAggregate 0 with
      | (closed, 0) => (closed, Option.none)
      | (closed, count) => (closed, some (.aggregate count))

/-- Independent evidence shows that the window's closer has failed. -/
def noteCloserFailed
    (phase : RoomSyncPhase) :
    RoomSyncPhase × Option RoomNotification :=
  if !phase.draining then
    (phase, Option.none)
  else
    let failed := { phase with closerFailed := true }
    if failed.drainedCount = 0 then
      (failed, Option.none)
    else
      let (closed, count) := failed.takeAggregate 0
      (closed, some (.aggregate count))

end RoomSyncPhase

/-- One call on a room's sync phase. -/
inductive RoomSyncOp where
  | pushOutcome (outcome : RoomPushOutcome) (nowMs : Nat)
  | keepAliveAck (unsyncedCount : UInt8) (nowMs : Nat)
  | closerFailed
  | schedulerTick (nowMs : Nat)
  | relogin (nowMs : Nat)
deriving Repr, DecidableEq

namespace RoomSyncOp

/-- The call reports a genuinely new post. -/
def reportsNewPost : RoomSyncOp → Bool
  | pushOutcome outcome _ => outcome.entry.isSome
  | _ => false

/-- The uptime the call is made at, where it is given one. -/
def time? : RoomSyncOp → Option Nat
  | pushOutcome _ nowMs => some nowMs
  | keepAliveAck _ nowMs => some nowMs
  | closerFailed => none
  | schedulerTick nowMs => some nowMs
  | relogin nowMs => some nowMs

/-- The phase after the call and the notification it hands out. -/
def apply
    (op : RoomSyncOp)
    (phase : RoomSyncPhase) :
    RoomSyncPhase × Option RoomNotification :=
  match op with
  | pushOutcome outcome nowMs =>
      let (next, notification) := phase.onPushOutcome outcome nowMs
      (next, some notification)
  | keepAliveAck unsyncedCount nowMs =>
      phase.onKeepAliveAck unsyncedCount nowMs
  | closerFailed => phase.noteCloserFailed
  | schedulerTick nowMs => phase.onSchedulerTick nowMs
  | relogin nowMs => (phase.noteRelogin nowMs, none)

end RoomSyncOp

namespace RoomNotification

/-- Posts a notification tells the user about. -/
def announced : RoomNotification → Nat
  | none => 0
  | aggregate count => count.toNat
  | live => 1

end RoomNotification

namespace RoomSyncOp

/-- Posts announced by what a call hands out. -/
def announced
    (notification? : Option RoomNotification) :
    Nat :=
  (notification?.map RoomNotification.announced).getD 0

/--
What a call needs to lose no post: a login finds no post held back, and a
window that takes one more post in has room for it in its counter.
-/
def LosesNothing
    (op : RoomSyncOp)
    (phase : RoomSyncPhase) :
    Prop :=
  match op with
  | relogin _ =>
      phase.drainedCount = 0
  | pushOutcome outcome _ =>
      outcome.entry.isSome = true →
      phase.draining = true →
        phase.drainedCount ≠ 0xFFFFFFFF
  | _ =>
      True

/-- The posts going into a call are the ones it announces or still holds. -/
def Balanced
    (op : RoomSyncOp)
    (phase : RoomSyncPhase) :
    Prop :=
  phase.drainedCount.toNat + (if op.reportsNewPost then 1 else 0) =
    announced (op.apply phase).2 +
      (op.apply phase).1.drainedCount.toNat

/-- A counter below its largest value counts one more post exactly. -/
theorem toNat_add_one_iff
    (count : UInt32) :
    (count + 1).toNat = count.toNat + 1 ↔ count ≠ 0xFFFFFFFF := by
  have bound := count.toNat_lt
  rw [Ne, ← UInt32.toNat_inj, UInt32.toNat_add]
  simp
  omega

/-- Saturation loses the added post exactly when the counter is full. -/
theorem saturatingAddU32_one_iff
    (count : UInt32) :
    (saturatingAddU32 count 1).toNat = count.toNat + 1 ↔
      count ≠ 0xFFFFFFFF := by
  have bound := count.toNat_lt
  by_cases room : count.toNat + (1 : UInt32).toNat < 2 ^ 32
  · rw [saturatingAddU32, if_pos room]
    exact toNat_add_one_iff count
  · have full : count.toNat = 4294967295 := by
      simp at room
      omega
    simp [saturatingAddU32, ← UInt32.toNat_inj, full]

/-- A push is balanced unless it fills a full counter. -/
theorem pushOutcome_balanced_iff
    (outcome : RoomPushOutcome)
    (nowMs : Nat)
    (phase : RoomSyncPhase) :
    Balanced (pushOutcome outcome nowMs) phase ↔
      LosesNothing (pushOutcome outcome nowMs) phase := by
  cases entry : outcome.entry with
  | none =>
      simp [Balanced, LosesNothing, apply, announced, reportsNewPost,
        RoomSyncPhase.onPushOutcome, RoomNotification.announced, entry]
  | some post =>
      cases draining : phase.draining with
      | false =>
          simp [Balanced, LosesNothing, apply, announced,
            reportsNewPost, RoomSyncPhase.onPushOutcome,
            RoomSyncPhase.onPostReceived,
            RoomNotification.announced, entry, draining]
          omega
      | true =>
          cases closing : phase.mustClose nowMs with
          | true =>
              simpa [Balanced, LosesNothing, apply, announced,
                reportsNewPost, RoomSyncPhase.onPushOutcome,
                RoomSyncPhase.onPostReceived,
                RoomSyncPhase.forceClose,
                RoomSyncPhase.takeAggregate,
                RoomNotification.announced, entry, draining,
                closing, eq_comm] using
                saturatingAddU32_one_iff phase.drainedCount
          | false =>
              simpa [Balanced, LosesNothing, apply, announced,
                reportsNewPost, RoomSyncPhase.onPushOutcome,
                RoomSyncPhase.onPostReceived,
                RoomNotification.announced, entry, draining,
                closing, eq_comm] using
                toNat_add_one_iff phase.drainedCount

/-- A keep-alive ACK is balanced. -/
theorem keepAliveAck_balanced
    (unsyncedCount : UInt8)
    (nowMs : Nat)
    (phase : RoomSyncPhase) :
    Balanced (keepAliveAck unsyncedCount nowMs) phase := by
  cases draining : phase.draining with
  | false =>
      simp [Balanced, apply, announced, reportsNewPost,
        RoomSyncPhase.onKeepAliveAck, draining]
  | true =>
      by_cases synced : unsyncedCount = 0
      · by_cases empty : phase.drainedCount = 0
        · simp [Balanced, apply, announced, reportsNewPost,
            RoomSyncPhase.onKeepAliveAck,
            RoomSyncPhase.takeAggregate, saturatingAddU32_zero,
            draining, synced, empty]
        · simp [Balanced, apply, announced, reportsNewPost,
            RoomSyncPhase.onKeepAliveAck,
            RoomSyncPhase.takeAggregate, saturatingAddU32_zero,
            RoomNotification.announced, draining, synced]
      · simp [Balanced, apply, announced, reportsNewPost,
          RoomSyncPhase.onKeepAliveAck, draining, synced]

/-- Giving up on the closer is balanced. -/
theorem closerFailed_balanced
    (phase : RoomSyncPhase) :
    Balanced closerFailed phase := by
  cases draining : phase.draining with
  | false =>
      simp [Balanced, apply, announced, reportsNewPost,
        RoomSyncPhase.noteCloserFailed, draining]
  | true =>
      by_cases empty : phase.drainedCount = 0
      · simp [Balanced, apply, announced, reportsNewPost,
          RoomSyncPhase.noteCloserFailed, draining, empty]
      · simp [Balanced, apply, announced, reportsNewPost,
          RoomSyncPhase.noteCloserFailed,
          RoomSyncPhase.takeAggregate, saturatingAddU32_zero,
          RoomNotification.announced, draining, empty]

/-- A scheduler tick is balanced. -/
theorem schedulerTick_balanced
    (nowMs : Nat)
    (phase : RoomSyncPhase) :
    Balanced (schedulerTick nowMs) phase := by
  cases draining : phase.draining with
  | false =>
      simp [Balanced, apply, announced, reportsNewPost,
        RoomSyncPhase.onSchedulerTick, draining]
  | true =>
      cases closing : phase.mustClose nowMs with
      | false =>
          simp [Balanced, apply, announced, reportsNewPost,
            RoomSyncPhase.onSchedulerTick, closing]
      | true =>
          by_cases empty : phase.drainedCount = 0
          · simp [Balanced, apply, announced, reportsNewPost,
              RoomSyncPhase.onSchedulerTick,
              RoomSyncPhase.forceClose,
              RoomSyncPhase.takeAggregate, saturatingAddU32_zero,
              draining, closing, empty]
          · have flushed :=
              RoomSyncPhase.onSchedulerTick_flushes
                draining closing empty
            simp [Balanced, apply, announced, reportsNewPost,
              RoomSyncPhase.takeAggregate,
              RoomNotification.announced, flushed]

/-- A login is balanced exactly when no post is held back. -/
theorem relogin_balanced_iff
    (nowMs : Nat)
    (phase : RoomSyncPhase) :
    Balanced (relogin nowMs) phase ↔
      LosesNothing (relogin nowMs) phase := by
  simp [Balanced, LosesNothing, apply, announced, reportsNewPost,
    RoomSyncPhase.noteRelogin, RoomSyncPhase.newAfterLogin,
    ← UInt32.toNat_inj]

/-- A call is balanced exactly when it meets its condition. -/
theorem balanced_iff
    (op : RoomSyncOp)
    (phase : RoomSyncPhase) :
    Balanced op phase ↔ LosesNothing op phase := by
  cases op with
  | pushOutcome outcome nowMs =>
      exact pushOutcome_balanced_iff outcome nowMs phase
  | keepAliveAck unsyncedCount nowMs =>
      exact iff_of_true
        (keepAliveAck_balanced unsyncedCount nowMs phase) trivial
  | closerFailed =>
      exact iff_of_true (closerFailed_balanced phase) trivial
  | schedulerTick nowMs =>
      exact iff_of_true (schedulerTick_balanced nowMs phase) trivial
  | relogin nowMs =>
      exact relogin_balanced_iff nowMs phase

end RoomSyncOp

/-- A phase together with what its run has reported and announced so far. -/
structure NotificationLedger where
  phase : RoomSyncPhase
  newPosts : Nat
  announced : Nat
deriving Repr, DecidableEq

namespace NotificationLedger

/-- The ledger of a session that has just logged in. -/
def login
    (nowMs : Nat) :
    NotificationLedger :=
  { phase := RoomSyncPhase.newAfterLogin nowMs
    newPosts := 0
    announced := 0 }

/-- Make one call and book what it reports and what it announces. -/
def step
    (ledger : NotificationLedger)
    (op : RoomSyncOp) :
    NotificationLedger :=
  { phase := (op.apply ledger.phase).1
    newPosts :=
      ledger.newPosts + if op.reportsNewPost then 1 else 0
    announced :=
      ledger.announced +
        RoomSyncOp.announced (op.apply ledger.phase).2 }

/--
Conservation: every new post was announced, live or in an aggregate, or is
still held by the phase.
-/
def Conserved
    (ledger : NotificationLedger) :
    Prop :=
  ledger.newPosts =
    ledger.announced + ledger.phase.drainedCount.toNat

instance
    (ledger : NotificationLedger) :
    Decidable ledger.Conserved :=
  inferInstanceAs (Decidable (_ = _))

/-- From a conserved ledger, exactly the balanced calls conserve. -/
theorem step_conserved_iff
    (ledger : NotificationLedger)
    (op : RoomSyncOp)
    (conserved : ledger.Conserved) :
    (ledger.step op).Conserved ↔ op.LosesNothing ledger.phase := by
  rw [← RoomSyncOp.balanced_iff]
  simp only [Conserved, step, RoomSyncOp.Balanced] at *
  omega

/--
A run from a login conserves notifications in every state it reaches exactly
when each of its calls meets its condition.
-/
theorem notifications_conserved_iff
    (loginMs : Nat)
    (ops : List RoomSyncOp) :
    Transition.Always step Conserved (login loginMs) ops ↔
      Transition.Along step
        (fun ledger op => op.LosesNothing ledger.phase)
        (login loginMs) ops :=
  Transition.always_iff_along step_conserved_iff rfl

/-- A new post that arrived while the window was open. -/
def suppressedPost : RoomPushOutcome :=
  { ackHash := Vector.replicate 4 0
    postTs := 1700000000
    entry := some {
      senderHash := 0x5A
      msgType := .grpTxt
      timestamp := 1700000000
      text := Vector.replicate 64 0
      textLen := 0 }
    authorPubkeyPrefix := Vector.replicate 4 0 }

/--
A login while a post is held back loses the post: it is neither announced nor
held any more.
-/
theorem relogin_loses_post :
    ¬ ∀ loginMs ops,
      List.Pairwise (· ≤ ·)
        (loginMs :: ops.filterMap RoomSyncOp.time?) →
      (Transition.run step (login loginMs) ops).Conserved := by
  intro always
  have conserved :=
    always 0
      [.pushOutcome suppressedPost 5000, .relogin 20000]
      (by decide)
  exact absurd conserved (by decide)

end NotificationLedger

end MeshCadet
