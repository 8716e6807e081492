import Mathlib.Algebra.Group.Nat.Defs
import MeshCadet.RoomSyncPhase

namespace MeshCadet

/-!
# The suppression ceiling

A drain window remembers when it absorbed its first post, and nothing but its
closing releases that time.  The window below keeps the arrival times of the
posts it has absorbed beside the phase, so that the bound on how long they are
held can be stated: the first tick or new post one ceiling after the first
absorbed post closes the window.
-/

namespace RoomSyncOp

/-- The call reports a completed login. -/
def isRelogin : RoomSyncOp → Bool
  | relogin _ => true
  | _ => false

/-- When the call re-evaluates the bounds: a tick or a new post. -/
def checksAt : RoomSyncOp → Option Nat
  | schedulerTick nowMs => some nowMs
  | pushOutcome outcome nowMs =>
      if outcome.entry.isSome then some nowMs else none
  | _ => none

/-- When the call reports a new post. -/
def newPostAt : RoomSyncOp → Option Nat
  | pushOutcome outcome nowMs =>
      if outcome.entry.isSome then some nowMs else none
  | _ => none

end RoomSyncOp

/-- A sync phase and the arrival times of the posts its window has absorbed. -/
structure DrainWindow where
  phase : RoomSyncPhase
  absorbed : List Nat
deriving Repr, DecidableEq

namespace DrainWindow

/-- The window of a session that has just logged in. -/
def opened
    (nowMs : Nat) :
    DrainWindow :=
  { phase := RoomSyncPhase.newAfterLogin nowMs
    absorbed := [] }

/-- Make one call; a closed window and a new session hold nothing. -/
def step
    (window : DrainWindow)
    (op : RoomSyncOp) :
    DrainWindow :=
  let next := (op.apply window.phase).1
  { phase := next
    absorbed :=
      if next.draining && !op.isRelogin then
        window.absorbed ++ op.newPostAt.toList
      else
        [] }

/-- The phase keeps the number and the first time of the absorbed posts. -/
structure Sound
    (window : DrainWindow) :
    Prop where
  first :
    window.phase.firstSuppressedMs = window.absorbed.head?
  count :
    window.phase.drainedCount.toNat = window.absorbed.length % 2 ^ 32
  closed :
    window.phase.draining = false → window.absorbed = []

theorem sound_opened
    (nowMs : Nat) :
    (opened nowMs).Sound :=
  ⟨rfl, rfl, fun _ => rfl⟩

/-- What a call between two logins does to the phase. -/
inductive Effect
    (op : RoomSyncOp)
    (before after : RoomSyncPhase)
    (notification? : Option RoomNotification) :
    Prop where
  | staysClosed
      (wasClosed : before.draining = false)
      (unchanged : after = before)
      (live : op.newPostAt.isSome → notification? = some .live)
  | staysOpen
      (wasOpen : before.draining = true)
      (isOpen : after.draining = true)
      (noPost : op.newPostAt = none)
      (sameFirst : after.firstSuppressedMs = before.firstSuppressedMs)
      (sameCount : after.drainedCount = before.drainedCount)
      (inTime : ∀ nowMs,
        op.checksAt = some nowMs → before.suppressedTooLong nowMs = false)
  | absorbs
      (nowMs : Nat)
      (wasOpen : before.draining = true)
      (isOpen : after.draining = true)
      (post : op.newPostAt = some nowMs)
      (first : after.firstSuppressedMs =
        before.firstSuppressedMs.or (some nowMs))
      (oneMore : after.drainedCount = before.drainedCount + 1)
      (inTime : before.suppressedTooLong nowMs = false)
  | closes
      (wasOpen : before.draining = true)
      (isClosed : after.draining = false)
      (noFirst : after.firstSuppressedMs = none)
      (empty : after.drainedCount = 0)

/-- A repeated push changes nothing; a new one is announced by a closed window and
absorbed by an open one, unless it is the call that closes it. -/
theorem pushOutcome_effect
    (outcome : RoomPushOutcome)
    (nowMs : Nat)
    (phase : RoomSyncPhase) :
    Effect (.pushOutcome outcome nowMs) phase
      (phase.onPushOutcome outcome nowMs).1
      (some (phase.onPushOutcome outcome nowMs).2) := by
  cases draining : phase.draining with
  | false =>
      apply Effect.staysClosed draining
      · by_cases duplicate : outcome.entry.isNone <;>
          simp [RoomSyncPhase.onPushOutcome,
            RoomSyncPhase.onPostReceived, draining, duplicate]
      · intro isNew
        cases entry : outcome.entry with
        | none => simp [RoomSyncOp.newPostAt, entry] at isNew
        | some post =>
            simp [RoomSyncPhase.onPushOutcome,
              RoomSyncPhase.onPostReceived, draining, entry]
  | true =>
      cases entry : outcome.entry with
      | none =>
          apply Effect.staysOpen draining <;>
            simp [RoomSyncPhase.onPushOutcome, RoomSyncOp.newPostAt,
              RoomSyncOp.checksAt, draining, entry]
      | some post =>
          cases closing : phase.mustClose nowMs with
          | true =>
              apply Effect.closes draining <;>
                simp [RoomSyncPhase.onPushOutcome,
                  RoomSyncPhase.onPostReceived,
                  RoomSyncPhase.forceClose,
                  RoomSyncPhase.takeAggregate, draining, entry, closing]
          | false =>
              have inTime : phase.suppressedTooLong nowMs = false :=
                (Bool.or_eq_false_iff.mp closing).2
              apply Effect.absorbs nowMs draining <;>
                simp [RoomSyncPhase.onPushOutcome,
                  RoomSyncPhase.onPostReceived, RoomSyncOp.newPostAt,
                  draining, entry, closing, inTime]

/-- A keep-alive's acknowledgement closes the window when nothing is unsynced. -/
theorem keepAliveAck_effect
    (unsyncedCount : UInt8)
    (nowMs : Nat)
    (phase : RoomSyncPhase) :
    Effect (.keepAliveAck unsyncedCount nowMs) phase
      (phase.onKeepAliveAck unsyncedCount nowMs).1
      (phase.onKeepAliveAck unsyncedCount nowMs).2 := by
  cases draining : phase.draining with
  | false =>
      exact .staysClosed draining
        (by simp [RoomSyncPhase.onKeepAliveAck, draining])
        (by simp [RoomSyncOp.newPostAt])
  | true =>
      by_cases synced : unsyncedCount = 0
      · have closed :
            (phase.onKeepAliveAck unsyncedCount nowMs).1 =
              ({ phase with
                  lastProgressMs := nowMs
                  closerFailed := false }.takeAggregate 0).1 := by
          simp only [RoomSyncPhase.onKeepAliveAck, draining, synced,
            ne_eq, not_true_eq_false, if_false, Bool.not_true,
            Bool.false_eq_true]
          split <;> next taken => rw [taken]
        apply Effect.closes draining <;>
          rw [closed] <;> rfl
      · apply Effect.staysOpen draining <;>
          simp [RoomSyncPhase.onKeepAliveAck, RoomSyncOp.newPostAt,
            RoomSyncOp.checksAt, draining, synced]

/-- A failed closer closes the window when posts are held back. -/
theorem closerFailed_effect
    (phase : RoomSyncPhase) :
    Effect .closerFailed phase phase.noteCloserFailed.1
      phase.noteCloserFailed.2 := by
  cases draining : phase.draining with
  | false =>
      exact .staysClosed draining
        (by simp [RoomSyncPhase.noteCloserFailed, draining])
        (by simp [RoomSyncOp.newPostAt])
  | true =>
      by_cases empty : phase.drainedCount = 0
      · apply Effect.staysOpen draining <;>
          simp [RoomSyncPhase.noteCloserFailed, RoomSyncOp.newPostAt,
            RoomSyncOp.checksAt, draining, empty]
      · apply Effect.closes draining <;>
          simp [RoomSyncPhase.noteCloserFailed,
            RoomSyncPhase.takeAggregate, draining, empty]

/-- A tick closes the window when one of its bounds is passed. -/
theorem schedulerTick_effect
    (nowMs : Nat)
    (phase : RoomSyncPhase) :
    Effect (.schedulerTick nowMs) phase
      (phase.onSchedulerTick nowMs).1
      (phase.onSchedulerTick nowMs).2 := by
  cases draining : phase.draining with
  | false =>
      exact .staysClosed draining
        (by simp [RoomSyncPhase.onSchedulerTick, draining])
        (by simp [RoomSyncOp.newPostAt])
  | true =>
      cases closing : phase.mustClose nowMs with
      | true =>
          have closed :
              (phase.onSchedulerTick nowMs).1 =
                (phase.takeAggregate 0).1 := by
            simp only [RoomSyncPhase.onSchedulerTick,
              RoomSyncPhase.forceClose, draining, closing,
              Bool.not_true, Bool.or_self, Bool.false_eq_true,
              if_false]
            split <;> next taken => exact (Prod.mk.inj taken).1.symm
          apply Effect.closes draining <;>
            rw [closed] <;> rfl
      | false =>
          have inTime : phase.suppressedTooLong nowMs = false :=
            (Bool.or_eq_false_iff.mp closing).2
          apply Effect.staysOpen draining <;>
            simp [RoomSyncPhase.onSchedulerTick, RoomSyncOp.newPostAt,
              RoomSyncOp.checksAt, draining, closing, inTime]

/-- Every call between two logins has one of the four effects. -/
theorem apply_effect
    {op : RoomSyncOp}
    (between : op.isRelogin = false)
    (phase : RoomSyncPhase) :
    Effect op phase (op.apply phase).1 (op.apply phase).2 := by
  cases op with
  | relogin nowMs => cases between
  | pushOutcome outcome nowMs =>
      exact pushOutcome_effect outcome nowMs phase
  | keepAliveAck unsyncedCount nowMs =>
      exact keepAliveAck_effect unsyncedCount nowMs phase
  | closerFailed =>
      exact closerFailed_effect phase
  | schedulerTick nowMs =>
      exact schedulerTick_effect nowMs phase

/-- Every call between two logins keeps the window sound. -/
theorem Sound.step
    {window : DrainWindow}
    (sound : window.Sound)
    {op : RoomSyncOp}
    (between : op.isRelogin = false) :
    (window.step op).Sound := by
  cases apply_effect between window.phase with
  | staysClosed wasClosed unchanged live =>
      have nothing := sound.closed wasClosed
      have sameWindow : window.step op = window := by
        obtain ⟨phase, absorbed⟩ := window
        simp_all [DrainWindow.step]
      rwa [sameWindow]
  | staysOpen wasOpen isOpen noPost sameFirst sameCount inTime =>
      have sameAbsorbed : (window.step op).absorbed = window.absorbed := by
        simp [DrainWindow.step, isOpen, between, noPost]
      constructor
      · rw [sameAbsorbed]
        exact sameFirst.trans sound.first
      · rw [sameAbsorbed]
        exact (congrArg UInt32.toNat sameCount).trans sound.count
      · intro isClosed
        cases isOpen.symm.trans isClosed
  | absorbs nowMs wasOpen isOpen post first oneMore inTime =>
      have longer :
          (window.step op).absorbed = window.absorbed ++ [nowMs] := by
        simp [DrainWindow.step, isOpen, between, post]
      constructor
      · rw [longer]
        refine first.trans ?_
        rw [sound.first]
        cases window.absorbed <;> rfl
      · rw [longer]
        refine (congrArg UInt32.toNat oneMore).trans ?_
        rw [UInt32.toNat_add, sound.count]
        simp
      · intro isClosed
        cases isOpen.symm.trans isClosed
  | closes wasOpen isClosed noFirst empty =>
      have nothing : (window.step op).absorbed = [] := by
        simp [DrainWindow.step, isClosed]
      constructor
      · rw [nothing]
        exact noFirst
      · rw [nothing]
        exact congrArg UInt32.toNat empty
      · intro _
        exact nothing

theorem sound_run
    (loginMs : Nat)
    {ops : List RoomSyncOp}
    (between : ∀ op ∈ ops, op.isRelogin = false) :
    (Transition.run step (opened loginMs) ops).Sound :=
  (@Transition.always_of_along _ _ step Sound
    (fun _ op => op.isRelogin = false)
    (fun _ _ sound notLogin => sound.step notLogin) _ _
    (sound_opened loginMs)
    (Transition.along_of_forall between _)).last

/-- A window holds posts that arrived in its run, in their order. -/
theorem absorbed_sublist
    (window : DrainWindow)
    (ops : List RoomSyncOp) :
    (Transition.run step window ops).absorbed.Sublist
      (window.absorbed ++ ops.filterMap RoomSyncOp.newPostAt) := by
  induction ops generalizing window with
  | nil =>
      simp
  | cons op rest inductionHypothesis =>
      have stepped :
          (window.step op).absorbed.Sublist
            (window.absorbed ++ op.newPostAt.toList) := by
        simp only [step]
        split
        · exact List.Sublist.refl _
        · exact List.nil_sublist _
      have collected :
          (op :: rest).filterMap RoomSyncOp.newPostAt =
            op.newPostAt.toList ++
              rest.filterMap RoomSyncOp.newPostAt := by
        cases post : op.newPostAt <;> simp [post]
      rw [collected, ← List.append_assoc]
      exact (inductionHypothesis (window.step op)).trans
        (stepped.append (List.Sublist.refl _))

/-- New posts arrive at times of calls. -/
theorem newPosts_sublist
    (ops : List RoomSyncOp) :
    (ops.filterMap RoomSyncOp.newPostAt).Sublist
      (ops.filterMap RoomSyncOp.time?) := by
  induction ops with
  | nil =>
      simp
  | cons op rest inductionHypothesis =>
      cases op with
      | pushOutcome outcome nowMs =>
          cases entry : outcome.entry with
          | none =>
              simpa [List.filterMap_cons, RoomSyncOp.newPostAt,
                RoomSyncOp.time?, entry] using inductionHypothesis.cons _
          | some post =>
              simpa [List.filterMap_cons, RoomSyncOp.newPostAt,
                RoomSyncOp.time?, entry] using inductionHypothesis
      | keepAliveAck unsyncedCount nowMs =>
          exact inductionHypothesis.cons _
      | closerFailed =>
          exact inductionHypothesis
      | schedulerTick nowMs =>
          exact inductionHypothesis.cons _
      | relogin nowMs =>
          exact inductionHypothesis.cons _

/-- A closed window stays closed until the next login. -/
theorem closed_run
    {window : DrainWindow}
    (isClosed : window.phase.draining = false)
    {ops : List RoomSyncOp}
    (between : ∀ op ∈ ops, op.isRelogin = false) :
    (Transition.run step window ops).phase.draining = false := by
  refine
    (@Transition.always_of_along _ _ step
      (fun current => current.phase.draining = false)
      (fun _ op => op.isRelogin = false)
      ?_ _ _ isClosed (Transition.along_of_forall between _)).last
  intro current op currentClosed notLogin
  cases apply_effect notLogin current.phase with
  | staysClosed wasClosed unchanged live =>
      exact (congrArg RoomSyncPhase.draining unchanged).trans wasClosed
  | staysOpen wasOpen | absorbs nowMs wasOpen | closes wasOpen =>
      cases wasOpen.symm.trans currentClosed

/-- One ceiling after the first absorbed post, a check closes the window. -/
theorem Sound.closes_at_ceiling
    {window : DrainWindow}
    (sound : window.Sound)
    {op : RoomSyncOp}
    (between : op.isRelogin = false)
    {first nowMs : Nat}
    (isFirst : window.absorbed.head? = some first)
    (checks : op.checksAt = some nowMs)
    (late : first + drainSuppressionCeilingMs ≤ nowMs) :
    (window.step op).phase.draining = false := by
  have tooLong : window.phase.suppressedTooLong nowMs = true := by
    simp only [RoomSyncPhase.suppressedTooLong, sound.first, isFirst,
      decide_eq_true_eq]
    omega
  cases apply_effect between window.phase with
  | staysClosed wasClosed unchanged live =>
      exact (congrArg RoomSyncPhase.draining unchanged).trans wasClosed
  | staysOpen wasOpen isOpen noPost sameFirst sameCount inTime =>
      cases tooLong.symm.trans (inTime nowMs checks)
  | absorbs postMs wasOpen isOpen post first oneMore inTime =>
      have samePost : postMs = nowMs := by
        cases op with
        | pushOutcome outcome arrivalMs =>
            exact Option.some.inj (post.symm.trans checks)
        | keepAliveAck | closerFailed | schedulerTick | relogin =>
            cases post
      rw [samePost] at inTime
      cases tooLong.symm.trans inTime
  | closes wasOpen isClosed noFirst empty =>
      exact isClosed

/-- A call that closes the window announces all it held. -/
theorem Sound.announces_on_close
    {window : DrainWindow}
    (sound : window.Sound)
    {op : RoomSyncOp}
    (between : op.isRelogin = false)
    (wasOpen : window.phase.draining = true)
    (isClosed : (window.step op).phase.draining = false)
    (fits : window.absorbed.length + 1 < 2 ^ 32) :
    RoomSyncOp.announced (op.apply window.phase).2 =
      window.absorbed.length + op.newPostAt.toList.length := by
  have counted : window.phase.drainedCount.toNat =
      window.absorbed.length := by
    rw [sound.count, Nat.mod_eq_of_lt (by omega)]
  have notFull : window.phase.drainedCount ≠ 0xFFFFFFFF := by
    intro full
    rw [full] at counted
    simp at counted
    omega
  have losesNothing : op.LosesNothing window.phase := by
    cases op with
    | relogin nowMs =>
        cases between
    | pushOutcome outcome nowMs =>
        exact fun _ _ => notFull
    | keepAliveAck | closerFailed | schedulerTick =>
        trivial
  have balanced :=
    (RoomSyncOp.balanced_iff op window.phase).mpr losesNothing
  have isNew :
      (if op.reportsNewPost then 1 else 0) =
        op.newPostAt.toList.length := by
    cases op with
    | pushOutcome outcome nowMs =>
        cases entry : outcome.entry <;>
          simp [RoomSyncOp.reportsNewPost, RoomSyncOp.newPostAt, entry]
    | keepAliveAck | closerFailed | schedulerTick | relogin =>
        rfl
  have nothingLeft : (op.apply window.phase).1.drainedCount = 0 := by
    cases apply_effect between window.phase with
    | staysClosed wasClosed =>
        cases wasOpen.symm.trans wasClosed
    | staysOpen _ isOpen | absorbs _ _ isOpen =>
        cases isOpen.symm.trans isClosed
    | closes _ _ _ empty =>
        exact empty
  rw [RoomSyncOp.Balanced, isNew, counted, nothingLeft] at balanced
  simpa using balanced.symm

/--
Between two logins: one ceiling after the first post it holds, the first tick or
new post closes the window; the call that closes it announces every held post
and its own; and from then on every new post is announced at once.
-/
theorem suppression_is_bounded
    (loginMs : Nat)
    (ops : List RoomSyncOp)
    (between : ∀ op ∈ ops, op.isRelogin = false)
    (ordered :
      List.Pairwise (· ≤ ·)
        (loginMs :: ops.filterMap RoomSyncOp.time?))
    (earlier : List RoomSyncOp)
    (op : RoomSyncOp)
    (later : List RoomSyncOp)
    (split : ops = earlier ++ op :: later) :
    let before := Transition.run step (opened loginMs) earlier
    let after := before.step op
    (∀ first,
      before.absorbed.head? = some first →
        (∀ arrivalMs ∈ before.absorbed, first ≤ arrivalMs) ∧
          ∀ nowMs,
            op.checksAt = some nowMs →
            first + drainSuppressionCeilingMs ≤ nowMs →
              after.phase.draining = false) ∧
      (before.phase.draining = true →
        after.phase.draining = false →
          after.absorbed = [] ∧
            (before.absorbed.length + 1 < 2 ^ 32 →
              RoomSyncOp.announced (op.apply before.phase).2 =
                before.absorbed.length + op.newPostAt.toList.length)) ∧
      (after.phase.draining = false →
        ∀ middle push rest,
          later = middle ++ push :: rest →
          push.newPostAt.isSome →
            (push.apply
              (Transition.run step after middle).phase).2 =
              some .live) := by
  intro before after
  have opBetween : op.isRelogin = false :=
    between op (by simp [split])
  have sound : before.Sound :=
    sound_run loginMs (fun earlierOp member =>
      between earlierOp (by simp [split, member]))
  refine ⟨?_, ?_, ?_⟩
  · intro first isFirst
    refine ⟨?_, fun nowMs => sound.closes_at_ceiling opBetween isFirst⟩
    have inOrder : before.absorbed.Pairwise (· ≤ ·) := by
      refine List.Pairwise.sublist ?_ (List.pairwise_cons.mp ordered).2
      have held :
          before.absorbed.Sublist
            (earlier.filterMap RoomSyncOp.newPostAt) :=
        absorbed_sublist (opened loginMs) earlier
      refine (held.trans (newPosts_sublist earlier)).trans ?_
      rw [split, List.filterMap_append]
      exact List.sublist_append_left _ _
    intro arrivalMs member
    cases held : before.absorbed with
    | nil =>
        rw [held] at member
        cases member
    | cons oldest others =>
        rw [held] at inOrder member isFirst
        cases isFirst
        rcases List.mem_cons.mp member with rfl | isOther
        · exact Nat.le_refl _
        · exact (List.pairwise_cons.mp inOrder).1 arrivalMs isOther
  · intro wasOpen isClosed
    exact ⟨(sound.step opBetween).closed isClosed,
      sound.announces_on_close opBetween wasOpen isClosed⟩
  · intro isClosed middle push rest isLater isNew
    have stillClosed :=
      closed_run isClosed (fun middleOp (member : middleOp ∈ middle) =>
        between middleOp (by simp [split, isLater, member]))
    cases apply_effect (between push (by simp [split, isLater]))
        (Transition.run step after middle).phase with
    | staysClosed _ _ live =>
        exact live isNew
    | staysOpen wasOpen | absorbs _ wasOpen | closes wasOpen =>
        cases wasOpen.symm.trans stillClosed

/-- One post is held back and announced by the tick one ceiling later. -/
theorem suppression_is_bounded_example :
    let before :=
      Transition.run step (opened 1000)
        [.pushOutcome NotificationLedger.suppressedPost 5000]
    before.absorbed = [5000] ∧
      (before.step (.schedulerTick 65000)).phase.draining = false :=
  have bounded :=
    suppression_is_bounded 1000
      [.pushOutcome NotificationLedger.suppressedPost 5000,
        .schedulerTick 65000]
      (by decide) (by decide)
      [.pushOutcome NotificationLedger.suppressedPost 5000]
      (.schedulerTick 65000) [] rfl
  ⟨by decide, (bounded.1 5000 (by decide)).2 65000 rfl (by decide)⟩

/--
A ceiling after the login a new post may still be held back, and a ceiling after
the first held post the next one joins the aggregate that announces both.
-/
theorem latePosts_areNotLive :
    (¬ ∀ loginMs ops,
      (∀ op ∈ ops, op.isRelogin = false) →
      List.Pairwise (· ≤ ·)
        (loginMs :: ops.filterMap RoomSyncOp.time?) →
      ∀ earlier outcome nowMs later,
        ops = earlier ++ .pushOutcome outcome nowMs :: later →
        outcome.entry.isSome = true →
        loginMs + drainSuppressionCeilingMs ≤ nowMs →
          ((RoomSyncOp.pushOutcome outcome nowMs).apply
            (Transition.run step (opened loginMs) earlier).phase).2 =
              some .live) ∧
      ¬ ∀ loginMs ops,
        (∀ op ∈ ops, op.isRelogin = false) →
        List.Pairwise (· ≤ ·)
          (loginMs :: ops.filterMap RoomSyncOp.time?) →
        ∀ earlier outcome nowMs later first,
          ops = earlier ++ .pushOutcome outcome nowMs :: later →
          outcome.entry.isSome = true →
          (Transition.run step (opened loginMs)
            earlier).absorbed.head? = some first →
          first + drainSuppressionCeilingMs ≤ nowMs →
            ((RoomSyncOp.pushOutcome outcome nowMs).apply
              (Transition.run step (opened loginMs) earlier).phase).2 =
                some .live := by
  constructor
  · intro always
    have live :=
      always 0
        [.pushOutcome NotificationLedger.suppressedPost 70000]
        (by decide) (by decide) []
        NotificationLedger.suppressedPost 70000 [] rfl rfl (by decide)
    exact absurd live (by decide)
  · intro always
    have live :=
      always 0
        [.pushOutcome NotificationLedger.suppressedPost 10,
          .pushOutcome NotificationLedger.suppressedPost 60010]
        (by decide) (by decide)
        [.pushOutcome NotificationLedger.suppressedPost 10]
        NotificationLedger.suppressedPost 60010 [] 10 rfl rfl
        (by decide) (by decide)
    exact absurd live (by decide)

end DrainWindow

end MeshCadet
