import MeshCadet.UiLights

namespace MeshCadet

/-!
# The lights over runs

After every turn of every run in which the writes are taken the lights are settled, and
they are settled since the first message that came while the screen slept.  A user who
looks at the keyboard from then on sees every phase of every burst, as long as the
turns are closer together than the phases are long.
-/

namespace UiRuntime

/-- One turn, with the time since which the keyboard blinks. -/
def watch
    (expand : String → String)
    (state : UiRuntime × Option Nat)
    (turn : UiTurn) :
    UiRuntime × Option Nat :=
  let next := state.1.step expand turn
  (next, state.1.sinceTurn next state.2 turn)

/-- A run from the start of the device. -/
def watched
    (expand : String → String)
    (isProvisioned : Bool)
    (turns : List UiTurn) :
    UiRuntime × Option Nat :=
  turns.foldl (watch expand) (new isProvisioned, none)

variable {expand : String → String} {isProvisioned : Bool}

/-- One more turn of a run. -/
theorem watched_append
    (turns rest : List UiTurn) :
    watched expand isProvisioned (turns ++ rest) =
      rest.foldl (watch expand) (watched expand isProvisioned turns) :=
  List.foldl_append

/-- The lights over a run. -/
theorem lights_watched
    {works : UiWrite → Prop}
    {turns : List UiTurn}
    (ordered : InOrder turns)
    (takes : ∀ turn ∈ turns, turn.hardware.Takes works) :
    (watched expand isProvisioned turns).1.app.posted = [] ∧
      (watched expand isProvisioned turns).1.Lights works
        (lastMs turns) (watched expand isProvisioned turns).2 := by
  induction turns using List.reverseRecOn with
  | nil =>
      exact ⟨rfl, lights_new isProvisioned 0⟩
  | append_singleton turns turn inductionHypothesis =>
      obtain ⟨earlier, later⟩ := ordered.init
      obtain ⟨silent, lights⟩ :=
        inductionHypothesis earlier fun turn member =>
          takes turn (List.mem_append_left _ member)
      have lastTakes :=
        takes turn (List.mem_append_right _ (List.mem_singleton_self turn))
      rw [watched_append, lastMs_concat]
      exact
        ⟨posted_step expand _ turn,
          (lights.step silent expand lastTakes later).1⟩

/-- The light of the keyboard while the screen sleeps. -/
theorem keyboardLit_watched
    {turns : List UiTurn}
    {turn : UiTurn}
    (ordered : InOrder (turns ++ [turn]))
    (taken :
      ∀ passed ∈ turns ++ [turn],
        passed.hardware.takes .keyboardLight = true)
    (asleep :
      (watched expand isProvisioned (turns ++ [turn])).1.power.asleep =
        true) :
    (watched expand isProvisioned (turns ++ [turn])).1.power.keyboardLit =
      litAt (watched expand isProvisioned (turns ++ [turn])).2
        turn.nowMs := by
  obtain ⟨earlier, later⟩ := ordered.init
  have takes :
      ∀ passed ∈ turns ++ [turn],
        passed.hardware.Takes (· = .keyboardLight) := by
    rintro passed member _ rfl
    exact taken passed member
  obtain ⟨silent, lights⟩ :=
    @lights_watched expand isProvisioned (· = .keyboardLight) turns earlier
      fun turn member => takes turn (List.mem_append_left _ member)
  have lastTakes :=
    takes turn (List.mem_append_right _ (List.mem_singleton_self turn))
  obtain ⟨-, lit, -, -⟩ := lights.step silent expand lastTakes later
  rw [watched_append] at asleep ⊢
  refine (lit rfl).trans ?_
  rw [show (UiRuntime.step expand _ turn).power.asleep = true from asleep]
  rfl

/-- A turn without input. -/
def quietTurn
    (nowMs : Nat)
    (input : LoopInput) :
    UiTurn :=
  { nowMs := nowMs
    input := input
    commandsTaken := false
    touches := []
    keys := []
    trackball := none }

/-- The screen goes to sleep after a while. -/
def fallsAsleep : List UiTurn :=
  [quietTurn 0 .timeout, quietTurn 40000 .timeout]

/-- A post in a room arrives. -/
def postArrives : UiTurn :=
  quietTurn 40100 (.event (.conversation (.roomPostLive 5 "dinner")))

/-- A turn after which the screen sleeps. -/
theorem since_concat
    {turns : List UiTurn}
    {turn : UiTurn}
    (asleep :
      (watched expand isProvisioned (turns ++ [turn])).1.power.asleep =
        true) :
    (watched expand isProvisioned (turns ++ [turn])).2 =
      sinceAfter
        ((watched expand isProvisioned turns).1.blinksFor turn.input)
        (watched expand isProvisioned turns).2 turn.nowMs := by
  rw [watched_append] at asleep ⊢
  exact if_pos asleep

/-- While the screen sleeps, the time since which the keyboard blinks is that of the
first message. -/
theorem since_watched
    {earlier passed : List UiTurn}
    {turn : UiTurn}
    (message :
      (watched expand isProvisioned earlier).1.blinksFor turn.input = true)
    (asleep :
      ∀ first, first <+: passed →
        (watched expand isProvisioned
              (earlier ++ turn :: first)).1.power.asleep =
          true) :
    (watched expand isProvisioned (earlier ++ turn :: passed)).2 =
      some
        ((watched expand isProvisioned earlier).2.getD turn.nowMs) := by
  induction passed using List.reverseRecOn with
  | nil =>
      rw [since_concat (asleep [] (List.prefix_refl [])), message]
      rfl
  | append_singleton passed next inductionHypothesis =>
      have before :=
        inductionHypothesis fun first isPrefix =>
          asleep first (isPrefix.trans (List.prefix_append passed [next]))
      have sleeps := asleep _ (List.prefix_refl _)
      rw [← List.cons_append, ← List.append_assoc] at sleeps ⊢
      rw [since_concat sleeps, before]
      cases UiRuntime.blinksFor _ next.input <;> rfl

/-- The turns up to one of them. -/
theorem exists_prefix_of_mem
    {turn last : UiTurn}
    {rest : List UiTurn}
    (member : last ∈ turn :: rest) :
    ∃ passed before,
      passed <+: rest ∧ turn :: passed = before ++ [last] := by
  obtain ⟨before, after, isSplit⟩ := List.append_of_mem member
  cases before with
  | nil =>
      obtain ⟨rfl, rfl⟩ := List.cons.inj isSplit
      exact ⟨[], [], List.nil_prefix, rfl⟩
  | cons first before =>
      obtain ⟨rfl, rfl⟩ := List.cons.inj isSplit
      refine ⟨before ++ [last], turn :: before, ⟨after, ?_⟩, rfl⟩
      rw [List.append_assoc]
      rfl

/-- Whoever looks at the keyboard of a device that sleeps after a message sees every
phase of every burst, when the turns are less than a phase apart and the keyboard
takes its light. -/
theorem message_seen
    {earlier rest : List UiTurn}
    {turn : UiTurn}
    {burst phase startMs : Nat}
    (ordered : InOrder (earlier ++ turn :: rest))
    (taken :
      ∀ passed ∈ earlier ++ turn :: rest,
        passed.hardware.takes .keyboardLight = true)
    (close :
      (turn :: rest).IsChain fun earlier later =>
        earlier.nowMs ≤ later.nowMs ∧
          later.nowMs < earlier.nowMs + blinkPhaseMs)
    (message :
      (watched expand isProvisioned earlier).1.blinksFor turn.input = true)
    (asleep :
      ∀ passed, passed <+: rest →
        (watched expand isProvisioned
              (earlier ++ turn :: passed)).1.power.asleep =
          true)
    (inBurst : phase < blinkCount * 2)
    (isStart :
      startMs =
        (watched expand isProvisioned earlier).2.getD turn.nowMs +
            burstIntervalMs * burst +
          blinkPhaseMs * phase)
    (begins : turn.nowMs ≤ startMs)
    (ends : startMs ≤ lastMs (turn :: rest)) :
    ∃ passed,
      passed <+: rest ∧ startMs ≤ lastMs (turn :: passed) ∧
        lastMs (turn :: passed) < startMs + blinkPhaseMs ∧
        (watched expand isProvisioned
              (earlier ++ turn :: passed)).1.power.keyboardLit =
          (phase % 2 == 0) := by
  have sampled :
      ∃ time ∈ turn.nowMs :: rest.map UiTurn.nowMs,
        startMs ≤ time ∧ time < startMs + blinkPhaseMs := by
    refine exists_sample ?_ begins ?_ (Nat.zero_lt_succ 149)
    · rw [← List.map_cons, List.isChain_map]
      exact close
    · refine ⟨lastMs (turn :: rest), ?_, ends⟩
      rw [lastMs, List.getLast?_eq_some_getLast (List.cons_ne_nil turn rest),
        ← List.map_cons]
      exact List.mem_map_of_mem (List.getLast_mem _)
  obtain ⟨time, isTime, notBefore, inPhase⟩ := sampled
  rw [← List.map_cons] at isTime
  obtain ⟨last, isTurn, rfl⟩ := List.mem_map.mp isTime
  obtain ⟨passed, before, isPrefix, isPassed⟩ := exists_prefix_of_mem isTurn
  have isLast : lastMs (turn :: passed) = last.nowMs := by
    rw [isPassed, lastMs_concat]
  have sleeps := asleep passed isPrefix
  have since :=
    since_watched message fun first earlier =>
      asleep first (earlier.trans isPrefix)
  have isPassedPrefix :
      earlier ++ before ++ [last] <+: earlier ++ turn :: rest := by
    rw [List.append_assoc, ← isPassed]
    exact
      List.prefix_append_right_inj earlier |>.mpr
        (List.prefix_cons_inj turn |>.mpr isPrefix)
  have orderedPassed : InOrder (earlier ++ before ++ [last]) :=
    ordered.prefix isPassedPrefix
  have takenPassed :
      ∀ passed ∈ earlier ++ before ++ [last],
        passed.hardware.takes .keyboardLight = true :=
    fun passed member => taken passed (isPassedPrefix.subset member)
  refine ⟨passed, isPrefix, ?_, ?_, ?_⟩
  · rw [isLast]
    exact notBefore
  · rw [isLast]
    exact inPhase
  · rw [isPassed, ← List.append_assoc] at sleeps since ⊢
    rw [keyboardLit_watched orderedPassed takenPassed sleeps, since]
    rw [isStart] at notBefore inPhase
    exact litSince_phase inBurst notBefore inPhase

/-- The light is off in the second phase after the post. -/
theorem message_seen_post :
    ∃ passed,
      passed <+: [quietTurn 40240 .timeout, quietTurn 40260 .timeout] ∧
        40250 ≤ lastMs (postArrives :: passed) ∧
        lastMs (postArrives :: passed) < 40400 ∧
        (watched id true
              (fallsAsleep ++ postArrives :: passed)).1.power.keyboardLit =
          false := by
  refine
    @message_seen id true fallsAsleep
      [quietTurn 40240 .timeout, quietTurn 40260 .timeout] postArrives 0 1
      40250 ?_ ?_ ?_ rfl ?_ (by decide) rfl (by decide) (by decide)
  · simp [InOrder, fallsAsleep, postArrives, quietTurn]
  · simp [fallsAsleep, postArrives, quietTurn, UiHardware.willing]
  · simp [postArrives, quietTurn, blinkPhaseMs]
  · intro passed isPrefix
    rcases List.prefix_cons_iff.mp isPrefix with rfl | ⟨_, rfl, isRest⟩
    · decide +kernel
    rcases List.prefix_cons_iff.mp isRest with rfl | ⟨_, rfl, isNil⟩
    · decide +kernel
    · rw [List.prefix_nil.mp isNil]
      decide +kernel

end UiRuntime

end MeshCadet
