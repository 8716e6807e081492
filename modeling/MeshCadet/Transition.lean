import Mathlib.Data.List.Basic

/-!
# Runs of deterministic transition systems

A system is a total step function over states and events.  A run is the fold of
the step function over a finite list of events.  The rules below package the
induction over runs once: a property that every step preserves holds in every
state of a run, and a property that a step preserves exactly when a guard holds
characterises the runs whose steps all meet that guard.
-/

namespace Transition

variable {State Event : Type*}

/-- The state reached after a finite list of events. -/
def run
    (step : State → Event → State)
    (initial : State)
    (events : List Event) :
    State :=
  events.foldl step initial

/-- The property holds in every state of the run, the initial one included. -/
def Always
    (step : State → Event → State)
    (property : State → Prop) :
    State → List Event → Prop
  | state, [] =>
      property state
  | state, event :: rest =>
      property state ∧ Always step property (step state event) rest

/-- The guard holds of every step of the run, on the state before the step. -/
def Along
    (step : State → Event → State)
    (guard : State → Event → Prop) :
    State → List Event → Prop
  | _, [] =>
      True
  | state, event :: rest =>
      guard state event ∧ Along step guard (step state event) rest

instance Along.decidable
    (step : State → Event → State)
    (guard : State → Event → Prop)
    [∀ state event, Decidable (guard state event)] :
    ∀ state events, Decidable (Along step guard state events)
  | _, [] =>
      .isTrue trivial
  | state, event :: rest =>
      @instDecidableAnd _ _ _
        (Along.decidable step guard (step state event) rest)

section Rules

variable
    {step : State → Event → State}
    {property invariant : State → Prop}
    {guard : State → Event → Prop}

@[simp] theorem run_nil
    (state : State) :
    run step state [] = state :=
  rfl

@[simp] theorem run_cons
    (state : State)
    (event : Event)
    (rest : List Event) :
    run step state (event :: rest) =
      run step (step state event) rest :=
  rfl

@[simp] theorem run_append
    (state : State)
    (first second : List Event) :
    run step state (first ++ second) =
      run step (run step state first) second := by
  simp [run]

@[simp] theorem always_nil
    (state : State) :
    Always step property state [] ↔ property state :=
  Iff.rfl

@[simp] theorem always_cons
    (state : State)
    (event : Event)
    (rest : List Event) :
    Always step property state (event :: rest) ↔
      property state ∧
        Always step property (step state event) rest :=
  Iff.rfl

@[simp] theorem along_nil
    (state : State) :
    Along step guard state [] :=
  trivial

@[simp] theorem along_cons
    (state : State)
    (event : Event)
    (rest : List Event) :
    Along step guard state (event :: rest) ↔
      guard state event ∧
        Along step guard (step state event) rest :=
  Iff.rfl

/-- A guard holds along a run in two parts when it holds along each part. -/
theorem along_append
    {state : State}
    {first second : List Event} :
    Along step guard state (first ++ second) ↔
      Along step guard state first ∧
        Along step guard (run step state first) second := by
  induction first generalizing state with
  | nil =>
      simp
  | cons event rest inductionHypothesis =>
      rw [List.cons_append, along_cons, inductionHypothesis, along_cons,
        run_cons, and_assoc]

/-- A property of every state of a run holds in its first state. -/
theorem Always.head
    {state : State}
    {events : List Event}
    (always : Always step property state events) :
    property state := by
  cases events with
  | nil =>
      exact always
  | cons event rest =>
      exact always.1

/-- A property of every state of a run holds in its last state. -/
theorem Always.last
    {state : State}
    {events : List Event}
    (always : Always step property state events) :
    property (run step state events) := by
  induction events generalizing state with
  | nil =>
      exact always
  | cons event rest inductionHypothesis =>
      exact inductionHypothesis always.2

/-- `Always` speaks about exactly the states reached by the prefixes. -/
theorem always_iff_prefix
    {state : State}
    {events : List Event} :
    Always step property state events ↔
      ∀ earlier,
        earlier <+: events →
        property (run step state earlier) := by
  induction events generalizing state with
  | nil =>
      simp
  | cons event rest inductionHypothesis =>
      constructor
      · rintro ⟨here, later⟩ earlier isPrefix
        cases earlier with
        | nil =>
            exact here
        | cons first others =>
            obtain ⟨rfl, othersPrefix⟩ :=
              List.cons_prefix_cons.mp isPrefix
            exact inductionHypothesis.mp later others othersPrefix
      · intro reached
        refine ⟨reached [] (List.nil_prefix), ?_⟩
        apply inductionHypothesis.mpr
        intro others othersPrefix
        exact reached (event :: others)
          (List.cons_prefix_cons.mpr ⟨rfl, othersPrefix⟩)

/-- What related events keep related is related after runs of related events. -/
theorem run_related
    {Other : Type*}
    {otherStep : Other → Event → Other}
    {related : State → Other → Prop}
    {alike : Event → Event → Prop}
    (kept :
      ∀ state other event like,
        related state other →
        alike event like →
        related (step state event) (otherStep other like))
    {state : State}
    {other : Other}
    {events likes : List Event}
    (initially : related state other)
    (all : List.Forall₂ alike events likes) :
    related (run step state events) (run otherStep other likes) := by
  induction all generalizing state other with
  | nil =>
      exact initially
  | cons isAlike _ inductionHypothesis =>
      exact inductionHypothesis (kept _ _ _ _ initially isAlike)

/-- A weaker property holds wherever a stronger one does. -/
theorem Always.mono
    {weaker : State → Prop}
    (implies : ∀ state, property state → weaker state)
    {state : State}
    {events : List Event}
    (always : Always step property state events) :
    Always step weaker state events := by
  induction events generalizing state with
  | nil =>
      exact implies _ always
  | cons event rest inductionHypothesis =>
      exact ⟨implies _ always.1, inductionHypothesis always.2⟩

/-- A weaker guard holds along the same run. -/
theorem Along.mono
    {guard weaker : State → Event → Prop}
    (implies : ∀ state event, guard state event → weaker state event)
    {state : State}
    {events : List Event}
    (along : Along step guard state events) :
    Along step weaker state events := by
  induction events generalizing state with
  | nil =>
      trivial
  | cons event rest inductionHypothesis =>
      exact ⟨implies _ _ along.1, inductionHypothesis along.2⟩

/-- A guard that every event meets holds of every step. -/
theorem along_of_forall
    {guard : Event → Prop}
    {events : List Event}
    (met : ∀ event ∈ events, guard event)
    (state : State) :
    Along step (fun _ event => guard event) state events := by
  induction events generalizing state with
  | nil =>
      trivial
  | cons event rest inductionHypothesis =>
      exact ⟨met event List.mem_cons_self,
        inductionHypothesis
          (fun later member =>
            met later (List.mem_cons_of_mem event member))
          _⟩

/-- The invariant rule: what every step preserves holds along every run. -/
theorem always_of_invariant
    (preserved :
      ∀ state event,
        invariant state → invariant (step state event))
    {state : State}
    (initially : invariant state)
    (events : List Event) :
    Always step invariant state events := by
  induction events generalizing state with
  | nil =>
      exact initially
  | cons event rest inductionHypothesis =>
      exact ⟨initially,
        inductionHypothesis (preserved _ event initially)⟩

/-- The guarded rule: what guarded steps preserve holds along guarded runs. -/
theorem always_of_along
    (preserved :
      ∀ state event,
        property state →
        guard state event →
        property (step state event))
    {state : State}
    {events : List Event}
    (initially : property state)
    (guarded : Along step guard state events) :
    Always step property state events := by
  induction events generalizing state with
  | nil =>
      exact initially
  | cons event rest inductionHypothesis =>
      exact ⟨initially,
        inductionHypothesis
          (preserved _ event initially guarded.1) guarded.2⟩

/--
If, in good states that satisfy the invariant, the guard is exactly what an
assumed step needs to stay good, then the assumed runs that stay good are
exactly the guarded ones.
-/
theorem always_iff_along_assuming
    {assumption : State → Event → Prop}
    (preserved :
      ∀ state event,
        invariant state →
        property state →
        assumption state event →
        invariant (step state event))
    (exact' :
      ∀ state event,
        invariant state →
        property state →
        assumption state event →
        (property (step state event) ↔ guard state event))
    {state : State}
    {events : List Event}
    (invariantInitially : invariant state)
    (initially : property state)
    (assumed : Along step assumption state events) :
    Always step property state events ↔
      Along step guard state events := by
  induction events generalizing state with
  | nil =>
      simpa using initially
  | cons event rest inductionHypothesis =>
      have stepInvariant :=
        preserved _ _ invariantInitially initially assumed.1
      have stepExact :=
        exact' _ _ invariantInitially initially assumed.1
      constructor
      · rintro ⟨-, later⟩
        have stepGood : property (step state event) := later.head
        exact ⟨stepExact.mp stepGood,
          (inductionHypothesis stepInvariant stepGood assumed.2).mp later⟩
      · rintro ⟨here, later⟩
        have stepGood : property (step state event) :=
          stepExact.mpr here
        exact ⟨initially,
          (inductionHypothesis stepInvariant stepGood assumed.2).mpr
            later⟩

/--
If, in good states, the guard is exactly what a step needs to stay good, then
the runs that stay good are exactly the guarded ones.
-/
theorem always_iff_along
    (exact' :
      ∀ state event,
        property state →
        (property (step state event) ↔ guard state event))
    {state : State}
    {events : List Event}
    (initially : property state) :
    Always step property state events ↔
      Along step guard state events := by
  have assumed :
      ∀ (start : State) (remaining : List Event),
        Along step (fun _ _ => True) start remaining := by
    intro start remaining
    induction remaining generalizing start with
    | nil =>
        trivial
    | cons event rest inductionHypothesis =>
        exact ⟨trivial, inductionHypothesis _⟩
  exact
    @always_iff_along_assuming State Event step property
      (fun _ => True) guard (fun _ _ => True)
      (fun _ _ _ _ _ => trivial)
      (fun current event _ good _ => exact' current event good)
      state events trivial initially (assumed state events)

/--
If, in good states that satisfy a kept invariant, the guard is exactly what a
step needs to stay good, then the runs that stay good are exactly the guarded
ones.
-/
theorem always_iff_along_invariant
    (preserved :
      ∀ state event, invariant state → invariant (step state event))
    (exact' :
      ∀ state event,
        invariant state →
        property state →
        (property (step state event) ↔ guard state event))
    {state : State}
    {events : List Event}
    (invariantInitially : invariant state)
    (initially : property state) :
    Always step property state events ↔
      Along step guard state events :=
  @always_iff_along_assuming State Event step property
    invariant guard (fun _ _ => True)
    (fun current event kept _ _ => preserved current event kept)
    (fun current event kept good _ => exact' current event kept good)
    state events invariantInitially initially
    (along_of_forall (fun _ _ => trivial) state)

/-- Events with distinct labels meet states that have not seen their label. -/
theorem along_fresh
    {Label : Type*}
    {label : Event → Option Label}
    {seen : State → List Label}
    (records :
      ∀ state event,
        seen (step state event) = (label event).toList ++ seen state)
    {state : State}
    {events : List Event}
    (distinct : (events.filterMap label ++ seen state).Nodup) :
    Along step
      (fun current event =>
        ∀ name, label event = some name → name ∉ seen current)
      state events := by
  induction events generalizing state with
  | nil =>
      trivial
  | cons event rest inductionHypothesis =>
      refine ⟨?_, ?_⟩
      · intro name named alreadySeen
        have apart := (List.nodup_append.mp distinct).2.2
        refine apart name ?_ name alreadySeen rfl
        simp [named]
      · apply inductionHypothesis
        rw [records]
        cases named : label event with
        | none =>
            simpa [named] using distinct
        | some name =>
            simp only [List.filterMap_cons, named,
              List.cons_append] at distinct
            exact List.perm_middle.nodup_iff.mpr distinct

end Rules

end Transition
