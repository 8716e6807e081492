import Mathlib.Order.Bounds.Basic

/-!
# Holding the strongest sample as samples age

One sample is held.  A new one replaces it when it is at least as strong as the
held one is by then, and is dropped otherwise.  Where strength, once lost, stays
lost, the held sample is at every later time the strongest of those that were
ever kept; a dropped sample does not come back.
-/

namespace HeldPeak

/-- When a sample arrived, and how strong it is at a time. -/
structure Ageing
    (Sample Time Level : Type) where
  time : Sample → Time
  strength : Sample → Time → Level

namespace Ageing

variable {Sample Time Level : Type} [LinearOrder Level]

/-- A sample is dropped when it is weaker than the held one on arrival. -/
def hold
    (ageing : Ageing Sample Time Level)
    (held sample : Sample) :
    Sample :=
  if ageing.strength held (ageing.time sample) ≤
      ageing.strength sample (ageing.time sample) then
    sample
  else held

/-- The sample held behind a run of samples. -/
def held
    (ageing : Ageing Sample Time Level)
    (initial : Sample)
    (samples : List Sample) :
    Sample :=
  samples.foldl ageing.hold initial

/-- The samples of a run that are not dropped. -/
def kept
    (ageing : Ageing Sample Time Level) :
    Sample → List Sample → List Sample
  | _, [] => []
  | held, sample :: rest =>
      if ageing.strength held (ageing.time sample) ≤
          ageing.strength sample (ageing.time sample) then
        sample :: ageing.kept sample rest
      else ageing.kept held rest

/-- A sample that a later one is as strong as stays behind it. -/
def Persists
    [LE Time]
    (ageing : Ageing Sample Time Level) :
    Prop :=
  ∀ first second now,
    ageing.time first ≤ ageing.time second →
    ageing.time second ≤ now →
    ageing.strength first (ageing.time second) ≤
        ageing.strength second (ageing.time second) →
      ageing.strength first now ≤ ageing.strength second now

variable {ageing : Ageing Sample Time Level}

theorem held_cons
    (initial sample : Sample)
    (rest : List Sample) :
    ageing.held initial (sample :: rest) =
      ageing.held (ageing.hold initial sample) rest :=
  rfl

/-- A sample at the end is kept or dropped by what is held before it. -/
theorem kept_concat
    (initial last : Sample)
    (samples : List Sample) :
    ageing.kept initial (samples ++ [last]) =
      ageing.kept initial samples ++
        if ageing.strength (ageing.held initial samples)
              (ageing.time last) ≤
            ageing.strength last (ageing.time last) then
          [last]
        else [] := by
  induction samples generalizing initial with
  | nil =>
      rfl
  | cons sample rest inductionHypothesis =>
      rw [List.cons_append, kept, kept, held_cons, hold]
      split
      · rw [inductionHypothesis sample, List.cons_append]
      · exact inductionHypothesis initial

/-- What is kept is among the samples. -/
theorem kept_sublist
    (initial : Sample)
    (samples : List Sample) :
    (ageing.kept initial samples).Sublist samples := by
  induction samples generalizing initial with
  | nil =>
      exact List.Sublist.refl _
  | cons sample rest inductionHypothesis =>
      rw [kept]
      split
      · exact (inductionHypothesis sample).cons_cons sample
      · exact (inductionHypothesis initial).cons sample

/-- The held sample is the strongest of those that were kept. -/
theorem held_isGreatest
    [Preorder Time]
    (persists : ageing.Persists)
    {initial : Sample}
    {samples : List Sample}
    {now : Time}
    (ordered :
      (initial :: samples).Pairwise fun earlier later =>
        ageing.time earlier ≤ ageing.time later)
    (before : ∀ sample ∈ samples, ageing.time sample ≤ now) :
    IsGreatest
      {level | ∃ sample ∈ initial :: ageing.kept initial samples,
        ageing.strength sample now = level}
      (ageing.strength (ageing.held initial samples) now) := by
  induction samples generalizing initial with
  | nil =>
      refine ⟨⟨initial, List.mem_cons_self, rfl⟩, ?_⟩
      rintro level ⟨sample, member, rfl⟩
      cases List.mem_singleton.mp member
      exact le_refl _
  | cons sample rest inductionHypothesis =>
      obtain ⟨afterInitial, ofRest⟩ := List.pairwise_cons.mp ordered
      have later :
          ∀ other ∈ rest, ageing.time other ≤ now :=
        fun other member =>
          before other (List.mem_cons_of_mem sample member)
      rw [held_cons, hold, kept]
      split
      case isFalse dropped =>
        have skipped :
            (initial :: rest).Pairwise fun earlier later =>
              ageing.time earlier ≤ ageing.time later :=
          List.pairwise_cons.mpr
            ⟨fun other member =>
              afterInitial other (List.mem_cons_of_mem sample member),
              (List.pairwise_cons.mp ofRest).2⟩
        exact inductionHypothesis skipped later
      case isTrue stronger =>
        obtain ⟨⟨greatest, member, same⟩, bound⟩ :=
          inductionHypothesis ofRest later
        refine ⟨⟨greatest, List.mem_cons_of_mem initial member, same⟩, ?_⟩
        have passed :=
          persists initial sample now
            (afterInitial sample List.mem_cons_self)
            (before sample List.mem_cons_self) stronger
        rintro level ⟨other, isKept, rfl⟩
        rcases List.mem_cons.mp isKept with rfl | isLater
        · exact le_trans passed (bound ⟨sample, List.mem_cons_self, rfl⟩)
        · exact bound ⟨other, isLater, rfl⟩

end Ageing

end HeldPeak
