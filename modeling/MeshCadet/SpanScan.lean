/-!
# Scanning a list for marked spans

A mark that stands at the start or behind a space opens a span, if what follows it
is found to be one; the scan goes on behind the span.  A scan that starts anew
behind each span takes the first unit there for a start, and so may find a span
that the scan of the whole list does not.
-/

namespace SpanScan

/-- What opens a span, what may stand before it and which units it takes. -/
structure Rules (α β : Type) where
  isMark : α → Bool
  isSpace : α → Bool
  found : List α → Option (β × Nat)

/-- A unit outside all spans, or a mark with what was found behind it. -/
inductive Piece (α β : Type) where
  | plain (unit : α)
  | span (mark : α) (what : β) (units : List α)

/-- The units of a piece. -/
def Piece.units {α β : Type} : Piece α β → List α
  | .plain unit => [unit]
  | .span mark _ units => mark :: units

/-- Where the spans start, and what they are. -/
def sites
    {α β : Type} :
    Nat → List (Piece α β) → List (Nat × β)
  | _, [] => []
  | position, .plain _ :: pieces => sites (position + 1) pieces
  | position, .span _ what units :: pieces =>
      (position, what) :: sites (position + 1 + units.length) pieces

/-- The spans of pieces behind others. -/
theorem sites_append
    {α β : Type}
    (front pieces : List (Piece α β))
    (position : Nat) :
    sites position (front ++ pieces) =
      sites position front ++
        sites (position + (front.flatMap Piece.units).length) pieces := by
  induction front generalizing position with
  | nil =>
      rfl
  | cons piece front inductionHypothesis =>
      cases piece with
      | plain unit =>
          rw [List.cons_append, sites, sites, inductionHypothesis,
            List.flatMap_cons, List.length_append, ← Nat.add_assoc]
          rfl
      | span mark what units =>
          rw [List.cons_append, sites, sites, inductionHypothesis,
            List.cons_append, List.flatMap_cons, List.length_append,
            Piece.units, List.length_cons, Nat.add_right_comm,
            ← Nat.add_assoc, ← Nat.add_assoc]

/-- There are no spans among units outside them. -/
theorem sites_plain
    {α β : Type}
    (units : List α)
    (position : Nat) :
    sites position (units.map (Piece.plain : α → Piece α β)) = [] := by
  induction units generalizing position with
  | nil =>
      rfl
  | cons unit units inductionHypothesis =>
      exact inductionHypothesis (position + 1)

/-- Units outside spans are themselves. -/
theorem units_plain
    {α β : Type}
    (units : List α) :
    (units.map (Piece.plain : α → Piece α β)).flatMap Piece.units =
      units := by
  induction units with
  | nil =>
      rfl
  | cons unit units inductionHypothesis =>
      rw [List.map_cons, List.flatMap_cons, inductionHypothesis]
      rfl

/-- Spans are found from the position of the first piece on. -/
theorem le_of_mem_sites
    {α β : Type}
    {pieces : List (Piece α β)}
    {position : Nat}
    {site : Nat × β}
    (member : site ∈ sites position pieces) :
    position ≤ site.1 := by
  induction pieces generalizing position with
  | nil =>
      cases member
  | cons piece pieces inductionHypothesis =>
      cases piece with
      | plain unit =>
          exact Nat.le_of_succ_le (inductionHypothesis member)
      | span mark what units =>
          rcases List.mem_cons.mp member with rfl | later
          · exact Nat.le_refl _
          · have behind := inductionHypothesis later
            omega

namespace Rules

variable {α β : Type} (rules : Rules α β)

/-- The span that a unit opens, if a span may start there. -/
def foundAt
    (mayStart : Bool)
    (unit : α)
    (rest : List α) :
    Option (β × Nat) :=
  if rules.isMark unit && mayStart then rules.found rest else none

/-- A span may start behind the span of a mark and these units. -/
def closes
    (mark : α)
    (units : List α) :
    Bool :=
  rules.isSpace (units.getLastD mark)

/-- Cut a list into spans and the units between them. -/
def cut
    (anew mayStart : Bool) :
    List α → List (Piece α β)
  | [] => []
  | unit :: rest =>
      match rules.foundAt mayStart unit rest with
      | some (what, width) =>
          .span unit what (rest.take width) ::
            cut anew (anew || rules.closes unit (rest.take width))
              (rest.drop width)
      | none =>
          .plain unit :: cut anew (rules.isSpace unit) rest
termination_by units => units.length

/-- The scan of a list gets to a place with these units ahead. -/
inductive Reads
    (units : List α) :
    Bool → List α → Prop where
  | start : Reads units true units
  | plain {mayStart : Bool} {unit : α} {rest : List α} :
      Reads units mayStart (unit :: rest) →
      rules.foundAt mayStart unit rest = none →
      Reads units (rules.isSpace unit) rest
  | span
      {mayStart : Bool} {unit : α} {rest : List α}
      {what : β} {width : Nat} :
      Reads units mayStart (unit :: rest) →
      rules.foundAt mayStart unit rest = some (what, width) →
      Reads units (rules.closes unit (rest.take width)) (rest.drop width)

/-- A span opens right here, if it may. -/
def Opens (units : List α) : Prop :=
  ∃ unit rest,
    units = unit :: rest ∧ (rules.foundAt true unit rest).isSome = true

/-- No span that the scan finds has another one right behind it, unless it ends
with a space. -/
def Apart (units : List α) : Prop :=
  ∀ mayStart unit rest what width,
    rules.Reads units mayStart (unit :: rest) →
    rules.foundAt mayStart unit rest = some (what, width) →
    rules.Opens (rest.drop width) →
    rules.closes unit (rest.take width) = true

variable {rules}

/-- A span opens with a mark, where it may start. -/
theorem foundAt_some
    {mayStart : Bool}
    {unit : α}
    {rest : List α}
    {span : β × Nat}
    (isFound : rules.foundAt mayStart unit rest = some span) :
    rules.isMark unit = true ∧
      mayStart = true ∧
      rules.found rest = some span := by
  unfold foundAt at isFound
  split at isFound
  · next atMark =>
    rw [Bool.and_eq_true] at atMark
    exact ⟨atMark.1, atMark.2, isFound⟩
  · cases isFound

/-- Nothing is cut. -/
@[simp] theorem cut_nil
    (anew mayStart : Bool) :
    rules.cut anew mayStart [] = [] := by
  rw [cut]

/-- A unit outside all spans. -/
theorem cut_plain
    {mayStart : Bool}
    {unit : α}
    {rest : List α}
    (none : rules.foundAt mayStart unit rest = none)
    (anew : Bool) :
    rules.cut anew mayStart (unit :: rest) =
      .plain unit :: rules.cut anew (rules.isSpace unit) rest := by
  rw [cut, none]

/-- A span. -/
theorem cut_span
    {mayStart : Bool}
    {unit : α}
    {rest : List α}
    {what : β}
    {width : Nat}
    (isFound : rules.foundAt mayStart unit rest = some (what, width))
    (anew : Bool) :
    rules.cut anew mayStart (unit :: rest) =
      .span unit what (rest.take width) ::
        rules.cut anew (anew || rules.closes unit (rest.take width))
          (rest.drop width) := by
  rw [cut, isFound]

/-- The pieces of a list are the list. -/
theorem cut_units
    (anew mayStart : Bool)
    (units : List α) :
    (rules.cut anew mayStart units).flatMap Piece.units = units := by
  fun_induction cut rules anew mayStart units with
  | case1 =>
      rfl
  | case2 mayStart unit rest what width isFound inductionHypothesis =>
      rw [List.flatMap_cons, inductionHypothesis, Piece.units,
        List.cons_append, List.take_append_drop]
  | case3 mayStart unit rest none inductionHypothesis =>
      rw [List.flatMap_cons, inductionHypothesis]
      rfl

/-- Whether a span may start here matters only if one opens here. -/
theorem cut_mayStart
    {units : List α}
    {mayStart : Bool}
    (apart : rules.Opens units → mayStart = true)
    (anew : Bool) :
    rules.cut anew true units = rules.cut anew mayStart units := by
  cases units with
  | nil =>
      rw [cut_nil, cut_nil]
  | cons unit rest =>
      cases isFound : rules.foundAt true unit rest with
      | some what =>
          rw [apart ⟨unit, rest, rfl, by rw [isFound]; rfl⟩]
      | none =>
          have noneHere : rules.foundAt mayStart unit rest = none := by
            cases mayStart with
            | true =>
                exact isFound
            | false =>
                simp [foundAt]
          rw [cut_plain isFound, cut_plain noneHere]

/-- Where spans are apart, both scans find the same. -/
theorem cut_anew
    {units rest : List α}
    {mayStart : Bool}
    (apart : rules.Apart units)
    (reads : rules.Reads units mayStart rest) :
    rules.cut true mayStart rest = rules.cut false mayStart rest := by
  induction isLength : rest.length using Nat.strongRecOn
      generalizing mayStart rest with
  | _ length inductionHypothesis =>
      subst isLength
      cases rest with
      | nil =>
          rw [cut_nil, cut_nil]
      | cons unit rest =>
          cases isFound : rules.foundAt mayStart unit rest with
          | none =>
              rw [cut_plain isFound, cut_plain isFound,
                inductionHypothesis _ (by simp) (.plain reads isFound) rfl]
          | some found =>
              obtain ⟨what, width⟩ := found
              rw [cut_span isFound, cut_span isFound, Bool.true_or,
                Bool.false_or,
                cut_mayStart (apart _ _ _ _ _ reads isFound),
                inductionHypothesis _
                  (by rw [List.length_drop, List.length_cons]; omega)
                  (.span reads isFound) rfl]

/-- Two scans that find the same spans behind marks find them at the same sites,
whatever they call them. -/
theorem sites_map
    {γ : Type}
    {others : Rules α γ}
    (sameMark : others.isMark = rules.isMark)
    (sameSpace : others.isSpace = rules.isSpace)
    (name : β → γ)
    {front units : List α}
    (same :
      ∀ before mark rest,
        front ++ units = before ++ mark :: rest →
        rules.isMark mark = true →
          others.found rest =
            (rules.found rest).map fun span => (name span.1, span.2))
    (anew mayStart : Bool)
    (position : Nat) :
    sites position (others.cut anew mayStart units) =
      (sites position (rules.cut anew mayStart units)).map fun site =>
        (site.1, name site.2) := by
  induction isLength : units.length using Nat.strongRecOn
      generalizing front units mayStart position with
  | _ length inductionHypothesis =>
      subst isLength
      cases units with
      | nil =>
          rw [cut_nil, cut_nil]
          rfl
      | cons unit rest =>
          have sameFound :
              others.foundAt mayStart unit rest =
                (rules.foundAt mayStart unit rest).map fun span =>
                  (name span.1, span.2) := by
            rw [foundAt, foundAt, sameMark]
            split
            · next atMark =>
              rw [Bool.and_eq_true] at atMark
              exact same front unit rest rfl atMark.1
            · rfl
          cases isFound : rules.foundAt mayStart unit rest with
          | none =>
              rw [isFound] at sameFound
              rw [cut_plain isFound, cut_plain sameFound, sites, sites,
                sameSpace]
              exact
                @inductionHypothesis rest.length (by simp)
                  (front ++ [unit]) rest
                  (by simpa using same) _ _ rfl
          | some span =>
              obtain ⟨what, width⟩ := span
              rw [isFound] at sameFound
              have sameCloses :
                  others.closes unit (rest.take width) =
                    rules.closes unit (rest.take width) := by
                rw [closes, closes, sameSpace]
              rw [cut_span isFound, cut_span sameFound, sites, sites,
                sameCloses, List.map_cons]
              refine congrArg (List.cons (position, name what)) ?_
              exact
                @inductionHypothesis (rest.drop width).length
                  (by rw [List.length_drop, List.length_cons]; omega)
                  (front ++ unit :: rest.take width) (rest.drop width)
                  (by simpa using same) _ _ rfl

/-- Where a span opens, only the scan that starts anew finds it in any case. -/
theorem mayStart_of_same
    {units : List α}
    {mayStart : Bool}
    {position : Nat}
    (same :
      sites position (rules.cut true true units) =
        sites position (rules.cut false mayStart units))
    (opens : rules.Opens units) :
    mayStart = true := by
  obtain ⟨unit, rest, rfl, isSome⟩ := opens
  obtain ⟨⟨what, width⟩, isFound⟩ := Option.isSome_iff_exists.mp isSome
  cases mayStart with
  | true =>
      rfl
  | false =>
      have none : rules.foundAt false unit rest = none := by
        simp [foundAt]
      rw [cut_span isFound, cut_plain none] at same
      have member :
          (position, what) ∈
            sites (position + 1)
              (rules.cut false (rules.isSpace unit) rest) := by
        rw [sites, sites] at same
        rw [← same]
        exact List.mem_cons_self
      exact absurd (le_of_mem_sites member) (Nat.not_succ_le_self position)

/-- Behind a span that both scans find, they go on alike only where no span opens
or one may start. -/
theorem apart_of_same
    {mayStart : Bool}
    {unit : α}
    {rest : List α}
    {what : β}
    {width position : Nat}
    (isFound : rules.foundAt mayStart unit rest = some (what, width))
    (same :
      sites position (rules.cut true mayStart (unit :: rest)) =
        sites position (rules.cut false mayStart (unit :: rest))) :
    (rules.Opens (rest.drop width) →
      rules.closes unit (rest.take width) = true) ∧
      sites (position + 1 + (rest.take width).length)
          (rules.cut true true (rest.drop width)) =
        sites (position + 1 + (rest.take width).length)
          (rules.cut false (rules.closes unit (rest.take width))
            (rest.drop width)) := by
  rw [cut_span isFound, cut_span isFound, sites, sites, List.cons.injEq,
    Bool.true_or, Bool.false_or] at same
  exact ⟨mayStart_of_same same.2, same.2⟩

/-- Where both scans find the same, they go on alike wherever they get to. -/
theorem reads_same
    {units rest : List α}
    {mayStart : Bool}
    (same :
      sites 0 (rules.cut true true units) =
        sites 0 (rules.cut false true units))
    (reads : rules.Reads units mayStart rest) :
    ∃ position,
      sites position (rules.cut true mayStart rest) =
        sites position (rules.cut false mayStart rest) := by
  induction reads with
  | start =>
      exact ⟨0, same⟩
  | plain reads none inductionHypothesis =>
      obtain ⟨position, sameRest⟩ := inductionHypothesis
      rw [cut_plain none, cut_plain none] at sameRest
      exact ⟨position + 1, sameRest⟩
  | span reads isFound inductionHypothesis =>
      obtain ⟨position, sameRest⟩ := inductionHypothesis
      obtain ⟨apart, sameBehind⟩ := apart_of_same isFound sameRest
      rw [cut_mayStart apart] at sameBehind
      exact ⟨_, sameBehind⟩

/-- Both scans find the same exactly where spans are apart. -/
theorem sites_anew_iff
    (units : List α) :
    sites 0 (rules.cut true true units) =
        sites 0 (rules.cut false true units) ↔
      rules.Apart units := by
  constructor
  · intro same mayStart unit rest what width reads isFound
    obtain ⟨position, sameRest⟩ := reads_same same reads
    exact (apart_of_same isFound sameRest).1
  · intro apart
    rw [cut_anew apart .start]

end Rules

end SpanScan
