import Mathlib.Data.List.Induction

/-!
# Linear searches that update what they find

`updateFirst` changes the first element that satisfies a test and `updateLast`
the last one.  Each search either finds nothing and leaves the list alone or
splits the list at the element it changes, and no element on the far side of
the split satisfies the test.
-/

namespace Search

variable {α : Type*}

/-- Change the first element satisfying the test, if there is one. -/
def updateFirst
    (test : α → Bool)
    (change : α → α) :
    List α → List α
  | [] =>
      []
  | head :: rest =>
      if test head then
        change head :: rest
      else
        head :: updateFirst test change rest

/-- The index of the last element satisfying the test. -/
def findLastIdx?
    (test : α → Bool) :
    List α → Option Nat
  | [] =>
      none
  | head :: rest =>
      match findLastIdx? test rest with
      | some index => some (index + 1)
      | none => if test head then some 0 else none

/-- Change the last element satisfying the test, if there is one. -/
def updateLast
    (test : α → Bool)
    (change : α → α)
    (elements : List α) :
    List α :=
  match findLastIdx? test elements with
  | some index => elements.modify index change
  | none => elements

@[simp] theorem length_updateFirst
    (test : α → Bool)
    (change : α → α)
    (elements : List α) :
    (updateFirst test change elements).length = elements.length := by
  induction elements with
  | nil =>
      rfl
  | cons head rest inductionHypothesis =>
      by_cases matching : test head <;>
        simp [updateFirst, matching, inductionHypothesis]

/-- Without a match the first-match update changes nothing. -/
theorem updateFirst_of_none
    {test : α → Bool}
    (change : α → α)
    {elements : List α}
    (quiet : ∀ element ∈ elements, test element = false) :
    updateFirst test change elements = elements := by
  induction elements with
  | nil =>
      rfl
  | cons head rest inductionHypothesis =>
      have quietRest :=
        inductionHypothesis fun element member =>
          quiet element (List.mem_cons_of_mem head member)
      simp [updateFirst, quiet head List.mem_cons_self, quietRest]

/-- What a change keeps of every element it applies to, an update keeps. -/
theorem map_updateFirst
    {β : Type*}
    {test : α → Bool}
    {change : α → α}
    {view : α → β}
    (kept : ∀ element, test element → view (change element) = view element)
    (elements : List α) :
    (updateFirst test change elements).map view =
      elements.map view := by
  induction elements with
  | nil =>
      rfl
  | cons head rest inductionHypothesis =>
      by_cases matching : test head
      · simp [updateFirst, matching, kept head matching]
      · simp [updateFirst, matching, inductionHypothesis]

/-- An updated list has no elements but the old ones and changed ones. -/
theorem mem_updateFirst
    {test : α → Bool}
    {change : α → α}
    {elements : List α}
    {element : α}
    (member : element ∈ updateFirst test change elements) :
    element ∈ elements ∨
      ∃ found ∈ elements, element = change found := by
  induction elements with
  | nil =>
      cases member
  | cons head rest inductionHypothesis =>
      by_cases matching : test head
      · rw [updateFirst, if_pos matching] at member
        rcases List.mem_cons.mp member with rfl | member
        · exact .inr ⟨head, by simp, rfl⟩
        · exact .inl (by simp [member])
      · rw [updateFirst, if_neg matching] at member
        rcases List.mem_cons.mp member with rfl | member
        · exact .inl (by simp)
        · rcases inductionHypothesis member with
            member | ⟨found, member, changed⟩
          · exact .inl (by simp [member])
          · exact .inr ⟨found, by simp [member], changed⟩

/-- The changed form of the element found is in the updated list. -/
theorem change_mem_updateFirst
    {test : α → Bool}
    (change : α → α)
    {elements : List α}
    {found : α}
    (first : elements.find? test = some found) :
    change found ∈ updateFirst test change elements := by
  induction elements with
  | nil =>
      cases first
  | cons head rest inductionHypothesis =>
      by_cases matching : test head
      · have isHead : head = found := by
          simpa [matching] using first
        subst isHead
        simp [updateFirst, matching]
      · have inRest : rest.find? test = some found := by
          simpa [matching] using first
        simp [updateFirst, matching, inductionHypothesis inRest]

/-- An element that still satisfies a test after a change is still found. -/
theorem find?_updateFirst
    {test : α → Bool}
    {change : α → α}
    (kept : ∀ element, test element = true → test (change element) = true)
    (elements : List α) :
    (updateFirst test change elements).find? test =
      (elements.find? test).map change := by
  induction elements with
  | nil =>
      rfl
  | cons head rest inductionHypothesis =>
      by_cases matching : test head
      · simp [updateFirst, matching, kept head matching]
      · simp [updateFirst, matching, inductionHypothesis]

/-- An element that is changed to satisfy a test none satisfied is found. -/
theorem find?_updateFirst_of_none
    {test other : α → Bool}
    {change : α → α}
    (satisfies :
      ∀ element, other element = true → test (change element) = true)
    {elements : List α}
    (quiet : ∀ element ∈ elements, test element = false) :
    (updateFirst other change elements).find? test =
      (elements.find? other).map change := by
  induction elements with
  | nil =>
      rfl
  | cons head rest inductionHypothesis =>
      have quietHead := quiet head List.mem_cons_self
      have quietRest :=
        inductionHypothesis fun element member =>
          quiet element (List.mem_cons_of_mem head member)
      by_cases matching : other head
      · simp [updateFirst, matching, satisfies head matching]
      · simp [updateFirst, matching, quietHead, quietRest]

/-- An update of an element that a test rejects before and after is not seen. -/
theorem find?_updateFirst_apart
    {test other : α → Bool}
    {change : α → α}
    {elements : List α}
    (apart :
      ∀ element ∈ elements, other element = true →
        test element = false ∧ test (change element) = false) :
    (updateFirst other change elements).find? test =
      elements.find? test := by
  induction elements with
  | nil =>
      rfl
  | cons head rest inductionHypothesis =>
      by_cases matching : other head
      · obtain ⟨before, after⟩ := apart head List.mem_cons_self matching
        simp [updateFirst, matching, before, after]
      · have restFound :=
          inductionHypothesis fun element member =>
            apart element (List.mem_cons_of_mem head member)
        rw [updateFirst, if_neg matching, List.find?_cons,
          List.find?_cons, restFound]

/-- A property of all elements is kept when changes keep it. -/
theorem forall_mem_updateFirst
    {test : α → Bool}
    {change : α → α}
    {property : α → Prop}
    {elements : List α}
    (kept :
      ∀ element ∈ elements, test element = true →
        property element → property (change element))
    (all : ∀ element ∈ elements, property element) :
    ∀ element ∈ updateFirst test change elements, property element := by
  induction elements with
  | nil =>
      intro element member
      cases member
  | cons head rest inductionHypothesis =>
      have restKept :=
        inductionHypothesis
          (fun element member =>
            kept element (List.mem_cons_of_mem head member))
          (fun element member =>
            all element (List.mem_cons_of_mem head member))
      have headHolds := all head List.mem_cons_self
      by_cases matching : test head
      · rw [updateFirst, if_pos matching]
        intro element member
        rcases List.mem_cons.mp member with rfl | later
        · exact kept head List.mem_cons_self matching headHolds
        · exact all element (List.mem_cons_of_mem head later)
      · rw [updateFirst, if_neg matching]
        intro element member
        rcases List.mem_cons.mp member with rfl | later
        · exact headHolds
        · exact restKept element later

/-- Elements stay related pairwise when the changed one is related as before. -/
theorem pairwise_updateFirst
    {test : α → Bool}
    {change : α → α}
    {related : α → α → Prop}
    {elements : List α}
    (kept :
      ∀ found ∈ elements, test found = true →
        ∀ other ∈ elements,
          (related found other → related (change found) other) ∧
            (related other found → related other (change found)))
    (all : elements.Pairwise related) :
    (updateFirst test change elements).Pairwise related := by
  induction elements with
  | nil =>
      exact all
  | cons head rest inductionHypothesis =>
      obtain ⟨headRelated, restRelated⟩ := List.pairwise_cons.mp all
      by_cases matching : test head
      · rw [updateFirst, if_pos matching]
        refine List.pairwise_cons.mpr ⟨?_, restRelated⟩
        intro other member
        exact
          (kept head List.mem_cons_self matching other
            (List.mem_cons_of_mem head member)).1
            (headRelated other member)
      · rw [updateFirst, if_neg matching]
        refine List.pairwise_cons.mpr ⟨?_, ?_⟩
        · apply forall_mem_updateFirst _ headRelated
          intro found member isFound
          exact
            (kept found (List.mem_cons_of_mem head member) isFound head
              List.mem_cons_self).2
        · apply inductionHypothesis _ restRelated
          intro found member isFound other isOther
          exact
            kept found (List.mem_cons_of_mem head member) isFound other
              (List.mem_cons_of_mem head isOther)

/-- An update moves exactly the element found in or out of a count. -/
theorem countP_updateFirst
    {test : α → Bool}
    {change : α → α}
    {counted : α → Bool}
    {elements : List α}
    {found : α}
    (first : elements.find? test = some found) :
    (updateFirst test change elements).countP counted +
        (if counted found then 1 else 0) =
      elements.countP counted +
        (if counted (change found) then 1 else 0) := by
  induction elements with
  | nil =>
      cases first
  | cons head rest inductionHypothesis =>
      by_cases matching : test head
      · have isHead : head = found := by
          simpa [matching] using first
        subst isHead
        simp only [updateFirst, if_pos matching, List.countP_cons]
        omega
      · have inRest : rest.find? test = some found := by
          simpa [matching] using first
        have restCount := inductionHypothesis inRest
        simp only [updateFirst, if_neg matching, List.countP_cons]
        omega

/-- A removal takes exactly the element found out of a count. -/
theorem countP_eraseP
    {test counted : α → Bool}
    {elements : List α}
    {found : α}
    (first : elements.find? test = some found) :
    (elements.eraseP test).countP counted +
        (if counted found then 1 else 0) =
      elements.countP counted := by
  induction elements with
  | nil =>
      cases first
  | cons head rest inductionHypothesis =>
      by_cases matching : test head
      · have isHead : head = found := by
          simpa [matching] using first
        subst isHead
        simp [matching, List.countP_cons]
      · have inRest : rest.find? test = some found := by
          simpa [matching] using first
        have restCount := inductionHypothesis inRest
        rw [List.eraseP_cons_of_neg matching, List.countP_cons,
          List.countP_cons]
        omega

@[simp] theorem length_updateLast
    (test : α → Bool)
    (change : α → α)
    (elements : List α) :
    (updateLast test change elements).length = elements.length := by
  unfold updateLast
  split <;> simp

/-- Nothing is found exactly when nothing satisfies the test. -/
theorem findLastIdx?_eq_none_iff
    {test : α → Bool}
    {elements : List α} :
    findLastIdx? test elements = none ↔
      ∀ element ∈ elements, test element = false := by
  induction elements with
  | nil =>
      simp [findLastIdx?]
  | cons head rest inductionHypothesis =>
      cases found : findLastIdx? test rest with
      | none =>
          have quiet := inductionHypothesis.mp found
          simpa [findLastIdx?, found] using fun _ => quiet
      | some index =>
          have restMatches :
              ¬ ∀ element ∈ rest, test element = false := by
            rw [← inductionHypothesis, found]
            simp
          simp [findLastIdx?, found]
          intro _
          simpa using restMatches

/-- The index found is that of a match with no match after it. -/
theorem findLastIdx?_eq_some_iff
    {test : α → Bool}
    {elements : List α}
    {index : Nat} :
    findLastIdx? test elements = some index ↔
      ∃ before found after,
        elements = before ++ found :: after ∧
          before.length = index ∧
          test found = true ∧
          ∀ element ∈ after, test element = false := by
  induction elements generalizing index with
  | nil =>
      simp [findLastIdx?]
  | cons head rest inductionHypothesis =>
      constructor
      · intro searched
        rw [findLastIdx?] at searched
        split at searched
        · next position found =>
          obtain ⟨before, element, after, rfl, rfl, matching, quiet⟩ :=
            inductionHypothesis.mp found
          cases searched
          exact ⟨head :: before, element, after,
            rfl, rfl, matching, quiet⟩
        · next missing =>
          split at searched
          · next matching =>
            cases searched
            exact ⟨[], head, rest, rfl, rfl, matching,
              findLastIdx?_eq_none_iff.mp missing⟩
          · cases searched
      · rintro ⟨before, element, after, split', rfl, matching, quiet⟩
        cases before with
        | nil =>
            obtain ⟨rfl, rfl⟩ := List.cons.inj split'
            have missing := findLastIdx?_eq_none_iff.mpr quiet
            simp [findLastIdx?, missing, matching]
        | cons first others =>
            obtain ⟨rfl, rfl⟩ := List.cons.inj split'
            have found :
                findLastIdx? test (others ++ element :: after) =
                  some others.length :=
              inductionHypothesis.mpr
                ⟨others, element, after, rfl, rfl, matching, quiet⟩
            simp [findLastIdx?, found]

/-- An update of the last match changes the element at the split. -/
theorem updateLast_split
    {test : α → Bool}
    (change : α → α)
    {before after : List α}
    {found : α}
    (matching : test found = true)
    (quiet : ∀ element ∈ after, test element = false) :
    updateLast test change (before ++ found :: after) =
      before ++ change found :: after := by
  have index :
      findLastIdx? test (before ++ found :: after) =
        some before.length :=
    findLastIdx?_eq_some_iff.mpr
      ⟨before, found, after, rfl, rfl, matching, quiet⟩
  have atSplit :
      ∀ front : List α,
        (front ++ found :: after).modify front.length change =
          front ++ change found :: after := by
    intro front
    induction front with
    | nil =>
        rfl
    | cons head rest inductionHypothesis =>
        simpa using inductionHypothesis
  simp [updateLast, index, atSplit]

/-- Either nothing matches or the list splits at its last match. -/
theorem last_split
    (test : α → Bool)
    (elements : List α) :
    (∀ element ∈ elements, test element = false) ∨
      ∃ before found after,
        elements = before ++ found :: after ∧
          test found = true ∧
          ∀ element ∈ after, test element = false := by
  cases searched : findLastIdx? test elements with
  | none =>
      exact .inl (findLastIdx?_eq_none_iff.mp searched)
  | some index =>
      obtain ⟨before, found, after, split, -, matching, quiet⟩ :=
        findLastIdx?_eq_some_iff.mp searched
      exact .inr ⟨before, found, after, split, matching, quiet⟩

/-- Without a match nothing is updated. -/
theorem updateLast_of_none
    {test : α → Bool}
    (change : α → α)
    {elements : List α}
    (quiet : ∀ element ∈ elements, test element = false) :
    updateLast test change elements = elements := by
  simp [updateLast, findLastIdx?_eq_none_iff.mpr quiet]

/-- What a change keeps of every element, a last-match update keeps. -/
theorem map_updateLast
    {β : Type*}
    {test : α → Bool}
    {change : α → α}
    {view : α → β}
    (kept : ∀ element, view (change element) = view element)
    (elements : List α) :
    (updateLast test change elements).map view = elements.map view := by
  unfold updateLast
  split
  · apply List.ext_getElem?
    intro index
    simp only [List.getElem?_map, List.getElem?_modify]
    cases elements[index]? with
    | none => rfl
    | some element =>
        split
        · exact congrArg some (kept element)
        · rfl
  · rfl

/-- The last match of an extended list is the new element or the old match. -/
theorem updateLast_concat
    (test : α → Bool)
    (change : α → α)
    (elements : List α)
    (element : α) :
    updateLast test change (elements ++ [element]) =
      if test element then
        elements ++ [change element]
      else
        updateLast test change elements ++ [element] := by
  by_cases matching : test element
  · rw [if_pos matching]
    exact updateLast_split change matching
      (fun other member => absurd member List.not_mem_nil)
  · rw [if_neg matching]
    rcases last_split test elements with
      quiet | ⟨before, found, after, rfl, found', quiet⟩
    · rw [updateLast_of_none change quiet]
      apply updateLast_of_none
      intro other member
      rcases List.mem_append.mp member with old | isNew
      · exact quiet other old
      · rw [List.mem_singleton.mp isNew]
        simpa using matching
    · have quietAfter :
          ∀ other ∈ after ++ [element], test other = false := by
        intro other member
        rcases List.mem_append.mp member with old | isNew
        · exact quiet other old
        · rw [List.mem_singleton.mp isNew]
          simpa using matching
      rw [updateLast_split change found' quiet, List.append_assoc,
        List.cons_append, updateLast_split change found' quietAfter]
      simp

section Owner

variable
    {β : Type*}
    {test : α → Bool}
    {change : α → α}
    {before after : β → α}
    {isOwn : β → Prop}

/--
Two views of a list that differ in its own elements only: an own element matches
the test in the earlier view and is its changed form in the later one.
-/
structure DiffersInOwn
    (test : α → Bool)
    (change : α → α)
    (before after : β → α)
    (isOwn : β → Prop)
    (elements : List β) :
    Prop where
  others : ∀ element ∈ elements, ¬ isOwn element →
    after element = before element
  changed : ∀ element ∈ elements, isOwn element →
    after element = change (before element)
  matches' : ∀ element ∈ elements, isOwn element →
    test (before element) = true
  once : elements.Pairwise fun first second =>
    ¬ (isOwn first ∧ isOwn second)

/-- Updating the first match is right exactly when that match is an own one. -/
theorem updateFirst_map_eq_iff
    {elements : List β}
    (moves :
      ∀ element ∈ elements,
        test (before element) = true →
          change (before element) ≠ before element)
    (differs :
      DiffersInOwn test change before after isOwn elements) :
    updateFirst test change (elements.map before) = elements.map after ↔
      ∀ found ∈ elements.find? (fun element => test (before element)),
        isOwn found := by
  induction elements with
  | nil =>
      simp [updateFirst]
  | cons head rest inductionHypothesis =>
      obtain ⟨others, changed, matches', once⟩ := differs
      rw [List.pairwise_cons] at once
      by_cases matching : test (before head)
      · have found :
            (head :: rest).find? (fun element => test (before element)) =
              some head := by
          simp [matching]
        simp only [found, List.map_cons, updateFirst, if_pos matching,
          Option.mem_some_iff, forall_eq']
        constructor
        · intro same
          by_contra notOwn
          have keptHead := others head List.mem_cons_self notOwn
          exact moves head List.mem_cons_self matching
            ((List.cons.inj same).1.trans keptHead)
        · intro own
          rw [changed head List.mem_cons_self own]
          congr 1
          apply List.map_congr_left
          intro element member
          exact
            (others element (List.mem_cons_of_mem head member)
              fun alsoOwn => once.1 element member ⟨own, alsoOwn⟩).symm
      · have notOwn : ¬ isOwn head := fun own =>
          matching (matches' head List.mem_cons_self own)
        have rest' :=
          inductionHypothesis
            (fun element member =>
              moves element (List.mem_cons_of_mem head member))
            { others := fun element member =>
                others element (List.mem_cons_of_mem head member)
              changed := fun element member =>
                changed element (List.mem_cons_of_mem head member)
              matches' := fun element member =>
                matches' element (List.mem_cons_of_mem head member)
              once := once.2 }
        have found :
            (head :: rest).find? (fun element => test (before element)) =
              rest.find? fun element => test (before element) := by
          simp [matching]
        simp only [found, List.map_cons, updateFirst, if_neg matching,
          others head List.mem_cons_self notOwn, List.cons.injEq,
          true_and]
        exact rest'

/-- Updating the last match is right exactly when that match is an own one. -/
theorem updateLast_map_eq_iff
    {elements : List β}
    (moves :
      ∀ element ∈ elements,
        test (before element) = true →
          change (before element) ≠ before element)
    (differs :
      DiffersInOwn test change before after isOwn elements) :
    updateLast test change (elements.map before) = elements.map after ↔
      ∀ found ∈
          (elements.filter fun element =>
            test (before element)).getLast?,
        isOwn found := by
  induction elements using List.reverseRecOn with
  | nil =>
      simp [updateLast, findLastIdx?]
  | append_singleton earlier last inductionHypothesis =>
      obtain ⟨others, changed, matches', once⟩ := differs
      rw [List.pairwise_append] at once
      have isLast : last ∈ earlier ++ [last] := by simp
      have isEarlier :
          ∀ element ∈ earlier, element ∈ earlier ++ [last] := by
        intro element member
        simp [member]
      by_cases matching : test (before last)
      · have found :
            ((earlier ++ [last]).filter fun element =>
              test (before element)).getLast? = some last := by
          simp [matching]
        simp only [found, List.map_append, List.map_singleton,
          updateLast_concat, if_pos matching, Option.mem_some_iff,
          forall_eq']
        constructor
        · intro same
          by_contra notOwn
          have keptLast := others last isLast notOwn
          have sameLast :=
            List.singleton_inj.mp (List.append_inj same (by simp)).2
          exact moves last isLast matching (sameLast.trans keptLast)
        · intro own
          rw [changed last isLast own]
          congr 1
          apply List.map_congr_left
          intro element member
          exact
            (others element (isEarlier element member)
              fun alsoOwn =>
                once.2.2 element member last List.mem_cons_self
                  ⟨alsoOwn, own⟩).symm
      · have notOwn : ¬ isOwn last := fun own =>
          matching (matches' last isLast own)
        have earlier' :=
          inductionHypothesis
            (fun element member =>
              moves element (isEarlier element member))
            { others := fun element member =>
                others element (isEarlier element member)
              changed := fun element member =>
                changed element (isEarlier element member)
              matches' := fun element member =>
                matches' element (isEarlier element member)
              once := once.1 }
        have found :
            (earlier ++ [last]).filter (fun element =>
                test (before element)) =
              earlier.filter fun element => test (before element) := by
          simp [matching]
        simp only [found, List.map_append, List.map_singleton,
          updateLast_concat, if_neg matching, others last isLast notOwn,
          List.append_cancel_right_eq]
        exact earlier'

/-- Updating the last match changes nothing only when nothing matches. -/
theorem updateLast_map_eq_self_iff
    {elements : List β}
    (moves :
      ∀ element ∈ elements,
        test (before element) = true →
          change (before element) ≠ before element) :
    updateLast test change (elements.map before) = elements.map before ↔
      (elements.filter fun element =>
        test (before element)).getLast? = none := by
  have noneOwn :
      DiffersInOwn test change before before (fun _ => False) elements :=
    { others := fun _ _ _ => rfl
      changed := fun _ _ own => own.elim
      matches' := fun _ _ own => own.elim
      once := List.pairwise_of_forall fun _ _ both => both.1 }
  rw [updateLast_map_eq_iff moves noneOwn, Option.eq_none_iff_forall_not_mem]

end Owner

end Search
