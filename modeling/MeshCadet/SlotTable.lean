import Mathlib.Data.List.ReduceOption

/-!
# Tables of fixed slots

A table is a list of slots, each empty or occupied.  Its entries are the
occupied slots in order.  Filling, replacing and taking change one slot; a sweep
visits every entry once, in slot order, and keeps, changes or removes it.
-/

namespace SlotTable

variable {α σ : Type*}

/-- The occupied slots, in order. -/
def entries
    (slots : List (Option α)) :
    List α :=
  slots.reduceOption

/-- Put an entry into the first empty slot, if there is one. -/
def fillFirst?
    (entry : α) :
    List (Option α) → Option (List (Option α))
  | [] =>
      none
  | none :: rest =>
      some (some entry :: rest)
  | some other :: rest =>
      (fillFirst? entry rest).map (some other :: ·)

/-- Take the first entry satisfying the test out of its slot. -/
def takeFirst
    (test : α → Bool) :
    List (Option α) → List (Option α) × Option α
  | [] =>
      ([], none)
  | none :: rest =>
      let (after, taken) := takeFirst test rest
      (none :: after, taken)
  | some entry :: rest =>
      if test entry then
        (none :: rest, some entry)
      else
        let (after, taken) := takeFirst test rest
        (some entry :: after, taken)

/-- Visit every entry in slot order; a visit leaves an entry or removes it. -/
def sweep
    (visit : σ → α → σ × Option α)
    (state : σ) :
    List (Option α) → List (Option α) × σ
  | [] =>
      ([], state)
  | none :: rest =>
      let (after, last) := sweep visit state rest
      (none :: after, last)
  | some entry :: rest =>
      let (next, kept) := visit state entry
      let (after, last) := sweep visit next rest
      (kept :: after, last)

@[simp] theorem entries_nil :
    entries ([] : List (Option α)) = [] :=
  rfl

@[simp] theorem entries_none
    (rest : List (Option α)) :
    entries (none :: rest) = entries rest :=
  rfl

@[simp] theorem entries_some
    (entry : α)
    (rest : List (Option α)) :
    entries (some entry :: rest) = entry :: entries rest :=
  rfl

@[simp] theorem entries_append
    (first second : List (Option α)) :
    entries (first ++ second) = entries first ++ entries second :=
  List.reduceOption_append first second

@[simp] theorem entries_replicate_none
    (count : Nat) :
    entries (List.replicate count (none : Option α)) = [] :=
  List.reduceOption_replicate_none

/-- Filling changes one empty slot. -/
theorem fillFirst?_eq_some
    {entry : α}
    {slots filled : List (Option α)}
    (fills : fillFirst? entry slots = some filled) :
    filled.length = slots.length ∧
      (entries filled).Perm (entry :: entries slots) := by
  induction slots generalizing filled with
  | nil =>
      cases fills
  | cons slot rest inductionHypothesis =>
      cases slot with
      | none =>
          cases fills
          simp
      | some other =>
          obtain ⟨restFilled, fillsRest, rfl⟩ :=
            Option.map_eq_some_iff.mp fills
          obtain ⟨length, sameEntries⟩ := inductionHypothesis fillsRest
          refine ⟨by simp [length], ?_⟩
          exact (sameEntries.cons other).trans (List.Perm.swap _ _ _)

/-- Nothing can be filled exactly when every slot is occupied. -/
theorem fillFirst?_eq_none
    {entry : α}
    {slots : List (Option α)}
    (full : fillFirst? entry slots = none) :
    ∀ slot ∈ slots, slot.isSome := by
  induction slots with
  | nil =>
      simp
  | cons slot rest inductionHypothesis =>
      cases slot with
      | none =>
          cases full
      | some other =>
          have restFull : fillFirst? entry rest = none := by
            simpa [fillFirst?] using full
          simpa using inductionHypothesis restFull

/-- Replacing an occupied slot exchanges one entry. -/
theorem entries_set
    {slots : List (Option α)}
    {index : Nat}
    {old : α}
    (occupied : slots[index]? = some (some old))
    (entry : α) :
    (old :: entries (slots.set index (some entry))).Perm
      (entry :: entries slots) := by
  induction slots generalizing index with
  | nil =>
      simp at occupied
  | cons slot rest inductionHypothesis =>
      cases index with
      | zero =>
          obtain rfl : slot = some old := by simpa using occupied
          simpa using List.Perm.swap entry old (entries rest)
      | succ index =>
          have inRest : rest[index]? = some (some old) := by
            simpa using occupied
          have sameRest := inductionHypothesis inRest
          cases slot with
          | none =>
              simpa using sameRest
          | some other =>
              simp only [List.set_cons_succ, entries_some]
              exact
                ((List.Perm.swap _ _ _).trans
                  (sameRest.cons other)).trans (List.Perm.swap _ _ _)

/-- Taking removes the first matching entry. -/
theorem takeFirst_entries
    (test : α → Bool)
    (slots : List (Option α)) :
    (takeFirst test slots).1.length = slots.length ∧
      entries (takeFirst test slots).1 = (entries slots).eraseP test ∧
      (takeFirst test slots).2 = (entries slots).find? test := by
  induction slots with
  | nil =>
      simp [takeFirst]
  | cons slot rest inductionHypothesis =>
      obtain ⟨length, remaining, taken⟩ := inductionHypothesis
      cases slot with
      | none =>
          simp [takeFirst, length, remaining, taken]
      | some entry =>
          by_cases matching : test entry
          · simp [takeFirst, matching]
          · simp [takeFirst, matching, length, remaining, taken]

/-- Nothing is taken where nothing matches. -/
theorem takeFirst_eq_self
    {test : α → Bool}
    {slots : List (Option α)}
    (noMatch : ∀ entry ∈ entries slots, test entry = false) :
    (takeFirst test slots).1 = slots := by
  induction slots with
  | nil =>
      rfl
  | cons slot rest inductionHypothesis =>
      cases slot with
      | none =>
          simp only [takeFirst]
          rw [inductionHypothesis (by simpa using noMatch)]
      | some entry =>
          rw [entries_some, List.forall_mem_cons] at noMatch
          simp only [takeFirst, noMatch.1, Bool.false_eq_true, if_false]
          rw [inductionHypothesis noMatch.2]

/-- The first match and the elements without it are all the elements. -/
theorem perm_find?_eraseP
    (test : α → Bool)
    (elements : List α) :
    elements.Perm
      ((elements.find? test).toList ++ elements.eraseP test) := by
  induction elements with
  | nil =>
      simp
  | cons element rest inductionHypothesis =>
      by_cases matching : test element
      · simp [matching]
      · simpa [matching] using
          (inductionHypothesis.cons element).trans
            List.perm_middle.symm

/-- The state a sweep passes on depends on the entries only. -/
theorem sweep_state
    (visit : σ → α → σ × Option α)
    (state : σ)
    (slots : List (Option α)) :
    (sweep visit state slots).2 =
      (entries slots).foldl (fun current entry => (visit current entry).1)
        state := by
  induction slots generalizing state with
  | nil =>
      rfl
  | cons slot rest inductionHypothesis =>
      cases slot with
      | none =>
          simp [sweep, inductionHypothesis]
      | some entry =>
          simp [sweep, inductionHypothesis]

@[simp] theorem length_sweep
    (visit : σ → α → σ × Option α)
    (state : σ)
    (slots : List (Option α)) :
    (sweep visit state slots).1.length = slots.length := by
  induction slots generalizing state with
  | nil =>
      rfl
  | cons slot rest inductionHypothesis =>
      cases slot <;> simp [sweep, inductionHypothesis]

/-- What becomes of the entries, when that does not depend on the state. -/
theorem sweep_entries
    {visit : σ → α → σ × Option α}
    {outcome : α → Option α}
    (stateless : ∀ state entry, (visit state entry).2 = outcome entry)
    (state : σ)
    (slots : List (Option α)) :
    entries (sweep visit state slots).1 =
      (entries slots).filterMap outcome := by
  induction slots generalizing state with
  | nil =>
      rfl
  | cons slot rest inductionHypothesis =>
      cases slot with
      | none =>
          simp [sweep, inductionHypothesis]
      | some entry =>
          have kept := stateless state entry
          cases decided : outcome entry with
          | none =>
              simp [sweep, kept, decided, inductionHypothesis]
          | some after =>
              simp [sweep, kept, decided, inductionHypothesis]

/--
The invariant rule of a sweep: what every visit preserves, with the entries
still in the table, holds when the sweep is over.
-/
theorem sweep_invariant
    {visit : σ → α → σ × Option α}
    {invariant : σ → List α → Prop}
    (preserved :
      ∀ state kept entry rest,
        invariant state (kept ++ entry :: rest) →
          invariant (visit state entry).1
            (kept ++ ((visit state entry).2.toList ++ rest)))
    (state : σ)
    (slots : List (Option α))
    (initially : invariant state (entries slots)) :
    invariant (sweep visit state slots).2
      (entries (sweep visit state slots).1) := by
  suffices carries :
      ∀ (remaining : List (Option α)) (current : σ) (kept : List α),
        invariant current (kept ++ entries remaining) →
          invariant (sweep visit current remaining).2
            (kept ++ entries (sweep visit current remaining).1) by
    simpa using carries slots state [] (by simpa using initially)
  intro remaining
  induction remaining with
  | nil =>
      intro current kept holds
      exact holds
  | cons slot rest inductionHypothesis =>
      intro current kept holds
      cases slot with
      | none =>
          exact inductionHypothesis current kept holds
      | some entry =>
          have visited := preserved current kept entry (entries rest) holds
          have later :=
            inductionHypothesis (visit current entry).1
              (kept ++ (visit current entry).2.toList)
              (by simpa using visited)
          cases kept? : (visit current entry).2 with
          | none =>
              simpa [sweep, kept?] using later
          | some after =>
              simpa [sweep, kept?] using later

section Keys

variable
    {κ : Type*}
    [BEq κ]
    [LawfulBEq κ]
    {key : α → κ}
    {elements : List α}

/-- With distinct keys, removing the first match removes every match. -/
theorem eraseP_eq_filter
    (distinct : (elements.map key).Nodup)
    (name : κ) :
    elements.eraseP (key · == name) =
      elements.filter (key · != name) := by
  induction elements with
  | nil =>
      rfl
  | cons element rest inductionHypothesis =>
      obtain ⟨notInRest, restDistinct⟩ := List.nodup_cons.mp distinct
      by_cases matching : key element = name
      · have untouched : rest.filter (key · != name) = rest := by
          apply List.filter_eq_self.mpr
          intro other member
          have apart : key other ≠ name := by
            rintro rfl
            exact notInRest
              (matching ▸ List.mem_map_of_mem member)
          simpa using apart
        simp [matching, untouched]
      · simp [matching, inductionHypothesis restDistinct]

/-- With distinct keys, the first match is the only one. -/
theorem find?_eq_some_iff
    (distinct : (elements.map key).Nodup)
    {name : κ}
    {found : α} :
    elements.find? (key · == name) = some found ↔
      found ∈ elements ∧ key found = name := by
  constructor
  · intro search
    exact ⟨List.mem_of_find?_eq_some search,
      by simpa using List.find?_some search⟩
  · rintro ⟨member, rfl⟩
    induction elements with
    | nil =>
        cases member
    | cons element rest inductionHypothesis =>
        obtain ⟨notInRest, restDistinct⟩ := List.nodup_cons.mp distinct
        rcases List.mem_cons.mp member with rfl | inRest
        · simp
        · have apart : key element ≠ key found := by
            intro same
            exact notInRest (same ▸ List.mem_map_of_mem inRest)
          simpa [apart] using inductionHypothesis restDistinct inRest

end Keys

end SlotTable
