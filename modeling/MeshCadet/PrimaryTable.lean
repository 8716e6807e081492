import MeshCadet.Outcome
import MeshCadet.Search

/-!
# Tables of keyed entries, one of them primary

The entries are the first slots of an array, as many as a counter says.  An upsert
replaces the entry with the key or appends a new one; a primary entry demotes all
others first.  No two entries get one key and no two are primary, and tables whose
entries differ only in what the rules do not look at take the same course.
-/

namespace PrimaryTable

open Outcome

/-- What tells entries apart, which is primary and how it is demoted. -/
structure Rules (α κ : Type) where
  key : α → κ
  primary : α → Bool
  demote : α → α
  key_demote : ∀ entry, key (demote entry) = key entry
  primary_demote : ∀ entry, primary (demote entry) = false

/-- An array and how many of its slots are in use. -/
structure Table (α : Type) where
  slots : List α
  count : Nat
deriving Repr, DecidableEq

/-- Outcome of an upsert. -/
inductive Placed where
  | updated
  | added
deriving Repr, DecidableEq

/-- A new key does not fit. -/
inductive Full where
  | listFull
deriving Repr, DecidableEq

variable {α κ : Type}

/-- The entries. -/
def Table.live
    (table : Table α) :
    List α :=
  table.slots.take table.count

/-- Write a slot. -/
def setAt
    (slots : List α)
    (position : Nat)
    (entry : α) :
    Outcome Empty (List α) :=
  if position < slots.length then
    .value (slots.set position entry)
  else
    .panicked

/-- Make room for an entry: if it is primary, no other is. -/
def Rules.demoteFor
    (rules : Rules α κ)
    (entry : α)
    (entries : List α) :
    List α :=
  if rules.primary entry then entries.map rules.demote else entries

variable {rules : Rules α κ}

@[simp]
theorem length_demoteFor
    (entry : α)
    (entries : List α) :
    (rules.demoteFor entry entries).length = entries.length := by
  rw [Rules.demoteFor]
  split
  · exact List.length_map _
  · rfl

/-- Demoting keeps the keys. -/
theorem map_key_demoteFor
    (entry : α)
    (entries : List α) :
    (rules.demoteFor entry entries).map rules.key =
      entries.map rules.key := by
  rw [Rules.demoteFor]
  split
  · rw [List.map_map]
    apply List.map_congr_left
    intro other _
    exact rules.key_demote other
  · rfl

/-- An entry that is not to be primary leaves the others as they are. -/
theorem countP_demoteFor
    (rules : Rules α κ)
    (entry : α)
    (entries : List α) :
    (rules.demoteFor entry entries).countP rules.primary =
      if rules.primary entry then 0 else entries.countP rules.primary := by
  rw [Rules.demoteFor]
  split
  · rw [List.countP_map, List.countP_eq_zero]
    intro other _
    rw [Function.comp, rules.primary_demote]
    exact Bool.false_ne_true
  · rfl

/-- At most one entry is primary and no two have one key. -/
structure Sound
    (rules : Rules α κ)
    (entries : List α) :
    Prop where
  onePrimary : entries.countP rules.primary ≤ 1
  distinct : (entries.map rules.key).Nodup

theorem sound_nil :
    Sound rules [] where
  onePrimary := Nat.zero_le 1
  distinct := List.nodup_nil

/-- The rules see the same of an entry and of what it is mapped to. -/
structure SameView
    {β : Type}
    (rules : Rules α κ)
    (others : Rules β κ)
    (view : α → β) :
    Prop where
  key : ∀ entry, others.key (view entry) = rules.key entry
  primary : ∀ entry, others.primary (view entry) = rules.primary entry
  demote :
    ∀ entry, others.demote (view entry) = view (rules.demote entry)

theorem SameView.demoteFor
    {β : Type}
    {others : Rules β κ}
    {view : α → β}
    (same : SameView rules others view)
    (entry : α)
    (entries : List α) :
    others.demoteFor (view entry) (entries.map view) =
      (rules.demoteFor entry entries).map view := by
  rw [Rules.demoteFor, Rules.demoteFor, same.primary]
  split
  · rw [List.map_map, List.map_map]
    apply List.map_congr_left
    intro other _
    exact same.demote other
  · rfl

variable [DecidableEq κ]

/-- Whether an entry has the key of another. -/
def Rules.sameKey
    (rules : Rules α κ)
    (entry other : α) :
    Bool :=
  decide (rules.key other = rules.key entry)

/-- Insert or update an entry; the table is left alone where it does not fit. -/
def upsert
    (rules : Rules α κ)
    (capacity : Nat)
    (table : Table α)
    (entry : α) :
    Outcome Empty (Table α × Except Full Placed) := do
  let live ← slice table.slots 0 table.count
  let existing := live.findIdx? (rules.sameKey entry)
  if existing.isNone ∧ capacity ≤ table.count then
    pure (table, .error .listFull)
  else do
    let slots := rules.demoteFor entry live ++ table.slots.drop table.count
    match existing with
    | some position =>
        let slots ← setAt slots position entry
        pure ({ slots := slots, count := table.count }, .ok .updated)
    | none =>
        let slots ← setAt slots table.count entry
        pure ({ slots := slots, count := table.count + 1 }, .ok .added)

/-- Upserts one after the other, with their results. -/
def upserts
    (rules : Rules α κ)
    (capacity : Nat) :
    Table α → List α →
      Outcome Empty (Table α × List (Except Full Placed))
  | table, [] => .value (table, [])
  | table, entry :: rest => do
      let first ← upsert rules capacity table entry
      let later ← upserts rules capacity first.1 rest
      pure (later.1, first.2 :: later.2)

/-- An empty table; the slots hold some entry that is never read. -/
def empty
    (capacity : Nat)
    (null : α) :
    Table α :=
  { slots := List.replicate capacity null, count := 0 }

/-- What an upsert does with the entries. -/
def place
    (rules : Rules α κ)
    (capacity : Nat)
    (entries : List α)
    (entry : α) :
    List α × Except Full Placed :=
  if entries.any (rules.sameKey entry) then
    (Search.updateFirst (rules.sameKey entry) (fun _ => entry)
      (rules.demoteFor entry entries), .ok .updated)
  else if capacity ≤ entries.length then
    (entries, .error .listFull)
  else
    (rules.demoteFor entry entries ++ [entry], .ok .added)

/-- The array has its slots, and no more are in use. -/
structure WellFormed
    (capacity : Nat)
    (table : Table α) :
    Prop where
  sized : table.slots.length = capacity
  counted : table.count ≤ capacity

variable {capacity : Nat} {table : Table α}

theorem WellFormed.length_live
    (wellFormed : WellFormed capacity table) :
    table.live.length = table.count := by
  rw [Table.live, List.length_take, wellFormed.sized]
  exact Nat.min_eq_left wellFormed.counted

theorem WellFormed.slice_live
    (wellFormed : WellFormed capacity table) :
    (slice table.slots 0 table.count : Outcome Empty (List α)) =
      .value table.live := by
  have sized := wellFormed.sized
  have counted := wellFormed.counted
  rw [slice_eq (Nat.zero_le _) (by omega), List.drop_zero, Nat.sub_zero]
  rfl

theorem wellFormed_empty
    (capacity : Nat)
    (null : α) :
    WellFormed capacity (empty capacity null) where
  sized := List.length_replicate
  counted := Nat.zero_le capacity

theorem live_empty
    (null : α) :
    (empty capacity null).live = [] :=
  rfl

/-- Where an entry is found by its key before, it is found after demoting. -/
theorem findIdx?_demoteFor
    (entry : α)
    (entries : List α) :
    (rules.demoteFor entry entries).findIdx? (rules.sameKey entry) =
      entries.findIdx? (rules.sameKey entry) := by
  rw [Rules.demoteFor]
  split
  · rw [List.findIdx?_map]
    congr 1
    funext other
    rw [Function.comp, Rules.sameKey, rules.key_demote]
    rfl
  · rfl

/-- To change the first entry that is found is to set its slot. -/
theorem updateFirst_eq_set
    {test : α → Bool}
    {entries : List α}
    {position : Nat}
    (found : entries.findIdx? test = some position)
    (entry : α) :
    Search.updateFirst test (fun _ => entry) entries =
      entries.set position entry := by
  induction entries generalizing position with
  | nil => cases found
  | cons head rest inductionHypothesis =>
      rw [List.findIdx?_cons] at found
      rw [Search.updateFirst]
      split
      · rename_i matching
        rw [if_pos matching] at found
        cases found
        rfl
      · rename_i matching
        rw [if_neg matching] at found
        obtain ⟨later, foundLater, isNext⟩ := Option.map_eq_some_iff.mp found
        rw [inductionHypothesis foundLater, ← isNext]
        rfl

/-- An entry whose key is found takes the place of the one with the key. -/
theorem upsert_found
    (wellFormed : WellFormed capacity table)
    {entry : α}
    {position : Nat}
    (found : table.live.findIdx? (rules.sameKey entry) = some position) :
    upsert rules capacity table entry =
      .value
        ({ slots :=
            (rules.demoteFor entry table.live).set position entry ++
              table.slots.drop table.count
           count := table.count }, .ok .updated) := by
  have inside : position < table.live.length :=
    (List.findIdx?_eq_some_iff_findIdx_eq.mp found).1
  have set :
      setAt
          (rules.demoteFor entry table.live ++ table.slots.drop table.count)
          position entry =
        .value
          ((rules.demoteFor entry table.live).set position entry ++
            table.slots.drop table.count) := by
    rw [setAt, if_pos (by rw [List.length_append, length_demoteFor]; omega),
      List.set_append_left _ _ (by rw [length_demoteFor]; exact inside)]
  simp only [upsert, wellFormed.slice_live, value_bind, found, set, pure_eq,
    Option.isNone_some, Bool.false_eq_true, false_and, if_false]

/-- An entry with a new key is appended, if there is a slot left. -/
theorem upsert_new
    (wellFormed : WellFormed capacity table)
    {entry : α}
    (unseen : table.live.findIdx? (rules.sameKey entry) = none) :
    upsert rules capacity table entry =
      if capacity ≤ table.count then
        .value (table, .error .listFull)
      else
        .value
          ({ slots :=
              rules.demoteFor entry table.live ++
                entry :: table.slots.drop (table.count + 1)
             count := table.count + 1 }, .ok .added) := by
  have length := wellFormed.length_live
  have sized := wellFormed.sized
  by_cases full : capacity ≤ table.count
  · simp only [upsert, wellFormed.slice_live, value_bind, unseen, full,
      Option.isNone_none, and_self, if_true, pure_eq]
  · have set :
        setAt
            (rules.demoteFor entry table.live ++
              table.slots.drop table.count)
            table.count entry =
          .value
            (rules.demoteFor entry table.live ++
              entry :: table.slots.drop (table.count + 1)) := by
      have isCount :
          (rules.demoteFor entry table.live).length = table.count := by
        rw [length_demoteFor, length]
      rw [setAt,
        if_pos (by rw [List.length_append, isCount, List.length_drop]; omega),
        List.set_append_right _ _ (Nat.le_of_eq isCount), isCount,
        Nat.sub_self, List.drop_eq_getElem_cons (by omega)]
      rfl
    simp only [upsert, wellFormed.slice_live, value_bind, unseen, full, set,
      and_false, if_false, pure_eq]

/-- An upsert never panics and does with the entries what it should. -/
theorem upsert_place
    (rules : Rules α κ)
    (wellFormed : WellFormed capacity table)
    (entry : α) :
    ∃ after,
      upsert rules capacity table entry =
          .value (after, (place rules capacity table.live entry).2) ∧
        WellFormed capacity after ∧
        after.live = (place rules capacity table.live entry).1 ∧
        (∀ reason,
          (place rules capacity table.live entry).2 = .error reason →
            after = table) := by
  have length := wellFormed.length_live
  have sized := wellFormed.sized
  have counted := wellFormed.counted
  cases found : table.live.findIdx? (rules.sameKey entry) with
  | some position =>
      have any : table.live.any (rules.sameKey entry) = true := by
        rw [← List.findIdx?_isSome, found]
        rfl
      have isSet :=
        updateFirst_eq_set ((findIdx?_demoteFor entry _).trans found) entry
      rw [place, if_pos any]
      refine ⟨_, upsert_found wellFormed found, ⟨?_, counted⟩, ?_, nofun⟩
      · simp only [List.length_append, List.length_set, length_demoteFor,
          List.length_drop]
        omega
      · rw [Table.live, isSet]
        apply List.take_left'
        rw [List.length_set, length_demoteFor, length]
  | none =>
      have notAny : ¬ table.live.any (rules.sameKey entry) = true := by
        rw [← List.findIdx?_isSome, found]
        exact Bool.false_ne_true
      rw [place, if_neg notAny, length]
      by_cases full : capacity ≤ table.count
      · rw [upsert_new wellFormed found, if_pos full, if_pos full]
        exact ⟨table, rfl, wellFormed, rfl, fun _ _ => rfl⟩
      · rw [upsert_new wellFormed found, if_neg full, if_neg full]
        refine ⟨_, rfl, ⟨?_, ?_⟩, ?_, nofun⟩
        · simp only [List.length_append, List.length_cons, length_demoteFor,
            List.length_drop]
          omega
        · change table.count + 1 ≤ capacity
          omega
        · rw [Table.live, List.append_cons]
          apply List.take_left'
          rw [List.length_append, length_demoteFor, length]
          rfl

/-! ## What upserts keep -/

/-- Placing an entry keeps one primary and distinct keys. -/
theorem Sound.place
    {entries : List α}
    (sound : Sound rules entries)
    (entry : α) :
    Sound rules (PrimaryTable.place rules capacity entries entry).1 := by
  have count := countP_demoteFor rules entry entries
  have onePrimary := sound.onePrimary
  rw [PrimaryTable.place]
  split
  · rename_i seen
    constructor
    · have someDemoted :
          ((rules.demoteFor entry entries).find?
            (rules.sameKey entry)).isSome = true := by
        rw [List.isSome_find?, ← List.findIdx?_isSome, findIdx?_demoteFor,
          List.findIdx?_isSome]
        exact seen
      obtain ⟨found, isFound⟩ := Option.isSome_iff_exists.mp someDemoted
      have moved :=
        @Search.countP_updateFirst _ _ (fun _ => entry) rules.primary _ _
          isFound
      change
        (Search.updateFirst (rules.sameKey entry) (fun _ => entry)
          (rules.demoteFor entry entries)).countP rules.primary ≤ 1
      rw [count] at moved
      by_cases primary : rules.primary entry = true
      · rw [if_pos primary, if_pos primary] at moved
        omega
      · rw [if_neg primary, if_neg primary] at moved
        omega
    · change
        ((Search.updateFirst (rules.sameKey entry) (fun _ => entry)
          (rules.demoteFor entry entries)).map rules.key).Nodup
      rw [Search.map_updateFirst, map_key_demoteFor]
      · exact sound.distinct
      · intro other same
        exact (of_decide_eq_true same).symm
  split
  · exact sound
  · rename_i unseen _
    constructor
    · change (rules.demoteFor entry entries ++ [entry]).countP _ ≤ 1
      rw [List.countP_append, count, List.countP_singleton]
      split
      · exact Nat.le_refl 1
      · exact onePrimary
    · change ((rules.demoteFor entry entries ++ [entry]).map _).Nodup
      rw [List.map_append, map_key_demoteFor, List.nodup_append]
      refine ⟨sound.distinct, List.pairwise_singleton _ _, ?_⟩
      intro known isKnown new isNew same
      obtain ⟨other, member, isKey⟩ := List.mem_map.mp isKnown
      apply unseen
      refine List.any_eq_true.mpr ⟨other, member, decide_eq_true ?_⟩
      rw [isKey, same]
      exact List.mem_singleton.mp isNew

/-- Upserts never panic and keep one primary and distinct keys. -/
theorem upserts_sound
    (wellFormed : WellFormed capacity table)
    (sound : Sound rules table.live)
    (calls : List α) :
    ∃ after results,
      upserts rules capacity table calls = .value (after, results) ∧
        WellFormed capacity after ∧ Sound rules after.live := by
  induction calls generalizing table with
  | nil => exact ⟨table, [], rfl, wellFormed, sound⟩
  | cons entry rest inductionHypothesis =>
      obtain ⟨next, isNext, nextFormed, isLive, _⟩ :=
        upsert_place rules wellFormed entry
      have nextSound : Sound rules next.live := by
        rw [isLive]
        exact sound.place entry
      obtain ⟨after, results, isAfter, afterFormed, afterSound⟩ :=
        inductionHypothesis nextFormed nextSound
      refine
        ⟨after, (place rules capacity table.live entry).2 :: results, ?_,
          afterFormed, afterSound⟩
      rw [upserts, isNext, value_bind, isAfter, value_bind]
      rfl

/--
After upserts from an empty table the counter is within the array, one entry at
most is primary, the keys are distinct, and an upsert that is refused leaves the
table as it is.
-/
structure SoundRun
    (rules : Rules α κ)
    (capacity : Nat)
    (null : α)
    (calls : List α)
    (after : Table α)
    (results : List (Except Full Placed)) :
    Prop where
  isRun :
    upserts rules capacity (empty capacity null) calls =
      .value (after, results)
  counted : after.count ≤ capacity
  sound : Sound rules after.live
  refused :
    ∀ entry,
      ∃ next result,
        upsert rules capacity after entry = .value (next, result) ∧
          ∀ reason, result = .error reason → next = after

/-- Every sequence of upserts from an empty table is sound. -/
theorem exists_soundRun
    (rules : Rules α κ)
    (capacity : Nat)
    (null : α)
    (calls : List α) :
    ∃ after results, SoundRun rules capacity null calls after results := by
  have startsSound : Sound rules (empty capacity null).live := by
    rw [live_empty]
    exact sound_nil
  obtain ⟨after, results, isRun, wellFormed, sound⟩ :=
    upserts_sound (wellFormed_empty capacity null) startsSound
      calls
  refine ⟨after, results, isRun, wellFormed.counted, sound, ?_⟩
  intro entry
  obtain ⟨next, isNext, _, _, refused⟩ :=
    upsert_place rules wellFormed entry
  exact ⟨next, _, isNext, refused⟩

/-! ## Tables that take the same course -/

section Views

variable {β : Type} {others : Rules β κ} {view : α → β}

theorem SameView.sameKey
    (same : SameView rules others view)
    (entry : α) :
    others.sameKey (view entry) ∘ view = rules.sameKey entry := by
  funext other
  rw [Function.comp, Rules.sameKey, Rules.sameKey, same.key, same.key]

/-- What is mapped first may be changed first. -/
theorem map_updateFirst_const
    (test : β → Bool)
    (entry : α)
    (entries : List α) :
    (Search.updateFirst (test ∘ view) (fun _ => entry) entries).map view =
      Search.updateFirst test (fun _ => view entry) (entries.map view) := by
  induction entries with
  | nil => rfl
  | cons head rest inductionHypothesis =>
      rw [Search.updateFirst, List.map_cons, Search.updateFirst,
        Function.comp]
      by_cases matching : test (view head) = true
      · rw [if_pos matching, if_pos matching, List.map_cons]
      · rw [if_neg matching, if_neg matching, List.map_cons,
          inductionHypothesis]

/-- Placing what an entry is mapped to. -/
theorem SameView.place
    (same : SameView rules others view)
    (entries : List α)
    (entry : α) :
    PrimaryTable.place others capacity (entries.map view) (view entry) =
      ((PrimaryTable.place rules capacity entries entry).1.map view,
        (PrimaryTable.place rules capacity entries entry).2) := by
  have any :
      (entries.map view).any (others.sameKey (view entry)) =
        entries.any (rules.sameKey entry) := by
    rw [List.any_map, same.sameKey]
  rw [PrimaryTable.place, PrimaryTable.place, any, List.length_map,
    same.demoteFor, ← same.sameKey]
  split
  · rw [map_updateFirst_const]
  split
  · rfl
  · rw [List.map_append]
    rfl

/-- Two tables with the same view of the rules take the same course. -/
theorem SameView.upserts
    (same : SameView rules others view)
    {otherTable : Table β}
    (wellFormed : WellFormed capacity table)
    (otherFormed : WellFormed capacity otherTable)
    (isView : otherTable.live = table.live.map view)
    (calls : List α) :
    ∃ after otherAfter results,
      PrimaryTable.upserts rules capacity table calls =
          .value (after, results) ∧
        PrimaryTable.upserts others capacity otherTable (calls.map view) =
          .value (otherAfter, results) ∧
        otherAfter.live = after.live.map view := by
  induction calls generalizing table otherTable with
  | nil => exact ⟨table, otherTable, [], rfl, rfl, isView⟩
  | cons entry rest inductionHypothesis =>
      obtain ⟨next, isNext, nextFormed, isLive, _⟩ :=
        upsert_place rules wellFormed entry
      obtain ⟨otherNext, isOther, otherNextFormed, isOtherLive, _⟩ :=
        upsert_place others otherFormed (view entry)
      rw [isView, same.place] at isOther isOtherLive
      have nextView : otherNext.live = next.live.map view := by
        rw [isOtherLive, isLive]
      obtain ⟨after, otherAfter, results, isAfter, isOtherAfter, lastView⟩ :=
        inductionHypothesis nextFormed otherNextFormed nextView
      refine
        ⟨after, otherAfter,
          (PrimaryTable.place rules capacity table.live entry).2 :: results,
          ?_, ?_, lastView⟩
      · rw [PrimaryTable.upserts, isNext, value_bind, isAfter, value_bind]
        rfl
      · rw [List.map_cons, PrimaryTable.upserts, isOther, value_bind,
          isOtherAfter, value_bind]
        rfl

end Views

end PrimaryTable
