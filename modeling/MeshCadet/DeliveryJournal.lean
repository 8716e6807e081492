import MeshCadet.HistoryStore

namespace MeshCadet

/-!
# Journals of stored messages

A journal holds everything ever stored for a conversation, with the name of the
send that an outbound message came from.  It tells which delivery bits the newest
entries should have once some sends were acknowledged.
-/

open HistoryRegion

/-- What was stored for a conversation, and the send it came from. -/
structure JournalEntry (Name : Type) where
  entry : HistoryEntry
  sentAs : Option Name
deriving Repr, DecidableEq

namespace JournalEntry

variable {Name : Type} [DecidableEq Name]

/-- The slot that tells exactly whose acknowledgement arrived. -/
def slot
    (arrived : List Name)
    (stored : JournalEntry Name) :
    DecodedSlot :=
  { entry := stored.entry
    isOurs := stored.sentAs.isSome
    acked :=
      match stored.sentAs with
      | some name => arrived.contains name
      | none => true }

/-- An outbound entry whose acknowledgement has not arrived. -/
def isPending
    (arrived : List Name)
    (stored : JournalEntry Name) :
    Bool :=
  (stored.slot arrived).isOursUnacked

/-- An acknowledgement changes the slot of its own message only. -/
theorem slot_cons_of_ne
    {name : Name}
    {stored : JournalEntry Name}
    (other : stored.sentAs ≠ some name)
    (arrived : List Name) :
    stored.slot (name :: arrived) = stored.slot arrived := by
  cases sentAs : stored.sentAs with
  | none =>
      simp [slot, sentAs]
  | some sent =>
      have apart : sent ≠ name := by
        rintro rfl
        exact other sentAs
      simp [slot, sentAs, apart]

/-- An own message is pending until its acknowledgement arrives. -/
theorem isPending_of_sentAs
    {name : Name}
    {stored : JournalEntry Name}
    (own : stored.sentAs = some name)
    {arrived : List Name}
    (open' : name ∉ arrived) :
    stored.isPending arrived = true := by
  simp [isPending, slot, DecodedSlot.isOursUnacked, own, open']

/-- Marking a pending slot changes it. -/
theorem markAcked_ne
    (slot : DecodedSlot)
    (pending : slot.isOursUnacked = true) :
    slot.markAcked ≠ slot := by
  intro same
  have acked := congrArg DecodedSlot.acked same
  simp only [DecodedSlot.isOursUnacked, Bool.and_eq_true] at pending
  simp [DecodedSlot.markAcked] at acked
  simp [← acked] at pending

/-- An arrival changes the slot of its own message, from pending to marked. -/
theorem differsInOwn
    {name : Name}
    {arrived : List Name}
    {window : List (JournalEntry Name)}
    (open' : name ∉ arrived)
    (distinct : (window.filterMap JournalEntry.sentAs).Nodup) :
    Search.DiffersInOwn DecodedSlot.isOursUnacked DecodedSlot.markAcked
      (slot arrived) (slot (name :: arrived))
      (fun stored => stored.sentAs = some name) window := by
  refine
    { others := fun stored _ other => slot_cons_of_ne other arrived
      changed := fun stored _ own => ?_
      matches' := fun stored _ own => isPending_of_sentAs own open'
      once := ?_ }
  · simp [slot, DecodedSlot.markAcked, own]
  · rw [List.Nodup, List.pairwise_filterMap] at distinct
    refine distinct.imp ?_
    rintro first second apart ⟨ownFirst, ownSecond⟩
    exact apart name ownFirst name ownSecond rfl

/-- Marking the newest pending slot is right when it is the message's own. -/
theorem markNewest_eq_iff
    {name : Name}
    {arrived : List Name}
    {window : List (JournalEntry Name)}
    (open' : name ∉ arrived)
    (distinct : (window.filterMap JournalEntry.sentAs).Nodup) :
    withNewestAcked (window.map (slot arrived)) =
        window.map (slot (name :: arrived)) ↔
      ∀ stored ∈ (window.filter (isPending arrived)).getLast?,
        stored.sentAs = some name :=
  Search.updateLast_map_eq_iff
    (fun stored _ => markAcked_ne (stored.slot arrived))
    (differsInOwn open' distinct)

omit [DecidableEq Name] in
/-- The newest entries of a journal are the newest of its slots. -/
theorem map_rtake
    (decoded : JournalEntry Name → DecodedSlot)
    (journal : List (JournalEntry Name)) :
    (journal.rtake maxHistoryEntries).map decoded =
      recent (journal.map decoded) := by
  simp [recent, List.rtake, List.map_drop]

omit [DecidableEq Name] in
/-- An entry more, and the newest ones of the slots. -/
theorem map_rtake_concat
    (decoded : JournalEntry Name → DecodedSlot)
    (journal : List (JournalEntry Name))
    (stored : JournalEntry Name) :
    ((journal ++ [stored]).rtake maxHistoryEntries).map decoded =
      recent
        ((journal.rtake maxHistoryEntries).map decoded ++
          [decoded stored]) := by
  rw [map_rtake, map_rtake, recent_recent_concat, List.map_append,
    List.map_singleton]

end JournalEntry

end MeshCadet
