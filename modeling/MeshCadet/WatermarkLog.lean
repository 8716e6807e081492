import Mathlib.Order.Lattice
import Mathlib.Data.List.Basic

/-!
# Logs read up to a watermark

The entries of a log carry strictly increasing keys, and a reader remembers the
largest key it has read.  What it has read is then a prefix of the log, and an
entry before which it has read everything is either the next one or read already.
-/

namespace WatermarkLog

variable {α κ : Type*} [LinearOrder κ] {key : α → κ}

/-- The keys increase along the log. -/
def Ordered
    (key : α → κ)
    (log : List α) :
    Prop :=
  log.Pairwise fun earlier later => key earlier < key later

/-- The entries up to a watermark. -/
def upTo
    (key : α → κ)
    (mark : κ)
    (log : List α) :
    List α :=
  log.filter fun entry => decide (key entry ≤ mark)

/-- The watermark covers everything before the entry. -/
def Reaches
    (key : α → κ)
    (mark : κ)
    (log : List α)
    (entry : α) :
    Prop :=
  ∀ other ∈ log, key other < key entry → key other ≤ mark

theorem Reaches.mono
    {log : List α}
    {entry : α}
    {mark higher : κ}
    (reaches : Reaches key mark log entry)
    (raised : mark ≤ higher) :
    Reaches key higher log entry :=
  fun other member before => (reaches other member before).trans raised

/-- An entry behind all others is not before any of them. -/
theorem Reaches.append
    {log : List α}
    {entry : α}
    {mark : κ}
    (reaches : Reaches key mark log entry)
    {more : List α}
    (behind : ∀ later ∈ more, key entry ≤ key later) :
    Reaches key mark (log ++ more) entry := by
  intro other member before
  rcases List.mem_append.mp member with earlier | later
  · exact reaches other earlier before
  · exact absurd before (not_lt.mpr (behind other later))

/-- Nothing is read of entries that are all above the watermark. -/
theorem upTo_eq_nil
    {mark : κ}
    {log : List α}
    (above : ∀ entry ∈ log, mark < key entry) :
    upTo key mark log = [] := by
  rw [upTo, List.filter_eq_nil_iff]
  intro entry member
  simpa using above entry member

/-- Entries above the watermark add nothing to what is read. -/
theorem upTo_append
    {mark : κ}
    (log : List α)
    {more : List α}
    (above : ∀ entry ∈ more, mark < key entry) :
    upTo key mark (log ++ more) = upTo key mark log := by
  have none := upTo_eq_nil above
  rw [upTo] at none ⊢
  rw [List.filter_append, none, List.append_nil, upTo]

/-- Everything is read when the watermark covers every entry. -/
theorem upTo_eq_self_iff
    {mark : κ}
    {log : List α} :
    upTo key mark log = log ↔ ∀ entry ∈ log, key entry ≤ mark := by
  simp [upTo, List.filter_eq_self]

/-- What is read is a prefix. -/
theorem upTo_isPrefix
    {log : List α}
    (ordered : Ordered key log)
    (mark : κ) :
    upTo key mark log <+: log := by
  induction log with
  | nil =>
      exact List.nil_prefix
  | cons entry rest inductionHypothesis =>
      obtain ⟨before, restOrdered⟩ := List.pairwise_cons.mp ordered
      rcases le_or_gt (key entry) mark with isRead | above
      · have split :
            upTo key mark (entry :: rest) = entry :: upTo key mark rest := by
          simp [upTo, isRead]
        rw [split]
        exact List.prefix_cons_inj entry |>.mpr
          (inductionHypothesis restOrdered)
      · rw [upTo_eq_nil]
        · exact List.nil_prefix
        · intro other member
          rcases List.mem_cons.mp member with rfl | later
          · exact above
          · exact above.trans (before other later)

/-- Reading the entry that comes next appends it to what was read. -/
theorem upTo_advance
    {log : List α}
    (ordered : Ordered key log)
    {mark : κ}
    {entry : α}
    (member : entry ∈ log)
    (reaches : Reaches key mark log entry)
    (ahead : mark < key entry) :
    upTo key (key entry) log = upTo key mark log ++ [entry] := by
  induction log with
  | nil =>
      cases member
  | cons first rest inductionHypothesis =>
      obtain ⟨before, restOrdered⟩ := List.pairwise_cons.mp ordered
      rcases List.mem_cons.mp member with rfl | inRest
      · have later :
            ∀ higher, higher ≤ key entry → upTo key higher rest = [] :=
          fun higher low =>
            upTo_eq_nil fun other isLater =>
              lt_of_le_of_lt low (before other isLater)
        have atEntry := later (key entry) le_rfl
        have atMark := later mark ahead.le
        rw [upTo] at atEntry atMark
        simp [upTo, atEntry, atMark, ahead]
      · have firstBefore := before entry inRest
        have firstRead :=
          reaches first List.mem_cons_self firstBefore
        have restAdvanced :=
          inductionHypothesis restOrdered inRest
            fun other isOther =>
              reaches other (List.mem_cons_of_mem first isOther)
        rw [upTo, upTo] at restAdvanced
        simp [upTo, firstRead, firstBefore.le, restAdvanced]

/-- The first entry above the watermark is one it reaches. -/
theorem reaches_of_find?
    {log : List α}
    (ordered : Ordered key log)
    {mark : κ}
    {entry : α}
    (found :
      (log.find? fun entry => decide (mark < key entry)) = some entry) :
    entry ∈ log ∧ mark < key entry ∧ Reaches key mark log entry := by
  induction log with
  | nil =>
      cases found
  | cons first rest inductionHypothesis =>
      obtain ⟨before, restOrdered⟩ := List.pairwise_cons.mp ordered
      rcases lt_or_ge mark (key first) with above | isRead
      · have isFirst : first = entry := by
          simpa [above] using found
        cases isFirst
        refine ⟨List.mem_cons_self, above, ?_⟩
        intro other member earlier
        rcases List.mem_cons.mp member with rfl | later
        · exact absurd earlier (lt_irrefl _)
        · exact absurd earlier (before other later).asymm
      · rw [List.find?_cons_of_neg (by simpa using isRead)] at found
        obtain ⟨member, ahead, reaches⟩ :=
          inductionHypothesis restOrdered found
        refine ⟨List.mem_cons_of_mem first member, ahead, ?_⟩
        intro other isOther earlier
        rcases List.mem_cons.mp isOther with rfl | later
        · exact isRead
        · exact reaches other later earlier

/-- No entry is above a watermark above which none is found. -/
theorem le_of_find?_eq_none
    {log : List α}
    {mark : κ}
    (none :
      (log.find? fun entry => decide (mark < key entry)) = none) :
    ∀ entry ∈ log, key entry ≤ mark := by
  intro entry member
  have notAbove := List.find?_eq_none.mp none entry member
  simpa using notAbove

end WatermarkLog
