import Mathlib.Data.List.FinRange
import MeshCadet.ExactHistory

namespace MeshCadet

/-!
# The region directory

An array of regions in memory, found by conversation.  A conversation's first
call claims the first free region and every later one finds it again.
-/

open HistoryRegion

/-- What a region is claimed for. -/
abbrev ConversationKey : Type :=
  HistoryMsgType × UInt8

/-- An array of regions in memory. -/
abbrev RegionArray (size : Nat) : Type :=
  Fin size → HistoryRegion

/-- The conversation a region is claimed for, if it is. -/
def HistoryRegion.owner
    (region : HistoryRegion) :
    Option ConversationKey :=
  region.header.map fun header => (header.kind, header.convHash)

namespace RegionArray

variable {size : Nat}

/-- The first region owned by the conversation. -/
def findOwned
    (regions : RegionArray size)
    (key : ConversationKey) :
    Option (Fin size) :=
  (List.finRange size).find? fun index =>
    match (regions index).header with
    | some header =>
        header.kind == key.1 && header.convHash == key.2
    | none => false

/-- The first unclaimed region. -/
def findUnclaimed
    (regions : RegionArray size) :
    Option (Fin size) :=
  (List.finRange size).find? fun index => !(regions index).isClaimed

/-- Locate the conversation's region, or claim the first unclaimed one. -/
def findOrClaimRegion
    (regions : RegionArray size)
    (key : ConversationKey) :
    RegionArray size × Option (Fin size) :=
  match regions.findOwned key with
  | some index => (regions, some index)
  | none =>
      match regions.findUnclaimed with
      | some index =>
          (Function.update regions index
              ((regions index).claim key.1 key.2),
            some index)
      | none => (regions, none)

/-- The region found is owned by the conversation. -/
theorem owner_of_findOwned
    {regions : RegionArray size}
    {key : ConversationKey}
    {index : Fin size}
    (found : regions.findOwned key = some index) :
    (regions index).owner = some key := by
  have owned := List.find?_some found
  cases isHeader : (regions index).header with
  | none =>
      simp [isHeader] at owned
  | some header =>
      simp only [isHeader, Bool.and_eq_true, beq_iff_eq] at owned
      simp [HistoryRegion.owner, isHeader, owned]

/-- Without a region of the conversation none is found. -/
theorem owner_of_findOwned_none
    {regions : RegionArray size}
    {key : ConversationKey}
    (notFound : regions.findOwned key = none)
    (index : Fin size) :
    (regions index).owner ≠ some key := by
  intro owned
  obtain ⟨header, isHeader, rfl⟩ := Option.map_eq_some_iff.mp owned
  have quiet :=
    List.find?_eq_none.mp notFound index (List.mem_finRange index)
  simp [isHeader] at quiet

end RegionArray

/-- A call of a user of the directory. -/
inductive DirectoryCall (size : Nat) where
  | findOrClaim (key : ConversationKey)
  | append (key : ConversationKey) (index : Fin size)
      (slot : DecodedSlot)
deriving Repr, DecidableEq

/--
The regions, what each `findOrClaimRegion` returned, and what was appended under
each conversation to a region that was returned for it.
-/
structure DirectoryRun (size : Nat) where
  regions : RegionArray size
  returned : List (ConversationKey × Option (Fin size))
  appended : List (ConversationKey × DecodedSlot)

namespace DirectoryRun

variable {size : Nat}

/-- Every region is erased and nothing was called. -/
def newErased
    (size : Nat) :
    DirectoryRun size :=
  { regions := fun _ => HistoryRegion.newErased
    returned := []
    appended := [] }

/-- The entries appended under a conversation, oldest first. -/
def appendedUnder
    (run : DirectoryRun size)
    (key : ConversationKey) :
    List DecodedSlot :=
  (run.appended.filter fun entry => entry.1 == key).map Prod.snd

/-- One call; nothing is appended to a region not returned for the key. -/
def step
    (run : DirectoryRun size) :
    DirectoryCall size → DirectoryRun size
  | .findOrClaim key =>
      let (regions, index) := run.regions.findOrClaimRegion key
      { run with
        regions := regions
        returned := (key, index) :: run.returned }
  | .append key index slot =>
      if (key, some index) ∈ run.returned then
        { run with
          regions :=
            match (run.regions index).append slot with
            | .ok after => Function.update run.regions index after
            | .error _ => run.regions
          appended := run.appended ++ [(key, slot)] }
      else
        run

/-- Every conversation has its own region, and that region is its log. -/
structure Isolated
    (run : DirectoryRun size) :
    Prop where
  oneRegion :
    ∀ key first second,
      (run.regions first).owner = some key →
      (run.regions second).owner = some key →
        first = second
  sameRegion :
    ∀ key first second,
      (key, some first) ∈ run.returned →
      (key, some second) ∈ run.returned →
        first = second
  notShared :
    ∀ key other index,
      (key, some index) ∈ run.returned →
      (other, some index) ∈ run.returned →
        key = other
  ownEntries :
    ∀ key index,
      (key, some index) ∈ run.returned →
        (run.regions index).owner = some key ∧
          (run.regions index).liveView =
            recent (run.appendedUnder key)
  onlyWhenFull :
    ∀ key,
      (key, none) ∈ run.returned →
        ∀ index,
          ∃ other,
            (run.regions index).owner = some other ∧ other ≠ key

/-- A region is erased or the log of the conversation it was returned for. -/
def RegionKept
    (run : DirectoryRun size)
    (index : Fin size) :
    Prop :=
  (run.regions index = HistoryRegion.newErased ∧
      ∀ key, (key, some index) ∉ run.returned) ∨
    ∃ key : ConversationKey,
      (key, some index) ∈ run.returned ∧
        (run.regions index).KeepsLog key.1 key.2
          (recent (run.appendedUnder key))

/-- What every call of the directory preserves. -/
structure Kept
    (run : DirectoryRun size) :
    Prop where
  regions : ∀ index, run.RegionKept index
  oneRegion :
    ∀ key first second,
      (run.regions first).owner = some key →
      (run.regions second).owner = some key →
        first = second
  owned :
    ∀ key index,
      (key, some index) ∈ run.returned →
        (run.regions index).owner = some key
  unreturned :
    ∀ key,
      (∀ index, (key, some index) ∉ run.returned) →
        run.appendedUnder key = []
  full :
    ∀ key,
      (key, none) ∈ run.returned →
        ∀ index,
          ∃ other,
            (run.regions index).owner = some other ∧ other ≠ key

/-- An erased region has no owner. -/
theorem owner_newErased :
    HistoryRegion.newErased.owner = none := by
  decide

/-- A log is owned by its conversation. -/
theorem owner_keepsLog
    {region : HistoryRegion}
    {key : ConversationKey}
    {newest : List DecodedSlot}
    (keeps : region.KeepsLog key.1 key.2 newest) :
    region.owner = some key := by
  obtain ⟨generation, isHeader⟩ := keeps.header_eq
  simp [HistoryRegion.owner, isHeader]

/-- A log is claimed. -/
theorem isClaimed_keepsLog
    {region : HistoryRegion}
    {key : ConversationKey}
    {newest : List DecodedSlot}
    (keeps : region.KeepsLog key.1 key.2 newest) :
    region.isClaimed = true := by
  obtain ⟨generation, isHeader⟩ := keeps.header_eq
  rw [HistoryRegion.header, Option.bind_eq_some_iff] at isHeader
  obtain ⟨active, isActive, -⟩ := isHeader
  simp [HistoryRegion.isClaimed, isActive]

/-- An append adds to its own conversation only. -/
theorem appendedUnder_concat
    (run : DirectoryRun size)
    (regions : RegionArray size)
    (key other : ConversationKey)
    (slot : DecodedSlot) :
    appendedUnder
        { run with
          regions := regions
          appended := run.appended ++ [(key, slot)] }
        other =
      run.appendedUnder other ++ (if key = other then [slot] else []) := by
  by_cases same : key = other
  · simp [appendedUnder, same]
  · simp [appendedUnder, same]

namespace Kept

variable {run : DirectoryRun size}

/-- An owned region is the log of its conversation. -/
theorem keepsLog
    (kept : run.Kept)
    {key : ConversationKey}
    {index : Fin size}
    (owned : (run.regions index).owner = some key) :
    (key, some index) ∈ run.returned ∧
      (run.regions index).KeepsLog key.1 key.2
        (recent (run.appendedUnder key)) := by
  rcases kept.regions index with
      ⟨isErased, -⟩ | ⟨other, returned, keeps⟩
  · rw [isErased, owner_newErased] at owned
    cases owned
  · obtain rfl : other = key := by
      simpa [owner_keepsLog keeps] using owned
    exact ⟨returned, keeps⟩

/-- An unclaimed region is erased. -/
theorem erased_of_unclaimed
    (kept : run.Kept)
    {index : Fin size}
    (unclaimed : (run.regions index).isClaimed = false) :
    run.regions index = HistoryRegion.newErased ∧
      ∀ key, (key, some index) ∉ run.returned := by
  rcases kept.regions index with isErased | ⟨other, -, keeps⟩
  · exact isErased
  · simp [isClaimed_keepsLog keeps] at unclaimed

/-- Kept directories are isolated. -/
theorem isolated
    (kept : run.Kept) :
    run.Isolated :=
  { oneRegion := kept.oneRegion
    sameRegion := by
      intro key first second isFirst isSecond
      exact kept.oneRegion key first second
        (kept.owned key first isFirst) (kept.owned key second isSecond)
    notShared := by
      intro key other index isKey isOther
      have owned := kept.owned key index isKey
      rw [kept.owned other index isOther, Option.some_inj] at owned
      exact owned.symm
    ownEntries := by
      intro key index isReturned
      have owned := kept.owned key index isReturned
      exact ⟨owned, (kept.keepsLog owned).2.liveView_eq⟩
    onlyWhenFull := kept.full }

/-- A region that is found again is returned once more. -/
theorem found
    (kept : run.Kept)
    {key : ConversationKey}
    {index : Fin size}
    (owned : (run.regions index).owner = some key) :
    Kept
      { run with returned := (key, some index) :: run.returned } :=
  { regions := by
      intro other
      by_cases same : other = index
      · subst same
        obtain ⟨-, keeps⟩ := kept.keepsLog owned
        exact .inr ⟨key, List.mem_cons_self, keeps⟩
      · rcases kept.regions other with
            ⟨isErased, none'⟩ | ⟨holder, isHolder, keeps⟩
        · refine .inl ⟨isErased, ?_⟩
          intro holder isHolder
          simp only [List.mem_cons, Prod.mk.injEq, Option.some_inj,
            same, and_false, false_or] at isHolder
          exact none' holder isHolder
        · exact .inr ⟨holder, List.mem_cons_of_mem _ isHolder, keeps⟩
    oneRegion := kept.oneRegion
    owned := by
      intro holder other isReturned
      rcases List.mem_cons.mp isReturned with isNew | isOld
      · simp only [Prod.mk.injEq, Option.some_inj] at isNew
        obtain ⟨rfl, rfl⟩ := isNew
        exact owned
      · exact kept.owned holder other isOld
    unreturned := by
      intro holder none'
      exact kept.unreturned holder fun other isReturned =>
        none' other (List.mem_cons_of_mem _ isReturned)
    full := by
      intro holder isReturned
      have isOld : (holder, none) ∈ run.returned := by
        simpa using isReturned
      exact kept.full holder isOld }

/-- A conversation without a region gets the first unclaimed one. -/
theorem claim
    (kept : run.Kept)
    {key : ConversationKey}
    (unowned : ∀ index, (run.regions index).owner ≠ some key)
    {index : Fin size}
    (unclaimed : (run.regions index).isClaimed = false) :
    Kept
      { run with
        regions :=
          Function.update run.regions index
            ((run.regions index).claim key.1 key.2)
        returned := (key, some index) :: run.returned } := by
  obtain ⟨isErased, unreturned⟩ := kept.erased_of_unclaimed unclaimed
  have nothing : run.appendedUnder key = [] :=
    kept.unreturned key fun other isReturned =>
      unowned other (kept.owned key other isReturned)
  have keepsNothing :
      ((run.regions index).claim key.1 key.2).KeepsLog key.1 key.2
        (recent (run.appendedUnder key)) := by
    rw [isErased, nothing]
    exact KeepsLog.claimed key.1 key.2
  have ownerAfter :
      ∀ other,
        (Function.update run.regions index
            ((run.regions index).claim key.1 key.2) other).owner =
          if other = index then
            some key
          else
            (run.regions other).owner := by
    intro other
    by_cases same : other = index
    · subst same
      simpa using owner_keepsLog keepsNothing
    · simp [same]
  refine
    { regions := ?_
      oneRegion := ?_
      owned := ?_
      unreturned := ?_
      full := ?_ }
  · intro other
    by_cases same : other = index
    · subst same
      refine .inr ⟨key, List.mem_cons_self, ?_⟩
      simp only [Function.update_self]
      exact keepsNothing
    · rcases kept.regions other with
          ⟨isBlank, none'⟩ | ⟨holder, isHolder, keeps⟩
      · refine .inl ⟨by simpa [same] using isBlank, ?_⟩
        intro holder isHolder
        simp only [List.mem_cons, Prod.mk.injEq, Option.some_inj,
          same, and_false, false_or] at isHolder
        exact none' holder isHolder
      · refine .inr ⟨holder, List.mem_cons_of_mem _ isHolder, ?_⟩
        simp only [Function.update_of_ne same]
        exact keeps
  · intro holder first second isFirst isSecond
    simp only [ownerAfter] at isFirst isSecond
    split at isFirst <;> split at isSecond
    · simp [*]
    · rw [← isFirst] at isSecond
      exact absurd isSecond (unowned second)
    · rw [← isSecond] at isFirst
      exact absurd isFirst (unowned first)
    · exact kept.oneRegion holder first second isFirst isSecond
  · intro holder other isReturned
    simp only [ownerAfter]
    rcases List.mem_cons.mp isReturned with isNew | isOld
    · simp only [Prod.mk.injEq, Option.some_inj] at isNew
      obtain ⟨rfl, rfl⟩ := isNew
      simp
    · have apart : other ≠ index := by
        rintro rfl
        exact unreturned holder isOld
      simpa [apart] using kept.owned holder other isOld
  · intro holder none'
    exact kept.unreturned holder fun other isReturned =>
      none' other (List.mem_cons_of_mem _ isReturned)
  · intro holder isReturned other
    have isOld : (holder, none) ∈ run.returned := by
      simpa using isReturned
    simp only [ownerAfter]
    by_cases same : other = index
    · obtain ⟨blocker, isOwner, -⟩ := kept.full holder isOld index
      rw [isErased, owner_newErased] at isOwner
      cases isOwner
    · simpa [same] using kept.full holder isOld other

/-- When every region is another conversation's, nothing is returned. -/
theorem refuse
    (kept : run.Kept)
    {key : ConversationKey}
    (unowned : ∀ index, (run.regions index).owner ≠ some key)
    (noneFree : ∀ index, (run.regions index).isClaimed = true) :
    Kept { run with returned := (key, none) :: run.returned } :=
  { regions := by
      intro index
      rcases kept.regions index with
          ⟨isErased, -⟩ | ⟨holder, isHolder, keeps⟩
      · have claimed := noneFree index
        rw [isErased] at claimed
        exact absurd claimed (by decide)
      · exact .inr ⟨holder, List.mem_cons_of_mem _ isHolder, keeps⟩
    oneRegion := kept.oneRegion
    owned := by
      intro holder index isReturned
      have isOld : (holder, some index) ∈ run.returned := by
        simpa using isReturned
      exact kept.owned holder index isOld
    unreturned := by
      intro holder none'
      exact kept.unreturned holder fun index isReturned =>
        none' index (List.mem_cons_of_mem _ isReturned)
    full := by
      intro holder isReturned index
      rcases List.mem_cons.mp isReturned with isNew | isOld
      · obtain rfl : holder = key := by
          simpa using isNew
        rcases kept.regions index with
            ⟨isErased, -⟩ | ⟨other, -, keeps⟩
        · have claimed := noneFree index
          rw [isErased] at claimed
          exact absurd claimed (by decide)
        · have isOwner := owner_keepsLog keeps
          refine ⟨other, isOwner, ?_⟩
          rintro rfl
          exact unowned index isOwner
      · exact kept.full holder isOld index }

/-- An append goes to its conversation's log. -/
theorem append
    (kept : run.Kept)
    {key : ConversationKey}
    {index : Fin size}
    (isReturned : (key, some index) ∈ run.returned)
    (slot : DecodedSlot) :
    ∃ after,
      (run.regions index).append slot = .ok after ∧
        Kept
          { run with
            regions := Function.update run.regions index after
            appended := run.appended ++ [(key, slot)] } := by
  have owned := kept.owned key index isReturned
  obtain ⟨-, keeps⟩ := kept.keepsLog owned
  obtain ⟨after, appended, keepsAfter⟩ := keeps.append slot
  rw [recent_recent_concat] at keepsAfter
  have ownerAfter :
      ∀ other,
        (Function.update run.regions index after other).owner =
          (run.regions other).owner := by
    intro other
    by_cases same : other = index
    · subst same
      simpa [owned] using owner_keepsLog keepsAfter
    · simp [same]
  refine ⟨after, appended,
    { regions := ?_
      oneRegion := ?_
      owned := ?_
      unreturned := ?_
      full := ?_ }⟩
  · intro other
    by_cases same : other = index
    · subst same
      refine .inr ⟨key, isReturned, ?_⟩
      simp only [Function.update_self, appendedUnder_concat, if_pos]
      exact keepsAfter
    · rcases kept.regions other with
          ⟨isErased, none'⟩ | ⟨holder, isHolder, keepsOther⟩
      · exact .inl ⟨by simpa [same] using isErased, none'⟩
      · have apart : key ≠ holder := by
          rintro rfl
          exact same
            (kept.oneRegion key other index
              (kept.owned key other isHolder) owned)
        refine .inr ⟨holder, isHolder, ?_⟩
        simp only [Function.update_of_ne same, appendedUnder_concat,
          if_neg apart, List.append_nil]
        exact keepsOther
  · intro holder first second isFirst isSecond
    simp only [ownerAfter] at isFirst isSecond
    exact kept.oneRegion holder first second isFirst isSecond
  · intro holder other returned
    simp only [ownerAfter]
    exact kept.owned holder other returned
  · intro holder none'
    have apart : key ≠ holder := by
      rintro rfl
      exact none' index isReturned
    simpa [appendedUnder_concat, apart] using
      kept.unreturned holder none'
  · intro holder returned other
    simp only [ownerAfter]
    exact kept.full holder returned other

end Kept

/-- A directory of erased regions is kept. -/
theorem kept_newErased
    (size : Nat) :
    (newErased size).Kept :=
  { regions := fun _ => .inl ⟨rfl, fun _ => List.not_mem_nil⟩
    oneRegion := by
      intro key first second isFirst
      rw [show
        (newErased size).regions first = HistoryRegion.newErased from rfl,
        owner_newErased] at isFirst
      cases isFirst
    owned := fun _ _ returned => absurd returned List.not_mem_nil
    unreturned := fun _ _ => rfl
    full := fun _ returned => absurd returned List.not_mem_nil }

/-- Every call keeps the directory. -/
theorem Kept.step
    {run : DirectoryRun size}
    (kept : run.Kept)
    (call : DirectoryCall size) :
    (run.step call).Kept := by
  cases call with
  | findOrClaim key =>
      cases isFound : run.regions.findOwned key with
      | some index =>
          have owned := RegionArray.owner_of_findOwned isFound
          simpa [DirectoryRun.step, RegionArray.findOrClaimRegion,
            isFound] using kept.found owned
      | none =>
          have unowned := RegionArray.owner_of_findOwned_none isFound
          cases isFree : run.regions.findUnclaimed with
          | some index =>
              have unclaimed :
                  (run.regions index).isClaimed = false := by
                simpa using List.find?_some isFree
              simpa [DirectoryRun.step, RegionArray.findOrClaimRegion,
                isFound, isFree] using kept.claim unowned unclaimed
          | none =>
              have noneFree :
                  ∀ index, (run.regions index).isClaimed = true := by
                intro index
                have claimed :=
                  List.find?_eq_none.mp isFree index
                    (List.mem_finRange index)
                simpa using claimed
              simpa [DirectoryRun.step, RegionArray.findOrClaimRegion,
                isFound, isFree] using kept.refuse unowned noneFree
  | append key index slot =>
      by_cases isReturned : (key, some index) ∈ run.returned
      · obtain ⟨after, appended, keptAfter⟩ :=
          kept.append isReturned slot
        simpa [DirectoryRun.step, isReturned, appended] using keptAfter
      · simpa [DirectoryRun.step, isReturned] using kept

/--
Along every run of calls over erased regions, each conversation has at most one
region and keeps it, no two conversations share one, the live view of a region
is the newest 32 of the entries appended under its own conversation, and a call
returns nothing only when every region is another conversation's.
-/
theorem directory_isolates
    (size : Nat)
    (calls : List (DirectoryCall size)) :
    Transition.Always step Isolated (newErased size) calls := by
  have kept : Transition.Always step Kept (newErased size) calls :=
    @Transition.always_of_invariant _ _ step Kept
      (fun _ call before => before.step call)
      _ (kept_newErased size) calls
  exact kept.mono fun _ => Kept.isolated

end DirectoryRun

end MeshCadet
