import Mathlib.Data.List.FinRange
import MeshCadet.RegionLog

namespace MeshCadet

/-!
# The history store

Twenty-four regions, found by conversation.  A conversation's first entry claims
the first free region; its entries are the log of that region.  Whatever the
store does for one conversation, the others keep their entries.
-/

open HistoryRegion

/-- The regions of the history partition. -/
abbrev HistoryStore : Type :=
  Fin maxConversationRegions → HistoryRegion

/-- Why an operation of the store fails. -/
inductive HistoryStoreError where
  | directoryFull
  | missingSector
deriving Repr, DecidableEq

namespace HistoryStore

/-- A store whose partition is erased. -/
def newErased : HistoryStore :=
  fun _ => HistoryRegion.newErased

/-- The region is claimed for the conversation. -/
def belongsTo
    (kind : HistoryMsgType)
    (convHash : UInt8)
    (region : HistoryRegion) :
    Bool :=
  match region.activeSector with
  | some (_, header) => header.kind == kind && header.convHash == convHash
  | none => false

/-- The first region claimed for the conversation. -/
def findClaimedRegion
    (store : HistoryStore)
    (kind : HistoryMsgType)
    (convHash : UInt8) :
    Option (Fin maxConversationRegions) :=
  (List.finRange maxConversationRegions).find? fun region =>
    belongsTo kind convHash (store region)

/-- The conversation's region, claimed if it has none and one is free. -/
def findOrClaimRegion
    (store : HistoryStore)
    (kind : HistoryMsgType)
    (convHash : UInt8) :
    Option (HistoryStore × Fin maxConversationRegions) :=
  match store.findClaimedRegion kind convHash with
  | some region => some (store, region)
  | none =>
      let unclaimed :=
        (List.finRange maxConversationRegions).find? fun region =>
          (store region).activeSector.isNone
      unclaimed.map fun region =>
        (Function.update store region
            ((store region).claimRegion kind convHash),
          region)

/-- Append one entry to its conversation. -/
def appendConversation
    (store : HistoryStore)
    (kind : HistoryMsgType)
    (convHash : UInt8)
    (slot : DecodedSlot) :
    Except HistoryStoreError HistoryStore :=
  match store.findOrClaimRegion kind convHash with
  | none => .error .directoryFull
  | some (claimed, region) =>
      match (claimed region).appendRegion slot with
      | some after => .ok (Function.update claimed region after)
      | none => .error .missingSector

/-- Set the delivery bit of the conversation's newest pending entry. -/
def markLastOursAcked
    (store : HistoryStore)
    (kind : HistoryMsgType)
    (convHash : UInt8) :
    Except HistoryStoreError (HistoryStore × Bool) :=
  match store.findClaimedRegion kind convHash with
  | none => .ok (store, false)
  | some region =>
      match (store region).markRegionAcked with
      | some (after, found) =>
          .ok (Function.update store region after, found)
      | none => .error .missingSector

/-- Append one entry; a failure is only logged. -/
def appended
    (store : HistoryStore)
    (kind : HistoryMsgType)
    (convHash : UInt8)
    (slot : DecodedSlot) :
    HistoryStore :=
  match store.appendConversation kind convHash slot with
  | .ok after => after
  | .error _ => store

/-- Acknowledge the newest pending entry; a failure is only logged. -/
def marked
    (store : HistoryStore)
    (kind : HistoryMsgType)
    (convHash : UInt8) :
    HistoryStore :=
  match store.markLastOursAcked kind convHash with
  | .ok (after, _) => after
  | .error _ => store

/-- The conversation's entries as a boot restores them, oldest first. -/
def conversation
    (store : HistoryStore)
    (kind : HistoryMsgType)
    (convHash : UInt8) :
    List DecodedSlot :=
  match store.findClaimedRegion kind convHash with
  | some region => (store region).liveView
  | none => []

/-- Every region is unclaimed or the log of a conversation. -/
def Sound
    (store : HistoryStore) :
    Prop :=
  ∀ region,
    (store region).activeSector = none ∨
      ∃ kind convHash newest,
        (store region).StoresRecent kind convHash newest

/-- An erased region is unclaimed. -/
theorem activeSector_newErased :
    HistoryRegion.newErased.activeSector = none := by
  have silent :
      ∀ sector, HistoryRegion.newErased.headerOf sector = none := by
    intro sector
    have isBlank :
        FlashCells.read (HistoryRegion.newErased sector) 0 8 =
          FlashCells.blank 8 :=
      FlashCells.read_erased 0 8
    rw [headerOf, isBlank]
    rfl
  exact activeSector_eq_none_iff.mpr ⟨silent 0, silent 1⟩

/-- An erased partition has no conversations. -/
theorem sound_newErased :
    newErased.Sound :=
  fun _ => .inl activeSector_newErased

@[simp] theorem conversation_newErased
    (kind : HistoryMsgType)
    (convHash : UInt8) :
    newErased.conversation kind convHash = [] := by
  have noRegion : newErased.findClaimedRegion kind convHash = none := by
    simp [findClaimedRegion, belongsTo, newErased,
      activeSector_newErased]
  simp [conversation, noRegion]

/-- A region belongs to the conversation in the header of its active sector. -/
theorem belongsTo_iff_of_active
    {region : HistoryRegion}
    {kind : HistoryMsgType}
    {convHash : UInt8}
    (claimed :
      ∃ active header,
        region.activeSector = some (active, header) ∧
          header.kind = kind ∧
          header.convHash = convHash)
    (otherKind : HistoryMsgType)
    (otherHash : UInt8) :
    belongsTo otherKind otherHash region = true ↔
      otherKind = kind ∧ otherHash = convHash := by
  obtain ⟨active, header, found, sameKind, sameHash⟩ := claimed
  simp only [belongsTo, found, sameKind, sameHash, Bool.and_eq_true,
    beq_iff_eq]
  exact
    ⟨fun same => ⟨same.1.symm, same.2.symm⟩,
      fun same => ⟨same.1.symm, same.2.symm⟩⟩

/-- A conversation's log belongs to that conversation only. -/
theorem belongsTo_storesRecent
    {region : HistoryRegion}
    {kind : HistoryMsgType}
    {convHash : UInt8}
    {newest : List DecodedSlot}
    (stores : region.StoresRecent kind convHash newest)
    (otherKind : HistoryMsgType)
    (otherHash : UInt8) :
    belongsTo otherKind otherHash region = true ↔
      otherKind = kind ∧ otherHash = convHash :=
  belongsTo_iff_of_active stores.belongs otherKind otherHash

/-- The region found is the first one of the conversation. -/
theorem findClaimedRegion_eq_some_iff
    {store : HistoryStore}
    {kind : HistoryMsgType}
    {convHash : UInt8}
    {region : Fin maxConversationRegions} :
    store.findClaimedRegion kind convHash = some region ↔
      belongsTo kind convHash (store region) = true ∧
        ∀ earlier < region,
          belongsTo kind convHash (store earlier) = false := by
  rw [findClaimedRegion, List.find?_eq_some_iff_getElem]
  constructor
  · rintro ⟨belongs, index, inside, isRegion, before⟩
    refine ⟨belongs, ?_⟩
    intro earlier isEarlier
    rw [List.getElem_finRange] at isRegion
    have earlierInside : earlier.val < index := by
      have sameIndex := congrArg Fin.val isRegion
      simp only [Fin.val_cast] at sameIndex
      have below : earlier.val < region.val := isEarlier
      omega
    have quiet := before earlier.val earlierInside
    simpa using quiet
  · rintro ⟨belongs, before⟩
    refine ⟨belongs, region.val, by simp, by simp, ?_⟩
    intro index isEarlier
    have quiet :=
      before ⟨index, Nat.lt_trans isEarlier region.isLt⟩ isEarlier
    simpa using quiet

/-- Without a region of the conversation none is found. -/
theorem findClaimedRegion_eq_none_iff
    {store : HistoryStore}
    {kind : HistoryMsgType}
    {convHash : UInt8} :
    store.findClaimedRegion kind convHash = none ↔
      ∀ region, belongsTo kind convHash (store region) = false := by
  simp [findClaimedRegion]

/-- A region that belongs to a conversation is its log. -/
theorem Sound.storesRecent
    {store : HistoryStore}
    (sound : store.Sound)
    {kind : HistoryMsgType}
    {convHash : UInt8}
    {region : Fin maxConversationRegions}
    (belongs : belongsTo kind convHash (store region) = true) :
    ∃ newest, (store region).StoresRecent kind convHash newest := by
  rcases sound region with unclaimed | ⟨_, _, newest, stores⟩
  · simp [belongsTo, unclaimed] at belongs
  · obtain ⟨rfl, rfl⟩ :=
      (belongsTo_storesRecent stores kind convHash).mp belongs
    exact ⟨newest, stores⟩

/-- Replacing a region by a log keeps the store sound. -/
theorem Sound.update
    {store : HistoryStore}
    (sound : store.Sound)
    (region : Fin maxConversationRegions)
    {after : HistoryRegion}
    {kind : HistoryMsgType}
    {convHash : UInt8}
    {newest : List DecodedSlot}
    (stores : after.StoresRecent kind convHash newest) :
    Sound (Function.update store region after) := by
  intro other
  by_cases same : other = region
  · subst same
    rw [Function.update_self]
    exact .inr ⟨kind, convHash, newest, stores⟩
  · rw [Function.update_of_ne same]
    exact sound other

/-- A region that comes to belong to a conversation is found, if none before it
does. -/
theorem findClaimedRegion_update_own
    {store : HistoryStore}
    {region : Fin maxConversationRegions}
    {after : HistoryRegion}
    {kind : HistoryMsgType}
    {convHash : UInt8}
    (first :
      ∀ earlier < region,
        belongsTo kind convHash (store earlier) = false)
    (belongs : belongsTo kind convHash after = true) :
    findClaimedRegion (Function.update store region after) kind convHash =
      some region := by
  rw [findClaimedRegion_eq_some_iff, Function.update_self]
  refine ⟨belongs, ?_⟩
  intro earlier isEarlier
  rw [Function.update_of_ne (Fin.ne_of_lt isEarlier)]
  exact first earlier isEarlier

/-- A conversation that has no part in the change keeps its region. -/
theorem findClaimedRegion_update_other
    {store : HistoryStore}
    {region : Fin maxConversationRegions}
    {after : HistoryRegion}
    {kind : HistoryMsgType}
    {convHash : UInt8}
    (notBefore : belongsTo kind convHash (store region) = false)
    (notAfter : belongsTo kind convHash after = false) :
    findClaimedRegion (Function.update store region after) kind convHash =
      store.findClaimedRegion kind convHash := by
  unfold findClaimedRegion
  congr 1
  funext other
  by_cases same : other = region
  · subst same
    rw [Function.update_self, notBefore, notAfter]
  · rw [Function.update_of_ne same]

/-- The region that is found for a conversation is no region of others. -/
theorem findClaimedRegion_ne
    {store : HistoryStore}
    {region other : Fin maxConversationRegions}
    {kind : HistoryMsgType}
    {convHash : UInt8}
    (found : store.findClaimedRegion kind convHash = some other)
    (not : belongsTo kind convHash (store region) = false) :
    other ≠ region := by
  rintro rfl
  rw [(findClaimedRegion_eq_some_iff.mp found).1] at not
  cases not

/-- The conversation reads the log put into its first region. -/
theorem conversation_update_own
    {store : HistoryStore}
    {region : Fin maxConversationRegions}
    {after : HistoryRegion}
    {kind : HistoryMsgType}
    {convHash : UInt8}
    {newest : List DecodedSlot}
    (first :
      ∀ earlier < region,
        belongsTo kind convHash (store earlier) = false)
    (stores : after.StoresRecent kind convHash newest) :
    conversation (Function.update store region after) kind convHash =
      newest := by
  have belongs :=
    (belongsTo_storesRecent stores kind convHash).mpr ⟨rfl, rfl⟩
  have found := findClaimedRegion_update_own first belongs
  simp [conversation, found, stores.liveView_eq]

/-- A conversation that has no part in the change keeps its entries. -/
theorem conversation_update_other
    {store : HistoryStore}
    {region : Fin maxConversationRegions}
    {after : HistoryRegion}
    {kind : HistoryMsgType}
    {convHash : UInt8}
    (notBefore : belongsTo kind convHash (store region) = false)
    (notAfter : belongsTo kind convHash after = false) :
    conversation (Function.update store region after) kind convHash =
      store.conversation kind convHash := by
  rw [conversation, conversation,
    findClaimedRegion_update_other notBefore notAfter]
  cases found : store.findClaimedRegion kind convHash with
  | none =>
      rfl
  | some other =>
      simp only
        [Function.update_of_ne (findClaimedRegion_ne found notBefore)]

/-- A log of one conversation is not a log of another one. -/
theorem belongsTo_eq_false
    {region : HistoryRegion}
    {kind otherKind : HistoryMsgType}
    {convHash otherHash : UInt8}
    {newest : List DecodedSlot}
    (stores : region.StoresRecent kind convHash newest)
    (other : (otherKind, otherHash) ≠ (kind, convHash)) :
    belongsTo otherKind otherHash region = false := by
  rw [Bool.eq_false_iff]
  intro belongs
  obtain ⟨rfl, rfl⟩ :=
    (belongsTo_storesRecent stores otherKind otherHash).mp belongs
  exact other rfl

/--
An append adds the entry to its conversation and touches no other one; it only
fails for a new conversation when every region is claimed.
-/
theorem Sound.append
    {store : HistoryStore}
    (sound : store.Sound)
    (kind : HistoryMsgType)
    (convHash : UInt8)
    (slot : DecodedSlot) :
    (∃ after,
      store.appendConversation kind convHash slot = .ok after ∧
        after.Sound ∧
        after.conversation kind convHash =
          recent (store.conversation kind convHash ++ [slot]) ∧
        ∀ otherKind otherHash,
          (otherKind, otherHash) ≠ (kind, convHash) →
            after.conversation otherKind otherHash =
              store.conversation otherKind otherHash) ∨
      (store.appendConversation kind convHash slot =
          .error .directoryFull ∧
        store.conversation kind convHash = [] ∧
        ∀ region, (store region).activeSector ≠ none) := by
  cases found : store.findClaimedRegion kind convHash with
  | some region =>
      left
      obtain ⟨belongs, first⟩ := findClaimedRegion_eq_some_iff.mp found
      obtain ⟨newest, stores⟩ := sound.storesRecent belongs
      obtain ⟨after, appended, storesAfter⟩ := stores.append slot
      have before : store.conversation kind convHash = newest := by
        simp [conversation, found, stores.liveView_eq]
      refine ⟨Function.update store region after, ?_,
        sound.update region storesAfter, ?_, ?_⟩
      · simp [appendConversation, findOrClaimRegion, found, appended]
      · rw [conversation_update_own first storesAfter, before]
      · intro otherKind otherHash other
        exact conversation_update_other
          (belongsTo_eq_false stores other)
          (belongsTo_eq_false storesAfter other)
  | none =>
      have noRegion := findClaimedRegion_eq_none_iff.mp found
      have before : store.conversation kind convHash = [] := by
        simp [conversation, found]
      cases free :
          (List.finRange maxConversationRegions).find? fun region =>
            (store region).activeSector.isNone with
      | none =>
          right
          refine ⟨?_, before, ?_⟩
          · simp [appendConversation, findOrClaimRegion, found, free]
          · intro region
            have claimed :=
              List.find?_eq_none.mp free region (List.mem_finRange region)
            simpa using claimed
      | some region =>
          left
          let claimed := (store region).claimRegion kind convHash
          have storesNothing :
              claimed.StoresRecent kind convHash [] :=
            ⟨_, _, _, (store region).settled_claimRegion kind convHash,
              rfl, rfl, rfl⟩
          obtain ⟨after, appended, storesAfter⟩ :=
            storesNothing.append slot
          have unclaimed :
              (store region).activeSector = none := by
            simpa using List.find?_some free
          refine ⟨Function.update store region after, ?_,
            sound.update region storesAfter, ?_, ?_⟩
          · simp [appendConversation, findOrClaimRegion, found, free,
              claimed, appended]
          · rw [conversation_update_own
              (fun earlier _ => noRegion earlier) storesAfter, before]
          · intro otherKind otherHash other
            exact conversation_update_other
              (by simp [belongsTo, unclaimed])
              (belongsTo_eq_false storesAfter other)

/--
Acknowledging sets the bit of the conversation's newest pending entry and touches
no other conversation.
-/
theorem Sound.mark
    {store : HistoryStore}
    (sound : store.Sound)
    (kind : HistoryMsgType)
    (convHash : UInt8) :
    ∃ after flag,
      store.markLastOursAcked kind convHash = .ok (after, flag) ∧
        after.Sound ∧
        after.conversation kind convHash =
          withNewestAcked (store.conversation kind convHash) ∧
        ∀ otherKind otherHash,
          (otherKind, otherHash) ≠ (kind, convHash) →
            after.conversation otherKind otherHash =
              store.conversation otherKind otherHash := by
  cases found : store.findClaimedRegion kind convHash with
  | some region =>
      obtain ⟨belongs, first⟩ := findClaimedRegion_eq_some_iff.mp found
      obtain ⟨newest, stores⟩ := sound.storesRecent belongs
      obtain ⟨after, flag, marked, storesAfter⟩ := stores.mark
      have before : store.conversation kind convHash = newest := by
        simp [conversation, found, stores.liveView_eq]
      refine ⟨Function.update store region after, flag, ?_,
        sound.update region storesAfter, ?_, ?_⟩
      · simp [markLastOursAcked, found, marked]
      · rw [conversation_update_own first storesAfter, before]
      · intro otherKind otherHash other
        exact conversation_update_other
          (belongsTo_eq_false stores other)
          (belongsTo_eq_false storesAfter other)
  | none =>
      refine ⟨store, false, ?_, sound, ?_, fun _ _ _ => rfl⟩
      · simp [markLastOursAcked, found]
      · simp [conversation, found, withNewestAcked, Search.updateLast,
          Search.findLastIdx?]

/-- Appending keeps a store sound. -/
theorem Sound.appended
    {store : HistoryStore}
    (sound : store.Sound)
    (kind : HistoryMsgType)
    (convHash : UInt8)
    (slot : DecodedSlot) :
    (store.appended kind convHash slot).Sound := by
  rcases sound.append kind convHash slot with
    ⟨after, isAfter, soundAfter, -⟩ | ⟨failed, -⟩
  · simpa [HistoryStore.appended, isAfter] using soundAfter
  · simpa [HistoryStore.appended, failed] using sound

/-- Acknowledging keeps a store sound. -/
theorem Sound.marked
    {store : HistoryStore}
    (sound : store.Sound)
    (kind : HistoryMsgType)
    (convHash : UInt8) :
    (store.marked kind convHash).Sound := by
  obtain ⟨after, flag, isAfter, soundAfter, -⟩ :=
    sound.mark kind convHash
  simpa [HistoryStore.marked, isAfter] using soundAfter

end HistoryStore

end MeshCadet
