import MeshCadet.MigrationReplay

namespace MeshCadet

/-!
# Migrations over power losses

However often power is lost, the boot that completes leaves every legacy entry
once in its conversation, as long as no interrupted boot stored more than one
byte of a slot, or the entries of one conversation fill all that is kept, and
there is a region for every conversation.
-/

open FlashCells HistoryRegion Transition

namespace HistoryStore

/-- A region belongs to one conversation only. -/
theorem belongsTo_unique
    {region : HistoryRegion}
    {kind otherKind : HistoryMsgType}
    {convHash otherHash : UInt8}
    (belongs : belongsTo kind convHash region = true)
    (other : (otherKind, otherHash) ≠ (kind, convHash)) :
    belongsTo otherKind otherHash region = false := by
  rw [belongsTo] at belongs
  split at belongs
  · rename_i active header isActive
    obtain ⟨sameKind, sameHash⟩ := Bool.and_eq_true_iff.mp belongs
    rw [Bool.eq_false_iff]
    intro alsoOther
    obtain ⟨rfl, rfl⟩ :=
      (belongsTo_iff_of_active
        ⟨active, header, isActive, eq_of_beq sameKind, eq_of_beq sameHash⟩
        otherKind otherHash).mp alsoOther
    exact other rfl
  · cases belongs

/-- The conversation has the region, which it had before or which was free. -/
structure Placed
    (store after : HistoryStore)
    (kind : HistoryMsgType)
    (convHash : UInt8)
    (region : Fin maxConversationRegions) :
    Prop where
  found : after.findClaimedRegion kind convHash = some region
  before :
    store.findClaimedRegion kind convHash = some region ∨
      store.findClaimedRegion kind convHash = none ∧
        (store region).activeSector = none
  others :
    ∀ otherKind otherHash,
      (otherKind, otherHash) ≠ (kind, convHash) →
      after.findClaimedRegion otherKind otherHash =
        store.findClaimedRegion otherKind otherHash
  notTheirs :
    ∀ otherKind otherHash,
      (otherKind, otherHash) ≠ (kind, convHash) →
      belongsTo otherKind otherHash (store region) = false
  untouched : ∀ other, other ≠ region → after other = store other

/-- Claiming a region, or changing a claimed one, places its conversation. -/
theorem placed_update
    {store : HistoryStore}
    {region : Fin maxConversationRegions}
    {after : HistoryRegion}
    {kind : HistoryMsgType}
    {convHash : UInt8}
    (before :
      store.findClaimedRegion kind convHash = some region ∨
        store.findClaimedRegion kind convHash = none ∧
          (store region).activeSector = none)
    (claimed :
      ∃ active header,
        after.activeSector = some (active, header) ∧
          header.kind = kind ∧
          header.convHash = convHash) :
    Placed store (Function.update store region after) kind convHash
      region := by
  have belongs : belongsTo kind convHash after = true :=
    (belongsTo_iff_of_active claimed kind convHash).mpr ⟨rfl, rfl⟩
  have first :
      ∀ earlier < region,
        belongsTo kind convHash (store earlier) = false := by
    rcases before with found | ⟨noRegion, -⟩
    · exact (findClaimedRegion_eq_some_iff.mp found).2
    · exact fun earlier _ => findClaimedRegion_eq_none_iff.mp noRegion earlier
  have notTheirs :
      ∀ otherKind otherHash,
        (otherKind, otherHash) ≠ (kind, convHash) →
        belongsTo otherKind otherHash (store region) = false := by
    intro otherKind otherHash other
    rcases before with found | ⟨-, unclaimed⟩
    · exact belongsTo_unique (findClaimedRegion_eq_some_iff.mp found).1 other
    · simp [belongsTo, unclaimed]
  exact
    { found := findClaimedRegion_update_own first belongs
      before := before
      others := fun otherKind otherHash other =>
        findClaimedRegion_update_other
          (notTheirs otherKind otherHash other)
          (belongsTo_unique belongs other)
      notTheirs := notTheirs
      untouched := fun _ other => Function.update_of_ne other _ _ }

/-- Every conversation's region ends with its legacy entries migrated so far. -/
structure Migrating
    (any : Prop)
    (store : HistoryStore)
    (done : List HistoryEntry) :
    Prop where
  trails :
    ∀ kind convHash region,
      store.findClaimedRegion kind convHash = some region →
      (store region).Trails any kind convHash
        (legacyEntriesOf kind convHash done)
  absent :
    ∀ kind convHash,
      store.findClaimedRegion kind convHash = none →
      legacyEntriesOf kind convHash done = []

/-- A filled store has migrated nothing. -/
theorem Filled.migrating
    {any : Prop}
    {store : HistoryStore}
    (filled : store.Filled any) :
    store.Migrating any [] where
  trails := fun kind convHash region found => by
    obtain ⟨blobs, stale, log⟩ := filled.log found
    refine ⟨blobs, stale, ?_⟩
    rw [legacyEntriesOf, List.filter_nil, List.map_nil, List.map_nil,
      List.append_nil]
    exact log
  absent := fun _ _ _ => rfl

theorem legacyEntriesOf_concat_own
    (done : List HistoryEntry)
    (entry : HistoryEntry) :
    legacyEntriesOf entry.msgType entry.senderHash (done ++ [entry]) =
      legacyEntriesOf entry.msgType entry.senderHash done ++
        [legacySlot entry] := by
  simp [legacyEntriesOf, isOfConversation]

theorem legacyEntriesOf_concat_other
    {kind : HistoryMsgType}
    {convHash : UInt8}
    {entry : HistoryEntry}
    (other : (kind, convHash) ≠ (entry.msgType, entry.senderHash))
    (done : List HistoryEntry) :
    legacyEntriesOf kind convHash (done ++ [entry]) =
      legacyEntriesOf kind convHash done := by
  have notOf : isOfConversation kind convHash entry = false := by
    rw [Bool.eq_false_iff]
    intro same
    obtain ⟨sameKind, sameHash⟩ := Bool.and_eq_true_iff.mp same
    apply other
    rw [eq_of_beq sameKind, eq_of_beq sameHash]
  simp [legacyEntriesOf, notOf]

theorem length_legacyEntriesOf_le
    (kind : HistoryMsgType)
    (convHash : UInt8)
    (entries : List HistoryEntry) :
    (legacyEntriesOf kind convHash entries).length ≤ entries.length := by
  rw [legacyEntriesOf, List.length_map]
  exact List.length_filter_le _ _

/-- A placed conversation with one more entry is a step of the migration. -/
theorem Migrating.step
    {any : Prop}
    {store after : HistoryStore}
    {done : List HistoryEntry}
    {entry : HistoryEntry}
    {region : Fin maxConversationRegions}
    (migrating : store.Migrating any done)
    (placed : Placed store after entry.msgType entry.senderHash region)
    (trails :
      (after region).Trails any entry.msgType entry.senderHash
        (legacyEntriesOf entry.msgType entry.senderHash done ++
          [legacySlot entry])) :
    after.Migrating any (done ++ [entry]) where
  trails := fun kind convHash other found => by
    by_cases same : (kind, convHash) = (entry.msgType, entry.senderHash)
    · obtain ⟨rfl, rfl⟩ := Prod.mk.inj same
      rw [placed.found] at found
      cases found
      rw [legacyEntriesOf_concat_own]
      exact trails
    · rw [placed.others kind convHash same] at found
      have apart :=
        findClaimedRegion_ne found (placed.notTheirs kind convHash same)
      rw [legacyEntriesOf_concat_other same, placed.untouched other apart]
      exact migrating.trails kind convHash other found
  absent := fun kind convHash noRegion => by
    by_cases same : (kind, convHash) = (entry.msgType, entry.senderHash)
    · obtain ⟨rfl, rfl⟩ := Prod.mk.inj same
      rw [placed.found] at noRegion
      cases noRegion
    · rw [placed.others kind convHash same] at noRegion
      rw [legacyEntriesOf_concat_other same]
      exact migrating.absent kind convHash noRegion

/-- With a region for its conversation, or a free one, an entry is appended. -/
theorem Migrating.append
    {any : Prop}
    {store : HistoryStore}
    {done : List HistoryEntry}
    (migrating : store.Migrating any done)
    (few : done.length ≤ maxHistoryEntries)
    {entry : HistoryEntry}
    (room :
      store.findClaimedRegion entry.msgType entry.senderHash = none →
      (freeRegions store).Nonempty) :
    ∃ after region,
      store.append entry = .ok after ∧
        Placed store after entry.msgType entry.senderHash region ∧
        after.Migrating any (done ++ [entry]) := by
  have fewOwn :
      (legacyEntriesOf entry.msgType entry.senderHash done).length ≤
        maxHistoryEntries :=
    Nat.le_trans (length_legacyEntriesOf_le _ _ done) few
  cases found :
      store.findClaimedRegion entry.msgType entry.senderHash with
  | some region =>
      obtain ⟨after, appended, trails⟩ :=
        (migrating.trails _ _ region found).append fewOwn
          (legacySlot entry)
      have placed := placed_update (Or.inl found) trails.isClaimed
      refine ⟨_, region, ?_, placed, migrating.step placed ?_⟩
      · simp [HistoryStore.append, appendConversation, findOrClaimRegion,
          found, appended]
      · rw [Function.update_self]
        exact trails
  | none =>
      have noEntries := migrating.absent _ _ found
      cases free :
          (List.finRange maxConversationRegions).find? fun region =>
            (store region).activeSector.isNone with
      | none =>
          obtain ⟨region, isFree⟩ := room found
          have claimed :=
            List.find?_eq_none.mp free region (List.mem_finRange region)
          rw [(Finset.mem_filter.mp isFree).2] at claimed
          exact absurd rfl claimed
      | some region =>
          have unclaimed : (store region).activeSector = none := by
            simpa using List.find?_some free
          obtain ⟨after, appended, trails⟩ :=
            (@Trails.claimed any (store region) entry.msgType
              entry.senderHash).append (Nat.zero_le _) (legacySlot entry)
          have placed :=
            placed_update (Or.inr ⟨found, unclaimed⟩) trails.isClaimed
          refine ⟨_, region, ?_, placed, migrating.step placed ?_⟩
          · simp [HistoryStore.append, appendConversation, findOrClaimRegion,
              found, free, appended]
          · rw [Function.update_self, noEntries]
            exact trails

/-- A conversation without a region has a free one, if there is room. -/
theorem freeRegions_nonempty
    {store : HistoryStore}
    {entry : HistoryEntry}
    {rest : List HistoryEntry}
    (room : HasRoom store (entry :: rest))
    (noRegion :
      store.findClaimedRegion entry.msgType entry.senderHash = none) :
    (freeRegions store).Nonempty := by
  have isUnplaced :
      (entry.msgType, entry.senderHash) ∈ unplaced store (entry :: rest) := by
    simp [unplaced, noRegion]
  have some := Finset.card_pos.mpr ⟨_, isUnplaced⟩
  rw [HasRoom] at room
  exact Finset.card_pos.mp (by omega)

/-- What is not placed after an append was not before, and is another one. -/
theorem Placed.unplaced_subset
    {store after : HistoryStore}
    {entry : HistoryEntry}
    {region : Fin maxConversationRegions}
    (placed : Placed store after entry.msgType entry.senderHash region)
    (rest : List HistoryEntry) :
    unplaced after rest ⊆
      (unplaced store (entry :: rest)).erase
        (entry.msgType, entry.senderHash) := by
  rintro ⟨kind, convHash⟩ member
  obtain ⟨isListed, noRegion⟩ := Finset.mem_filter.mp member
  have other : (kind, convHash) ≠ (entry.msgType, entry.senderHash) := by
    rintro same
    obtain ⟨rfl, rfl⟩ := Prod.mk.inj same
    rw [placed.found] at noRegion
    cases noRegion
  rw [placed.others kind convHash other] at noRegion
  refine Finset.mem_erase.mpr
    ⟨other, Finset.mem_filter.mpr ⟨?_, noRegion⟩⟩
  rw [List.mem_toFinset] at isListed ⊢
  exact List.mem_cons_of_mem _ isListed

/-- Of the free regions at most the placed one is taken. -/
theorem Placed.freeRegions_subset
    {store after : HistoryStore}
    {kind : HistoryMsgType}
    {convHash : UInt8}
    {region : Fin maxConversationRegions}
    (placed : Placed store after kind convHash region) :
    (freeRegions store).erase region ⊆ freeRegions after := by
  intro other member
  obtain ⟨apart, isFree⟩ := Finset.mem_erase.mp member
  refine Finset.mem_filter.mpr ⟨Finset.mem_univ other, ?_⟩
  rw [placed.untouched other apart]
  exact (Finset.mem_filter.mp isFree).2

/-- There is still room after an append. -/
theorem Placed.hasRoom
    {store after : HistoryStore}
    {entry : HistoryEntry}
    {rest : List HistoryEntry}
    {region : Fin maxConversationRegions}
    (placed : Placed store after entry.msgType entry.senderHash region)
    (room : HasRoom store (entry :: rest)) :
    HasRoom after rest := by
  have fewer := Finset.card_le_card (placed.unplaced_subset rest)
  have stillFree := Finset.card_le_card placed.freeRegions_subset
  rw [HasRoom] at room ⊢
  rcases placed.before with found | ⟨noRegion, unclaimed⟩
  · have belongs := (findClaimedRegion_eq_some_iff.mp found).1
    have notFree : region ∉ freeRegions store := by
      intro isFree
      rw [belongsTo, (Finset.mem_filter.mp isFree).2] at belongs
      cases belongs
    rw [Finset.erase_eq_of_notMem notFree] at stillFree
    have notMore :=
      Finset.card_erase_le (s := unplaced store (entry :: rest))
        (a := (entry.msgType, entry.senderHash))
    omega
  · have isUnplaced :
        (entry.msgType, entry.senderHash) ∈
          unplaced store (entry :: rest) := by
      simp [unplaced, noRegion]
    have isFree : region ∈ freeRegions store :=
      Finset.mem_filter.mpr ⟨Finset.mem_univ region, unclaimed⟩
    rw [Finset.card_erase_of_mem isUnplaced] at fewer
    rw [Finset.card_erase_of_mem isFree] at stillFree
    omega

/-- With room for all conversations a boot migrates every entry. -/
theorem Migrating.migrateEntries
    {any : Prop}
    {store : HistoryStore}
    {done rest : List HistoryEntry}
    (migrating : store.Migrating any done)
    (few : (done ++ rest).length ≤ maxHistoryEntries)
    (room : HasRoom store rest) :
    (store.migrateEntries rest).Migrating any (done ++ rest) := by
  induction rest generalizing store done with
  | nil =>
      rw [List.append_nil]
      exact migrating
  | cons entry rest inductionHypothesis =>
      have fewDone : done.length ≤ maxHistoryEntries := by
        rw [List.length_append] at few
        omega
      obtain ⟨after, region, appended, placed, next⟩ :=
        migrating.append fewDone (freeRegions_nonempty room)
      have fewNext :
          (done ++ [entry] ++ rest).length ≤ maxHistoryEntries := by
        rw [List.append_assoc]
        exact few
      have rest' := inductionHypothesis next fewNext (placed.hasRoom room)
      rw [List.append_assoc] at rest'
      rw [HistoryStore.migrateEntries, appended]
      exact rest'

/-- A reader sees the conversation's legacy entries. -/
theorem Migrating.conversation_eq
    {any : Prop}
    {store : HistoryStore}
    {entries : List HistoryEntry}
    (migrating : store.Migrating any entries)
    (few : entries.length ≤ maxHistoryEntries)
    (full : any → FillsConversation entries)
    {entry : HistoryEntry}
    (member : entry ∈ entries) :
    store.conversation entry.msgType entry.senderHash =
      legacyEntriesOf entry.msgType entry.senderHash entries := by
  have fewOwn :=
    length_legacyEntriesOf_le entry.msgType entry.senderHash entries
  rw [conversation]
  cases found :
      store.findClaimedRegion entry.msgType entry.senderHash with
  | none =>
      exact (migrating.absent _ _ found).symm
  | some region =>
      refine (migrating.trails _ _ region found).liveView_eq
        (Nat.le_trans fewOwn few) ?_
      intro anySlot
      obtain ⟨whole, kind, convHash, all⟩ := full anySlot
      have isOne := all entry member
      obtain ⟨sameKind, sameHash⟩ := Bool.and_eq_true_iff.mp isOne
      rw [legacyEntriesOf, List.length_map, eq_of_beq sameKind,
        eq_of_beq sameHash, List.filter_eq_self.mpr all]
      exact whole

end HistoryStore

open HistoryStore

/-- There are no more legacy entries than the ring has places. -/
theorem LegacyNvs.length_entries_le
    (nvs : LegacyNvs) :
    nvs.entries.length ≤ maxHistoryEntries := by
  have bounded : nvs.readLegacyMeta.2.toNat ≤ 32 := by
    rw [readLegacyMeta]
    cases nvs.cnt with
    | none => exact Nat.zero_le _
    | some cnt =>
        have isMin : min cnt 32 = if cnt ≤ 32 then cnt else 32 := rfl
        simp only [isMin]
        split
        · exact UInt8.le_iff_toNat_le.mp ‹_›
        · exact Nat.le_refl _
  rw [entries]
  refine Nat.le_trans (List.length_filterMap_le _ _) ?_
  rw [List.length_range]
  exact bounded

/-- The marker is none of the entries. -/
theorem LegacyNvs.entries_marked
    (nvs : LegacyNvs)
    (marker : Option UInt8) :
    ({ nvs with migrated := marker } : LegacyNvs).entries = nvs.entries :=
  rfl

/-- While there is no marker the regions are filled; with it every conversation
has its legacy entries. -/
structure Interrupted
    (any : Prop)
    (entries : List HistoryEntry)
    (device : LegacyDevice) :
    Prop where
  entries : device.nvs.entries = entries
  filled : device.nvs.isMigrated = false → device.store.Filled any
  once : MigratedOnce device

/-- A boot that finds the marker changes nothing. -/
theorem migrateLegacyNvsOnce_migrated
    {device : LegacyDevice}
    (isMigrated : device.nvs.isMigrated = true)
    (boot : Boot) :
    migrateLegacyNvsOnce device boot = device := by
  unfold migrateLegacyNvsOnce
  rw [if_pos isMigrated]

/-- A harmless boot that completes migrates every entry. -/
theorem migratedOnce_complete
    {any : Prop}
    {device : LegacyDevice}
    (filled : device.store.Filled any)
    (full : any → FillsConversation device.nvs.entries)
    (room : HasRoom device.store device.nvs.entries) :
    MigratedOnce
      { store := device.store.migrateEntries device.nvs.entries
        nvs := { device.nvs with migrated := some 1 } } := by
  intro _ entry member
  have few := device.nvs.length_entries_le
  exact
    (filled.migrating.migrateEntries few room).conversation_eq few full
      member

/-- A harmless boot migrates every entry, or leaves the regions filled. -/
theorem Interrupted.step
    {any : Prop}
    {entries : List HistoryEntry}
    {device : LegacyDevice}
    (interrupted : Interrupted any entries device)
    (full : any ↔ FillsConversation entries)
    {boot : Boot}
    (harmless : Harmless device boot) :
    Interrupted any entries (migrateLegacyNvsOnce device boot) := by
  cases isMigrated : device.nvs.isMigrated with
  | true =>
      rw [migrateLegacyNvsOnce_migrated isMigrated]
      exact interrupted
  | false =>
      have filled := interrupted.filled isMigrated
      have notMigrated : ¬device.nvs.isMigrated = true := by
        rw [isMigrated]
        exact Bool.false_ne_true
      rw [← interrupted.entries] at full
      unfold migrateLegacyNvsOnce
      rw [if_neg notMigrated]
      cases boot with
      | complete =>
          have room := harmless.resolve_left notMigrated
          exact
            { entries := interrupted.entries
              filled := nofun
              once := migratedOnce_complete filled full.mp room }
      | powerLoss written =>
          have early :
              any ∨ LostEarly device.store device.nvs.entries written :=
            (harmless.resolve_left notMigrated).imp_left full.mpr
          exact
            { entries := interrupted.entries
              filled := fun _ => filled.cutMigration early
              once := fun migrated => absurd migrated notMigrated }

/-- A store without claimed regions is filled. -/
theorem filled_of_unclaimed
    {store : HistoryStore}
    (unclaimed : ∀ region, (store region).activeSector = none)
    (any : Prop) :
    store.Filled any := by
  intro region sector header hasHeader
  obtain ⟨first, second⟩ := activeSector_eq_none_iff.mp (unclaimed region)
  match sector, hasHeader with
  | 0, hasHeader =>
      rw [first] at hasHeader
      cases hasHeader
  | 1, hasHeader =>
      rw [second] at hasHeader
      cases hasHeader

/--
From a partition without conversations, however often boots lose power at whatever
byte: if each of them is harmless, then once the marker is set every legacy entry
is in its conversation once, in the ring's order.
-/
theorem migration_once
    {device : LegacyDevice}
    {boots : List Boot}
    (notMigrated : device.nvs.isMigrated = false)
    (unclaimed : ∀ region, (device.store region).activeSector = none)
    (harmless : Along migrateLegacyNvsOnce Harmless device boots) :
    Always migrateLegacyNvsOnce MigratedOnce device boots := by
  have initially :
      Interrupted (FillsConversation device.nvs.entries)
        device.nvs.entries device :=
    { entries := rfl
      filled := fun _ => filled_of_unclaimed unclaimed _
      once := fun migrated => by
        rw [notMigrated] at migrated
        cases migrated }
  have always :=
    always_of_along
      (fun _ _ interrupted harmless =>
        interrupted.step Iff.rfl harmless)
      initially harmless
  exact always.mono fun _ interrupted => interrupted.once

/-- A received message of the conversation with a contact. -/
def receivedEntry : HistoryEntry :=
  { senderHash := 0x07
    msgType := .dm
    timestamp := 1
    text := Vector.replicate 64 0x61
    textLen := 2 }

/-- An erased partition, and a ring with one message. -/
def upgradedDevice : LegacyDevice :=
  { store := newErased
    nvs :=
      { head := some 1
        cnt := some 1
        slots := fun slot =>
          if slot = 0 then some (encodeEntryBlob receivedEntry) else none
        migrated := none } }

theorem upgradedDevice_entries :
    upgradedDevice.nvs.entries = [receivedEntry] := by
  decide +kernel

theorem regions_pos :
    1 < maxConversationRegions := by
  decide

/-- The first region of the partition. -/
def firstRegion : Fin maxConversationRegions :=
  ⟨0, Nat.lt_of_succ_lt regions_pos⟩

/-- The region behind it. -/
def secondRegion : Fin maxConversationRegions :=
  ⟨1, regions_pos⟩

/-- The writes that append an entry on an erased partition. -/
def firstWrites
    (entry : HistoryEntry) :
    List RegionWrite :=
  claimWrites entry.msgType entry.senderHash ++
    [slotWrite 0 0 (legacySlot entry)]

/-- The first entry on an erased partition claims the first region. -/
theorem legacyWrites_newErased
    (entry : HistoryEntry) :
    legacyWrites HistoryStore.newErased entry =
      .ok (firstRegion, firstWrites entry) := by
  have noRegion :
      findClaimedRegion HistoryStore.newErased entry.msgType
          entry.senderHash =
        none := by
    simp [findClaimedRegion, belongsTo, HistoryStore.newErased,
      activeSector_newErased]
  have free :
      ((List.finRange maxConversationRegions).find? fun region =>
          (HistoryStore.newErased region).activeSector.isNone) =
        some firstRegion := by
    simp only [HistoryStore.newErased, activeSector_newErased]
    rfl
  rw [legacyWrites, conversationWrites, noRegion]
  simp only [free, appendRegionWrites_claimRegion]
  rfl

theorem totalSize_firstWrites
    (entry : HistoryEntry) :
    totalSize (firstWrites entry) = 8272 := by
  rw [firstWrites, totalSize_slotWrite]
  simp [totalSize, claimWrites, RegionWrite.size, sectorSize]

/-- There is room for one conversation if any region is free. -/
theorem hasRoom_one
    {store : HistoryStore}
    {region : Fin maxConversationRegions}
    (unclaimed : (store region).activeSector = none)
    (entry : HistoryEntry) :
    HasRoom store [entry] := by
  have free : region ∈ freeRegions store :=
    Finset.mem_filter.mpr ⟨Finset.mem_univ region, unclaimed⟩
  have some := Finset.card_pos.mpr ⟨region, free⟩
  have one : (unplaced store [entry]).card ≤ 1 :=
    Nat.le_trans (Finset.card_filter_le _ _) (List.toFinset_card_le _)
  exact Nat.le_trans one some

/-- What a boot leaves that loses power while it migrates a single entry. -/
theorem cutMigration_newErased
    (entry : HistoryEntry)
    (written : Nat) :
    cutMigration HistoryStore.newErased [entry] written =
      carryOut HistoryStore.newErased firstRegion
        (cutWrites written (firstWrites entry)) := by
  rw [cutMigration, legacyWrites_newErased]
  simp only
  split
  · rename_i complete
    rw [cutMigration, cutWrites_all complete]
  · rfl

/-- The device behind a boot that lost power. -/
theorem upgradedDevice_powerLoss
    (written : Nat) :
    migrateLegacyNvsOnce upgradedDevice (.powerLoss written) =
      { upgradedDevice with
        store :=
          carryOut HistoryStore.newErased firstRegion
            (cutWrites written (firstWrites receivedEntry)) } := by
  rw [← cutMigration_newErased, ← upgradedDevice_entries]
  rfl

/-- A boot that loses power at the second byte of the entry is harmless. -/
theorem lost_early_migrates_once :
    Always migrateLegacyNvsOnce MigratedOnce upgradedDevice
      [.powerLoss 8201, .complete] := by
  apply migration_once rfl (fun _ => activeSector_newErased)
  refine ⟨Or.inr (Or.inr ?_), Or.inr ?_, trivial⟩
  · have early : 8201 + 71 ≤ totalSize (firstWrites receivedEntry) := by
      rw [totalSize_firstWrites]
    rw [upgradedDevice_entries]
    simp only [LostEarly, upgradedDevice, legacyWrites_newErased]
    exact early
  · rw [upgradedDevice_powerLoss]
    have untouched :
        carryOut HistoryStore.newErased firstRegion
            (cutWrites 8201 (firstWrites receivedEntry)) secondRegion =
          HistoryRegion.newErased :=
      Function.update_of_ne (by decide) _ _
    have unclaimed := activeSector_newErased
    rw [← untouched] at unclaimed
    have room := hasRoom_one unclaimed receivedEntry
    rw [← upgradedDevice_entries] at room
    exact room

/-- The store behind the only entry of a ring. -/
theorem first_append
    (entry : HistoryEntry) :
    ∃ after,
      cutMigration HistoryStore.newErased [entry] 8272 = after ∧
        after.Sound ∧
        after.conversation entry.msgType entry.senderHash =
          [legacySlot entry] := by
  have isAppend :
      appendConversation HistoryStore.newErased entry.msgType
          entry.senderHash (legacySlot entry) =
        .ok
          (carryOut HistoryStore.newErased firstRegion
            (firstWrites entry)) := by
    have isWrites := legacyWrites_newErased entry
    rw [legacyWrites] at isWrites
    rw [appendConversation_eq, isWrites]
    rfl
  refine ⟨_, cutMigration_newErased entry 8272, ?_⟩
  rw [cutWrites_all (Nat.le_of_eq (totalSize_firstWrites entry))]
  rcases sound_newErased.append entry.msgType entry.senderHash
    (legacySlot entry) with
    ⟨after, appended, sound, conversation, -⟩ | ⟨failed, -⟩
  · rw [isAppend] at appended
    cases appended
    rw [conversation_newErased] at conversation
    exact ⟨sound, conversation⟩
  · rw [isAppend] at failed
    cases failed

/-- An entry that is migrated again is stored again. -/
theorem second_append
    {store : HistoryStore}
    (sound : store.Sound)
    {entry : HistoryEntry}
    (stored :
      store.conversation entry.msgType entry.senderHash =
        [legacySlot entry]) :
    (store.migrateEntries [entry]).conversation entry.msgType
        entry.senderHash =
      [legacySlot entry, legacySlot entry] := by
  rcases sound.append entry.msgType entry.senderHash (legacySlot entry) with
    ⟨after, appended, -, conversation, -⟩ | ⟨-, noEntries, -⟩
  · rw [stored] at conversation
    rw [migrateEntries, HistoryStore.append, appended]
    exact conversation
  · rw [stored] at noEntries
    cases noEntries

/-- A boot that loses power behind the entry, and before the marker, makes the
next one store it again. -/
theorem replayed_entry_is_stored_twice :
    ¬∀ device : LegacyDevice,
      device.nvs.isMigrated = false →
      (∀ region, (device.store region).activeSector = none) →
      ∀ boots,
        Always migrateLegacyNvsOnce MigratedOnce device boots := by
  intro always
  have once :=
    (always upgradedDevice rfl (fun _ => activeSector_newErased)
      [.powerLoss 8272, .complete]).last
  have entries := upgradedDevice_entries
  obtain ⟨after, isAfter, sound, stored⟩ := first_append receivedEntry
  have isDevice :
      run migrateLegacyNvsOnce upgradedDevice
          [.powerLoss 8272, .complete] =
        { store := after.migrateEntries [receivedEntry]
          nvs := { upgradedDevice.nvs with migrated := some 1 } } := by
    rw [← isAfter, ← entries]
    rfl
  rw [isDevice] at once
  have isMember :
      receivedEntry ∈
        ({ upgradedDevice.nvs with migrated := some 1 } :
          LegacyNvs).entries := by
    rw [LegacyNvs.entries_marked, entries]
    exact List.mem_singleton_self _
  have isOnce := once rfl receivedEntry isMember
  have twice := second_append sound stored
  rw [LegacyNvs.entries_marked, entries] at isOnce
  rw [isOnce] at twice
  have length := congrArg List.length twice
  revert length
  decide

end MeshCadet
