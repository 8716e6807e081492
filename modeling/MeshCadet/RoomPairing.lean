import Mathlib.Data.List.Nodup
import Mathlib.Data.List.Perm.Subperm
import MeshCadet.ConfigStore

namespace MeshCadet

/-!
# Pairing of rooms and contacts under edits

Pairing is a statement about two counts per public key: the room contacts and
the room extras with that key.  Each edit's effect on both counts is stated
once; whether an edit keeps the pairing is then arithmetic at the edited key.
-/

namespace ProvisionedConfig

/-- The first contact with the key is a room. -/
def holdsRoom
    (config : ProvisionedConfig)
    (pubkey : Key) :
    Bool :=
  (config.contactFor? pubkey).any Contact.isRoom

/-- Pairing says that both counts of every key agree and are at most one. -/
theorem paired_iff
    {config : ProvisionedConfig} :
    config.Paired ↔
      ∀ key,
        config.roomContactCount key = config.roomExtraCount key ∧
          config.roomExtraCount key ≤ 1 := by
  constructor
  · intro paired key
    rcases Nat.eq_zero_or_pos (config.roomExtraCount key) with
      noExtra | someExtra
    · rcases Nat.eq_zero_or_pos (config.roomContactCount key) with
        noContact | someContact
      · omega
      · obtain ⟨contact, member, isMatch⟩ :=
          List.countP_pos_iff.mp someContact
        simp only [Bool.and_eq_true, beq_iff_eq] at isMatch
        have paired := paired.contactHasExtra contact member isMatch.1
        rw [isMatch.2] at paired
        omega
    · obtain ⟨extra, member, isMatch⟩ :=
        List.countP_pos_iff.mp someExtra
      have oneContact := paired.extraHasContact extra member
      rw [beq_iff_eq.mp isMatch] at oneContact
      obtain ⟨contact, contactMember, contactMatch⟩ :=
        List.countP_pos_iff.mp
          (show 0 < config.roomContactCount key by omega)
      simp only [Bool.and_eq_true, beq_iff_eq] at contactMatch
      have oneExtra :=
        paired.contactHasExtra contact contactMember contactMatch.1
      rw [contactMatch.2] at oneExtra
      omega
  · intro counts
    refine ⟨fun extra member => ?_, fun contact member isRoom => ?_⟩
    · have present : 0 < config.roomExtraCount extra.pubkey :=
        List.countP_pos_iff.mpr ⟨extra, member, by simp⟩
      have here := counts extra.pubkey
      omega
    · have present : 0 < config.roomContactCount contact.pubkey :=
        List.countP_pos_iff.mpr ⟨contact, member, by simp [isRoom]⟩
      have here := counts contact.pubkey
      omega

/-- A key has an extra exactly when its count is positive. -/
theorem roomExtra?_isSome_iff
    {config : ProvisionedConfig}
    {key : Key} :
    (config.roomExtra? key).isSome ↔ 0 < config.roomExtraCount key := by
  simp [roomExtra?, roomExtraCount, List.countP_pos_iff]

/-- A room found by its key counts for that key. -/
theorem roomContactCount_pos_of_holdsRoom
    {config : ProvisionedConfig}
    {key : Key}
    (holds : config.holdsRoom key = true) :
    0 < config.roomContactCount key := by
  cases found : config.contactFor? key with
  | none =>
      simp [holdsRoom, found] at holds
  | some contact =>
      have isRoom : contact.isRoom = true := by
        simpa [holdsRoom, found] using holds
      have samePubkey : contact.pubkey = key := by
        simpa using List.find?_some found
      exact List.countP_pos_iff.mpr
        ⟨contact, List.mem_of_find?_eq_some found,
          by simp [isRoom, samePubkey]⟩

/-- What one contact adds to the room count of a key. -/
def roomWeight
    (pubkey : Key)
    (isRoom : Bool)
    (key : Key) :
    Nat :=
  if isRoom = true ∧ pubkey = key then 1 else 0

@[simp] theorem roomWeight_self
    (pubkey : Key)
    (isRoom : Bool) :
    roomWeight pubkey isRoom pubkey = isRoom.toNat := by
  cases isRoom <;> simp [roomWeight]

theorem roomWeight_other
    {pubkey key : Key}
    (other : key ≠ pubkey)
    (isRoom : Bool) :
    roomWeight pubkey isRoom key = 0 := by
  simp [roomWeight, Ne.symm other]

theorem roomWeight_eq
    (contact : Contact)
    (key : Key) :
    (if (contact.isRoom && contact.pubkey == key) = true
      then 1 else 0) =
      roomWeight contact.pubkey contact.isRoom key := by
  simp [roomWeight]

/-- The first contact with a key weighs as much as the key's room. -/
theorem roomWeight_first
    {config : ProvisionedConfig}
    {pubkey : Key}
    {contact : Contact}
    (found : config.contactFor? pubkey = some contact)
    (key : Key) :
    roomWeight contact.pubkey contact.isRoom key =
      roomWeight pubkey (config.holdsRoom pubkey) key := by
  have samePubkey : contact.pubkey = pubkey := by
    simpa using List.find?_some found
  simp [samePubkey, holdsRoom, found]

/-- Without a contact the key has no room to weigh. -/
theorem roomWeight_missing
    {config : ProvisionedConfig}
    {pubkey : Key}
    (missing : config.contactFor? pubkey = none)
    (key : Key) :
    roomWeight pubkey (config.holdsRoom pubkey) key = 0 := by
  simp [roomWeight, holdsRoom, missing]

/-- An accepted upsert exchanges the key's first contact or adds a new one. -/
theorem upsertContact_cases
    {config next : ProvisionedConfig}
    {contact : Contact}
    {outcome : Upsert}
    (accepted : config.upsertContact contact = .ok (next, outcome)) :
    (∃ old,
        config.contactFor? contact.pubkey = some old ∧
          next =
            { config with
              contacts :=
                config.contacts.updateFirst
                  (·.pubkey == contact.pubkey) fun _ => contact }) ∨
      (config.contactFor? contact.pubkey = none ∧
        ∃ contacts,
          config.contacts.push? contact = some contacts ∧
            next = { config with contacts := contacts }) := by
  cases found : config.contactFor? contact.pubkey with
  | some old =>
      simp only [upsertContact, found, Except.ok.injEq,
        Prod.mk.injEq] at accepted
      exact .inl ⟨old, rfl, accepted.1.symm⟩
  | none =>
      simp only [upsertContact, found] at accepted
      cases pushed : config.contacts.push? contact with
      | none =>
          simp [pushed] at accepted
      | some contacts =>
          simp only [pushed, Except.ok.injEq,
            Prod.mk.injEq] at accepted
          exact .inr ⟨rfl, contacts, rfl, accepted.1.symm⟩

/-- An upsert exchanges the key's first contact for the new one. -/
theorem roomContactCount_upsertContact
    {config next : ProvisionedConfig}
    {contact : Contact}
    {outcome : Upsert}
    (accepted : config.upsertContact contact = .ok (next, outcome))
    (key : Key) :
    next.roomContactCount key +
        roomWeight contact.pubkey
          (config.holdsRoom contact.pubkey) key =
      config.roomContactCount key +
        roomWeight contact.pubkey contact.isRoom key := by
  rcases upsertContact_cases accepted with
    ⟨old, found, rfl⟩ | ⟨missing, contacts, pushed, rfl⟩
  · rw [← roomWeight_first found, ← roomWeight_eq, ← roomWeight_eq]
    exact Search.countP_updateFirst found
  · rw [roomWeight_missing missing, ← roomWeight_eq]
    simp [roomContactCount, BoundedList.push?_eq_some_iff.mp pushed,
      List.countP_append, List.countP_singleton]

/-- The public keys of the contacts, in list order. -/
def contactKeys
    (config : ProvisionedConfig) :
    List Key :=
  config.contacts.elements.map Contact.pubkey

/-- The public keys of the room extras, in list order. -/
def roomExtraKeys
    (config : ProvisionedConfig) :
    List Key :=
  config.roomExtras.elements.map RoomExtra.pubkey

/-- An upsert keeps every contact key, adds its own and touches no extra. -/
theorem upsertContact_spec
    {config next : ProvisionedConfig}
    {contact : Contact}
    {outcome : Upsert}
    (accepted : config.upsertContact contact = .ok (next, outcome)) :
    contact.pubkey ∈ next.contactKeys ∧
      config.contactKeys ⊆ next.contactKeys ∧
      next.roomExtras = config.roomExtras := by
  rcases upsertContact_cases accepted with
    ⟨old, found, rfl⟩ | ⟨-, contacts, pushed, rfl⟩
  · have sameKeys :
        contactKeys
            { config with
              contacts :=
                config.contacts.updateFirst
                  (·.pubkey == contact.pubkey) fun _ => contact } =
          config.contactKeys := by
      apply Search.map_updateFirst
      intro other isMatch
      exact (beq_iff_eq.mp isMatch).symm
    have present : contact.pubkey ∈ config.contactKeys :=
      List.mem_map.mpr
        ⟨old, List.mem_of_find?_eq_some found,
          by simpa using List.find?_some found⟩
    refine ⟨sameKeys ▸ present, ?_, rfl⟩
    rw [sameKeys]
    exact List.Subset.refl _
  · have appended := BoundedList.push?_eq_some_iff.mp pushed
    simp [contactKeys, appended]

/-- A removal takes the key's first contact out of the count. -/
theorem roomContactCount_removeContact
    (config : ProvisionedConfig)
    (pubkey key : Key) :
    (config.removeContact pubkey).roomContactCount key +
        roomWeight pubkey (config.holdsRoom pubkey) key =
      config.roomContactCount key := by
  cases found : config.contactFor? pubkey with
  | some old =>
      rw [← roomWeight_first found, ← roomWeight_eq]
      exact Search.countP_eraseP found
  | none =>
      rw [roomWeight_missing found]
      have untouched :
          config.contacts.elements.eraseP (·.pubkey == pubkey) =
            config.contacts.elements :=
        List.eraseP_of_forall_not
          (by simpa using List.find?_eq_none.mp found)
      simp [roomContactCount, removeContact, BoundedList.removeFirst,
        untouched]

theorem roomExtraCount_eq
    (config : ProvisionedConfig)
    (key : Key) :
    config.roomExtraCount key = config.roomExtraKeys.count key := by
  simp [roomExtraCount, roomExtraKeys, List.count,
    List.countP_map, Function.comp_def]

/-- An extra upsert adds one to its key's count exactly when it is new. -/
theorem roomExtraCount_upsertRoomExtra
    {config next : ProvisionedConfig}
    {extra : RoomExtra}
    (accepted : config.upsertRoomExtra extra = some next)
    (key : Key) :
    next.contacts = config.contacts ∧
      next.roomExtraCount key =
        config.roomExtraCount key +
          roomWeight extra.pubkey
            (config.roomExtra? extra.pubkey).isNone key := by
  cases found : config.roomExtra? extra.pubkey with
  | some old =>
      simp only [upsertRoomExtra, found, Option.some.injEq] at accepted
      subst accepted
      have sameKeys :
          (Search.updateFirst (·.pubkey == extra.pubkey)
              (fun _ => extra) config.roomExtras.elements).map
              RoomExtra.pubkey =
            config.roomExtraKeys := by
        apply Search.map_updateFirst
        intro other isMatch
        exact (beq_iff_eq.mp isMatch).symm
      refine ⟨rfl, ?_⟩
      rw [roomExtraCount_eq, roomExtraKeys]
      simp only [BoundedList.updateFirst]
      rw [sameKeys, roomExtraCount_eq]
      simp [roomWeight]
  | none =>
      simp only [upsertRoomExtra, found] at accepted
      obtain ⟨roomExtras, pushed, rfl⟩ :=
        Option.map_eq_some_iff.mp accepted
      have appended := BoundedList.push?_eq_some_iff.mp pushed
      simp [roomExtraCount, roomWeight, appended,
        List.countP_append, List.countP_singleton]

/-- A removal takes one off its key's extra count when there is one. -/
theorem roomExtraCount_removeExtra
    (config : ProvisionedConfig)
    (pubkey key : Key) :
    (config.removeRoomExtra pubkey).roomExtraCount key +
        roomWeight pubkey (config.roomExtra? pubkey).isSome key =
      config.roomExtraCount key := by
  cases found : config.roomExtra? pubkey with
  | some old =>
      have samePubkey : old.pubkey = pubkey := by
        simpa using List.find?_some found
      have counted :
          (config.roomExtras.elements.eraseP
              (·.pubkey == pubkey)).countP (·.pubkey == key) +
              (if (old.pubkey == key) = true then 1 else 0) =
            config.roomExtras.elements.countP (·.pubkey == key) :=
        Search.countP_eraseP found
      simpa [roomExtraCount, removeRoomExtra, BoundedList.removeFirst,
        roomWeight, samePubkey] using counted
  | none =>
      have untouched :
          config.roomExtras.elements.eraseP (·.pubkey == pubkey) =
            config.roomExtras.elements :=
        List.eraseP_of_forall_not
          (by simpa using List.find?_eq_none.mp found)
      simp [roomExtraCount, removeRoomExtra, BoundedList.removeFirst,
        roomWeight, untouched]

/-- Distinct extras with contacts of their keys are no more than contacts. -/
theorem roomExtras_length_le
    {extraKeys contactKeys : List Key}
    (distinct : extraKeys.Nodup)
    (haveContacts : extraKeys ⊆ contactKeys) :
    extraKeys.length ≤ contactKeys.length :=
  (List.subperm_of_subset distinct haveContacts).length_le

/-- Paired extras have distinct keys. -/
theorem Paired.roomExtraKeys_nodup
    {config : ProvisionedConfig}
    (paired : config.Paired) :
    config.roomExtraKeys.Nodup := by
  apply List.nodup_iff_count_le_one.mpr
  intro key
  rw [← roomExtraCount_eq]
  exact (paired_iff.mp paired key).2

/-- Paired extras have contacts of their keys. -/
theorem Paired.roomExtraKeys_subset
    {config : ProvisionedConfig}
    (paired : config.Paired) :
    config.roomExtraKeys ⊆ config.contactKeys := by
  intro key member
  obtain ⟨extra, extraMember, rfl⟩ := List.mem_map.mp member
  have oneContact := paired.extraHasContact extra extraMember
  obtain ⟨contact, contactMember, isMatch⟩ :=
    List.countP_pos_iff.mp
      (show 0 < config.roomContactCount extra.pubkey by omega)
  simp only [Bool.and_eq_true, beq_iff_eq] at isMatch
  exact List.mem_map.mpr ⟨contact, contactMember, isMatch.2⟩

/-- Room extras have different keys, and each key has a contact. -/
structure RoomsHaveContacts
    (config : ProvisionedConfig) :
    Prop where
  distinct : config.roomExtraKeys.Nodup
  haveContacts : config.roomExtraKeys ⊆ config.contactKeys

/-- Paired rooms have contacts. -/
theorem Paired.roomsHaveContacts
    {config : ProvisionedConfig}
    (paired : config.Paired) :
    config.RoomsHaveContacts :=
  ⟨paired.roomExtraKeys_nodup, paired.roomExtraKeys_subset⟩

/-- Rooms that have contacts are no more than the contacts. -/
theorem RoomsHaveContacts.rooms_le_contacts
    {config : ProvisionedConfig}
    (rooms : config.RoomsHaveContacts) :
    config.roomExtras.elements.length ≤
      config.contacts.elements.length := by
  simpa [roomExtraKeys, contactKeys] using
    roomExtras_length_le rooms.distinct rooms.haveContacts

/-- Pairing after an edit of one key is decided at that key. -/
theorem paired_iff_at
    {config next : ProvisionedConfig}
    (paired : config.Paired)
    (pubkey : Key)
    (elsewhere :
      ∀ key,
        key ≠ pubkey →
        next.roomContactCount key = config.roomContactCount key ∧
          next.roomExtraCount key = config.roomExtraCount key) :
    next.Paired ↔
      next.roomContactCount pubkey = next.roomExtraCount pubkey ∧
        next.roomExtraCount pubkey ≤ 1 := by
  rw [paired_iff]
  constructor
  · intro counts
    exact counts pubkey
  · intro here key
    by_cases same : key = pubkey
    · exact same ▸ here
    · obtain ⟨contacts, extras⟩ := elsewhere key same
      rw [contacts, extras]
      exact paired_iff.mp paired key

/-- The room contact of a key, if its first contact is one, is counted. -/
theorem holdsRoom_toNat_le
    (config : ProvisionedConfig)
    (key : Key) :
    (config.holdsRoom key).toNat ≤ config.roomContactCount key := by
  cases holds : config.holdsRoom key with
  | false =>
      exact Nat.zero_le _
  | true =>
      exact roomContactCount_pos_of_holdsRoom holds

/-- In a paired configuration the extra of a key is its whole count. -/
theorem Paired.roomExtra?_toNat
    {config : ProvisionedConfig}
    (paired : config.Paired)
    (key : Key) :
    (config.roomExtra? key).isSome.toNat = config.roomExtraCount key := by
  have atMostOne := (paired_iff.mp paired key).2
  cases present : (config.roomExtra? key).isSome with
  | false =>
      have notPositive : ¬ 0 < config.roomExtraCount key := by
        rw [← roomExtra?_isSome_iff, present]
        simp
      simp
      omega
  | true =>
      have positive := roomExtra?_isSome_iff.mp present
      simp
      omega

/-- A chat contact keeps the pairing unless it takes a room's place. -/
theorem upsertContact_paired_iff
    {config next : ProvisionedConfig}
    {contact : Contact}
    {outcome : Upsert}
    (paired : config.Paired)
    (isChat : contact.isRoom = false)
    (accepted : config.upsertContact contact = .ok (next, outcome)) :
    next.Paired ↔ config.holdsRoom contact.pubkey = false := by
  have contacts := roomContactCount_upsertContact accepted
  have sameExtras :
      ∀ key, next.roomExtraCount key = config.roomExtraCount key := by
    intro key
    simp [roomExtraCount, (upsertContact_spec accepted).2.2]
  have here := paired_iff.mp paired contact.pubkey
  have contactsHere := contacts contact.pubkey
  have holdsLe := config.holdsRoom_toNat_le contact.pubkey
  rw [paired_iff_at paired contact.pubkey, sameExtras]
  · simp only [roomWeight_self, isChat] at contactsHere
    cases holds : config.holdsRoom contact.pubkey <;>
      simp [holds] at contactsHere holdsLe ⊢ <;>
      omega
  · intro key other
    have contactsElsewhere := contacts key
    simp only [roomWeight_other other] at contactsElsewhere
    exact ⟨by omega, sameExtras key⟩

/-- Deleting a contact keeps the pairing unless it is a room. -/
theorem removeContact_paired_iff
    {config : ProvisionedConfig}
    (paired : config.Paired)
    (pubkey : Key) :
    (config.removeContact pubkey).Paired ↔
      config.holdsRoom pubkey = false := by
  have contacts := config.roomContactCount_removeContact pubkey
  have sameExtras :
      (config.removeContact pubkey).roomExtraCount pubkey =
        config.roomExtraCount pubkey :=
    rfl
  have here := paired_iff.mp paired pubkey
  have contactsHere := contacts pubkey
  have holdsLe := config.holdsRoom_toNat_le pubkey
  rw [paired_iff_at paired pubkey, sameExtras]
  · simp only [roomWeight_self] at contactsHere
    cases holds : config.holdsRoom pubkey <;>
      simp [holds] at contactsHere holdsLe ⊢ <;>
      omega
  · intro key other
    have contactsElsewhere := contacts key
    rw [roomWeight_other other] at contactsElsewhere
    exact ⟨by omega, rfl⟩

/-- The first contact with the key is a room whenever the key has an extra. -/
def ExtraHeldByRoom
    (config : ProvisionedConfig)
    (pubkey : Key) :
    Prop :=
  (config.roomExtra? pubkey).isSome = true →
    config.holdsRoom pubkey = true

/-- Removing a room keeps the pairing when it removes its own contact. -/
theorem removeRoom_paired_iff
    {config : ProvisionedConfig}
    (paired : config.Paired)
    (pubkey : Key) :
    (config.removeRoom pubkey).1.Paired ↔
      config.ExtraHeldByRoom pubkey := by
  have contacts :
      ∀ key,
        (config.removeRoom pubkey).1.roomContactCount key +
            roomWeight pubkey (config.holdsRoom pubkey) key =
          config.roomContactCount key :=
    config.roomContactCount_removeContact pubkey
  have extras :
      ∀ key,
        (config.removeRoom pubkey).1.roomExtraCount key +
            roomWeight pubkey (config.roomExtra? pubkey).isSome key =
          config.roomExtraCount key :=
    config.roomExtraCount_removeExtra pubkey
  have here := paired_iff.mp paired pubkey
  have contactsHere := contacts pubkey
  have extrasHere := extras pubkey
  have holdsLe := config.holdsRoom_toNat_le pubkey
  have extraCount := paired.roomExtra?_toNat pubkey
  rw [paired_iff_at paired pubkey, ExtraHeldByRoom]
  · simp only [roomWeight_self] at contactsHere extrasHere
    cases holds : config.holdsRoom pubkey <;>
      cases present : (config.roomExtra? pubkey).isSome <;>
      simp [holds, present]
        at contactsHere extrasHere holdsLe extraCount ⊢ <;>
      omega
  · intro key other
    have contactsElsewhere := contacts key
    have extrasElsewhere := extras key
    rw [roomWeight_other other] at contactsElsewhere extrasElsewhere
    exact ⟨by omega, by omega⟩

/-- A key without an extra is not among the extras' keys. -/
theorem not_mem_roomExtraKeys
    {config : ProvisionedConfig}
    {pubkey : Key}
    (isNew : config.roomExtra? pubkey = none) :
    pubkey ∉ config.roomExtraKeys := by
  intro member
  obtain ⟨extra, extraMember, samePubkey⟩ := List.mem_map.mp member
  have noMatch := List.find?_eq_none.mp isNew extra extraMember
  simp [samePubkey] at noMatch

/-- Extras that have contacts have room for one more contact's. -/
theorem roomExtras_not_full
    {config next : ProvisionedConfig}
    {contact : Contact}
    {outcome : Upsert}
    (rooms : config.RoomsHaveContacts)
    (accepted : config.upsertContact contact = .ok (next, outcome))
    (isNew : config.roomExtra? contact.pubkey = none) :
    config.roomExtras.elements.length < maxContacts := by
  obtain ⟨ownKey, oldKeys, -⟩ := upsertContact_spec accepted
  have fresh := not_mem_roomExtraKeys isNew
  have fits :=
    roomExtras_length_le
      (List.nodup_cons.mpr ⟨fresh, rooms.distinct⟩)
      (List.cons_subset.mpr
        ⟨ownKey, List.Subset.trans rooms.haveContacts oldKeys⟩)
  have bounded := next.contacts.fits
  simp [roomExtraKeys, contactKeys] at fits
  omega

/-- Upserting a room next to rooms with contacts never indexes past the end. -/
theorem upsertRoom_isSome
    {config : ProvisionedConfig}
    (rooms : config.RoomsHaveContacts)
    (contact : Contact)
    (extra : RoomExtra) :
    (config.upsertRoom contact extra).isSome = true := by
  cases accepted :
      config.upsertContact { contact with role := roleRoom } with
  | error full =>
      simp [upsertRoom, accepted]
  | ok result =>
      obtain ⟨withContact, outcome⟩ := result
      have sameExtras := (upsertContact_spec accepted).2.2
      cases found : withContact.roomExtra? contact.pubkey with
      | some old =>
          simp [upsertRoom, accepted, upsertRoomExtra, found]
      | none =>
          have isNew : config.roomExtra? contact.pubkey = none := by
            simpa [roomExtra?, sameExtras] using found
          have notFull :=
            roomExtras_not_full rooms accepted isNew
          cases pushed :
              withContact.roomExtras.push?
                { extra with pubkey := contact.pubkey } with
          | some roomExtras =>
              simp [upsertRoom, accepted, upsertRoomExtra, found,
                pushed]
          | none =>
              have full := BoundedList.push?_eq_none_iff.mp pushed
              rw [sameExtras] at full
              omega

/-- An extra of a contact joins rooms that have contacts. -/
theorem RoomsHaveContacts.upsertRoomExtra
    {config next : ProvisionedConfig}
    {extra : RoomExtra}
    (rooms : config.RoomsHaveContacts)
    (ownContact : extra.pubkey ∈ config.contactKeys)
    (accepted : config.upsertRoomExtra extra = some next) :
    next.RoomsHaveContacts := by
  cases found : config.roomExtra? extra.pubkey with
  | some old =>
      simp only [ProvisionedConfig.upsertRoomExtra, found,
        Option.some.injEq] at accepted
      subst accepted
      have sameKeys :
          roomExtraKeys
              { config with
                roomExtras :=
                  config.roomExtras.updateFirst
                    (·.pubkey == extra.pubkey) fun _ => extra } =
            config.roomExtraKeys := by
        apply Search.map_updateFirst
        intro other isMatch
        exact (beq_iff_eq.mp isMatch).symm
      exact
        { distinct := sameKeys ▸ rooms.distinct
          haveContacts := by
            rw [sameKeys]
            exact rooms.haveContacts }
  | none =>
      simp only [ProvisionedConfig.upsertRoomExtra, found] at accepted
      obtain ⟨roomExtras, pushed, rfl⟩ :=
        Option.map_eq_some_iff.mp accepted
      have keys :
          roomExtraKeys { config with roomExtras := roomExtras } =
            config.roomExtraKeys ++ [extra.pubkey] := by
        simp [roomExtraKeys, BoundedList.push?_eq_some_iff.mp pushed]
      refine ⟨?_, ?_⟩
      · rw [keys]
        exact List.nodup_append_comm.mpr
          (List.nodup_cons.mpr
            ⟨not_mem_roomExtraKeys found, rooms.distinct⟩)
      · rw [keys]
        exact List.append_subset.mpr
          ⟨rooms.haveContacts,
            List.cons_subset.mpr ⟨ownContact, List.nil_subset _⟩⟩

/-- Upserting a room keeps the pairing when it replaces its own contact. -/
theorem upsertRoom_paired_iff
    {config next : ProvisionedConfig}
    {contact : Contact}
    {extra : RoomExtra}
    {outcome : Upsert}
    (paired : config.Paired)
    (accepted :
      config.upsertRoom contact extra = some (.ok (next, outcome))) :
    next.Paired ↔ config.ExtraHeldByRoom contact.pubkey := by
  cases upserted :
      config.upsertContact { contact with role := roleRoom } with
  | error full =>
      simp [upsertRoom, upserted] at accepted
  | ok result =>
      obtain ⟨withContact, contactOutcome⟩ := result
      simp only [upsertRoom, upserted] at accepted
      obtain ⟨withRoom, extraAccepted, same⟩ :=
        Option.map_eq_some_iff.mp accepted
      simp only [Except.ok.injEq, Prod.mk.injEq] at same
      obtain ⟨rfl, rfl⟩ := same
      have sameExtras := (upsertContact_spec upserted).2.2
      have contacts :
          ∀ key,
            withRoom.roomContactCount key +
                roomWeight contact.pubkey
                  (config.holdsRoom contact.pubkey) key =
              config.roomContactCount key +
                roomWeight contact.pubkey true key := by
        intro key
        have counted := roomContactCount_upsertContact upserted key
        have unchanged :=
          (roomExtraCount_upsertRoomExtra extraAccepted key).1
        simpa [roomContactCount, unchanged, Contact.isRoom]
          using counted
      have extras :
          ∀ key,
            withRoom.roomExtraCount key =
              config.roomExtraCount key +
                roomWeight contact.pubkey
                  (config.roomExtra? contact.pubkey).isNone key := by
        intro key
        have counted :=
          (roomExtraCount_upsertRoomExtra extraAccepted key).2
        simpa [roomExtraCount, roomExtra?, sameExtras] using counted
      have here := paired_iff.mp paired contact.pubkey
      have contactsHere := contacts contact.pubkey
      have extrasHere := extras contact.pubkey
      have holdsLe := config.holdsRoom_toNat_le contact.pubkey
      have extraCount := paired.roomExtra?_toNat contact.pubkey
      rw [paired_iff_at paired contact.pubkey, ExtraHeldByRoom]
      · simp only [roomWeight_self] at contactsHere extrasHere
        cases holds : config.holdsRoom contact.pubkey <;>
          cases found : config.roomExtra? contact.pubkey <;>
          simp [holds, found]
            at contactsHere extrasHere holdsLe extraCount ⊢ <;>
          omega
      · intro key other
        have contactsElsewhere := contacts key
        have extrasElsewhere := extras key
        simp only [roomWeight_other other]
          at contactsElsewhere extrasElsewhere
        exact ⟨by omega, by omega⟩

end ProvisionedConfig

end MeshCadet
