import MeshCadet.AdminEdits
import MeshCadet.ContactPolicy

namespace MeshCadet

/-!
# First-boot provisioning

An unprovisioned device stages a configuration frame by frame and commits it
once.  The staging server shares its edits with the admin server, except that
its add-contact arm appends.  The allowlist is built from the committed contacts
and looks one up by its first entry, so a configuration is only consistent while
its contacts have different keys.
-/

namespace ProvisionedConfig

/-- What an edit can do to the contacts: nothing, an upsert or a removal. -/
inductive ContactsStep
    (config : ProvisionedConfig) :
    List Contact → Prop where
  | untouched :
      ContactsStep config config.contacts.elements
  | upserted
      {contact : Contact}
      {next : ProvisionedConfig}
      {outcome : Upsert}
      (accepted : config.upsertContact contact = .ok (next, outcome)) :
      ContactsStep config next.contacts.elements
  | removed
      (pubkey : Key) :
      ContactsStep config (config.removeContact pubkey).contacts.elements

theorem upsertRoomExtra_contacts
    {config next : ProvisionedConfig}
    {extra : RoomExtra}
    (accepted : config.upsertRoomExtra extra = some next) :
    next.contacts = config.contacts :=
  (roomExtraCount_upsertRoomExtra accepted extra.pubkey).1

theorem handleAddContact_contacts
    (config : ProvisionedConfig)
    (payload : List UInt8) :
    ContactsStep config
      (config.handleAddContact payload).1.contacts.elements := by
  unfold handleAddContact
  split
  · exact .untouched
  · split
    · next accepted => exact .upserted accepted
    · exact .untouched

theorem handleDelContact_contacts
    (config : ProvisionedConfig)
    (payload : List UInt8) :
    ContactsStep config
      (config.handleDelContact payload).1.contacts.elements := by
  unfold handleDelContact
  split
  · exact .untouched
  · next pubkey _ =>
    split
    · exact .removed pubkey
    · exact .untouched

theorem handleAddRoom_contacts
    {config next : ProvisionedConfig}
    {payload : List UInt8}
    {outcome : AddRoomOutcome}
    (handled : config.handleAddRoom payload = some (next, outcome)) :
    ContactsStep config next.contacts.elements := by
  simp only [handleAddRoom] at handled
  split at handled
  · cases handled
    exact .untouched
  · obtain ⟨result, upserted, same⟩ := Option.map_eq_some_iff.mp handled
    simp only [upsertRoom] at upserted
    split at upserted
    · cases upserted
      cases same
      exact .untouched
    · next withContact contactOutcome accepted =>
      obtain ⟨withRoom, withExtra, rfl⟩ :=
        Option.map_eq_some_iff.mp upserted
      have sameContacts := upsertRoomExtra_contacts withExtra
      have isNext : withRoom = next := by
        cases contactOutcome <;>
          exact congrArg Prod.fst same
      rw [← isNext, sameContacts]
      exact .upserted accepted

theorem handleDelRoom_contacts
    (config : ProvisionedConfig)
    (payload : List UInt8) :
    ContactsStep config
      (config.handleDelRoom payload).1.contacts.elements := by
  unfold handleDelRoom
  split
  · exact .untouched
  · next pubkey _ => exact .removed pubkey

/-- Every admin edit upserts a contact, removes one or leaves them alone. -/
theorem handleEdit_contacts
    {config next : ProvisionedConfig}
    {edit : AdminEdit}
    {reply : AdminReply}
    (handled : config.handleEdit edit = some (next, reply)) :
    ContactsStep config next.contacts.elements := by
  cases edit with
  | addContact payload =>
      have isNext : (config.handleAddContact payload).1 = next :=
        congrArg Prod.fst (Option.some.inj handled)
      exact isNext ▸ config.handleAddContact_contacts payload
  | delContact payload =>
      have isNext : (config.handleDelContact payload).1 = next :=
        congrArg Prod.fst (Option.some.inj handled)
      exact isNext ▸ config.handleDelContact_contacts payload
  | addChannel payload =>
      have isNext : (config.handleAddChannel payload).1 = next :=
        congrArg Prod.fst (Option.some.inj handled)
      rw [← isNext,
        (AdminServer.handleAddChannel_untouched config payload).1]
      exact .untouched
  | delChannel payload =>
      have isNext : (config.handleDelChannel payload).1 = next :=
        congrArg Prod.fst (Option.some.inj handled)
      rw [← isNext,
        (AdminServer.handleDelChannel_untouched config payload).1]
      exact .untouched
  | addRoom payload =>
      obtain ⟨⟨added, outcome⟩, answered, same⟩ :=
        Option.map_eq_some_iff.mp handled
      have isNext : added = next := by
        cases outcome <;>
          exact congrArg Prod.fst same
      exact isNext ▸ handleAddRoom_contacts answered
  | delRoom payload =>
      have stepped := config.handleDelRoom_contacts payload
      cases removed : config.handleDelRoom payload with
      | mk after outcome =>
          rw [removed] at stepped
          cases outcome <;>
            · simp only [handleEdit, removed] at handled
              cases handled
              exact stepped

/-- A contact that is appended adds its key to the end of the keys. -/
theorem contactKeys_push
    {config : ProvisionedConfig}
    {contact : Contact}
    {contacts : BoundedList Contact maxContacts}
    (pushed : config.contacts.push? contact = some contacts) :
    contacts.elements.map Contact.pubkey =
      config.contactKeys ++ [contact.pubkey] := by
  simp [contactKeys, BoundedList.push?_eq_some_iff.mp pushed]

/-- Appending a key keeps different keys different exactly when it is new. -/
theorem nodup_concat_iff
    {keys : List Key}
    {key : Key} :
    (keys ++ [key]).Nodup ↔ key ∉ keys ∧ keys.Nodup :=
  List.nodup_append_comm.trans List.nodup_cons

/-- A key without a contact is not among the keys. -/
theorem not_mem_contactKeys
    {config : ProvisionedConfig}
    {pubkey : Key}
    (missing : config.contactFor? pubkey = none) :
    pubkey ∉ config.contactKeys := by
  intro member
  obtain ⟨other, otherMember, same⟩ := List.mem_map.mp member
  have noMatch := List.find?_eq_none.mp missing other otherMember
  simp [same] at noMatch

/-- An upsert keeps different keys different. -/
theorem upsertContact_distinct
    {config next : ProvisionedConfig}
    {contact : Contact}
    {outcome : Upsert}
    (distinct : config.contactKeys.Nodup)
    (accepted : config.upsertContact contact = .ok (next, outcome)) :
    next.contactKeys.Nodup := by
  rcases upsertContact_cases accepted with
    ⟨old, found, rfl⟩ | ⟨missing, contacts, pushed, rfl⟩
  · have sameKeys :
        contactKeys
            { config with
              contacts :=
                config.contacts.updateFirst
                  (·.pubkey == contact.pubkey) fun _ => contact } =
          config.contactKeys := by
      apply Search.map_updateFirst
      intro other isMatch
      exact (beq_iff_eq.mp isMatch).symm
    exact sameKeys ▸ distinct
  · rw [contactKeys, contactKeys_push pushed]
    exact nodup_concat_iff.mpr ⟨not_mem_contactKeys missing, distinct⟩

/-- An accepted upsert leaves the contact on the list. -/
theorem upsertContact_mem
    {config next : ProvisionedConfig}
    {contact : Contact}
    {outcome : Upsert}
    (accepted : config.upsertContact contact = .ok (next, outcome)) :
    contact ∈ next.contacts.elements := by
  rcases upsertContact_cases accepted with
    ⟨old, found, rfl⟩ | ⟨-, contacts, pushed, rfl⟩
  · exact Search.change_mem_updateFirst (fun _ => contact) found
  · simp [BoundedList.push?_eq_some_iff.mp pushed]

/-- A removal takes the key's first entry off the list of keys. -/
theorem contactKeys_removeContact
    (config : ProvisionedConfig)
    (pubkey : Key) :
    (config.removeContact pubkey).contactKeys =
      config.contactKeys.erase pubkey := by
  rw [List.erase_eq_eraseP', contactKeys, contactKeys, List.eraseP_map]
  rfl

/-- What an edit does to the contacts keeps different keys different. -/
theorem ContactsStep.distinct
    {config : ProvisionedConfig}
    {contacts : List Contact}
    (stepped : ContactsStep config contacts)
    (distinct : config.contactKeys.Nodup) :
    (contacts.map Contact.pubkey).Nodup := by
  cases stepped with
  | untouched => exact distinct
  | upserted accepted => exact upsertContact_distinct distinct accepted
  | removed pubkey =>
      have keys := config.contactKeys_removeContact pubkey
      rw [contactKeys] at keys
      exact keys ▸ distinct.erase pubkey

/-- The allowlist a boot builds from the configuration's contacts. -/
def policy
    (config : ProvisionedConfig) :
    PolicyFilter :=
  PolicyFilter.new.addContacts <|
    config.contacts.elements.map fun contact =>
      { pubkey := contact.pubkey
        telemetry := contact.telemetryEnable }

/-- Every contact fits on the allowlist, in the order of the configuration. -/
theorem policy_elements
    (config : ProvisionedConfig) :
    config.policy.elements =
      config.contacts.elements.map fun contact =>
        { pubkey := contact.pubkey
          telemetry := contact.telemetryEnable } := by
  apply PolicyFilter.elements_new_addContacts
  rw [List.length_map]
  exact config.contacts.fits

/--
Every contact key has one entry: the allowlist agrees with it, whoever is found
under a hash of its own is asked about with its flag, and an upsert or a removal
of the key leaves no other entry behind.
-/
structure Consistent
    (config : ProvisionedConfig) :
    Prop where
  distinct : config.contactKeys.Nodup
  flagsAgree :
    ∀ contact ∈ config.contacts.elements,
      ∀ entry ∈ config.policy.elements,
        entry.pubkey = contact.pubkey →
          entry.telemetry = contact.telemetryEnable
  gateAgrees :
    ∀ contact ∈ config.contacts.elements,
      (∀ other ∈ config.contacts.elements,
        pubHash other.pubkey = pubHash contact.pubkey →
          other.pubkey = contact.pubkey) →
        config.policy.telemetryEnabled (pubHash contact.pubkey) =
          contact.telemetryEnable
  upsertReaches :
    ∀ contact next outcome,
      config.upsertContact contact = .ok (next, outcome) →
        ∀ other ∈ next.contacts.elements,
          other.pubkey = contact.pubkey → other = contact
  removalReaches :
    ∀ pubkey, pubkey ∉ (config.removeContact pubkey).contactKeys

/-- Contacts with different keys are told apart by their keys. -/
theorem eq_of_pubkey_eq
    {config : ProvisionedConfig}
    (distinct : config.contactKeys.Nodup)
    {first second : Contact}
    (isFirst : first ∈ config.contacts.elements)
    (isSecond : second ∈ config.contacts.elements)
    (same : first.pubkey = second.pubkey) :
    first = second :=
  List.inj_on_of_nodup_map distinct isFirst isSecond same

/-- The entry of the allowlist that is found under a hash is of a contact. -/
theorem policy_find
    {config : ProvisionedConfig}
    {hash : UInt8}
    {entry : PolicyContact}
    (found : config.policy.find hash = some entry) :
    ∃ contact ∈ config.contacts.elements,
      entry.pubkey = contact.pubkey ∧
        entry.telemetry = contact.telemetryEnable ∧
        pubHash contact.pubkey = hash := by
  have member := List.mem_of_find?_eq_some found
  rw [policy_elements] at member
  obtain ⟨contact, contactMember, rfl⟩ := List.mem_map.mp member
  exact ⟨contact, contactMember, rfl, rfl,
    by simpa [PolicyContact.hash] using List.find?_some found⟩

/-- Every contact's hash is found on the allowlist. -/
theorem policy_finds_contact
    {config : ProvisionedConfig}
    {contact : Contact}
    (member : contact ∈ config.contacts.elements) :
    ∃ entry,
      config.policy.find (pubHash contact.pubkey) = some entry := by
  apply Option.isSome_iff_exists.mp
  rw [PolicyFilter.find, policy_elements, List.find?_isSome]
  exact ⟨_, List.mem_map_of_mem member, by simp [PolicyContact.hash]⟩

/-- A configuration is consistent exactly when its contact keys differ. -/
theorem consistent_iff
    {config : ProvisionedConfig} :
    config.Consistent ↔ config.contactKeys.Nodup := by
  refine ⟨Consistent.distinct, fun distinct => ?_⟩
  refine
    { distinct := distinct
      flagsAgree := ?_
      gateAgrees := ?_
      upsertReaches := ?_
      removalReaches := ?_ }
  · intro contact member entry entryMember same
    rw [policy_elements] at entryMember
    obtain ⟨other, otherMember, rfl⟩ := List.mem_map.mp entryMember
    rw [eq_of_pubkey_eq distinct otherMember member same]
  · intro contact member ownHash
    obtain ⟨entry, found⟩ := policy_finds_contact member
    obtain ⟨other, otherMember, -, flag, sameHash⟩ := policy_find found
    have isContact : other = contact :=
      eq_of_pubkey_eq distinct otherMember member
        (ownHash other otherMember sameHash)
    simp [PolicyFilter.telemetryEnabled, found, flag, isContact]
  · intro contact next outcome accepted other otherMember same
    have ownMember : contact ∈ next.contacts.elements :=
      upsertContact_mem accepted
    exact eq_of_pubkey_eq (upsertContact_distinct distinct accepted)
      otherMember ownMember same
  · intro pubkey
    rw [contactKeys_removeContact]
    exact distinct.not_mem_erase

/-- The first-boot add-contact arm: a chat contact is appended. -/
def stageAddContact
    (config : ProvisionedConfig)
    (payload : List UInt8) :
    ProvisionedConfig × AdminReply :=
  match decodeAddContact payload with
  | .error _ =>
      (config, .error errDecodeError "add_contact decode error")
  | .ok add =>
      match config.contacts.push? (chatContact add) with
      | some contacts =>
          ({ config with contacts := contacts }, .ok)
      | none =>
          (config, .error errContactListFull "contact list full")

/-- One staged frame and its answer; only add-contact has an arm of its own. -/
def stageEdit
    (config : ProvisionedConfig) :
    AdminEdit → Option (ProvisionedConfig × AdminReply)
  | .addContact payload => some (config.stageAddContact payload)
  | edit => config.handleEdit edit

/-- What the next boot loads after a commit. -/
def committed
    (config : ProvisionedConfig) :
    ProvisionedConfig :=
  bootConfig (some (serializeConfig config))

end ProvisionedConfig

namespace FirstBoot

/-- The staged configuration after a frame; `none` once the server panicked. -/
def step
    (state : Option ProvisionedConfig)
    (edit : AdminEdit) :
    Option ProvisionedConfig :=
  state.bind fun config => (config.stageEdit edit).map Prod.fst

/-- The frame adds a contact, a channel or a room. -/
def adds : AdminEdit → Bool
  | .addContact _ => true
  | .addChannel _ => true
  | .addRoom _ => true
  | _ => false

/-- The staged rooms have contacts and bounded lengths. -/
structure Storable
    (config : ProvisionedConfig) :
    Prop where
  rooms : config.RoomsHaveContacts
  bounded : AdminServer.ExtrasBounded config

/-- A commit of storable rooms loads as it was staged. -/
theorem Storable.committed_eq
    {config : ProvisionedConfig}
    (storable : Storable config) :
    config.committed = config := by
  have loadable : config.Loadable :=
    loadable_iff.mpr
      { roomsFit := storable.rooms.rooms_le_contacts
        bounded := storable.bounded }
  rw [ProvisionedConfig.Loadable] at loadable
  simp [ProvisionedConfig.committed, bootConfig, loadable]

/--
The server has not panicked, a commit loads as it was staged, and the staged
configuration is consistent.
-/
def Sound
    (state : Option ProvisionedConfig) :
    Prop :=
  ∃ config,
    state = some config ∧
      config.committed = config ∧
      config.Consistent

/-- An add-contact frame that is accepted brings a key not yet staged. -/
def StagesNewKey
    (config : ProvisionedConfig) :
    AdminEdit → Prop
  | .addContact payload =>
      ∀ add,
        decodeAddContact payload = .ok add →
        config.contacts.elements.length < maxContacts →
          add.pubkey ∉ config.contactKeys
  | _ =>
      True

instance StagesNewKey.decidable
    (config : ProvisionedConfig) :
    ∀ edit, Decidable (StagesNewKey config edit)
  | .addContact payload =>
      match decoded : decodeAddContact payload with
      | .ok add =>
          decidable_of_iff
            (config.contacts.elements.length < maxContacts →
              add.pubkey ∉ config.contactKeys)
            ⟨fun isNew _ same => by
              rw [decoded] at same
              cases same
              exact isNew,
            fun isNew => isNew add decoded⟩
      | .error _ =>
          .isTrue fun _ isAdd => by
            rw [decoded] at isAdd
            cases isAdd
  | .delContact _ | .addChannel _ | .delChannel _ | .addRoom _
  | .delRoom _ =>
      .isTrue trivial

/--
What is shown of an add frame: it answers, keeps the rooms storable, and keeps
different contact keys different exactly on its condition.
-/
def ArmSpec
    (config : ProvisionedConfig)
    (edit : AdminEdit) :
    Prop :=
  ∃ next reply,
    config.stageEdit edit = some (next, reply) ∧
      Storable next ∧
      (config.contactKeys.Nodup →
        (next.contactKeys.Nodup ↔ StagesNewKey config edit))

/-- A refused frame changes nothing. -/
theorem ArmSpec.refused
    {config : ProvisionedConfig}
    {edit : AdminEdit}
    (reply : AdminReply)
    (storable : Storable config)
    (keeps : StagesNewKey config edit)
    (answered : config.stageEdit edit = some (config, reply)) :
    ArmSpec config edit :=
  ⟨config, reply, answered, storable,
    fun distinct => iff_of_true distinct keeps⟩

theorem addContact_arm
    {config : ProvisionedConfig}
    (storable : Storable config)
    (payload : List UInt8) :
    ArmSpec config (.addContact payload) := by
  cases decoded : decodeAddContact payload with
  | error problem =>
      refine ArmSpec.refused
        (.error errDecodeError "add_contact decode error") storable ?_ ?_
      · simp [StagesNewKey, decoded]
      · simp [ProvisionedConfig.stageEdit,
          ProvisionedConfig.stageAddContact, decoded]
  | ok add =>
      cases pushed :
          config.contacts.push? (ProvisionedConfig.chatContact add) with
      | none =>
          have full := BoundedList.push?_eq_none_iff.mp pushed
          refine ArmSpec.refused
            (.error errContactListFull "contact list full") storable ?_ ?_
          · intro _ _ notFull
            omega
          · simp [ProvisionedConfig.stageEdit,
              ProvisionedConfig.stageAddContact, decoded, pushed]
      | some contacts =>
          have keys := ProvisionedConfig.contactKeys_push pushed
          have notFull :
              config.contacts.elements.length < maxContacts := by
            have fits := contacts.fits
            rw [BoundedList.push?_eq_some_iff.mp pushed,
              List.length_append, List.length_singleton] at fits
            omega
          refine ⟨{ config with contacts := contacts }, .ok, ?_,
            ⟨⟨storable.rooms.distinct, ?_⟩, storable.bounded⟩,
            fun distinct => ?_⟩
          · simp [ProvisionedConfig.stageEdit,
              ProvisionedConfig.stageAddContact, decoded, pushed]
          · rw [ProvisionedConfig.contactKeys, keys]
            exact List.Subset.trans storable.rooms.haveContacts
              (List.subset_append_left _ _)
          · rw [ProvisionedConfig.contactKeys, keys,
              ProvisionedConfig.nodup_concat_iff]
            simp [StagesNewKey, decoded, notFull, distinct,
              ProvisionedConfig.chatContact]

theorem addChannel_arm
    {config : ProvisionedConfig}
    (storable : Storable config)
    (payload : List UInt8) :
    ArmSpec config (.addChannel payload) := by
  obtain ⟨sameContacts, sameExtras⟩ :=
    AdminServer.handleAddChannel_untouched config payload
  have sameKeys :
      (config.handleAddChannel payload).1.contactKeys =
        config.contactKeys := by
    simp [ProvisionedConfig.contactKeys, sameContacts]
  refine ⟨(config.handleAddChannel payload).1,
    (config.handleAddChannel payload).2, rfl,
    ⟨⟨?_, ?_⟩, ?_⟩, fun distinct => ?_⟩
  · simpa [ProvisionedConfig.roomExtraKeys, sameExtras] using
      storable.rooms.distinct
  · simpa [ProvisionedConfig.roomExtraKeys, sameExtras, sameKeys] using
      storable.rooms.haveContacts
  · simpa [AdminServer.ExtrasBounded, sameExtras] using storable.bounded
  · simp [sameKeys, distinct, StagesNewKey]

/-- A room upsert keeps the rooms storable. -/
theorem Storable.upsertRoom
    {config next : ProvisionedConfig}
    {contact : Contact}
    {extra : RoomExtra}
    {outcome : Upsert}
    (storable : Storable config)
    (extraBounded : extra.Bounded)
    (accepted :
      config.upsertRoom contact extra = some (.ok (next, outcome))) :
    Storable next := by
  refine ⟨?_, AdminServer.upsertRoom_extras_bounded storable.bounded
    extraBounded accepted⟩
  cases upserted :
      config.upsertContact { contact with role := roleRoom } with
  | error full =>
      simp [ProvisionedConfig.upsertRoom, upserted] at accepted
  | ok result =>
      obtain ⟨withContact, contactOutcome⟩ := result
      simp only [ProvisionedConfig.upsertRoom, upserted] at accepted
      obtain ⟨withRoom, extraAccepted, same⟩ :=
        Option.map_eq_some_iff.mp accepted
      simp only [Except.ok.injEq, Prod.mk.injEq] at same
      obtain ⟨rfl, rfl⟩ := same
      obtain ⟨ownKey, oldKeys, sameExtras⟩ :=
        ProvisionedConfig.upsertContact_spec upserted
      have rooms : withContact.RoomsHaveContacts := by
        refine ⟨?_, ?_⟩
        · simpa [ProvisionedConfig.roomExtraKeys, sameExtras] using
            storable.rooms.distinct
        · rw [ProvisionedConfig.roomExtraKeys, sameExtras]
          exact List.Subset.trans storable.rooms.haveContacts oldKeys
      exact rooms.upsertRoomExtra ownKey extraAccepted

theorem addRoom_arm
    {config : ProvisionedConfig}
    (storable : Storable config)
    (payload : List UInt8) :
    ArmSpec config (.addRoom payload) := by
  cases decoded : decodeAddRoom payload with
  | error problem =>
      refine ArmSpec.refused
        (.error errDecodeError "add_room decode error")
        storable trivial ?_
      simp [ProvisionedConfig.stageEdit, ProvisionedConfig.handleEdit,
        ProvisionedConfig.handleAddRoom, decoded]
  | ok add =>
      obtain ⟨result, answered⟩ :=
        Option.isSome_iff_exists.mp
          (ProvisionedConfig.upsertRoom_isSome storable.rooms
            (ProvisionedConfig.roomContact add)
            (ProvisionedConfig.freshRoomExtra add))
      cases result with
      | error full =>
          refine ArmSpec.refused
            (.error errContactListFull "contact list full")
            storable trivial ?_
          simp [ProvisionedConfig.stageEdit,
            ProvisionedConfig.handleEdit,
            ProvisionedConfig.handleAddRoom, decoded, answered]
      | ok result =>
          obtain ⟨next, outcome⟩ := result
          have handled :
              config.handleEdit (.addRoom payload) =
                some (next, .ok) := by
            cases outcome <;>
              simp [ProvisionedConfig.handleEdit,
                ProvisionedConfig.handleAddRoom, decoded, answered]
          exact ⟨next, .ok, handled,
            storable.upsertRoom
              (AdminServer.freshRoomExtra_bounded decoded) answered,
            fun distinct =>
              iff_of_true
                ((ProvisionedConfig.handleEdit_contacts
                  handled).distinct distinct)
                trivial⟩

/-- Every add frame, on storable rooms, is as its condition says. -/
theorem arm_spec
    {config : ProvisionedConfig}
    (storable : Storable config)
    {edit : AdminEdit}
    (isAdd : adds edit = true) :
    ArmSpec config edit := by
  cases edit with
  | addContact payload => exact addContact_arm storable payload
  | addChannel payload => exact addChannel_arm storable payload
  | addRoom payload => exact addRoom_arm storable payload
  | delContact payload => cases isAdd
  | delChannel payload => cases isAdd
  | delRoom payload => cases isAdd

/-- From a sound state, an add frame stays sound exactly on its condition. -/
theorem step_sound_iff
    {config : ProvisionedConfig}
    (storable : Storable config)
    (distinct : config.contactKeys.Nodup)
    {edit : AdminEdit}
    (isAdd : adds edit = true) :
    (∃ next, step (some config) edit = some next ∧ Storable next) ∧
      (Sound (step (some config) edit) ↔ StagesNewKey config edit) := by
  obtain ⟨next, reply, answered, nextStorable, distinctIff⟩ :=
    arm_spec storable isAdd
  have stepped : step (some config) edit = some next := by
    simp [step, answered]
  refine ⟨⟨next, stepped, nextStorable⟩, ?_⟩
  rw [stepped, ← distinctIff distinct]
  constructor
  · rintro ⟨_, ⟨rfl⟩, -, consistent⟩
    exact consistent.distinct
  · intro nextDistinct
    exact ⟨next, rfl, nextStorable.committed_eq,
      ProvisionedConfig.consistent_iff.mpr nextDistinct⟩

/--
Whatever contacts, channels and rooms are staged, the server does not panic and a
commit loads what was staged; the staged configuration stays consistent exactly
when every add-contact frame it accepts brings a key that is not yet staged.
-/
theorem staged_consistent_iff
    (edits : List AdminEdit)
    (onlyAdds : ∀ edit ∈ edits, adds edit = true) :
    Transition.Always step Sound (some .empty) edits ↔
      Transition.Along step
        (fun state edit =>
          ∀ config, state = some config → StagesNewKey config edit)
        (some .empty) edits := by
  have storableEmpty : Storable .empty :=
    { rooms := ⟨List.nodup_nil, List.nil_subset _⟩
      bounded := fun _ member => absurd member List.not_mem_nil }
  refine
    @Transition.always_iff_along_assuming _ _ step Sound
      (fun state => ∃ config, state = some config ∧ Storable config)
      _ (fun _ edit => adds edit = true)
      ?_ ?_ _ _ ⟨.empty, rfl, storableEmpty⟩
      ⟨.empty, rfl, storableEmpty.committed_eq,
        ProvisionedConfig.consistent_iff.mpr List.nodup_nil⟩
      (Transition.along_of_forall onlyAdds _)
  · rintro _ edit ⟨config, rfl, storable⟩ ⟨_, ⟨rfl⟩, -, consistent⟩ isAdd
    exact (step_sound_iff storable consistent.distinct isAdd).1
  · rintro _ edit ⟨config, rfl, storable⟩ ⟨_, ⟨rfl⟩, -, consistent⟩ isAdd
    simpa using
      (step_sound_iff storable consistent.distinct isAdd).2

/-- Two contacts, one with a name, and a room with a password. -/
def twoContactsAndRoom : List AdminEdit :=
  [.addContact (List.replicate 32 0xAB ++ [0, 0]),
    .addContact (List.replicate 32 0xCD ++ [1, 1, 0x62]),
    .addRoom (List.replicate 32 0xEF ++ [2, 0x70, 0x77, 1, 0x72])]

/-- Contacts with different keys, and a room, stay consistent. -/
theorem staged_consistent_room :
    Transition.Always step Sound (some .empty) twoContactsAndRoom ∧
      (Transition.run step (some .empty) twoContactsAndRoom).map
          (fun config =>
            (config.contactKeys.length,
              config.roomExtras.elements.length)) =
        some (3, 1) := by
  refine ⟨?_, by decide +kernel⟩
  refine (staged_consistent_iff twoContactsAndRoom (by decide)).mpr ?_
  have staged :
      Transition.Along step
        (fun state edit =>
          state.all fun config => decide (StagesNewKey config edit))
        (some .empty) twoContactsAndRoom := by
    decide +kernel
  refine staged.mono ?_
  rintro _ edit isNew config rfl
  exact of_decide_eq_true isNew

/-- A contact added again, the second time with telemetry. -/
def repeatedContact : List AdminEdit :=
  [.addContact (List.replicate 32 0xAB ++ [0, 0]),
    .addContact (List.replicate 32 0xAB ++ [1, 0])]

/--
Adding a contact again stages it twice: the keys repeat and the allowlist still
refuses the telemetry that the second frame enabled.
-/
theorem repeatedContact_staged_twice :
    (¬ ∀ edits,
      (∀ edit ∈ edits, adds edit = true) →
        Transition.Always step Sound (some .empty) edits) ∧
      ((Transition.run step (some .empty) repeatedContact).map
        fun config =>
          (config.contactKeys.length,
            config.policy.telemetryEnabled 0xAB)) =
        some (2, false) := by
  refine ⟨fun always => ?_, by decide +kernel⟩
  obtain ⟨config, reached, -, consistent⟩ :=
    (always repeatedContact (by decide)).last
  have repeats :
      (Transition.run step (some .empty) repeatedContact).all
          (fun config => decide config.contactKeys.Nodup) =
        false := by
    decide +kernel
  rw [reached] at repeats
  simp [consistent.distinct] at repeats

end FirstBoot

end MeshCadet
