import Mathlib.Data.List.TakeDrop
import MeshCadet.HistoryStore
import MeshCadet.RoomPushes
import MeshCadet.Transition

namespace MeshCadet

/-!
# Redelivered posts

A room server repeats a post until it is acknowledged.  The device compares its
timestamp and its whole text with the recent posts.  These hold the text cut to
sixty-four bytes, and what stands before a delimiter in it is taken for a name;
after a reboot they hold the displayed text, which starts with the author's label.
-/

/-- The text survives being kept among the recent posts. -/
structure RawTextKept
    (text : List UInt8) :
    Prop where
  short : text.length ≤ maxHistoryTextLen
  undelimited : ¬channelNameDelim <:+: text

/-- The text survives being kept behind its author's label. -/
structure DisplayedTextKept
    (label text : List UInt8) :
    Prop where
  undelimited : ¬channelNameDelim <:+: label
  short : label.length + 2 + text.length ≤ maxHistoryTextLen
  valid : isUtf8 text = true

/-- A delimiter stands at the front or further behind. -/
theorem channelNameDelim_infix_cons
    (byte : UInt8)
    (rest : List UInt8) :
    channelNameDelim <:+: byte :: rest ↔
      (byte = 0x3A ∧ rest.head? = some 0x20) ∨
        channelNameDelim <:+: rest := by
  rw [List.infix_cons_iff]
  constructor
  · rintro (atFront | behind)
    · obtain ⟨body, isText⟩ := atFront
      simp only [channelNameDelim, List.cons_append, List.nil_append,
        List.cons.injEq] at isText
      obtain ⟨rfl, rfl⟩ := isText
      exact .inl ⟨rfl, rfl⟩
    · exact .inr behind
  · rintro (⟨rfl, isSpace⟩ | behind)
    · obtain ⟨body, rfl⟩ := List.head?_eq_some_iff.mp isSpace
      exact .inl ⟨body, rfl⟩
    · exact .inr behind

/-- A text without a delimiter is all body; another one is split at one. -/
theorem parseChannelText_cases
    (text : List UInt8) :
    (¬channelNameDelim <:+: text ∧ parseChannelText text = (none, text)) ∨
      ∃ name body,
        parseChannelText text = (some name, body) ∧
          text = name ++ channelNameDelim ++ body := by
  induction text with
  | nil =>
      exact .inl ⟨by simp [channelNameDelim], rfl⟩
  | cons byte rest inductionHypothesis =>
      by_cases here : byte = 0x3A ∧ rest.head? = some 0x20
      · obtain ⟨rfl, isSpace⟩ := here
        obtain ⟨body, rfl⟩ := List.head?_eq_some_iff.mp isSpace
        exact .inr ⟨[], body, by simp [parseChannelText], rfl⟩
      · rcases inductionHypothesis with
          ⟨undelimited, parsed⟩ | ⟨name, body, parsed, isText⟩
        · left
          rw [channelNameDelim_infix_cons]
          exact ⟨by tauto, by simp [parseChannelText, here, parsed]⟩
        · right
          exact ⟨byte :: name, body,
            by simp [parseChannelText, here, parsed],
            by simp [isText]⟩

/-- A name that is split off holds no delimiter. -/
theorem undelimited_of_parseChannelText
    {text name body : List UInt8}
    (parsed : parseChannelText text = (some name, body)) :
    ¬channelNameDelim <:+: name := by
  induction text generalizing name with
  | nil =>
      cases parsed
  | cons byte rest inductionHypothesis =>
      rw [parseChannelText] at parsed
      split at parsed
      · cases parsed
        simp [channelNameDelim]
      · rename_i notHere
        split at parsed
        · rename_i before behind parsedRest
          cases parsed
          rw [channelNameDelim_infix_cons, not_or]
          refine ⟨?_, inductionHypothesis parsedRest⟩
          rintro ⟨isColon, isSpace⟩
          obtain ⟨others, rfl⟩ := List.head?_eq_some_iff.mp isSpace
          rcases parseChannelText_cases rest with
            ⟨-, unparsed⟩ | ⟨found, foundBody, isParsed, isText⟩
          · rw [unparsed] at parsedRest
            cases parsedRest
          · rw [parsedRest] at isParsed
            cases isParsed
            exact notHere ⟨isColon, by simp [isText]⟩
        · cases parsed

/-- A text behind a label is found again. -/
theorem parseChannelText_label
    {label : List UInt8}
    (undelimited : ¬channelNameDelim <:+: label)
    (body : List UInt8) :
    parseChannelText (label ++ [0x3A, 0x20] ++ body) =
      (some label, body) := by
  induction label with
  | nil =>
      simp [parseChannelText]
  | cons byte rest inductionHypothesis =>
      rw [channelNameDelim_infix_cons, not_or] at undelimited
      have notHere :
          ¬(byte = 0x3A ∧
            (rest ++ [0x3A, 0x20] ++ body).head? = some 0x20) := by
        rintro ⟨isColon, isSpace⟩
        cases rest with
        | nil => simp at isSpace
        | cons next others => exact undelimited.1 ⟨isColon, isSpace⟩
      simp only [List.cons_append] at notHere inductionHypothesis ⊢
      rw [parseChannelText, if_neg notHere,
        inductionHypothesis undelimited.2]

/-- The text that an entry stores. -/
theorem storedText_buildHistoryEntry
    (senderHash : UInt8)
    (msgType : HistoryMsgType)
    (timestamp : UInt32)
    (text : List UInt8) :
    (buildHistoryEntry senderHash msgType timestamp text).storedText =
      text.take maxHistoryTextLen := by
  have fewBytes : min text.length 64 < 256 := by
    omega
  apply List.ext_getElem
  · simp [HistoryEntry.storedText, buildHistoryEntry, maxHistoryTextLen]
    omega
  · intro index inStored inText
    have inside : index < text.length := by
      simp at inText
      omega
    simp [HistoryEntry.storedText, buildHistoryEntry, Bytes.zeroPadded,
      maxHistoryTextLen, inside]

/-- The entry's body is the text. -/
def HistoryEntry.IsPost
    (entry : HistoryEntry)
    (postTs : UInt32)
    (text : List UInt8) :
    Prop :=
  entry.timestamp = postTs ∧
    (parseChannelText entry.storedText).2 = text

/-- A post is recognised by its raw entry exactly when its text is short and has
no delimiter. -/
theorem isPost_raw_iff
    (hash : UInt8)
    (postTs : UInt32)
    (text : List UInt8) :
    (buildHistoryEntry hash .dm postTs text).IsPost postTs text ↔
      RawTextKept text := by
  have sameTs :
      (buildHistoryEntry hash .dm postTs text).timestamp = postTs :=
    rfl
  simp only [HistoryEntry.IsPost, sameTs, storedText_buildHistoryEntry,
    true_and]
  constructor
  · intro same
    rcases parseChannelText_cases (text.take maxHistoryTextLen) with
      ⟨undelimited, parsed⟩ | ⟨name, body, parsed, isText⟩
    · rw [parsed] at same
      have whole : text.take maxHistoryTextLen = text := same
      rw [whole] at undelimited
      exact ⟨(List.take_eq_self_iff text).mp whole, undelimited⟩
    · -- the body is shorter than the text it was split off
      rw [parsed] at same
      have lengths := congrArg List.length isText
      have sameLength := congrArg List.length same
      simp [channelNameDelim] at lengths sameLength
      omega
  · rintro ⟨short, undelimited⟩
    rw [List.take_of_length_le short]
    rcases parseChannelText_cases text with
      ⟨-, parsed⟩ | ⟨name, body, -, rfl⟩
    · rw [parsed]
    · exact absurd ⟨name, body, by simp⟩ undelimited

/-- A short text behind a label without delimiters is recognised. -/
theorem isPost_displayed
    (hash : UInt8)
    (postTs : UInt32)
    {label text : List UInt8}
    (kept : DisplayedTextKept label text) :
    (buildHistoryEntry hash .dm postTs
      (roomDisplayText label
        (text.take maxHistoryTextLen))).IsPost postTs text := by
  have short := kept.short
  have whole : text.take maxHistoryTextLen = text :=
    List.take_of_length_le (by omega)
  have displayed :
      roomDisplayText label (text.take maxHistoryTextLen) =
        label ++ [0x3A, 0x20] ++ text := by
    rw [whole, roomDisplayText, if_pos kept.valid]
  refine ⟨rfl, ?_⟩
  rw [storedText_buildHistoryEntry, displayed,
    List.take_of_length_le (by simp; omega),
    parseChannelText_label kept.undelimited]

/-- A new post is remembered and persisted. -/
theorem handleRoomPushFrame_new
    {crypto : Crypto}
    {identity : Identity}
    (contactNames : UInt8 → Option (List UInt8))
    {room : RoomRuntime}
    {payload : List UInt8}
    (forUs :
      isRoomFrameForUs payload (pubHash identity.pubkey) = true)
    {destHash srcHash : UInt8}
    {push : RoomPush}
    (decoded :
      decodeRoomPush crypto
          (identity.ecdhSharedSecret crypto room.pubkey) payload =
        .ok (destHash, srcHash, push))
    (isNew :
      isDuplicatePost room.recent push.postTs push.text = false) :
    (handleRoomPushFrame crypto identity contactNames room
          payload).room =
        room.remember
          (buildHistoryEntry room.hash .dm push.postTs push.text) ∧
      (handleRoomPushFrame crypto identity contactNames room
          payload).persisted =
        some
          (buildHistoryEntry room.hash .dm push.postTs
            (roomDisplayText
              (roomPostSenderLabel
                (contactNames (Bytes.firstByte push.authorPubkeyPrefix))
                push.authorPubkeyPrefix)
              (push.text.take maxHistoryTextLen))) := by
  unfold handleRoomPushFrame handleRoomPush
  rw [if_pos forUs, decoded]
  simp only [acceptRoomPush, isNew, Bool.false_eq_true, if_false,
    storedText_buildHistoryEntry, true_and]
  rfl

/-- What a push to a room did. -/
theorem handleRoomPushFrame_cases
    (crypto : Crypto)
    (identity : Identity)
    (contactNames : UInt8 → Option (List UInt8))
    (room : RoomRuntime)
    (payload : List UInt8) :
    ((handleRoomPushFrame crypto identity contactNames room
          payload).room = room ∧
        (handleRoomPushFrame crypto identity contactNames room
          payload).persisted = none) ∨
      ∃ destHash srcHash push,
        decodeRoomPush crypto
            (identity.ecdhSharedSecret crypto room.pubkey) payload =
          .ok (destHash, srcHash, push) ∧
        (handleRoomPushFrame crypto identity contactNames room
            payload).room =
          room.remember
            (buildHistoryEntry room.hash .dm push.postTs push.text) ∧
        (handleRoomPushFrame crypto identity contactNames room
            payload).persisted =
          some
            (buildHistoryEntry room.hash .dm push.postTs
              (roomDisplayText
                (roomPostSenderLabel
                  (contactNames (Bytes.firstByte push.authorPubkeyPrefix))
                  push.authorPubkeyPrefix)
                (push.text.take maxHistoryTextLen))) := by
  by_cases forUs :
      isRoomFrameForUs payload (pubHash identity.pubkey) = true
  · cases decoded :
        decodeRoomPush crypto
          (identity.ecdhSharedSecret crypto room.pubkey) payload with
    | error error =>
        left
        simp [handleRoomPushFrame, handleRoomPush, forUs, decoded]
    | ok fields =>
        obtain ⟨destHash, srcHash, push⟩ := fields
        cases duplicate :
            isDuplicatePost room.recent push.postTs push.text with
        | true =>
            left
            simp [handleRoomPushFrame, handleRoomPush, forUs, decoded,
              acceptRoomPush, duplicate]
        | false =>
            right
            exact ⟨destHash, srcHash, push, rfl,
              handleRoomPushFrame_new contactNames forUs decoded
                duplicate⟩
  · left
    simp [handleRoomPushFrame, forUs]

/-- Remembering a post changes the recent posts only. -/
@[simp] theorem RoomRuntime.remember_pubkey
    (room : RoomRuntime)
    (entry : HistoryEntry) :
    (room.remember entry).pubkey = room.pubkey := by
  unfold remember
  split <;> rfl

@[simp] theorem RoomRuntime.remember_hash
    (room : RoomRuntime)
    (entry : HistoryEntry) :
    (room.remember entry).hash = room.hash := by
  unfold remember
  split <;> rfl

/-- The post is among the entries, with at most so many behind it. -/
def KeepsPost
    (entries : List HistoryEntry)
    (postTs : UInt32)
    (text : List UInt8)
    (newer : Nat) :
    Prop :=
  ∃ earlier entry later,
    entries = earlier ++ entry :: later ∧
      entry.IsPost postTs text ∧
      later.length ≤ newer

namespace KeepsPost

variable
    {entries : List HistoryEntry}
    {postTs : UInt32}
    {text : List UInt8}
    {newer : Nat}

/-- A post that is kept is recognised. -/
theorem isDuplicatePost
    (keeps : KeepsPost entries postTs text newer) :
    isDuplicatePost entries postTs text = true := by
  obtain ⟨earlier, entry, later, rfl, ⟨sameTs, sameText⟩, -⟩ := keeps
  simp [MeshCadet.isDuplicatePost, sameTs, sameText]

/-- The newest entry has nothing behind it. -/
theorem last
    (entries : List HistoryEntry)
    {entry : HistoryEntry}
    (isPost : entry.IsPost postTs text) :
    KeepsPost (entries ++ [entry]) postTs text 0 :=
  ⟨entries, entry, [], rfl, isPost, Nat.le_refl _⟩

/-- A room remembers the post it was given. -/
theorem remembered
    (room : RoomRuntime)
    {entry : HistoryEntry}
    (isPost : entry.IsPost postTs text) :
    KeepsPost (room.remember entry).recent postTs text 0 := by
  unfold RoomRuntime.remember
  split <;> exact last _ isPost

/-- An entry is added behind the post. -/
theorem concat
    (keeps : KeepsPost entries postTs text newer)
    (added : HistoryEntry) :
    KeepsPost (entries ++ [added]) postTs text (newer + 1) := by
  obtain ⟨earlier, entry, later, rfl, isPost, few⟩ := keeps
  exact ⟨earlier, entry, later ++ [added], by simp, isPost,
    by simpa using few⟩

/-- More entries may be behind the post. -/
theorem weaken
    (keeps : KeepsPost entries postTs text newer)
    {more : Nat}
    (atMost : newer ≤ more) :
    KeepsPost entries postTs text more := by
  obtain ⟨earlier, entry, later, isEntries, isPost, few⟩ := keeps
  exact ⟨earlier, entry, later, isEntries, isPost,
    Nat.le_trans few atMost⟩

/-- The newest entries contain the post while few are behind it. -/
theorem rtake
    (keeps : KeepsPost entries postTs text newer)
    {size : Nat}
    (inside : newer < size) :
    KeepsPost (entries.rtake size) postTs text newer := by
  obtain ⟨earlier, entry, later, rfl, isPost, few⟩ := keeps
  refine
    ⟨earlier.drop ((earlier ++ entry :: later).length - size), entry,
      later, ?_, isPost, few⟩
  rw [List.rtake, List.drop_append_of_le_length]
  simp
  omega

/-- A room that remembers another post keeps this one while few are newer, also more
than its list holds if more were restored. -/
theorem remember
    {room : RoomRuntime}
    (keeps : KeepsPost room.recent postTs text newer)
    (few : newer + 1 < max roomRecentCap room.recent.length)
    (added : HistoryEntry) :
    KeepsPost (room.remember added).recent postTs text (newer + 1) := by
  unfold RoomRuntime.remember
  split
  · next full =>
    have oneDropped :
        room.recent.tail ++ [added] =
          (room.recent ++ [added]).rtake room.recent.length := by
      have nonempty : 0 < room.recent.length :=
        Nat.lt_of_lt_of_le (by decide) full
      rw [List.rtake, List.length_append, List.length_singleton,
        Nat.add_sub_cancel_left, List.drop_append_of_le_length nonempty,
        List.drop_one]
    simp only [oneDropped]
    rw [Nat.max_eq_right full] at few
    exact (keeps.concat added).rtake few
  · exact keeps.concat added

end KeepsPost

namespace HistoryStore

/-- The entries of a conversation, without their flags. -/
def entriesOf
    (store : HistoryStore)
    (kind : HistoryMsgType)
    (convHash : UInt8) :
    List HistoryEntry :=
  (store.conversation kind convHash).map DecodedSlot.entry

/-- There is a region for the conversation. -/
def HasRegionFor
    (store : HistoryStore)
    (kind : HistoryMsgType)
    (convHash : UInt8) :
    Prop :=
  store.conversation kind convHash ≠ [] ∨
    ∃ region, (store region).activeSector = none

/-- With a region, the entry joins the newest ones of its conversation. -/
theorem Sound.entriesOf_appended
    {store : HistoryStore}
    (sound : store.Sound)
    {kind : HistoryMsgType}
    {convHash : UInt8}
    (hasRegion : store.HasRegionFor kind convHash)
    (slot : DecodedSlot) :
    (store.appended kind convHash slot).entriesOf kind convHash =
      (store.entriesOf kind convHash ++ [slot.entry]).rtake
        maxHistoryEntries := by
  rcases sound.append kind convHash slot with
    ⟨after, isAfter, -, own, -⟩ | ⟨-, noEntries, allClaimed⟩
  · simp [HistoryStore.appended, isAfter, entriesOf, own,
      HistoryRegion.recent, List.rtake, List.map_drop]
  · rcases hasRegion with hasEntries | ⟨region, free⟩
    · exact absurd noEntries hasEntries
    · exact absurd free (allClaimed region)

/-- Other conversations keep their entries. -/
theorem Sound.entriesOf_appended_other
    {store : HistoryStore}
    (sound : store.Sound)
    {kind otherKind : HistoryMsgType}
    {convHash otherHash : UInt8}
    (other : (otherKind, otherHash) ≠ (kind, convHash))
    (slot : DecodedSlot) :
    (store.appended kind convHash slot).entriesOf otherKind otherHash =
      store.entriesOf otherKind otherHash := by
  rcases sound.append kind convHash slot with
    ⟨after, isAfter, -, -, others⟩ | ⟨failed, -⟩
  · simp [HistoryStore.appended, isAfter, entriesOf,
      others otherKind otherHash other]
  · simp [HistoryStore.appended, failed]

/-- A post that is kept in the store is kept behind one entry more. -/
theorem Sound.keepsPost_appended
    {store : HistoryStore}
    (sound : store.Sound)
    {kind : HistoryMsgType}
    {convHash : UInt8}
    {postTs : UInt32}
    {text : List UInt8}
    {newer : Nat}
    (keeps : KeepsPost (store.entriesOf kind convHash) postTs text newer)
    (few : newer + 1 < maxHistoryEntries)
    (slot : DecodedSlot) :
    KeepsPost ((store.appended kind convHash slot).entriesOf kind convHash)
      postTs text (newer + 1) := by
  have hasRegion : store.HasRegionFor kind convHash := by
    left
    intro noEntries
    obtain ⟨earlier, entry, later, isEntries, -⟩ := keeps
    simp [entriesOf, noEntries] at isEntries
  rw [sound.entriesOf_appended hasRegion]
  exact (keeps.concat slot.entry).rtake few

/-- Acknowledging changes no conversation's entries. -/
theorem Sound.entriesOf_marked
    {store : HistoryStore}
    (sound : store.Sound)
    (kind : HistoryMsgType)
    (convHash : UInt8)
    (otherKind : HistoryMsgType)
    (otherHash : UInt8) :
    (store.marked kind convHash).entriesOf otherKind otherHash =
      store.entriesOf otherKind otherHash := by
  obtain ⟨after, flag, isAfter, -, own, others⟩ :=
    sound.mark kind convHash
  have isMarked : store.marked kind convHash = after := by
    simp [HistoryStore.marked, isAfter]
  rw [isMarked, entriesOf, entriesOf]
  by_cases same : (otherKind, otherHash) = (kind, convHash)
  · obtain ⟨rfl, rfl⟩ := Prod.mk.injEq _ _ _ _ ▸ same
    rw [own]
    exact
      @Search.map_updateLast _ _ _ DecodedSlot.markAcked
        DecodedSlot.entry (fun _ => rfl) _
  · rw [others otherKind otherHash same]

end HistoryStore

/-- A room and the history store, with how many posts the room was given and how
many entries its conversation. -/
structure RoomHistory where
  room : RoomRuntime
  store : HistoryStore
  posts : Nat
  entries : Nat

/-- The list of recent posts does not shrink. -/
theorem RoomRuntime.length_remember
    (room : RoomRuntime)
    (entry : HistoryEntry) :
    max roomRecentCap room.recent.length ≤
      max roomRecentCap (room.remember entry).recent.length := by
  unfold RoomRuntime.remember
  split
  · rename_i full
    have nonempty : 0 < room.recent.length :=
      Nat.lt_of_lt_of_le (by decide) full
    rw [List.length_append, List.length_tail, List.length_singleton,
      Nat.sub_add_cancel nonempty]
  · rw [List.length_append]
    omega

/-- What happens to a room and to the store. -/
inductive RoomEvent where
  | push
      (contactNames : UInt8 → Option (List UInt8))
      (payload : List UInt8)
  | append
      (kind : HistoryMsgType)
      (convHash : UInt8)
      (slot : DecodedSlot)
  | mark
      (kind : HistoryMsgType)
      (convHash : UInt8)
  | reboot

namespace RoomHistory

/-- A room on an erased store. -/
def new
    (pubkey : Key) :
    RoomHistory :=
  { room :=
      { pubkey := pubkey
        hash := pubHash pubkey
        recent := [] }
    store := .newErased
    posts := 0
    entries := 0 }

/-- Persist what a push left to persist. -/
def afterPush
    (history : RoomHistory)
    (effect : RoomFrameEffect) :
    RoomHistory :=
  match effect.persisted with
  | some entry =>
      { room := effect.room
        store :=
          history.store.appended .dm history.room.hash
            { entry := entry
              isOurs := false
              acked := true }
        posts := history.posts + 1
        entries := history.entries + 1 }
  | none => { history with room := effect.room }

/-- One step of a room and of the store.  Appends are of every conversation, the
room's own posts among them; a reboot restores the recent posts. -/
def step
    (crypto : Crypto)
    (identity : Identity)
    (history : RoomHistory) :
    RoomEvent → RoomHistory
  | .push contactNames payload =>
      history.afterPush
        (handleRoomPushFrame crypto identity contactNames history.room
          payload)
  | .append kind convHash slot =>
      { history with
        store := history.store.appended kind convHash slot
        entries :=
          if (kind, convHash) = (.dm, history.room.hash) then
            history.entries + 1
          else
            history.entries }
  | .mark kind convHash =>
      { history with store := history.store.marked kind convHash }
  | .reboot =>
      { history with
        room :=
          { history.room with
            recent := history.store.entriesOf .dm history.room.hash } }

/-- A new post is remembered, persisted and counted. -/
theorem afterPush_new
    {history : RoomHistory}
    {effect : RoomFrameEffect}
    {entry persisted : HistoryEntry}
    (isRoom : effect.room = history.room.remember entry)
    (isPersisted : effect.persisted = some persisted) :
    history.afterPush effect =
      { room := history.room.remember entry
        store :=
          history.store.appended .dm history.room.hash
            { entry := persisted
              isOurs := false
              acked := true }
        posts := history.posts + 1
        entries := history.entries + 1 } := by
  simp only [afterPush, isRoom, isPersisted]

/-- What a push does to a room and to the store. -/
theorem step_push_cases
    (crypto : Crypto)
    (identity : Identity)
    (history : RoomHistory)
    (contactNames : UInt8 → Option (List UInt8))
    (payload : List UInt8) :
    step crypto identity history (.push contactNames payload) = history ∨
      ∃ entry persisted,
        step crypto identity history (.push contactNames payload) =
          { room := history.room.remember entry
            store :=
              history.store.appended .dm history.room.hash
                { entry := persisted
                  isOurs := false
                  acked := true }
            posts := history.posts + 1
            entries := history.entries + 1 } := by
  rcases handleRoomPushFrame_cases crypto identity contactNames
      history.room payload with
    ⟨sameRoom, nothing⟩ | ⟨_, _, push, -, isRoom, isPersisted⟩
  · left
    simp [step, afterPush, nothing, sameRoom]
  · right
    exact ⟨_, _, afterPush_new isRoom isPersisted⟩

/-- A room stays the same room. -/
theorem step_room
    (crypto : Crypto)
    (identity : Identity)
    (history : RoomHistory)
    (event : RoomEvent) :
    (step crypto identity history event).room.pubkey =
        history.room.pubkey ∧
      (step crypto identity history event).room.hash =
        history.room.hash := by
  cases event with
  | push contactNames payload =>
      rcases step_push_cases crypto identity history contactNames payload
        with unchanged | ⟨entry, persisted, isStep⟩
      · rw [unchanged]
        exact ⟨rfl, rfl⟩
      · simp [isStep]
  | append kind convHash slot => exact ⟨rfl, rfl⟩
  | mark kind convHash => exact ⟨rfl, rfl⟩
  | reboot => exact ⟨rfl, rfl⟩

/-- The store stays sound and the room the same. -/
structure Sound
    (pubkey : Key)
    (history : RoomHistory) :
    Prop where
  store : history.store.Sound
  samePubkey : history.room.pubkey = pubkey
  sameHash : history.room.hash = pubHash pubkey

theorem sound_new
    (pubkey : Key) :
    (new pubkey).Sound pubkey :=
  { store := HistoryStore.sound_newErased
    samePubkey := rfl
    sameHash := rfl }

/-- Every step keeps the store sound and the room the same. -/
theorem Sound.step
    {crypto : Crypto}
    {identity : Identity}
    {pubkey : Key}
    {history : RoomHistory}
    (sound : history.Sound pubkey)
    (event : RoomEvent) :
    (step crypto identity history event).Sound pubkey := by
  obtain ⟨samePubkey, sameHash⟩ :=
    step_room crypto identity history event
  refine
    { store := ?_
      samePubkey := samePubkey.trans sound.samePubkey
      sameHash := sameHash.trans sound.sameHash }
  cases event with
  | push contactNames payload =>
      rcases step_push_cases crypto identity history contactNames payload
        with unchanged | ⟨entry, persisted, isStep⟩
      · rw [unchanged]
        exact sound.store
      · rw [isStep]
        exact sound.store.appended _ _ _
  | append kind convHash slot => exact sound.store.appended _ _ _
  | mark kind convHash => exact sound.store.marked _ _
  | reboot => exact sound.store

/-- The list of recent posts had room for so many, and until more are behind the post
than that, the room remembers it. -/
def Remembers
    (postTs : UInt32)
    (text : List UInt8)
    (since behind size : Nat)
    (history : RoomHistory) :
    Prop :=
  since ≤ history.posts ∧
    size ≤ max roomRecentCap history.room.recent.length ∧
    (behind + (history.posts - since) < size →
      KeepsPost history.room.recent postTs text
        (behind + (history.posts - since)))

/-- Until thirty-two further entries came, the store holds the post. -/
def Stores
    (postTs : UInt32)
    (text : List UInt8)
    (since : Nat)
    (history : RoomHistory) :
    Prop :=
  since ≤ history.entries ∧
    (history.entries < since + maxHistoryEntries →
      KeepsPost (history.store.entriesOf .dm history.room.hash) postTs
        text (history.entries - since))

/-- One more entry was added since. -/
theorem one_more
    {entries since : Nat}
    (after : since ≤ entries) :
    entries + 1 - since = entries - since + 1 := by
  omega

/-- Every step but a reboot keeps the post among the recent ones. -/
theorem Remembers.step
    {crypto : Crypto}
    {identity : Identity}
    {postTs : UInt32}
    {text : List UInt8}
    {since behind size : Nat}
    {history : RoomHistory}
    (remembers : history.Remembers postTs text since behind size)
    {event : RoomEvent}
    (noReboot : event ≠ .reboot) :
    (step crypto identity history event).Remembers postTs text since behind
      size := by
  obtain ⟨after, hasSize, keeps⟩ := remembers
  cases event with
  | push contactNames payload =>
      rcases step_push_cases crypto identity history contactNames payload
        with unchanged | ⟨entry, persisted, isStep⟩
      · rw [unchanged]
        exact ⟨after, hasSize, keeps⟩
      · rw [isStep]
        have grown := history.room.length_remember entry
        refine ⟨Nat.le_succ_of_le after, by simp only; omega, ?_⟩
        intro few
        simp only at few ⊢
        rw [one_more after, ← Nat.add_assoc]
        rw [one_more after] at few
        exact (keeps (by omega)).remember (by omega) entry
  | append kind convHash slot => exact ⟨after, hasSize, keeps⟩
  | mark kind convHash => exact ⟨after, hasSize, keeps⟩
  | reboot => exact absurd rfl noReboot

/-- Every step keeps the post in the store. -/
theorem Stores.step
    {crypto : Crypto}
    {identity : Identity}
    {pubkey : Key}
    {postTs : UInt32}
    {text : List UInt8}
    {since : Nat}
    {history : RoomHistory}
    (sound : history.Sound pubkey)
    (stores : history.Stores postTs text since)
    (event : RoomEvent) :
    (step crypto identity history event).Stores postTs text since := by
  obtain ⟨after, keeps⟩ := stores
  cases event with
  | push contactNames payload =>
      rcases step_push_cases crypto identity history contactNames payload
        with unchanged | ⟨entry, persisted, isStep⟩
      · rw [unchanged]
        exact ⟨after, keeps⟩
      · rw [isStep]
        refine ⟨Nat.le_succ_of_le after, ?_⟩
        intro few
        simp only [RoomRuntime.remember_hash] at few ⊢
        rw [one_more after]
        exact
          sound.store.keepsPost_appended (keeps (by omega)) (by omega) _
  | append kind convHash slot =>
      by_cases own : (kind, convHash) = (.dm, history.room.hash)
      · obtain ⟨rfl, rfl⟩ := Prod.mk.inj own
        simp only [RoomHistory.step, if_true]
        refine ⟨Nat.le_succ_of_le after, ?_⟩
        intro few
        simp only at few ⊢
        rw [one_more after]
        exact
          sound.store.keepsPost_appended (keeps (by omega)) (by omega)
            slot
      · simp only [RoomHistory.step, own, if_false]
        refine ⟨after, ?_⟩
        intro few
        simp only at few ⊢
        rw [sound.store.entriesOf_appended_other (Ne.symm own)]
        exact keeps few
  | mark kind convHash =>
      refine ⟨after, ?_⟩
      intro few
      simp only [RoomHistory.step] at few ⊢
      rw [sound.store.entriesOf_marked]
      exact keeps few
  | reboot => exact ⟨after, keeps⟩

/-- A reboot gives the post back to the room. -/
theorem Stores.reboot
    {crypto : Crypto}
    {identity : Identity}
    {postTs : UInt32}
    {text : List UInt8}
    {since : Nat}
    {history : RoomHistory}
    (stores : history.Stores postTs text since)
    (few : history.entries < since + maxHistoryEntries) :
    let rebooted := RoomHistory.step crypto identity history .reboot
    rebooted.Remembers postTs text history.posts (history.entries - since)
      (max roomRecentCap rebooted.room.recent.length) := by
  refine ⟨Nat.le_refl _, Nat.le_refl _, ?_⟩
  intro _
  exact (stores.2 few).weaken (Nat.le_add_right _ _)

section Runs

variable
    {crypto : Crypto}
    {identity : Identity}
    {pubkey : Key}
    {postTs : UInt32}
    {text : List UInt8}
    {since behind size : Nat}
    {history : RoomHistory}

/-- Every run keeps the store sound and the room the same. -/
theorem sound_run
    (sound : history.Sound pubkey)
    (events : List RoomEvent) :
    (Transition.run (step crypto identity) history events).Sound pubkey :=
  (@Transition.always_of_invariant _ _ (step crypto identity)
    (Sound pubkey) (fun _ event kept => kept.step event) _
    sound events).last

/-- Every run without a reboot keeps the post among the recent ones. -/
theorem remembers_run
    (remembers : history.Remembers postTs text since behind size)
    {events : List RoomEvent}
    (noReboot : RoomEvent.reboot ∉ events) :
    (Transition.run (step crypto identity) history events).Remembers
      postTs text since behind size := by
  have guarded :
      Transition.Along (step crypto identity)
        (fun _ event => event ≠ RoomEvent.reboot) history events :=
    @Transition.along_of_forall _ _ (step crypto identity)
      (fun event => event ≠ RoomEvent.reboot) events
      (fun event member isReboot => noReboot (isReboot ▸ member)) history
  exact
    (@Transition.always_of_along _ _ (step crypto identity)
      (Remembers postTs text since behind size) _
      (fun _ _ kept notReboot => kept.step notReboot) _ _ remembers
      guarded).last

/-- Every run keeps the post in the store. -/
theorem stores_run
    (sound : history.Sound pubkey)
    (stores : history.Stores postTs text since)
    (events : List RoomEvent) :
    (Transition.run (step crypto identity) history events).Stores postTs
      text since :=
  (@Transition.always_of_invariant _ _ (step crypto identity)
    (fun state => state.Sound pubkey ∧ state.Stores postTs text since)
    (fun _ event kept =>
      ⟨kept.1.step event, kept.2.step kept.1 event⟩)
    _ ⟨sound, stores⟩ events).last.2

end Runs

end RoomHistory

open RoomHistory in
/-- A post that was accepted is recognised when it is delivered again, and its
acknowledgement returned, in two cases: its text survives among the recent posts
and there was no reboot, or it survives behind its label in the store, which had it
at the last reboot, and few posts came since. -/
theorem redelivery_recognised
    (crypto : Crypto)
    (identity : Identity)
    (pubkey : Key)
    (before between : List RoomEvent)
    {accepting later : RoomHistory}
    (isAccepting :
      accepting =
        Transition.run (step crypto identity) (.new pubkey) before)
    (contactNames : UInt8 → Option (List UInt8))
    {payload copy : List UInt8}
    {destHash srcHash copyDestHash copySrcHash : UInt8}
    {push again : RoomPush}
    (forUs :
      isRoomFrameForUs payload (pubHash identity.pubkey) = true)
    (decoded :
      decodeRoomPush crypto (identity.ecdhSharedSecret crypto pubkey)
          payload =
        .ok (destHash, srcHash, push))
    (isNew :
      isDuplicatePost accepting.room.recent push.postTs push.text = false)
    (redelivered :
      decodeRoomPush crypto (identity.ecdhSharedSecret crypto pubkey)
          copy =
        .ok (copyDestHash, copySrcHash, again))
    (sameTs : again.postTs = push.postTs)
    (sameText : again.text = push.text)
    (isLater :
      later =
        Transition.run (step crypto identity)
          (step crypto identity accepting (.push contactNames payload))
          between)
    (kept :
      (RawTextKept push.text ∧
          RoomEvent.reboot ∉ between ∧
          later.posts < accepting.posts + 1 + roomRecentCap) ∨
        (DisplayedTextKept
            (roomPostSenderLabel
              (contactNames (Bytes.firstByte push.authorPubkeyPrefix))
              push.authorPubkeyPrefix)
            push.text ∧
          accepting.store.HasRegionFor .dm (pubHash pubkey) ∧
          ∃ first last rebooted,
            between = first ++ .reboot :: last ∧
              RoomEvent.reboot ∉ last ∧
              rebooted =
                Transition.run (step crypto identity)
                  (step crypto identity accepting
                    (.push contactNames payload))
                  (first ++ [.reboot]) ∧
              rebooted.entries <
                accepting.entries + 1 + maxHistoryEntries ∧
              rebooted.entries + (later.posts - rebooted.posts) <
                accepting.entries + 1 +
                  max roomRecentCap rebooted.room.recent.length)) :
    ∃ outcome,
      handleRoomPush crypto (identity.ecdhSharedSecret crypto pubkey) copy
          identity.pubkey (pubHash pubkey) later.room.recent =
        .ok outcome ∧
      outcome.entry = none ∧
      outcome.ackHash =
        roomPushAckHash crypto again.postTs again.attempt again.pushBody
          identity.pubkey := by
  have sound : accepting.Sound pubkey := by
    rw [isAccepting]
    exact sound_run (sound_new pubkey) before
  obtain ⟨isRoom, isPersisted⟩ :=
    handleRoomPushFrame_new contactNames forUs
      (sound.samePubkey ▸ decoded) isNew
  have accepted :
      step crypto identity accepting (.push contactNames payload) = _ :=
    afterPush_new isRoom isPersisted
  have recognised :
      isDuplicatePost later.room.recent again.postTs again.text = true := by
    rw [sameTs, sameText]
    rcases kept with
      ⟨raw, noReboot, few⟩ |
        ⟨displayed, hasRegion, first, last, rebooted, isBetween, noReboot,
          isRebooted, fewEntries, few⟩
    · have remembers :
          (step crypto identity accepting
            (.push contactNames payload)).Remembers push.postTs push.text
              (accepting.posts + 1) 0 roomRecentCap := by
        rw [accepted]
        refine ⟨Nat.le_refl _, Nat.le_max_left _ _, ?_⟩
        intro _
        exact
          (KeepsPost.remembered accepting.room
            ((isPost_raw_iff _ _ _).mpr raw)).weaken (Nat.zero_le _)
      have atLast :
          later.Remembers push.postTs push.text (accepting.posts + 1) 0
            roomRecentCap := by
        rw [isLater]
        exact remembers_run remembers noReboot
      have since := atLast.1
      exact (atLast.2.2 (by omega)).isDuplicatePost
    · have stores :
          (step crypto identity accepting
            (.push contactNames payload)).Stores push.postTs push.text
              (accepting.entries + 1) := by
        rw [accepted]
        refine ⟨Nat.le_refl _, ?_⟩
        intro _
        simp only [RoomRuntime.remember_hash]
        rw [sound.store.entriesOf_appended (sound.sameHash ▸ hasRegion)]
        exact
          ((KeepsPost.last _ (isPost_displayed _ _ displayed)).rtake
            (by decide)).weaken (Nat.zero_le _)
      have atReboot :=
        @stores_run crypto identity pubkey push.postTs push.text
          (accepting.entries + 1) _
          (sound.step (.push contactNames payload)) stores first
      rw [Transition.run_append, Transition.run_cons] at isRebooted
      have atMost :
          (Transition.run (step crypto identity)
              (step crypto identity accepting (.push contactNames payload))
              first).entries <
            accepting.entries + 1 + maxHistoryEntries := by
        rw [isRebooted] at fewEntries
        exact fewEntries
      have restored := @Stores.reboot crypto identity _ _ _ _ atReboot atMost
      have atLast :=
        @remembers_run crypto identity _ _ _ _ _ _ restored _ noReboot
      rw [isBetween, Transition.run_append, Transition.run_cons] at isLater
      rw [isRebooted] at few
      rw [← isLater] at atLast
      refine (atLast.2.2 ?_).isDuplicatePost
      have since := atReboot.1
      revert few
      generalize Transition.run (step crypto identity)
        (step crypto identity accepting (.push contactNames payload))
        first = before at since ⊢
      intro few
      change
        before.entries + (later.posts - before.posts) <
          accepting.entries + 1 +
            max roomRecentCap
              (step crypto identity before .reboot).room.recent.length
        at few
      omega
  exact
    ⟨_, by rw [handleRoomPush, redelivered], if_pos recognised, rfl⟩

/-- The primitives on the posts `hi` and `a: b`. -/
def redeliveredPosts : CryptoRecord :=
  { ciphers :=
      [(Crypto.aesKey RecordedKeys.anaSecret,
          #v[0x01, 0x02, 0x03, 0x64, 0x08, 0x0B, 0xEE, 0xF5, 0xA9, 0x68,
            0x69, 0x00, 0x00, 0x00, 0x00, 0x00],
          #v[0xC4, 0x1E, 0x0F, 0xAC, 0x85, 0x7B, 0x75, 0xB5, 0x3E, 0xCA,
            0x74, 0x21, 0xB8, 0xC5, 0x62, 0x9E]),
        (Crypto.aesKey RecordedKeys.anaSecret,
          #v[0x01, 0x02, 0x03, 0x64, 0x08, 0x0B, 0xEE, 0xF5, 0xA9, 0x61,
            0x3A, 0x20, 0x62, 0x00, 0x00, 0x00],
          #v[0xEB, 0xFB, 0x32, 0xD6, 0x6F, 0x15, 0x5B, 0x22, 0x5C, 0x9B,
            0xBE, 0xCF, 0xC2, 0x24, 0xA4, 0x8A])]
    codes :=
      [(RecordedKeys.anaSecret.toList,
          [0xC4, 0x1E, 0x0F, 0xAC, 0x85, 0x7B, 0x75, 0xB5, 0x3E, 0xCA,
            0x74, 0x21, 0xB8, 0xC5, 0x62, 0x9E],
          #v[0x74, 0x65, 0xCA, 0x44, 0x1E, 0x49, 0x02, 0x77, 0xEA, 0x7F,
            0x87, 0xF2, 0x55, 0x55, 0x79, 0xE8, 0x1A, 0xF9, 0x47, 0x4D,
            0x6A, 0x1D, 0x94, 0x53, 0x63, 0x1B, 0xA5, 0xEF, 0xC7, 0x6F,
            0x1B, 0xC4]),
        (RecordedKeys.anaSecret.toList,
          [0xEB, 0xFB, 0x32, 0xD6, 0x6F, 0x15, 0x5B, 0x22, 0x5C, 0x9B,
            0xBE, 0xCF, 0xC2, 0x24, 0xA4, 0x8A],
          #v[0xB3, 0x0E, 0xE1, 0x0E, 0xDE, 0x8C, 0xC8, 0x48, 0x80, 0x34,
            0x0B, 0x9C, 0xCA, 0xDC, 0x61, 0xBF, 0xB4, 0x1D, 0x04, 0xC1,
            0x7C, 0x23, 0x31, 0xAA, 0x95, 0x62, 0x1E, 0xD5, 0x78, 0xDE,
            0xDA, 0x40])]
    digests :=
      [([0x01, 0x02, 0x03, 0x64, 0x08, 0x0B, 0xEE, 0xF5, 0xA9, 0x68, 0x69,
          0x8A, 0x88, 0xE3, 0xDD, 0x74, 0x09, 0xF1, 0x95, 0xFD, 0x52, 0xDB,
          0x2D, 0x3C, 0xBA, 0x5D, 0x72, 0xCA, 0x67, 0x09, 0xBF, 0x1D, 0x94,
          0x12, 0x1B, 0xF3, 0x74, 0x88, 0x01, 0xB4, 0x0F, 0x6F, 0x5C],
          #v[0x65, 0x0C, 0x69, 0xF5, 0x38, 0x49, 0xD8, 0x2E, 0xE0, 0xA8,
            0xEA, 0x43, 0xC1, 0xA0, 0x47, 0xFE, 0x5F, 0xED, 0x7F, 0xEB,
            0x34, 0xA4, 0xD5, 0xD6, 0x4E, 0xED, 0x7E, 0xBD, 0x9B, 0x19,
            0x03, 0x53]),
        ([0x01, 0x02, 0x03, 0x64, 0x08, 0x0B, 0xEE, 0xF5, 0xA9, 0x61, 0x3A,
          0x20, 0x62, 0x8A, 0x88, 0xE3, 0xDD, 0x74, 0x09, 0xF1, 0x95, 0xFD,
          0x52, 0xDB, 0x2D, 0x3C, 0xBA, 0x5D, 0x72, 0xCA, 0x67, 0x09, 0xBF,
          0x1D, 0x94, 0x12, 0x1B, 0xF3, 0x74, 0x88, 0x01, 0xB4, 0x0F, 0x6F,
          0x5C],
          #v[0x33, 0xE0, 0x86, 0x69, 0xB2, 0x84, 0x85, 0xCD, 0x18, 0xA2,
            0x6F, 0xF6, 0x8E, 0xB6, 0x64, 0x7F, 0x23, 0x5F, 0x49, 0x38,
            0x4C, 0xC2, 0x92, 0x2C, 0xF8, 0x2B, 0xBA, 0xAF, 0x7A, 0x83,
            0xE2, 0xD9])]
    agreements := RecordedKeys.agreements }

/-- A push of a text by the author `0beef5a9`. -/
def pushOf
    (text : List UInt8) :
    List UInt8 :=
  encodeDmPayload redeliveredPosts.crypto RecordedKeys.anaSecret
    (pubHash RecordedKeys.device.pubkey) (pubHash RecordedKeys.anaPubkey)
    (encodeTxtMsgPlaintext 0x64030201 2 0
      ([0x0B, 0xEE, 0xF5, 0xA9] ++ text))

/-- What the push of the text `hi` decodes to. -/
def hiPush : RoomPush :=
  { postTs := 0x64030201
    attempt := 0
    authorPubkeyPrefix := #v[0x0B, 0xEE, 0xF5, 0xA9]
    text := [0x68, 0x69] }

/-- The room after it was given the push of a text. -/
def roomGiven
    (text : List UInt8) :
    RoomHistory :=
  RoomHistory.step redeliveredPosts.crypto RecordedKeys.device
    (.new RecordedKeys.anaPubkey) (.push (fun _ => none) (pushOf text))

/-- What a push is found to be beside recent posts. -/
def pushedTo
    (recent : List HistoryEntry)
    (text : List UInt8) :
    Except RoomSessionError RoomPushOutcome :=
  handleRoomPush redeliveredPosts.crypto
    (RecordedKeys.device.ecdhSharedSecret redeliveredPosts.crypto
      RecordedKeys.anaPubkey)
    (pushOf text) RecordedKeys.device.pubkey
    (pubHash RecordedKeys.anaPubkey) recent

/-- A post of the device itself to the room, as it is stored. -/
def ownPost : DecodedSlot :=
  { entry :=
      buildHistoryEntry (pubHash RecordedKeys.anaPubkey) .dm 0x64030202
        [0x6F, 0x6B]
    isOurs := true
    acked := false }

/-- A post of the device itself, its acknowledgement, and a reboot. -/
def ownPostAndReboot : List RoomEvent :=
  [.append .dm (pubHash RecordedKeys.anaPubkey) ownPost,
    .mark .dm (pubHash RecordedKeys.anaPubkey), .reboot]

open RoomHistory in
/-- The post `hi` is recognised after a post of the device itself and a reboot. -/
theorem redelivery_recognised_rebooted :
    ∃ outcome,
      pushedTo
          (Transition.run
            (step redeliveredPosts.crypto RecordedKeys.device)
            (roomGiven [0x68, 0x69]) ownPostAndReboot).room.recent
          [0x68, 0x69] =
        .ok outcome ∧
      outcome.entry = none ∧
      outcome.ackHash =
        roomPushAckHash redeliveredPosts.crypto hiPush.postTs
          hiPush.attempt hiPush.pushBody RecordedKeys.device.pubkey := by
  have decoded :
      decodeRoomPush redeliveredPosts.crypto
          (RecordedKeys.device.ecdhSharedSecret redeliveredPosts.crypto
            RecordedKeys.anaPubkey)
          (pushOf [0x68, 0x69]) =
        .ok (0x8A, 0x0B, hiPush) := by
    decide +kernel
  have forUs :
      isRoomFrameForUs (pushOf [0x68, 0x69])
          (pubHash RecordedKeys.device.pubkey) =
        true := by
    decide +kernel
  have displayed :
      DisplayedTextKept
        (roomPostSenderLabel none hiPush.authorPubkeyPrefix)
        hiPush.text :=
    { undelimited := by decide +kernel
      short := by decide +kernel
      valid := by decide +kernel }
  have hasRegion :
      HistoryStore.newErased.HasRegionFor .dm
        (pubHash RecordedKeys.anaPubkey) :=
    .inr
      ⟨⟨0, by decide⟩, HistoryStore.activeSector_newErased⟩
  have few :
      (Transition.run (step redeliveredPosts.crypto RecordedKeys.device)
          (roomGiven [0x68, 0x69]) ownPostAndReboot).entries <
        (new RecordedKeys.anaPubkey).entries + 1 + roomRecentCap := by
    decide +kernel
  have fewPosts :
      ∀ accepting rebooted : RoomHistory,
        rebooted.entries < accepting.entries + 1 + roomRecentCap →
          rebooted.entries < accepting.entries + 1 + maxHistoryEntries ∧
            rebooted.entries + (rebooted.posts - rebooted.posts) <
              accepting.entries + 1 +
                max roomRecentCap rebooted.room.recent.length := by
    intro accepting rebooted isFew
    have isMore : roomRecentCap ≤ maxHistoryEntries := by decide
    omega
  unfold pushedTo
  exact
    @redelivery_recognised redeliveredPosts.crypto RecordedKeys.device
      RecordedKeys.anaPubkey [] ownPostAndReboot
      (.new RecordedKeys.anaPubkey) _ rfl (fun _ => none)
      (pushOf [0x68, 0x69]) (pushOf [0x68, 0x69]) _ _ _ _ hiPush hiPush
      forUs decoded rfl decoded rfl rfl rfl
      (.inr
        ⟨displayed, hasRegion,
          [.append .dm (pubHash RecordedKeys.anaPubkey) ownPost,
            .mark .dm (pubHash RecordedKeys.anaPubkey)],
          [],
          Transition.run (step redeliveredPosts.crypto RecordedKeys.device)
            (roomGiven [0x68, 0x69]) ownPostAndReboot,
          rfl, List.not_mem_nil, rfl, fewPosts _ _ few⟩)

/-- The post `a: b` is new, and it is new again when it is delivered again. -/
theorem delimitedPost_appendedAgain :
    ((pushedTo (RoomHistory.new RecordedKeys.anaPubkey).room.recent
            [0x61, 0x3A, 0x20, 0x62]).toOption.bind
          RoomPushOutcome.entry).isSome =
        true ∧
      ((pushedTo (roomGiven [0x61, 0x3A, 0x20, 0x62]).room.recent
            [0x61, 0x3A, 0x20, 0x62]).toOption.bind
          RoomPushOutcome.entry).isSome =
        true := by
  constructor <;> decide +kernel

end MeshCadet
