import MeshCadet.DeliveryJournal
import MeshCadet.Dispatcher
import MeshCadet.Transition

namespace MeshCadet

/-!
# Delivery bits in the stored history

An outbound message is stored without its delivery bit; when an acknowledgement
resolves an outstanding send, the store sets the bit of the newest pending
entry of that conversation.  A journal of everything ever stored tells what the
bits should be.
-/

open Dispatcher HistoryRegion HistoryStore Transition

/-- The dispatcher and the history store, with a journal of what was stored. -/
structure StoredHistory where
  dispatcher : Dispatcher
  store : HistoryStore
  journal : UInt8 → List (JournalEntry AckHash)
  sent : List AckHash
  arrived : List AckHash

/-- What happens to the send path and the stored history. -/
inductive HistoryEvent where
  | send (kind : OutstandingKind) (ackHash : AckHash)
      (frame : List UInt8) (timestamp : UInt32) (text : List UInt8)
  | receive (fromHash : UInt8) (timestamp : UInt32) (text : List UInt8)
  | channelMessage (channelHash : UInt8) (timestamp : UInt32)
      (text : List UInt8) (isOurs : Bool)
  | channelRepeat (channelHash : UInt8)
  | reply (frame : List UInt8)
  | sweep (now : Nat) (canPost : UInt8 → Bool)
  | drain
  | ack (ackHash : AckHash)
  | reboot

/-- The acknowledgement a new send waits for. -/
def HistoryEvent.sentHash : HistoryEvent → Option AckHash
  | send _ ackHash _ _ _ => some ackHash
  | _ => none

/-- The stored form of a message; long texts are cut. -/
def historyEntry
    (senderHash : UInt8)
    (msgType : HistoryMsgType)
    (timestamp : UInt32)
    (text : List UInt8) :
    HistoryEntry :=
  { senderHash := senderHash
    msgType := msgType
    timestamp := timestamp
    text := Bytes.zeroPadded 64 (text.take 64)
    textLen := UInt8.ofNat (min text.length 64) }

namespace StoredHistory

/-- A device with an erased history partition. -/
def new : StoredHistory :=
  { dispatcher := Dispatcher.new
    store := newErased
    journal := fun _ => []
    sent := []
    arrived := [] }

/-- Append a direct message or room post; a full directory stores nothing. -/
def appendDirect
    (history : StoredHistory)
    (convHash : UInt8)
    (entry : HistoryEntry)
    (sentAs : Option AckHash) :
    StoredHistory :=
  let slot : DecodedSlot :=
    { entry := entry
      isOurs := sentAs.isSome
      acked := sentAs.isNone }
  match history.store.appendConversation .dm convHash slot with
  | .ok after =>
      { history with
        store := after
        journal :=
          Function.update history.journal convHash
            (history.journal convHash ++
              [{ entry := entry, sentAs := sentAs }]) }
  | .error _ => history

/-- One step of the send path and the stored history. -/
def step
    (history : StoredHistory) :
    HistoryEvent → StoredHistory
  | .send kind ackHash frame timestamp text =>
      let (after, _) := history.dispatcher.sendAcked kind ackHash frame
      let convHash := kind.conversation.1
      { history with
        dispatcher := after
        sent := ackHash :: history.sent }.appendDirect convHash
          (historyEntry convHash .dm timestamp text) (some ackHash)
  | .receive fromHash timestamp text =>
      history.appendDirect fromHash
        (historyEntry fromHash .dm timestamp text) none
  | .channelMessage channelHash timestamp text isOurs =>
      let slot : DecodedSlot :=
        { entry := historyEntry channelHash .grpTxt timestamp text
          isOurs := isOurs
          acked := !isOurs }
      match
        history.store.appendConversation .grpTxt channelHash slot
      with
      | .ok after => { history with store := after }
      | .error _ => history
  | .channelRepeat channelHash =>
      { history with
        store := history.store.marked .grpTxt channelHash }
  | .reply frame =>
      { history with
        dispatcher := (history.dispatcher.queueFrame frame none).1 }
  | .sweep now canPost =>
      { history with
        dispatcher := (history.dispatcher.sweepRetries now canPost).1 }
  | .drain =>
      { history with dispatcher := history.dispatcher.drain }
  | .ack ackHash =>
      match history.dispatcher.ackHeard ackHash with
      | (after, some send) =>
          { history with
            dispatcher := after
            store :=
              history.store.marked .dm send.kind.conversation.1
            arrived := ackHash :: history.arrived }
      | (after, none) => { history with dispatcher := after }
  | .reboot =>
      { history with dispatcher := Dispatcher.new }

/-- The newest 32 things stored for a conversation. -/
def window
    (history : StoredHistory)
    (convHash : UInt8) :
    List (JournalEntry AckHash) :=
  (history.journal convHash).rtake maxHistoryEntries

/--
In every direct conversation the stored delivery bits are set exactly on the
messages whose own acknowledgement arrived.
-/
def AckBitsRight
    (history : StoredHistory) :
    Prop :=
  ∀ convHash,
    history.store.conversation .dm convHash =
      (history.window convHash).map
        (JournalEntry.slot history.arrived)

/-- The newest stored message of a conversation that is still pending. -/
def newestPending
    (history : StoredHistory)
    (convHash : UInt8) :
    Option (JournalEntry AckHash) :=
  ((history.window convHash).filter
    (JournalEntry.isPending history.arrived)).getLast?

/--
When an acknowledgement resolves a send, the newest pending message stored for
its conversation, if there is one, is that send's own.
-/
def AckHitsNewest
    (history : StoredHistory) :
    HistoryEvent → Prop
  | .ack ackHash =>
      ∀ kind,
        (ackHash, kind) ∈ history.dispatcher.awaited →
          ∀ stored ∈ history.newestPending kind.conversation.1,
            stored.sentAs = some ackHash
  | _ => True

instance AckHitsNewest.decidable
    (history : StoredHistory) :
    ∀ event, Decidable (history.AckHitsNewest event)
  | .ack ackHash =>
      decidable_of_iff
        (∀ pair ∈ history.dispatcher.awaited,
          pair.1 = ackHash →
            ∀ stored ∈ history.newestPending pair.2.conversation.1,
              stored.sentAs = some ackHash)
        (by
          constructor
          · exact fun all kind member => all (ackHash, kind) member rfl
          · rintro all ⟨_, kind⟩ member rfl
            exact all kind member)
  | .send .. | .receive .. | .channelMessage .. | .channelRepeat _
  | .reply _ | .sweep .. | .drain | .reboot =>
      .isTrue trivial

/-- The journal, the awaited sends and the arrived acknowledgements agree. -/
structure Consistent
    (history : StoredHistory) :
    Prop where
  sound : history.store.Sound
  distinct : history.dispatcher.Distinct
  awaitedSent :
    ∀ pair ∈ history.dispatcher.awaited, pair.1 ∈ history.sent
  awaitedOpen :
    ∀ pair ∈ history.dispatcher.awaited, pair.1 ∉ history.arrived
  arrivedSent : ∀ ackHash ∈ history.arrived, ackHash ∈ history.sent
  journalSent :
    ∀ convHash, ∀ stored ∈ history.journal convHash,
      ∀ ackHash, stored.sentAs = some ackHash → ackHash ∈ history.sent
  journalOwner :
    ∀ convHash, ∀ stored ∈ history.journal convHash,
      ∀ pair ∈ history.dispatcher.awaited,
        stored.sentAs = some pair.1 →
          pair.2.conversation.1 = convHash
  journalDistinct :
    ∀ convHash,
      ((history.journal convHash).filterMap
        JournalEntry.sentAs).Nodup

/-- A new device has nothing to disagree about. -/
theorem consistent_new :
    new.Consistent :=
  { sound := sound_newErased
    distinct := List.nodup_nil
    awaitedSent := fun _ member => absurd member List.not_mem_nil
    awaitedOpen := fun _ member => absurd member List.not_mem_nil
    arrivedSent := fun _ member => absurd member List.not_mem_nil
    journalSent := fun _ _ member => absurd member List.not_mem_nil
    journalOwner := fun _ _ member => absurd member List.not_mem_nil
    journalDistinct := fun _ => List.nodup_nil }

/-- Giving up sends changes nothing about the rest. -/
theorem Consistent.dispatcher
    {history : StoredHistory}
    (consistent : history.Consistent)
    {after : Dispatcher}
    (distinct : after.Distinct)
    (fewer : after.awaited ⊆ history.dispatcher.awaited) :
    Consistent { history with dispatcher := after } :=
  { sound := consistent.sound
    distinct := distinct
    awaitedSent := fun pair member =>
      consistent.awaitedSent pair (fewer member)
    awaitedOpen := fun pair member =>
      consistent.awaitedOpen pair (fewer member)
    arrivedSent := consistent.arrivedSent
    journalSent := consistent.journalSent
    journalOwner := fun convHash stored isStored pair member =>
      consistent.journalOwner convHash stored isStored pair
        (fewer member)
    journalDistinct := consistent.journalDistinct }

/-- A fresh send is awaited and not yet stored. -/
theorem Consistent.send
    {history : StoredHistory}
    (consistent : history.Consistent)
    (kind : OutstandingKind)
    {ackHash : AckHash}
    (fresh : ackHash ∉ history.sent)
    (frame : List UInt8) :
    Consistent
      { history with
        dispatcher :=
          (history.dispatcher.sendAcked kind ackHash frame).1
        sent := ackHash :: history.sent } := by
  have notAwaited :
      ∀ pair ∈ history.dispatcher.awaited, pair.1 ≠ ackHash := by
    rintro pair member rfl
    exact fresh (consistent.awaitedSent pair member)
  obtain ⟨distinct, awaited⟩ :=
    sendAcked_awaited consistent.distinct kind notAwaited frame
  refine
    { sound := consistent.sound
      distinct := distinct
      awaitedSent := ?_
      awaitedOpen := ?_
      arrivedSent := ?_
      journalSent := ?_
      journalOwner := ?_
      journalDistinct := consistent.journalDistinct }
  · intro pair member
    rcases List.mem_cons.mp (awaited member) with rfl | old
    · exact List.mem_cons_self
    · exact List.mem_cons_of_mem _ (consistent.awaitedSent pair old)
  · intro pair member
    rcases List.mem_cons.mp (awaited member) with rfl | old
    · exact fun arrived =>
        fresh (consistent.arrivedSent ackHash arrived)
    · exact consistent.awaitedOpen pair old
  · intro arrived member
    exact List.mem_cons_of_mem _ (consistent.arrivedSent arrived member)
  · intro convHash stored isStored sentAs own
    exact List.mem_cons_of_mem _
      (consistent.journalSent convHash stored isStored sentAs own)
  · intro convHash stored isStored pair member own
    rcases List.mem_cons.mp (awaited member) with rfl | old
    · exact absurd
        (consistent.journalSent convHash stored isStored ackHash own)
        fresh
    · exact consistent.journalOwner convHash stored isStored pair old own

/-- What may be appended: something inbound, or a send not stored before. -/
structure Storable
    (history : StoredHistory)
    (convHash : UInt8)
    (ackHash : AckHash) :
    Prop where
  known : ackHash ∈ history.sent
  open' : ackHash ∉ history.arrived
  notStored :
    ∀ other, ∀ stored ∈ history.journal other,
      stored.sentAs ≠ some ackHash
  owner :
    ∀ pair ∈ history.dispatcher.awaited,
      pair.1 = ackHash → pair.2.conversation.1 = convHash

/-- Appending keeps the journal consistent. -/
theorem Consistent.appendDirect
    {history : StoredHistory}
    (consistent : history.Consistent)
    {convHash : UInt8}
    (entry : HistoryEntry)
    {sentAs : Option AckHash}
    (storable :
      ∀ ackHash,
        sentAs = some ackHash → history.Storable convHash ackHash) :
    (history.appendDirect convHash entry sentAs).Consistent := by
  have isNew :
      ∀ other,
        ∀ stored ∈
            Function.update history.journal convHash
              (history.journal convHash ++
                [{ entry := entry, sentAs := sentAs }]) other,
          stored ∈ history.journal other ∨
            (other = convHash ∧ stored.sentAs = sentAs) := by
    intro other stored member
    by_cases same : other = convHash
    · subst same
      rw [Function.update_self] at member
      rcases List.mem_append.mp member with old | added
      · exact .inl old
      · rw [List.mem_singleton.mp added]
        exact .inr ⟨rfl, rfl⟩
    · rw [Function.update_of_ne same] at member
      exact .inl member
  rcases consistent.sound.append .dm convHash
      { entry := entry
        isOurs := sentAs.isSome
        acked := sentAs.isNone } with
    ⟨after, appended, soundAfter, -, -⟩ | ⟨failed, -, -⟩
  · simp only [StoredHistory.appendDirect, appended]
    refine
      { sound := soundAfter
        distinct := consistent.distinct
        awaitedSent := consistent.awaitedSent
        awaitedOpen := consistent.awaitedOpen
        arrivedSent := consistent.arrivedSent
        journalSent := ?_
        journalOwner := ?_
        journalDistinct := ?_ }
    · intro other stored member ackHash own
      rcases isNew other stored member with old | ⟨-, sameSend⟩
      · exact consistent.journalSent other stored old ackHash own
      · exact (storable ackHash (sameSend ▸ own)).known
    · intro other stored member pair isAwaited own
      rcases isNew other stored member with old | ⟨rfl, sameSend⟩
      · exact consistent.journalOwner other stored old pair isAwaited own
      · exact (storable pair.1 (sameSend ▸ own)).owner pair isAwaited rfl
    · intro other
      by_cases same : other = convHash
      · subst same
        simp only [Function.update_self, List.filterMap_append]
        cases sent : sentAs with
        | none =>
            simpa using consistent.journalDistinct other
        | some ackHash =>
            have notStored := (storable ackHash sent).notStored other
            rw [List.nodup_append]
            refine ⟨consistent.journalDistinct other, by simp, ?_⟩
            intro old isOld added isAdded
            obtain ⟨stored, isStored, own⟩ := List.mem_filterMap.mp isOld
            rintro rfl
            have isThis : old = ackHash := by simpa using isAdded
            exact notStored stored isStored (isThis ▸ own)
      · simp only [Function.update_of_ne same]
        exact consistent.journalDistinct other
  · simpa only [StoredHistory.appendDirect, failed] using consistent

/-- Appending keeps the stored bits right. -/
theorem AckBitsRight.appendDirect
    {history : StoredHistory}
    (consistent : history.Consistent)
    (right : history.AckBitsRight)
    {convHash : UInt8}
    (entry : HistoryEntry)
    {sentAs : Option AckHash}
    (storable :
      ∀ ackHash,
        sentAs = some ackHash → history.Storable convHash ackHash) :
    (history.appendDirect convHash entry sentAs).AckBitsRight := by
  let slot : DecodedSlot :=
    { entry := entry
      isOurs := sentAs.isSome
      acked := sentAs.isNone }
  let stored : JournalEntry AckHash := { entry := entry, sentAs := sentAs }
  have sameSlot : stored.slot history.arrived = slot := by
    cases sent : sentAs with
    | none =>
        simp [stored, slot, JournalEntry.slot, sent]
    | some ackHash =>
        have open' := (storable ackHash sent).open'
        simp [stored, slot, JournalEntry.slot, sent, open']
  rcases consistent.sound.append .dm convHash slot with
    ⟨after, appended, -, own, others⟩ | ⟨failed, -⟩
  · simp only [StoredHistory.appendDirect, slot] at appended ⊢
    rw [appended]
    intro other
    by_cases same : other = convHash
    · subst same
      simp only [window, Function.update_self]
      rw [own, right other, ← sameSlot, window,
        JournalEntry.map_rtake_concat]
    · have apart :
          (HistoryMsgType.dm, other) ≠ (HistoryMsgType.dm, convHash) := by
        simpa using same
      rw [others .dm other apart, right other]
      simp only [window, Function.update_of_ne same]
  · simp only [StoredHistory.appendDirect, slot] at failed ⊢
    rw [failed]
    exact right

/-- Operations on channels leave the direct conversations alone. -/
theorem AckBitsRight.channel
    {history : StoredHistory}
    (right : history.AckBitsRight)
    {after : HistoryStore}
    (others :
      ∀ convHash,
        after.conversation .dm convHash =
          history.store.conversation .dm convHash) :
    AckBitsRight { history with store := after } := by
  intro convHash
  exact (others convHash).trans (right convHash)

/-- A message on a channel is no direct message. -/
theorem dm_ne_grpTxt
    (convHash channelHash : UInt8) :
    (HistoryMsgType.dm, convHash) ≠
      (HistoryMsgType.grpTxt, channelHash) := by
  simp

/-- An acknowledgement that resolves a send arrived for it. -/
theorem Consistent.ack
    {history : StoredHistory}
    (consistent : history.Consistent)
    {store : HistoryStore}
    (sound : store.Sound)
    {ackHash : AckHash}
    (sent : ackHash ∈ history.sent) :
    Consistent
      { history with
        dispatcher := (history.dispatcher.ackHeard ackHash).1
        store := store
        arrived := ackHash :: history.arrived } := by
  have awaited := ackHeard_awaited consistent.distinct ackHash
  have fewer :
      (history.dispatcher.ackHeard ackHash).1.awaited.Sublist
        history.dispatcher.awaited := by
    rw [awaited]
    exact List.filter_sublist
  have consistentAfter :=
    consistent.dispatcher
      ((fewer.map Prod.fst).nodup consistent.distinct) fewer.subset
  exact
    { consistentAfter with
      sound := sound
      awaitedOpen := by
        intro pair member
        have notThis : pair.1 ≠ ackHash := by
          rw [awaited] at member
          simpa using (List.mem_filter.mp member).2
        intro arrived
        rcases List.mem_cons.mp arrived with isThis | old
        · exact notThis isThis
        · exact consistentAfter.awaitedOpen pair member old
      arrivedSent := by
        intro arrived member
        rcases List.mem_cons.mp member with rfl | old
        · exact sent
        · exact consistent.arrivedSent arrived old }

/-- A send that the store has room for is stored as pending. -/
theorem step_send_of_ok
    {history : StoredHistory}
    (kind : OutstandingKind)
    (ackHash : AckHash)
    (frame : List UInt8)
    {timestamp : UInt32}
    {text : List UInt8}
    {after : HistoryStore}
    (appended :
      history.store.appendConversation .dm kind.conversation.1
          { entry :=
              historyEntry kind.conversation.1 .dm timestamp text
            isOurs := true
            acked := false } =
        .ok after) :
    history.step (.send kind ackHash frame timestamp text) =
      { history with
        dispatcher :=
          (history.dispatcher.sendAcked kind ackHash frame).1
        store := after
        journal :=
          Function.update history.journal kind.conversation.1
            (history.journal kind.conversation.1 ++
              [{ entry :=
                  historyEntry kind.conversation.1 .dm timestamp text
                 sentAs := some ackHash }])
        sent := ackHash :: history.sent } := by
  simp [step, StoredHistory.appendDirect, appended]

/-- An acknowledgement that resolves a send marks its conversation. -/
theorem step_ack_of_some
    {history : StoredHistory}
    {ackHash : AckHash}
    {send : OutstandingSend}
    (delivered : (history.dispatcher.ackHeard ackHash).2 = some send)
    {after : HistoryStore}
    {flag : Bool}
    (marked :
      history.store.markLastOursAcked .dm send.kind.conversation.1 =
        .ok (after, flag)) :
    history.step (.ack ackHash) =
      { history with
        dispatcher := (history.dispatcher.ackHeard ackHash).1
        store := after
        arrived := ackHash :: history.arrived } := by
  simp only [step]
  split
  · next sameSend outcome =>
    rw [outcome] at delivered
    cases delivered
    simp [HistoryStore.marked, marked, outcome]
  · next outcome =>
    simp [outcome] at delivered

/-- An acknowledgement nobody waits for changes nothing. -/
theorem step_ack_none
    {history : StoredHistory}
    (consistent : history.Consistent)
    {ackHash : AckHash}
    (unknown : (history.dispatcher.ackHeard ackHash).2 = none) :
    (history.step (.ack ackHash)).Consistent ∧
      (history.AckBitsRight →
        ((history.step (.ack ackHash)).AckBitsRight ↔
          history.AckHitsNewest (.ack ackHash))) := by
  have ignored :
      history.step (.ack ackHash) =
        { history with
          dispatcher := (history.dispatcher.ackHeard ackHash).1 } := by
    simp only [step]
    split
    · next delivered =>
      simp [delivered] at unknown
    · next after outcome =>
      rw [outcome]
  have fewer :
      (history.dispatcher.ackHeard ackHash).1.awaited.Sublist
        history.dispatcher.awaited := by
    rw [ackHeard_awaited consistent.distinct ackHash]
    exact List.filter_sublist
  rw [ignored]
  refine
    ⟨consistent.dispatcher
        ((fewer.map Prod.fst).nodup consistent.distinct) fewer.subset,
      fun right => iff_of_true right ?_⟩
  intro kind isAwaited
  have resolved :=
    (ackHeard_eq_some_iff consistent.distinct).mpr isAwaited
  simp [unknown] at resolved

/-- An acknowledgement that resolves a send sets one stored bit. -/
theorem step_ack_some
    {history : StoredHistory}
    (consistent : history.Consistent)
    {ackHash : AckHash}
    {send : OutstandingSend}
    (delivered : (history.dispatcher.ackHeard ackHash).2 = some send) :
    (history.step (.ack ackHash)).Consistent ∧
      (history.AckBitsRight →
        ((history.step (.ack ackHash)).AckBitsRight ↔
          history.AckHitsNewest (.ack ackHash))) := by
  have isAwaited : (ackHash, send.kind) ∈ history.dispatcher.awaited :=
    (ackHeard_eq_some_iff consistent.distinct).mp (by simp [delivered])
  have open' := consistent.awaitedOpen _ isAwaited
  obtain ⟨after, flag, marked, soundAfter, own, others⟩ :=
    consistent.sound.mark .dm send.kind.conversation.1
  rw [step_ack_of_some delivered marked]
  refine
    ⟨consistent.ack soundAfter (consistent.awaitedSent _ isAwaited),
      fun right => ?_⟩
  have windowDistinct :
      ((history.window send.kind.conversation.1).filterMap
        JournalEntry.sentAs).Nodup :=
    (((List.drop_sublist _ _).filterMap _).nodup
      (consistent.journalDistinct send.kind.conversation.1))
  have ownIff := JournalEntry.markNewest_eq_iff open' windowDistinct
  constructor
  · intro rightAfter kind alsoAwaited
    have sameKind : kind = send.kind := by
      have resolved :=
        (ackHeard_eq_some_iff consistent.distinct).mpr alsoAwaited
      simpa [delivered, eq_comm] using resolved
    subst sameKind
    apply ownIff.mp
    have stored := rightAfter send.kind.conversation.1
    rw [own, right send.kind.conversation.1] at stored
    exact stored
  · intro hitsNewest convHash
    by_cases same : convHash = send.kind.conversation.1
    · subst same
      rw [own, right send.kind.conversation.1]
      exact ownIff.mpr (hitsNewest send.kind isAwaited)
    · have apart :
          (HistoryMsgType.dm, convHash) ≠
            (HistoryMsgType.dm, send.kind.conversation.1) := by
        simpa using same
      rw [others .dm convHash apart, right convHash]
      apply List.map_congr_left
      intro stored member
      symm
      apply JournalEntry.slot_cons_of_ne
      intro isOwn
      have inJournal : stored ∈ history.journal convHash :=
        List.mem_of_mem_drop member
      exact same
        (consistent.journalOwner convHash stored inJournal
          (ackHash, send.kind) isAwaited isOwn).symm

/-- A message that was just sent may be stored under its acknowledgement. -/
theorem Consistent.storable_send
    {history : StoredHistory}
    (consistent : history.Consistent)
    (kind : OutstandingKind)
    {ackHash : AckHash}
    (isFresh : ackHash ∉ history.sent)
    (frame : List UInt8) :
    ∀ name,
      some ackHash = some name →
        Storable
          { history with
            dispatcher :=
              (history.dispatcher.sendAcked kind ackHash frame).1
            sent := ackHash :: history.sent }
          kind.conversation.1 name := by
  rintro name ⟨⟩
  refine
    { known := List.mem_cons_self
      open' := fun arrived =>
        isFresh (consistent.arrivedSent ackHash arrived)
      notStored := fun other stored member own =>
        isFresh
          (consistent.journalSent other stored member ackHash own)
      owner := ?_ }
  rintro pair isAwaited sameHash
  have notBefore :
      ∀ pair ∈ history.dispatcher.awaited, pair.1 ≠ ackHash := by
    rintro pair member rfl
    exact isFresh (consistent.awaitedSent pair member)
  rcases List.mem_cons.mp
      ((sendAcked_awaited consistent.distinct kind notBefore
        frame).2 isAwaited) with rfl | old
  · rfl
  · exact absurd sameHash (notBefore pair old)

/--
A step keeps the history consistent; with right bits before, they are right after
it exactly when an acknowledgement hits the newest pending message.
-/
theorem step_ackBits
    (history : StoredHistory)
    (event : HistoryEvent)
    (consistent : history.Consistent)
    (fresh :
      ∀ ackHash,
        event.sentHash = some ackHash → ackHash ∉ history.sent) :
    (history.step event).Consistent ∧
      (history.AckBitsRight →
        ((history.step event).AckBitsRight ↔
          history.AckHitsNewest event)) := by
  cases event with
  | send kind ackHash frame timestamp text =>
      have isFresh := fresh ackHash rfl
      have sent := consistent.send kind isFresh frame
      have storable := consistent.storable_send kind isFresh frame
      refine
        ⟨sent.appendDirect _ storable,
          fun right => iff_of_true ?_ trivial⟩
      exact AckBitsRight.appendDirect sent right _ storable
  | receive fromHash timestamp text =>
      have storable :
          ∀ name,
            none = some name → history.Storable fromHash name := by
        simp
      exact
        ⟨consistent.appendDirect _ storable,
          fun right =>
            iff_of_true
              (right.appendDirect consistent _ storable) trivial⟩
  | channelMessage channelHash timestamp text isOurs =>
      let slot : DecodedSlot :=
        { entry := historyEntry channelHash .grpTxt timestamp text
          isOurs := isOurs
          acked := !isOurs }
      rcases consistent.sound.append .grpTxt channelHash slot with
        ⟨after, appended, soundAfter, -, others⟩ | ⟨failed, -⟩
      · simp only [step, slot] at appended ⊢
        rw [appended]
        exact
          ⟨{ consistent with sound := soundAfter },
            fun right =>
              iff_of_true
                (right.channel fun convHash =>
                  others .dm convHash (dm_ne_grpTxt _ _))
                trivial⟩
      · simp only [step, slot] at failed ⊢
        rw [failed]
        exact ⟨consistent, fun right => iff_of_true right trivial⟩
  | channelRepeat channelHash =>
      obtain ⟨after, flag, marked, soundAfter, -, others⟩ :=
        consistent.sound.mark .grpTxt channelHash
      simp only [step, HistoryStore.marked, marked]
      exact
        ⟨{ consistent with sound := soundAfter },
          fun right =>
            iff_of_true
              (right.channel fun convHash =>
                others .dm convHash (dm_ne_grpTxt _ _))
              trivial⟩
  | reply frame =>
      have fewer := queueFrame_awaited history.dispatcher frame none
      exact
        ⟨consistent.dispatcher
            ((fewer.map Prod.fst).nodup consistent.distinct)
            fewer.subset,
          fun right => iff_of_true right trivial⟩
  | sweep now canPost =>
      obtain ⟨distinct, fewer⟩ :=
        sweepRetries_awaited consistent.distinct now canPost
      exact
        ⟨consistent.dispatcher distinct fewer,
          fun right => iff_of_true right trivial⟩
  | drain =>
      exact
        ⟨consistent.dispatcher consistent.distinct
            (List.Subset.refl _),
          fun right => iff_of_true right trivial⟩
  | ack ackHash =>
      cases outcome : (history.dispatcher.ackHeard ackHash).2 with
      | none =>
          exact step_ack_none consistent outcome
      | some send =>
          exact step_ack_some consistent outcome
  | reboot =>
      exact
        ⟨consistent.dispatcher List.nodup_nil (List.nil_subset _),
          fun right => iff_of_true right trivial⟩

/-- A new device stores nothing. -/
theorem ackBitsRight_new :
    new.AckBitsRight := by
  intro convHash
  simp [new, window, List.rtake]

/--
Over runs of sends with distinct acknowledgement hashes, the stored delivery bits
are right in every state exactly when every acknowledgement that resolves a send
finds that send's message as the newest pending one of its conversation.
-/
theorem ackBits_right_iff
    (events : List HistoryEvent)
    (distinct : (events.filterMap HistoryEvent.sentHash).Nodup) :
    Always step AckBitsRight new events ↔
      Along step AckHitsNewest new events := by
  have records :
      ∀ (history : StoredHistory) (event : HistoryEvent),
        (history.step event).sent =
          event.sentHash.toList ++ history.sent := by
    intro history event
    cases event with
    | _ =>
        simp only [step, HistoryEvent.sentHash, StoredHistory.appendDirect]
        try split
        all_goals rfl
  have distinctInitially :
      (events.filterMap HistoryEvent.sentHash ++ new.sent).Nodup := by
    simpa [new] using distinct
  have fresh := along_fresh records distinctInitially
  exact
    always_iff_along_assuming
      (fun history event consistent _ isFresh =>
        (step_ackBits history event consistent isFresh).1)
      (fun history event consistent right isFresh =>
        (step_ackBits history event consistent isFresh).2 right)
      consistent_new ackBitsRight_new fresh

/-- Two messages to one contact, each on air and acknowledged before the next one, with
an answer between them. -/
def ackedInTurn : List HistoryEvent :=
  [.send (.dm 7) #v[1, 2, 3, 4] [9] 100 [0x68], .drain,
    .ack #v[1, 2, 3, 4], .receive 7 101 [0x6F],
    .send (.dm 7) #v[5, 6, 7, 8] [10] 102 [0x69], .drain,
    .ack #v[5, 6, 7, 8]]

/-- The bits of messages that are acknowledged in turn are right. -/
theorem ackBits_right_inTurn :
    Always step AckBitsRight new ackedInTurn :=
  (ackBits_right_iff _ (by decide)).mpr (by decide +kernel)

/-- Two messages to one contact; only the first one is acknowledged. -/
def firstOfTwoAcked : List HistoryEvent :=
  [.send (.dm 7) #v[1, 2, 3, 4] [9] 100 [0x61],
    .send (.dm 7) #v[5, 6, 7, 8] [10] 101 [0x62],
    .ack #v[1, 2, 3, 4]]

/--
The store shows the second message as delivered, and the first, whose
acknowledgement arrived, as pending.
-/
theorem firstOfTwoAcked_marks_second :
    ((run step new firstOfTwoAcked).store.conversation .dm 7).map
        (fun slot => (slot.entry.timestamp, slot.acked)) =
      [(100, false), (101, true)] ∧
      ¬ Always step AckBitsRight new firstOfTwoAcked := by
  let first := historyEntry 7 .dm 100 [0x61]
  let second := historyEntry 7 .dm 101 [0x62]
  rcases sound_newErased.append .dm 7
      { entry := first, isOurs := true, acked := false } with
    ⟨one, appendedOne, soundOne, storedOne, -⟩ | ⟨-, -, full⟩
  swap
  · exact absurd activeSector_newErased
      (full (⟨0, by decide⟩ : Fin maxConversationRegions))
  rcases soundOne.append .dm 7
      { entry := second, isOurs := true, acked := false } with
    ⟨two, appendedTwo, soundTwo, storedTwo, -⟩ | ⟨-, empty, -⟩
  swap
  · rw [storedOne, conversation_newErased] at empty
    cases empty
  obtain ⟨three, flag, marked, -, storedThree, -⟩ :=
    soundTwo.mark .dm 7
  let twoSends : Dispatcher :=
    ((Dispatcher.new.sendAcked (.dm 7) #v[1, 2, 3, 4] [9]).1.sendAcked
      (.dm 7) #v[5, 6, 7, 8] [10]).1
  have isSend :
      (twoSends.ackHeard #v[1, 2, 3, 4]).2 =
        some (OutstandingSend.new #v[1, 2, 3, 4] (.dm 7) 0 [9]) := by
    decide
  have reached :
      (run step new firstOfTwoAcked).store = three ∧
        (run step new firstOfTwoAcked).journal 7 =
          [{ entry := first, sentAs := some #v[1, 2, 3, 4] },
            { entry := second, sentAs := some #v[5, 6, 7, 8] }] ∧
        (run step new firstOfTwoAcked).arrived = [#v[1, 2, 3, 4]] := by
    let afterOne : StoredHistory :=
      { new with
        dispatcher :=
          (Dispatcher.new.sendAcked (.dm 7) #v[1, 2, 3, 4] [9]).1
        store := one
        journal :=
          Function.update new.journal 7
            [{ entry := first, sentAs := some #v[1, 2, 3, 4] }]
        sent := [#v[1, 2, 3, 4]] }
    have sentOne :
        new.step (.send (.dm 7) #v[1, 2, 3, 4] [9] 100 [0x61]) =
          afterOne :=
      step_send_of_ok (.dm 7) #v[1, 2, 3, 4] [9] appendedOne
    let afterTwo : StoredHistory :=
      { afterOne with
        dispatcher := twoSends
        store := two
        journal :=
          Function.update afterOne.journal 7
            [{ entry := first, sentAs := some #v[1, 2, 3, 4] },
              { entry := second, sentAs := some #v[5, 6, 7, 8] }]
        sent := [#v[5, 6, 7, 8], #v[1, 2, 3, 4]] }
    have sentTwo :
        afterOne.step (.send (.dm 7) #v[5, 6, 7, 8] [10] 101 [0x62]) =
          afterTwo :=
      step_send_of_ok (.dm 7) #v[5, 6, 7, 8] [10] appendedTwo
    have acked :
        afterTwo.step (.ack #v[1, 2, 3, 4]) =
          { afterTwo with
            dispatcher := (twoSends.ackHeard #v[1, 2, 3, 4]).1
            store := three
            arrived := [#v[1, 2, 3, 4]] } :=
      @step_ack_of_some afterTwo _ _ isSend _ _ marked
    rw [firstOfTwoAcked, run_cons, run_cons, run_cons, run_nil,
      sentOne, sentTwo, acked]
    exact ⟨rfl, by simp [afterTwo], rfl⟩
  obtain ⟨store, journal, arrived⟩ := reached
  have conversation :
      (run step new firstOfTwoAcked).store.conversation .dm 7 =
        [{ entry := first, isOurs := true, acked := false },
          { entry := second, isOurs := true, acked := true }] := by
    rw [store, storedThree, storedTwo, storedOne, conversation_newErased]
    rfl
  refine ⟨by rw [conversation]; rfl, fun always => ?_⟩
  have right := always.last 7
  rw [conversation, window, journal, arrived] at right
  have wrong := congrArg (List.map DecodedSlot.acked) right
  exact absurd wrong (by decide)

end StoredHistory

end MeshCadet
