import MeshCadet.RoomSessionStore
import MeshCadet.Transition

namespace MeshCadet

/-!
# Erasing a room's session while it runs

The main loop stores the session of the room runtime it built at boot; the admin
thread erases it.  Each does so in several operations on the store, so the
operations of the two interleave.  A reboot stops both and builds a new runtime.
-/

/-- Where the main loop is in storing a session. -/
inductive SavePhase where
  | idle
  | checked (session : PersistedRoomSession) (erasuresThen : Nat)
deriving Repr, DecidableEq

/-- Where the admin thread is in erasing the session. -/
inductive DeletePhase where
  | idle
  | removed
  | readEpoch (epoch : UInt8)
deriving Repr, DecidableEq

/-- One operation on the store, or a reboot. -/
inductive ErasureEvent where
  | checkEpoch (session : PersistedRoomSession)
  | writeBlob
  | removeBlob
  | readEpoch
  | bumpEpoch
  | reboot
deriving Repr, DecidableEq

/--
The store, the epoch the runtime remembers and both threads.  The other fields
record what happened: the boot, the boot whose runtime wrote the blob, how many
erasures returned since the boot, the boot in which the last one returned, and
whether a session was written since the erasure under way removed the blob.
-/
structure RoomErasure where
  store : RoomStore
  rememberedEpoch : UInt8
  save : SavePhase
  delete : DeletePhase
  boot : Nat
  writer : Nat
  erasures : Nat
  erasedAt : Option Nat
  wroteSince : Bool
deriving Repr, DecidableEq

namespace RoomErasure

/-- The first boot from a store. -/
def booted
    (store : RoomStore) :
    RoomErasure :=
  { store := store
    rememberedEpoch := store.loadRoomEpoch
    save := .idle
    delete := .idle
    boot := 0
    writer := 0
    erasures := 0
    erasedAt := none
    wroteSince := false }

/-- One operation; an operation that is not the thread's next does nothing. -/
def step
    (state : RoomErasure) :
    ErasureEvent → RoomErasure
  | .checkEpoch session =>
      match state.save with
      | .idle =>
          if roomSessionPersistIsCurrent state.rememberedEpoch
              state.store.loadRoomEpoch then
            { state with save := .checked session state.erasures }
          else
            state
      | .checked _ _ => state
  | .writeBlob =>
      match state.save with
      | .idle => state
      | .checked session _ =>
          { state with
            store := state.store.writeBlob session
            save := .idle
            writer := state.boot
            wroteSince := true }
  | .removeBlob =>
      match state.delete with
      | .idle =>
          { state with
            store := state.store.removeBlob
            delete := .removed
            wroteSince := false }
      | _ => state
  | .readEpoch =>
      match state.delete with
      | .removed =>
          { state with delete := .readEpoch state.store.loadRoomEpoch }
      | _ => state
  | .bumpEpoch =>
      match state.delete with
      | .readEpoch current =>
          { state with
            store := state.store.bumpEpoch current
            delete := .idle
            erasures := state.erasures + 1
            erasedAt := some state.boot }
      | _ => state
  | .reboot =>
      { state with
        rememberedEpoch := state.store.loadRoomEpoch
        save := .idle
        delete := .idle
        boot := state.boot + 1
        erasures := 0
        wroteSince := false }

/--
Once an erasure returned, a stored blob was written by a runtime that was built
after it.
-/
def Durable
    (state : RoomErasure) :
    Prop :=
  ∀ erasedAt,
    state.erasedAt = some erasedAt →
    state.store.blob.isSome = true →
      erasedAt < state.writer

/--
The operations of a save and an erasure do not mix: no erasure returns between a
save's check and its write, and no save writes between an erasure's removal and
its return.  At a check fewer than 256 erasures returned since the boot.
-/
def Orderly
    (state : RoomErasure) :
    ErasureEvent → Prop
  | .writeBlob =>
      ∀ session erasuresThen,
        state.save = .checked session erasuresThen →
          state.erasures = erasuresThen ∧ erasuresThen < 256
  | .bumpEpoch =>
      ∀ current,
        state.delete = .readEpoch current →
          state.wroteSince = false
  | _ =>
      True

/--
The epoch counts the erasures since the runtime was built; a check passed at a
multiple of 256; an erasure under way has read the current epoch and left no blob
but one written since; nothing recorded is later than the present boot.
-/
structure Sound
    (state : RoomErasure) :
    Prop where
  epoch :
    state.store.loadRoomEpoch =
      state.rememberedEpoch + UInt8.ofNat state.erasures
  checked :
    ∀ session erasuresThen,
      state.save = .checked session erasuresThen →
        UInt8.ofNat erasuresThen = 0
  read :
    ∀ current,
      state.delete = .readEpoch current →
        current = state.store.loadRoomEpoch
  removed :
    state.delete ≠ .idle →
    state.wroteSince = false →
      state.store.blob = none
  erased :
    ∀ erasedAt, state.erasedAt = some erasedAt → erasedAt ≤ state.boot
  counted :
    state.erasedAt = some state.boot → 0 < state.erasures
  durable : state.Durable

/-- A check passes exactly at a multiple of 256 erasures. -/
theorem Sound.current_iff
    {state : RoomErasure}
    (sound : state.Sound) :
    roomSessionPersistIsCurrent state.rememberedEpoch
        state.store.loadRoomEpoch = true ↔
      UInt8.ofNat state.erasures = 0 := by
  rw [roomSessionPersistIsCurrent, beq_iff_eq, sound.epoch]
  constructor
  · intro same
    exact (UInt8.add_eq_left).mp same.symm
  · intro none
    rw [none, UInt8.add_zero]

/-- A first boot is sound. -/
theorem sound_booted
    (store : RoomStore) :
    (booted store).Sound where
  epoch := by simp [booted]
  checked := by simp [booted]
  read := by simp [booted]
  removed := by simp [booted]
  erased := by simp [booted]
  counted := by simp [booted]
  durable := by simp [Durable, booted]

theorem Sound.checkEpoch
    {state : RoomErasure}
    (sound : state.Sound)
    (session : PersistedRoomSession) :
    (state.step (.checkEpoch session)).Sound := by
  simp only [RoomErasure.step]
  split
  · split
    · next current =>
      exact
        { sound with
          checked := by
            rintro _ _ ⟨⟩
            exact sound.current_iff.mp current }
    · exact sound
  · exact sound

/-- A write is by a runtime of the present boot, in which nothing was erased. -/
theorem Sound.writeBlob
    {state : RoomErasure}
    (sound : state.Sound)
    (orderly : state.Orderly .writeBlob) :
    (state.step .writeBlob).Sound := by
  cases saving : state.save with
  | idle =>
      simpa [RoomErasure.step, saving] using sound
  | checked session erasuresThen =>
      obtain ⟨noneSince, few⟩ := orderly session erasuresThen saving
      have noErasure : state.erasures = 0 := by
        have multiple := sound.checked session erasuresThen saving
        have isZero := congrArg UInt8.toNat multiple
        rw [UInt8.toNat_ofNat_of_lt' few] at isZero
        exact noneSince.trans isZero
      simp only [RoomErasure.step, saving]
      exact
        { sound with
          checked := by simp
          removed := by simp
          durable := by
            intro erasedAt erased _
            have earlier := sound.erased erasedAt erased
            have notNow : erasedAt ≠ state.boot := by
              rintro rfl
              have counted := sound.counted erased
              omega
            exact Nat.lt_of_le_of_ne earlier notNow }

theorem Sound.removeBlob
    {state : RoomErasure}
    (sound : state.Sound) :
    (state.step .removeBlob).Sound := by
  simp only [RoomErasure.step]
  split
  · exact
      { sound with
        read := by simp
        removed := fun _ _ => rfl
        durable := by simp [Durable, RoomStore.removeBlob] }
  · exact sound

theorem Sound.readEpoch
    {state : RoomErasure}
    (sound : state.Sound) :
    (state.step .readEpoch).Sound := by
  simp only [RoomErasure.step]
  split
  · next removed =>
    exact
      { sound with
        read := by
          rintro _ ⟨⟩
          rfl
        removed := fun _ notWritten =>
          sound.removed (by simp [removed]) notWritten }
  · exact sound

/-- An erasure during which nothing was written returns with no blob. -/
theorem Sound.bumpEpoch
    {state : RoomErasure}
    (sound : state.Sound)
    (orderly : state.Orderly .bumpEpoch) :
    (state.step .bumpEpoch).Sound := by
  cases deleting : state.delete with
  | idle => simpa [RoomErasure.step, deleting] using sound
  | removed => simpa [RoomErasure.step, deleting] using sound
  | readEpoch current =>
      have noBlob : state.store.blob = none :=
        sound.removed (by simp [deleting]) (orderly current deleting)
      simp only [RoomErasure.step, deleting]
      exact
        { epoch := by
            simp [nextRoomSessionEpoch, sound.read current deleting,
              sound.epoch, UInt8.ofNat_add, UInt8.add_assoc]
          checked := sound.checked
          read := by simp
          removed := by simp
          erased := by simp
          counted := by simp
          durable := by simp [Durable, RoomStore.bumpEpoch, noBlob] }

theorem Sound.reboot
    {state : RoomErasure}
    (sound : state.Sound) :
    (state.step .reboot).Sound :=
  { epoch := by simp [RoomErasure.step]
    checked := by simp [RoomErasure.step]
    read := by simp [RoomErasure.step]
    removed := by simp [RoomErasure.step]
    erased := fun erasedAt erased =>
      Nat.le_succ_of_le (sound.erased erasedAt erased)
    counted := by
      intro now
      have earlier := sound.erased (state.boot + 1) now
      omega
    durable := sound.durable }

/-- What an orderly operation does keeps what is known. -/
theorem Sound.step
    {state : RoomErasure}
    {event : ErasureEvent}
    (sound : state.Sound)
    (orderly : state.Orderly event) :
    (state.step event).Sound := by
  cases event with
  | checkEpoch session => exact sound.checkEpoch session
  | writeBlob => exact sound.writeBlob orderly
  | removeBlob => exact sound.removeBlob
  | readEpoch => exact sound.readEpoch
  | bumpEpoch => exact sound.bumpEpoch orderly
  | reboot => exact sound.reboot

/--
In every interleaving of saves, erasures and reboots whose operations do not mix,
and with fewer than 256 erasures between a runtime's boot and its checks, an
erased session stays erased until a runtime built later stores one.
-/
theorem erased_sessions_stay_erased
    (store : RoomStore)
    (events : List ErasureEvent)
    (orderly :
      Transition.Along RoomErasure.step Orderly (booted store) events) :
    Transition.Always RoomErasure.step Durable (booted store) events :=
  Transition.Always.mono
    (fun _ sound => Sound.durable sound)
    (Transition.always_of_along
      (fun _ _ sound guarded => Sound.step sound guarded)
      (sound_booted store) orderly)

/-- The operations of one save. -/
def saveOf
    (session : PersistedRoomSession) :
    List ErasureEvent :=
  [.checkEpoch session, .writeBlob]

/-- The operations of one erasure. -/
def deletion : List ErasureEvent :=
  [.removeBlob, .readEpoch, .bumpEpoch]

/-- A save, an erasure and a save that is refused. -/
theorem erased_session_example :
    Transition.Always RoomErasure.step Durable
      (booted { blob := none, epoch := none })
      (saveOf .empty ++ deletion ++ saveOf .empty) :=
  erased_sessions_stay_erased { blob := none, epoch := none }
    (saveOf .empty ++ deletion ++ saveOf .empty)
    (by
      simp [saveOf, deletion, Orderly, RoomErasure.step, booted,
        roomSessionPersistIsCurrent, RoomStore.loadRoomEpoch,
        RoomStore.writeBlob, RoomStore.removeBlob, RoomStore.bumpEpoch,
        nextRoomSessionEpoch])

/-- A room of which nothing is stored. -/
def unstored : RoomErasure :=
  booted { blob := none, epoch := none }

/-- An erasure in the first boot and a blob of its runtime are not durable. -/
theorem not_durable
    {state : RoomErasure}
    (violates :
      state.erasedAt = some 0 ∧
        state.store.blob.isSome = true ∧
        state.writer = 0) :
    ¬ state.Durable := by
  intro durable
  have later := durable 0 violates.1 violates.2.1
  omega

/--
A session is written back by a save whose check comes after 256 erasures, by one
whose check an erasure follows, and by one between an erasure's removal and its
return.
-/
theorem erased_session_written_back :
    (¬ ∀ store events,
      Transition.Always RoomErasure.step Durable (booted store) events) ∧
      ¬ Durable
        (Transition.run RoomErasure.step unstored
          ((List.replicate 256 deletion).flatten ++ saveOf .empty)) ∧
      ¬ Durable
        (Transition.run RoomErasure.step unstored
          (.checkEpoch .empty :: deletion ++ [.writeBlob])) ∧
      ¬ Durable
        (Transition.run RoomErasure.step unstored
          (.removeBlob :: saveOf .empty ++ [.readEpoch, .bumpEpoch])) := by
  have afterWrap :
      ¬ Durable
        (Transition.run RoomErasure.step unstored
          ((List.replicate 256 deletion).flatten ++ saveOf .empty)) :=
    not_durable (by decide +kernel)
  refine ⟨fun always => afterWrap (always _ _).last, afterWrap,
    not_durable (by decide +kernel), not_durable (by decide +kernel)⟩

end RoomErasure

end MeshCadet
