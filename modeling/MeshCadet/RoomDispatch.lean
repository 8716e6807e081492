import MeshCadet.RoomPushes

namespace MeshCadet

/-!
# Text messages between rooms and contacts

A text message is handed to the room with its source hash first, and to the
contacts only when it decrypts under that room's secret to a message that is no
push.  A contact with the hash of a room has another secret, so its messages do
not authenticate there and are dropped.
-/

/-- The source hash of a text message. -/
def sourceHash
    (payload : List UInt8) :
    UInt8 :=
  payload.getD 1 0

/-- The first room with a hash. -/
def findRoom
    (rooms : List RoomRuntime)
    (hash : UInt8) :
    Option RoomRuntime :=
  rooms.find? fun room => room.hash == hash

/-- No room has a hash for which none is found. -/
theorem findRoom_eq_none_iff
    (rooms : List RoomRuntime)
    (hash : UInt8) :
    findRoom rooms hash = none ↔ ∀ room ∈ rooms, room.hash ≠ hash := by
  simp [findRoom]

/-- What became of a text message. -/
structure TxtMsgRouting where
  rooms : List RoomRuntime
  handedToDm : Bool

/-- Route a text message to its room or to the contacts. -/
def routeTxtMsg
    (crypto : Crypto)
    (identity : Identity)
    (contactNames : UInt8 → Option (List UInt8))
    (rooms : List RoomRuntime)
    (payload : List UInt8) :
    TxtMsgRouting :=
  match findRoom rooms (sourceHash payload) with
  | some room =>
      let effect :=
        handleRoomPushFrame crypto identity contactNames room payload
      { rooms :=
          Search.updateFirst (fun room => room.hash == sourceHash payload)
            (fun _ => effect.room) rooms
        handedToDm := !effect.handled }
  | none =>
      { rooms := rooms
        handedToDm := true }

/-- The frame authenticates under the secret and is no push there. -/
def ReadsAsNoPush
    (crypto : Crypto)
    (secret : Key)
    (payload : List UInt8) :
    Prop :=
  ∃ destHash srcHash plaintext fields,
    decodeDmPayload crypto secret payload =
        .ok (destHash, srcHash, plaintext) ∧
      decodeTxtMsgPlaintext plaintext = .ok fields ∧
      fields.txtType ≠ .signedPlain

/-- What reads as no push authenticates. -/
theorem ReadsAsNoPush.authenticates
    {crypto : Crypto}
    {secret : Key}
    {payload : List UInt8}
    (reads : ReadsAsNoPush crypto secret payload) :
    Authenticates crypto secret payload := by
  obtain ⟨destHash, srcHash, plaintext, -, decoded, -⟩ := reads
  exact decodeDmPayload_ok_iff.mp ⟨_, decoded⟩

/-- The plaintext of a message is no push exactly when its subtype says so. -/
theorem decodeRoomPushPlaintext_notSignedPlain_iff
    (plaintext : List UInt8) :
    decodeRoomPushPlaintext plaintext = .error .notSignedPlain ↔
      ∃ fields,
        decodeTxtMsgPlaintext plaintext = .ok fields ∧
          fields.txtType ≠ .signedPlain := by
  unfold decodeRoomPushPlaintext
  cases isDecoded : decodeTxtMsgPlaintext plaintext with
  | error error => simp
  | ok fields =>
      by_cases isPush : fields.txtType = .signedPlain
      · by_cases short : plaintext.length < fields.textOffset + 4
        · simp [isPush, short]
        · simp [isPush, short]
      · simp [isPush]

/-- A frame is found to be no push exactly when it reads as none. -/
theorem decodeRoomPush_notSignedPlain_iff
    (crypto : Crypto)
    (secret : Key)
    (payload : List UInt8) :
    decodeRoomPush crypto secret payload = .error .notSignedPlain ↔
      ReadsAsNoPush crypto secret payload := by
  unfold decodeRoomPush ReadsAsNoPush
  cases isDecoded : decodeDmPayload crypto secret payload with
  | error error => simp
  | ok decoded =>
      rcases decoded with ⟨destHash, srcHash, plaintext⟩
      have mapped :
          (decodeRoomPushPlaintext plaintext).map
                (fun push => (destHash, srcHash, push)) =
              .error .notSignedPlain ↔
            decodeRoomPushPlaintext plaintext = .error .notSignedPlain := by
        cases decodeRoomPushPlaintext plaintext <;> simp [Except.map]
      simp only [mapped, decodeRoomPushPlaintext_notSignedPlain_iff,
        Except.ok.injEq, Prod.mk.injEq]
      constructor
      · rintro ⟨fields, isTxtMsg, noPush⟩
        exact ⟨destHash, srcHash, plaintext, fields, ⟨rfl, rfl, rfl⟩,
          isTxtMsg, noPush⟩
      · rintro ⟨_, _, _, fields, ⟨rfl, rfl, rfl⟩, isTxtMsg, noPush⟩
        exact ⟨fields, isTxtMsg, noPush⟩

/-- A room passes on what is addressed to the device and reads as no push. -/
theorem handleRoomPushFrame_passedOn_iff
    (crypto : Crypto)
    (identity : Identity)
    (contactNames : UInt8 → Option (List UInt8))
    (room : RoomRuntime)
    (payload : List UInt8) :
    (handleRoomPushFrame crypto identity contactNames room
        payload).handled = false ↔
      isRoomFrameForUs payload (pubHash identity.pubkey) = true ∧
        ReadsAsNoPush crypto
          (identity.ecdhSharedSecret crypto room.pubkey) payload := by
  rw [← decodeRoomPush_notSignedPlain_iff]
  unfold handleRoomPushFrame handleRoomPush
  cases forUs :
      isRoomFrameForUs payload (pubHash identity.pubkey) with
  | false => simp
  | true =>
      cases isPush :
          decodeRoomPush crypto
            (identity.ecdhSharedSecret crypto room.pubkey) payload with
      | error error =>
          simp [isRoomPushMisroute]
      | ok decoded =>
          simp

/-- A frame that does not authenticate under a room's secret is kept from the
contacts. -/
theorem handleRoomPushFrame_unauthenticated
    (crypto : Crypto)
    (identity : Identity)
    (contactNames : UInt8 → Option (List UInt8))
    (room : RoomRuntime)
    (payload : List UInt8) :
    ((handleRoomPushFrame crypto identity contactNames room
          payload).handled = true →
        Authenticates crypto
          (identity.ecdhSharedSecret crypto room.pubkey) payload) ↔
      Authenticates crypto
        (identity.ecdhSharedSecret crypto room.pubkey) payload := by
  constructor
  · intro onlyAuthentic
    cases isHandled :
        (handleRoomPushFrame crypto identity contactNames room
          payload).handled with
    | false =>
        have passedOn :=
          (handleRoomPushFrame_passedOn_iff crypto identity contactNames
            room payload).mp isHandled
        exact passedOn.2.authenticates
    | true => exact onlyAuthentic isHandled
  · intro authentic _
    exact authentic

/-- The payload of a plain message from a contact to the device. -/
def contactDmPayload
    (crypto : Crypto)
    (identity : Identity)
    (contactPubkey : Key)
    (timestamp : UInt32)
    (attempt : UInt8)
    (text : List UInt8) :
    List UInt8 :=
  encodeDmPayload crypto (identity.ecdhSharedSecret crypto contactPubkey)
    (pubHash identity.pubkey) (pubHash contactPubkey)
    (encodeTxtMsgPlaintext timestamp 0 attempt text)

/-- The frame reaches the contacts, and no room keeps it from them that it does
not authenticate to. -/
def KeptForContact
    (crypto : Crypto)
    (identity : Identity)
    (contactNames : UInt8 → Option (List UInt8))
    (rooms : List RoomRuntime)
    (payload : List UInt8) :
    Prop :=
  (routeTxtMsg crypto identity contactNames rooms payload).handedToDm =
      true ∧
    ∀ room,
      findRoom rooms (sourceHash payload) = some room →
      (handleRoomPushFrame crypto identity contactNames room
        payload).handled = true →
      Authenticates crypto (identity.ecdhSharedSecret crypto room.pubkey)
        payload

/-- A contact's plain message reaches the contacts exactly when no room has the
contact's hash, or when it also authenticates under the secret of the first room
that has it and reads as no push there. -/
theorem contactDm_kept_iff
    (crypto : Crypto)
    (identity : Identity)
    (contactNames : UInt8 → Option (List UInt8))
    (rooms : List RoomRuntime)
    (contactPubkey : Key)
    (timestamp : UInt32)
    (attempt : UInt8)
    (text : List UInt8) :
    KeptForContact crypto identity contactNames rooms
        (contactDmPayload crypto identity contactPubkey timestamp attempt
          text) ↔
      (∀ room ∈ rooms, room.hash ≠ pubHash contactPubkey) ∨
        ∃ room,
          findRoom rooms (pubHash contactPubkey) = some room ∧
            ReadsAsNoPush crypto
              (identity.ecdhSharedSecret crypto room.pubkey)
              (contactDmPayload crypto identity contactPubkey timestamp
                attempt text) := by
  have source :
      sourceHash
          (contactDmPayload crypto identity contactPubkey timestamp
            attempt text) =
        pubHash contactPubkey :=
    rfl
  have forUs :
      isRoomFrameForUs
          (contactDmPayload crypto identity contactPubkey timestamp
            attempt text)
          (pubHash identity.pubkey) =
        true := by
    simp [isRoomFrameForUs, contactDmPayload, encodeDmPayload]
  unfold KeptForContact routeTxtMsg
  rw [source, ← findRoom_eq_none_iff]
  cases found : findRoom rooms (pubHash contactPubkey) with
  | none => simp
  | some room =>
      have passedOn :=
        handleRoomPushFrame_passedOn_iff crypto identity contactNames room
          (contactDmPayload crypto identity contactPubkey timestamp
            attempt text)
      simp only [Bool.not_eq_true', passedOn, forUs, true_and,
        reduceCtorEq, false_or, Option.some.injEq, exists_eq_left']
      constructor
      · exact fun kept => kept.1
      · intro reads
        refine ⟨reads, ?_⟩
        rintro _ rfl -
        exact reads.authenticates

/-- The primitives on one message of the first contact. -/
def anaMessage : CryptoRecord :=
  { ciphers :=
      [(Crypto.aesKey RecordedKeys.anaSecret,
          RecordedKeys.hiPlaintext,
          RecordedKeys.anaHiCiphertext)]
    codes :=
      [(RecordedKeys.anaSecret.toList,
          RecordedKeys.anaHiCiphertext.toList,
          RecordedKeys.anaHiCode),
        (RecordedKeys.boSecret.toList,
          RecordedKeys.anaHiCiphertext.toList,
          #v[0xD0, 0x08, 0xFB, 0xB5, 0x65, 0x33, 0xF5, 0x40, 0x5A, 0x9F,
            0x91, 0x24, 0xA5, 0xC1, 0xF0, 0xD0, 0x1D, 0xEA, 0x06, 0x15,
            0xE0, 0x68, 0xC4, 0x8E, 0x95, 0x9F, 0x94, 0x7E, 0xCA, 0x60,
            0xC2, 0x0A])]
    digests := []
    agreements := RecordedKeys.agreements }

/-- A room whose key starts like the first contact's. -/
def boRoom : RoomRuntime :=
  { pubkey := RecordedKeys.boPubkey
    hash := 0x0B
    recent := [] }

/-- A contact's message does not reach the contacts when a room has its hash,
though it decodes under the contact's secret. -/
theorem contactDm_droppedByRoom :
    decodeDmPayload anaMessage.crypto RecordedKeys.anaSecret
        (contactDmPayload anaMessage.crypto RecordedKeys.device
          RecordedKeys.anaPubkey 0x64030201 0 [0x68, 0x69]) =
      .ok (0x8A, 0x0B, [0x01, 0x02, 0x03, 0x64, 0x00, 0x68, 0x69, 0x00,
        0x00, 0x00, 0x00, 0x00, 0x00, 0x00, 0x00, 0x00]) ∧
      ¬Authenticates anaMessage.crypto RecordedKeys.boSecret
        (contactDmPayload anaMessage.crypto RecordedKeys.device
          RecordedKeys.anaPubkey 0x64030201 0 [0x68, 0x69]) ∧
      ¬KeptForContact anaMessage.crypto RecordedKeys.device
        (fun _ => none) [boRoom]
        (contactDmPayload anaMessage.crypto RecordedKeys.device
          RecordedKeys.anaPubkey 0x64030201 0 [0x68, 0x69]) := by
  refine ⟨by decide +kernel, ?_, ?_⟩
  · rw [Authenticates]
    decide +kernel
  · intro kept
    have handed := kept.1
    revert handed
    decide +kernel

end MeshCadet
