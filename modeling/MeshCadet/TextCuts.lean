import MeshCadet.ChannelMessages
import MeshCadet.DmAgreement

namespace MeshCadet

/-!
# What is shown of a long text

The sender cuts a text to the bytes that a message carries, wherever its
characters end; the receiver shows what arrives if it is valid as a whole.  A text
is shown as far as it was sent, unless the cut falls within a character.
-/

open Outcome

/-- Valid bytes, or what is shown in place of others. -/
def textStr
    (text : List UInt8) :
    List UInt8 :=
  if isUtf8 text then text else invalidUtf8

/-- The text that the interface is given of a direct message. -/
def InboundDm.shownText
    (message : InboundDm) :
    List UInt8 :=
  textStr message.text

/-- The cut to what a message carries does not fall within a character. -/
def CutsBetween
    (text : List UInt8) :
    Prop :=
  isUtf8Continuation (text.getD maxUiMsgBytes 0) = false

instance
    (text : List UInt8) :
    Decidable (CutsBetween text) :=
  inferInstanceAs (Decidable (_ = _))

/-- What is shown of a text is what a message carries of it, if that can be cut
off, and the placeholder if it cannot. -/
def ShowsCut
    (shown text : List UInt8) :
    Prop :=
  (CutsBetween text →
      shown = text.take maxUiMsgBytes ∧ isUtf8 shown = true) ∧
    (¬CutsBetween text → shown = invalidUtf8)

/-- A short text is not cut. -/
theorem cutsBetween_of_short
    {text : List UInt8}
    (short : text.length ≤ maxUiMsgBytes) :
    CutsBetween text := by
  rw [CutsBetween, List.getD_eq_default _ _ short]
  rfl

/-- What a message carries of a valid text is valid exactly if the cut does not
fall within a character. -/
theorem isUtf8_take_iff
    {text : List UInt8}
    (valid : isUtf8 text = true) :
    isUtf8 (text.take maxUiMsgBytes) = true ↔ CutsBetween text := by
  have isText := (isUtf8_iff text).mp valid
  rcases Nat.lt_or_ge maxUiMsgBytes text.length with long | short
  · have isUnit :
        text[maxUiMsgBytes]? = some (text.getD maxUiMsgBytes 0) := by
      rw [List.getElem?_eq_getElem long, List.getD_eq_getElem _ _ long]
    have boundary :
        utf8.boundary text maxUiMsgBytes =
          !isUtf8Continuation (text.getD maxUiMsgBytes 0) := by
      rw [SelfSync.Code.boundary, isUnit]
      rfl
    rw [isUtf8_iff, isText.take_iff (Nat.le_of_lt long), boundary,
      Bool.not_eq_true', CutsBetween]
  · rw [List.take_of_length_le short]
    exact iff_of_true valid (cutsBetween_of_short short)

/-- A valid text is shown as far as it is carried, or not at all. -/
theorem showsCut_of_valid
    {text : List UInt8}
    (valid : isUtf8 text = true) :
    ShowsCut (textStr (text.take maxUiMsgBytes)) text := by
  constructor
  · intro between
    have validFront := (isUtf8_take_iff valid).mpr between
    rw [textStr, if_pos validFront]
    exact ⟨rfl, validFront⟩
  · intro within
    have invalidFront : ¬isUtf8 (text.take maxUiMsgBytes) = true :=
      fun validFront => within ((isUtf8_take_iff valid).mp validFront)
    rw [textStr, if_neg invalidFront]

/-- Valid bytes are valid up to their first zero byte. -/
theorem isUtf8_cStr
    {text : List UInt8}
    (valid : isUtf8 text = true) :
    isUtf8 (cStr text) = true := by
  have isText := (isUtf8_iff text).mp valid
  have whole : cStr text ++ text.dropWhile (fun byte => byte ≠ 0) = text :=
    List.takeWhile_append_dropWhile
  cases rest : text.dropWhile fun byte => byte ≠ 0 with
  | nil =>
      rw [rest, List.append_nil] at whole
      rw [whole]
      exact valid
  | cons byte behind =>
      have isZero : byte = 0 := by
        have stopped :=
          List.head?_dropWhile_not (fun byte : UInt8 => decide (byte ≠ 0))
            text
        rw [rest, List.head?_cons] at stopped
        simpa using stopped
      rw [rest, isZero] at whole
      rw [← whole] at isText
      have zero : utf8.word [0] := utf8_word_ascii (by decide)
      exact isUtf8_of_text (isText.around zero).1

/-- A name, the delimiter and a text are valid together. -/
theorem isUtf8_composed
    {senderName body : List UInt8}
    (validName : isUtf8 senderName = true)
    (validBody : isUtf8 body = true) :
    isUtf8 (senderName ++ channelNameDelim ++ body) = true := by
  have delim : isUtf8 channelNameDelim = true := by decide
  have name := (isUtf8_iff senderName).mp validName
  exact isUtf8_of_text
    ((name.append ((isUtf8_iff _).mp delim)).append
      ((isUtf8_iff body).mp validBody))

/-- Without zero bytes nothing is cut off at one. -/
theorem cStr_of_noZero
    {text : List UInt8}
    (noZero : ∀ byte ∈ text, byte ≠ 0) :
    cStr text = text :=
  takeWhile_noZero noZero

/-- The front of a text up to its first zero byte is the front of the text up to
that byte. -/
theorem cStr_take
    (text : List UInt8)
    (count : Nat) :
    cStr (text.take count) = (cStr text).take count :=
  List.take_takeWhile.symm

section Shown

variable {crypto : Crypto}

/-- A direct message that is accepted shows its text as far as it was sent, unless
the cut falls within a character. -/
theorem dm_showsCut
    (inverse : crypto.DecryptsEncrypted)
    {draft : List UInt8}
    (valid : isUtf8 draft = true)
    (noZero : ∀ byte ∈ draft, byte ≠ 0)
    {sender receiver : Identity}
    {policy : PolicyFilter}
    (isContact :
      policy.contactPubkey (pubHash sender.pubkey) = some sender.pubkey)
    (shared :
      receiver.ecdhSharedSecret crypto sender.pubkey =
        sender.ecdhSharedSecret crypto receiver.pubkey)
    {txEpochBase : UInt32}
    {nowMs : Nat}
    {scope : Option (Vector UInt8 16)}
    {built : BuiltDm}
    (isBuilt :
      buildUiDm crypto txEpochBase nowMs sender receiver.pubkey
          (pubHash receiver.pubkey) draft scope =
        some built) :
    ∃ payload message,
      packetPayloadView built.frame =
          some (PayloadType.txtMsg.toU8, payload) ∧
        readInboundDm crypto receiver policy payload = some message ∧
        ShowsCut message.shownText draft ∧
        ∀ regionScope replay accepted,
          (handleDm crypto receiver policy regionScope replay
              payload).accepted =
            some accepted →
          accepted.message = message := by
  obtain ⟨payload, message, isPayload, isRead, -, isText, -⟩ :=
    buildUiDm_ack_agreement inverse isContact shared noZero isBuilt
  refine ⟨payload, message, isPayload, isRead, ?_, ?_⟩
  · rw [InboundDm.shownText, isText]
    exact showsCut_of_valid valid
  · intro regionScope replay accepted isAccepted
    rcases handleDm_cases crypto receiver policy regionScope replay payload
      with nothing | ⟨other, state, alsoRead, handled, -⟩
    · rw [nothing] at isAccepted
      cases isAccepted
    · rw [isRead] at alsoRead
      cases alsoRead
      rw [handled] at isAccepted
      cases isAccepted
      rfl

/-- A channel message shows name and text as far as they were sent, unless the cut
falls within a character. -/
theorem grpTxt_showsCut
    (inverse : crypto.DecryptsEncrypted)
    {channelSecret senderName draft : List UInt8}
    (long : 16 ≤ channelSecret.length)
    (validName : isUtf8 senderName = true)
    (valid : isUtf8 draft = true)
    (txEpochBase : UInt32)
    (nowMs : Nat)
    (scope : Option (Vector UInt8 16)) :
    ∃ payload received,
      packetPayloadView
          (buildUiGrpTxt crypto txEpochBase nowMs channelSecret senderName
            draft scope) =
        some (PayloadType.grpTxt.toU8, payload) ∧
        handleGrpTxt crypto (some channelSecret) payload =
          .value received ∧
        ShowsCut received.shownText
          (cStr (senderName ++ channelNameDelim ++ draft)) := by
  let composed := senderName ++ channelNameDelim ++ draft
  have isCut :
      (formatChannelText senderName draft).take maxUiMsgBytes =
        composed.take maxUiMsgBytes := by
    rw [formatChannelText, List.take_take]
    rfl
  have fits :
      5 + (composed.take maxUiMsgBytes).length ≤ plaintextBuf := by
    have few := List.length_take_le maxUiMsgBytes composed
    have roomy : 5 + maxUiMsgBytes ≤ plaintextBuf := by decide
    omega
  have received :=
    @handleGrpTxt_encode crypto channelSecret
      (txTimestamp txEpochBase nowMs) 0 0 inverse long _ fits
  let message :=
    receivedGrpTxt (channelHashVar crypto channelSecret)
      (txTimestamp txEpochBase nowMs) (cStr (composed.take maxUiMsgBytes))
  have shown :
      message.shownText = textStr ((cStr composed).take maxUiMsgBytes) := by
    rw [← cStr_take]
    rfl
  refine ⟨_, message, packetPayloadView_assemble crypto scope .grpTxt _, ?_,
    ?_⟩
  · rw [uiGrpTxtPayload, isCut]
    exact received
  · rw [shown]
    exact showsCut_of_valid (isUtf8_cStr (isUtf8_composed validName valid))

/--
A valid text without zero bytes is shown by the receiver of a direct message, and
behind the sender's name by the receiver of a channel message, as far as it was
sent, unless the cut falls within a character: then the placeholder is shown.
-/
theorem text_shown_as_cut
    (inverse : crypto.DecryptsEncrypted)
    {draft : List UInt8}
    (valid : isUtf8 draft = true)
    (noZero : ∀ byte ∈ draft, byte ≠ 0) :
    (∀ sender receiver policy txEpochBase nowMs scope built,
      policy.contactPubkey (pubHash sender.pubkey) = some sender.pubkey →
      receiver.ecdhSharedSecret crypto sender.pubkey =
        sender.ecdhSharedSecret crypto receiver.pubkey →
      buildUiDm crypto txEpochBase nowMs sender receiver.pubkey
          (pubHash receiver.pubkey) draft scope =
        some built →
      ∃ payload message,
        packetPayloadView built.frame =
            some (PayloadType.txtMsg.toU8, payload) ∧
          readInboundDm crypto receiver policy payload = some message ∧
          ShowsCut message.shownText draft ∧
          ∀ regionScope replay accepted,
            (handleDm crypto receiver policy regionScope replay
                payload).accepted =
              some accepted →
            accepted.message = message) ∧
      ∀ channelSecret senderName txEpochBase nowMs scope,
        16 ≤ channelSecret.length →
        isUtf8 senderName = true →
        (∃ payload received,
          packetPayloadView
              (buildUiGrpTxt crypto txEpochBase nowMs channelSecret
                senderName draft scope) =
            some (PayloadType.grpTxt.toU8, payload) ∧
            handleGrpTxt crypto (some channelSecret) payload =
              .value received ∧
            ShowsCut received.shownText
              (cStr (senderName ++ channelNameDelim ++ draft))) ∧
          ((∀ byte ∈ senderName, byte ≠ 0) →
            cStr (senderName ++ channelNameDelim ++ draft) =
              senderName ++ channelNameDelim ++ draft) := by
  refine ⟨?_, ?_⟩
  · intro sender receiver policy txEpochBase nowMs scope built isContact
      shared isBuilt
    exact dm_showsCut inverse valid noZero isContact shared isBuilt
  · intro channelSecret senderName txEpochBase nowMs scope long validName
    refine
      ⟨grpTxt_showsCut inverse long validName valid txEpochBase nowMs scope,
        ?_⟩
    intro nameNoZero
    have delimNoZero : ∀ byte ∈ channelNameDelim, byte ≠ 0 := by
      decide +kernel
    apply cStr_of_noZero
    intro byte member
    rcases List.mem_append.mp member with front | inDraft
    · rcases List.mem_append.mp front with inName | inDelim
      · exact nameNoZero byte inName
      · exact delimNoZero byte inDelim
    · exact noZero byte inDraft

end Shown

/-- The owner of the first of the other keys. -/
def anaIdentity : Identity :=
  { seed := Vector.replicate 32 0x0C
    pubkey := RecordedKeys.anaPubkey }

/-- A text that the cut leaves an accented letter at the end of. -/
def longText : List UInt8 :=
  List.replicate 118 0x61 ++ [0xC3, 0xA9, 0x21, 0x21]

/-- A text of 119 letters and one accented letter. -/
def accentedText : List UInt8 :=
  List.replicate 119 0x61 ++ [0xC3, 0xA9]

/-- Sixteen letters. -/
def lettersBlock : Vector UInt8 16 :=
  Vector.replicate 16 0x61

/-- The letters under the secret shared with Ana. -/
def lettersToAna : Vector UInt8 16 :=
  #v[0x23, 0x35, 0xF0, 0x1C, 0x50, 0xC0, 0x0A, 0xF9, 0x33, 0x53, 0x86, 0x66,
    0x24, 0xFD, 0xC0, 0x58]

/-- The first block of a message of letters under that secret. -/
def firstToAna : Vector UInt8 16 :=
  #v[0x57, 0x55, 0xBC, 0x3B, 0x22, 0xA2, 0xA0, 0x29, 0x00, 0x14, 0x59, 0x8C,
    0x92, 0xF6, 0x94, 0x1A]

/-- The end of the long text under that secret. -/
def longToAna : Vector UInt8 16 :=
  #v[0x8B, 0xFF, 0x3B, 0xD1, 0x94, 0x38, 0x04, 0xC4, 0xB7, 0x47, 0x4E, 0x3E,
    0x5F, 0xDD, 0xD6, 0x64]

/-- The end of the accented text under that secret. -/
def accentedToAna : Vector UInt8 16 :=
  #v[0xA0, 0x5D, 0x5C, 0xFC, 0xE6, 0x01, 0x94, 0xEF, 0xC1, 0x04, 0x15, 0x05,
    0xE8, 0x48, 0x08, 0x95]

/-- The letters under the channel's secret. -/
def lettersToFamily : Vector UInt8 16 :=
  #v[0xAD, 0x8B, 0x9D, 0x95, 0x64, 0x4B, 0xC8, 0x87, 0x4C, 0xBC, 0x23, 0x52,
    0x05, 0x7E, 0xE6, 0xC5]

/-- The first block of the channel message. -/
def firstToFamily : Vector UInt8 16 :=
  #v[0x70, 0x80, 0x0E, 0x3F, 0xC4, 0xC2, 0xD1, 0xDB, 0xFC, 0xDB, 0xFB, 0xDB,
    0xB2, 0x4D, 0x15, 0x3B]

/-- The last block of the channel message. -/
def lastToFamily : Vector UInt8 16 :=
  #v[0xCF, 0x29, 0x27, 0xE4, 0x68, 0x91, 0x83, 0x27, 0x9E, 0xE9, 0x69, 0x7D,
    0xC8, 0x91, 0x62, 0x1F]

/-- A first block, six others that are alike, and a last one. -/
def eightBlocks
    (first middle last : Vector UInt8 16) :
    List UInt8 :=
  first.toList ++ (List.replicate 6 middle.toList).flatten ++ last.toList

/-- What a message carries in front of its text. -/
def recordedHeader : List UInt8 :=
  [0x01, 0x02, 0x03, 0x64, 0x00]

/-- The primitives on the long text and the accented text as messages between Ana
and the device, and on the long text as a message to the channel. -/
def longMessages : CryptoRecord :=
  { ciphers :=
      [(Crypto.aesKey RecordedKeys.anaSecret,
          #v[0x01, 0x02, 0x03, 0x64, 0x00, 0x61, 0x61, 0x61, 0x61, 0x61,
            0x61, 0x61, 0x61, 0x61, 0x61, 0x61],
          firstToAna),
        (Crypto.aesKey RecordedKeys.anaSecret, lettersBlock, lettersToAna),
        (Crypto.aesKey RecordedKeys.anaSecret,
          #v[0x61, 0x61, 0x61, 0x61, 0x61, 0x61, 0x61, 0x61, 0x61, 0x61,
            0x61, 0xC3, 0xA9, 0x00, 0x00, 0x00],
          longToAna),
        (Crypto.aesKey RecordedKeys.anaSecret,
          #v[0x61, 0x61, 0x61, 0x61, 0x61, 0x61, 0x61, 0x61, 0x61, 0x61,
            0x61, 0x61, 0xC3, 0x00, 0x00, 0x00],
          accentedToAna),
        (channelAesKey familySecret,
          #v[0x01, 0x02, 0x03, 0x64, 0x00, 0x61, 0x6E, 0x61, 0x3A, 0x20,
            0x61, 0x61, 0x61, 0x61, 0x61, 0x61],
          firstToFamily),
        (channelAesKey familySecret, lettersBlock, lettersToFamily),
        (channelAesKey familySecret,
          #v[0x61, 0x61, 0x61, 0x61, 0x61, 0x61, 0x61, 0x61, 0x61, 0x61,
            0x61, 0x61, 0x61, 0x00, 0x00, 0x00],
          lastToFamily)]
    codes :=
      [(RecordedKeys.anaSecret.toList,
          eightBlocks firstToAna lettersToAna longToAna,
          #v[0xB7, 0xB2, 0x94, 0x59, 0xAF, 0x68, 0x74, 0x05, 0xC4, 0x80,
            0xD1, 0xE2, 0x67, 0x3D, 0x1C, 0xB2, 0x05, 0x2C, 0x2F, 0xA4, 0x71,
            0x3C, 0x1E, 0x86, 0x92, 0x43, 0x46, 0x4B, 0xE1, 0x87, 0x53, 0x6C]),
        (RecordedKeys.anaSecret.toList,
          eightBlocks firstToAna lettersToAna accentedToAna,
          #v[0x72, 0x0F, 0x65, 0x9C, 0x7A, 0x86, 0xB0, 0xA2, 0xEB, 0x86,
            0x5E, 0xE4, 0x43, 0x48, 0xD1, 0xEA, 0x6D, 0xF3, 0x96, 0xCE, 0xD9,
            0x1F, 0x58, 0x59, 0xA1, 0x93, 0xB7, 0xDD, 0x8D, 0x91, 0xE4, 0x6C]),
        (familySecret,
          eightBlocks firstToFamily lettersToFamily lastToFamily,
          #v[0x06, 0x52, 0xE0, 0x3E, 0xBA, 0x8E, 0xDD, 0x77, 0xE6, 0xC9,
            0x53, 0xF5, 0x13, 0xF8, 0x4F, 0xD1, 0x72, 0xA2, 0x4E, 0xE8, 0xE3,
            0x4B, 0x3B, 0x05, 0xF2, 0xE4, 0x68, 0xFF, 0x0D, 0x9F, 0xE6, 0x52])]
    digests :=
      [(familySecret, familyDigest),
        (recordedHeader ++ longText.take maxUiMsgBytes ++
            RecordedKeys.anaPubkey.toList,
          #v[0xC9, 0x04, 0xC6, 0xCD, 0xEA, 0xA0, 0xDB, 0x88, 0x71, 0x1C,
            0x78, 0xC3, 0xDA, 0xDE, 0x03, 0x14, 0x36, 0xB0, 0xBF, 0x14, 0x40,
            0x24, 0xF7, 0x0C, 0x53, 0xA6, 0xE5, 0x64, 0xBB, 0x43, 0xEC, 0xAE]),
        (recordedHeader ++ accentedText.take maxUiMsgBytes ++
            RecordedKeys.anaPubkey.toList,
          #v[0xDC, 0xB4, 0xB8, 0xA7, 0xEC, 0xCB, 0xBF, 0x39, 0x95, 0xEB,
            0x6D, 0x70, 0xB6, 0xBC, 0xC9, 0xF9, 0xC6, 0x70, 0x9E, 0xC3, 0x79,
            0x2C, 0xDB, 0x56, 0xEE, 0x14, 0x85, 0xD5, 0xC0, 0xD1, 0xB3, 0xBC])]
    agreements :=
      RecordedKeys.agreements ++
        [(anaIdentity.seed, RecordedKeys.device.pubkey,
          RecordedKeys.anaSecret)] }

/-- What the device reads of a message from Ana. -/
def ReadsFromAna
    (draft : List UInt8)
    (message : InboundDm) :
    Prop :=
  ∃ payload,
    packetPayloadView
        (assembleFloodFrame longMessages.crypto none .txtMsg zeroHops
          (uiDmPayload longMessages.crypto 0x64030201 0 anaIdentity
            RecordedKeys.device.pubkey (pubHash RecordedKeys.device.pubkey)
            draft)) =
        some (PayloadType.txtMsg.toU8, payload) ∧
      readInboundDm longMessages.crypto RecordedKeys.device
          (PolicyFilter.new.addContacts [ana]) payload =
        some message

/-- Ana's name, and the front of the long text that a channel message carries
behind it. -/
def longFromAna : List UInt8 :=
  [0x61, 0x6E, 0x61, 0x3A, 0x20] ++ List.replicate 115 0x61

/-- The long text is shown up to the cut. -/
theorem longText_shown :
    (∃ message,
      ReadsFromAna longText message ∧
        message.shownText = longText.take maxUiMsgBytes ∧
        message.shownText ≠ longText) ∧
      ∃ payload received,
        packetPayloadView
            (buildUiGrpTxt longMessages.crypto 0x64030201 0 familySecret
              [0x61, 0x6E, 0x61] longText none) =
            some (PayloadType.grpTxt.toU8, payload) ∧
          handleGrpTxt longMessages.crypto (some familySecret) payload =
            .value received ∧
          received.shownText = longFromAna := by
  obtain ⟨inDms, inChannel⟩ :=
    text_shown_as_cut longMessages.decryptsEncrypted
      (show isUtf8 longText = true by decide +kernel)
      (show ∀ byte ∈ longText, byte ≠ 0 by decide +kernel)
  obtain ⟨dmPayload, message, isDm, isRead, ⟨dmShown, -⟩, -⟩ :=
    inDms anaIdentity RecordedKeys.device
      (PolicyFilter.new.addContacts [ana]) 0x64030201 0 none _
      (by decide +kernel) (by decide +kernel) (buildUiDm_eq ..)
  obtain ⟨⟨payload, received, isGrpTxt, isTaken, shown⟩, whole⟩ :=
    inChannel familySecret [0x61, 0x6E, 0x61] 0x64030201 0 none
      (by decide) (by decide)
  rw [whole (by decide +kernel)] at shown
  have dmCut := (dmShown (by decide +kernel)).1
  have cut := (shown.1 (by decide +kernel)).1
  refine
    ⟨⟨message, ⟨dmPayload, isDm, isRead⟩, dmCut, ?_⟩, payload, received,
      isGrpTxt, isTaken, ?_⟩
  · rw [dmCut]
    decide +kernel
  · rw [cut]
    decide +kernel

/-- A letter that is cut in half takes the whole text with it. -/
theorem cut_character_hides_text :
    isUtf8 accentedText = true ∧
      (∀ byte ∈ accentedText, byte ≠ 0) ∧
      ∃ message,
        ReadsFromAna accentedText message ∧
          message.shownText = invalidUtf8 ∧
          ¬message.shownText <+: accentedText := by
  have valid : isUtf8 accentedText = true := by decide +kernel
  have noZero : ∀ byte ∈ accentedText, byte ≠ 0 := by decide +kernel
  obtain ⟨payload, message, isPayload, isRead, ⟨-, hidden⟩, -⟩ :=
    dm_showsCut longMessages.decryptsEncrypted valid noZero
      (show (PolicyFilter.new.addContacts [ana]).contactPubkey
          (pubHash anaIdentity.pubkey) =
        some anaIdentity.pubkey by decide +kernel)
      (show RecordedKeys.device.ecdhSharedSecret longMessages.crypto
          anaIdentity.pubkey =
        anaIdentity.ecdhSharedSecret longMessages.crypto
          RecordedKeys.device.pubkey by decide +kernel)
      (buildUiDm_eq longMessages.crypto 0x64030201 0 anaIdentity _ _
        accentedText none)
  have isHidden := hidden (by decide +kernel)
  refine
    ⟨valid, noZero, message, ⟨payload, isPayload, isRead⟩, isHidden, ?_⟩
  rw [isHidden]
  decide +kernel

end MeshCadet
