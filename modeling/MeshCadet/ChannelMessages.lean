import MeshCadet.BufferDecoders
import MeshCadet.ChannelFrames
import MeshCadet.RoomRedelivery

namespace MeshCadet

/-!
# Channel messages from sender to receiver

A channel message is the sender's name, a colon and a space, and the text, cut to
the sender's buffer and encrypted under the channel's secret.  The receiver takes
what stands before the first colon and space for the name, and a zero byte for the
end of the text; its code has two bytes.
-/

open Outcome

/-- Copy to a position of the buffer as much as fits; returns the new position. -/
def appendClamped
    {Failure : Type}
    (out : List UInt8)
    (w : Nat)
    (src : List UInt8) :
    Outcome Failure (List UInt8 × Nat) := do
  let taken := min src.length (out.length - w)
  let out ← write out w (src.take taken)
  pure (out, w + taken)

/-- Put the sender's name in front of the text, in a buffer. -/
def formatChannelTextInto
    {Failure : Type}
    (senderName body out : List UInt8) :
    Outcome Failure (List UInt8 × Nat) := do
  let (out, w) ← appendClamped out 0 senderName
  let (out, w) ← appendClamped out w channelNameDelim
  appendClamped out w body

/-- The text that a sender composes in a buffer. -/
def composeChannelText
    {Failure : Type}
    (senderName body : List UInt8)
    (bufferLen : Nat) :
    Outcome Failure (List UInt8) := do
  let (textBuf, composed) ←
    formatChannelTextInto senderName body (List.replicate bufferLen 0)
  slice textBuf 0 composed

/-- The payload of a channel message; its plaintext is built in a buffer. -/
def encodeGrpTxtVarInto
    {Failure : Type}
    (crypto : Crypto)
    (channelSecret : List UInt8)
    (timestamp : UInt32)
    (txtType attempt : UInt8)
    (text : List UInt8) :
    Outcome Failure (List UInt8) := do
  let ptBuf ←
    write (List.replicate plaintextBuf 0) 0
      (Bytes.u32ToLeBytes timestamp).toList
  let ptBuf ← write ptBuf 4 [(txtType <<< 2) ||| (attempt &&& 0x03)]
  let ptBuf ← write ptBuf 5 text
  let aesKey ← arrayAt 16 channelSecret 0 16
  let plaintext ← slice ptBuf 0 (5 + text.length)
  pure
    (channelHashVar crypto channelSecret ::
      crypto.encryptThenMac aesKey channelSecret plaintext)

/-- Compose a channel message and encode it. -/
def encodeChannelMessage
    {Failure : Type}
    (crypto : Crypto)
    (channelSecret : List UInt8)
    (timestamp : UInt32)
    (txtType attempt : UInt8)
    (senderName body : List UInt8)
    (bufferLen : Nat) :
    Outcome Failure (List UInt8) := do
  let text ← composeChannelText senderName body bufferLen
  encodeGrpTxtVarInto crypto channelSecret timestamp txtType attempt text

/-- The fields of a channel message. -/
structure GrpTxtFields where
  timestamp : UInt32
  txtType : TxtType
  attempt : UInt8
  textOffset : Nat
  textLen : Nat
deriving Repr, DecidableEq

/-- Decode a channel message into a buffer. -/
def decodeGrpTxtVarInto
    (crypto : Crypto)
    (channelSecret payload out : List UInt8) :
    Outcome CodecError (List UInt8 × GrpTxtFields) :=
  if payload.length < 3 then
    .failed .truncatedPayload
  else do
    let macAndCiphertext ← slice payload 1 payload.length
    if macAndCiphertext.length < 2 ∨
        (macAndCiphertext.length - 2) % 16 ≠ 0 then
      .failed .misalignedCiphertext
    else do
      let aesKey ← arrayAt 16 channelSecret 0 16
      let (out, ptLen) ←
        (macThenDecryptInto crypto aesKey channelSecret macAndCiphertext
          out).mapFailure fun _ => .macMismatch
      let fields ← decodeTxtMsgPlaintextIn out ptLen
      pure
        (out,
          { timestamp := fields.timestamp
            txtType := fields.txtType
            attempt := fields.attempt
            textOffset := fields.textOffset
            textLen := ptLen - fields.textOffset })

/-- Why a channel message is dropped. -/
inductive GrpTxtDrop where
  | noChannel
  | emptyPayload
  | otherChannel
  | codec (error : CodecError)
deriving Repr, DecidableEq

/-- A channel message as it is logged, displayed and kept. -/
structure ReceivedGrpTxt where
  channelHash : UInt8
  timestamp : UInt32
  name : Option (List UInt8)
  body : List UInt8
  shownText : List UInt8
  keptText : List UInt8
deriving Repr, DecidableEq

/-- A buffer up to its first zero byte. -/
def cStr
    (buf : List UInt8) :
    List UInt8 :=
  buf.takeWhile fun byte => byte ≠ 0

/-- What is made of a decrypted text. -/
def receivedGrpTxt
    (channelHash : UInt8)
    (timestamp : UInt32)
    (text : List UInt8) :
    ReceivedGrpTxt :=
  { channelHash := channelHash
    timestamp := timestamp
    name := (parseChannelText text).1
    body := (parseChannelText text).2
    shownText := if isUtf8 text then text else invalidUtf8
    keptText := text }

/-- Handle a channel message that arrived. -/
def handleGrpTxt
    (crypto : Crypto)
    (channelSecret : Option (List UInt8))
    (payload : List UInt8) :
    Outcome GrpTxtDrop ReceivedGrpTxt :=
  match channelSecret with
  | none => .failed .noChannel
  | some channelSecret =>
      if payload = [] then
        .failed .emptyPayload
      else do
        let ch ← index payload 0
        if ch ≠ channelHashVar crypto channelSecret then
          .failed .otherChannel
        else do
          let (ptBuf, fields) ←
            (decodeGrpTxtVarInto crypto channelSecret payload
              (List.replicate plaintextBuf 0)).mapFailure .codec
          let stop := min (fields.textOffset + fields.textLen) ptBuf.length
          let text ← slice ptBuf fields.textOffset stop
          pure (receivedGrpTxt ch fields.timestamp (cStr text))

/-- The secret a channel's messages are encrypted under. -/
def Channel.airSecret
    (channel : Channel) :
    List UInt8 :=
  channel.secret.toList.take channel.keyLenResolved

namespace ProvisionedConfig

/-- The primary channel, if there is one. -/
def primaryChannel
    (config : ProvisionedConfig) :
    Option Channel :=
  config.channels.elements.find? fun channel => channel.primary

/-- The channel of the device: the primary one, or else the first. -/
def resolveChannel
    (config : ProvisionedConfig) :
    Option Channel :=
  config.primaryChannel.or config.channels.elements.head?

/-- The secret of the device's channel. -/
def resolveChannelSecret
    (config : ProvisionedConfig) :
    Option (List UInt8) :=
  config.resolveChannel.map Channel.airSecret

end ProvisionedConfig

section Compose

variable {Failure : Type}

/-- Appending what fits cuts the whole to the buffer. -/
theorem appendClamped_eq
    (front src out : List UInt8) :
    (appendClamped
        (front.take out.length ++ out.drop (front.take out.length).length)
        (front.take out.length).length src :
      Outcome Failure (List UInt8 × Nat)) =
      .value
        ((front ++ src).take out.length ++
            out.drop ((front ++ src).take out.length).length,
          ((front ++ src).take out.length).length) := by
  have fits : (front.take out.length).length ≤ out.length :=
    List.length_take_le _ _
  have total :
      (front.take out.length ++
          out.drop (front.take out.length).length).length =
        out.length := by
    rw [List.length_append, List.length_drop]
    omega
  have cut :
      (front ++ src).take out.length =
        front.take out.length ++
          src.take (min src.length
            (out.length - (front.take out.length).length)) := by
    rw [List.take_append, List.append_cancel_left_eq, List.take_eq_take_iff,
      List.length_take]
    omega
  have taken :
      (src.take (min src.length
        (out.length - (front.take out.length).length))).length =
        min src.length (out.length - (front.take out.length).length) := by
    rw [List.length_take]
    omega
  have sameLength :
      ((front ++ src).take out.length).length =
        (front.take out.length).length +
          min src.length (out.length - (front.take out.length).length) := by
    rw [cut, List.length_append, taken]
  have inside :
      (front.take out.length).length +
          (src.take (min src.length
            (out.length - (front.take out.length).length))).length ≤
        out.length := by
    rw [taken]
    omega
  rw [appendClamped, total, write_behind inside, value_bind, taken, ← cut,
    ← sameLength]
  rfl

/-- The composed text is the name, the delimiter and the text, cut. -/
theorem composeChannelText_eq
    (senderName body : List UInt8)
    (bufferLen : Nat) :
    (composeChannelText senderName body bufferLen :
        Outcome Failure (List UInt8)) =
      .value ((senderName ++ channelNameDelim ++ body).take bufferLen) := by
  let out : List UInt8 := List.replicate bufferLen 0
  have outLength : out.length = bufferLen := List.length_replicate
  have named := @appendClamped_eq Failure [] senderName out
  have delimited := @appendClamped_eq Failure senderName channelNameDelim out
  have whole :=
    @appendClamped_eq Failure (senderName ++ channelNameDelim) body out
  rw [List.take_nil, List.nil_append, List.nil_append] at named
  simp only [List.length_nil, List.drop_zero] at named
  have isFront :
      (slice
          ((senderName ++ channelNameDelim ++ body).take out.length ++
            out.drop
              ((senderName ++ channelNameDelim ++ body).take
                out.length).length)
          0
          ((senderName ++ channelNameDelim ++ body).take
            out.length).length :
        Outcome Failure (List UInt8)) =
        .value
          ((senderName ++ channelNameDelim ++ body).take out.length) := by
    rw [slice_eq (Nat.zero_le _) (by rw [List.length_append]; omega)]
    simp
  rw [composeChannelText, formatChannelTextInto, named, value_bind]
  simp only [delimited, value_bind, whole, isFront]
  rw [outLength]

/-- The first sixteen bytes of a secret that is long enough. -/
theorem arrayAt_channelAesKey
    {channelSecret : List UInt8}
    (long : 16 ≤ channelSecret.length) :
    (arrayAt 16 channelSecret 0 16 :
        Outcome Failure (Vector UInt8 16)) =
      .value (channelAesKey channelSecret) := by
  have sameKey :
      fieldAt 16 channelSecret 0 = channelAesKey channelSecret := by
    simp [fieldAt, channelAesKey]
  rw [arrayAt_eq long rfl, sameKey]

/-- Texts longer than the plaintext buffer, and short secrets, panic. -/
theorem encodeGrpTxtVarInto_eq
    (crypto : Crypto)
    (channelSecret : List UInt8)
    (timestamp : UInt32)
    (txtType attempt : UInt8)
    (text : List UInt8) :
    (encodeGrpTxtVarInto crypto channelSecret timestamp txtType attempt
        text : Outcome Failure (List UInt8)) =
      if 5 + text.length ≤ plaintextBuf ∧ 16 ≤ channelSecret.length then
        .value
          (encodeGrpTxtVar crypto channelSecret timestamp txtType attempt
            text)
      else
        .panicked := by
  let timestampBytes := (Bytes.u32ToLeBytes timestamp).toList
  let flags := (txtType <<< 2) ||| (attempt &&& 0x03)
  let buffer : List UInt8 := List.replicate plaintextBuf 0
  have bufferLen : buffer.length = plaintextBuf := List.length_replicate
  have roomy : plaintextBuf = 256 := rfl
  have four : timestampBytes.length = 4 := Vector.length_toList
  have five : (timestampBytes ++ [flags]).length = 5 := by
    rw [List.length_append, four]
    rfl
  have first :
      (write buffer 0 timestampBytes : Outcome Failure (List UInt8)) =
        .value (timestampBytes ++ buffer.drop timestampBytes.length) := by
    rw [write_eq (by rw [four, bufferLen, roomy]; omega)]
    simp
  have second :
      (write (timestampBytes ++ buffer.drop timestampBytes.length) 4
          [flags] : Outcome Failure (List UInt8)) =
        .value
          (timestampBytes ++ [flags] ++
            buffer.drop (timestampBytes ++ [flags]).length) := by
    rw [List.length_append]
    have behind :=
      @write_behind Failure UInt8 timestampBytes [flags] buffer (by
        rw [four, bufferLen, roomy, List.length_singleton]
        omega)
    rw [four] at behind ⊢
    exact behind
  rw [encodeGrpTxtVarInto, first, value_bind, second, value_bind]
  by_cases fits : 5 + text.length ≤ plaintextBuf
  · have third :
        (write
            (timestampBytes ++ [flags] ++
              buffer.drop (timestampBytes ++ [flags]).length)
            5 text : Outcome Failure (List UInt8)) =
          .value
            (timestampBytes ++ [flags] ++ text ++
              buffer.drop (5 + text.length)) := by
      have behind :=
        @write_behind Failure UInt8 (timestampBytes ++ [flags]) text buffer
          (by rw [five, bufferLen]; exact fits)
      rw [five] at behind ⊢
      exact behind
    have isPlaintext :
        (slice
            (timestampBytes ++ [flags] ++ text ++
              buffer.drop (5 + text.length))
            0 (5 + text.length) : Outcome Failure (List UInt8)) =
          .value
            (encodeTxtMsgPlaintext timestamp txtType attempt text) := by
      have length :
          (timestampBytes ++ [flags] ++ text).length = 5 + text.length := by
        rw [List.length_append, five]
      rw [slice_eq (Nat.zero_le _)
        (by rw [List.length_append, length]; omega), ← length]
      simp only [List.drop_zero, Nat.sub_zero, List.take_left]
      rfl
    rw [third, value_bind]
    by_cases long : 16 ≤ channelSecret.length
    · rw [if_pos ⟨fits, long⟩, arrayAt_channelAesKey long, value_bind,
        isPlaintext, value_bind]
      rfl
    · rw [if_neg fun both => long both.2, arrayAt, slice,
        if_neg fun both => long both.2]
      rfl
  · have filled : (timestampBytes ++ [flags]).length ≤ buffer.length := by
      rw [five, bufferLen, roomy]
      omega
    have third :=
      @write_past Failure UInt8 (timestampBytes ++ [flags]) text buffer
        filled (by rw [five, bufferLen]; omega)
    rw [five] at third
    rw [if_neg fun both => fits both.1, five, third]
    rfl

end Compose

section Receive

variable {crypto : Crypto} {channelSecret : List UInt8}

/-- The code of a payload that decrypts matches whole blocks. -/
theorem macMatches_of_macThenDecrypt
    {key : Vector UInt8 16}
    {hmacKey payload plaintext : List UInt8}
    (decrypted :
      crypto.macThenDecrypt key hmacKey payload = some plaintext) :
    2 ≤ payload.length ∧ (payload.length - 2) % 16 = 0 := by
  rw [Crypto.macThenDecrypt] at decrypted
  split at decrypted
  · rename_i isMatch
    simp only [Crypto.macMatches, Bool.and_eq_true, decide_eq_true_eq,
      beq_iff_eq, List.length_drop] at isMatch
    exact isMatch.1
  · cases decrypted

/-- A payload of whole blocks is decrypted, or its code does not match. -/
theorem decodeGrpTxtVarInto_aligned
    (long : 16 ≤ channelSecret.length)
    {macAndCiphertext : List UInt8}
    (atLeast : 2 ≤ macAndCiphertext.length)
    (aligned : (macAndCiphertext.length - 2) % 16 = 0)
    (hash : UInt8)
    (out : List UInt8) :
    decodeGrpTxtVarInto crypto channelSecret (hash :: macAndCiphertext)
        out =
      (do
        let (out, ptLen) ←
          (macThenDecryptInto crypto (channelAesKey channelSecret)
            channelSecret macAndCiphertext out).mapFailure
              fun _ => .macMismatch
        let fields ← decodeTxtMsgPlaintextIn out ptLen
        pure
          (out,
            { timestamp := fields.timestamp
              txtType := fields.txtType
              attempt := fields.attempt
              textOffset := fields.textOffset
              textLen := ptLen - fields.textOffset })) := by
  have atLeastThree : ¬ (hash :: macAndCiphertext).length < 3 := by
    rw [List.length_cons]
    omega
  have behind :
      (slice (hash :: macAndCiphertext) 1 (hash :: macAndCiphertext).length :
        Outcome CodecError (List UInt8)) =
        .value macAndCiphertext := by
    rw [slice_eq (by simp) (Nat.le_refl _)]
    simp
  have isWhole :
      ¬ (macAndCiphertext.length < 2 ∨
        (macAndCiphertext.length - 2) % 16 ≠ 0) := by
    omega
  rw [decodeGrpTxtVarInto, if_neg atLeastThree, behind, value_bind,
    if_neg isWhole, arrayAt_channelAesKey long, value_bind]

/-- A payload whose code matches is received with its decrypted text. -/
theorem handleGrpTxt_decrypted
    (long : 16 ≤ channelSecret.length)
    {macAndCiphertext plaintext : List UInt8}
    (decrypted :
      crypto.macThenDecrypt (channelAesKey channelSecret) channelSecret
          macAndCiphertext =
        some plaintext)
    (atLeast : 5 ≤ plaintext.length)
    (fits : plaintext.length ≤ plaintextBuf) :
    handleGrpTxt crypto (some channelSecret)
        (channelHashVar crypto channelSecret :: macAndCiphertext) =
      .value
        (receivedGrpTxt (channelHashVar crypto channelSecret)
          (leadingTimestamp plaintext) (cStr (plaintext.drop 5))) := by
  obtain ⟨atLeastTwo, aligned⟩ := macMatches_of_macThenDecrypt decrypted
  rw [handleGrpTxt, if_neg (List.cons_ne_nil _ _), index_getD (by simp),
    value_bind, List.getD_cons_zero, if_neg (not_not_intro rfl)]
  have inBuffer :
      plaintext.length ≤
        (List.replicate plaintextBuf (0 : UInt8)).length := by
    rw [List.length_replicate]
    exact fits
  generalize List.replicate plaintextBuf (0 : UInt8) = out at inBuffer ⊢
  have isFields :
      decodeTxtMsgPlaintextIn (plaintext ++ out.drop plaintext.length)
          plaintext.length =
        .value
          { timestamp := leadingTimestamp plaintext
            txtType := .fromByte (plaintext.getD 4 0 >>> 2)
            attempt := plaintext.getD 4 0 &&& 0x03
            textOffset := 5 } := by
    rw [decodeTxtMsgPlaintextIn_eq, decodeTxtMsgPlaintext,
      if_neg (Nat.not_lt_of_le atLeast)]
    rfl
  have isText :
      (slice (plaintext ++ out.drop plaintext.length) 5
          (min (5 + (plaintext.length - 5))
            (plaintext ++ out.drop plaintext.length).length) :
        Outcome GrpTxtDrop (List UInt8)) =
        .value (plaintext.drop 5) := by
    have stop :
        min (5 + (plaintext.length - 5))
            (plaintext ++ out.drop plaintext.length).length =
          plaintext.length := by
      rw [List.length_append]
      omega
    rw [stop, slice_eq atLeast (by rw [List.length_append]; omega),
      List.drop_append_of_le_length atLeast, ← List.length_drop,
      List.take_left]
  have isDecoded :
      decodeGrpTxtVarInto crypto channelSecret
          (channelHashVar crypto channelSecret :: macAndCiphertext) out =
        .value
          (plaintext ++ out.drop plaintext.length,
            { timestamp := leadingTimestamp plaintext
              txtType := .fromByte (plaintext.getD 4 0 >>> 2)
              attempt := plaintext.getD 4 0 &&& 0x03
              textOffset := 5
              textLen := plaintext.length - 5 }) := by
    rw [decodeGrpTxtVarInto_aligned long atLeastTwo aligned,
      macThenDecryptInto_eq, decrypted]
    simp only [if_pos inBuffer, mapFailure_value, value_bind, isFields,
      pure_eq]
  rw [isDecoded, mapFailure_value, value_bind]
  simp only [isText, value_bind]
  rfl

/-- A payload whose code does not match is dropped. -/
theorem handleGrpTxt_mismatch
    (long : 16 ≤ channelSecret.length)
    {macAndCiphertext : List UInt8}
    (mismatch :
      crypto.macThenDecrypt (channelAesKey channelSecret) channelSecret
          macAndCiphertext =
        none)
    (atLeast : 2 ≤ macAndCiphertext.length)
    (aligned : (macAndCiphertext.length - 2) % 16 = 0) :
    handleGrpTxt crypto (some channelSecret)
        (channelHashVar crypto channelSecret :: macAndCiphertext) =
      .failed (.codec .macMismatch) := by
  rw [handleGrpTxt, if_neg (List.cons_ne_nil _ _), index_getD (by simp),
    value_bind, List.getD_cons_zero, if_neg (not_not_intro rfl),
    decodeGrpTxtVarInto_aligned long atLeast aligned,
    macThenDecryptInto_eq, mismatch]
  rfl

/-- A payload with the hash of another channel is dropped. -/
theorem handleGrpTxt_otherChannel
    {hash : UInt8}
    (other : hash ≠ channelHashVar crypto channelSecret)
    (macAndCiphertext : List UInt8) :
    handleGrpTxt crypto (some channelSecret) (hash :: macAndCiphertext) =
      .failed .otherChannel := by
  rw [handleGrpTxt, if_neg (List.cons_ne_nil _ _), index_getD (by simp),
    value_bind]
  exact if_pos other

end Receive

/-- A name and a text that survive being put into one string. -/
structure ChannelTextKept
    (senderName body : List UInt8)
    (bufferLen : Nat) :
    Prop where
  undelimited : ¬channelNameDelim <:+: senderName
  noZero : ∀ byte ∈ senderName ++ body, byte ≠ 0
  short : senderName.length + 2 + body.length ≤ bufferLen

/-- The receiver finds the name and the text again exactly if they survive. -/
theorem parseChannelText_composed
    {senderName body : List UInt8}
    {bufferLen : Nat} :
    parseChannelText
        (cStr ((senderName ++ channelNameDelim ++ body).take bufferLen)) =
        (some senderName, body) ↔
      ChannelTextKept senderName body bufferLen := by
  have wholeLength :
      (senderName ++ channelNameDelim ++ body).length =
        senderName.length + 2 + body.length := by
    simp [channelNameDelim]
    omega
  constructor
  · intro parsed
    have undelimited := undelimited_of_parseChannelText parsed
    rcases parseChannelText_cases
        (cStr ((senderName ++ channelNameDelim ++ body).take bufferLen)) with
      ⟨-, unparsed⟩ | ⟨name, rest, isParsed, isText⟩
    · rw [unparsed] at parsed
      cases parsed
    · rw [parsed] at isParsed
      cases isParsed
      have cut :
          (cStr ((senderName ++ channelNameDelim ++ body).take
            bufferLen)).length ≤
            ((senderName ++ channelNameDelim ++ body).take
              bufferLen).length :=
        (List.takeWhile_sublist _).length_le
      rw [isText, List.length_take] at cut
      have short :
          (senderName ++ channelNameDelim ++ body).length ≤ bufferLen := by
        omega
      rw [List.take_of_length_le short] at isText
      refine ⟨undelimited, ?_, wholeLength ▸ short⟩
      have noZero := List.takeWhile_eq_self_iff.mp isText
      intro byte member
      have inText : byte ∈ senderName ++ channelNameDelim ++ body := by
        rcases List.mem_append.mp member with inName | inBody
        · simp [inName]
        · simp [inBody]
      simpa using noZero byte inText
  · rintro ⟨undelimited, noZero, short⟩
    have noZeroText :
        ∀ byte ∈ senderName ++ channelNameDelim ++ body, byte ≠ 0 := by
      intro byte member
      rcases List.mem_append.mp member with inFront | inBody
      · rcases List.mem_append.mp inFront with inName | inDelim
        · exact noZero byte (List.mem_append_left _ inName)
        · simp only [channelNameDelim, List.mem_cons,
            List.not_mem_nil, or_false] at inDelim
          rcases inDelim with rfl | rfl <;> decide
      · exact noZero byte (List.mem_append_right _ inBody)
    rw [List.take_of_length_le (wholeLength ▸ short), cStr,
      takeWhile_noZero noZeroText]
    exact parseChannelText_label undelimited body

section RoundTrip

variable {crypto : Crypto} {channelSecret senderName body : List UInt8}
variable {timestamp : UInt32} {txtType attempt : UInt8} {bufferLen : Nat}

/-- What the encoder accepts fits its buffer and has a long enough secret. -/
theorem encodeChannelMessage_value
    {Failure : Type}
    {payload : List UInt8}
    (encoded :
      (encodeChannelMessage crypto channelSecret timestamp txtType attempt
          senderName body bufferLen : Outcome Failure (List UInt8)) =
        .value payload) :
    16 ≤ channelSecret.length ∧
      5 + ((senderName ++ channelNameDelim ++ body).take bufferLen).length ≤
          plaintextBuf ∧
        payload =
          encodeGrpTxtVar crypto channelSecret timestamp txtType attempt
            ((senderName ++ channelNameDelim ++ body).take bufferLen) := by
  rw [encodeChannelMessage, composeChannelText_eq, value_bind,
    encodeGrpTxtVarInto_eq] at encoded
  split at encoded
  · rename_i accepts
    cases encoded
    exact ⟨accepts.2, accepts.1, rfl⟩
  · cases encoded

/-- A message is received with its timestamp and its text up to a zero. -/
theorem handleGrpTxt_encode
    (inverse : crypto.DecryptsEncrypted)
    (long : 16 ≤ channelSecret.length)
    {text : List UInt8}
    (fits : 5 + text.length ≤ plaintextBuf) :
    handleGrpTxt crypto (some channelSecret)
        (encodeGrpTxtVar crypto channelSecret timestamp txtType attempt
          text) =
      .value
        (receivedGrpTxt (channelHashVar crypto channelSecret) timestamp
          (cStr text)) := by
  have length :
      (encodeTxtMsgPlaintext timestamp txtType attempt text).length =
        5 + text.length := by
    simp [encodeTxtMsgPlaintext]
    omega
  have decrypted :=
    Crypto.macThenDecrypt_encryptThenMac inverse
      (channelAesKey channelSecret) channelSecret
      (encodeTxtMsgPlaintext timestamp txtType attempt text)
  have paddedLength :
      (Blocks.padded 16
          (encodeTxtMsgPlaintext timestamp txtType attempt text)).length =
        16 * ((5 + text.length + 15) / 16) := by
    rw [Blocks.padded, Blocks.length_join, Blocks.count, length]
    rfl
  have roomy : plaintextBuf = 256 := rfl
  rw [encodeGrpTxtVar,
    handleGrpTxt_decrypted long decrypted (by omega) (by omega),
    leadingTimestamp_encode, cStr, text_encode]
  rfl

/-- Another secret takes a message exactly if hash and code agree. -/
theorem handleGrpTxt_otherSecret
    {other : List UInt8}
    (long : 16 ≤ other.length)
    {text : List UInt8}
    (fits : 5 + text.length ≤ plaintextBuf) :
    handleGrpTxt crypto (some other)
          (encodeGrpTxtVar crypto channelSecret timestamp txtType attempt
            text) ≠
        .panicked ∧
      ((∃ received,
          handleGrpTxt crypto (some other)
              (encodeGrpTxtVar crypto channelSecret timestamp txtType
                attempt text) =
            .value received) ↔
        channelHashVar crypto other = channelHashVar crypto channelSecret ∧
          crypto.hmacSha256_2 other
              ((encodeGrpTxtVar crypto channelSecret timestamp txtType
                attempt text).drop 3) =
            crypto.hmacSha256_2 channelSecret
              ((encodeGrpTxtVar crypto channelSecret timestamp txtType
                attempt text).drop 3)) := by
  let plaintext := encodeTxtMsgPlaintext timestamp txtType attempt text
  let ciphertext :=
    crypto.aes128EcbEncrypt (channelAesKey channelSecret) plaintext
  have length : plaintext.length = 5 + text.length := by
    simp [plaintext, encodeTxtMsgPlaintext]
    omega
  have cipherLength :
      ciphertext.length = 16 * ((5 + text.length + 15) / 16) := by
    have blocks : ciphertext.length = 16 * Blocks.count 16 plaintext :=
      Blocks.length_mapBlocks _ _
    rw [blocks, Blocks.count, length]
    rfl
  have whole : ciphertext.length % 16 = 0 := by omega
  have roomy : plaintextBuf = 256 := rfl
  have isPayload :
      encodeGrpTxtVar crypto channelSecret timestamp txtType attempt text =
        channelHashVar crypto channelSecret ::
          ((crypto.hmacSha256_2 channelSecret ciphertext).toList ++
            ciphertext) := rfl
  have isCiphertext :
      (encodeGrpTxtVar crypto channelSecret timestamp txtType attempt
        text).drop 3 = ciphertext := by
    rw [isPayload, List.drop_succ_cons, List.drop_left' (by simp)]
  have codeLength :
      ((crypto.hmacSha256_2 channelSecret ciphertext).toList ++
        ciphertext).length = 2 + ciphertext.length := by
    simp
  have decrypted :=
    crypto.macThenDecrypt_append (channelAesKey other) other
      (crypto.hmacSha256_2 channelSecret ciphertext) whole
  rw [isCiphertext, isPayload]
  by_cases sameHash :
      channelHashVar crypto other = channelHashVar crypto channelSecret
  · rw [← sameHash]
    by_cases sameCode :
        crypto.hmacSha256_2 other ciphertext =
          crypto.hmacSha256_2 channelSecret ciphertext
    · have decryptedLength :
          (crypto.aes128EcbDecrypt (channelAesKey other)
            ciphertext).length = ciphertext.length := by
        rw [Crypto.aes128EcbDecrypt, Blocks.length_mapBlocks, Blocks.count]
        omega
      rw [if_pos sameCode] at decrypted
      have isReceived :=
        handleGrpTxt_decrypted long decrypted (by omega) (by omega)
      rw [isReceived]
      exact ⟨by simp, fun _ => ⟨rfl, sameCode⟩, fun _ => ⟨_, rfl⟩⟩
    · rw [if_neg sameCode] at decrypted
      have isDropped :=
        handleGrpTxt_mismatch long decrypted (by omega) (by omega)
      rw [isDropped]
      refine ⟨by simp, ?_, fun both => absurd both.2 sameCode⟩
      rintro ⟨_, received⟩
      cases received
  · rw [handleGrpTxt_otherChannel fun same => sameHash same.symm]
    refine ⟨by simp, ?_, fun both => absurd both.1 sameHash⟩
    rintro ⟨_, received⟩
    cases received

/-- The channel a device uses is one of its channels. -/
theorem resolveChannel_mem
    {config : ProvisionedConfig}
    {channel : Channel}
    (resolved : config.resolveChannel = some channel) :
    channel ∈ config.channels.elements := by
  rw [ProvisionedConfig.resolveChannel,
    ProvisionedConfig.primaryChannel] at resolved
  rcases Option.or_eq_some_iff.mp resolved with isPrimary | ⟨_, isFirst⟩
  · exact List.mem_of_find?_eq_some isPrimary
  · exact List.mem_of_head? isFirst

/--
A message the encoder accepts is received by the channel it was encoded for with
its timestamp; name and text are found again exactly if they survive being put
into one string.  Of configured channels with distinct hashes, a device takes it
on the channel it was encoded for if that is the one it uses, and on no other.
Under any other secret it is dropped, unless the first byte of the hash and the
two bytes of the code agree.
-/
theorem channelMessage_round_trip
    {Failure : Type}
    (inverse : crypto.DecryptsEncrypted)
    {payload : List UInt8}
    (encoded :
      (encodeChannelMessage crypto channelSecret timestamp txtType attempt
          senderName body bufferLen : Outcome Failure (List UInt8)) =
        .value payload) :
    (∃ received,
      handleGrpTxt crypto (some channelSecret) payload = .value received ∧
        received.channelHash = channelHashVar crypto channelSecret ∧
        received.timestamp = timestamp ∧
        ((received.name, received.body) = (some senderName, body) ↔
          ChannelTextKept senderName body bufferLen)) ∧
      (∀ config : ProvisionedConfig,
        (config.channels.elements.map fun channel =>
          channelHashVar crypto channel.airSecret).Nodup →
        ∀ channel ∈ config.channels.elements,
          channel.airSecret = channelSecret →
          ((∃ received,
              handleGrpTxt crypto config.resolveChannelSecret payload =
                .value received) ↔
            config.resolveChannel = some channel)) ∧
      ∀ other,
        16 ≤ other.length →
        handleGrpTxt crypto (some other) payload ≠ .panicked ∧
          ((∃ received,
              handleGrpTxt crypto (some other) payload =
                .value received) ↔
            channelHashVar crypto other =
                channelHashVar crypto channelSecret ∧
              crypto.hmacSha256_2 other (payload.drop 3) =
                crypto.hmacSha256_2 channelSecret (payload.drop 3)) := by
  obtain ⟨long, fits, rfl⟩ := encodeChannelMessage_value encoded
  have received :=
    @handleGrpTxt_encode crypto channelSecret timestamp txtType attempt
      inverse long _ fits
  refine ⟨⟨_, received, rfl, rfl, parseChannelText_composed⟩, ?_, ?_⟩
  · intro config distinct channel member isSecret
    constructor
    · rintro ⟨message, taken⟩
      cases resolved : config.resolveChannel with
      | none =>
          rw [ProvisionedConfig.resolveChannelSecret, resolved] at taken
          cases taken
      | some used =>
          rw [ProvisionedConfig.resolveChannelSecret, resolved] at taken
          by_contra different
          have otherHash :
              channelHashVar crypto channelSecret ≠
                channelHashVar crypto used.airSecret := by
            intro same
            rw [← isSecret] at same
            have sameChannel :=
              List.inj_on_of_nodup_map distinct member
                (resolveChannel_mem resolved) same
            exact different (by rw [sameChannel])
          have dropped :
              handleGrpTxt crypto (some used.airSecret)
                  (encodeGrpTxtVar crypto channelSecret timestamp txtType
                    attempt
                    ((senderName ++ channelNameDelim ++ body).take
                      bufferLen)) =
                .failed .otherChannel :=
            handleGrpTxt_otherChannel otherHash _
          rw [Option.map_some, dropped] at taken
          cases taken
    · intro resolved
      rw [ProvisionedConfig.resolveChannelSecret, resolved,
        Option.map_some, isSecret]
      exact ⟨_, received⟩
  · intro other otherLong
    exact handleGrpTxt_otherSecret otherLong fits

/-- What the interface sends is composed in as many bytes as it may send. -/
theorem encodeChannelMessage_ui
    {Failure : Type}
    (long : 16 ≤ channelSecret.length)
    (txEpochBase : UInt32)
    (nowMs : Nat) :
    (encodeChannelMessage crypto channelSecret
        (txTimestamp txEpochBase nowMs) 0 0 senderName body maxUiMsgBytes :
      Outcome Failure (List UInt8)) =
      .value
        (uiGrpTxtPayload crypto txEpochBase nowMs channelSecret senderName
          body) := by
  have cut :
      (formatChannelText senderName body).take maxUiMsgBytes =
        (senderName ++ channelNameDelim ++ body).take maxUiMsgBytes := by
    rw [formatChannelText, List.take_take]
    rfl
  have fits :
      5 + ((senderName ++ channelNameDelim ++ body).take
        maxUiMsgBytes).length ≤ plaintextBuf := by
    have few :=
      List.length_take_le maxUiMsgBytes
        (senderName ++ channelNameDelim ++ body)
    have roomy : 5 + maxUiMsgBytes ≤ plaintextBuf := by decide
    omega
  rw [encodeChannelMessage, composeChannelText_eq, value_bind,
    encodeGrpTxtVarInto_eq, if_pos ⟨fits, long⟩, uiGrpTxtPayload, cut]

end RoundTrip

/-- A channel secret of sixteen bytes. -/
def familySecret : List UInt8 :=
  List.replicate 16 0x07

/-- The secret of another channel. -/
def clubSecret : List UInt8 :=
  List.replicate 16 0x09

/-- The hash of the first channel's secret. -/
def familyDigest : Vector UInt8 32 :=
  #v[0xD7, 0x61, 0xD4, 0x06, 0xAF, 0x2A, 0x4A, 0x5A, 0x15, 0xF6, 0x7C, 0x92,
    0x43, 0x78, 0xED, 0x88, 0xD1, 0xF8, 0x5C, 0x13, 0xF1, 0xA3, 0x7F, 0xC7,
    0x36, 0x6F, 0x59, 0x78, 0x9B, 0x3B, 0xCD, 0x65]

/-- The primitives on two messages to the first channel, and what the second one's
secret makes of them. -/
def familyMessages : CryptoRecord :=
  { ciphers :=
      [(channelAesKey familySecret,
          #v[0x05, 0x00, 0x00, 0x00, 0x00, 0x61, 0x6E, 0x61, 0x3A, 0x20,
            0x68, 0x69, 0x00, 0x00, 0x00, 0x00],
          #v[0x44, 0x0F, 0x83, 0xB5, 0x82, 0xBE, 0x02, 0x4B, 0xA0, 0x8F,
            0x18, 0xC3, 0xE8, 0xDB, 0xB5, 0x76]),
        (channelAesKey familySecret,
          #v[0x05, 0x00, 0x00, 0x00, 0x00, 0x61, 0x3A, 0x20, 0x62, 0x3A,
            0x20, 0x63, 0x00, 0x00, 0x00, 0x00],
          #v[0x05, 0x51, 0xA0, 0x3A, 0x6E, 0x01, 0x46, 0x3B, 0xF8, 0x0B,
            0xB3, 0xCE, 0x65, 0x3D, 0x95, 0x68])]
    codes :=
      [(familySecret,
          [0x44, 0x0F, 0x83, 0xB5, 0x82, 0xBE, 0x02, 0x4B, 0xA0, 0x8F, 0x18,
            0xC3, 0xE8, 0xDB, 0xB5, 0x76],
          #v[0x31, 0x5C, 0x2C, 0x46, 0x38, 0xF7, 0x2D, 0xEC, 0xB0, 0x23,
            0x4A, 0xBE, 0x33, 0xBB, 0xC2, 0x37, 0xC6, 0x73, 0x45, 0x3F, 0x26,
            0x5D, 0x1E, 0x1D, 0xD5, 0x9A, 0x20, 0x0A, 0x95, 0xE8, 0x45, 0x5B]),
        (familySecret,
          [0x05, 0x51, 0xA0, 0x3A, 0x6E, 0x01, 0x46, 0x3B, 0xF8, 0x0B, 0xB3,
            0xCE, 0x65, 0x3D, 0x95, 0x68],
          #v[0xC6, 0x4F, 0x05, 0xB1, 0x55, 0xF0, 0xF1, 0x5A, 0xE7, 0x36,
            0x3F, 0xFF, 0x00, 0x7E, 0xD7, 0x22, 0x8C, 0xE6, 0x6B, 0x5E, 0x57,
            0xC9, 0xAC, 0x3D, 0x2D, 0x90, 0xC8, 0xD9, 0x18, 0x16, 0x59, 0x8F]),
        (clubSecret,
          [0x44, 0x0F, 0x83, 0xB5, 0x82, 0xBE, 0x02, 0x4B, 0xA0, 0x8F, 0x18,
            0xC3, 0xE8, 0xDB, 0xB5, 0x76],
          #v[0x89, 0x37, 0xD8, 0x2A, 0x5B, 0xFD, 0x60, 0x04, 0x7E, 0x8F,
            0x78, 0xE4, 0xA3, 0xA6, 0xA0, 0x75, 0x4C, 0x97, 0xBC, 0x2A, 0x36,
            0x31, 0xCA, 0x68, 0x93, 0x66, 0xDC, 0x06, 0x08, 0xFC, 0xA2, 0xAA])]
    digests :=
      [(familySecret, familyDigest),
        (clubSecret,
          #v[0x06, 0x23, 0x2B, 0x08, 0xDA, 0xBB, 0x5A, 0x4F, 0xDB, 0x46,
            0x65, 0x98, 0x17, 0x93, 0x49, 0xC8, 0x45, 0xB0, 0xDC, 0x34, 0x36,
            0x32, 0x47, 0x94, 0xE2, 0x70, 0x25, 0x7B, 0x4E, 0x0F, 0xDB, 0xCE])]
    agreements := [] }

/-- The first channel. -/
def familyChannel : Channel :=
  { secret := Vector.ofFn fun index => familySecret.getD index 0
    keyLen := 16
    primary := false
    name := Vector.replicate 32 0
    nameLen := 0 }

/-- The other channel, which a device uses that has both. -/
def clubChannel : Channel :=
  { familyChannel with
    secret := Vector.ofFn fun index => clubSecret.getD index 0
    primary := true }

/-- A device with the given channels. -/
def onChannels
    (channels : List Channel)
    (bounded : channels.length ≤ maxChannels) :
    ProvisionedConfig :=
  { ProvisionedConfig.empty with
    channels := ⟨channels, bounded⟩ }

/-- Ana's greeting is received from Ana by a device that uses the channel, and by
none that uses the other one. -/
theorem channelMessage_round_trip_ana :
    ∃ payload received,
      (encodeChannelMessage familyMessages.crypto familySecret 5 0 0
          [0x61, 0x6E, 0x61] [0x68, 0x69] 160 :
        Outcome Empty (List UInt8)) =
          .value payload ∧
        handleGrpTxt familyMessages.crypto (some familySecret) payload =
          .value received ∧
        received.timestamp = 5 ∧
        (received.name, received.body) =
          (some [0x61, 0x6E, 0x61], [0x68, 0x69]) ∧
        (∃ message,
          handleGrpTxt familyMessages.crypto
              (onChannels [familyChannel]
                (by decide)).resolveChannelSecret payload =
            .value message) ∧
        (¬ ∃ message,
          handleGrpTxt familyMessages.crypto
              (onChannels [familyChannel, clubChannel]
                (by decide)).resolveChannelSecret payload =
            .value message) ∧
        ¬ ∃ message,
          handleGrpTxt familyMessages.crypto (some clubSecret) payload =
            .value message := by
  have composed :
      (encodeChannelMessage familyMessages.crypto familySecret 5 0 0
          [0x61, 0x6E, 0x61] [0x68, 0x69] 160 :
        Outcome Empty (List UInt8)) =
        .value
          (encodeGrpTxtVar familyMessages.crypto familySecret 5 0 0
            [0x61, 0x6E, 0x61, 0x3A, 0x20, 0x68, 0x69]) := by
    rw [encodeChannelMessage, composeChannelText_eq, value_bind,
      encodeGrpTxtVarInto_eq, if_pos (by decide)]
    rfl
  obtain ⟨⟨received, isReceived, -, sameTime, found⟩, onDevice, others⟩ :=
    channelMessage_round_trip familyMessages.decryptsEncrypted composed
  have distinct :
      ((onChannels [familyChannel, clubChannel]
          (by decide)).channels.elements.map fun channel =>
        channelHashVar familyMessages.crypto channel.airSecret).Nodup := by
    decide +kernel
  refine ⟨_, received, composed, isReceived, sameTime, found.mpr ?_, ?_, ?_,
    ?_⟩
  · exact ⟨by decide, by decide +kernel, by decide⟩
  · exact
      (onDevice (onChannels [familyChannel] (by decide)) (by decide +kernel)
        familyChannel (by decide) (by decide +kernel)).mpr
          (by decide +kernel)
  · intro taken
    have used :=
      (onDevice (onChannels [familyChannel, clubChannel] (by decide)) distinct
        familyChannel (by decide) (by decide +kernel)).mp taken
    exact absurd used (by decide +kernel)
  · intro taken
    have alike := (others clubSecret (by decide)).2.mp taken
    exact absurd alike.1 (by decide +kernel)

/-- A name with a colon and a space in it is received as a shorter name. -/
theorem delimited_name_split :
    ∃ payload received,
      (encodeChannelMessage familyMessages.crypto familySecret 5 0 0
          [0x61, 0x3A, 0x20, 0x62] [0x63] 160 :
        Outcome Empty (List UInt8)) =
          .value payload ∧
        handleGrpTxt familyMessages.crypto (some familySecret) payload =
          .value received ∧
        (received.name, received.body) =
          (some [0x61], [0x62, 0x3A, 0x20, 0x63]) := by
  have composed :
      (encodeChannelMessage familyMessages.crypto familySecret 5 0 0
          [0x61, 0x3A, 0x20, 0x62] [0x63] 160 :
        Outcome Empty (List UInt8)) =
        .value
          (encodeGrpTxtVar familyMessages.crypto familySecret 5 0 0
            [0x61, 0x3A, 0x20, 0x62, 0x3A, 0x20, 0x63]) := by
    rw [encodeChannelMessage, composeChannelText_eq, value_bind,
      encodeGrpTxtVarInto_eq, if_pos (by decide)]
    rfl
  have received :=
    @handleGrpTxt_encode familyMessages.crypto familySecret 5 0 0
      familyMessages.decryptsEncrypted (by decide)
      [0x61, 0x3A, 0x20, 0x62, 0x3A, 0x20, 0x63] (by decide)
  exact ⟨_, _, composed, received, by decide⟩

end MeshCadet
