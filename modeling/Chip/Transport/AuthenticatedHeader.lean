import Chip.Transport.HeaderEncoding

/-! The part of a message header that its authentication code covers (`CryptoContext.cpp`).
The receiver encodes the header again that it has decoded. -/
namespace Chip.Transport

open PacketHeader

/-- `kMaxAADLen`. -/
def maxAADLen : Nat := 128

/-- `GetAdditionalAuthData` into a buffer of a size. -/
def getAdditionalAuthData (header : PacketHeader) (len : Nat) : Except ChipError Bytes :=
  if ¬header.encodeSizeBytes ≤ len then .error .invalidArgument
  else do
    let aad ← header.encode len
    if ¬aad.length ≤ len then .error .invalidArgument else .ok aad

/-- Neither the reserved bit of the message flags is set nor the flag of an extension. -/
def Plain (bytes : Bytes) : Prop :=
  bytes.getD 0 0 &&& 0b00001000 = 0 ∧ bytes.getD 3 0 &&& SecFlagValues.msgExtensionFlag.bit = 0

variable {header : PacketHeader} {bytes rest : Bytes}

theorem PacketHeader.Accepted.aad (h : header.Accepted) :
  getAdditionalAuthData header maxAADLen =
    .ok { header with mMsgFlags := header.mMsgFlags &&& msgFlagsMask }.fields := by
  have hSize : header.encodeSizeBytes ≤ maxAADLen := by
    unfold encodeSizeBytes maxAADLen
    split_ifs <;> omega
  have hLength := fields_length { header with mMsgFlags := header.mMsgFlags &&& msgFlagsMask }
  have hEncode : header.encode maxAADLen =
      .ok { header with mMsgFlags := header.mMsgFlags &&& msgFlagsMask }.fields := by
    rw [encode_eq, if_neg (not_not_intro hSize), if_neg h.oneDestination,
      if_neg (not_not_intro h.valid), h.flags.withEncodedFlags]
  rw [getAdditionalAuthData, if_neg (not_not_intro hSize), hEncode]
  exact if_neg (not_not_intro (hLength.trans_le hSize))

theorem and_msgFlagsMask (flags : UInt8) (hVersion : (flags &&& 0xF0) >>> 4 = msgHeaderVersion) :
  flags &&& msgFlagsMask = flags ↔ flags &&& 0b00001000 = 0 := by
  revert flags
  decide +kernel

theorem fields_getD (header : PacketHeader) (after : Bytes) :
  (header.fields ++ after).getD 0 0 = header.mMsgFlags ∧
    (header.fields ++ after).getD 3 0 = header.mSecFlags := by
  simp [fields, LittleEndian.encode]

theorem fields_withFlags (header : PacketHeader) (flags : UInt8) (extension : Bytes) :
  { header with mMsgFlags := flags }.fields = header.fields ++ extension ↔
    flags = header.mMsgFlags ∧ extension = [] := by
  constructor
  · intro h
    have hLength := congrArg List.length h
    rw [List.length_append, fields_length, fields_length] at hLength
    have hNone : extension = [] :=
      List.length_eq_zero_iff.mp (Nat.left_eq_add.mp hLength)
    have hFlags := congrArg (fun bytes => List.getD bytes 0 0) h
    have hLeft := (fields_getD { header with mMsgFlags := flags } []).1
    rw [List.append_nil] at hLeft
    exact ⟨hLeft.symm.trans (hFlags.trans (fields_getD header extension).1), hNone⟩
  · rintro ⟨rfl, rfl⟩
    exact (List.append_nil _).symm

/-- The header that is authenticated is the one that was received exactly if it is plain. Plain
headers that differ are told apart. -/
theorem aad_is_received_header_iff (h : decodeAndConsume bytes = (.ok header, rest)) :
    (getAdditionalAuthData header maxAADLen = .ok (bytes.take (bytes.length - rest.length)) ↔
        Plain bytes) ∧
      ∀ bytes' header' rest', decodeAndConsume bytes' = (.ok header', rest') →
        Plain bytes → Plain bytes' →
        bytes.take (bytes.length - rest.length) ≠ bytes'.take (bytes'.length - rest'.length) →
          getAdditionalAuthData header maxAADLen ≠ getAdditionalAuthData header' maxAADLen := by
  have hIff : ∀ {bytes header rest}, decodeAndConsume bytes = (.ok header, rest) →
      (getAdditionalAuthData header maxAADLen = .ok (bytes.take (bytes.length - rest.length)) ↔
        Plain bytes) := by
    intro bytes header rest h
    obtain ⟨hAccepted, extension, hBytes, hExtension⟩ := decodeAndConsume_eq_ok h
    have hTaken : bytes.take (bytes.length - rest.length) = header.fields ++ extension := by
      rw [hBytes, ← List.append_assoc, List.length_append, Nat.add_sub_cancel, List.take_left]
    obtain ⟨hMsg, hSec⟩ := fields_getD header (extension ++ rest)
    rw [hAccepted.aad, hTaken, Except.ok.injEq, fields_withFlags,
      and_msgFlagsMask _ hAccepted.version, Plain, hBytes, hMsg, hSec]
    apply and_congr_right
    intro _
    by_cases hFlag : header.mSecFlags &&& SecFlagValues.msgExtensionFlag.bit = 0
    · simpa [hasSecFlag, hFlag] using hExtension
    · have hLength : 2 ≤ extension.length := by simpa [hasSecFlag, hFlag] using hExtension
      simp only [hFlag, iff_false]
      rintro rfl
      exact absurd hLength (by decide)
  refine ⟨hIff h, fun bytes' header' rest' h' hPlain hPlain' hDiffer hSame => hDiffer ?_⟩
  have hAad := (hIff h).mpr hPlain
  rw [hSame, (hIff h').mpr hPlain'] at hAad
  exact (Except.ok.inj hAad).symm

/-- The headers of two messages of a session, of which one has the reserved bit set. -/
theorem reserved_bit_is_not_authenticated :
    ∃ header, decodeAndConsume [0x00, 1, 0, 0, 5, 0, 0, 0, 0xAA] = (.ok header, [0xAA]) ∧
      ∃ header', decodeAndConsume [0x08, 1, 0, 0, 5, 0, 0, 0, 0xAA] = (.ok header', [0xAA]) ∧
        getAdditionalAuthData header' maxAADLen ≠ .ok [0x08, 1, 0, 0, 5, 0, 0, 0] ∧
        getAdditionalAuthData header maxAADLen = getAdditionalAuthData header' maxAADLen := by
  refine ⟨⟨5, none, none, none, 1, 0, 0x00, 0⟩, rfl, ⟨5, none, none, none, 1, 0, 0x08, 0⟩, rfl, ?_, rfl⟩
  intro hSame
  exact absurd (congrArg (fun r => match r with
    | .ok bytes => bytes.getD 0 0
    | .error _ => 0) hSame) (by decide)

/-- A message with both nodes in its header. -/
theorem aad_is_received_header_nodes :
    ∃ header, decodeAndConsume [0x05, 1, 0, 0, 5, 0, 0, 0, 1, 0, 0, 0, 0, 0, 0, 0,
        2, 0, 0, 0, 0, 0, 0, 0, 0xAA] = (.ok header, [0xAA]) ∧
      getAdditionalAuthData header maxAADLen = .ok [0x05, 1, 0, 0, 5, 0, 0, 0,
        1, 0, 0, 0, 0, 0, 0, 0, 2, 0, 0, 0, 0, 0, 0, 0] := by
  have hDecode : decodeAndConsume [0x05, 1, 0, 0, 5, 0, 0, 0, 1, 0, 0, 0, 0, 0, 0, 0,
      2, 0, 0, 0, 0, 0, 0, 0, 0xAA] =
      (.ok ⟨5, some 1, some 2, none, 1, 0, 0x05, 0⟩, [0xAA]) := rfl
  exact ⟨_, hDecode, (aad_is_received_header_iff hDecode).1.mpr ⟨rfl, rfl⟩⟩

end Chip.Transport
