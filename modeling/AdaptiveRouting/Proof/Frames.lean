import AdaptiveRouting.Lib.Stream
import AdaptiveRouting.Proof.Format
import AdaptiveRouting.Wire

/-!
# Frames

The decoder accepts the encodings of decodable frames, whatever follows them, and nothing else
(`decodeFrame_ok_iff`), and what falls short of an encoding is incomplete (`frames_incremental`). A
session's loop dispatches the frames whose bytes it takes off its socket, in order (`run_tracks`). The
one thing that the encoder and the decoder do not agree on is a bound below the size of an empty frame
(`frameLaws_iff`).
-/

namespace AdaptiveRouting

open Codecs Guard

namespace Wire

/-! ## Words at offsets -/

section
variable {bytes front rest : Text} {width offset : Nat}

theorem readWord_skip (k : Nat) (h : offset = front.length + k) :
    readWord (front ++ rest) offset width = readWord rest k width := by
  subst h
  have hlong : front.length + k + width > (front ++ rest).length ↔ k + width > rest.length := by
    rw [List.length_append]
    omega
  unfold readWord
  rw [List.drop_length_add_append]
  simp only [hlong]

theorem readWord_here (h : bytes.length = width) :
    readWord (bytes ++ rest) 0 width = some (number bytes) := by
  unfold readWord
  rw [if_neg (by rw [List.length_append]; omega), List.drop_zero, List.take_left' h]

theorem split_word (h : width ≤ bytes.length) : ∃ n rest, n < wordSize width ∧
    bytes = littleEndian width n ++ rest ∧ bytes.length = width + rest.length := by
  have hlength : (bytes.take width).length = width := List.length_take_of_le h
  refine ⟨number (bytes.take width), bytes.drop width, ?_, ?_, ?_⟩
  · have hlt := number_lt (bytes.take width)
    rwa [hlength] at hlt
  · rw [← eq_littleEndian hlength rfl, List.take_append_drop]
  · rw [List.length_drop]
    omega

end

theorem readU16_here (value : UInt16) (rest : Text) :
    readU16 (putU16 value ++ rest) 0 = some value := by
  unfold readU16 putU16
  rw [readWord_here (littleEndian_length ..), number_littleEndian value.toNat_lt, Option.map_some]
  exact congrArg some UInt16.ofNat_toNat

theorem readU32_here (value : UInt32) (rest : Text) :
    readU32 (putU32 value ++ rest) 0 = some value := by
  unfold readU32 putU32
  rw [readWord_here (littleEndian_length ..), number_littleEndian value.toNat_lt, Option.map_some]
  exact congrArg some UInt32.ofNat_toNat

theorem readU64_here (value : UInt64) (rest : Text) :
    readU64 (putU64 value ++ rest) 0 = some value := by
  unfold readU64 putU64
  rw [readWord_here (littleEndian_length ..), number_littleEndian value.toNat_lt, Option.map_some]
  exact congrArg some UInt64.ofNat_toNat

@[simp] theorem putU16_length (value : UInt16) : (putU16 value).length = 2 := littleEndian_length ..

@[simp] theorem putU32_length (value : UInt32) : (putU32 value).length = 4 := littleEndian_length ..

@[simp] theorem putU64_length (value : UInt64) : (putU64 value).length = 8 := littleEndian_length ..

section
variable {bytes : Text}

theorem split_u16 (bytes : Text) (h : 2 ≤ bytes.length) : ∃ value rest, bytes = putU16 value ++ rest ∧
    bytes.length = 2 + rest.length := by
  obtain ⟨n, rest, hn, hbytes, hlength⟩ := split_word h
  refine ⟨n.toUInt16, rest, ?_, hlength⟩
  have hback : n.toUInt16.toNat = n := UInt16.toNat_ofNat_of_lt' hn
  rw [putU16, hback, hbytes]

theorem split_u32 (bytes : Text) (h : 4 ≤ bytes.length) : ∃ value rest, bytes = putU32 value ++ rest ∧
    bytes.length = 4 + rest.length := by
  obtain ⟨n, rest, hn, hbytes, hlength⟩ := split_word h
  refine ⟨n.toUInt32, rest, ?_, hlength⟩
  have hback : n.toUInt32.toNat = n := UInt32.toNat_ofNat_of_lt' hn
  rw [putU32, hback, hbytes]

theorem split_u64 (bytes : Text) (h : 8 ≤ bytes.length) : ∃ value rest, bytes = putU64 value ++ rest ∧
    bytes.length = 8 + rest.length := by
  obtain ⟨n, rest, hn, hbytes, hlength⟩ := split_word h
  refine ⟨n.toUInt64, rest, ?_, hlength⟩
  have hback : n.toUInt64.toNat = n := UInt64.toNat_ofNat_of_lt' hn
  rw [putU64, hback, hbytes]

end

/-! ## Headers -/

/-- The seven words of a header. -/
structure RawHeader where
  magic : UInt32
  version : UInt16
  id : UInt16
  flags : UInt32
  length : UInt32
  sequence : UInt64
  epoch : UInt64

def RawHeader.bytes (raw : RawHeader) : Text :=
  putU32 raw.magic ++ putU16 raw.version ++ putU16 raw.id ++ putU32 raw.flags ++
    putU32 raw.length ++ putU64 raw.sequence ++ putU64 raw.epoch

theorem RawHeader.bytes_length (raw : RawHeader) : raw.bytes.length = frameHeaderBytes := by
  simp [RawHeader.bytes, frameHeaderBytes]

/-- A buffer that is long enough begins with a header. -/
theorem exists_header {buffer : Text} (h : frameHeaderBytes ≤ buffer.length) :
    ∃ (raw : RawHeader) (body : Text), buffer = raw.bytes ++ body := by
  unfold frameHeaderBytes at h
  obtain ⟨magic, r₁, h₁, l₁⟩ := split_u32 buffer (by omega)
  obtain ⟨version, r₂, h₂, l₂⟩ := split_u16 r₁ (by omega)
  obtain ⟨id, r₃, h₃, l₃⟩ := split_u16 r₂ (by omega)
  obtain ⟨flags, r₄, h₄, l₄⟩ := split_u32 r₃ (by omega)
  obtain ⟨length, r₅, h₅, l₅⟩ := split_u32 r₄ (by omega)
  obtain ⟨sequence, r₆, h₆, l₆⟩ := split_u64 r₅ (by omega)
  obtain ⟨epoch, r₇, h₇, -⟩ := split_u64 r₆ (by omega)
  refine ⟨⟨magic, version, id, flags, length, sequence, epoch⟩, r₇, ?_⟩
  simp [RawHeader.bytes, h₁, h₂, h₃, h₄, h₅, h₆, h₇]

/-- What the decoder makes of a header and what is behind it. -/
theorem decodeFrame_raw (raw : RawHeader) (body : Text) (maxFrameBytes : UInt64) :
    decodeFrame (raw.bytes ++ body) maxFrameBytes = (do
      refuseIf (raw.magic != frameMagic) .badMagic
      refuseIf (raw.version != wireProtocolVersion) .badVersion
      let messageId ← orRefuse (MessageId.parse raw.id) .badMessageId
      refuseIf (raw.length.toNat > maximumPayload maxFrameBytes) .tooLarge
      refuseIf (body.length < raw.length.toNat + frameTrailerBytes) .incomplete
      let stored ← orRefuse (readU64 body raw.length.toNat) .malformed
      refuseIf (integrityOf (raw.bytes ++ body.take raw.length.toNat) != stored) .integrity
      let epoch ← orRefuse (Generation.fromValue raw.epoch) .malformed
      return ({ header :=
                  { wireVersion := raw.version, messageId, flags := raw.flags
                    payloadLength := raw.length, sequence := raw.sequence, epoch }
                payload := body.take raw.length.toNat },
        frameHeaderBytes + raw.length.toNat + frameTrailerBytes)) := by
  have hlength := raw.bytes_length
  have hmagic : readU32 (raw.bytes ++ body) 0 = some raw.magic := by
    simp only [RawHeader.bytes, List.append_assoc]
    exact readU32_here ..
  have hversion : readU16 (raw.bytes ++ body) 4 = some raw.version := by
    simp only [RawHeader.bytes, List.append_assoc, readU16]
    rw [readWord_skip 0 (by simp)]
    exact readU16_here ..
  have hid : readU16 (raw.bytes ++ body) 6 = some raw.id := by
    simp only [RawHeader.bytes, List.append_assoc, readU16]
    rw [readWord_skip 2 (by simp), readWord_skip 0 (by simp)]
    exact readU16_here ..
  have hflags : readU32 (raw.bytes ++ body) 8 = some raw.flags := by
    simp only [RawHeader.bytes, List.append_assoc, readU32]
    rw [readWord_skip 4 (by simp), readWord_skip 2 (by simp), readWord_skip 0 (by simp)]
    exact readU32_here ..
  have hpayload : readU32 (raw.bytes ++ body) 12 = some raw.length := by
    simp only [RawHeader.bytes, List.append_assoc, readU32]
    rw [readWord_skip 8 (by simp), readWord_skip 6 (by simp), readWord_skip 4 (by simp),
      readWord_skip 0 (by simp)]
    exact readU32_here ..
  have hsequence : readU64 (raw.bytes ++ body) 16 = some raw.sequence := by
    simp only [RawHeader.bytes, List.append_assoc, readU64]
    rw [readWord_skip 12 (by simp), readWord_skip 10 (by simp), readWord_skip 8 (by simp),
      readWord_skip 4 (by simp), readWord_skip 0 (by simp)]
    exact readU64_here ..
  have hepoch : readU64 (raw.bytes ++ body) 24 = some raw.epoch := by
    simp only [RawHeader.bytes, List.append_assoc, readU64]
    rw [readWord_skip 20 (by simp), readWord_skip 18 (by simp), readWord_skip 16 (by simp),
      readWord_skip 12 (by simp), readWord_skip 8 (by simp), readWord_skip 0 (by simp)]
    exact readU64_here ..
  have hstored (k : Nat) : readU64 (raw.bytes ++ body) (frameHeaderBytes + k) = readU64 body k := by
    unfold readU64
    rw [readWord_skip k (by rw [hlength])]
  have hshort (k : Nat) : (raw.bytes ++ body).length < frameHeaderBytes + k + frameTrailerBytes ↔
      body.length < k + frameTrailerBytes := by
    rw [List.length_append, hlength]
    omega
  have htake (k : Nat) : (raw.bytes ++ body).take (frameHeaderBytes + k) =
      raw.bytes ++ body.take k := by
    rw [← hlength, List.take_length_add_append]
  unfold decodeFrame
  rw [seq_of (by simp [hlength]), hmagic, hversion, hid, hflags, hpayload, hsequence, hepoch]
  simp only [bind_of (show orRefuse (some _) _ = _ from rfl), hstored, hshort, htake,
    List.drop_left' hlength]

/-! ## Frames -/

/-- The header carries the length of the payload. -/
def Frame.Valid (frame : Frame) : Prop :=
  frame.header.payloadLength.toNat = frame.payload.length

/-- A frame the encoder accepts under a bound. -/
structure Frame.Encodable (frame : Frame) (maxFrameBytes : UInt64) : Prop where
  version : frame.header.wireVersion = wireProtocolVersion
  epoch : frame.header.epoch.valid = true
  total : frameHeaderBytes + frame.payload.length + frameTrailerBytes ≤ maxFrameBytes.toNat
  length : frame.payload.length ≤ 0xFFFFFFFF

/-- A frame the decoder returns under a bound. -/
structure Frame.Decodable (frame : Frame) (maxFrameBytes : UInt64) : Prop where
  valid : frame.Valid
  version : frame.header.wireVersion = wireProtocolVersion
  epoch : frame.header.epoch.valid = true
  payload : frame.payload.length ≤ maximumPayload maxFrameBytes

/-- The words of the header a frame is encoded with. -/
def Frame.raw (frame : Frame) : RawHeader where
  magic := frameMagic
  version := frame.header.wireVersion
  id := frame.header.messageId.code
  flags := frame.header.flags
  length := frame.payload.length.toUInt32
  sequence := frame.header.sequence
  epoch := frame.header.epoch.value

/-- What follows the header of an encoding. -/
def Frame.tail (frame : Frame) : Text :=
  frame.payload ++ putU64 (integrityOf (frame.raw.bytes ++ frame.payload))

section
variable {frame : Frame} {maxFrameBytes : UInt64} {bytes buffer : Text} {consumed : Nat}

theorem Frame.bytes_eq (frame : Frame) : frame.bytes = frame.raw.bytes ++ frame.tail := by
  unfold Frame.bytes Frame.tail
  rw [← List.append_assoc]
  rfl

theorem Frame.tail_length (frame : Frame) :
    frame.tail.length = frame.payload.length + frameTrailerBytes := by
  simp [Frame.tail, frameTrailerBytes]

theorem Frame.bytes_length (frame : Frame) :
    frame.bytes.length = frameHeaderBytes + frame.payload.length + frameTrailerBytes := by
  rw [frame.bytes_eq, List.length_append, RawHeader.bytes_length, frame.tail_length, Nat.add_assoc]

theorem encodeFrame_iff :
    encodeFrame frame maxFrameBytes = some bytes ↔
      frame.Encodable maxFrameBytes ∧ bytes = frame.bytes := by
  unfold encodeFrame
  constructor
  · intro h
    split at h
    · cases h
    rename_i hversion
    split at h
    · cases h
    rename_i hepoch
    split at h
    · cases h
    rename_i htotal
    split at h
    · cases h
    rename_i hlength
    cases h
    exact ⟨⟨by simpa using hversion, by simpa using hepoch, by simpa [exceeds] using htotal,
      by simpa using hlength⟩, rfl⟩
  · intro h
    obtain ⟨hframe, rfl⟩ := h
    rw [if_neg (by simpa using hframe.version), if_neg (by simpa using hframe.epoch),
      if_neg (by simpa [exceeds] using hframe.total), if_neg (by simpa using hframe.length)]

theorem MessageId.parse_code (id : MessageId) : MessageId.parse id.code = some id :=
  messageIds.find_code id

theorem MessageId.parse_some {raw : UInt16} {id : MessageId} (h : MessageId.parse raw = some id) :
    raw = id.code := by
  have hcode : messageIds.code id = raw := by simpa using List.find?_some h
  exact hcode.symm

theorem length_toUInt32 (h : frame.payload.length ≤ 0xFFFFFFFF) :
    frame.payload.length.toUInt32.toNat = frame.payload.length :=
  UInt32.toNat_ofNat_of_lt' (Nat.lt_of_le_of_lt h (by decide))

theorem Frame.Valid.length_le (h : frame.Valid) : frame.payload.length ≤ 0xFFFFFFFF := by
  have hlt := frame.header.payloadLength.toNat_lt
  rw [h] at hlt
  exact Nat.le_of_lt_succ hlt

/-- A frame the encoder accepts has a payload the decoder takes. -/
theorem Frame.Encodable.payload (h : frame.Encodable maxFrameBytes) :
    frame.payload.length ≤ maximumPayload maxFrameBytes := by
  have htotal := h.total
  unfold maximumPayload
  split <;> omega

/-- What the decoder makes of the encoding of a frame, and of whatever shares its header. -/
theorem decodeFrame_header (h : frame.Encodable maxFrameBytes ∨ frame.Decodable maxFrameBytes)
    (body : Text) :
    decodeFrame (frame.raw.bytes ++ body) maxFrameBytes = (do
      refuseIf (body.length < frame.payload.length + frameTrailerBytes) .incomplete
      let stored ← orRefuse (readU64 body frame.payload.length) .malformed
      refuseIf (integrityOf (frame.raw.bytes ++ body.take frame.payload.length) != stored)
        .integrity
      let epoch ← orRefuse (Generation.fromValue frame.header.epoch.value) .malformed
      return ({ header :=
                  { frame.header with payloadLength := frame.payload.length.toUInt32, epoch }
                payload := body.take frame.payload.length }, frame.bytes.length)) := by
  have hversion : frame.header.wireVersion = wireProtocolVersion :=
    h.elim (·.version) (·.version)
  have hpayload : frame.payload.length ≤ maximumPayload maxFrameBytes :=
    h.elim (·.payload) (·.payload)
  have hlength : frame.payload.length.toUInt32.toNat = frame.payload.length :=
    length_toUInt32 (h.elim (·.length) (·.valid.length_le))
  rw [decodeFrame_raw, frame.bytes_length]
  dsimp only [Frame.raw]
  rw [seq_of (by simp), seq_of (by simp [hversion]), bind_of
    (show orRefuse (MessageId.parse frame.header.messageId.code) _ = .ok frame.header.messageId by
      rw [MessageId.parse_code]; rfl)]
  simp only [hlength]
  rw [seq_of (by simpa using hpayload)]

/-- An encoding is decoded, whatever follows it. -/
theorem decodeFrame_bytes (h : frame.Decodable maxFrameBytes) (rest : Text) :
    decodeFrame (frame.bytes ++ rest) maxFrameBytes = .ok (frame, frame.bytes.length) := by
  have hlength : frame.payload.length.toUInt32 = frame.header.payloadLength := by
    apply UInt32.toNat_inj.1
    rw [length_toUInt32 h.valid.length_le, h.valid]
  have hepoch : (Generation.fromValue frame.header.epoch.value : Option CoordinatorEpoch) =
      some frame.header.epoch := by
    unfold Generation.fromValue
    rw [if_neg (by simpa [Generation.valid] using h.epoch)]
  have hstored : readU64 (frame.tail ++ rest) frame.payload.length =
      some (integrityOf (frame.raw.bytes ++ frame.payload)) := by
    unfold Frame.tail readU64
    rw [List.append_assoc, readWord_skip 0 (Nat.add_zero _).symm]
    exact readU64_here ..
  have htake : (frame.tail ++ rest).take frame.payload.length = frame.payload := by
    rw [Frame.tail, List.append_assoc, List.take_left' rfl]
  have htail : ¬ (frame.tail ++ rest).length < frame.payload.length + frameTrailerBytes := by
    rw [List.length_append, frame.tail_length]
    omega
  rw [frame.bytes_eq, List.append_assoc, decodeFrame_header (.inr h), seq_of (by simpa using htail),
    hstored, htake, bind_of (show orRefuse (some _) _ = _ from rfl), seq_of (by simp), hepoch,
    bind_of (show orRefuse (some _) _ = _ from rfl), hlength, ← frame.bytes_eq]
  rfl

/-- The decoder returns the frame whose encoding the buffer begins with. -/
theorem decodeFrame_ok (h : decodeFrame buffer maxFrameBytes = .ok (frame, consumed)) :
    frame.Decodable maxFrameBytes ∧ consumed = frame.bytes.length ∧
      ∃ rest, buffer = frame.bytes ++ rest := by
  have hlong : frameHeaderBytes ≤ buffer.length := by
    obtain ⟨hlong, -⟩ := seq_ok h
    simpa using hlong
  obtain ⟨raw, body, rfl⟩ := exists_header hlong
  rw [decodeFrame_raw] at h
  obtain ⟨hmagic, h⟩ := seq_ok h
  obtain ⟨hversion, h⟩ := seq_ok h
  obtain ⟨id, hid, h⟩ := bind_ok h
  obtain ⟨hpayload, h⟩ := seq_ok h
  obtain ⟨hbody, h⟩ := seq_ok h
  obtain ⟨stored, hstored, h⟩ := bind_ok h
  obtain ⟨hintegrity, h⟩ := seq_ok h
  obtain ⟨epoch, hepoch, h⟩ := bind_ok h
  cases h
  have hbody' : raw.length.toNat + frameTrailerBytes ≤ body.length := by simpa using hbody
  have htake : (body.take raw.length.toNat).length = raw.length.toNat :=
    List.length_take_of_le (Nat.le_trans (Nat.le_add_right ..) hbody')
  have hvalue : epoch.value = raw.epoch ∧ epoch.valid = true := by
    have hfrom := orRefuse_ok hepoch
    unfold Generation.fromValue at hfrom
    split at hfrom
    · cases hfrom
    · rename_i hnonzero
      cases hfrom
      exact ⟨rfl, by simpa [Generation.valid] using hnonzero⟩
  obtain ⟨rest, hrest⟩ : ∃ rest, body.drop raw.length.toNat = putU64 stored ++ rest := by
    obtain ⟨value, rest, hvalue, -⟩ := split_u64 (body.drop raw.length.toNat) (by
      rw [List.length_drop]
      unfold frameTrailerBytes at hbody'
      omega)
    have hread : readU64 body raw.length.toNat = some value := by
      rw [← List.take_append_drop raw.length.toNat body, hvalue]
      unfold readU64
      rw [readWord_skip 0 (by rw [htake, Nat.add_zero])]
      exact readU64_here ..
    rw [orRefuse_ok hstored] at hread
    cases hread
    exact ⟨rest, hvalue⟩
  refine ⟨⟨?_, by simpa using hversion, hvalue.2, ?_⟩, ?_, rest, ?_⟩
  · exact htake.symm
  · rw [htake]
    simpa using hpayload
  · rw [Frame.bytes_length, htake]
  · rw [Frame.bytes_eq]
    have hraw : Frame.raw
        { header :=
            { wireVersion := raw.version, messageId := id, flags := raw.flags
              payloadLength := raw.length, sequence := raw.sequence, epoch }
          payload := body.take raw.length.toNat } = raw := by
      have hlength : (body.take raw.length.toNat).length.toUInt32 = raw.length := by
        rw [htake]
        exact UInt32.ofNat_toNat
      have hcode : id.code = raw.id := (MessageId.parse_some (orRefuse_ok hid)).symm
      have hmagic' : raw.magic = frameMagic := by simpa using hmagic
      obtain ⟨magic, version, rawId, flags, length, sequence, rawEpoch⟩ := raw
      simp only [Frame.raw] at hlength hcode hmagic' hvalue ⊢
      rw [hlength, hcode, hmagic', hvalue.1]
    have hbound : integrityOf (raw.bytes ++ body.take raw.length.toNat) = stored := by
      simpa using hintegrity
    unfold Frame.tail
    rw [hraw, hbound, List.append_assoc, List.append_assoc, ← hrest, List.take_append_drop]

/-- Every buffer reported `OK` begins with the encoding of the frame returned. -/
theorem decodeFrame_ok_iff : decodeFrame buffer maxFrameBytes = .ok (frame, consumed) ↔
    frame.Decodable maxFrameBytes ∧ consumed = frame.bytes.length ∧
      ∃ rest, buffer = frame.bytes ++ rest := by
  constructor
  · exact decodeFrame_ok
  · intro h
    obtain ⟨hframe, rfl, rest, rfl⟩ := h
    exact decodeFrame_bytes hframe rest

/-- What falls short of the encoding of a frame asks for more. -/
theorem decodeFrame_part (h : frame.Encodable maxFrameBytes) {front : Text}
    (hfront : front <+: frame.bytes) (hne : front ≠ frame.bytes) :
    decodeFrame front maxFrameBytes = .error .incomplete := by
  by_cases hshort : front.length < frameHeaderBytes
  · unfold decodeFrame
    rw [show decide (front.length < frameHeaderBytes) = true by simpa using hshort]
    rfl
  · obtain ⟨missing, hmissing⟩ := hfront
    rw [frame.bytes_eq] at hmissing hne
    rcases List.append_eq_append_iff.1 hmissing with ⟨gap, hgap, hrest⟩ | ⟨body, rfl, hbody⟩
    · have hlengths : frame.raw.bytes.length = front.length + gap.length := by
        rw [hgap, List.length_append]
      rw [RawHeader.bytes_length] at hlengths
      have hnil : gap = [] := List.length_eq_zero_iff.1 (by omega)
      rw [hnil, List.append_nil] at hgap
      rw [← hgap, ← List.append_nil frame.raw.bytes, decodeFrame_header (.inl h)]
      rfl
    · have hnil : missing ≠ [] := by
        rintro rfl
        rw [List.append_nil] at hmissing
        exact hne hmissing
      have hlengths : frame.tail.length = body.length + missing.length := by
        rw [hbody, List.length_append]
      have hpositive : 0 < missing.length := List.length_pos_iff.2 hnil
      rw [frame.tail_length] at hlengths
      rw [decodeFrame_header (.inl h)]
      rw [show decide (body.length < frame.payload.length + frameTrailerBytes) = true by
        simp only [decide_eq_true_eq]
        omega]
      rfl

theorem Frame.Encodable.decodable (h : frame.Encodable maxFrameBytes) (hvalid : frame.Valid) :
    frame.Decodable maxFrameBytes :=
  ⟨hvalid, h.version, h.epoch, h.payload⟩

/-- Under a bound with room for an empty frame, what the decoder returns the encoder accepts. -/
theorem Frame.Decodable.encodable (h : frame.Decodable maxFrameBytes)
    (hroom : frameHeaderBytes + frameTrailerBytes ≤ maxFrameBytes.toNat) :
    frame.Encodable maxFrameBytes := by
  refine ⟨h.version, h.epoch, ?_, h.valid.length_le⟩
  have hpayload := h.payload
  unfold maximumPayload at hpayload
  split at hpayload <;> omega

end

/-- The frame decoder takes valid frames off a stream. -/
theorem frames_incremental (maxFrameBytes : UInt64) :
    Streams.Incremental (fun frame : Frame => frame.Valid ∧ frame.Encodable maxFrameBytes)
      Frame.bytes (fun buffer => decodeFrame buffer maxFrameBytes) .incomplete where
  empty := rfl
  whole := fun _ rest h => decodeFrame_bytes (h.2.decodable h.1) rest
  part := fun _ _ h hfront hne => decodeFrame_part h.2 hfront hne

/-! ## The loop of a session -/

namespace Connection

variable {σ : Type}

/-- The frames of a list that a session dispatches: up to the first that ends it. -/
def servedOf (dispatch : σ → Frame → σ × Disposition) : σ → List Frame → List Frame
  | _, [] => []
  | state, frame :: rest =>
    frame :: if (dispatch state frame).2 = .proceed
      then servedOf dispatch (dispatch state frame).1 rest else []

/-- A turn that finds the session running and comes before the deadline of a frame that has started,
and in which the socket yields bytes or nothing. -/
structure Feeds (c : Connection σ) (turn : Turn) : Prop where
  running : turn.running = true
  timely : ∀ deadline ∈ c.deadline, turn.now < deadline
  received : turn.received = .stalled ∨ ∃ bytes, turn.received = .data bytes

/-- Every turn of a run is such a turn. -/
def FedBy (limits : Limits) (dispatch : σ → Frame → σ × Disposition) :
    Connection σ → List Turn → Prop
  | _, [] => True
  | c, turn :: rest => Feeds c turn ∧ FedBy limits dispatch (iterate limits dispatch c turn) rest

/-- The loop has dispatched the frames whose bytes left its buffer, and has `left` more to dispatch at
most. -/
structure Tracks (limits : Limits) (dispatch : σ → Frame → σ × Disposition) (state : σ)
    (frames : List Frame) (left : Nat) (c : Connection σ) : Prop where
  finished : c.ended.isSome = true → c.dispatched = servedOf dispatch state frames
  live : c.ended = none → c.closing = false ∧ ∃ ahead rest,
    (∀ frame ∈ ahead, frame.Valid ∧ frame.Encodable limits.maxFrameBytes) ∧
      c.dispatched ++ servedOf dispatch c.state ahead = servedOf dispatch state frames ∧
      c.buffer ++ rest = ahead.flatMap Frame.bytes ∧
      c.taken ++ rest = frames.flatMap Frame.bytes ∧ ahead.length ≤ left

section
variable {limits : Limits} {dispatch : σ → Frame → σ × Disposition} {state : σ}
  {frames ahead : List Frame} {left : Nat} {c : Connection σ} {turn : Turn} {rest : Text}

theorem await_eq (hopen : c.closing = false) (hfeeds : Feeds c turn) :
    ∃ deadline, await limits c turn = receive { c with deadline } turn.received := by
  unfold await
  rw [if_neg (by simp [hopen])]
  split
  · exact ⟨none, rfl⟩
  · split
    · exact ⟨_, rfl⟩
    · rename_i deadline hdeadline
      have htimely := hfeeds.timely deadline hdeadline
      rw [if_neg (by simpa using htimely)]
      exact ⟨c.deadline, rfl⟩

variable (dispatch) in
/-- A turn dispatches the frame at the front of the buffer, or waits for more bytes. -/
theorem iterate_cases (hlive : c.ended = none) (hopen : c.closing = false)
    (hframes : ∀ frame ∈ ahead, frame.Valid ∧ frame.Encodable limits.maxFrameBytes)
    (hbuffer : c.buffer ++ rest = ahead.flatMap Frame.bytes) (hfeeds : Feeds c turn) :
    (∃ frame behind later, ahead = frame :: later ∧ behind ++ rest = later.flatMap Frame.bytes ∧
      iterate limits dispatch c turn = { c with
        state := (dispatch c.state frame).1, buffer := behind, deadline := none
        ended := endOf (dispatch c.state frame).2, dispatched := c.dispatched ++ [frame] }) ∨
      (rest = [] → ahead = []) ∧
        ∃ deadline, iterate limits dispatch c turn = receive { c with deadline } turn.received := by
  have hrunning : (!turn.running) = false := by rw [hfeeds.running]; rfl
  unfold iterate
  rw [if_neg (by simp [hlive]), if_neg (by simp [hrunning])]
  rcases (frames_incremental limits.maxFrameBytes).split hframes hbuffer with
    hmore | ⟨frame, behind, later, rfl, hfront, hlater⟩
  · rw [hmore]
    refine .inr ⟨fun hrest => ?_, await_eq hopen hfeeds⟩
    cases ahead with
    | nil => rfl
    | cons frame later =>
      have hwhole := (frames_incremental limits.maxFrameBytes).whole frame
        (later.flatMap Frame.bytes) (hframes frame List.mem_cons_self)
      rw [hrest, List.append_nil, List.flatMap_cons] at hbuffer
      rw [hbuffer, hwhole] at hmore
      cases hmore
  · have hwhole := (frames_incremental limits.maxFrameBytes).whole frame behind
      (hframes frame List.mem_cons_self)
    rw [hfront, hwhole]
    refine .inl ⟨frame, behind, later, rfl, hlater, ?_⟩
    dsimp only
    rw [List.drop_left' rfl]

/-- The dispatch of the next frame keeps track. -/
theorem Tracks.dispatched {frame : Frame} {behind : Text} {later : List Frame}
    (hopen : c.closing = false)
    (hframes : ∀ f ∈ later, f.Valid ∧ f.Encodable limits.maxFrameBytes)
    (hserved : c.dispatched ++ servedOf dispatch c.state (frame :: later) =
      servedOf dispatch state frames)
    (hbehind : behind ++ rest = later.flatMap Frame.bytes)
    (htaken : c.taken ++ rest = frames.flatMap Frame.bytes)
    (hleft : later.length ≤ left) :
    Tracks limits dispatch state frames left { c with
      state := (dispatch c.state frame).1, buffer := behind, deadline := none
      ended := endOf (dispatch c.state frame).2, dispatched := c.dispatched ++ [frame] } := by
  rw [servedOf] at hserved
  constructor
  · intro hended
    have hends : (dispatch c.state frame).2 ≠ .proceed := by
      intro hproceed
      dsimp only at hended
      rw [hproceed] at hended
      cases hended
    rwa [if_neg hends] at hserved
  · intro hended
    have hproceed : (dispatch c.state frame).2 = .proceed := by
      dsimp only at hended
      cases hdisposition : (dispatch c.state frame).2 with
      | proceed => rfl
      | close | protocolFailure =>
        rw [hdisposition] at hended
        cases hended
    rw [if_pos hproceed] at hserved
    exact ⟨hopen, later, rest, hframes, (List.append_assoc ..).trans hserved, hbehind, htaken, hleft⟩

/-- Bytes taken off the socket keep track, as long as they are bytes of the frames. -/
theorem Tracks.received {deadline : Option Ticks} (hlive : c.ended = none) (hopen : c.closing = false)
    (hframes : ∀ f ∈ ahead, f.Valid ∧ f.Encodable limits.maxFrameBytes)
    (hserved : c.dispatched ++ servedOf dispatch c.state ahead = servedOf dispatch state frames)
    (hbuffer : c.buffer ++ rest = ahead.flatMap Frame.bytes)
    (htaken : c.taken ++ rest = frames.flatMap Frame.bytes)
    (hleft : ahead.length ≤ left) (hfeeds : Feeds c turn)
    (hmore : (receive { c with deadline } turn.received).taken <+: frames.flatMap Frame.bytes) :
    Tracks limits dispatch state frames left (receive { c with deadline } turn.received) := by
  rcases hfeeds.received with hnone | ⟨bytes, hbytes⟩
  · rw [hnone]
    refine ⟨fun hended => ?_, fun _ => ⟨hopen, ahead, rest, hframes, hserved, hbuffer, htaken,
      hleft⟩⟩
    rw [show (receive { c with deadline } .stalled).ended = none from hlive] at hended
    cases hended
  · rw [hbytes] at hmore ⊢
    obtain ⟨later, hlater⟩ := hmore
    change c.taken ++ bytes ++ later = _ at hlater
    have hrest : rest = bytes ++ later := by
      rw [← hlater, List.append_assoc] at htaken
      exact List.append_cancel_left htaken
    refine ⟨fun hended => ?_, fun _ => ⟨hopen, ahead, later, hframes, hserved, ?_, hlater, hleft⟩⟩
    · rw [show (receive { c with deadline } (.data bytes)).ended = none from hlive] at hended
      cases hended
    · change c.buffer ++ bytes ++ later = _
      rw [List.append_assoc, ← hrest, hbuffer]

theorem iterate_ended (h : c.ended.isSome = true) : iterate limits dispatch c turn = c := by
  unfold iterate
  rw [if_pos h]

/-- A turn keeps track. -/
theorem Tracks.step (h : Tracks limits dispatch state frames left c) (hfeeds : Feeds c turn)
    (hmore : (iterate limits dispatch c turn).taken <+: frames.flatMap Frame.bytes) :
    Tracks limits dispatch state frames left (iterate limits dispatch c turn) := by
  cases hended : c.ended with
  | some ending =>
    rw [iterate_ended (by rw [hended]; rfl)]
    exact h
  | none =>
    obtain ⟨hopen, ahead, rest, hall, hserved, hbuffer, htaken, hleft⟩ := h.live hended
    rcases iterate_cases dispatch hended hopen hall hbuffer hfeeds with
      ⟨frame, behind, later, rfl, hbehind, heq⟩ | ⟨-, deadline, heq⟩
    · rw [heq]
      exact .dispatched hopen (fun f hf => hall f (List.mem_cons_of_mem _ hf)) hserved hbehind htaken
        (Nat.le_of_succ_le hleft)
    · rw [heq] at hmore ⊢
      exact .received hended hopen hall hserved hbuffer htaken hleft hfeeds hmore

/-- Once all bytes are taken, a turn dispatches a frame or there is none left. -/
theorem Tracks.drain (h : Tracks limits dispatch state frames left c) (hfeeds : Feeds c turn)
    (hall : c.taken = frames.flatMap Frame.bytes)
    (hmore : (iterate limits dispatch c turn).taken = frames.flatMap Frame.bytes) :
    Tracks limits dispatch state frames (left - 1) (iterate limits dispatch c turn) := by
  cases hended : c.ended with
  | some ending =>
    rw [iterate_ended (by rw [hended]; rfl)]
    exact ⟨h.finished, fun hlive => by rw [hended] at hlive; cases hlive⟩
  | none =>
    obtain ⟨hopen, ahead, rest, hframes, hserved, hbuffer, htaken, hleft⟩ := h.live hended
    have hrest : rest = [] := by
      rw [hall] at htaken
      exact List.append_right_eq_self.1 htaken
    rcases iterate_cases dispatch hended hopen hframes hbuffer hfeeds with
      ⟨frame, behind, later, rfl, hbehind, heq⟩ | ⟨hnone, deadline, heq⟩
    · rw [heq]
      refine .dispatched hopen (fun f hf => hframes f (List.mem_cons_of_mem _ hf)) hserved hbehind
        htaken ?_
      rw [List.length_cons] at hleft
      omega
    · obtain rfl := hnone hrest
      rw [heq] at hmore ⊢
      exact .received hended hopen hframes hserved hbuffer htaken (Nat.zero_le _) hfeeds
        (hmore ▸ List.prefix_rfl)

variable (limits dispatch) in
/-- A run takes bytes and gives none back. -/
theorem taken_iterate (c : Connection σ) (turn : Turn) :
    c.taken <+: (iterate limits dispatch c turn).taken := by
  have hreceive (c' : Connection σ) (received : Received) : c'.taken <+: (receive c' received).taken := by
    cases received with
    | data bytes => exact List.prefix_append ..
    | _ => exact List.prefix_rfl
  unfold iterate
  split
  · exact List.prefix_rfl
  · split
    · exact List.prefix_rfl
    · split
      · exact List.prefix_rfl
      · unfold await
        split
        · exact List.prefix_rfl
        · split
          · exact hreceive { c with deadline := none } _
          · split
            · exact hreceive { c with deadline := some _ } _
            · split
              · exact List.prefix_rfl
              · exact hreceive c _
      · exact List.prefix_rfl

variable (limits dispatch) in
theorem taken_run (turns : List Turn) (c : Connection σ) :
    c.taken <+: (run limits dispatch c turns).taken := by
  induction turns generalizing c with
  | nil => exact List.prefix_rfl
  | cons turn rest ih => exact (taken_iterate limits dispatch c turn).trans (ih _)

theorem Tracks.run {turns : List Turn} (h : Tracks limits dispatch state frames left c)
    (hfed : FedBy limits dispatch c turns)
    (hmore : (run limits dispatch c turns).taken <+: frames.flatMap Frame.bytes) :
    Tracks limits dispatch state frames left (run limits dispatch c turns) := by
  induction turns generalizing c with
  | nil => exact h
  | cons turn rest ih =>
    exact ih (h.step hfed.1 ((taken_run limits dispatch rest _).trans hmore)) hfed.2 hmore

theorem Tracks.drained {turns : List Turn} (h : Tracks limits dispatch state frames left c)
    (hfed : FedBy limits dispatch c turns) (hall : c.taken = frames.flatMap Frame.bytes)
    (hmore : (Connection.run limits dispatch c turns).taken = frames.flatMap Frame.bytes) :
    Tracks limits dispatch state frames (left - turns.length)
      (Connection.run limits dispatch c turns) := by
  induction turns generalizing c left with
  | nil => exact h
  | cons turn rest ih =>
    have hnext : (iterate limits dispatch c turn).taken = frames.flatMap Frame.bytes := by
      obtain ⟨more, hback⟩ := taken_run limits dispatch rest
        (iterate limits dispatch c turn)
      obtain ⟨first, hfirst⟩ := taken_iterate limits dispatch c turn
      change _ = (Connection.run limits dispatch c (turn :: rest)).taken at hback
      rw [hmore, ← hfirst, List.append_assoc, hall] at hback
      have hnil := List.append_right_eq_self.1 hback
      rw [← hfirst, (List.append_eq_nil_iff.1 hnil).1, List.append_nil, hall]
    have hrest := ih (h.drain hfed.1 hall hnext) hfed.2 hnext hmore
    rwa [Nat.sub_sub, Nat.add_comm 1] at hrest

/-- What a session dispatches while it is fed bytes of a list of frames: the frames in order, and all
of them up to the first that ends it once their bytes are taken. -/
structure Dispatches (limits : Limits) (dispatch : σ → Frame → σ × Disposition) (state : σ)
    (frames : List Frame) (c : Connection σ) : Prop where
  inOrder : c.dispatched <+: servedOf dispatch state frames
  finished : c.ended.isSome = true → c.dispatched = servedOf dispatch state frames
  all : ∀ turns, c.taken = frames.flatMap Frame.bytes → FedBy limits dispatch c turns →
    (run limits dispatch c turns).taken = frames.flatMap Frame.bytes →
    frames.length ≤ turns.length →
    (run limits dispatch c turns).dispatched = servedOf dispatch state frames

theorem Tracks.inOrder (h : Tracks limits dispatch state frames left c) :
    c.dispatched <+: servedOf dispatch state frames := by
  cases hended : c.ended with
  | some ending => exact h.finished (by rw [hended]; rfl) ▸ List.prefix_rfl
  | none =>
    obtain ⟨-, ahead, rest, -, hserved, -⟩ := h.live hended
    exact ⟨_, hserved⟩

theorem Tracks.all (h : Tracks limits dispatch state frames 0 c) :
    c.dispatched = servedOf dispatch state frames := by
  cases hended : c.ended with
  | some ending => exact h.finished (by rw [hended]; rfl)
  | none =>
    obtain ⟨-, ahead, rest, -, hserved, -, -, hleft⟩ := h.live hended
    rw [List.length_eq_zero_iff.1 (Nat.le_zero.1 hleft)] at hserved
    simpa [servedOf] using hserved

theorem run_dispatches {turns : List Turn}
    (hframes : ∀ frame ∈ frames, frame.Valid ∧ frame.Encodable limits.maxFrameBytes)
    (hfed : FedBy limits dispatch { state } turns)
    (hmore : (Connection.run limits dispatch { state } turns).taken <+: frames.flatMap Frame.bytes) :
    Dispatches limits dispatch state frames (Connection.run limits dispatch { state } turns) := by
  have hstart : Tracks limits dispatch state frames frames.length { state } :=
    ⟨nofun, fun _ => ⟨rfl, frames, _, hframes, rfl, rfl, rfl, Nat.le_refl _⟩⟩
  have htracks := hstart.run hfed hmore
  refine ⟨htracks.inOrder, htracks.finished, fun draining hall hdraining hend hlong => ?_⟩
  have hdrained := htracks.drained hdraining hall hend
  rw [Nat.sub_eq_zero_of_le hlong] at hdrained
  exact hdrained.all

end

end Connection

/-! ## The laws of the codec -/

/-- What the framing of a coordinator with these limits promises. -/
structure FrameLaws (limits : Limits) : Prop where
  returned : ∀ frame bytes rest, frame.Valid →
    encodeFrame frame limits.maxFrameBytes = some bytes →
    decodeFrame (bytes ++ rest) limits.maxFrameBytes = .ok (frame, bytes.length)
  truncated : ∀ frame bytes front, encodeFrame frame limits.maxFrameBytes = some bytes →
    front <+: bytes → front ≠ bytes →
    decodeFrame front limits.maxFrameBytes = .error .incomplete
  reencoded : ∀ buffer frame consumed,
    decodeFrame buffer limits.maxFrameBytes = .ok (frame, consumed) →
    encodeFrame frame limits.maxFrameBytes = some (buffer.take consumed)
  session : ∀ (σ : Type) (dispatch : σ → Frame → σ × Disposition) (state : σ)
    (frames : List Frame) (turns : List Turn),
    (∀ frame ∈ frames, frame.Valid ∧
      encodeFrame frame limits.maxFrameBytes = some frame.bytes) →
    Connection.FedBy limits dispatch { state } turns →
    (Connection.run limits dispatch { state } turns).taken <+: frames.flatMap Frame.bytes →
    Connection.Dispatches limits dispatch state frames
      (Connection.run limits dispatch { state } turns)

/-- An empty frame. -/
def emptyFrame : Frame := { header := { epoch := .first } }

theorem emptyFrame_decodable (maxFrameBytes : UInt64) : emptyFrame.Decodable maxFrameBytes :=
  ⟨rfl, rfl, rfl, Nat.zero_le _⟩

/-- The laws hold exactly under a bound with room for an empty frame. -/
theorem frameLaws_iff (limits : Limits) :
    FrameLaws limits ↔ frameHeaderBytes + frameTrailerBytes ≤ limits.maxFrameBytes.toNat := by
  constructor
  · intro h
    have hdecode := decodeFrame_bytes (emptyFrame_decodable limits.maxFrameBytes) []
    rw [List.append_nil] at hdecode
    have hencodable := (encodeFrame_iff.1 (h.reencoded _ _ _ hdecode)).1
    exact hencodable.total
  · intro hroom
    refine ⟨fun frame bytes rest hvalid hencode => ?_, fun frame bytes front hencode hfront hne => ?_,
      fun buffer frame consumed hdecode => ?_, fun σ dispatch state frames turns hframes => ?_⟩
    · obtain ⟨hencodable, rfl⟩ := encodeFrame_iff.1 hencode
      exact decodeFrame_bytes (hencodable.decodable hvalid) rest
    · obtain ⟨hencodable, rfl⟩ := encodeFrame_iff.1 hencode
      exact decodeFrame_part hencodable hfront hne
    · obtain ⟨hdecodable, rfl, rest, rfl⟩ := decodeFrame_ok hdecode
      exact encodeFrame_iff.2 ⟨hdecodable.encodable hroom, List.take_left' rfl⟩
    · exact Connection.run_dispatches fun frame hmem =>
        ⟨(hframes frame hmem).1, (encodeFrame_iff.1 (hframes frame hmem).2).1⟩

/-- Under a bound of 39 bytes the decoder returns an empty frame of 40 bytes, which the encoder
refuses. -/
theorem empty_frame_exceeds_bound :
    decodeFrame emptyFrame.bytes 39 = .ok (emptyFrame, 40) ∧ encodeFrame emptyFrame 39 = none := by
  have hdecode := decodeFrame_bytes (emptyFrame_decodable 39) []
  rw [List.append_nil] at hdecode
  exact ⟨hdecode, by decide⟩

end Wire

end AdaptiveRouting
