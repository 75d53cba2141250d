import RmTest.Library.Bytes
import RmTest.Protocols.PcLink

/-! PC link frames as byte strings: what `EncodeFrame` writes in front of the other cells
of its buffer, and what `DecodeFrame` reads from a string that starts with a frame. -/
namespace RmTest.Protocols.PcLink

open Channels

namespace Buffer

/-- A pointer to exactly these cells. -/
def ofCells (cells : List UInt8) : Buffer where
  cells := some cells
  size := cells.length
  reach := by
    intro list hList
    exact Nat.le_of_eq (congrArg List.length (Option.mem_some.mp hList))

/-- What the pointer and the length show. -/
def bytes (buffer : Buffer) : List UInt8 := (buffer.cells.getD []).take buffer.size

@[simp] theorem size_ofCells (cells : List UInt8) : (ofCells cells).size = cells.length := rfl

@[simp] theorem bytes_ofCells (cells : List UInt8) : (ofCells cells).bytes = cells :=
  List.take_length

theorem length_bytes {buffer : Buffer} (readable : buffer.size = 0 ∨ buffer.cells ≠ none) :
    buffer.bytes.length = buffer.size := by
  rw [bytes, List.length_take]
  apply Nat.min_eq_left
  rcases readable with hEmpty | hCells
  · rw [hEmpty]
    exact Nat.zero_le _
  · obtain ⟨cells, hSome⟩ := Option.ne_none_iff_exists'.mp hCells
    rw [hSome]
    exact buffer.reach cells hSome

end Buffer

/-- The bytes of a frame. -/
def frameOf (cmdId : UInt16) (payload : List UInt8) : List UInt8 :=
  [kFrameSof, UInt8.ofNat payload.length, UInt8.ofNat (payload.length / 256), 0, 0,
    cmdId.toUInt8, (cmdId >>> 8).toUInt8] ++ payload

@[simp] theorem length_frameOf (cmdId : UInt16) (payload : List UInt8) :
    (frameOf cmdId payload).length = 7 + payload.length := by
  rw [frameOf, List.length_append]
  rfl

/-- The inputs that `EncodeFrame` makes a frame of. -/
structure Encodable (payload out : Buffer) (outLen : Option Nat) : Prop where
  outPointer : out.cells ≠ none
  lenPointer : outLen ≠ none
  readable : payload.size = 0 ∨ payload.cells ≠ none
  short : payload.size ≤ 0xffff
  room : 7 + payload.size ≤ out.size

/-- The payload is copied also where the copy is left out. -/
theorem memcpy_payload (cells : List UInt8) (payload : Buffer) :
    (if payload.size > 0 then memcpy cells 7 (payload.cells.getD []) payload.size else cells) =
      cells.take 7 ++ payload.bytes ++ cells.drop (7 + payload.size) := by
  by_cases hSome : payload.size > 0
  · rw [if_pos hSome]
    rfl
  · have hZero : payload.size = 0 := by omega
    rw [if_neg hSome, Buffer.bytes, hZero, List.take_zero, List.append_nil, List.take_append_drop]

/-- A string of seven bytes or more has a header. -/
theorem exists_header {cells : List UInt8} (room : 7 ≤ cells.length) :
    ∃ b0 b1 b2 b3 b4 b5 b6 rest, cells = b0 :: b1 :: b2 :: b3 :: b4 :: b5 :: b6 :: rest := by
  rcases cells with _ | ⟨b0, _ | ⟨b1, _ | ⟨b2, _ | ⟨b3, _ | ⟨b4, _ | ⟨b5, _ | ⟨b6, rest⟩⟩⟩⟩⟩⟩⟩
  iterate 7 simp at room
  exact ⟨b0, b1, b2, b3, b4, b5, b6, rest, rfl⟩

theorem encodeFrame_of_encodable (cmdId : UInt16) {payload out : Buffer} {outLen : Option Nat}
    (encodable : Encodable payload out outLen) {cells : List UInt8}
    (hOut : out.cells = some cells) :
    encodeFrame cmdId payload out outLen =
      ((some (frameOf cmdId payload.bytes ++ cells.drop (7 + payload.size)),
        some (7 + payload.size)), .ok ()) := by
  obtain ⟨oldLen, hLen⟩ := Option.ne_none_iff_exists'.mp encodable.lenPointer
  have hRoom := encodable.room
  have hReach := out.reach cells hOut
  obtain ⟨b0, b1, b2, b3, b4, b5, b6, rest, rfl⟩ := exists_header (show 7 ≤ cells.length by omega)
  have hPayload : ¬(payload.size > 0 ∧ payload.cells = none) := by
    rintro ⟨hSome, hNull⟩
    rcases encodable.readable with hEmpty | hCells
    · omega
    · exact hCells hNull
  have hShort : ¬payload.size > 0xffff := Nat.not_lt.mpr encodable.short
  have hHigh : payload.size >>> 8 = payload.size / 256 := Nat.shiftRight_eq_div_pow _ _
  simp only [encodeFrame, hOut, hLen, if_neg hPayload, if_neg hShort, if_neg (Nat.not_lt.mpr hRoom),
    memcpy_payload, Bytes.ofNat_and_mask, Bytes.toUInt8_and_mask, hHigh, frameOf,
    Buffer.length_bytes encodable.readable]
  rw [show 7 + payload.size = payload.size + 7 from Nat.add_comm _ _]
  rfl

theorem encodeFrame_of_not_encodable (cmdId : UInt16) {payload out : Buffer} {outLen : Option Nat}
    (notEncodable : ¬Encodable payload out outLen) :
    ∃ error, encodeFrame cmdId payload out outLen = ((out.cells, outLen), .error error) := by
  cases hOut : out.cells with
  | none => exact ⟨.einval, by simp only [encodeFrame, hOut]⟩
  | some cells =>
      cases outLen with
      | none => exact ⟨.einval, by simp only [encodeFrame, hOut]⟩
      | some oldLen =>
          simp only [encodeFrame, hOut]
          by_cases hNull : payload.size > 0 ∧ payload.cells = none
          · exact ⟨.einval, if_pos hNull⟩
          by_cases hLong : payload.size > 0xffff
          · exact ⟨.e2big, (if_neg hNull).trans (if_pos hLong)⟩
          by_cases hFull : out.size < 7 + payload.size
          · exact ⟨.enospc, (if_neg hNull).trans ((if_neg hLong).trans (if_pos hFull))⟩
          have hReadable : payload.size = 0 ∨ payload.cells ≠ none :=
            (Nat.eq_zero_or_pos payload.size).imp_right fun hSome hCells => hNull ⟨hSome, hCells⟩
          have hEncodable : Encodable payload out (some oldLen) :=
            { outPointer := by simp [hOut]
              lenPointer := Option.some_ne_none oldLen
              readable := hReadable
              short := Nat.not_lt.mp hLong
              room := Nat.not_lt.mp hFull }
          exact absurd hEncodable notEncodable

/-- The frame that a decoded record stands for. -/
def PcFrame.bytesIn (frame : PcFrame) (buffer : Buffer) : List UInt8 :=
  (buffer.bytes.drop frame.payload).take frame.payloadLen.toNat

/-- A string that starts with a frame is decoded, whatever follows. -/
theorem decodeFrame_frameOf (cmdId : UInt16) {payload : List UInt8}
    (short : payload.length ≤ 0xffff)
    (rest : List UInt8) (out : PcFrame) :
    decodeFrame (.ofCells (frameOf cmdId payload ++ rest)) (some out) =
      (some ⟨cmdId, 7, UInt16.ofNat payload.length⟩, .ok ()) := by
  have hLen : (UInt8.ofNat payload.length).toUInt16 |||
      (UInt8.ofNat (payload.length / 256)).toUInt16 <<< 8 = UInt16.ofNat payload.length := by
    apply UInt16.toNat_inj.mp
    rw [Bytes.toNat_low_or_high, UInt8.toNat_ofNat', UInt8.toNat_ofNat', UInt16.toNat_ofNat']
    omega
  have hToNat : (UInt16.ofNat payload.length).toNat = payload.length := by
    rw [UInt16.toNat_ofNat']
    omega
  have hSize : (Buffer.ofCells (frameOf cmdId payload ++ rest)).size =
      7 + payload.length + rest.length := by
    rw [Buffer.size_ofCells, List.length_append, length_frameOf]
  have hHeader : ¬7 + payload.length + rest.length < 7 := by omega
  have hWhole : ¬7 + payload.length + rest.length < 7 + payload.length := by omega
  have hCells : (Buffer.ofCells (frameOf cmdId payload ++ rest)).cells =
      some (frameOf cmdId payload ++ rest) := rfl
  simp only [decodeFrame, hCells, hSize, if_neg hHeader]
  simp only [frameOf, List.cons_append, List.getD_cons_zero, List.getD_cons_succ, ne_eq,
    not_true_eq_false, if_false, hLen, hToNat, if_neg hWhole, Bytes.low_or_high]

/-- A header and what its length takes up of the rest are a frame, but for the two bytes
that are not read. -/
theorem frameOf_header (b1 b2 b3 b4 b5 b6 : UInt8) {rest : List UInt8}
    (inside : (b1.toUInt16 ||| b2.toUInt16 <<< 8).toNat ≤ rest.length) :
    frameOf (b5.toUInt16 ||| b6.toUInt16 <<< 8)
        (rest.take (b1.toUInt16 ||| b2.toUInt16 <<< 8).toNat) =
      ((((kFrameSof :: b1 :: b2 :: b3 :: b4 :: b5 :: b6 :: rest).take
        (7 + (b1.toUInt16 ||| b2.toUInt16 <<< 8).toNat)).set 3 0).set 4 0) := by
  have hLow : UInt8.ofNat (b1.toUInt16 ||| b2.toUInt16 <<< 8).toNat = b1 :=
    Bytes.low_of_low_or_high b1 b2
  have hHigh : UInt8.ofNat ((b1.toUInt16 ||| b2.toUInt16 <<< 8).toNat / 256) = b2 := by
    apply UInt8.toNat_inj.mp
    have hLt := b1.toNat_lt
    have hLt' := b2.toNat_lt
    rw [Bytes.toNat_low_or_high, UInt8.toNat_ofNat']
    omega
  simp only [frameOf, List.length_take, Nat.min_eq_left inside, hLow, hHigh,
    Bytes.low_of_low_or_high, Bytes.high_of_low_or_high]
  rw [Nat.add_comm 7]
  rfl

theorem decodeFrame_ok {frame : Buffer} {old : Option PcFrame}
    (ok : (decodeFrame frame old).2 = .ok ()) :
    ∃ decoded, decodeFrame frame old = (some decoded, .ok ()) ∧
      7 + decoded.payloadLen.toNat ≤ frame.bytes.length ∧ decoded.payload = 7 ∧
      frameOf decoded.cmdId (decoded.bytesIn frame) =
        ((frame.bytes.take (7 + decoded.payloadLen.toNat)).set 3 0).set 4 0 := by
  cases hCells : frame.cells with
  | none => simp [decodeFrame, hCells] at ok
  | some cells =>
      cases old with
      | none => simp [decodeFrame, hCells] at ok
      | some old =>
          have hReach := frame.reach cells hCells
          simp only [decodeFrame, hCells] at ok ⊢
          by_cases hShort : frame.size < 7
          · rw [if_pos hShort] at ok
            cases ok
          rw [if_neg hShort] at ok ⊢
          obtain ⟨b0, b1, b2, b3, b4, b5, b6, rest, rfl⟩ :=
            exists_header (show 7 ≤ cells.length by omega)
          simp only [List.getD_cons_zero, List.getD_cons_succ] at ok ⊢
          by_cases hSof : b0 ≠ kFrameSof
          · rw [if_pos hSof] at ok
            cases ok
          rw [if_neg hSof] at ok ⊢
          by_cases hCut : frame.size < 7 + (b1.toUInt16 ||| b2.toUInt16 <<< 8).toNat
          · rw [if_pos hCut] at ok
            cases ok
          have hBytes : frame.bytes = kFrameSof :: b1 :: b2 :: b3 :: b4 :: b5 :: b6 ::
              rest.take (frame.size - 7) := by
            obtain ⟨more, hMore⟩ := Nat.exists_eq_add_of_le' (Nat.not_lt.mp hShort)
            rw [Buffer.bytes, hCells, Option.getD_some, hMore, not_not.mp hSof]
            rfl
          have hRest : (rest.take (frame.size - 7)).length = frame.size - 7 := by
            rw [List.length_take]
            simp only [List.length_cons] at hReach
            omega
          refine ⟨_, if_neg hCut, ?_, rfl, ?_⟩
          · simp only [hBytes, List.length_cons, hRest]
            omega
          · rw [hBytes, ← frameOf_header b1 b2 b3 b4 b5 b6 (by omega), PcFrame.bytesIn, hBytes]
            rfl

/-- What is encoded is decoded again, whatever follows the frame. -/
theorem decodeFrame_encoded (cmdId : UInt16) {payload out : Buffer} {outLen : Option Nat}
    (encodable : Encodable payload out outLen) :
    ∃ cells, encodeFrame cmdId payload out outLen =
        ((some cells, some (7 + payload.size)), .ok ()) ∧
      ∀ (rest : List UInt8) (old : PcFrame),
        let received := Buffer.ofCells (cells.take (7 + payload.size) ++ rest)
        ∃ decoded, decodeFrame received (some old) = (some decoded, .ok ()) ∧
          decoded.cmdId = cmdId ∧ decoded.payloadLen.toNat = payload.size ∧
          decoded.bytesIn received = payload.bytes := by
  obtain ⟨cells, hOut⟩ := Option.ne_none_iff_exists'.mp encodable.outPointer
  have hLength := Buffer.length_bytes encodable.readable
  have hShort := encodable.short
  refine ⟨_, encodeFrame_of_encodable cmdId encodable hOut, ?_⟩
  intro rest old
  have hTaken : (frameOf cmdId payload.bytes ++ cells.drop (7 + payload.size)).take
      (7 + payload.size) = frameOf cmdId payload.bytes := by
    rw [← hLength, ← length_frameOf cmdId, List.take_left]
  have hToNat : (UInt16.ofNat payload.bytes.length).toNat = payload.size := by
    rw [UInt16.toNat_ofNat', hLength]
    omega
  rw [hTaken]
  refine ⟨_, decodeFrame_frameOf cmdId (by omega) rest old, rfl, hToNat, ?_⟩
  rw [PcFrame.bytesIn, Buffer.bytes_ofCells, hToNat, ← hLength]
  exact List.take_left

/-- What is decoded lies inside of the buffer and encodes to the bytes it was read from,
with zeros for the two that are not read. -/
theorem encodeFrame_decoded {frame : Buffer} {old : Option PcFrame}
    (ok : (decodeFrame frame old).2 = .ok ()) :
    ∃ decoded, decodeFrame frame old = (some decoded, .ok ()) ∧
      decoded.payload + decoded.payloadLen.toNat ≤ frame.size ∧
      (decoded.bytesIn frame).length = decoded.payloadLen.toNat ∧
      ∀ (out : Buffer) (cells : List UInt8) (oldLen : Nat), out.cells = some cells →
        7 + decoded.payloadLen.toNat ≤ out.size →
        encodeFrame decoded.cmdId (.ofCells (decoded.bytesIn frame)) out (some oldLen) =
          ((some (((frame.bytes.take (7 + decoded.payloadLen.toNat)).set 3 0).set 4 0 ++
              cells.drop (7 + decoded.payloadLen.toNat)),
            some (7 + decoded.payloadLen.toNat)), .ok ()) := by
  obtain ⟨decoded, hDecoded, hInside, hPayload, hFrame⟩ := decodeFrame_ok ok
  have hSize : frame.bytes.length ≤ frame.size := by
    rw [Buffer.bytes]
    exact List.length_take_le _ _
  have hBytes : (decoded.bytesIn frame).length = decoded.payloadLen.toNat := by
    rw [PcFrame.bytesIn, hPayload, List.length_take, List.length_drop]
    omega
  refine ⟨decoded, hDecoded, by omega, hBytes, ?_⟩
  intro out cells oldLen hOut hRoom
  have hEncodable : Encodable (.ofCells (decoded.bytesIn frame)) out (some oldLen) :=
    { outPointer := by simp [hOut]
      lenPointer := Option.some_ne_none oldLen
      readable := .inr (Option.some_ne_none _)
      short := by
        rw [Buffer.size_ofCells, hBytes]
        exact Nat.le_of_lt_succ decoded.payloadLen.toNat_lt
      room := by rwa [Buffer.size_ofCells, hBytes] }
  rw [encodeFrame_of_encodable decoded.cmdId hEncodable hOut, Buffer.bytes_ofCells,
    Buffer.size_ofCells, hBytes, hFrame]

/-- What is encoded is decoded again, whatever follows the frame; what cannot be encoded is
refused and changes nothing; and what is decoded lies inside of the buffer and encodes to
the bytes it was read from, with zeros for the two that are not read. -/
theorem frames_round_trip :
    (∀ (cmdId : UInt16) (payload out : Buffer) (outLen : Option Nat), Encodable payload out outLen →
      ∃ cells, encodeFrame cmdId payload out outLen =
          ((some cells, some (7 + payload.size)), .ok ()) ∧
        ∀ (rest : List UInt8) (old : PcFrame),
          let received := Buffer.ofCells (cells.take (7 + payload.size) ++ rest)
          ∃ decoded, decodeFrame received (some old) = (some decoded, .ok ()) ∧
            decoded.cmdId = cmdId ∧ decoded.payloadLen.toNat = payload.size ∧
            decoded.bytesIn received = payload.bytes) ∧
    (∀ (cmdId : UInt16) (payload out : Buffer) (outLen : Option Nat),
      ¬Encodable payload out outLen →
        ∃ error, encodeFrame cmdId payload out outLen = ((out.cells, outLen), .error error)) ∧
    (∀ (frame : Buffer) (old : Option PcFrame), (decodeFrame frame old).2 = .ok () →
      ∃ decoded, decodeFrame frame old = (some decoded, .ok ()) ∧
        decoded.payload + decoded.payloadLen.toNat ≤ frame.size ∧
        (decoded.bytesIn frame).length = decoded.payloadLen.toNat ∧
        ∀ (out : Buffer) (cells : List UInt8) (oldLen : Nat), out.cells = some cells →
          7 + decoded.payloadLen.toNat ≤ out.size →
          encodeFrame decoded.cmdId (.ofCells (decoded.bytesIn frame)) out (some oldLen) =
            ((some (((frame.bytes.take (7 + decoded.payloadLen.toNat)).set 3 0).set 4 0 ++
                cells.drop (7 + decoded.payloadLen.toNat)),
              some (7 + decoded.payloadLen.toNat)), .ok ())) := by
  refine ⟨?_, ?_, ?_⟩
  · intro cmdId payload out outLen encodable
    exact decodeFrame_encoded cmdId encodable
  · intro cmdId payload out outLen
    exact encodeFrame_of_not_encodable cmdId
  · intro frame old ok
    exact encodeFrame_decoded ok

end RmTest.Protocols.PcLink
