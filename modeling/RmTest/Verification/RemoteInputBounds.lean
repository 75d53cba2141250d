import RmTest.Modules.RemoteInputMemory
import RmTest.Verification.RemoteInputLines

/-! The remote input module on its plain arrays never leaves them: it does what the
module does whose binary buffer carries its bound, as long as the line so far leaves room
for its terminating zero, and a byte keeps it so. -/
namespace RmTest.Modules.RemoteInputMemory

open Channels Protocols RemoteInputModule CheckedArray

variable {F : Type}

/-- The plain variables of a module. -/
def ofModule (m : RemoteInputModule F) : RemoteInputMemory F where
  publishSequence := m.publishSequence
  latestInput := m.latestInput
  latestInputValid := m.latestInputValid
  lineBuf := m.lineBuf
  linePos := m.linePos
  binaryBuf := m.binaryBuf.data
  binaryLen := m.binaryBuf.len

/-- The line so far leaves a cell of the array for its terminating zero. -/
def LineFits (m : RemoteInputModule F) : Prop := m.linePos ≤ kLineBufSize - 1

theorem decodeRemoteFrame_eq [FloatModel F] (data : List UInt8) :
    decodeRemoteFrame (F := F) data data.length = some (Vt03.decodeRemoteFrame data) := by
  by_cases hShort : data.length < Vt03.kRemoteFrameLength
  · rw [decodeRemoteFrame, if_pos hShort, Vt03.decodeRemoteFrame, if_pos hShort]
  · have hLength : Vt03.kRemoteFrameLength = 21 := rfl
    have hLoad {i : Nat} (inside : i < 21) : load data i = some (data.getD i 0) :=
      load_eq data 0 (by omega)
    rw [decodeRemoteFrame, if_neg hShort, Vt03.decodeRemoteFrame, if_neg hShort,
      hLoad (i := 0) (by omega), hLoad (i := 1) (by omega), hLoad (i := 2) (by omega),
      hLoad (i := 3) (by omega), hLoad (i := 4) (by omega), hLoad (i := 5) (by omega),
      hLoad (i := 6) (by omega), hLoad (i := 7) (by omega), hLoad (i := 8) (by omega),
      hLoad (i := 9) (by omega)]
    by_cases hBegin : data.getD 0 0 ≠ 0xa9 ∨ data.getD 1 0 ≠ 0x53
    · rw [if_pos hBegin]
      exact if_pos hBegin
    · rw [if_neg hBegin]
      exact if_neg hBegin

theorem decodeCustomFrame_eq [FloatSource F] (data : List UInt8) :
    decodeCustomFrame (F := F) data data.length = some (Vt03.decodeCustomFrame data) := by
  by_cases hShort : data.length < Vt03.kCustomFrameLength
  · rw [decodeCustomFrame, if_pos hShort, Vt03.decodeCustomFrame, if_pos hShort]
  · have hLength : Vt03.kCustomFrameLength = 39 := rfl
    have hFloat {i : Nat} (inside : i + 4 ≤ 39) :
        readFloat (F := F) data i = some (copyFloat (data.drop i)) := if_pos (by omega)
    rw [decodeCustomFrame, if_neg hShort, Vt03.decodeCustomFrame, if_neg hShort,
      load_eq data 0 (by omega), load_eq data 0 (by omega), load_eq data 0 (by omega),
      hFloat (i := 24) (by omega), hFloat (i := 28) (by omega), hFloat (i := 32) (by omega)]
    by_cases hBegin : data.getD 0 0 ≠ 0xa5
    · rw [if_pos hBegin]
      exact if_pos hBegin
    · rw [if_neg hBegin]
      refine (if_neg hBegin).trans ?_
      by_cases hId : (data.getD 5 0).toNat ||| (data.getD 6 0).toNat <<< 8 ≠
          Vt03.kCustomControllerDataId
      · rw [if_pos hId]
        exact if_pos hId
      · rw [if_neg hId]
        exact if_neg hId

theorem decodeDr16Frame_eq [FloatModel F] (data : List UInt8) :
    decodeDr16Frame (F := F) data data.length = some (Dr16.decodeFrame data) := by
  by_cases hShort : data.length < Dr16.kFrameLength
  · rw [decodeDr16Frame, if_pos hShort, Dr16.decodeFrame, if_pos hShort]
  · have hLength : Dr16.kFrameLength = 18 := rfl
    have hLoad {i : Nat} (inside : i < 18) : load data i = some (data.getD i 0) :=
      load_eq data 0 (by omega)
    rw [decodeDr16Frame, if_neg hShort, Dr16.decodeFrame, if_neg hShort,
      hLoad (i := 0) (by omega), hLoad (i := 1) (by omega), hLoad (i := 2) (by omega),
      hLoad (i := 3) (by omega), hLoad (i := 4) (by omega), hLoad (i := 5) (by omega),
      hLoad (i := 16) (by omega), hLoad (i := 17) (by omega)]
    simp only [Option.bind_eq_bind, Option.bind_some]
    split_ifs <;> rfl

theorem consumeBinary_eq (m : RemoteInputModule F) (bytes : Nat) :
    (ofModule m).consumeBinary bytes = some (ofModule (m.consumeBinary bytes)) := by
  unfold consumeBinary RemoteInputModule.consumeBinary
  by_cases hNothing : bytes = 0 ∨ m.binaryBuf.len = 0
  · rw [if_pos hNothing]
    exact if_pos hNothing
  · rw [if_neg hNothing]
    refine (if_neg hNothing).trans ?_
    by_cases hAll : m.binaryBuf.len ≤ bytes
    · rw [SlidingBuffer.consume, if_pos hAll]
      exact if_pos hAll
    · have hMoved := memmove_consume m.binaryBuf hAll
      refine (if_neg hAll).trans ?_
      simp only [ofModule, hMoved, Option.bind_eq_bind, Option.bind_some]
      rw [SlidingBuffer.consume, if_neg hAll]
      rfl

theorem acceptBinary_eq (m : RemoteInputModule F) (input : RemoteInputMessage F) (length : Nat) :
    (ofModule m).acceptBinary input length =
      some (ofModule (m.acceptBinary input length).1, (m.acceptBinary input length).2) := by
  have hConsumed := consumeBinary_eq
    { m with
      publishSequence := m.publishSequence + 1
      latestInput := { input with sequence := m.publishSequence + 1 }
      latestInputValid := true } length
  exact congrArg (fun consumed : Option (RemoteInputMemory F) => consumed.bind fun next =>
    some (next, [{ input with sequence := m.publishSequence + 1 }])) hConsumed

theorem beginsRemoteFrame_eq (data : List UInt8) :
    beginsRemoteFrame data data.length = some (decide (Vt03.kRemoteFrameLength ≤ data.length ∧
      data.getD 0 0 = 0xa9 ∧ data.getD 1 0 = 0x53)) := by
  by_cases hLong : Vt03.kRemoteFrameLength ≤ data.length
  · have hLength : Vt03.kRemoteFrameLength = 21 := rfl
    rw [beginsRemoteFrame, if_pos hLong, load_eq data 0 (by omega), load_eq data 0 (by omega)]
    simp [hLong, Bool.decide_and, beq_eq_decide]
  · rw [beginsRemoteFrame, if_neg hLong]
    simp [hLong]

theorem tryCustomFrame_eq [FloatSource F] (data : List UInt8) :
    tryCustomFrame (F := F) data data.length =
      some (if Vt03.kCustomFrameLength ≤ data.length ∧ data.getD 0 0 = 0xa5 then
        Vt03.decodeCustomFrame data else none) := by
  by_cases hLong : Vt03.kCustomFrameLength ≤ data.length
  · have hLength : Vt03.kCustomFrameLength = 39 := rfl
    rw [tryCustomFrame, beginsCustomFrame, if_pos hLong, load_eq data 0 (by omega),
      decodeCustomFrame_eq]
    by_cases hBegin : data.getD 0 0 = 0xa5
    · rw [if_pos ⟨hLong, hBegin⟩]
      exact if_pos (beq_iff_eq.mpr hBegin)
    · rw [if_neg fun taken => hBegin taken.2]
      exact if_neg fun taken => hBegin (beq_iff_eq.mp taken)
  · rw [tryCustomFrame, beginsCustomFrame, if_neg hLong, if_neg fun taken => hLong taken.1]
    rfl

theorem tryDr16Frame_eq [FloatModel F] (data : List UInt8) :
    tryDr16Frame (F := F) data data.length =
      some (if Dr16.kFrameLength ≤ data.length then Dr16.decodeFrame data else none) := by
  rw [tryDr16Frame, decodeDr16Frame_eq, apply_ite some]

/-- A pass of the loop stays in what is in use of the array. -/
theorem tryDecodePass_eq [FloatSource F] (m : RemoteInputModule F) :
    (ofModule m).tryDecodePass =
      some (m.tryDecodePass.map fun pass => (ofModule pass.1, pass.2)) := by
  have hUsed : (ofModule m).used = m.binaryBuf.toList := rfl
  have hLen : (ofModule m).binaryLen = m.binaryBuf.toList.length :=
    (SlidingBuffer.length_toList _).symm
  unfold tryDecodePass RemoteInputModule.tryDecodePass
  rw [← SlidingBuffer.length_toList m.binaryBuf]
  simp only [hUsed, hLen, beginsRemoteFrame_eq, decodeRemoteFrame_eq, tryCustomFrame_eq,
    tryDr16Frame_eq, consumeBinary_eq, acceptBinary_eq, Option.bind_eq_bind, Option.bind_some,
    Option.map_some, decide_eq_true_eq]
  generalize m.binaryBuf.toList = data
  by_cases hEmpty : data.length = 0
  · rw [if_pos hEmpty, if_pos hEmpty, Option.map_none]
  rw [if_neg hEmpty, if_neg hEmpty]
  by_cases hRemote : Vt03.kRemoteFrameLength ≤ data.length ∧ data.getD 0 0 = 0xa9 ∧
      data.getD 1 0 = 0x53
  · rw [if_pos hRemote, if_pos hRemote]
    cases Vt03.decodeRemoteFrame (F := F) data <;> rfl
  rw [if_neg hRemote, if_neg hRemote]
  generalize (if Vt03.kCustomFrameLength ≤ data.length ∧ data.getD 0 0 = 0xa5 then
    Vt03.decodeCustomFrame (F := F) data else none) = custom
  generalize (if Dr16.kFrameLength ≤ data.length then
    Dr16.decodeFrame (F := F) data else none) = dr16
  cases custom with
  | some frame => rfl
  | none =>
      cases dr16 with
      | some frame => rfl
      | none =>
          by_cases hShort : data.length < Dr16.kFrameLength
          · rw [if_pos hShort, if_pos hShort, Option.map_none]
          · rw [if_neg hShort, if_neg hShort, Option.map_some]

theorem tryDecodeBinaryFrames_eq [FloatSource F] (m : RemoteInputModule F) :
    (ofModule m).tryDecodeBinaryFrames =
      some (ofModule (RemoteInputModule.tryDecodeBinaryFrames m).1,
        (RemoteInputModule.tryDecodeBinaryFrames m).2) :=
  Run.tryLoop_view ofModule tryDecodePass_eq m.binaryBuf.len m

theorem len_consumeBinary (m : RemoteInputModule F) (bytes : Nat) :
    (m.consumeBinary bytes).binaryBuf.len = m.binaryBuf.len - bytes := by
  rw [← SlidingBuffer.length_toList, toList_consumeBinary, List.length_drop,
    SlidingBuffer.length_toList]

/-- A pass that goes on has shortened the buffer, whichever branch it took. -/
theorem tryDecodePass_shortens [FloatSource F] {m next : RemoteInputModule F}
    {inputs : List (RemoteInputMessage F)} (pass : m.tryDecodePass = some (next, inputs)) :
    next.binaryBuf.len < m.binaryBuf.len := by
  have hSome : m.binaryBuf.len ≠ 0 := by
    intro hEmpty
    rw [RemoteInputModule.tryDecodePass, if_pos hEmpty] at pass
    cases pass
  rcases tryDecodePass_cases F m.binaryBuf with hEnd | hDrop | ⟨input, length, hPos, hAccept⟩
  · rw [hEnd m rfl] at pass
    cases pass
  · rw [hDrop m rfl] at pass
    obtain ⟨rfl, -⟩ := Prod.mk.inj (Option.some.inj pass)
    rw [len_consumeBinary]
    omega
  · rw [hAccept m rfl] at pass
    obtain ⟨rfl, -⟩ := Prod.mk.inj (Option.some.inj pass)
    have hLen := len_consumeBinary
      { m with
        publishSequence := m.publishSequence + 1
        latestInput := { input with sequence := m.publishSequence + 1 }
        latestInputValid := true } length
    exact hLen.trans_lt (Nat.sub_lt (Nat.pos_of_ne_zero hSome) hPos)

/-- The loop leaves through its own exit. -/
theorem tryDecodeBinaryFrames_ends [FloatSource F] (m : RemoteInputModule F) :
    (RemoteInputModule.tryDecodeBinaryFrames m).1.tryDecodePass = none :=
  Run.whileLoop_ends (fun m : RemoteInputModule F => m.binaryBuf.len) tryDecodePass_shortens
    m.binaryBuf.len m (Nat.le_refl _)

theorem parseLine_eq [FloatSource F] (m : RemoteInputMemory F) (line : List UInt8) :
    m.parseLine line = (parsedInput line).map fun input =>
      ({ m with publishSequence := m.publishSequence + 1 },
        { input with sequence := m.publishSequence + 1 }) := by
  rw [parseLine, RemoteInputModule.parseLine_eq]
  cases parsedInput (F := F) line <;> rfl

/-- The terminating zero is stored inside of the array, so that the line ends there. -/
theorem endLine_eq [FloatSource F] {m : RemoteInputModule F} (fits : LineFits m) :
    (ofModule m).endLine = some (ofModule m.endLine.1, m.endLine.2) := by
  have hCell : m.linePos < 96 := Nat.lt_succ_of_le fits
  have hStored := store_eq m.lineBuf hCell 0
  have hString := string_terminated m.lineBuf hCell
  by_cases hEmpty : 0 < m.linePos
  · cases hLine : parsedInput (F := F)
        ((m.lineBuf.setIfInBounds m.linePos 0).toList.takeWhile (· ≠ 0)) with
    | none =>
        simp only [endLine, RemoteInputModule.endLine, ofModule, hStored, hString, hEmpty, if_true,
          Option.bind_eq_bind, Option.bind_some, parseLine_eq, RemoteInputModule.parseLine_eq,
          lineString, hLine, Option.map_none]
        rfl
    | some input =>
        simp only [endLine, RemoteInputModule.endLine, ofModule, hStored, hString, hEmpty, if_true,
          Option.bind_eq_bind, Option.bind_some, parseLine_eq, RemoteInputModule.parseLine_eq,
          lineString, hLine, Option.map_some]
        rfl
  · simp only [endLine, RemoteInputModule.endLine, ofModule, hStored, hEmpty, if_false,
      Option.bind_eq_bind, Option.bind_some]
    rfl

theorem receiveText_eq [FloatSource F] {m : RemoteInputModule F} (fits : LineFits m)
    (byte : UInt8) :
    (ofModule m).receiveText byte =
      some (ofModule (m.receiveText byte).1, (m.receiveText byte).2) := by
  unfold receiveText RemoteInputModule.receiveText
  by_cases hReturn : byte = 0x0d
  · rw [if_pos hReturn, if_pos hReturn]
  rw [if_neg hReturn, if_neg hReturn]
  by_cases hFeed : byte = 0x0a
  · rw [if_pos hFeed, if_pos hFeed, endLine_eq fits]
  rw [if_neg hFeed, if_neg hFeed]
  by_cases hPrint : isPrint byte = false
  · rw [if_pos hPrint, if_pos hPrint]
  rw [if_neg hPrint, if_neg hPrint]
  by_cases hRoom : m.linePos < kLineBufSize - 1
  · have hStored := store_eq m.lineBuf (Nat.lt_succ_of_le fits) byte
    rw [if_pos hRoom]
    refine (if_pos hRoom).trans ?_
    simp only [show (ofModule m).lineBuf = m.lineBuf from rfl,
      show (ofModule m).linePos = m.linePos from rfl, hStored, Option.map_some]
    rfl
  · rw [if_neg hRoom]
    exact if_neg hRoom

theorem linePos_endLine [FloatSource F] (m : RemoteInputModule F) : m.endLine.1.linePos = 0 := by
  simp only [RemoteInputModule.endLine]
  split_ifs
  · split <;> rfl
  · rfl

/-- Every branch of the text path leaves room for the terminating zero. -/
theorem LineFits.receiveText [FloatSource F] {m : RemoteInputModule F} (fits : LineFits m)
    (byte : UInt8) : LineFits (m.receiveText byte).1 := by
  unfold RemoteInputModule.receiveText
  split_ifs with hReturn hFeed hPrint hRoom
  · exact fits
  · rw [LineFits, linePos_endLine]
    exact Nat.zero_le _
  · exact fits
  · exact hRoom
  · exact Nat.zero_le _

theorem appendBinary_eq (m : RemoteInputModule F) (byte : UInt8) :
    (ofModule m).appendBinary byte = some (ofModule (m.appendBinary byte)) := by
  unfold appendBinary
  by_cases hRoom : m.binaryBuf.len < 256
  · have hStored := store_push m.binaryBuf byte hRoom
    refine (if_pos hRoom).trans ?_
    simp only [ofModule, hStored, Option.bind_eq_bind, Option.bind_some,
      RemoteInputModule.appendBinary]
    rw [SlidingBuffer.push, dif_pos hRoom]
    rfl
  · have hMoved := memmove_push m.binaryBuf byte (by decide) hRoom
    refine (if_neg hRoom).trans ((Option.bind_assoc _ _ _).symm.trans ?_)
    refine (congrArg (fun stored : Option (Vector UInt8 256) =>
      stored.bind fun buf => some { ofModule m with binaryBuf := buf }) hMoved).trans ?_
    rw [Option.bind_some, RemoteInputModule.appendBinary, SlidingBuffer.push, dif_neg hRoom]
    rfl

/-- The decoder leaves the line alone. -/
theorem LineFits.decoded [FloatSource F] {m : RemoteInputModule F} (fits : LineFits m)
    (byte : UInt8) :
    LineFits (RemoteInputModule.tryDecodeBinaryFrames (m.appendBinary byte)).1 := by
  obtain ⟨-, hPos⟩ := Prod.mk.inj (line_tryDecodeBinaryFrames (m.appendBinary byte))
  rw [LineFits, hPos]
  exact fits

/-- A byte stays in both arrays and leaves room for the terminating zero. -/
theorem receiveByte_eq [FloatSource F] (m : RemoteInputModule F) (byte : UInt8)
    (fits : LineFits m) :
    (ofModule m).receiveByte byte =
        some (ofModule (m.receiveByte byte).1, (m.receiveByte byte).2) ∧
      LineFits (m.receiveByte byte).1 := by
  refine ⟨?_, (fits.decoded byte).receiveText byte⟩
  simp only [receiveByte, appendBinary_eq, tryDecodeBinaryFrames_eq,
    receiveText_eq (fits.decoded byte), Option.bind_eq_bind, Option.bind_some]
  rfl

theorem receiveBytes_eq [FloatSource F] (m : RemoteInputModule F) (bytes : List UInt8)
    (fits : LineFits m) :
    (ofModule m).receiveBytes bytes =
        some (ofModule (m.receiveBytes bytes).1, (m.receiveBytes bytes).2) ∧
      LineFits (m.receiveBytes bytes).1 :=
  Run.tryTransduce_view ofModule receiveByte_eq bytes fits

theorem decodeUartFramesInQueue_eq [FloatSource F] (m : RemoteInputModule F)
    (frames : List UartRawFrameMessage) (fits : LineFits m) :
    (ofModule m).decodeUartFramesInQueue frames =
        some (ofModule (m.decodeUartFramesInQueue frames).1,
          (m.decodeUartFramesInQueue frames).2) ∧
      LineFits (m.decodeUartFramesInQueue frames).1 :=
  Run.tryTransduce_view ofModule (fun m frame fits => receiveBytes_eq m frame.bytes fits) frames
    fits

/-- A tick of the module, without the commands. -/
def inputTick [FloatSource F] (m : RemoteInputModule F) (frames : List UartRawFrameMessage) :
    RemoteInputModule F × List (InputPublication F) :=
  ((m.runLoopTick frames).1, (m.runLoopTick frames).2.1)

theorem runLoopTick_eq [FloatSource F] (m : RemoteInputModule F)
    (frames : List UartRawFrameMessage) (fits : LineFits m) :
    (ofModule m).runLoopTick frames =
        some (ofModule (inputTick m frames).1, (inputTick m frames).2) ∧
      LineFits (inputTick m frames).1 := by
  obtain ⟨hQueue, hFits⟩ := decodeUartFramesInQueue_eq m frames fits
  refine ⟨?_, hFits⟩
  rw [runLoopTick, hQueue, Option.bind_eq_bind, Option.bind_some]
  rfl

/-- Where a run is after some ticks, the first messages of the next tick and the first
bytes of its next message. -/
def reached (F : Type) [FloatSource F] (ticks : List (List UartRawFrameMessage))
    (frames : List UartRawFrameMessage) (bytes : List UInt8) : Option (RemoteInputMemory F) := do
  let m ← (zeroed F).initialized
  let (m, _) ← Run.tryTransduce runLoopTick m ticks
  let (m, _) ← m.decodeUartFramesInQueue frames
  let (m, _) ← m.receiveBytes bytes
  return m

theorem reached_eq (F : Type) [FloatSource F] (ticks : List (List UartRawFrameMessage))
    (frames : List UartRawFrameMessage) (bytes : List UInt8) :
    ∃ m : RemoteInputModule F, reached F ticks frames bytes = some (ofModule m) ∧ LineFits m := by
  have hStart : (zeroed F).initialized = some (ofModule (RemoteInputModule.zeroed F).initialized) :=
    rfl
  have hFits : LineFits (RemoteInputModule.zeroed F).initialized := Nat.zero_le _
  obtain ⟨hTicks, hFits⟩ := Run.tryTransduce_view ofModule runLoopTick_eq ticks hFits
  obtain ⟨hFrames, hFits⟩ := decodeUartFramesInQueue_eq _ frames hFits
  obtain ⟨hBytes, hFits⟩ := receiveBytes_eq _ bytes hFits
  refine ⟨_, ?_, hFits⟩
  simp only [reached, hStart, hTicks, hFrames, hBytes, Option.bind_eq_bind, Option.bind_some]
  rfl

/-- Wherever a run is, the next byte is taken without an access outside of the arrays, the
decode loop comes to its own end, and both lengths stay within their arrays. -/
theorem buffers_stay_in_bounds [FloatSource F] (ticks : List (List UartRawFrameMessage))
    (frames : List UartRawFrameMessage) (bytes : List UInt8) (byte : UInt8) :
    ∃ before appended decoded after : RemoteInputMemory F, ∃ inputs published,
      reached F ticks frames bytes = some before ∧
      before.appendBinary byte = some appended ∧
      appended.tryDecodeBinaryFrames = some (decoded, inputs) ∧
      decoded.tryDecodePass = some none ∧
      before.receiveByte byte = some (after, published) ∧
      after.linePos ≤ kLineBufSize - 1 ∧ after.binaryLen ≤ kBinaryBufSize := by
  obtain ⟨m, hReached, hFits⟩ := reached_eq F ticks frames bytes
  obtain ⟨hByte, hAfter⟩ := receiveByte_eq m byte hFits
  have hEnds := tryDecodeBinaryFrames_ends (m.appendBinary byte)
  refine ⟨_, _, _, _, _, _, hReached, appendBinary_eq m byte, tryDecodeBinaryFrames_eq _, ?_, hByte,
    hAfter, (m.receiveByte byte).1.binaryBuf.len_le⟩
  rw [tryDecodePass_eq, hEnds, Option.map_none]

end RmTest.Modules.RemoteInputMemory
