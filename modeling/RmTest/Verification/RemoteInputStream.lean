import RmTest.Modules.RemoteInput

/-! What the binary decoder of the remote input module makes of a byte stream.
Since it runs after every byte and a DR16 frame is the shortest one, the buffer
never holds more than 18 bytes; there the loop is the sliding DR16 window, and
the branches for the longer VT03 frames are out of reach. -/
namespace RmTest.Modules.RemoteInputModule

open Channels Protocols FloatModel

variable {F : Type} [FloatSource F]

/-- Between two bytes the binary buffer is shorter than a DR16 frame. -/
def Settled (m : RemoteInputModule F) : Prop := m.binaryBuf.len < Dr16.kFrameLength

/-- The messages that `TryDecodeBinaryFrames` published, without their numbers. -/
def binaryInputs (published : List (InputPublication F)) : List (RemoteInputMessage F) :=
  (published.filter (·.site = .binaryFrame)).map (·.input.unsequenced)

omit [FloatSource F] in
@[simp] theorem binaryInputs_append (first later : List (InputPublication F)) :
    binaryInputs (first ++ later) = binaryInputs first ++ binaryInputs later := by
  simp [binaryInputs]

omit [FloatSource F] in
@[simp] theorem binaryInputs_binaryFrame (inputs : List (RemoteInputMessage F)) :
    binaryInputs (inputs.map (⟨.binaryFrame, ·⟩)) = inputs.map (·.unsequenced) := by
  simp [binaryInputs, List.filter_map, Function.comp_def]

omit [FloatSource F] in
@[simp] theorem binaryInputs_textLine (inputs : List (RemoteInputMessage F)) :
    binaryInputs (inputs.map (⟨.textLine, ·⟩)) = [] := by
  simp [binaryInputs, List.filter_map, Function.comp_def]

omit [FloatSource F] in
theorem toList_consumeBinary (m : RemoteInputModule F) (bytes : Nat) :
    (m.consumeBinary bytes).binaryBuf.toList = m.binaryBuf.toList.drop bytes := by
  unfold consumeBinary
  split_ifs with h
  · rcases h with rfl | hEmpty
    · simp
    · have hNil : m.binaryBuf.toList = [] := by
        rw [← List.length_eq_zero_iff, SlidingBuffer.length_toList, hEmpty]
      simp [hNil]
  · simp

omit [FloatSource F] in
theorem toList_acceptBinary (m : RemoteInputModule F) (input : RemoteInputMessage F)
    (length : Nat) :
    (m.acceptBinary input length).1.binaryBuf.toList = m.binaryBuf.toList.drop length :=
  toList_consumeBinary _ length

/-- With at most 18 bytes in the buffer only the DR16 branch can act. -/
theorem tryDecodePass_of_le (m : RemoteInputModule F)
    (small : m.binaryBuf.len ≤ Dr16.kFrameLength) :
    tryDecodePass m =
      if m.binaryBuf.len < Dr16.kFrameLength then none
      else
        match Dr16.decodeFrame m.binaryBuf.toList with
        | some frame => some (m.acceptBinary (dr16Input frame) Dr16.kFrameLength)
        | none => some (m.consumeBinary 1, []) := by
  have hRemote : ¬ Vt03.kRemoteFrameLength ≤ m.binaryBuf.len := by
    simp only [Vt03.kRemoteFrameLength, Dr16.kFrameLength] at *; omega
  have hCustom : ¬ Vt03.kCustomFrameLength ≤ m.binaryBuf.len := by
    simp only [Vt03.kCustomFrameLength, Dr16.kFrameLength] at *; omega
  by_cases hShort : m.binaryBuf.len < Dr16.kFrameLength
  · have hLong : ¬ Dr16.kFrameLength ≤ m.binaryBuf.len := by omega
    simp [tryDecodePass, hRemote, hCustom, hShort, hLong]
  · have hLong : Dr16.kFrameLength ≤ m.binaryBuf.len := by omega
    have hSome : m.binaryBuf.len ≠ 0 := by simp only [Dr16.kFrameLength] at hLong; omega
    cases hFrame : Dr16.decodeFrame (F := F) m.binaryBuf.toList with
    | none => simp [tryDecodePass, hRemote, hCustom, hShort, hLong, hSome, hFrame]
    | some frame => simp [tryDecodePass, hRemote, hCustom, hShort, hLong, hSome, hFrame]

/-- The module's buffer and the bytes the sliding window has not yet passed. -/
def Buffers (m : RemoteInputModule F) (bytes : List UInt8) : Prop :=
  m.binaryBuf.toList = bytes ∧ m.binaryBuf.len ≤ Dr16.kFrameLength

theorem tryDecodePass_ends {m : RemoteInputModule F} {bytes : List UInt8}
    (hBuffers : Buffers m bytes) (hWait : (Dr16.slidingParser F).pass bytes = none) :
    tryDecodePass m = none := by
  obtain ⟨rfl, hSmall⟩ := hBuffers
  rw [tryDecodePass_of_le m hSmall]
  by_cases hShort : m.binaryBuf.len < Dr16.kFrameLength
  · rw [if_pos hShort]
  · cases hFrame : Dr16.decodeFrame (F := F) m.binaryBuf.toList <;>
      simp [StreamParser.pass, Dr16.slidingParser, StreamParser.window, hShort,
        Dr16.decodeFrame_take, hFrame] at hWait

theorem tryDecodePass_passes {m : RemoteInputModule F} {bytes next : List UInt8}
    {frames : List (Dr16.Dr16Frame F)} (hBuffers : Buffers m bytes)
    (hPass : (Dr16.slidingParser F).pass bytes = some (next, frames)) :
    ∃ m' inputs, tryDecodePass m = some (m', inputs) ∧ Buffers m' next ∧
      inputs.map (·.unsequenced) = frames.map dr16Input := by
  have hShrinks := StreamParser.pass_shrinks _ hPass
  obtain ⟨rfl, hSmall⟩ := hBuffers
  rw [SlidingBuffer.length_toList] at hShrinks
  have hNext (m' : RemoteInputModule F) (h : m'.binaryBuf.toList = next) : Buffers m' next := by
    refine ⟨h, ?_⟩
    rw [← SlidingBuffer.length_toList, h]
    omega
  rw [tryDecodePass_of_le m hSmall]
  by_cases hShort : m.binaryBuf.len < Dr16.kFrameLength
  · simp [StreamParser.pass, Dr16.slidingParser, StreamParser.window, hShort] at hPass
  · rw [if_neg hShort]
    cases hFrame : Dr16.decodeFrame (F := F) m.binaryBuf.toList with
    | none =>
        simp only [StreamParser.pass, Dr16.slidingParser, StreamParser.window, hShort,
          SlidingBuffer.length_toList, Dr16.decodeFrame_take, hFrame, if_false, Option.map_some,
          Option.some.injEq, Prod.mk.injEq] at hPass
        obtain ⟨hBytes, rfl⟩ := hPass
        exact ⟨_, _, rfl, hNext _ ((toList_consumeBinary m 1).trans hBytes), rfl⟩
    | some frame =>
        simp only [StreamParser.pass, Dr16.slidingParser, StreamParser.window, hShort,
          SlidingBuffer.length_toList, Dr16.decodeFrame_take, hFrame, if_false, Option.map_some,
          Option.some.injEq, Prod.mk.injEq] at hPass
        obtain ⟨hBytes, rfl⟩ := hPass
        exact ⟨_, _, rfl, hNext _ ((toList_acceptBinary m (dr16Input frame) _).trans hBytes), rfl⟩

/-- The loop over the buffer is the sliding DR16 window over the buffer's bytes:
they leave the same bytes, and the messages are those of the accepted windows. -/
theorem tryDecodeBinaryFrames_drain (m : RemoteInputModule F)
    (small : m.binaryBuf.len ≤ Dr16.kFrameLength) :
    (tryDecodeBinaryFrames m).1.binaryBuf.toList =
        ((Dr16.slidingParser F).drain m.binaryBuf.toList).1 ∧
      (tryDecodeBinaryFrames m).2.map (·.unsequenced) =
        ((Dr16.slidingParser F).drain m.binaryBuf.toList).2.map dr16Input := by
  obtain ⟨hBuffers, hInputs⟩ := Run.whileLoop_simulates Buffers (·.unsequenced) dr16Input
    tryDecodePass_ends tryDecodePass_passes m.binaryBuf.len ⟨rfl, small⟩
  unfold tryDecodeBinaryFrames StreamParser.drain
  rw [SlidingBuffer.length_toList]
  exact ⟨hBuffers.1, hInputs⟩

/-- A published message becomes the latest input. -/
def keepLatest (_ : RemoteInputMessage F × Bool) (input : RemoteInputMessage F) :
    RemoteInputMessage F × Bool :=
  (input, true)

def latest (m : RemoteInputModule F) : RemoteInputMessage F × Bool :=
  (m.latestInput, m.latestInputValid)

/-- What a pass does is decided by the buffer alone: it ends the loop, drops a
byte, or accepts a frame as a message. -/
theorem tryDecodePass_cases (F : Type) [FloatSource F] (buffer : SlidingBuffer UInt8 256) :
    (∀ m : RemoteInputModule F, m.binaryBuf = buffer → tryDecodePass m = none) ∨
    (∀ m : RemoteInputModule F, m.binaryBuf = buffer →
      tryDecodePass m = some (m.consumeBinary 1, [])) ∨
    ∃ input length, 0 < length ∧ ∀ m : RemoteInputModule F, m.binaryBuf = buffer →
      tryDecodePass m = some (m.acceptBinary input length) := by
  by_cases hEmpty : buffer.len = 0
  · left
    rintro m rfl
    simp only [tryDecodePass, hEmpty, if_true]
  by_cases hRemote : Vt03.kRemoteFrameLength ≤ buffer.len ∧ buffer.toList.getD 0 0 = 0xa9 ∧
      buffer.toList.getD 1 0 = 0x53
  · cases hFrame : Vt03.decodeRemoteFrame (F := F) buffer.toList with
    | none =>
        refine .inr (.inl ?_)
        rintro m rfl
        simp only [tryDecodePass, hEmpty, hRemote, hFrame, and_self, if_false, if_true]
    | some frame =>
        refine .inr (.inr ⟨vt03Input frame, Vt03.kRemoteFrameLength, by decide, ?_⟩)
        rintro m rfl
        simp only [tryDecodePass, hEmpty, hRemote, hFrame, and_self, if_false, if_true]
  cases hCustom : if Vt03.kCustomFrameLength ≤ buffer.len ∧ buffer.toList.getD 0 0 = 0xa5 then
      Vt03.decodeCustomFrame (F := F) buffer.toList else none with
  | some frame =>
      refine .inr (.inr ⟨customInput frame, Vt03.kCustomFrameLength, by decide, ?_⟩)
      rintro m rfl
      simp only [tryDecodePass, hEmpty, hRemote, hCustom, if_false]
  | none =>
      cases hDr16 : if Dr16.kFrameLength ≤ buffer.len then
          Dr16.decodeFrame (F := F) buffer.toList else none with
      | some frame =>
          refine .inr (.inr ⟨dr16Input frame, Dr16.kFrameLength, by decide, ?_⟩)
          rintro m rfl
          simp only [tryDecodePass, hEmpty, hRemote, hCustom, hDr16, if_false]
      | none =>
          by_cases hShort : buffer.len < Dr16.kFrameLength
          · left
            rintro m rfl
            simp only [tryDecodePass, hEmpty, hRemote, hCustom, hDr16, hShort, if_false, if_true]
          · refine .inr (.inl ?_)
            rintro m rfl
            simp only [tryDecodePass, hEmpty, hRemote, hCustom, hDr16, hShort, if_false]

/-- What `ParseLine` makes of a line, before the message is numbered. -/
def parsedInput (line : List UInt8) : Option (RemoteInputMessage F) :=
  ((zeroed F).parseLine line).map (·.2.unsequenced)

theorem parseLine_eq (m : RemoteInputModule F) (line : List UInt8) :
    m.parseLine line = (parsedInput line).map fun input =>
      ({ m with publishSequence := m.publishSequence + 1 },
        { input with sequence := m.publishSequence + 1 }) := by
  unfold parsedInput parseLine
  rcases scanLine (F := F) line with _ | ⟨type, a, b, c, en⟩
  · rfl
  · by_cases hDr16 : type = dr16Word
    · simp [hDr16, RemoteInputMessage.unsequenced]
    · by_cases hVt03 : type = vt03Word
      · have hWords : vt03Word ≠ dr16Word := by decide
        simp [hVt03, hWords, RemoteInputMessage.unsequenced]
      · simp [hDr16, hVt03]

theorem parsedInput_unsequenced {line : List UInt8} {input : RemoteInputMessage F}
    (hParsed : parsedInput line = some input) : input.unsequenced = input := by
  obtain ⟨result, _, rfl⟩ := Option.map_eq_some_iff.mp hParsed
  rfl

/-- The module after the text path accepted a line as `input`. -/
def acceptText (m : RemoteInputModule F) (input : RemoteInputMessage F) :
    RemoteInputModule F × List (RemoteInputMessage F) :=
  let sequence := m.publishSequence + 1
  let input := { input with sequence := sequence }
  ({ m with publishSequence := sequence, latestInput := input, latestInputValid := true }, [input])

/-- What the text path does with a byte is decided by the line so far alone: it
rewrites the line, and it may accept one. -/
theorem receiveText_cases (F : Type) [FloatSource F] (lineBuf : Vector UInt8 96) (linePos : Nat)
    (byte : UInt8) :
    ∃ lineBuf' linePos',
      (∀ m : RemoteInputModule F, m.lineBuf = lineBuf → m.linePos = linePos →
        m.receiveText byte = ({ m with lineBuf := lineBuf', linePos := linePos' }, [])) ∨
      ∃ line input, parsedInput line = some input ∧
        ∀ m : RemoteInputModule F, m.lineBuf = lineBuf → m.linePos = linePos →
          m.receiveText byte =
            acceptText { m with lineBuf := lineBuf', linePos := linePos' } input := by
  by_cases hReturn : byte = 0x0d
  · refine ⟨lineBuf, linePos, .inl ?_⟩
    rintro m rfl rfl
    rw [receiveText, if_pos hReturn]
  by_cases hFeed : byte = 0x0a
  · have hEnd (m : RemoteInputModule F) : m.receiveText byte = m.endLine := by
      rw [receiveText, if_neg hReturn, if_pos hFeed]
    refine ⟨(lineBuf.setIfInBounds linePos 0).set 0 0, 0, ?_⟩
    by_cases hEmpty : 0 < linePos
    · cases hLine : parsedInput (F := F)
          ((lineBuf.setIfInBounds linePos 0).toList.takeWhile (· ≠ 0)) with
      | none =>
          left
          rintro m rfl rfl
          simp only [hEnd, endLine, hEmpty, parseLine_eq, lineString, hLine, resetLine, if_true,
            Option.map_none]
      | some input =>
          refine .inr ⟨_, input, hLine, ?_⟩
          rintro m rfl rfl
          simp only [hEnd, endLine, hEmpty, parseLine_eq, lineString, hLine, resetLine, acceptText,
            if_true, Option.map_some]
    · left
      rintro m rfl rfl
      simp only [hEnd, endLine, hEmpty, resetLine, if_false]
  by_cases hPrint : isPrint byte = false
  · refine ⟨lineBuf, linePos, .inl ?_⟩
    rintro m rfl rfl
    rw [receiveText, if_neg hReturn, if_neg hFeed, if_pos hPrint]
  by_cases hRoom : linePos < kLineBufSize - 1
  · refine ⟨lineBuf.setIfInBounds linePos byte, linePos + 1, .inl ?_⟩
    rintro m rfl rfl
    rw [receiveText, if_neg hReturn, if_neg hFeed, if_neg hPrint, if_pos hRoom]
  · refine ⟨lineBuf.set 0 0, 0, .inl ?_⟩
    rintro m rfl rfl
    rw [receiveText, if_neg hReturn, if_neg hFeed, if_neg hPrint, if_neg hRoom, resetLine]

/-- What is seen of the module follows the inputs it publishes: the buffers are not seen,
and all branches that accept an input do the same to what is seen. -/
structure Absorbs {Seen : Type} (view : RemoteInputModule F → Seen)
    (absorb : Seen → RemoteInputMessage F → Seen) : Prop where
  append : ∀ m byte, view (m.appendBinary byte) = view m
  consume : ∀ (m : RemoteInputModule F) bytes, view (m.consumeBinary bytes) = view m
  line : ∀ (m : RemoteInputModule F) lineBuf linePos,
    view { m with lineBuf := lineBuf, linePos := linePos } = view m
  accept : ∀ (m : RemoteInputModule F) input,
    view (m.acceptText input).1 = (m.acceptText input).2.foldl absorb (view m)

section Absorbs

variable {Seen : Type} {view : RemoteInputModule F → Seen}
  {absorb : Seen → RemoteInputMessage F → Seen}

theorem Absorbs.tryDecodePass (absorbs : Absorbs view absorb) {m m' : RemoteInputModule F}
    {inputs : List (RemoteInputMessage F)}
    (hPass : RemoteInputModule.tryDecodePass m = some (m', inputs)) :
    view m' = inputs.foldl absorb (view m) := by
  rcases tryDecodePass_cases F m.binaryBuf with hEnd | hDrop | ⟨input, length, -, hAccept⟩
  · rw [hEnd m rfl] at hPass
    cases hPass
  · rw [hDrop m rfl] at hPass
    cases hPass
    exact absorbs.consume m 1
  · rw [hAccept m rfl] at hPass
    cases hPass
    exact (absorbs.consume _ length).trans (absorbs.accept m input)

theorem Absorbs.tryDecodeBinaryFrames (absorbs : Absorbs view absorb) (m : RemoteInputModule F) :
    view (RemoteInputModule.tryDecodeBinaryFrames m).1 =
      (RemoteInputModule.tryDecodeBinaryFrames m).2.foldl absorb (view m) :=
  Run.whileLoop_foldl view absorb absorbs.tryDecodePass _ m

theorem Absorbs.receiveText (absorbs : Absorbs view absorb) (m : RemoteInputModule F)
    (byte : UInt8) :
    view (m.receiveText byte).1 = (m.receiveText byte).2.foldl absorb (view m) := by
  obtain ⟨lineBuf, linePos, hQuiet | ⟨_, input, _, hAccept⟩⟩ :=
    receiveText_cases F m.lineBuf m.linePos byte
  · rw [hQuiet m rfl rfl]
    exact absorbs.line m lineBuf linePos
  · rw [hAccept m rfl rfl, absorbs.accept, absorbs.line]

theorem Absorbs.receiveByte (absorbs : Absorbs view absorb) (m : RemoteInputModule F)
    (byte : UInt8) :
    view (m.receiveByte byte).1 =
      (m.receiveByte byte).2.foldl (fun seen published => absorb seen published.input)
        (view m) := by
  simp only [RemoteInputModule.receiveByte, List.foldl_append, List.foldl_map]
  rw [absorbs.receiveText, absorbs.tryDecodeBinaryFrames, absorbs.append]

theorem Absorbs.receiveBytes (absorbs : Absorbs view absorb) (m : RemoteInputModule F)
    (bytes : List UInt8) :
    view (m.receiveBytes bytes).1 =
      (m.receiveBytes bytes).2.foldl (fun seen published => absorb seen published.input)
        (view m) :=
  Run.transduce_foldl view _ absorbs.receiveByte m bytes

end Absorbs

omit [FloatSource F] in
/-- All branches that publish an input store it, and nothing else is stored. -/
theorem absorbs_latest : Absorbs (F := F) latest keepLatest where
  append _ _ := rfl
  consume m bytes := by
    unfold consumeBinary
    split_ifs <;> rfl
  line _ _ _ := rfl
  accept _ _ := rfl

/-- The text path leaves the binary buffer alone. -/
theorem receiveText_binaryBuf (m : RemoteInputModule F) (byte : UInt8) :
    (m.receiveText byte).1.binaryBuf = m.binaryBuf := by
  obtain ⟨_, _, hQuiet | ⟨_, _, _, hAccept⟩⟩ := receiveText_cases F m.lineBuf m.linePos byte
  · rw [hQuiet m rfl rfl]
  · rw [hAccept m rfl rfl]
    rfl

/-- The text path publishes only what `ParseLine` returned. -/
theorem receiveText_parsed (m : RemoteInputModule F) (byte : UInt8) :
    ∀ input ∈ (m.receiveText byte).2, ∃ line, parsedInput line = some input.unsequenced := by
  intro input hInput
  obtain ⟨_, _, hQuiet | ⟨line, parsed, hParsed, hAccept⟩⟩ :=
    receiveText_cases F m.lineBuf m.linePos byte
  · rw [hQuiet m rfl rfl] at hInput
    cases hInput
  · rw [hAccept m rfl rfl] at hInput
    rw [List.mem_singleton.mp hInput]
    exact ⟨line, by rw [hParsed, ← parsedInput_unsequenced hParsed]; rfl⟩

/-- The decoder's run after a byte, seen by the sliding window. -/
theorem tryDecodeBinaryFrames_appendBinary (m : RemoteInputModule F) (settled : m.Settled)
    (byte : UInt8) :
    (tryDecodeBinaryFrames (m.appendBinary byte)).1.binaryBuf.toList =
        ((Dr16.slidingParser F).drain (m.binaryBuf.toList ++ [byte])).1 ∧
      (tryDecodeBinaryFrames (m.appendBinary byte)).2.map (·.unsequenced) =
        ((Dr16.slidingParser F).drain (m.binaryBuf.toList ++ [byte])).2.map dr16Input := by
  have hRoom : m.binaryBuf.len < 256 := Nat.lt_trans settled (by decide)
  have hPush : (m.appendBinary byte).binaryBuf.toList = m.binaryBuf.toList ++ [byte] :=
    SlidingBuffer.toList_push m.binaryBuf byte hRoom
  rw [← hPush]
  apply tryDecodeBinaryFrames_drain
  rw [← SlidingBuffer.length_toList, hPush, List.length_append, SlidingBuffer.length_toList]
  exact settled

/-- One received byte, seen by the sliding window. -/
theorem receiveByte_drain (m : RemoteInputModule F) (settled : m.Settled) (byte : UInt8) :
    (m.receiveByte byte).1.binaryBuf.toList =
        ((Dr16.slidingParser F).drain (m.binaryBuf.toList ++ [byte])).1 ∧
      binaryInputs (m.receiveByte byte).2 =
        ((Dr16.slidingParser F).drain (m.binaryBuf.toList ++ [byte])).2.map dr16Input := by
  simp only [receiveByte, receiveText_binaryBuf, binaryInputs_append, binaryInputs_binaryFrame,
    binaryInputs_textLine, List.append_nil]
  exact tryDecodeBinaryFrames_appendBinary m settled byte

/-- A drained window parser waits for more than it holds. -/
theorem receiveByte_settled (m : RemoteInputModule F) (settled : m.Settled) (byte : UInt8) :
    (m.receiveByte byte).1.Settled := by
  have hWait := (Dr16.slidingParser F).step_drain (m.binaryBuf.toList ++ [byte])
  rw [← (receiveByte_drain m settled byte).1] at hWait
  by_contra hLong
  unfold Settled at hLong
  simp only [Dr16.slidingParser, StreamParser.window, SlidingBuffer.length_toList, hLong,
    if_false] at hWait
  split at hWait <;> cases hWait

theorem receiveBytes_settled (m : RemoteInputModule F) (settled : m.Settled) (bytes : List UInt8) :
    (m.receiveBytes bytes).1.Settled := by
  unfold receiveBytes
  induction bytes generalizing m with
  | nil => exact settled
  | cons byte rest ih => exact ih _ (receiveByte_settled m settled byte)

/-- Every stream, from every settled state: the bytes that stay in the binary
buffer and the messages that the binary decoder publishes are those of the
sliding DR16 window over what was buffered and what arrives. -/
theorem receiveBytes_drain (m : RemoteInputModule F) (settled : m.Settled) (bytes : List UInt8) :
    (m.receiveBytes bytes).1.binaryBuf.toList =
        ((Dr16.slidingParser F).drain (m.binaryBuf.toList ++ bytes)).1 ∧
      binaryInputs (m.receiveBytes bytes).2 =
        ((Dr16.slidingParser F).drain (m.binaryBuf.toList ++ bytes)).2.map dr16Input := by
  unfold receiveBytes
  induction bytes generalizing m with
  | nil =>
      have hShort : m.binaryBuf.len < Dr16.kFrameLength := settled
      have hWait : (Dr16.slidingParser F).step m.binaryBuf.toList = none := by
        simp [Dr16.slidingParser, StreamParser.window, hShort]
      rw [List.append_nil, StreamParser.drain_wait _ hWait]
      exact ⟨rfl, rfl⟩
  | cons byte rest ih =>
      obtain ⟨hBuffer, hInputs⟩ := receiveByte_drain m settled byte
      obtain ⟨hBuffers, hRest⟩ := ih (m.receiveByte byte).1 (receiveByte_settled m settled byte)
      rw [← List.singleton_append, ← List.append_assoc, StreamParser.drain_append, ← hBuffer]
      refine ⟨hBuffers, ?_⟩
      rw [List.singleton_append, Run.transduce, binaryInputs_append, hInputs, hRest,
        List.map_append]

/-- How the stream is cut into chunks is invisible. -/
theorem decodeUartFramesInQueue_eq (m : RemoteInputModule F) (frames : List UartRawFrameMessage) :
    m.decodeUartFramesInQueue frames = m.receiveBytes (streamOf frames) := by
  rw [decodeUartFramesInQueue, receiveBytes, streamOf, ← Run.transduce_batches, ← Run.transduce_map]
  rfl

omit [FloatSource F] in
theorem initialized_settled [FloatModel F] (m : RemoteInputModule F) : m.initialized.Settled := by
  simp [Settled, initialized, SlidingBuffer.clear, Dr16.kFrameLength]

/-- From `Initialize` on, the binary decoder is the sliding DR16 window. -/
theorem binaryInputs_initialized (m : RemoteInputModule F) (frames : List UartRawFrameMessage) :
    (m.initialized.decodeUartFramesInQueue frames).1.binaryBuf.toList =
        ((Dr16.slidingParser F).drain (streamOf frames)).1 ∧
      binaryInputs (m.initialized.decodeUartFramesInQueue frames).2 =
        ((Dr16.slidingParser F).drain (streamOf frames)).2.map dr16Input := by
  have hStream := receiveBytes_drain m.initialized m.initialized_settled (streamOf frames)
  have hEmpty : m.initialized.binaryBuf.toList = [] := by simp [initialized]
  rw [decodeUartFramesInQueue_eq]
  rwa [hEmpty, List.nil_append] at hStream

end RmTest.Modules.RemoteInputModule
