import RmTest.Platform.RefereeMemory
import RmTest.Verification.RefereeFrames

/-! The client on its plain array never leaves it: it does what the client does whose
buffer carries its bound. -/
namespace RmTest.Platform.RefereeMemory

open Channels Protocols RefereeClient CheckedArray

variable {F : Type}

/-- The plain variables of a client. -/
def ofClient (c : RefereeClient F) : RefereeMemory F where
  streamBuf := c.streamBuf.data
  streamLen := c.streamBuf.len
  state := c.state
  isInitialized := c.isInitialized

theorem readLe16_eq {cells : List UInt8} {i : Nat} (inside : i + 2 ≤ cells.length) :
    readLe16 cells i = some (RefereeClient.readLe16 (cells.drop i)) := by
  rw [readLe16, load_eq cells 0 (by omega), load_eq cells 0 (by omega)]
  simp [RefereeClient.readLe16, List.getD_eq_getElem?_getD]

/-- The parsers of the payload stay in it. -/
theorem parseRobotStatus_eq (state : RefereeStateMessage F) (data : List UInt8) :
    parseRobotStatus state data data.length =
      some (RefereeClient.parseRobotStatus state data data.length) := by
  by_cases hShort : data.length < 13
  · rw [parseRobotStatus, if_pos hShort, RefereeClient.parseRobotStatus, if_pos hShort]
  · rw [parseRobotStatus, if_neg hShort, RefereeClient.parseRobotStatus, if_neg hShort,
      readLe16_eq (by omega), readLe16_eq (by omega), readLe16_eq (by omega),
      load_eq data 0 (by omega)]
    rfl

theorem parseShootData_eq [FloatSource F] (state : RefereeStateMessage F) (data : List UInt8) :
    parseShootData state data data.length =
      some (RefereeClient.parseShootData state data data.length) := by
  by_cases hShort : data.length < 7
  · rw [parseShootData, if_pos hShort, RefereeClient.parseShootData, if_pos hShort]
  · have hFloat : 3 + 4 ≤ data.length := by omega
    rw [parseShootData, if_neg hShort, RefereeClient.parseShootData, if_neg hShort, readFloat,
      if_pos hFloat, load_eq data 0 (by omega), load_eq data 0 (by omega)]
    rfl

theorem parseGameStatus_eq (state : RefereeStateMessage F) (data : List UInt8) :
    parseGameStatus state data data.length =
      some (RefereeClient.parseGameStatus state data data.length) := by
  by_cases hShort : data.length < 3
  · rw [parseGameStatus, if_pos hShort, RefereeClient.parseGameStatus, if_pos hShort]
  · rw [parseGameStatus, if_neg hShort, RefereeClient.parseGameStatus, if_neg hShort,
      load_eq data 0 (by omega), readLe16_eq (by omega)]
    rfl

/-- A frame that is as long as it announces is read inside of it. -/
theorem parseOneFrame_eq [FloatSource F] (state : RefereeStateMessage F) {cells : List UInt8}
    {frameLen : Nat} (inside : frameLen ≤ cells.length)
    (announced : frameLen = kFrameOverhead + (RefereeClient.readLe16 (cells.drop 1)).toNat) :
    parseOneFrame state cells frameLen =
      some (RefereeClient.parseOneFrame state (cells.take frameLen)) := by
  have hOverhead : kFrameOverhead = 9 := rfl
  have hFrame : (cells.take frameLen).length = frameLen := List.length_take_of_le inside
  have hData : RefereeClient.readLe16 ((cells.take frameLen).drop 1) =
      RefereeClient.readLe16 (cells.drop 1) := by
    rw [← readLe16_append (cells.take frameLen) (cells.drop frameLen) 1 (by omega),
      List.take_append_drop]
  rw [parseOneFrame]
  generalize cells.take frameLen = frame at *
  have hLong : ¬ frameLen < kFrameOverhead := by omega
  have hLong' : ¬ frame.length < kFrameOverhead := by omega
  have hPayload : ((frame.drop 7).take (RefereeClient.readLe16 (frame.drop 1)).toNat).length =
      (RefereeClient.readLe16 (frame.drop 1)).toNat :=
    List.length_take_of_le (by rw [List.length_drop, hData]; omega)
  have hSplit := List.take_append_drop (RefereeClient.readLe16 (frame.drop 1)).toNat (frame.drop 7)
  have hRead := readLe16_eq (show 1 + 2 ≤ frame.length by omega)
  have hCmd := readLe16_eq (show 5 + 2 ≤ frame.length by omega)
  rw [if_neg hLong, RefereeClient.parseOneFrame, if_neg hLong']
  simp only [hRead, hCmd, Option.bind_eq_bind, Option.bind_some]
  generalize (RefereeClient.readLe16 (frame.drop 1)).toNat = dataLen at *
  generalize (frame.drop 7).take dataLen = payload at *
  rw [← hSplit, ← hPayload, parseRobotStatus_append, parseShootData_append, parseGameStatus_append,
    parseRobotStatus_eq, parseShootData_eq, parseGameStatus_eq]
  split_ifs <;> rfl

theorem consumeBytes_eq (c : RefereeClient F) (n : Nat) :
    (ofClient c).consumeBytes n = some (ofClient (c.consumeBytes n)) := by
  unfold consumeBytes RefereeClient.consumeBytes
  by_cases hAll : c.streamBuf.len ≤ n
  · rw [SlidingBuffer.consume, if_pos hAll]
    exact if_pos hAll
  · have hMoved := memmove_consume c.streamBuf hAll
    refine (if_neg hAll).trans ?_
    simp only [ofClient, hMoved]
    rw [SlidingBuffer.consume, if_neg hAll]
    rfl

theorem append_eq (c : RefereeClient F) (value : UInt8) :
    (ofClient c).append value = some (ofClient { c with streamBuf := c.streamBuf.push value }) := by
  unfold append
  by_cases hRoom : c.streamBuf.len < 160
  · have hStored := store_push c.streamBuf value hRoom
    refine (if_pos hRoom).trans ?_
    simp only [ofClient, hStored]
    rw [SlidingBuffer.push, dif_pos hRoom]
    rfl
  · have hMoved := memmove_push c.streamBuf value (by decide) hRoom
    refine (if_neg hRoom).trans ((Option.bind_assoc _ _ _).symm.trans ?_)
    refine (congrArg (fun stored : Option (Vector UInt8 160) =>
      stored.bind fun buf => some { ofClient c with streamBuf := buf }) hMoved).trans ?_
    rw [Option.bind_some, SlidingBuffer.push, dif_neg hRoom]
    rfl

theorem foldlM_append_eq (c : RefereeClient F) (data : List UInt8) :
    data.foldlM append (ofClient c) =
      some (ofClient { c with streamBuf := data.foldl SlidingBuffer.push c.streamBuf }) := by
  induction data generalizing c with
  | nil => rfl
  | cons value rest ih =>
      rw [List.foldlM_cons, append_eq]
      exact ih { c with streamBuf := c.streamBuf.push value }

/-- The bytes in use, at the front of the array. -/
theorem toList_prefix (buffer : SlidingBuffer UInt8 160) (header : kFrameOverhead ≤ buffer.len) :
    buffer.data.toList.getD 0 0 = buffer.toList.getD 0 0 ∧
      RefereeClient.readLe16 (buffer.data.toList.drop 1) =
        RefereeClient.readLe16 (buffer.toList.drop 1) ∧
      ∀ {count}, count ≤ buffer.len → buffer.data.toList.take count = buffer.toList.take count := by
  have hOverhead : kFrameOverhead = 9 := rfl
  have hLength := buffer.length_toList
  have hSplit := List.take_append_drop buffer.len buffer.data.toList
  refine ⟨?_, ?_, fun hCount => ?_⟩
  · rw [← getD_append_left buffer.toList (buffer.data.toList.drop buffer.len) 0 (by omega),
      SlidingBuffer.toList, hSplit]
  · rw [← readLe16_append buffer.toList (buffer.data.toList.drop buffer.len) 1 (by omega),
      SlidingBuffer.toList, hSplit]
  · rw [SlidingBuffer.toList, List.take_take, Nat.min_eq_left hCount]

/-- The pass of the loop stays in the buffer. -/
theorem tryParsePass_eq [FloatSource F] (c : RefereeClient F) :
    (ofClient c).tryParsePass =
      some (c.tryParsePass.map fun pass => (ofClient pass.1, pass.2)) := by
  unfold tryParsePass RefereeClient.tryParsePass
  by_cases hHeader : kFrameOverhead ≤ c.streamBuf.len
  · have hOverhead : kFrameOverhead = 9 := rfl
    have hCells : c.streamBuf.data.toList.length = 160 := Vector.length_toList
    have hFirst := load_eq c.streamBuf.data.toList 0 (i := 0) (by omega)
    have hRead := readLe16_eq (show 1 + 2 ≤ c.streamBuf.data.toList.length by omega)
    obtain ⟨hGetD, hLe16, hTake⟩ := toList_prefix c.streamBuf hHeader
    rw [if_pos hHeader]
    refine (if_pos hHeader).trans ?_
    simp only [show (ofClient c).streamBuf = c.streamBuf.data from rfl, hFirst, hRead,
      Option.bind_eq_bind, Option.bind_some, consumeBytes_eq, hGetD, hLe16]
    by_cases hSof : c.streamBuf.toList.getD 0 0 ≠ kSof
    · rw [if_pos hSof, if_pos hSof]
      rfl
    · rw [if_neg hSof, if_neg hSof]
      by_cases hMax : kFrameOverhead + (RefereeClient.readLe16 (c.streamBuf.toList.drop 1)).toNat >
          kMaxFrameSize
      · rw [if_pos hMax, if_pos hMax]
        rfl
      · rw [if_neg hMax, if_neg hMax]
        by_cases hWhole : c.streamBuf.len <
            kFrameOverhead + (RefereeClient.readLe16 (c.streamBuf.toList.drop 1)).toNat
        · rw [if_pos hWhole]
          exact if_pos hWhole
        · rw [if_neg hWhole]
          refine (if_neg hWhole).trans ?_
          rw [← hLe16] at hWhole
          have hInside : kFrameOverhead +
              (RefereeClient.readLe16 (c.streamBuf.data.toList.drop 1)).toNat ≤
                c.streamBuf.data.toList.length := by
            have hBound := c.streamBuf.len_le
            omega
          have hFrame := parseOneFrame_eq (ofClient c).state hInside rfl
          rw [hLe16] at hFrame hWhole
          rw [hFrame, hTake (by omega)]
          generalize kFrameOverhead + (RefereeClient.readLe16 (c.streamBuf.toList.drop 1)).toNat =
            fullLen at *
          have hConsumed := consumeBytes_eq
            { c with
              state := RefereeClient.parseOneFrame c.state (c.streamBuf.toList.take fullLen) }
            fullLen
          exact congrArg (fun consumed : Option (RefereeMemory F) =>
            consumed.bind fun next =>
              some (some (next, [c.streamBuf.toList.take fullLen]))) hConsumed
  · rw [if_neg hHeader]
    exact if_neg hHeader

theorem tryParseStream_eq [FloatSource F] (c : RefereeClient F) :
    (ofClient c).tryParseStream = some (ofClient c.tryParseStream) :=
  congrArg (Option.map Prod.fst)
    (Run.tryLoop_view ofClient tryParsePass_eq c.streamBuf.len c)

/-- A call does what it does to the client. -/
theorem feedBytes_eq [FloatSource F] (c : RefereeClient F) (data : List UInt8) :
    (ofClient c).feedBytes data =
      some (ofClient (c.feedBytes data).1, (c.feedBytes data).2) := by
  have hReady : (ofClient c).initialized = ofClient c.initialized := by
    unfold initialized RefereeClient.initialized
    by_cases hDone : c.isInitialized
    · rw [if_pos hDone]
      exact if_pos hDone
    · rw [if_neg hDone]
      exact if_neg hDone
  unfold feedBytes RefereeClient.feedBytes
  by_cases hEmpty : data.length = 0
  · rw [if_pos hEmpty, if_pos hEmpty]
  · rw [if_neg hEmpty, if_neg hEmpty, hReady, foldlM_append_eq]
    have hParsed := tryParseStream_eq
      { c.initialized with streamBuf := data.foldl SlidingBuffer.push c.initialized.streamBuf }
    exact congrArg (fun parsed : Option (RefereeMemory F) =>
      parsed.bind fun parsed => some (parsed, Except.ok ())) hParsed

/-- The length of the frame that the array announces. -/
def fullLen (m : RefereeMemory F) : Nat :=
  kFrameOverhead + (RefereeClient.readLe16 (m.streamBuf.toList.drop 1)).toNat

/-- What is left over is too short for a frame, or the start of one that fits. -/
def Settled (m : RefereeMemory F) : Prop :=
  m.streamLen ≤ 159 ∧
    (m.streamLen < 9 ∨
      m.streamBuf.toList.getD 0 0 = kSof ∧ m.fullLen ≤ 160 ∧ m.streamLen < m.fullLen)

/-- Where the loop ends. -/
theorem settled_of_ends [FloatSource F] (c : RefereeClient F) (ends : c.tryParsePass = none) :
    (ofClient c).Settled := by
  by_cases hHeader : kFrameOverhead ≤ c.streamBuf.len
  · obtain ⟨hGetD, hLe16, -⟩ := toList_prefix c.streamBuf hHeader
    simp only [RefereeClient.tryParsePass, if_pos hHeader] at ends
    split_ifs at ends with hSof hMax hWhole
    have hFullLen : (ofClient c).fullLen =
        kFrameOverhead + (RefereeClient.readLe16 (c.streamBuf.toList.drop 1)).toNat :=
      congrArg (fun length : UInt16 => kFrameOverhead + length.toNat) hLe16
    rw [← hFullLen] at hMax hWhole
    have hFits : (ofClient c).fullLen ≤ 160 := Nat.le_of_not_gt hMax
    have hLen : c.streamBuf.len ≤ 159 := by omega
    exact ⟨hLen, .inr ⟨hGetD.trans (not_not.mp hSof), hFits, hWhole⟩⟩
  · have hShort : c.streamBuf.len < 9 := Nat.lt_of_not_le hHeader
    exact ⟨show c.streamBuf.len ≤ 159 by omega, .inl hShort⟩

/-- The loop leaves through its own exit. -/
theorem tryParseStream_ends [FloatSource F] (c : RefereeClient F) :
    c.tryParseStream.tryParsePass = none := by
  refine Run.whileLoop_ends (fun c => c.streamBuf.len) ?_ c.streamBuf.len c (Nat.le_refl _)
  intro c next frames hPass
  rw [RefereeClient.tryParsePass_eq] at hPass
  obtain ⟨⟨count, item⟩, hStep, hNext⟩ := Option.map_eq_some_iff.mp hPass
  have hPos := parser.step_pos hStep
  have hLe := parser.step_le hStep
  obtain ⟨hNext, -⟩ := Prod.mk.inj hNext
  rw [← hNext, ← SlidingBuffer.length_toList, SlidingBuffer.toList_consume, List.length_drop,
    SlidingBuffer.length_toList]
  rw [SlidingBuffer.length_toList] at hLe
  omega

theorem feedBytes_ends [FloatSource F] (c : RefereeClient F) (data : List UInt8)
    (ends : c.tryParsePass = none) : (c.feedBytes data).1.tryParsePass = none := by
  unfold RefereeClient.feedBytes
  split_ifs
  · exact ends
  · exact tryParseStream_ends _

/-- In every run of calls no access is outside, every loop ends, and what is left over is
settled. -/
theorem feedBytes_in_bounds [FloatSource F] (calls : List (List UInt8)) :
    ∃ m : RefereeMemory F,
      calls.foldlM (fun m data => (m.feedBytes data).map Prod.fst) (zeroed F) = some m ∧
        m.tryParsePass = some none ∧ m.Settled := by
  have hRun : ∀ c : RefereeClient F, c.tryParsePass = none →
      ∃ c' : RefereeClient F,
        calls.foldlM (fun m data => (m.feedBytes data).map Prod.fst) (ofClient c) =
            some (ofClient c') ∧ c'.tryParsePass = none := by
    induction calls with
    | nil => exact fun c hEnds => ⟨c, rfl, hEnds⟩
    | cons data rest ih =>
        intro c hEnds
        obtain ⟨c', hRest, hEnds'⟩ := ih _ (feedBytes_ends c data hEnds)
        refine ⟨c', ?_, hEnds'⟩
        rw [List.foldlM_cons, feedBytes_eq]
        exact hRest
  obtain ⟨c, hCalls, hEnds⟩ := hRun (RefereeClient.zeroed F) rfl
  exact ⟨ofClient c, hCalls, by rw [tryParsePass_eq, hEnds]; rfl, settled_of_ends c hEnds⟩

end RmTest.Platform.RefereeMemory
