import RmTest.Verification.RefereeStream

/-! What referee streams do to the referee state: the same however they are cut,
as long as every chunk finds room in the buffer; and, received byte by byte,
exactly what the well-formed frames in them say. -/
namespace RmTest.Platform.RefereeClient

open Channels Protocols

variable {F : Type} [FloatSource F]

/-- Every `FeedBytes` call of the run finds room for its whole chunk. -/
def FitsAlong (F : Type) [FloatSource F] (frames : List UartRawFrameMessage) : Prop :=
  Run.Along (fun (c : RefereeClient F) frame => c.feedStep frame.bytes)
    (fun c frame => c.Fits frame.bytes) (booted F) frames

instance (frames : List UartRawFrameMessage) : Decidable (FitsAlong F frames) :=
  inferInstanceAs (Decidable (Run.Along _ _ _ _))

theorem decodeUartFramesInQueue_eq (c : RefereeClient F) (frames : List UartRawFrameMessage) :
    c.decodeUartFramesInQueue frames = (frames.map (·.bytes)).foldl feedStep c := by
  rw [List.foldl_map]
  rfl

theorem getLatestState_of_fitsAlong {frames : List UartRawFrameMessage}
    (fits : FitsAlong F frames) :
    ((booted F).decodeUartFramesInQueue frames).getLatestState.2 =
      (parser.drain (streamOf frames)).2.foldl parseOneFrame 0 := by
  have hAlong : Run.Along feedStep Fits (booted F) (frames.map (·.bytes)) :=
    (Run.along_map feedStep Fits _ _ frames).mp fits
  rw [decodeUartFramesInQueue_eq]
  exact getLatestState_of_fits hAlong

/-- Two runs over one stream end in the same referee state if no call of either
overflows the buffer. -/
theorem chunking_invisible_of_fits {stream : List UInt8} (first second : Chunking stream)
    (hFirst : FitsAlong F first.val) (hSecond : FitsAlong F second.val) :
    ((booted F).decodeUartFramesInQueue first.val).getLatestState.2 =
      ((booted F).decodeUartFramesInQueue second.val).getLatestState.2 := by
  rw [getLatestState_of_fitsAlong hFirst, getLatestState_of_fitsAlong hSecond, first.property,
    second.property]

/-- The waiting parser always leaves room for one more byte. -/
theorem Represents.fits_byte {c : RefereeClient F} {parsed : List UInt8 × List (List UInt8)}
    (represents : Represents c parsed) (byte : UInt8) : c.Fits [byte] := by
  have hWaiting : parsed.1.length < kMaxFrameSize :=
    StreamParser.framed_waiting_lt (by decide) (fun h => (announcedLength_bounds h).2)
      represents.waiting
  rw [← represents.buffers.2, SlidingBuffer.length_toList] at hWaiting
  exact hWaiting

theorem Represents.fits_bytes {c : RefereeClient F} {parsed : List UInt8 × List (List UInt8)}
    (represents : Represents c parsed) (bytes : List UInt8) :
    Run.Along feedStep Fits c (bytes.map ([·])) := by
  induction bytes generalizing c parsed with
  | nil => trivial
  | cons byte rest ih =>
      have hFits := represents.fits_byte byte
      exact ⟨hFits, ih (represents.feedBytes hFits)⟩

theorem fitsAlong_bytewise (stream : List UInt8) : FitsAlong F (Chunking.bytewise stream).val := by
  apply (Run.along_map feedStep Fits UartRawFrameMessage.bytes _ _).mpr
  have hBytes : (Chunking.bytewise stream).val.map UartRawFrameMessage.bytes =
      stream.map ([·]) := by
    simp only [Chunking.bytewise, List.map_map, Function.comp_def, UartRawFrameMessage.bytes_ofByte]
  rw [hBytes]
  exact represents_booted.fits_bytes stream

/-- A game status frame with three bytes of data. -/
def gameStatusBytes : List UInt8 := [0xa5, 3, 0, 0, 0, 1, 0, 0x14, 44, 1, 0, 0]

theorem chunking_invisible_gameStatus :
    ((booted NanRat).decodeUartFramesInQueue
        (Chunking.ofPieces [gameStatusBytes] (by decide)).val).getLatestState.2 =
      ((booted NanRat).decodeUartFramesInQueue
        (Chunking.bytewise [gameStatusBytes].flatten).val).getLatestState.2 :=
  chunking_invisible_of_fits _ _ (by decide +kernel) (fitsAlong_bytewise _)

/-- A robot status frame of the greatest length but for its last ten bytes, in
five pieces, and these ten together with 22 more. -/
def heldPieces : List (List UInt8) :=
  [[0xa5, 151, 0, 0, 0, 0x01, 0x02, 0, 0, 1] ++ List.replicate 20 0, List.replicate 30 0,
    List.replicate 30 0, List.replicate 30 0, List.replicate 30 0]

def lastPiece : List UInt8 := List.replicate 32 0

def overflowingPieces : List (List UInt8) := heldPieces ++ [lastPiece]

/-- The bytes are those of one complete frame, but the last piece makes room for
itself by dropping the first bytes of that frame, and nothing is decoded. -/
theorem overflow_loses_frame :
    ¬ ((booted NanRat).decodeUartFramesInQueue
          (Chunking.bytewise overflowingPieces.flatten).val).getLatestState.2 =
        ((booted NanRat).decodeUartFramesInQueue
          (Chunking.ofPieces overflowingPieces (by decide)).val).getLatestState.2 := by
  intro hSame
  have hWhole : ((parser.drain overflowingPieces.flatten).2.foldl parseOneFrame
      (0 : RefereeStateMessage NanRat)).currentHp = 1 := by decide +kernel
  have hBytewise := getLatestState_of_fitsAlong (F := NanRat)
    (fitsAlong_bytewise overflowingPieces.flatten)
  rw [(Chunking.bytewise _).property, hSame, decodeUartFramesInQueue_eq,
    Chunking.map_bytes_ofPieces, overflowingPieces, List.foldl_append] at hBytewise
  have hFits : Run.Along feedStep Fits (booted NanRat) heldPieces := by decide +kernel
  have hHeld := represents_booted.foldl hFits
  have hParsed : parser.drain heldPieces.flatten = (heldPieces.flatten, []) := by decide +kernel
  rw [parser.foldl_feed, hParsed] at hHeld
  have hNonempty : lastPiece.length ≠ 0 := by decide
  obtain ⟨hBuffers, hState⟩ := feedBytes_drain hHeld.buffers hNonempty
  have hNone : (parser.drain (SlidingBuffer.keepLast kMaxFrameSize
      (heldPieces.flatten ++ lastPiece))).2 = [] := by decide +kernel
  rw [hNone, List.foldl_nil, hHeld.state_eq] at hState
  have hLost : ((heldPieces.foldl feedStep (booted NanRat)).feedStep lastPiece).getLatestState.2 =
      0 := hBuffers.getLatestState.trans hState
  rw [List.foldl_cons, List.foldl_nil, hLost] at hBytewise
  rw [overflowingPieces, ← hBytewise] at hWhole
  exact absurd hWhole (by decide)

/-- A frame as the referee system sends it: two header bytes behind the length,
the command and its data, and two trailer bytes. -/
structure RefereeFrame where
  header : Vector UInt8 2
  cmd : UInt16
  payload : List UInt8
  trailer : Vector UInt8 2
  payload_le : payload.length ≤ 151

/-- What a frame says about the state, field by field. -/
inductive RefereeUpdate (F : Type) where
  | robotStatus (currentHp maxHp chassisPowerLimit : UInt16) (gimbalPowerOn : UInt8)
  | shootData (bulletType launchingFrequency : UInt8) (initialSpeed : F)
  | gameStatus (gameType gameProgress : UInt8) (stageRemainTime : UInt16)

/-- An update sets the fields of its own command and no others. -/
def RefereeUpdate.apply (state : RefereeStateMessage F) :
    RefereeUpdate F → RefereeStateMessage F
  | robotStatus currentHp maxHp chassisPowerLimit gimbalPowerOn =>
      { state with
        currentHp := currentHp
        maxHp := maxHp
        chassisPowerLimit := chassisPowerLimit
        gimbalPowerOn := gimbalPowerOn }
  | shootData bulletType launchingFrequency initialSpeed =>
      { state with
        bulletType := bulletType
        launchingFrequency := launchingFrequency
        initialSpeed := initialSpeed }
  | gameStatus gameType gameProgress stageRemainTime =>
      { state with
        gameType := gameType
        gameProgress := gameProgress
        stageRemainTime := stageRemainTime }

namespace RefereeFrame

/-- The announced length, which counts the data only. -/
def dataLength (frame : RefereeFrame) : UInt16 := UInt16.ofNat frame.payload.length

def bytes (frame : RefereeFrame) : List UInt8 :=
  kSof :: frame.dataLength.toUInt8 :: (frame.dataLength >>> 8).toUInt8 ::
    (frame.header.toList ++ frame.cmd.toUInt8 :: (frame.cmd >>> 8).toUInt8 ::
      (frame.payload ++ frame.trailer.toList))

/-- The update carried by a frame, if it has one of the three commands and
enough data for it. -/
def update (frame : RefereeFrame) : Option (RefereeUpdate F) :=
  let byte := fun i => frame.payload.getD i 0
  let half := fun i => readLe16 (frame.payload.drop i)
  if frame.cmd = kCmdRobotStatus ∧ 13 ≤ frame.payload.length then
    some (.robotStatus (half 2) (half 4) (half 10) (if byte 12 &&& 0x01 ≠ 0 then 1 else 0))
  else if frame.cmd = kCmdShootData ∧ 7 ≤ frame.payload.length then
    some (.shootData (byte 0) (byte 2) (copyFloat (frame.payload.drop 3)))
  else if frame.cmd = kCmdGameStatus ∧ 3 ≤ frame.payload.length then
    some (.gameStatus (byte 0 &&& 0x0f) ((byte 0 >>> 4) &&& 0x0f) (half 1))
  else none

theorem toNat_dataLength (frame : RefereeFrame) :
    frame.dataLength.toNat = frame.payload.length := by
  have hBound := frame.payload_le
  rw [dataLength, UInt16.toNat_ofNat', Nat.mod_eq_of_lt (by omega)]

theorem length_bytes (frame : RefereeFrame) :
    frame.bytes.length = kFrameOverhead + frame.payload.length := by
  simp [bytes, kFrameOverhead]
  omega

/-- Behind the two header bytes. -/
theorem drop_header (frame : RefereeFrame) :
    frame.bytes.drop 5 = frame.cmd.toUInt8 :: (frame.cmd >>> 8).toUInt8 ::
      (frame.payload ++ frame.trailer.toList) := by
  have hHeader : frame.header.toList.length = 2 := by simp
  simp only [bytes, List.drop_succ_cons]
  exact List.drop_left' hHeader

theorem announcedLength_bytes (frame : RefereeFrame) :
    announcedLength frame.bytes = some frame.bytes.length := by
  have hBound := frame.payload_le
  have hLength : readLe16 (frame.bytes.drop 1) = frame.dataLength := readLe16_bytes _ _
  have hSof : frame.bytes.getD 0 0 = kSof := rfl
  have hMax : ¬ kFrameOverhead + frame.payload.length > kMaxFrameSize := by
    simp only [kFrameOverhead, kMaxFrameSize]
    omega
  simp only [announcedLength, hSof, hLength, toNat_dataLength, length_bytes, hMax, ne_eq,
    not_true, if_false]

end RefereeFrame

theorem copyFloat_append (front more : List UInt8) (h : 4 ≤ front.length) :
    copyFloat (F := F) (front ++ more) = copyFloat front := by
  unfold copyFloat
  rw [getD_append_left _ _ 0 (by omega), getD_append_left _ _ 1 (by omega),
    getD_append_left _ _ 2 (by omega), getD_append_left _ _ 3 (by omega)]

omit [FloatSource F] in
/-- The three parsers look no further than the data. -/
theorem parseRobotStatus_append (state : RefereeStateMessage F) (payload more : List UInt8) :
    parseRobotStatus state (payload ++ more) payload.length =
      parseRobotStatus state payload payload.length := by
  by_cases hShort : payload.length < 13
  · simp only [parseRobotStatus, if_pos hShort]
  · simp only [parseRobotStatus, if_neg hShort]
    rw [readLe16_append _ _ 2 (by omega), readLe16_append _ _ 4 (by omega),
      readLe16_append _ _ 10 (by omega), getD_append_left _ _ 12 (by omega)]

theorem parseShootData_append (state : RefereeStateMessage F) (payload more : List UInt8) :
    parseShootData state (payload ++ more) payload.length =
      parseShootData state payload payload.length := by
  by_cases hShort : payload.length < 7
  · simp only [parseShootData, if_pos hShort]
  · simp only [parseShootData, if_neg hShort]
    rw [getD_append_left _ _ 0 (by omega), getD_append_left _ _ 2 (by omega),
      List.drop_append_of_le_length (by omega), copyFloat_append _ _ (by simp; omega)]

omit [FloatSource F] in
theorem parseGameStatus_append (state : RefereeStateMessage F) (payload more : List UInt8) :
    parseGameStatus state (payload ++ more) payload.length =
      parseGameStatus state payload payload.length := by
  by_cases hShort : payload.length < 3
  · simp only [parseGameStatus, if_pos hShort]
  · simp only [parseGameStatus, if_neg hShort]
    rw [getD_append_left _ _ 0 (by omega), readLe16_append _ _ 1 (by omega)]

/-- `ParseOneFrame` reads a well-formed frame as what it says. -/
theorem parseOneFrame_bytes (state : RefereeStateMessage F) (frame : RefereeFrame) :
    parseOneFrame state frame.bytes = frame.update.toList.foldl RefereeUpdate.apply state := by
  have hLength : ¬ frame.bytes.length < kFrameOverhead := by
    rw [frame.length_bytes]
    omega
  have hData : readLe16 (frame.bytes.drop 1) = frame.dataLength := readLe16_bytes _ _
  have hCmd : readLe16 (frame.bytes.drop 5) = frame.cmd := by
    rw [frame.drop_header, readLe16_bytes]
  have hPayload : frame.bytes.drop 7 = frame.payload ++ frame.trailer.toList := by
    rw [← List.drop_drop (i := 2) (j := 5), frame.drop_header]
    rfl
  simp only [parseOneFrame, if_neg hLength, hData, frame.toNat_dataLength, hCmd, hPayload,
    parseRobotStatus_append, parseShootData_append, parseGameStatus_append]
  by_cases hRobot : frame.cmd = kCmdRobotStatus
  · have hOthers : kCmdRobotStatus ≠ kCmdShootData ∧ kCmdRobotStatus ≠ kCmdGameStatus := by decide
    by_cases hLong : 13 ≤ frame.payload.length
    · simp [RefereeFrame.update, hRobot, hLong, parseRobotStatus, RefereeUpdate.apply,
        Nat.not_lt.mpr hLong]
    · simp [RefereeFrame.update, hRobot, hOthers, hLong, parseRobotStatus, Nat.lt_of_not_le hLong]
  by_cases hShoot : frame.cmd = kCmdShootData
  · have hOthers : kCmdShootData ≠ kCmdRobotStatus ∧ kCmdShootData ≠ kCmdGameStatus := by decide
    by_cases hLong : 7 ≤ frame.payload.length
    · simp [RefereeFrame.update, hShoot, hOthers, hLong, parseShootData, RefereeUpdate.apply,
        Nat.not_lt.mpr hLong]
    · simp [RefereeFrame.update, hShoot, hOthers, hLong, parseShootData, Nat.lt_of_not_le hLong]
  by_cases hGame : frame.cmd = kCmdGameStatus
  · have hOthers : kCmdGameStatus ≠ kCmdRobotStatus ∧ kCmdGameStatus ≠ kCmdShootData := by decide
    by_cases hLong : 3 ≤ frame.payload.length
    · simp [RefereeFrame.update, hGame, hOthers, hLong, parseGameStatus, RefereeUpdate.apply,
        Nat.not_lt.mpr hLong]
    · simp [RefereeFrame.update, hGame, hOthers, hLong, parseGameStatus, Nat.lt_of_not_le hLong]
  · simp [RefereeFrame.update, hRobot, hShoot, hGame]

/-- Noise that contains no start byte, and a frame behind it. -/
structure NoisyFrame where
  noise : List UInt8
  frame : RefereeFrame
  quiet : kSof ∉ noise

namespace NoisyFrame

def streamOf (segments : List NoisyFrame) : List UInt8 :=
  (segments.map fun segment => segment.noise ++ segment.frame.bytes).flatten

/-- The parser finds the frames and nothing else. -/
theorem drain_streamOf (segments : List NoisyFrame) :
    parser.drain (streamOf segments) = ([], segments.map (·.frame.bytes)) := by
  induction segments with
  | nil => rfl
  | cons segment rest ih =>
      have hStream : streamOf (segment :: rest) =
          segment.noise ++ (segment.frame.bytes ++ streamOf rest) := by
        simp [streamOf]
      have hNoise : parser.drain (segment.noise ++ (segment.frame.bytes ++ streamOf rest)) =
          parser.drain (segment.frame.bytes ++ streamOf rest) := by
        apply StreamParser.framed_noise
        · rw [List.length_append, segment.frame.length_bytes, Nat.add_assoc]
          exact Nat.le_add_right _ _
        · intro byte hByte after
          have hSof : byte ≠ kSof := fun h => segment.quiet (h ▸ hByte)
          exact if_pos hSof
      have hFrame : parser.drain (segment.frame.bytes ++ streamOf rest) =
          ((parser.drain (streamOf rest)).1,
            segment.frame.bytes :: (parser.drain (streamOf rest)).2) :=
        StreamParser.framed_frame _ segment.frame.announcedLength_bytes
      rw [hStream, hNoise, hFrame, ih]
      rfl

end NoisyFrame

theorem foldl_parseOneFrame (frames : List RefereeFrame) (state : RefereeStateMessage F) :
    (frames.map (·.bytes)).foldl parseOneFrame state =
      (frames.filterMap (·.update)).foldl RefereeUpdate.apply state := by
  induction frames generalizing state with
  | nil => rfl
  | cons frame rest ih =>
      rw [List.map_cons, List.foldl_cons, parseOneFrame_bytes, ih]
      cases hUpdate : frame.update (F := F) with
      | none => rw [List.filterMap_cons_none hUpdate]; rfl
      | some update => rw [List.filterMap_cons_some hUpdate]; rfl

/-- A stream of noise and well-formed frames, fed byte by byte, applies the
updates of its frames in order and does nothing else. -/
theorem bytewise_frames_update (segments : List NoisyFrame) :
    ((NoisyFrame.streamOf segments).foldl (fun c byte => (c.feedBytes [byte]).1)
        (booted F)).getLatestState.2 =
      (segments.filterMap (·.frame.update)).foldl RefereeUpdate.apply 0 := by
  have hState := getLatestState_of_fits
    (represents_booted (F := F).fits_bytes (NoisyFrame.streamOf segments))
  have hFlatten : ((NoisyFrame.streamOf segments).map ([·])).flatten =
      NoisyFrame.streamOf segments := by
    rw [← List.flatMap_def]
    exact List.flatMap_singleton' _
  have hFrames : segments.map (·.frame.bytes) =
      (segments.map (·.frame)).map RefereeFrame.bytes := by
    rw [List.map_map]
    rfl
  rw [List.foldl_map, hFlatten, NoisyFrame.drain_streamOf, hFrames, foldl_parseOneFrame,
    List.filterMap_map] at hState
  exact hState

end RmTest.Platform.RefereeClient
