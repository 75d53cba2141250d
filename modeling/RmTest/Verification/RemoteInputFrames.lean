import RmTest.Verification.RemoteInputStream

/-! Frames on the line against messages published: DR16 frames, DR16 frames met
half-way, VT03 frames, and command lines, all of which pass through the one
binary decoder. -/
namespace RmTest.Modules.RemoteInputModule

open Channels Protocols FloatModel

variable {F : Type} [FloatSource F]

theorem drain_acceptedFrames (frames : List (Dr16.AcceptedFrame F)) :
    (Dr16.slidingParser F).drain (Dr16.AcceptedFrame.streamOf frames) =
      ([], frames.map (·.decoded)) := by
  apply StreamParser.window_frames
  induction frames with
  | nil => exact .nil
  | cons frame rest ih => exact .cons ⟨frame.length_eq, frame.accepts⟩ ih

/-- A stream of accepted DR16 frames is published frame by frame and leaves the
buffer empty, whatever bytes the frames contain. -/
theorem dr16_frames_published (m : RemoteInputModule F) (frames : List (Dr16.AcceptedFrame F))
    (messages : Chunking (Dr16.AcceptedFrame.streamOf frames)) :
    binaryInputs (m.initialized.decodeUartFramesInQueue messages.val).2 =
        frames.map (fun frame => dr16Input frame.decoded) ∧
      (m.initialized.decodeUartFramesInQueue messages.val).1.binaryBuf.len = 0 := by
  obtain ⟨hBuffer, hInputs⟩ := binaryInputs_initialized m messages.val
  rw [messages.property, drain_acceptedFrames] at hBuffer hInputs
  refine ⟨?_, ?_⟩
  · rw [hInputs, List.map_map]
    rfl
  · rw [← SlidingBuffer.length_toList, hBuffer, List.length_nil]

/-- A VT03 frame as it is sent: a remote frame behind its two header bytes, or a
custom controller frame with its command id in place. -/
inductive SentVt03Frame where
  | remote (body : Vector UInt8 19)
  | custom (header : Vector UInt8 4) (payload : Vector UInt8 32)

namespace SentVt03Frame

def bytes : SentVt03Frame → List UInt8
  | remote body => 0xa9 :: 0x53 :: body.toList
  | custom header payload => 0xa5 :: header.toList ++ 0x02 :: 0x03 :: payload.toList

/-- The message that the frame's own decoder makes of it. -/
def input : SentVt03Frame → Option (RemoteInputMessage F)
  | remote body => (Vt03.decodeRemoteFrame (remote body).bytes).map vt03Input
  | custom header payload => (Vt03.decodeCustomFrame (custom header payload).bytes).map customInput

/-- The decoders accept every such frame. -/
theorem input_isSome (sent : SentVt03Frame) : (sent.input (F := F)).isSome := by
  cases sent with
  | remote body => simp [input, bytes, Vt03.decodeRemoteFrame, Vt03.kRemoteFrameLength]
  | custom header payload =>
      obtain ⟨⟨cells⟩, hCells⟩ := header
      obtain ⟨a, b, c, d, rfl⟩ := List.length_eq_four.mp (by simpa using hCells)
      simp [input, bytes, Vt03.decodeCustomFrame, Vt03.kCustomFrameLength,
        Vt03.kCustomControllerDataId]

end SentVt03Frame

/-- The binary decoder published the frame: a VT03 message with its axes. -/
def PublishesVt03 (published : List (InputPublication F)) (sent : SentVt03Frame) : Prop :=
  ∃ publication ∈ published, publication.site = .binaryFrame ∧
    publication.input.source = .kRemoteInputVt03 ∧
    ∃ input, sent.input = some input ∧ publication.input.axisJx = input.axisJx ∧
      publication.input.axisJy = input.axisJy ∧ publication.input.axisJz = input.axisJz

/-- Everything the binary decoder publishes is a DR16 message. -/
theorem source_of_binaryFrame (m : RemoteInputModule F) (messages : List UartRawFrameMessage)
    (publication : InputPublication F)
    (hPublished : publication ∈ (m.initialized.decodeUartFramesInQueue messages).2)
    (hSite : publication.site = .binaryFrame) :
    publication.input.source = .kRemoteInputDr16 := by
  have hInput : publication.input.unsequenced ∈
      binaryInputs (m.initialized.decodeUartFramesInQueue messages).2 :=
    List.mem_map.mpr ⟨publication, List.mem_filter.mpr ⟨hPublished, by simp [hSite]⟩, rfl⟩
  rw [(binaryInputs_initialized m messages).2] at hInput
  obtain ⟨frame, _, hFrame⟩ := List.mem_map.mp hInput
  exact (congrArg RemoteInputMessage.source hFrame).symm

theorem not_publishesVt03 (m : RemoteInputModule F) (messages : List UartRawFrameMessage)
    (sent : SentVt03Frame) :
    ¬ PublishesVt03 (m.initialized.decodeUartFramesInQueue messages).2 sent := by
  rintro ⟨publication, hPublished, hSite, hSource, _⟩
  rw [source_of_binaryFrame m messages publication hPublished hSite] at hSource
  cases hSource

/-- Its own decoder accepts every VT03 frame, and yet none is ever published by the binary
decoder, however it is cut: the DR16 branch never lets the buffer grow to its length. -/
theorem vt03_frame_never_published (m : RemoteInputModule F) (sent : SentVt03Frame)
    (messages : Chunking sent.bytes) :
    (sent.input (F := F)).isSome ∧
      ¬ PublishesVt03 (m.initialized.decodeUartFramesInQueue messages.val).2 sent :=
  ⟨sent.input_isSome, not_publishesVt03 m messages.val sent⟩

/-- A remote frame of zeros in one chunk, over a fresh module, is one of them. -/
theorem vt03_zero_frame_lost :
    ¬ PublishesVt03
      ((zeroed NanRat).initialized.decodeUartFramesInQueue
        [.ofBytes (SentVt03Frame.remote (Vector.replicate 19 0)).bytes (by decide)]).2
      (.remote (Vector.replicate 19 0)) :=
  not_publishesVt03 _ _ _

/-- `DecodeFrame` accepts no window of `stream` that begins before `bound`. -/
def NoWindowBefore (F : Type) [FloatModel F] (bound : Nat) (stream : List UInt8) : Prop :=
  ∀ offset < bound, Dr16.decodeFrame (F := F) (stream.drop offset) = none

omit [FloatSource F] in
theorem AcceptedFrame.length_streamOf [FloatModel F] (frames : List (Dr16.AcceptedFrame F)) :
    (Dr16.AcceptedFrame.streamOf frames).length = Dr16.kFrameLength * frames.length := by
  induction frames with
  | nil => rfl
  | cons frame rest ih =>
      simp only [Dr16.AcceptedFrame.streamOf, List.map_cons, List.flatten_cons, List.length_append,
        frame.length_eq, List.length_cons] at ih ⊢
      rw [ih, Nat.mul_add, Nat.add_comm, Nat.mul_one]

omit [FloatSource F] in
theorem AcceptedFrame.le_length_streamOf [FloatModel F] (frame : Dr16.AcceptedFrame F)
    (rest : List (Dr16.AcceptedFrame F)) :
    Dr16.kFrameLength ≤ (Dr16.AcceptedFrame.streamOf (frame :: rest)).length := by
  rw [AcceptedFrame.length_streamOf, List.length_cons]
  exact Nat.le_mul_of_pos_right _ (Nat.succ_pos _)

/-- A remainder without windows is slid over. -/
theorem drain_remainder {remainder : List UInt8} (short : remainder.length < Dr16.kFrameLength)
    (frames : List (Dr16.AcceptedFrame F))
    (silent : NoWindowBefore F remainder.length
      (remainder ++ Dr16.AcceptedFrame.streamOf frames)) :
    ((Dr16.slidingParser F).drain (remainder ++ Dr16.AcceptedFrame.streamOf frames)).2 =
      frames.map (·.decoded) := by
  cases frames with
  | nil =>
      have hAlone : remainder ++ Dr16.AcceptedFrame.streamOf ([] : List (Dr16.AcceptedFrame F)) =
          remainder := List.append_nil _
      rw [hAlone, Dr16.slidingParser, StreamParser.window_wait short]
      rfl
  | cons frame rest =>
      have hSlides : (Dr16.slidingParser F).drain
          (remainder ++ Dr16.AcceptedFrame.streamOf (frame :: rest)) =
            (Dr16.slidingParser F).drain (Dr16.AcceptedFrame.streamOf (frame :: rest)) := by
        apply StreamParser.window_slides remainder _ (AcceptedFrame.le_length_streamOf frame rest)
        intro offset hOffset
        rw [Dr16.decodeFrame_take]
        exact silent offset hOffset
      rw [hSlides, drain_acceptedFrames]

/-- A window in the remainder is taken for the first frame. -/
theorem drain_remainder_locks {remainder : List UInt8}
    (short : remainder.length < Dr16.kFrameLength) (frames : List (Dr16.AcceptedFrame F))
    (window : ¬ NoWindowBefore F remainder.length
      (remainder ++ Dr16.AcceptedFrame.streamOf frames)) :
    ∃ offset decoded, offset < remainder.length ∧
      Dr16.decodeFrame ((remainder ++ Dr16.AcceptedFrame.streamOf frames).drop offset) =
        some decoded ∧
      ((Dr16.slidingParser F).drain (remainder ++ Dr16.AcceptedFrame.streamOf frames)).2.head? =
        some decoded := by
  cases frames with
  | nil =>
      -- Without a complete frame there are too few bytes for any window.
      refine absurd (fun offset _ => Dr16.decodeFrame_of_short ?_) window
      rw [List.length_drop]
      exact Nat.lt_of_le_of_lt (Nat.sub_le _ _) (by simpa [Dr16.AcceptedFrame.streamOf] using short)
  | cons frame rest =>
      obtain ⟨offset, decoded, hOffset, hAccept, hFirst⟩ :
          ∃ offset decoded, offset < remainder.length ∧
            Dr16.decodeFrame (((remainder ++ Dr16.AcceptedFrame.streamOf (frame :: rest)).drop
              offset).take Dr16.kFrameLength) = some decoded ∧
            ((Dr16.slidingParser F).drain
              (remainder ++
                Dr16.AcceptedFrame.streamOf (frame :: rest))).2.head? = some decoded := by
        apply StreamParser.window_locks remainder _ (AcceptedFrame.le_length_streamOf frame rest)
        intro hNone
        apply window
        intro offset hOffset
        rw [← Dr16.decodeFrame_take]
        exact hNone offset hOffset
      rw [Dr16.decodeFrame_take] at hAccept
      exact ⟨offset, decoded, hOffset, hAccept, hFirst⟩

/-- A receiver that starts inside a frame publishes exactly the complete frames
that follow, in order, if the decoder accepts no window that begins in the
remainder of the first frame. If it accepts one, the first message published is
decoded from such a window. -/
theorem dr16_resynchronises (m : RemoteInputModule F) (first : Dr16.AcceptedFrame F)
    (missed : Nat) (frames : List (Dr16.AcceptedFrame F))
    (messages : Chunking (first.bytes.drop (missed + 1) ++ Dr16.AcceptedFrame.streamOf frames)) :
    let remainder := first.bytes.drop (missed + 1)
    let stream := remainder ++ Dr16.AcceptedFrame.streamOf frames
    let inputs := binaryInputs (m.initialized.decodeUartFramesInQueue messages.val).2
    (NoWindowBefore F remainder.length stream →
      inputs = frames.map fun frame => dr16Input frame.decoded) ∧
    (¬ NoWindowBefore F remainder.length stream →
      ∃ offset decoded, offset < remainder.length ∧
        Dr16.decodeFrame (stream.drop offset) = some decoded ∧
        inputs.head? = some (dr16Input decoded)) := by
  intro remainder stream inputs
  have hInputs : inputs = ((Dr16.slidingParser F).drain stream).2.map dr16Input := by
    have hStream : streamOf messages.val = stream := messages.property
    rw [← hStream]
    exact (binaryInputs_initialized m messages.val).2
  have hRemainder : remainder.length < Dr16.kFrameLength := by
    simp only [remainder, List.length_drop, first.length_eq]
    exact Nat.lt_of_le_of_lt (Nat.sub_le_sub_left (Nat.le_add_left 1 missed) _) (by decide)
  constructor
  · intro hNone
    rw [hInputs, drain_remainder hRemainder frames hNone, List.map_map]
    rfl
  · intro hWindow
    obtain ⟨offset, decoded, hOffset, hAccept, hFirst⟩ :=
      drain_remainder_locks hRemainder frames hWindow
    refine ⟨offset, decoded, hOffset, hAccept, ?_⟩
    rw [hInputs, List.head?_map, hFirst]
    rfl

/-- Eighteen bytes that read as a DR16 frame with the operator switch down, and
still read as one, with the switch up, after the first byte is cut off and put
behind. -/
def shiftableFrame : Dr16.AcceptedFrame NanRat where
  bytes := List.replicate 5 0x55 ++ 0x65 :: List.replicate 12 0x55
  decoded :=
    { rightStickX := .num (341 / 660)
      rightStickY := .num (-342 / 660)
      leftStickX := .num (341 / 660)
      leftStickY := .num (-342 / 660)
      wheel := .num (-341 / 660)
      leftSwitch := 1
      rightSwitch := 2
      chassisEnable := false }
  length_eq := rfl
  accepts := by decide +kernel

/-- A receiver that missed the first byte of such a frame enables the chassis,
which no frame on the line does. -/
theorem dr16_straddled_frame_enables :
    ¬ ∀ input ∈ binaryInputs ((zeroed NanRat).initialized.decodeUartFramesInQueue
        (Chunking.bytewise (shiftableFrame.bytes.drop 1 ++
          Dr16.AcceptedFrame.streamOf [shiftableFrame])).val).2,
      ∃ frame ∈ [shiftableFrame], input = dr16Input frame.decoded := by
  intro hFrames
  have hEnables : ((Dr16.slidingParser NanRat).drain (shiftableFrame.bytes.drop 1 ++
      Dr16.AcceptedFrame.streamOf [shiftableFrame])).2.map (·.chassisEnable) = [true] := by
    decide +kernel
  obtain ⟨decoded, hDecoded⟩ := List.map_eq_singleton_iff.mp hEnables
  rw [(binaryInputs_initialized _ _).2, (Chunking.bytewise _).property, hDecoded.1] at hFrames
  obtain ⟨frame, hFrame, hInput⟩ := hFrames _ (List.mem_singleton_self _)
  have hSwitch := congrArg RemoteInputMessage.chassisEnable hInput
  rw [List.mem_singleton.mp hFrame] at hSwitch
  simp only [dr16Input, hDecoded.2, shiftableFrame] at hSwitch
  cases hSwitch

/-- The binary decoder takes no part: for every byte of the stream it publishes
nothing and leaves the latest input as it was. -/
def BinarySilent (m : RemoteInputModule F) (stream : List UInt8) : Prop :=
  ∀ before byte after, stream = before ++ byte :: after →
    let received := (m.receiveBytes before).1.appendBinary byte
    (tryDecodeBinaryFrames received).2 = [] ∧
      (tryDecodeBinaryFrames received).1.latest = received.latest

/-- Every message published is that of a line that `ParseLine` accepted. -/
def OnlyTextPublished (published : List (InputPublication F)) : Prop :=
  ∀ publication ∈ published, publication.site = .textLine ∧
    ∃ line, parsedInput line = some publication.input.unsequenced

theorem textLine_parsed (m : RemoteInputModule F) (bytes : List UInt8) :
    ∀ publication ∈ (m.receiveBytes bytes).2, publication.site = .textLine →
      ∃ line, parsedInput line = some publication.input.unsequenced := by
  apply Run.transduce_forall
  intro m byte publication hPublication hSite
  rcases List.mem_append.mp hPublication with hBinary | hText
  · obtain ⟨input, _, rfl⟩ := List.mem_map.mp hBinary
    cases hSite
  · obtain ⟨input, hInput, rfl⟩ := List.mem_map.mp hText
    exact receiveText_parsed _ byte input hInput

theorem drain_silent_iff (stream : List UInt8) :
    ((Dr16.slidingParser F).drain stream).2 = [] ↔
      ∀ offset, Dr16.decodeFrame (F := F) (stream.drop offset) = none := by
  rw [Dr16.slidingParser, StreamParser.window_silent_iff]
  constructor
  · intro hSilent offset
    by_cases hWindow : offset + Dr16.kFrameLength ≤ stream.length
    · rw [← Dr16.decodeFrame_take]
      exact hSilent offset hWindow
    · apply Dr16.decodeFrame_of_short
      rw [List.length_drop]
      simp only [Dr16.kFrameLength] at hWindow ⊢
      omega
  · intro hNone offset _
    rw [Dr16.decodeFrame_take]
    exact hNone offset

/-- Silence of the binary decoder, byte by byte, is that of the sliding window. -/
theorem binarySilent_of_drain (m : RemoteInputModule F) (stream : List UInt8)
    (hSilent : ((Dr16.slidingParser F).drain stream).2 = []) :
    BinarySilent m.initialized stream := by
  intro before byte after hSplit received
  have hBefore := (receiveBytes_drain m.initialized m.initialized_settled before).1
  have hEmpty : m.initialized.binaryBuf.toList = [] := by simp [initialized]
  rw [hEmpty, List.nil_append] at hBefore
  have hByte := (tryDecodeBinaryFrames_appendBinary (m.initialized.receiveBytes before).1
    (receiveBytes_settled _ m.initialized_settled before) byte).2
  have hPrefix := (Dr16.slidingParser F).drain_items_grow (before ++ [byte]) after
  rw [List.append_assoc, List.singleton_append, ← hSplit, hSilent, StreamParser.drain_append,
    ← hBefore] at hPrefix
  have hNone := (List.append_eq_nil_iff.mp (List.prefix_nil.mp hPrefix)).2
  rw [hNone] at hByte
  have hInputs : (tryDecodeBinaryFrames received).2 = [] := List.map_eq_nil_iff.mp hByte
  exact ⟨hInputs, by rw [absorbs_latest.tryDecodeBinaryFrames, hInputs]; rfl⟩

/-- Text and binary input are independent exactly on the streams in which the
DR16 decoder accepts no window. -/
theorem binary_silent_iff (m : RemoteInputModule F) (messages : List UartRawFrameMessage) :
    OnlyTextPublished (m.initialized.decodeUartFramesInQueue messages).2 ∧
        BinarySilent m.initialized (streamOf messages) ↔
      ∀ offset, Dr16.decodeFrame (F := F) ((streamOf messages).drop offset) = none := by
  have hInputs := (binaryInputs_initialized m messages).2
  rw [← drain_silent_iff]
  constructor
  · rintro ⟨hText, _⟩
    have hNone : binaryInputs (m.initialized.decodeUartFramesInQueue messages).2 = [] := by
      rw [binaryInputs, List.map_eq_nil_iff, List.filter_eq_nil_iff]
      intro publication hPublication
      simp [(hText publication hPublication).1]
    rw [hNone] at hInputs
    exact List.map_eq_nil_iff.mp hInputs.symm
  · intro hSilent
    refine ⟨?_, binarySilent_of_drain m _ hSilent⟩
    intro publication hPublication
    have hSite : publication.site = .textLine := by
      cases hSite : publication.site with
      | textLine => rfl
      | binaryFrame =>
          have hInput : publication.input.unsequenced ∈
              binaryInputs (m.initialized.decodeUartFramesInQueue messages).2 :=
            List.mem_map.mpr ⟨publication, List.mem_filter.mpr ⟨hPublication, by simp [hSite]⟩, rfl⟩
          rw [hInputs, hSilent] at hInput
          cases hInput
    rw [decodeUartFramesInQueue_eq] at hPublication
    exact ⟨hSite, textLine_parsed _ _ publication hPublication hSite⟩

/-- A command line: one of the two words, then fields without bytes from `P` on
(which leaves digits, signs, points and blanks), then a line feed. -/
structure CommandLine where
  word : List UInt8
  fields : List UInt8
  word_eq : word = dr16Word ∨ word = vt03Word
  fields_lt : ∀ byte ∈ fields, byte < 0x50

namespace CommandLine

def bytes (line : CommandLine) : List UInt8 := line.word ++ line.fields ++ [0x0a]

def streamOf (lines : List CommandLine) : List UInt8 := (lines.map bytes).flatten

end CommandLine

/-- Three consecutive bytes that cannot be the fourth to sixth of a DR16 frame. -/
def Harmless (third fourth fifth : UInt8) : Prop :=
  fifth < 0x50 ∨ fourth.toNat % 2 = 0 ∧ third.toNat ≤ 0x5a

/-- Every three consecutive bytes of `third :: fourth :: stream` are harmless. -/
def AllHarmless : UInt8 → UInt8 → List UInt8 → Prop
  | _, _, [] => True
  | third, fourth, fifth :: rest => Harmless third fourth fifth ∧ AllHarmless fourth fifth rest

theorem AllHarmless.at {third fourth : UInt8} {stream : List UInt8}
    (harmless : AllHarmless third fourth stream) (index : Nat) (hIndex : index < stream.length) :
    Harmless ((third :: fourth :: stream).getD index 0) ((fourth :: stream).getD index 0)
      (stream.getD index 0) := by
  induction stream generalizing third fourth index with
  | nil => cases hIndex
  | cons fifth rest ih =>
      cases index with
      | zero => exact harmless.1
      | succ index => exact ih harmless.2 index (by simpa using hIndex)

theorem decodeFrame_of_allHarmless {F : Type} [FloatModel F] {third fourth : UInt8}
    {stream : List UInt8} (harmless : AllHarmless third fourth stream) (offset : Nat) :
    Dr16.decodeFrame (F := F) (stream.drop offset) = none := by
  by_cases hShort : (stream.drop offset).length < Dr16.kFrameLength
  · exact Dr16.decodeFrame_of_short hShort
  · have hByte (i : Nat) : (stream.drop offset).getD i 0 = stream.getD (offset + i) 0 := by
      simp [List.getD_eq_getElem?_getD]
    have hIndex : offset + 5 < stream.length := by
      simp only [List.length_drop, Dr16.kFrameLength] at hShort
      omega
    rcases harmless.at (offset + 5) hIndex with hFifth | ⟨hFourth, hThird⟩
    · exact Dr16.decodeFrame_of_switches (by rw [hByte]; exact hFifth)
    · exact Dr16.decodeFrame_of_channel (by rw [hByte]; exact hFourth) (by rw [hByte]; exact hThird)

/-- Fields and the line feed behind them, in front of harmless text. -/
theorem allHarmless_fields (fields rest : List UInt8) (hFields : ∀ byte ∈ fields, byte < 0x50)
    (third fourth : UInt8) (hFourth : fourth.toNat ≤ 0x5a)
    (hRest : ∀ byte : UInt8, byte.toNat ≤ 0x5a → AllHarmless byte 0x0a rest) :
    AllHarmless third fourth (fields ++ 0x0a :: rest) := by
  induction fields generalizing third fourth with
  | nil => exact ⟨.inl (by decide), hRest fourth hFourth⟩
  | cons field fields ih =>
      have hField := hFields field (List.mem_cons_self ..)
      have hBelow : field.toNat < 0x50 := UInt8.lt_iff_toNat_lt.mp hField
      exact ⟨.inl hField, ih (fun byte h => hFields byte (List.mem_cons_of_mem _ h)) fourth field
        (by omega)⟩

theorem allHarmless_commandLines (lines : List CommandLine) (third : UInt8)
    (hThird : third.toNat ≤ 0x5a) : AllHarmless third 0x0a (CommandLine.streamOf lines) := by
  induction lines generalizing third with
  | nil => trivial
  | cons line rest ih =>
      have hFields (fourth fifth : UInt8) (h : fifth.toNat ≤ 0x5a) :
          AllHarmless fourth fifth (line.fields ++ 0x0a :: CommandLine.streamOf rest) :=
        allHarmless_fields _ _ line.fields_lt fourth fifth h ih
      have hLine : CommandLine.streamOf (line :: rest) =
          line.word ++ (line.fields ++ 0x0a :: CommandLine.streamOf rest) := by
        simp [CommandLine.streamOf, CommandLine.bytes]
      rw [hLine]
      rcases line.word_eq with hWord | hWord
      · rw [hWord]
        exact ⟨.inr ⟨by decide, hThird⟩, .inr ⟨by decide, by decide⟩, .inl (by decide),
          .inl (by decide), hFields _ _ (by decide)⟩
      · rw [hWord]
        exact ⟨.inr ⟨by decide, hThird⟩, .inr ⟨by decide, by decide⟩, .inl (by decide),
          .inl (by decide), hFields _ _ (by decide)⟩

/-- What the binary decoder does with a text stream. It takes no part exactly if
the DR16 decoder accepts no window of the stream, and so on all command lines. -/
theorem text_and_binary_independent_iff (m : RemoteInputModule F) :
    (∀ messages : List UartRawFrameMessage,
      OnlyTextPublished (m.initialized.decodeUartFramesInQueue messages).2 ∧
          BinarySilent m.initialized (streamOf messages) ↔
        ∀ offset, Dr16.decodeFrame (F := F) ((streamOf messages).drop offset) = none) ∧
    ∀ (lines : List CommandLine) (messages : Chunking (CommandLine.streamOf lines)),
      OnlyTextPublished (m.initialized.decodeUartFramesInQueue messages.val).2 ∧
        BinarySilent m.initialized (CommandLine.streamOf lines) := by
  refine ⟨binary_silent_iff m, ?_⟩
  intro lines messages
  have hSilent := (binary_silent_iff m messages.val).mpr
  rw [messages.property] at hSilent
  exact hSilent (decodeFrame_of_allHarmless (allHarmless_commandLines lines 0 (by decide)))

/-- `vt03 12.11e0 0.5 0.5 1` and a line feed. -/
def exponentLine : List UInt8 :=
  [0x76, 0x74, 0x30, 0x33, 0x20, 0x31, 0x32, 0x2e, 0x31, 0x31, 0x65, 0x30, 0x20, 0x30, 0x2e, 0x35,
    0x20, 0x30, 0x2e, 0x35, 0x20, 0x31, 0x0a]

/-- A line of printable text in which the binary decoder finds a DR16 frame. -/
theorem exponentLine_decoded_as_binary :
    (∀ byte ∈ exponentLine, isPrint byte ∨ byte = 0x0d ∨ byte = 0x0a) ∧
      ¬ (OnlyTextPublished ((zeroed NanRat).initialized.decodeUartFramesInQueue
          (Chunking.bytewise exponentLine).val).2 ∧
        BinarySilent (zeroed NanRat).initialized exponentLine) := by
  have hPrint : exponentLine.all
      (fun byte => decide (isPrint byte ∨ byte = 0x0d ∨ byte = 0x0a)) = true := by decide
  refine ⟨fun byte hByte => of_decide_eq_true (List.all_eq_true.mp hPrint byte hByte), ?_⟩
  intro hSilent
  have hIff := binary_silent_iff (zeroed NanRat) (Chunking.bytewise exponentLine).val
  rw [(Chunking.bytewise exponentLine).property] at hIff
  have hNone := hIff.mp hSilent 5
  have hSome : (Dr16.decodeFrame (F := NanRat) (exponentLine.drop 5)).isSome := by decide +kernel
  rw [hNone] at hSome
  cases hSome

end RmTest.Modules.RemoteInputModule
