import RmTest.Verification.RemoteInputStream

/-! The commands of the remote input module over whole runs of its loop. Sequence
numbers are shared between the received messages and the ticks, and are the
only thing that depends on where the ticks fall; everything else is compared up
to them. -/
namespace RmTest.Modules.RemoteInputModule

open Channels Protocols FloatModel

variable {F : Type} [FloatSource F]

def unsequenced (m : RemoteInputModule F) : RemoteInputModule F :=
  { m with publishSequence := 0, latestInput := m.latestInput.unsequenced }

/-- Two modules that differ in nothing but sequence numbers. -/
def Alike (m m' : RemoteInputModule F) : Prop := m.unsequenced = m'.unsequenced

/-- A publication without its number. -/
def unnumbered (publication : InputPublication F) :
    PublishSite × RemoteInputMessage F :=
  (publication.site, publication.input.unsequenced)

section Alike

variable {m m' : RemoteInputModule F}

omit [FloatSource F]

theorem unsequenced_consumeBinary (m : RemoteInputModule F) (bytes : Nat) :
    (m.consumeBinary bytes).unsequenced = m.unsequenced.consumeBinary bytes := by
  by_cases h : bytes = 0 ∨ m.binaryBuf.len = 0
  · simp only [consumeBinary, unsequenced, h, if_true]
  · simp only [consumeBinary, unsequenced, h, if_false]

theorem Alike.consumeBinary (alike : Alike m m') (bytes : Nat) :
    Alike (m.consumeBinary bytes) (m'.consumeBinary bytes) := by
  unfold Alike at *
  rw [unsequenced_consumeBinary, unsequenced_consumeBinary, alike]

/-- A stored message differs in its number only. -/
theorem Alike.store (alike : Alike m m') (input : RemoteInputMessage F)
    (sequence sequence' : UInt32) :
    Alike
      { m with
        publishSequence := sequence
        latestInput := { input with sequence := sequence }
        latestInputValid := true }
      { m' with
        publishSequence := sequence'
        latestInput := { input with sequence := sequence' }
        latestInputValid := true } := by
  have hUnsequenced := congrArg
    (fun x : RemoteInputModule F =>
      { x with latestInput := input.unsequenced, latestInputValid := true })
    alike
  exact hUnsequenced

theorem Alike.acceptBinary (alike : Alike m m') (input : RemoteInputMessage F) (length : Nat) :
    Alike (m.acceptBinary input length).1 (m'.acceptBinary input length).1 ∧
      (m.acceptBinary input length).2.map RemoteInputMessage.unsequenced =
        (m'.acceptBinary input length).2.map RemoteInputMessage.unsequenced :=
  ⟨(alike.store input _ _).consumeBinary length, rfl⟩

theorem Alike.acceptText (alike : Alike m m') (input : RemoteInputMessage F) :
    Alike (m.acceptText input).1 (m'.acceptText input).1 ∧
      (m.acceptText input).2.map RemoteInputMessage.unsequenced =
      (m'.acceptText input).2.map RemoteInputMessage.unsequenced :=
  ⟨alike.store input _ _, rfl⟩

theorem Alike.withLine (alike : Alike m m') (lineBuf : Vector UInt8 96) (linePos : Nat) :
    Alike { m with lineBuf := lineBuf, linePos := linePos }
      { m' with lineBuf := lineBuf, linePos := linePos } := by
  have hUnsequenced := congrArg
    (fun x : RemoteInputModule F => { x with lineBuf := lineBuf, linePos := linePos }) alike
  exact hUnsequenced

theorem Alike.binaryBuf (alike : Alike m m') : m.binaryBuf = m'.binaryBuf :=
  congrArg (·.binaryBuf) alike

theorem Alike.appendBinary (alike : Alike m m') (byte : UInt8) :
    Alike (m.appendBinary byte) (m'.appendBinary byte) := by
  have hUnsequenced := congrArg (fun x : RemoteInputModule F => x.appendBinary byte) alike
  exact hUnsequenced

end Alike

theorem Alike.tryDecodeBinaryFrames {m m' : RemoteInputModule F} (alike : Alike m m') :
    Alike m.tryDecodeBinaryFrames.1 m'.tryDecodeBinaryFrames.1 ∧
      m.tryDecodeBinaryFrames.2.map RemoteInputMessage.unsequenced =
        m'.tryDecodeBinaryFrames.2.map RemoteInputMessage.unsequenced := by
  unfold RemoteInputModule.tryDecodeBinaryFrames
  rw [alike.binaryBuf]
  refine Run.whileLoop_simulates Alike RemoteInputMessage.unsequenced
    RemoteInputMessage.unsequenced ?_ ?_ _ alike
  · intro m m' alike hEnds
    rcases tryDecodePass_cases F m'.binaryBuf with hEnd | hDrop | ⟨_, _, -, hAccept⟩
    · exact hEnd m alike.binaryBuf
    · rw [hDrop m' rfl] at hEnds
      cases hEnds
    · rw [hAccept m' rfl] at hEnds
      cases hEnds
  · intro m m' next' out' alike hPass
    rcases tryDecodePass_cases F m'.binaryBuf with hEnd | hDrop | ⟨input, length, -, hAccept⟩
    · rw [hEnd m' rfl] at hPass
      cases hPass
    · rw [hDrop m' rfl] at hPass
      cases hPass
      exact ⟨_, _, hDrop m alike.binaryBuf, alike.consumeBinary 1, rfl⟩
    · rw [hAccept m' rfl] at hPass
      cases hPass
      exact ⟨_, _, hAccept m alike.binaryBuf, alike.acceptBinary input length⟩

theorem Alike.receiveText {m m' : RemoteInputModule F} (alike : Alike m m') (byte : UInt8) :
    Alike (m.receiveText byte).1 (m'.receiveText byte).1 ∧
      (m.receiveText byte).2.map RemoteInputMessage.unsequenced =
      (m'.receiveText byte).2.map RemoteInputMessage.unsequenced := by
  have hBuf : m.lineBuf = m'.lineBuf := congrArg (·.lineBuf) alike
  have hPos : m.linePos = m'.linePos := congrArg (·.linePos) alike
  obtain ⟨lineBuf, linePos, hQuiet | ⟨_, input, _, hAccept⟩⟩ :=
    receiveText_cases F m'.lineBuf m'.linePos byte
  · rw [hQuiet m hBuf hPos, hQuiet m' rfl rfl]
    exact ⟨alike.withLine lineBuf linePos, rfl⟩
  · rw [hAccept m hBuf hPos, hAccept m' rfl rfl]
    exact (alike.withLine lineBuf linePos).acceptText input

theorem Alike.receiveByte {m m' : RemoteInputModule F} (alike : Alike m m') (byte : UInt8) :
    Alike (m.receiveByte byte).1 (m'.receiveByte byte).1 ∧
      (m.receiveByte byte).2.map unnumbered =
        (m'.receiveByte byte).2.map unnumbered := by
  obtain ⟨hDecoded, hBinary⟩ := (alike.appendBinary byte).tryDecodeBinaryFrames
  obtain ⟨hReceived, hText⟩ := hDecoded.receiveText byte
  have hSite (site : PublishSite) {inputs inputs' : List (RemoteInputMessage F)}
      (h : inputs.map RemoteInputMessage.unsequenced = inputs'.map RemoteInputMessage.unsequenced) :
      (inputs.map (InputPublication.mk site)).map unnumbered =
        (inputs'.map (InputPublication.mk site)).map unnumbered := by
    have hPairs := congrArg (List.map (Prod.mk site)) h
    rw [List.map_map, List.map_map] at hPairs ⊢
    exact hPairs
  refine ⟨hReceived, ?_⟩
  simp only [RemoteInputModule.receiveByte, List.map_append]
  rw [hSite _ hBinary, hSite _ hText]

theorem Alike.receiveBytes {m m' : RemoteInputModule F} (alike : Alike m m') (bytes : List UInt8) :
    Alike (m.receiveBytes bytes).1 (m'.receiveBytes bytes).1 ∧
      (m.receiveBytes bytes).2.map unnumbered =
        (m'.receiveBytes bytes).2.map unnumbered :=
  Run.transduce_simulates Alike _ _ (fun byte alike => alike.receiveByte byte) bytes alike

/-- The state after the given ticks, each with the chunks it dequeues. -/
def afterTicks (m : RemoteInputModule F) (batches : List (List UartRawFrameMessage)) :
    RemoteInputModule F :=
  batches.foldl (fun m frames => (m.runLoopTick frames).1) m

theorem receiveBytes_append (m : RemoteInputModule F) (first later : List UInt8) :
    (m.receiveBytes (first ++ later)).1 = ((m.receiveBytes first).1.receiveBytes later).1 := by
  simp only [receiveBytes, Run.transduce_append]

/-- Ticks number their commands and change nothing else. -/
theorem afterTicks_alike {m m' : RemoteInputModule F} (alike : Alike m m')
    (batches : List (List UartRawFrameMessage)) :
    Alike (m.afterTicks batches) (m'.receiveBytes (streamOf batches.flatten)).1 := by
  induction batches generalizing m m' with
  | nil => exact alike
  | cons frames rest ih =>
      rw [List.flatten_cons, streamOf_append, receiveBytes_append]
      apply ih
      have hFrames := (alike.receiveBytes (streamOf frames)).1
      rw [← decodeUartFramesInQueue_eq m] at hFrames
      exact hFrames

/-- The four commands without their number. -/
def Commands.unsequenced (commands : Commands F) : Commands F := commands.withSequence 0

/-- The four commands that one input, or the absence of any, stands for. -/
def commandsFor : Option (RemoteInputMessage F) → Commands F
  | none => { chassis := 0, arm := 0, gimbal := 0, gantry := 0 }
  | some input =>
      { chassis := composeChassisCommand input
        arm := composeArmCommand input
        gimbal := composeGimbalCommand input
        gantry := composeGantryCommand input }

/-- The inputs accepted from a byte stream that arrives after `Initialize`, with
no tick in between, without their numbers. -/
def acceptedInputs (m : RemoteInputModule F) (stream : List UInt8) : List (RemoteInputMessage F) :=
  (m.initialized.receiveBytes stream).2.map (·.input.unsequenced)

/-- No subsystem is told to move. -/
structure Commands.Stopped (commands : Commands F) : Prop where
  chassis : commands.chassis.targetVx = 0 ∧ commands.chassis.targetVy = 0 ∧
    commands.chassis.targetWz = 0 ∧ commands.chassis.source = .kInputSourceUnknown
  arm : commands.arm.clawDelta = 0 ∧ commands.arm.elbowPitchDelta = 0 ∧
    commands.arm.elbowYawDelta = 0 ∧ commands.arm.wristTwistDelta = 0 ∧
    commands.arm.wristFlipDelta = 0 ∧ commands.arm.source = .kInputSourceUnknown ∧
    commands.arm.enable = 0
  gimbal : commands.gimbal.yawDeltaDeg = 0 ∧ commands.gimbal.pitchDeltaDeg = 0 ∧
    commands.gimbal.source = .kInputSourceUnknown ∧ commands.gimbal.enable = 0
  gantry : commands.gantry.xDelta = 0 ∧ commands.gantry.yDelta = 0 ∧
    commands.gantry.zDelta = 0 ∧ commands.gantry.source = .kInputSourceUnknown ∧
    commands.gantry.enable = 0

/-- A disabled input commands what no input does. -/
theorem commandsFor_disabled {input : RemoteInputMessage F} (disabled : input.chassisEnable = 0) :
    commandsFor (some input) = commandsFor none := by
  simp only [commandsFor, composeChassisCommand, composeArmCommand, composeGimbalCommand,
    composeGantryCommand, disabled, true_or, if_true]
  rfl

theorem commandsFor_stopped {input : Option (RemoteInputMessage F)}
    (disabled : ∀ message, input = some message → message.chassisEnable = 0) :
    (commandsFor input).Stopped := by
  have hNone : commandsFor input = commandsFor none := by
    cases input with
    | none => rfl
    | some message => exact commandsFor_disabled (disabled message rfl)
  rw [hNone]
  exact
    { chassis := ⟨rfl, rfl, rfl, rfl⟩
      arm := ⟨rfl, rfl, rfl, rfl, rfl, rfl, rfl⟩
      gimbal := ⟨rfl, rfl, rfl, rfl⟩
      gantry := ⟨rfl, rfl, rfl, rfl, rfl⟩ }

theorem Commands.stopped_withSequence {commands : Commands F}
    (stopped : (commands.withSequence 0).Stopped) (sequence : UInt32) :
    (commands.withSequence sequence).Stopped :=
  ⟨stopped.chassis, stopped.arm, stopped.gimbal, stopped.gantry⟩

/-- Composing leaves the number to the caller. -/
theorem commandsFor_withSequence (input : Option (RemoteInputMessage F)) :
    (commandsFor input).withSequence 0 = commandsFor input := by
  cases input with
  | none => rfl
  | some message =>
      by_cases hOff : message.chassisEnable = 0
      · rw [commandsFor_disabled hOff]
        rfl
      · cases hSource : message.source <;>
          simp only [commandsFor, Commands.withSequence, composeChassisCommand, composeArmCommand,
            composeGimbalCommand, composeGantryCommand, hSource, hOff, ne_eq, reduceCtorEq,
            not_true, not_false_iff, or_false, or_true, if_false, if_true] <;>
          rfl

omit [FloatSource F] in
theorem foldl_keepLatest (published : List (InputPublication F))
    (kept : RemoteInputMessage F × Bool) :
    published.foldl (fun kept publication => keepLatest kept publication.input) kept =
      match published.getLast? with
      | none => kept
      | some publication => (publication.input, true) := by
  rcases List.eq_nil_or_concat published with rfl | ⟨front, publication, rfl⟩
  · rfl
  · simp [keepLatest]

/-- After a stream the module composes the commands of its last accepted input. -/
theorem composeCommands_receiveBytes (m : RemoteInputModule F) (stream : List UInt8) :
    (m.initialized.receiveBytes stream).1.composeCommands =
      commandsFor (acceptedInputs m stream).getLast? := by
  have hLatest := absorbs_latest.receiveBytes m.initialized stream
  rw [foldl_keepLatest] at hLatest
  unfold composeCommands acceptedInputs
  rw [List.getLast?_map]
  cases hLast : (m.initialized.receiveBytes stream).2.getLast? with
  | none =>
      rw [hLast] at hLatest
      have hValid : (m.initialized.receiveBytes stream).1.latestInputValid = false :=
        congrArg Prod.snd hLatest
      rw [if_neg (by simp [hValid])]
      rfl
  | some publication =>
      rw [hLast] at hLatest
      have hInput : (m.initialized.receiveBytes stream).1.latestInput = publication.input :=
        congrArg Prod.fst hLatest
      have hValid : (m.initialized.receiveBytes stream).1.latestInputValid = true :=
        congrArg Prod.snd hLatest
      rw [if_pos hValid, hInput]
      rfl

theorem Alike.composeCommands {m m' : RemoteInputModule F} (alike : Alike m m') :
    m.composeCommands = m'.composeCommands := by
  have hSame : m.unsequenced = m'.unsequenced := alike
  have hCommands := congrArg RemoteInputModule.composeCommands hSame
  exact hCommands

/-- At every tick of every run the four commands are composed from one input: the
last one accepted from the bytes received so far, however these were cut into
chunks and ticks. If there is none or it is disabled, nothing is told to move. -/
theorem tick_commands_follow_last_input (m : RemoteInputModule F)
    (batches : List (List UartRawFrameMessage)) (frames : List UartRawFrameMessage) :
    let commands := ((m.initialized.afterTicks batches).runLoopTick frames).2.2
    let input := (acceptedInputs m (streamOf (batches.flatten ++ frames))).getLast?
    commands.unsequenced = commandsFor input ∧
      ((∀ message, input = some message → message.chassisEnable = 0) → commands.Stopped) := by
  intro commands input
  have hStart : Alike m.initialized m.initialized := rfl
  have hAlike := ((afterTicks_alike hStart batches).receiveBytes (streamOf frames)).1
  rw [← receiveBytes_append, ← streamOf_append] at hAlike
  have hCompose :
      ((m.initialized.afterTicks batches).receiveBytes (streamOf frames)).1.composeCommands =
      commandsFor input := by
    rw [hAlike.composeCommands, composeCommands_receiveBytes]
  have hCommands : commands.unsequenced = commandsFor input := by
    rw [← commandsFor_withSequence, ← hCompose, ← decodeUartFramesInQueue_eq]
    rfl
  refine ⟨hCommands, fun hDisabled => ?_⟩
  have hStopped := commandsFor_stopped hDisabled
  rw [← hCommands] at hStopped
  exact Commands.stopped_withSequence hStopped _

end RmTest.Modules.RemoteInputModule
