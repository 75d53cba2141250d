import RmTest.Verification.RemoteInputCommands
import RmTest.Verification.UartReaders

/-! From the serial line to the four command channels. -/
namespace RmTest.Modules.RemoteInputModule

open Channels Platform Protocols UartDispatch

variable {F : Type} [FloatSource F]

/-- A pass takes chunks one by one, and ends like a tick that finds nothing. -/
def reader (F : Type) [FloatSource F] : UartReader (RemoteInputModule F) (Commands F) where
  consumer := .remoteInput
  start := (zeroed F).initialized
  feed m frame := (m.receiveBytes frame.bytes).1
  act m := ((m.runLoopTick []).1, (m.runLoopTick []).2.2)

/-- A number for each input. -/
def nextNumber {Out : Type} (sequence : UInt32) (_ : Out) : UInt32 := sequence + 1

theorem foldl_nextNumber {Out : Type} (outs : List Out) (sequence : UInt32) :
    outs.foldl nextNumber sequence = sequence + UInt32.ofNat outs.length := by
  induction outs generalizing sequence with
  | nil => exact (UInt32.add_zero sequence).symm
  | cons out rest ih =>
      rw [List.foldl_cons, ih, nextNumber, List.length_cons, UInt32.ofNat_add, UInt32.add_assoc,
        UInt32.add_comm 1]
      rfl

omit [FloatSource F] in
theorem absorbs_sequence : Absorbs (F := F) (·.publishSequence) nextNumber where
  append _ _ := rfl
  consume m bytes := by
    unfold consumeBinary
    split_ifs <;> rfl
  line _ _ _ := rfl
  accept _ _ := rfl

/-- Each accepted input takes the next number. -/
theorem sequence_receiveBytes (m : RemoteInputModule F) (bytes : List UInt8) :
    (m.receiveBytes bytes).1.publishSequence =
      m.publishSequence + UInt32.ofNat (m.receiveBytes bytes).2.length := by
  rw [← foldl_nextNumber]
  exact absorbs_sequence.receiveBytes m bytes

/-- The commands that some bytes and a number of passes lead to. Inputs and passes draw
their numbers from one counter. -/
def commandsOn (F : Type) [FloatSource F] (bytes : List UInt8) (passes : Nat) : Commands F :=
  (commandsFor (acceptedInputs (zeroed F) bytes).getLast?).withSequence
    (UInt32.ofNat ((acceptedInputs (zeroed F) bytes).length + passes))

/-- After a disabled input nothing is told to move. -/
theorem commandsOn_stopped {bytes : List UInt8}
    (disabled : ∀ message, (acceptedInputs (zeroed F) bytes).getLast? = some message →
      message.chassisEnable = 0) (passes : Nat) : (commandsOn F bytes passes).Stopped := by
  have hStopped := commandsFor_stopped disabled
  rw [← commandsFor_withSequence] at hStopped
  exact Commands.stopped_withSequence hStopped _

/-- The module is, but for the numbers, what the bytes alone make of it. -/
structure Knows (m : RemoteInputModule F) (bytes : List UInt8) (passes : Nat) : Prop where
  alike : Alike m ((zeroed F).initialized.receiveBytes bytes).1
  counted : m.publishSequence =
    UInt32.ofNat ((acceptedInputs (zeroed F) bytes).length + passes)

theorem Knows.receiveBytes {m : RemoteInputModule F} {bytes : List UInt8} {passes : Nat}
    (knows : m.Knows bytes passes) (more : List UInt8) :
    (m.receiveBytes more).1.Knows (bytes ++ more) passes := by
  obtain ⟨hAlike, hOutputs⟩ := knows.alike.receiveBytes more
  have hAccepted : (acceptedInputs (zeroed F) (bytes ++ more)).length =
      (acceptedInputs (zeroed F) bytes).length + (m.receiveBytes more).2.length := by
    have hLength := congrArg List.length hOutputs
    rw [List.length_map, List.length_map] at hLength
    simp only [acceptedInputs, List.length_map, RemoteInputModule.receiveBytes,
      Run.transduce_append, List.length_append] at hLength ⊢
    rw [hLength]
  constructor
  · rw [receiveBytes_append]
    exact hAlike
  · rw [sequence_receiveBytes, knows.counted, hAccepted, ← UInt32.ofNat_add]
    congr 1
    omega

theorem Knows.runLoopTick {m : RemoteInputModule F} {bytes : List UInt8} {passes : Nat}
    (knows : m.Knows bytes passes) :
    (m.runLoopTick []).2.2 = commandsOn F bytes (passes + 1) ∧
      (m.runLoopTick []).1.Knows bytes (passes + 1) := by
  have hSequence : m.publishSequence + 1 =
      UInt32.ofNat ((acceptedInputs (zeroed F) bytes).length + (passes + 1)) := by
    rw [knows.counted, ← Nat.add_assoc, UInt32.ofNat_add _ 1]
    rfl
  constructor
  · rw [commandsOn, ← composeCommands_receiveBytes, ← knows.alike.composeCommands, ← hSequence]
    rfl
  · exact ⟨knows.alike, hSequence⟩

def account (F : Type) [FloatSource F] : (reader F).Account where
  Knows := Knows
  Fits _ _ := True
  said := commandsOn F
  start := ⟨rfl, rfl⟩
  fits_byte _ _ := trivial
  feed knows _ := knows.receiveBytes _
  act := Knows.runLoopTick

/-- What the module commands, however the driver, the dispatcher and the modules take
turns. Every pass commands what the bytes fed so far ask for, which are bytes of the wire
in their order, and all those dispatched unless a queue overflows; a pass that is not
disturbed commands what everything dispatched asks for, and if that ends in a disabled
input, nothing is told to move. -/
theorem commands_follow_wire (mode : RxMode) (events : List (ReaderEvent (reader F).consumer)) :
    let s := events.foldl ((reader F).step mode) (reader F).boot
    let passed := ((reader F).pass s).foldl ((reader F).step mode) s
    (∃ counts : List Nat, counts.Pairwise (· ≤ ·) ∧
      (∀ count ∈ counts, count ≤ ((reader F).fed s).length) ∧
      s.handed = counts.mapIdx fun i count =>
        commandsOn F (((reader F).fed s).take count) (i + 1)) ∧
      (s.point = .acting → ((reader F).step mode s .act).handed =
        s.handed ++ [commandsOn F ((reader F).fed s) (s.handed.length + 1)]) ∧
      ((reader F).fed s).Sublist s.wire ∧
      (Run.Along ((reader F).step mode) UartReader.NoOverflow (reader F).boot events →
        (reader F).dispatched s ++ s.uart.undispatched .remoteInput = s.wire) ∧
      (s.point = .taking →
        passed.handed = s.handed ++ [commandsOn F ((reader F).dispatched s) (s.handed.length + 1)] ∧
        ((∀ message, (acceptedInputs (zeroed F) ((reader F).dispatched s)).getLast? = some message →
          message.chassisEnable = 0) → ∀ commands ∈ passed.handed.getLast?, commands.Stopped)) := by
  intro s passed
  have hFits : mode = .async → ∀ state frame, (account F).Fits state frame :=
    fun _ _ _ => trivial
  have hFollows := UartReader.follows_run UartReader.follows_boot
    (UartReader.fitting_run hFits _ events)
  obtain ⟨counts, hReports⟩ := hFollows.reports
  refine ⟨⟨counts, hReports.ordered, hReports.fed_le, hReports.handed_eq⟩,
    fun hActing => hFollows.handed_act hActing, UartReader.fed_sublist hFollows.sound,
    fun hRoom => UartReader.dispatched_append (UartReader.lossless_run hRoom), fun hTaking => ?_⟩
  have hPass := hFollows.pass hTaking (UartReader.fitting_run hFits s _)
  refine ⟨hPass, fun hDisabled commands hLast => ?_⟩
  rw [hPass, List.getLast?_concat] at hLast
  cases hLast
  exact commandsOn_stopped hDisabled _

/-- The line `dr16 1 0 0 0` and a line feed, which enables nothing. -/
def disabledLine : List UInt8 :=
  [0x64, 0x72, 0x31, 0x36, 0x20, 0x31, 0x20, 0x30, 0x20, 0x30, 0x20, 0x30, 0x0a]

def disabledEvents : List (ReaderEvent (reader NanRat).consumer) :=
  [.line (.receive disabledLine) nofun, .line .callbackPut nofun, .line .dispatcherGet nofun,
    .line .dispatcherEnqueue nofun]

theorem commands_follow_wire_disabled :
    let s := disabledEvents.foldl ((reader NanRat).step .async) (reader NanRat).boot
    (reader NanRat).dispatched s ++ s.uart.undispatched .remoteInput = s.wire ∧
      ∀ commands ∈
        (((reader NanRat).pass s).foldl ((reader NanRat).step .async) s).handed.getLast?,
        commands.Stopped :=
  have hRun := (commands_follow_wire (F := NanRat) .async disabledEvents).2.2.2
  ⟨hRun.1 (by decide +kernel), (hRun.2 (by decide +kernel)).2 (by decide +kernel)⟩

end RmTest.Modules.RemoteInputModule
