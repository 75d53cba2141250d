import RmTest.Library.LatestValue
import RmTest.Library.Run
import RmTest.Modules.Arm
import RmTest.Modules.Gantry
import RmTest.Modules.Gimbal
import RmTest.Modules.RemoteInput

/-! The commands that the remote input publishes and the three modules that
integrate them, in any interleaving of their ticks. -/
namespace RmTest.Modules

open Channels Platform FloatModel

inductive CommandConsumer where
  | arm
  | gantry
  | gimbal
  deriving DecidableEq

variable {F : Type}

structure CommandSystem (F : Type) where
  remoteInput : RemoteInputModule F
  arm : ArmModule F
  gantry : GantryLoop F
  gimbal : GimbalModule F
  port : CanPort
  armChan : ZbusChan (ArmCommandMessage F)
  gantryChan : ZbusChan (GantryCommandMessage F)
  gimbalChan : ZbusChan (GimbalCommandMessage F)
  /-- The sequence numbers published, and those of the commands whose deltas each
  consumer was seen to integrate. -/
  deliveries : Deliveries CommandConsumer UInt32

/-- A tick of the remote input, or of one of the consumers, which finds its command
channel locked or not. -/
inductive CommandEvent where
  | remoteInputTick (frames : List UartRawFrameMessage)
  | armTick (frames : List CanRawFrameMessage) (locked : Bool)
  | gantryTick (arrived : List CanRawFrameMessage) (locked : Bool)
  | gimbalTick (nowMs : Int) (locked : Bool)

/-- The consumer that reads its channel in an event. -/
def CommandEvent.reader : CommandEvent → Option CommandConsumer
  | .armTick _ false => some .arm
  | .gantryTick _ false => some .gantry
  | .gimbalTick _ false => some .gimbal
  | _ => none

namespace CommandSystem

/-- Before any publication, the modules in any state. -/
def start [Zero F] (remoteInput : RemoteInputModule F) (arm : ArmModule F) (gantry : GantryLoop F)
    (gimbal : GimbalModule F) (port : CanPort) : CommandSystem F where
  remoteInput := remoteInput
  arm := arm
  gantry := gantry
  gimbal := gimbal
  port := port
  armChan := ⟨0⟩
  gantryChan := ⟨0⟩
  gimbalChan := ⟨0⟩
  deliveries := .empty

/-- The command in a consumer's channel, by its sequence number, if it is one whose
deltas `HandleCommand` integrates. -/
def held (s : CommandSystem F) : CommandConsumer → Option UInt32
  | .arm =>
      if s.armChan.message.enable = 0 then none else some s.armChan.message.sequence
  | .gantry =>
      if s.gantryChan.message.enable = 0 then none else some s.gantryChan.message.sequence
  | .gimbal =>
      if s.gimbalChan.message.enable = 0 then none else some s.gimbalChan.message.sequence

/-- The virtual targets of a consumer. -/
def targets (s : CommandSystem F) : CommandConsumer → List F
  | .arm => s.arm.virtualTargets
  | .gantry => s.gantry.gantry.virtualTargets
  | .gimbal => s.gimbal.virtualTargets

variable [FloatSource F]

/-- The virtual targets of the consumer that ticks, moved by the deltas of the command
in its channel as far as its limits let them. Those of the arm's claw are not moved
while it would close on an object. -/
def moved (s : CommandSystem F) : CommandEvent → List F
  | .remoteInputTick _ => []
  | .armTick frames _ =>
      let arm := s.arm.decodeCanFramesInQueue frames
      let command := s.armChan.message
      let flip := command.wristFlipDelta
      let twist := command.wristTwistDelta
      [(arm.controlClaw (s.arm.clawsVirtualAngle + command.clawDelta)).clawsVirtualAngle,
        clamp (s.arm.elbowPitchJointVirtualAngle + command.elbowPitchDelta)
          (-ArmModule.kElbowPitchLimit) ArmModule.kElbowPitchLimit,
        clamp (s.arm.elbowYawJointVirtualAngle + command.elbowYawDelta)
          (-ArmModule.kElbowYawLimit) ArmModule.kElbowYawLimit,
        clamp (s.arm.wristJointLeftVirtualAngle + (flip + twist))
          (-ArmModule.kWristLimit) ArmModule.kWristLimit,
        clamp (s.arm.wristJointRightVirtualAngle + (flip - twist))
          (-ArmModule.kWristLimit) ArmModule.kWristLimit]
  | .gantryTick _ _ =>
      let gantry := s.gantry.gantry
      let command := s.gantryChan.message
      [clamp (gantry.xAxisVirtualDistance + command.xDelta)
          (-GantryModule.kXAxisLimit) GantryModule.kXAxisLimit,
        clamp (gantry.yAxisVirtualDistance + command.yDelta)
          (-GantryModule.kYAxisLimit) GantryModule.kYAxisLimit,
        clamp (gantry.zAxisVirtualDistance + command.zDelta)
          (-GantryModule.kZAxisLimit) GantryModule.kZAxisLimit]
  | .gimbalTick _ _ =>
      let command := s.gimbalChan.message
      [clamp (s.gimbal.yawAngleDeg + command.yawDeltaDeg)
          GimbalModule.kYawMin GimbalModule.kYawMax,
        clamp (s.gimbal.pitchAngleDeg + command.pitchDeltaDeg)
          GimbalModule.kPitchMin GimbalModule.kPitchMax]

variable [DecidableEq F]

/-- The account of an event, seen from the virtual targets that a consumer has after
it: a read counts as integrating the command if they are the ones the deltas lead to. -/
def account (s : CommandSystem F) (event : CommandEvent) (consumer : CommandConsumer)
    (after : List F) : Deliveries CommandConsumer UInt32 :=
  if event.reader = some consumer then
    s.deliveries.read consumer (if after = s.moved event then s.held consumer else none)
  else s.deliveries

def step (s : CommandSystem F) : CommandEvent → CommandSystem F
  | .remoteInputTick frames =>
      let (remoteInput, _, commands) := s.remoteInput.runLoopTick frames
      { s with
        remoteInput := remoteInput
        armChan := ⟨commands.arm⟩
        gantryChan := ⟨commands.gantry⟩
        gimbalChan := ⟨commands.gimbal⟩
        deliveries := s.deliveries.publish commands.arm.sequence }
  | .armTick frames locked =>
      let (arm, port, _) := s.arm.runLoopTick s.port frames (s.armChan.read locked)
      { s with
        arm := arm
        port := port
        deliveries := s.account (.armTick frames locked) .arm arm.virtualTargets }
  | .gantryTick arrived locked =>
      let (gantry, port) := s.gantry.tick s.port arrived (s.gantryChan.read locked)
      { s with
        gantry := gantry
        port := port
        deliveries :=
          s.account (.gantryTick arrived locked) .gantry gantry.gantry.virtualTargets }
  | .gimbalTick nowMs locked =>
      let (gimbal, _, _) := s.gimbal.runLoopTick (s.gimbalChan.read locked) nowMs
      { s with
        gimbal := gimbal
        deliveries := s.account (.gimbalTick nowMs locked) .gimbal gimbal.virtualTargets }

/-- The sequence number that a tick of the remote input publishes is a fresh one. -/
def FreshSequence (s : CommandSystem F) : CommandEvent → Prop
  | .remoteInputTick frames =>
      (s.remoteInput.runLoopTick frames).2.2.arm.sequence ∉ s.deliveries.published
  | _ => True

/-- A consumer that reads a command which it would integrate has not read its
channel since that command was published. -/
def ReadsNew (s : CommandSystem F) (event : CommandEvent) : Prop :=
  ∀ consumer ∈ event.reader, (s.held consumer).isSome → s.deliveries.readSince consumer = false

/-- In every step, the targets of a consumer are moved by the deltas of a command
exactly when the account lists that command; otherwise they stay where they are, but for
those of a gantry that reads a disabling command, which become zero. -/
def Accounted (s : CommandSystem F) (event : CommandEvent) : Prop :=
  ∀ consumer,
    match if event.reader = some consumer then s.held consumer else none with
    | some id =>
        (s.step event).targets consumer = s.moved event ∧
          (s.step event).deliveries.applied consumer = s.deliveries.applied consumer ++ [id]
    | none =>
        ((s.step event).targets consumer = s.targets consumer ∨
          consumer = .gantry ∧ event.reader = some .gantry ∧
            (s.step event).targets consumer = [0, 0, 0]) ∧
          (s.step event).deliveries.applied consumer = s.deliveries.applied consumer

omit [DecidableEq F] in
/-- What `HandleCommand` of the arm makes of an enabling command. -/
theorem virtualTargets_handleCommand (m : ArmModule F) {command : ArmCommandMessage F}
    (enabled : command.enable ≠ 0) :
    (m.handleCommand command).virtualTargets =
      [(m.controlClaw (m.clawsVirtualAngle + command.clawDelta)).clawsVirtualAngle,
        clamp (m.elbowPitchJointVirtualAngle + command.elbowPitchDelta)
          (-ArmModule.kElbowPitchLimit) ArmModule.kElbowPitchLimit,
        clamp (m.elbowYawJointVirtualAngle + command.elbowYawDelta)
          (-ArmModule.kElbowYawLimit) ArmModule.kElbowYawLimit,
        clamp (m.wristJointLeftVirtualAngle + (command.wristFlipDelta + command.wristTwistDelta))
          (-ArmModule.kWristLimit) ArmModule.kWristLimit,
        clamp (m.wristJointRightVirtualAngle + (command.wristFlipDelta - command.wristTwistDelta))
          (-ArmModule.kWristLimit) ArmModule.kWristLimit] := by
  have hClaw : ∃ angle,
      m.controlClaw (m.clawsVirtualAngle + command.clawDelta) =
        { m with clawsVirtualAngle := angle } := by
    simp only [ArmModule.controlClaw]
    split_ifs
    · exact ⟨m.clawsVirtualAngle, rfl⟩
    · exact ⟨_, rfl⟩
  obtain ⟨angle, hClaw⟩ := hClaw
  simp only [ArmModule.handleCommand, if_neg enabled, hClaw]
  rfl

/-- A tick that reads a command to integrate moves the targets by its deltas. -/
theorem targets_step_of_reads {s : CommandSystem F} {event : CommandEvent}
    {consumer : CommandConsumer} (reads : event.reader = some consumer)
    (integrates : s.held consumer ≠ none) : (s.step event).targets consumer = s.moved event := by
  have hEnabled {enable : UInt8} {sequence : UInt32}
      (h : (if enable = 0 then none else some sequence) ≠ none) : enable ≠ 0 :=
    fun hDisabled => h (if_pos hDisabled)
  cases event with
  | remoteInputTick frames => cases reads
  | armTick frames locked =>
      cases locked <;> cases reads
      have hKept := s.arm.virtualTargets_decodeCanFramesInQueue frames
      simp only [ArmModule.virtualTargets, List.cons.injEq, and_true] at hKept
      obtain ⟨hClaw, hPitch, hYaw, hLeft, hRight⟩ := hKept
      have hHandled := virtualTargets_handleCommand (s.arm.decodeCanFramesInQueue frames)
        (hEnabled integrates)
      rw [hClaw, hPitch, hYaw, hLeft, hRight] at hHandled
      exact hHandled
  | gantryTick arrived locked =>
      cases locked <;> cases reads
      have hKept : (s.gantry.gantry.decodeCanFramesInQueue
          (s.gantry.queue ++ arrived)).1.virtualTargets = s.gantry.gantry.virtualTargets :=
        s.gantry.gantry.virtualTargets_decodeCanFrames 0 _
      simp only [GantryModule.virtualTargets, List.cons.injEq, and_true] at hKept
      obtain ⟨hX, hY, hZ⟩ := hKept
      have hHandled (m : GantryModule F) : (m.handleCommand s.gantryChan.message).virtualTargets =
          [clamp (m.xAxisVirtualDistance + s.gantryChan.message.xDelta)
              (-GantryModule.kXAxisLimit) GantryModule.kXAxisLimit,
            clamp (m.yAxisVirtualDistance + s.gantryChan.message.yDelta)
              (-GantryModule.kYAxisLimit) GantryModule.kYAxisLimit,
            clamp (m.zAxisVirtualDistance + s.gantryChan.message.zDelta)
              (-GantryModule.kZAxisLimit) GantryModule.kZAxisLimit] := by
        rw [GantryModule.handleCommand, if_neg (hEnabled integrates)]
        rfl
      refine (s.gantry.virtualTargets_tick s.port arrived _).trans ?_
      refine (hHandled (s.gantry.gantry.decodeCanFramesInQueue (s.gantry.queue ++ arrived)).1).trans
        ?_
      rw [hX, hY, hZ]
      rfl
  | gimbalTick nowMs locked =>
      cases locked <;> cases reads
      refine (s.gimbal.virtualTargets_runLoopTick _ nowMs).trans ?_
      have hHandled : (s.gimbal.handleCommand s.gimbalChan.message).virtualTargets =
          s.moved (.gimbalTick nowMs false) := by
        rw [GimbalModule.handleCommand, if_neg (hEnabled integrates)]
        rfl
      exact hHandled

/-- A step without a command to integrate for a consumer keeps its targets, but for
those of a gantry that is disabled. -/
theorem targets_step_of_idle {s : CommandSystem F} {event : CommandEvent}
    {consumer : CommandConsumer} (idle : event.reader = some consumer → s.held consumer = none) :
    (s.step event).targets consumer = s.targets consumer ∨
      (consumer = .gantry ∧ event.reader = some .gantry ∧
        (s.step event).targets consumer = [0, 0, 0]) := by
  have hDisabled {enable : UInt8} {sequence : UInt32}
      (h : (if enable = 0 then none else some sequence) = none) : enable = 0 := by
    split_ifs at h with hEnable
    exact hEnable
  cases event with
  | remoteInputTick frames => cases consumer <;> exact .inl rfl
  | armTick frames locked =>
      cases consumer with
      | arm =>
          refine .inl (s.arm.virtualTargets_runLoopTick_of_disabled s.port frames ?_)
          intro command hRead
          cases locked with
          | true => cases hRead
          | false =>
              cases hRead
              exact hDisabled (idle rfl)
      | gantry => exact .inl rfl
      | gimbal => exact .inl rfl
  | gantryTick arrived locked =>
      cases consumer with
      | arm => exact .inl rfl
      | gantry =>
          have hTick := s.gantry.virtualTargets_tick s.port arrived (s.gantryChan.read locked)
          cases locked with
          | true =>
              exact .inl (hTick.trans (s.gantry.gantry.virtualTargets_decodeCanFrames 0 _))
          | false =>
              refine .inr ⟨rfl, rfl, hTick.trans ?_⟩
              have hZero (m : GantryModule F) : m.handleCommand s.gantryChan.message =
                  { m with
                    xAxisVirtualDistance := 0
                    yAxisVirtualDistance := 0
                    zAxisVirtualDistance := 0 } := if_pos (hDisabled (idle rfl))
              exact congrArg GantryModule.virtualTargets (hZero _)
      | gimbal => exact .inl rfl
  | gimbalTick nowMs locked =>
      cases consumer with
      | arm => exact .inl rfl
      | gantry => exact .inl rfl
      | gimbal =>
          refine .inl ((s.gimbal.virtualTargets_runLoopTick _ nowMs).trans
            (s.gimbal.virtualTargets_receive_of_disabled ?_))
          intro command hRead
          cases locked with
          | true => cases hRead
          | false =>
              cases hRead
              exact hDisabled (idle rfl)

/-- A tick that publishes nothing leaves the channels as they are, and a read is
accounted for by the command it integrates. -/
theorem step_of_reader {s : CommandSystem F} {event : CommandEvent} {consumer : CommandConsumer}
    (reads : event.reader = some consumer) :
    (s.step event).held = s.held ∧
      (s.step event).deliveries = s.deliveries.read consumer (s.held consumer) := by
  have hAccount : (s.step event).held = s.held ∧ (s.step event).deliveries =
      s.account event consumer ((s.step event).targets consumer) := by
    cases event with
    | remoteInputTick frames => cases reads
    | armTick frames locked => cases locked <;> cases reads; exact ⟨rfl, rfl⟩
    | gantryTick arrived locked => cases locked <;> cases reads; exact ⟨rfl, rfl⟩
    | gimbalTick nowMs locked => cases locked <;> cases reads; exact ⟨rfl, rfl⟩
  refine ⟨hAccount.1, hAccount.2.trans ?_⟩
  rw [account, if_pos reads]
  by_cases hHeld : s.held consumer = none
  · rw [hHeld, ite_self]
  · rw [if_pos (targets_step_of_reads reads hHeld)]

/-- A locked channel keeps its consumer from reading. -/
theorem step_of_locked {s : CommandSystem F} {event : CommandEvent} (reads : event.reader = none)
    (ticks : ∀ frames, event ≠ .remoteInputTick frames) :
    (s.step event).held = s.held ∧ (s.step event).deliveries = s.deliveries := by
  cases event with
  | remoteInputTick frames => exact absurd rfl (ticks frames)
  | armTick frames locked => cases locked <;> cases reads; exact ⟨rfl, rfl⟩
  | gantryTick arrived locked => cases locked <;> cases reads; exact ⟨rfl, rfl⟩
  | gimbalTick nowMs locked => cases locked <;> cases reads; exact ⟨rfl, rfl⟩

/-- Only the consumer that reads gets an entry in the account. -/
theorem applied_step_of_other {s : CommandSystem F} {event : CommandEvent}
    {consumer : CommandConsumer} (other : event.reader ≠ some consumer) :
    (s.step event).deliveries.applied consumer = s.deliveries.applied consumer := by
  cases hReader : event.reader with
  | some reader =>
      have hOther : consumer ≠ reader := by
        rintro rfl
        exact other hReader
      rw [(step_of_reader hReader).2]
      exact Deliveries.applied_read_other hOther _
  | none =>
      by_cases hTick : ∃ frames, event = .remoteInputTick frames
      · obtain ⟨frames, rfl⟩ := hTick
        rfl
      · rw [(step_of_locked hReader (not_exists.mp hTick)).2]

theorem accounted (s : CommandSystem F) (event : CommandEvent) : s.Accounted event := by
  intro consumer
  by_cases hReads : event.reader = some consumer
  · have hApplied : (s.step event).deliveries.applied consumer =
        s.deliveries.applied consumer ++ (s.held consumer).toList := by
      rw [(step_of_reader hReads).2]
      exact Deliveries.applied_read consumer _
    rw [if_pos hReads]
    cases hHeld : s.held consumer with
    | some id =>
        rw [hHeld] at hApplied
        exact ⟨targets_step_of_reads hReads (by simp [hHeld]), hApplied⟩
    | none =>
        rw [hHeld, Option.toList_none, List.append_nil] at hApplied
        exact ⟨targets_step_of_idle (fun _ => hHeld), hApplied⟩
  · rw [if_neg hReads]
    exact ⟨targets_step_of_idle (fun hReader => absurd hReader hReads),
      applied_step_of_other hReads⟩

/-- The three commands of a tick carry the same sequence number. -/
theorem tracks_publish {s : CommandSystem F} (tracks : s.deliveries.Tracks s.held)
    {frames : List UartRawFrameMessage} (fresh : s.FreshSequence (.remoteInputTick frames)) :
    (s.step (.remoteInputTick frames)).deliveries.Tracks
      (s.step (.remoteInputTick frames)).held := by
  refine tracks.publish fresh ?_
  have hHeld (enable : UInt8) (sequence id : UInt32)
      (h : id ∈ if enable = 0 then none else some sequence) : id = sequence := by
    split_ifs at h
    · cases h
    · exact (Option.some.inj h).symm
  intro consumer id h
  cases consumer <;> exact hHeld _ _ id h

theorem tracks_step (s : CommandSystem F) (event : CommandEvent)
    (tracks : s.deliveries.Tracks s.held) (fresh : s.FreshSequence event) :
    (s.step event).deliveries.Tracks (s.step event).held := by
  cases hReader : event.reader with
  | some consumer =>
      obtain ⟨hHeld, hDeliveries⟩ := step_of_reader (s := s) hReader
      rw [hHeld, hDeliveries]
      exact tracks.read consumer
  | none =>
      by_cases hTick : ∃ frames, event = .remoteInputTick frames
      · obtain ⟨frames, rfl⟩ := hTick
        exact tracks_publish tracks fresh
      · obtain ⟨hHeld, hDeliveries⟩ := step_of_locked (s := s) hReader (not_exists.mp hTick)
        rwa [hHeld, hDeliveries]

theorem readsNew_iff (s : CommandSystem F) (event : CommandEvent)
    (tracks : s.deliveries.Tracks s.held) (once : s.deliveries.Once) :
    s.ReadsNew event ↔ (s.step event).deliveries.Once := by
  cases hReader : event.reader with
  | some consumer =>
      rw [(step_of_reader (s := s) hReader).2, Deliveries.once_read_iff tracks once consumer,
        ReadsNew, hReader]
      simp
  | none =>
      refine iff_of_true (by simp [ReadsNew, hReader]) ?_
      by_cases hTick : ∃ frames, event = .remoteInputTick frames
      · obtain ⟨frames, rfl⟩ := hTick
        exact once
      · rw [(step_of_locked (s := s) hReader (not_exists.mp hTick)).2]
        exact once

/-- The account of a run tells what happens to the virtual targets. With fresh sequence
numbers, no consumer integrates the deltas of a command twice exactly if every read of a
command to integrate is the first since the command was published. -/
theorem appliedOnce_iff (remoteInput : RemoteInputModule F) (arm : ArmModule F)
    (gantry : GantryLoop F) (gimbal : GimbalModule F) (port : CanPort) {events : List CommandEvent}
    (fresh : Run.Along step FreshSequence (start remoteInput arm gantry gimbal port) events) :
    Run.Along step Accounted (start remoteInput arm gantry gimbal port) events ∧
      (Run.Along step ReadsNew (start remoteInput arm gantry gimbal port) events ↔
        Run.Always step (fun s => s.deliveries.Once) (start remoteInput arm gantry gimbal port)
          events) := by
  constructor
  · exact Run.along_of_invariant (fun _ _ (_ : True) _ => trivial)
      (fun s event _ _ => s.accounted event) trivial (Run.along_trivial _ _)
  · refine Run.along_iff_always_of tracks_step
      (fun s event tracks _ once => readsNew_iff s event tracks once) ?_ Deliveries.once_empty fresh
    have hHeld : (start remoteInput arm gantry gimbal port).held = fun _ => none := by
      funext consumer
      cases consumer <;> rfl
    rw [hHeld]
    exact Deliveries.tracks_empty

/-- After the `Initialize` of all modules, without servos. -/
def initial : CommandSystem NanRat :=
  start (RemoteInputModule.zeroed NanRat).initialized (ArmModule.zeroed NanRat).initialized
    (.entered (GantryModule.zeroed NanRat).initialized) (.initialized false fun _ => none)
    { canDev := fun _ => true, sent := [] }

/-- The text `dr16 0.5 0 0 1`, terminated, as the polled receiver chunks it. -/
def halfLine : List UartRawFrameMessage :=
  [0x64, 0x72, 0x31, 0x36, 0x20, 0x30, 0x2e, 0x35, 0x20, 0x30, 0x20, 0x30, 0x20, 0x31, 0x0a].map
    UartRawFrameMessage.ofByte

theorem appliedOnce_iff_halfLine :
    Run.Along step Accounted initial [.remoteInputTick halfLine, .gantryTick [] false] ∧
      (Run.Along step ReadsNew initial [.remoteInputTick halfLine, .gantryTick [] false] ↔
        Run.Always step (fun s => s.deliveries.Once) initial
          [.remoteInputTick halfLine, .gantryTick [] false]) := by
  have hFresh : Run.Along step FreshSequence initial
      [.remoteInputTick halfLine, .gantryTick [] false] :=
    ⟨List.not_mem_nil, trivial, trivial⟩
  exact appliedOnce_iff _ _ _ _ _ hFresh

/-- One publication and two ticks of the gantry. -/
def rereadEvents : List CommandEvent :=
  [.remoteInputTick halfLine, .gantryTick [] false, .gantryTick [] false]

/-- The second tick integrates the deltas again: the X axis moves by twice the 0.01
that was commanded. -/
theorem command_applied_twice :
    (¬ Run.Always step (fun s => s.deliveries.Once) initial rereadEvents) ∧
      (rereadEvents.foldl step initial).gantry.gantry.xAxisVirtualDistance = .num (2 / 100) := by
  constructor
  · intro hAlways
    have hEnd := (Run.always_iff _ _ _ _).mp hAlways rereadEvents List.prefix_rfl .gantry
    revert hEnd
    decide +kernel
  · decide +kernel

end CommandSystem

end RmTest.Modules
