import RmTest.Verification.ChassisWatchdog

/-! What the chassis sends when it is told to stand still and stands still, over
runs in exact arithmetic under the default tuning. -/
namespace RmTest.Modules

open Algorithms Channels Platform Services FloatModel

namespace ChassisModule

def wheelSpeedPidConfig : PidConfig ℚ :=
  .basic kPidKp kPidKi kPidKd 0 kIntegralLimit kCurrentLimit (lit (1 / 1000))

/-- The integral term of the default tuning stays far from all limits of the output. -/
theorem abs_integralTerm_le (integralError : ℚ) :
    |2 / 10 * mathConstrain integralError (-2500) 2500| ≤ 500 := by
  have hLimit := abs_clamp_rat_le integralError (show (0 : ℚ) ≤ 2500 by norm_num)
  rw [mathConstrain_eq_clamp, abs_mul, abs_of_pos (by norm_num)]
  linarith

/-- With target and speed zero, all that is left is the integral. -/
theorem update_rest {pid : Pid ℚ} (config : pid.config = wheelSpeedPidConfig) :
    (pid.update 0 0).2 = 2 / 10 * mathConstrain pid.integralError (-2500) 2500 := by
  have hIntegralLimit : (kIntegralLimit : ℚ) = 500 := rfl
  have hCurrentLimit : (kCurrentLimit : ℚ) = 16384 := rfl
  have hKi : (kPidKi : ℚ) = 2 / 10 := rfl
  have hKd : (kPidKd : ℚ) = 0 := rfl
  let entered : Pid ℚ := { pid with target := 0, now := 0 }
  have hDead : entered.applyDeadZone = (0, 0, 0) := by
    simp [entered, Pid.applyDeadZone, config, wheelSpeedPidConfig, PidConfig.basic, mathAbs]
  have hIntegral : (entered.integrate 0 0).2 =
      2 / 10 * mathConstrain pid.integralError (-2500) 2500 := by
    have hLimit : (500 : ℚ) / (2 / 10) = 2500 ∧ (-500 : ℚ) / (2 / 10) = -2500 := by norm_num
    simp [entered, Pid.integrate, config, wheelSpeedPidConfig, PidConfig.basic, hIntegralLimit, hKi,
      hLimit]
  have hDerivative : (entered.differentiate 0).1 = 0 := by
    simp [entered, Pid.differentiate, config, wheelSpeedPidConfig, PidConfig.basic, hKd]
  have hSmall : mathConstrain (2 / 10 * mathConstrain pid.integralError (-2500) 2500)
      (-16384) 16384 = 2 / 10 * mathConstrain pid.integralError (-2500) 2500 :=
    clamp_rat_of_abs_le ((abs_integralTerm_le pid.integralError).trans (by norm_num))
  simp only [entered] at hDead hIntegral hDerivative
  simp only [Pid.update, Pid.calculatePeriodElapsedCallback, hDead, hIntegral, hDerivative]
  simp [config, wheelSpeedPidConfig, PidConfig.basic, hCurrentLimit, hSmall]

/-- The current of a wheel at rest is zero exactly if its integral is small. -/
theorem castInt16_update_rest {pid : Pid ℚ} (config : pid.config = wheelSpeedPidConfig) :
    castInt16 (pid.update 0 0).2 = 0 ↔ |pid.integralError| < 5 := by
  rw [update_rest config,
    castInt16_rat_eq_zero_iff _ ((abs_integralTerm_le _).trans (by norm_num)), abs_lt, abs_lt]
  simp only [mathConstrain, lt_rat, decide_eq_true_eq]
  split_ifs <;> constructor <;> rintro ⟨hLow, hHigh⟩ <;> constructor <;> linarith

/-- The command asks for no motion. -/
def ZeroCommand (command : ChassisCommandMessage ℚ) : Prop :=
  command.targetVx = 0 ∧ command.targetVy = 0 ∧ command.targetWz = 0

instance (command : ChassisCommandMessage ℚ) : Decidable (ZeroCommand command) :=
  inferInstanceAs (Decidable (_ ∧ _ ∧ _))

/-- All wheels with valid feedback stand still. -/
def wheelsStill (m : ChassisModule ℚ) : Bool :=
  (List.finRange 4).all fun i =>
    !m.motorFeedbackValid.get i || decide ((m.motorFeedback.get i).omega = 0)

theorem omega_of_wheelsStill {m : ChassisModule ℚ} (still : m.wheelsStill = true) {i : Fin 4}
    (valid : m.motorFeedbackValid.get i = true) : (m.motorFeedback.get i).omega = 0 := by
  have hWheel := List.all_eq_true.mp still i (List.mem_finRange i)
  simpa [valid] using hWheel

/-- The integral of every wheel with valid feedback is too small for a current. -/
def IntegralsSpent (m : ChassisModule ℚ) : Prop :=
  ∀ i, m.motorFeedbackValid.get i = true → |(m.wheelSpeedPid.get i).integralError| < 5

theorem stopped_updateStateFromCommand_zero (m : ChassisModule ℚ)
    {command : ChassisCommandMessage ℚ} (zero : ZeroCommand command) :
    Stopped (m.updateStateFromCommand command).state := by
  obtain ⟨hVx, hVy, hWz⟩ := zero
  have hSpeed : clamp (0 : ℚ) (-20) 20 = 0 := (clamp_rat_eq_zero_iff 0 20 (by norm_num)).mpr rfl
  have hWheel : wheelTarget (0 : ℚ) 0 = 0 := by
    have hOmega := (clamp_rat_eq_zero_iff 0 40 (by norm_num)).mpr rfl
    simpa [wheelTarget, kWheelTargetOmegaLimit] using hOmega
  simp [Stopped, updateStateFromCommand, hVx, hVy, hWz, hSpeed, kCommandVxLimit, kCommandVyLimit,
    kCommandWzLimit, hWheel]

/-- At rest, the currents are zero exactly if the integrals are spent. -/
theorem wheelCurrents_rest {m : ChassisModule ℚ}
    (tuned : ∀ i, (m.wheelSpeedPid.get i).config = wheelSpeedPidConfig) (stopped : Stopped m.state)
    (still : m.wheelsStill = true) :
    m.wheelCurrents.2 = Vector.replicate 4 0 ↔ m.IntegralsSpent := by
  have hStep (i : Fin 4) (valid : m.motorFeedbackValid.get i = true) :
      castInt16 (m.wheelStep i).2 = 0 ↔ |(m.wheelSpeedPid.get i).integralError| < 5 := by
    have hTarget : #v[m.state.wheel1TargetOmega, m.state.wheel2TargetOmega,
        m.state.wheel3TargetOmega, m.state.wheel4TargetOmega].get i = 0 := by
      rw [stopped.1, stopped.2.1, stopped.2.2.1, stopped.2.2.2]
      match i with
      | 0 => rfl
      | 1 => rfl
      | 2 => rfl
      | 3 => rfl
    rw [wheelStep, hTarget, omega_of_wheelsStill still valid]
    exact castInt16_update_rest (tuned i)
  have hCurrent (i : Fin 4) : m.wheelCurrents.2.get i = 0 ↔
      (m.motorFeedbackValid.get i = true → |(m.wheelSpeedPid.get i).integralError| < 5) := by
    have hGet := congrArg Prod.snd (m.wheelCurrents_get i)
    by_cases hValid : m.motorFeedbackValid.get i = true
    · rw [if_pos hValid] at hGet
      rw [imp_iff_right hValid, ← hStep i hValid]
      exact Eq.congr_left hGet
    · rw [if_neg hValid] at hGet
      exact iff_of_true hGet (fun h => absurd h hValid)
  constructor
  · intro hZero i
    refine (hCurrent i).mp ?_
    rw [hZero]
    exact Vector.getElem_replicate i.isLt
  · intro hSpent
    apply Vector.ext
    intro i hi
    rw [Vector.getElem_replicate]
    exact (hCurrent ⟨i, hi⟩).mpr (hSpent ⟨i, hi⟩)

end ChassisModule

inductive ChassisLoopEvent where
  | publish (command : ChassisCommandMessage ℚ)
  | tick (frames : List CanRawFrameMessage) (locked : Bool)

structure ChassisLoop where
  chassis : ChassisModule ℚ
  port : CanPort
  commandChan : ZbusChan (ChassisCommandMessage ℚ)
  /-- The variable of `RunLoop` that holds the command read last. -/
  command : ChassisCommandMessage ℚ
  /-- The ticks in a row, up to the last one, that were at rest. -/
  restingTicks : Nat

namespace ChassisLoop

open ChassisModule

/-- After `Initialize`, before any publication. -/
def start (canDev : CanBus → Bool) : ChassisLoop where
  chassis := (ChassisModule.zeroed ℚ).initialized
  port := { canDev := canDev, sent := [] }
  commandChan := ⟨0⟩
  command := 0
  restingTicks := 0

/-- The command of a tick: the one it reads, or else the one read last. -/
def tickCommand (s : ChassisLoop) (locked : Bool) : ChassisCommandMessage ℚ :=
  (s.commandChan.read locked).getD s.command

/-- A tick with a command of zero and all wheels still. -/
def rests (s : ChassisLoop) (frames : List CanRawFrameMessage) (locked : Bool) : Bool :=
  decide (ZeroCommand (s.tickCommand locked)) &&
    (s.chassis.decodeCanFramesInQueue frames).wheelsStill

def step (s : ChassisLoop) : ChassisLoopEvent → ChassisLoop
  | .publish command => { s with commandChan := ⟨command⟩ }
  | .tick frames locked =>
      let (chassis, port, _) := s.chassis.runLoopTick s.port frames (s.commandChan.read locked)
      { s with
        chassis := chassis
        port := port
        command := s.tickCommand locked
        restingTicks := if s.rests frames locked then s.restingTicks + 1 else 0 }

/-- After two ticks at rest in a row, the currents on CAN1 are zero. -/
def OutputIsZero (s : ChassisLoop) : Prop :=
  2 ≤ s.restingTicks →
    ∀ currents ∈ Actuator.heldCurrents s.port .kCan1, currents = Vector.replicate 4 0

/-- In a tick at rest after another, with a device for CAN1, the integrals are spent
already unless the watchdog resets them. -/
def SpentInTime (s : ChassisLoop) : ChassisLoopEvent → Prop
  | .publish _ => True
  | .tick frames locked =>
      1 ≤ s.restingTicks → s.rests frames locked = true → s.port.canDev .kCan1 = true →
        s.chassis.WatchdogResets (s.commandChan.read locked) ∨
          (s.chassis.decodeCanFramesInQueue frames).IntegralsSpent

/-- The controllers keep the default tuning, a command of zero has set the targets to
zero, and nothing is sent to a bus without a device. -/
structure Tuned (s : ChassisLoop) : Prop where
  config : ∀ i, (s.chassis.wheelSpeedPid.get i).config = wheelSpeedPidConfig
  stopped : ZeroCommand s.command → Stopped s.chassis.state
  absent : s.port.canDev .kCan1 = false → Actuator.heldCurrents s.port .kCan1 = none

theorem tuned_start (canDev : CanBus → Bool) : (start canDev).Tuned := by
  have hAccepted : Accepts (kIntegralLimit : ℚ) kCurrentLimit := by
    simp [Accepts, le, kIntegralLimit, kCurrentLimit]
  obtain ⟨hState, hPid⟩ := initialized_of_accepts hAccepted (ChassisModule.zeroed ℚ)
  refine ⟨fun i => ?_, fun _ => ?_, fun _ => rfl⟩
  · rw [start, hPid, Cells.get_map]
    rfl
  · rw [start, hState]
    exact ⟨rfl, rfl, rfl, rfl⟩

/-- A tick with a command of zero has the targets at zero. -/
theorem stopped_receive {s : ChassisLoop} (tuned : s.Tuned) (frames : List CanRawFrameMessage)
    {locked : Bool} (zero : ZeroCommand (s.tickCommand locked)) :
    Stopped (s.chassis.receive frames (s.commandChan.read locked)).state := by
  cases locked with
  | false => exact stopped_updateStateFromCommand_zero _ zero
  | true =>
      exact (stopped_runLoopTick_none s.chassis s.port frames).mpr (.inr (tuned.stopped zero))

theorem config_receive {s : ChassisLoop} (tuned : s.Tuned) (frames : List CanRawFrameMessage)
    (read : Option (ChassisCommandMessage ℚ)) (i : Fin 4) :
    ((s.chassis.receive frames read).wheelSpeedPid.get i).config = wheelSpeedPidConfig := by
  have hPid := s.chassis.wheelSpeedPid_receive frames read
  by_cases hReset : s.chassis.WatchdogResets read
  · rw [hPid.1 hReset, Cells.get_map]
    exact tuned.config i
  · rw [hPid.2 hReset]
    exact tuned.config i

/-- Decoding and commands do not touch the tuning, nor does a controller's step. -/
theorem tuned_step (s : ChassisLoop) (event : ChassisLoopEvent) (tuned : s.Tuned) :
    (s.step event).Tuned := by
  cases event with
  | publish command => exact ⟨tuned.config, tuned.stopped, tuned.absent⟩
  | tick frames locked =>
      obtain ⟨hPid, hPort⟩ :=
        s.chassis.runLoopTick_receive s.port frames (s.commandChan.read locked)
      refine ⟨fun i => ?_, stopped_receive tuned frames, fun hAbsent => ?_⟩
      · have hConfig := config_receive tuned frames (s.commandChan.read locked) i
        have hGet := congrArg Prod.fst
          ((s.chassis.receive frames (s.commandChan.read locked)).wheelCurrents_get i)
        simp only [step, hPid]
        refine (congrArg Pid.config hGet).trans ?_
        split_ifs
        · exact hConfig
        · exact hConfig
      · simp only [step, hPort, Actuator.canDev_sendMotorCurrent] at hAbsent ⊢
        have hHeld := Actuator.heldCurrents_sendMotorCurrent s.port .kCan1 .kCan1
          (s.chassis.receive frames (s.commandChan.read locked)).wheelCurrents.2
        rw [hAbsent] at hHeld
        exact hHeld.trans (tuned.absent hAbsent)

/-- A reset leaves no integral; otherwise it is the one before the tick. -/
theorem integralsSpent_receive (m : ChassisModule ℚ) (frames : List CanRawFrameMessage)
    (read : Option (ChassisCommandMessage ℚ)) :
    (m.receive frames read).IntegralsSpent ↔
      m.WatchdogResets read ∨ (m.decodeCanFramesInQueue frames).IntegralsSpent := by
  have hValid := (m.feedback_receive frames read).2
  have hDecoded := decodeCanFramesInQueue_keeps wheelSpeedPid (fun _ _ _ => rfl) m frames
  have hPid := m.wheelSpeedPid_receive frames read
  by_cases hReset : m.WatchdogResets read
  · refine iff_of_true (fun i _ => ?_) (.inl hReset)
    rw [hPid.1 hReset, Cells.get_map]
    simp [Pid.reset]
  · rw [or_iff_right hReset, IntegralsSpent, hValid, hPid.2 hReset, IntegralsSpent, hDecoded]

theorem wheelsStill_receive (m : ChassisModule ℚ) (frames : List CanRawFrameMessage)
    (read : Option (ChassisCommandMessage ℚ)) :
    (m.receive frames read).wheelsStill = (m.decodeCanFramesInQueue frames).wheelsStill := by
  obtain ⟨hFeedback, hValid⟩ := m.feedback_receive frames read
  rw [wheelsStill, hFeedback, hValid, wheelsStill]

theorem spentInTime_iff (s : ChassisLoop) (event : ChassisLoopEvent) (tuned : s.Tuned)
    (holds : s.OutputIsZero) : s.SpentInTime event ↔ (s.step event).OutputIsZero := by
  cases event with
  | publish command => exact iff_of_true trivial holds
  | tick frames locked =>
      let read := s.commandChan.read locked
      let received := s.chassis.receive frames read
      have hHeld : Actuator.heldCurrents (s.step (.tick frames locked)).port .kCan1 =
          if s.port.canDev .kCan1 ∧ CanBus.kCan1 = .kCan1 then some received.wheelCurrents.2
          else Actuator.heldCurrents s.port .kCan1 :=
        Actuator.heldCurrents_sendMotorCurrent s.port .kCan1 .kCan1 received.wheelCurrents.2
      have hTicks : (s.step (.tick frames locked)).restingTicks =
          if s.rests frames locked then s.restingTicks + 1 else 0 := rfl
      rw [OutputIsZero, hHeld, hTicks, SpentInTime]
      by_cases hRests : s.rests frames locked = true
      · rw [if_pos hRests, imp_iff_right hRests, Nat.succ_le_succ_iff]
        refine imp_congr Iff.rfl ?_
        by_cases hDev : s.port.canDev .kCan1 = true
        · obtain ⟨hZero, hStill⟩ := (Bool.and_eq_true _ _).mp hRests
          have hStopped := stopped_receive tuned frames (of_decide_eq_true hZero)
          have hStill' : received.wheelsStill = true :=
            (wheelsStill_receive s.chassis frames read).trans hStill
          have hRest := wheelCurrents_rest (config_receive tuned frames read) hStopped hStill'
          rw [imp_iff_right hDev, if_pos ⟨hDev, rfl⟩, ← integralsSpent_receive, ← hRest]
          simp only [Option.mem_def, Option.some.injEq, forall_eq']
          exact Iff.rfl
        · have hNone := tuned.absent (Bool.not_eq_true _ ▸ hDev)
          rw [if_neg (fun h => hDev h.1), hNone]
          simp [hDev]
      · rw [if_neg hRests]
        simp [hRests]

/-- Two ticks at rest in a row always leave zero currents on CAN1 exactly if, in each
such tick, the integrals of the controllers were spent or reset in time. -/
theorem outputIsZero_iff (canDev : CanBus → Bool) (events : List ChassisLoopEvent) :
    Run.Along step SpentInTime (start canDev) events ↔
      Run.Always step OutputIsZero (start canDev) events :=
  Run.along_iff_always tuned_step (fun s event tuned holds => s.spentInTime_iff event tuned holds)
    (tuned_start canDev) (fun h => absurd h (Nat.not_succ_le_zero 1)) events

/-- The first wheel turns for one tick and then stands still; nothing is ever
commanded. -/
def coastingEvents : List ChassisLoopEvent :=
  [.tick [{ bus := 1, canId := 0x201, dlc := 8, data := #v[0, 0, 0x27, 0x10, 0, 0, 0, 0] }] false,
    .tick [{ bus := 1, canId := 0x201, dlc := 8, data := #v[0, 0, 0, 0, 0, 0, 0, 0] }] false,
    .tick [] false]

/-- The controller has integrated the error of that tick and goes on braking. -/
theorem current_at_rest :
    ¬ Run.Always step OutputIsZero (start fun _ => true) coastingEvents := by
  intro hAlways
  have hEnd := (Run.always_iff _ _ _ _).mp hAlways coastingEvents List.prefix_rfl
  have hHeld : Actuator.heldCurrents (coastingEvents.foldl step (start fun _ => true)).port .kCan1 =
      some #v[-2, 0, 0, 0] := by
    decide +kernel
  have hZero := hEnd (by decide +kernel) _ hHeld
  revert hZero
  decide

end ChassisLoop

end RmTest.Modules
