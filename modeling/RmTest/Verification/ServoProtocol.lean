import RmTest.Library.Run
import RmTest.Modules.Gimbal

/-! What the two servos of the gimbal are sent over a run. A servo is one of the two that
the module addresses, yaw or pitch, whatever identifier it has. -/
namespace RmTest.Modules

open Channels FloatModel

variable {F : Type}

inductive Servo where
  | yaw
  | pitch
  deriving DecidableEq

namespace ServoCall

/-- The angle of a `MoveToAngle`. -/
def angle? : ServoCall F → Option F
  | .moveToAngle _ degrees _ => some degrees
  | .stop _ => none

end ServoCall

namespace GimbalModule

def online (m : GimbalModule F) : Servo → Bool
  | .yaw => m.yawServoOnline
  | .pitch => m.pitchServoOnline

def servoId (m : GimbalModule F) : Servo → UInt8
  | .yaw => m.yawServoId
  | .pitch => m.pitchServoId

def sentOnce (m : GimbalModule F) : Servo → Bool
  | .yaw => m.yawSentOnce
  | .pitch => m.pitchSentOnce

def lastSent (m : GimbalModule F) : Servo → F
  | .yaw => m.yawLastSentAngleDeg
  | .pitch => m.pitchLastSentAngleDeg

variable [FloatModel F]

/-- The angle that the servo shall have. -/
def target (m : GimbalModule F) : Servo → F
  | .yaw => m.yawAngleDeg + lit 120
  | .pitch => m.pitchAngleDeg + lit 90

def needs (m : GimbalModule F) (servo : Servo) : Bool :=
  needsAngle (m.online servo) (m.sentOnce servo) (m.target servo) (m.lastSent servo)

/-- The calls that a servo gets, once the command is received. -/
def callsTo (m : GimbalModule F) (nowMs : Int) (servo : Servo) : List (ServoCall F) :=
  if m.commandEnable = 0 then
    if !m.servoStopped && m.online servo then [.stop (m.servoId servo)] else []
  else if nowMs ≥ m.nextServoSendMs ∧ m.needs servo = true then
    [.moveToAngle (m.servoId servo) (m.target servo) kServoMoveTimeMs]
  else []

/-- Receiving leaves everything about the servos but their targets. -/
theorem receive_servos (m : GimbalModule F) (command : Option (GimbalCommandMessage F)) :
    ∃ enable idle yaw pitch, m.receive command =
      { m with
        commandEnable := enable
        idleTicks := idle
        yawAngleDeg := yaw
        pitchAngleDeg := pitch } := by
  cases command with
  | none =>
      simp only [receive]
      split_ifs
      · exact ⟨_, _, _, _, rfl⟩
      · exact ⟨_, _, _, _, rfl⟩
  | some command =>
      simp only [receive, handleCommand]
      split_ifs
      · exact ⟨_, _, _, _, rfl⟩
      · exact ⟨_, _, _, _, rfl⟩

theorem moveYaw_eq (m : GimbalModule F) :
    m.moveYaw =
      ({ m with
          yawLastSentAngleDeg := if m.needs .yaw then m.target .yaw else m.yawLastSentAngleDeg
          yawSentOnce := m.yawSentOnce || m.needs .yaw },
        if m.needs .yaw then [.moveToAngle m.yawServoId (m.target .yaw) kServoMoveTimeMs]
        else []) := by
  have hMove : m.moveYaw = if m.needs .yaw then
      ({ m with yawLastSentAngleDeg := m.target .yaw, yawSentOnce := true },
        [.moveToAngle m.yawServoId (m.target .yaw) kServoMoveTimeMs]) else (m, []) := rfl
  rw [hMove]
  cases m.needs .yaw <;> simp

theorem movePitch_eq (m : GimbalModule F) :
    m.movePitch =
      ({ m with
          pitchLastSentAngleDeg :=
            if m.needs .pitch then m.target .pitch else m.pitchLastSentAngleDeg
          pitchSentOnce := m.pitchSentOnce || m.needs .pitch },
        if m.needs .pitch then [.moveToAngle m.pitchServoId (m.target .pitch) kServoMoveTimeMs]
        else []) := by
  have hMove : m.movePitch = if m.needs .pitch then
      ({ m with pitchLastSentAngleDeg := m.target .pitch, pitchSentOnce := true },
        [.moveToAngle m.pitchServoId (m.target .pitch) kServoMoveTimeMs]) else (m, []) := rfl
  rw [hMove]
  cases m.needs .pitch <;> simp

/-- Both servos are looked at as they were before the first call. -/
theorem moveServos_due {m : GimbalModule F} {nowMs : Int} (due : nowMs ≥ m.nextServoSendMs) :
    m.moveServos nowMs =
      ({ m with
          yawLastSentAngleDeg := if m.needs .yaw then m.target .yaw else m.yawLastSentAngleDeg
          yawSentOnce := m.yawSentOnce || m.needs .yaw
          pitchLastSentAngleDeg :=
            if m.needs .pitch then m.target .pitch else m.pitchLastSentAngleDeg
          pitchSentOnce := m.pitchSentOnce || m.needs .pitch
          nextServoSendMs := nowMs + kServoUpdatePeriodMs.toNat
          servoStopped := false },
        (if m.needs .yaw then [.moveToAngle m.yawServoId (m.target .yaw) kServoMoveTimeMs]
          else []) ++
          if m.needs .pitch then [.moveToAngle m.pitchServoId (m.target .pitch) kServoMoveTimeMs]
          else []) := by
  rw [moveServos, if_pos due, moveYaw_eq]
  dsimp only
  rw [movePitch_eq]
  rfl

/-- A tick makes the calls to the yaw servo and then those to the pitch servo. -/
theorem calls_runLoopTick {m : GimbalModule F} (ready : m.servoReady = true)
    (command : Option (GimbalCommandMessage F)) (nowMs : Int) :
    (m.runLoopTick command nowMs).2.1 =
      (m.receive command).callsTo nowMs .yaw ++ (m.receive command).callsTo nowMs .pitch := by
  obtain ⟨enable, idle, yaw, pitch, hReceive⟩ := m.receive_servos command
  have hReady : (m.receive command).servoReady = true := by
    rw [hReceive]
    exact ready
  simp only [runLoopTick, hReady, if_true]
  by_cases hEnable : (m.receive command).commandEnable = 0
  · simp only [hEnable, if_true, stopServos, callsTo]
    cases (m.receive command).servoStopped <;> rfl
  · simp only [hEnable, if_false, callsTo]
    by_cases hDue : nowMs ≥ (m.receive command).nextServoSendMs
    · simp only [moveServos_due hDue, hDue, true_and]
      rfl
    · simp only [moveServos, hDue, false_and, if_false]
      rfl

end GimbalModule

structure ServoTick (F : Type) where
  nowMs : Int
  /-- `command_enable_` after the command is read. -/
  enabled : Bool
  /-- The tick is enabled, and the time to send has come. -/
  passes : Bool
  target : Servo → F
  calls : Servo → List (ServoCall F)

namespace ServoTick

def moves (tick : ServoTick F) (servo : Servo) : List F := (tick.calls servo).filterMap (·.angle?)

/-- Some servo is stopped. -/
def Stops (tick : ServoTick F) : Prop := ∃ servo id, .stop id ∈ tick.calls servo

end ServoTick

/-- When a servo was sent an angle. -/
def moveTimes (servo : Servo) (trace : List (ServoTick F)) : List Int :=
  trace.flatMap fun tick => (tick.moves servo).map fun _ => tick.nowMs

/-- The angle that a servo was sent last. -/
def lastAngle (servo : Servo) (trace : List (ServoTick F)) : Option F :=
  (trace.flatMap (·.moves servo)).getLast?

theorem moveTimes_concat (servo : Servo) (trace : List (ServoTick F)) (tick : ServoTick F) :
    moveTimes servo (trace ++ [tick]) =
      moveTimes servo trace ++ (tick.moves servo).map fun _ => tick.nowMs := by
  simp [moveTimes]

theorem lastAngle_concat (servo : Servo) (trace : List (ServoTick F)) (tick : ServoTick F) :
    lastAngle servo (trace ++ [tick]) = (tick.moves servo).getLast?.or (lastAngle servo trace) := by
  simp [lastAngle]

namespace GimbalModule

variable [FloatModel F]

/-- What reading the command channel returns, and the time. -/
abbrev TickEvent (F : Type) : Type := Option (GimbalCommandMessage F) × Int

def tickStep (m : GimbalModule F) (event : TickEvent F) : GimbalModule F :=
  (m.runLoopTick event.1 event.2).1

/-- What is seen of a tick once the command is received. -/
def observeReceived (m : GimbalModule F) (nowMs : Int) : ServoTick F where
  nowMs := nowMs
  enabled := decide (m.commandEnable ≠ 0)
  passes := decide (m.commandEnable ≠ 0 ∧ nowMs ≥ m.nextServoSendMs)
  target := m.target
  calls := m.callsTo nowMs

def observeTick (m : GimbalModule F) (event : TickEvent F) : ServoTick F :=
  (m.receive event.1).observeReceived event.2

/-- What a tick does: the servos are stopped already, they are stopped now, the time to
send has not come, or it has come. -/
inductive TickCases (m next : GimbalModule F) (tick : ServoTick F) : Prop where
  | stillStopped (enabled : tick.enabled = false) (passes : tick.passes = false)
      (stopped : m.servoStopped = true) (calls : ∀ servo, tick.calls servo = [])
      (nextStopped : next.servoStopped = true)
      (sentOnce : ∀ servo, next.sentOnce servo = m.sentOnce servo)
      (lastSent : ∀ servo, next.lastSent servo = m.lastSent servo)
      (deadline : next.nextServoSendMs = m.nextServoSendMs)
  | stops (enabled : tick.enabled = false) (passes : tick.passes = false)
      (stopped : m.servoStopped = false)
      (calls : ∀ servo, tick.calls servo = if m.online servo then [.stop (m.servoId servo)] else [])
      (nextStopped : next.servoStopped = true) (sentOnce : ∀ servo, next.sentOnce servo = false)
      (lastSent : ∀ servo, next.lastSent servo = m.lastSent servo)
      (deadline : next.nextServoSendMs = m.nextServoSendMs)
  | waits (enabled : tick.enabled = true) (passes : tick.passes = false)
      (calls : ∀ servo, tick.calls servo = []) (nextStopped : next.servoStopped = false)
      (sentOnce : ∀ servo, next.sentOnce servo = m.sentOnce servo)
      (lastSent : ∀ servo, next.lastSent servo = m.lastSent servo)
      (deadline : next.nextServoSendMs = m.nextServoSendMs)
  | sends (enabled : tick.enabled = true) (passes : tick.passes = true)
      (due : tick.nowMs ≥ m.nextServoSendMs)
      (calls : ∀ servo, tick.calls servo = if m.needs servo then
        [.moveToAngle (m.servoId servo) (tick.target servo) kServoMoveTimeMs] else [])
      (nextStopped : next.servoStopped = false)
      (sentOnce : ∀ servo, next.sentOnce servo = (m.sentOnce servo || m.needs servo))
      (lastSent : ∀ servo, next.lastSent servo =
        if m.needs servo then tick.target servo else m.lastSent servo)
      (deadline : next.nextServoSendMs = tick.nowMs + kServoUpdatePeriodMs.toNat)

/-- What no tick changes. -/
structure SameServos (m next : GimbalModule F) : Prop where
  servoReady : next.servoReady = m.servoReady
  online : ∀ servo, next.online servo = m.online servo
  servoId : ∀ servo, next.servoId servo = m.servoId servo

omit [FloatModel F] in
theorem SameServos.trans {m between next : GimbalModule F} (first : SameServos m between)
    (second : SameServos between next) : SameServos m next where
  servoReady := second.servoReady.trans first.servoReady
  online servo := (second.online servo).trans (first.online servo)
  servoId servo := (second.servoId servo).trans (first.servoId servo)

theorem sameServos_receive (m : GimbalModule F) (command : Option (GimbalCommandMessage F)) :
    SameServos m (m.receive command) ∧ (m.receive command).servoStopped = m.servoStopped := by
  obtain ⟨enable, idle, yaw, pitch, hReceive⟩ := m.receive_servos command
  rw [hReceive]
  exact ⟨⟨rfl, fun _ => rfl, fun _ => rfl⟩, rfl⟩

/-- The part of a tick after the command is received. -/
def serve (m : GimbalModule F) (nowMs : Int) : GimbalModule F :=
  if m.commandEnable = 0 then m.stopServos.1 else (m.moveServos nowMs).1

theorem tickStep_eq {m : GimbalModule F} (ready : m.servoReady = true) (event : TickEvent F) :
    m.tickStep event =
      { (m.receive event.1).serve event.2 with
        stateSequence := ((m.receive event.1).serve event.2).stateSequence + 1 } := by
  have hReady := (m.sameServos_receive event.1).1.servoReady.trans ready
  simp only [tickStep, runLoopTick, hReady, if_true, serve]
  split_ifs <;> rfl

theorem serve_spec (m : GimbalModule F) (nowMs : Int) (sequence : UInt32) :
    SameServos m { m.serve nowMs with stateSequence := sequence } ∧
      TickCases m { m.serve nowMs with stateSequence := sequence } (m.observeReceived nowMs) := by
  by_cases hEnable : m.commandEnable = 0
  · have hEnabled : (m.observeReceived nowMs).enabled = false := by simp [observeReceived, hEnable]
    have hPasses : (m.observeReceived nowMs).passes = false := by simp [observeReceived, hEnable]
    cases hStopped : m.servoStopped with
    | true =>
        have hServe : m.serve nowMs = m := by simp [serve, hEnable, stopServos, hStopped]
        rw [hServe]
        refine ⟨⟨rfl, fun _ => rfl, fun _ => rfl⟩, .stillStopped hEnabled hPasses hStopped
          (fun servo => ?_) hStopped (fun _ => rfl) (fun _ => rfl) rfl⟩
        simp [observeReceived, callsTo, hEnable, hStopped]
    | false =>
        have hServe : m.serve nowMs =
            { m with servoStopped := true, yawSentOnce := false, pitchSentOnce := false } := by
          simp [serve, hEnable, stopServos, hStopped]
        rw [hServe]
        refine ⟨⟨rfl, fun _ => rfl, fun _ => rfl⟩, .stops hEnabled hPasses hStopped
          (fun servo => ?_) rfl (fun servo => by cases servo <;> rfl) (fun _ => rfl) rfl⟩
        simp [observeReceived, callsTo, hEnable, hStopped]
  · have hEnabled : (m.observeReceived nowMs).enabled = true := by simp [observeReceived, hEnable]
    by_cases hDue : nowMs ≥ m.nextServoSendMs
    · have hPasses : (m.observeReceived nowMs).passes = true := by
        simp only [observeReceived, decide_eq_true_eq]
        exact ⟨hEnable, hDue⟩
      have hServe : m.serve nowMs = _ :=
        (if_neg hEnable).trans (congrArg Prod.fst (moveServos_due hDue))
      rw [hServe]
      refine ⟨⟨rfl, fun _ => rfl, fun _ => rfl⟩, .sends hEnabled hPasses hDue (fun servo => ?_) rfl
        (fun servo => by cases servo <;> rfl) (fun servo => by cases servo <;> rfl) rfl⟩
      simp only [observeReceived, callsTo, hEnable, hDue, if_false, true_and]
    · have hPasses : (m.observeReceived nowMs).passes = false := by
        simp only [observeReceived, decide_eq_false_iff_not]
        exact fun hBoth => hDue hBoth.2
      have hServe : m.serve nowMs = { m with servoStopped := false } :=
        (if_neg hEnable).trans (congrArg Prod.fst (if_neg hDue))
      rw [hServe]
      refine ⟨⟨rfl, fun _ => rfl, fun _ => rfl⟩, .waits hEnabled hPasses (fun servo => ?_) rfl
        (fun _ => rfl) (fun _ => rfl) rfl⟩
      simp only [observeReceived, callsTo, hEnable, hDue, if_false, false_and]

structure Tracked (start m : GimbalModule F) (seen : List (ServoTick F)) : Prop where
  same : SameServos start m
  stopped : m.servoStopped = true ↔ ∃ tick ∈ seen.getLast?, tick.enabled = false
  spaced : ∀ servo, (moveTimes servo seen).Pairwise fun earlier later : Int =>
    earlier + kServoUpdatePeriodMs.toNat ≤ later
  deadline : ∀ servo, ∀ time ∈ moveTimes servo seen,
    time + kServoUpdatePeriodMs.toNat ≤ m.nextServoSendMs
  /-- Since the last stop no servo was sent an angle. -/
  unsent : ∀ before stop between, seen = before ++ stop :: between → stop.Stops →
    (∀ tick ∈ between, tick.passes = false) → ∀ servo, m.sentOnce servo = false
  last : ∀ servo, m.sentOnce servo = true → lastAngle servo seen = some (m.lastSent servo)

variable {start m next : GimbalModule F} {seen : List (ServoTick F)} {tick : ServoTick F}

/-- Receiving a command changes nothing of this. -/
theorem Tracked.receive (tracked : Tracked start m seen)
    (command : Option (GimbalCommandMessage F)) : Tracked start (m.receive command) seen := by
  obtain ⟨enable, idle, yaw, pitch, hReceive⟩ := m.receive_servos command
  rw [hReceive]
  obtain ⟨⟨hReady, hOnline, hId⟩, hStopped, hSpaced, hDeadline, hUnsent, hLast⟩ := tracked
  exact ⟨⟨hReady, hOnline, hId⟩, hStopped, hSpaced, hDeadline, hUnsent, hLast⟩

namespace TickCases

/-- A servo is sent at most one angle in a tick, and only once the time has come. -/
theorem moves_eq (spec : TickCases m next tick) (servo : Servo) :
    tick.passes = false ∧ tick.moves servo = [] ∨
      tick.passes = true ∧ m.nextServoSendMs ≤ tick.nowMs ∧
        next.nextServoSendMs = tick.nowMs + kServoUpdatePeriodMs.toNat ∧
        tick.moves servo = if m.needs servo then [tick.target servo] else [] := by
  cases spec with
  | stillStopped _ passes _ calls =>
      exact .inl ⟨passes, by rw [ServoTick.moves, calls]; rfl⟩
  | stops _ passes _ calls =>
      refine .inl ⟨passes, ?_⟩
      rw [ServoTick.moves, calls]
      split_ifs <;> rfl
  | waits _ passes calls =>
      exact .inl ⟨passes, by rw [ServoTick.moves, calls]; rfl⟩
  | sends _ passes due calls _ _ _ deadline =>
      refine .inr ⟨passes, due, deadline, ?_⟩
      rw [ServoTick.moves, calls]
      split_ifs <;> rfl

/-- The time to send is put off, and never brought forward. -/
theorem deadline_le (spec : TickCases m next tick) : m.nextServoSendMs ≤ next.nextServoSendMs := by
  cases spec with
  | stillStopped _ _ _ _ _ _ _ deadline => exact deadline.ge
  | stops _ _ _ _ _ _ _ deadline => exact deadline.ge
  | waits _ _ _ _ _ _ deadline => exact deadline.ge
  | sends _ _ due _ _ _ _ deadline => omega

theorem stopped_iff (spec : TickCases m next tick) :
    next.servoStopped = true ↔ tick.enabled = false := by
  cases spec with
  | stillStopped enabled _ _ _ nextStopped => exact iff_of_true nextStopped enabled
  | stops enabled _ _ _ nextStopped => exact iff_of_true nextStopped enabled
  | waits enabled _ _ nextStopped => simp [enabled, nextStopped]
  | sends enabled _ _ _ nextStopped => simp [enabled, nextStopped]

/-- After a stop every servo needs to be sent its angle again. -/
theorem unsent_of_stops (spec : TickCases m next tick) (stop : tick.Stops) (servo : Servo) :
    next.sentOnce servo = false := by
  obtain ⟨other, id, hStop⟩ := stop
  cases spec with
  | stillStopped _ _ _ calls => rw [calls] at hStop; cases hStop
  | stops _ _ _ _ _ sentOnce => exact sentOnce servo
  | waits _ _ calls => rw [calls] at hStop; cases hStop
  | sends _ _ _ calls =>
      rw [calls] at hStop
      split_ifs at hStop
      · cases List.mem_singleton.mp hStop
      · cases hStop

theorem unsent_of_waiting (spec : TickCases m next tick) (passes : tick.passes = false)
    {servo : Servo} (unsent : m.sentOnce servo = false) : next.sentOnce servo = false := by
  cases spec with
  | stillStopped _ _ _ _ _ sentOnce => exact (sentOnce servo).trans unsent
  | stops _ _ _ _ _ sentOnce => exact sentOnce servo
  | waits _ _ _ _ sentOnce => exact (sentOnce servo).trans unsent
  | sends _ hPasses => cases passes.symm.trans hPasses

theorem lastSent_of_waiting (spec : TickCases m next tick) (passes : tick.passes = false)
    (servo : Servo) : next.lastSent servo = m.lastSent servo := by
  cases spec with
  | stillStopped _ _ _ _ _ _ lastSent => exact lastSent servo
  | stops _ _ _ _ _ _ lastSent => exact lastSent servo
  | waits _ _ _ _ _ lastSent => exact lastSent servo
  | sends _ hPasses => cases passes.symm.trans hPasses

/-- A tick that passes serves every servo. -/
theorem served_of_passes (spec : TickCases m next tick) (passes : tick.passes = true)
    (servo : Servo) :
    (tick.calls servo = if m.needs servo then
        [.moveToAngle (m.servoId servo) (tick.target servo) kServoMoveTimeMs] else []) ∧
      next.sentOnce servo = (m.sentOnce servo || m.needs servo) ∧
      next.lastSent servo = if m.needs servo then tick.target servo else m.lastSent servo := by
  cases spec with
  | stillStopped _ hPasses => cases passes.symm.trans hPasses
  | stops _ hPasses => cases passes.symm.trans hPasses
  | waits _ hPasses => cases passes.symm.trans hPasses
  | sends _ _ _ calls _ sentOnce lastSent => exact ⟨calls servo, sentOnce servo, lastSent servo⟩

/-- A disabled tick stops the servos, unless they are stopped already. -/
theorem calls_of_disabled (spec : TickCases m next tick) (disabled : tick.enabled = false)
    (servo : Servo) :
    tick.calls servo =
      if !m.servoStopped && m.online servo then [.stop (m.servoId servo)] else [] := by
  cases spec with
  | stillStopped _ _ stopped calls =>
      rw [calls, stopped]
      rfl
  | stops _ _ running calls =>
      rw [calls, running]
      rfl
  | waits enabled => cases disabled.symm.trans enabled
  | sends enabled => cases disabled.symm.trans enabled

end TickCases

theorem lastAngle_step (tracked : Tracked start m seen) (spec : TickCases m next tick)
    {servo : Servo} (sent : next.sentOnce servo = true) :
    lastAngle servo (seen ++ [tick]) = some (next.lastSent servo) := by
  rw [lastAngle_concat]
  rcases spec.moves_eq servo with ⟨hPasses, hMoves⟩ | ⟨hPasses, _, _, hMoves⟩
  · have hBefore : m.sentOnce servo = true := by
      by_contra hUnsent
      have hNext := spec.unsent_of_waiting hPasses (Bool.not_eq_true _ ▸ hUnsent)
      cases hNext.symm.trans sent
    rw [hMoves, spec.lastSent_of_waiting hPasses]
    exact tracked.last servo hBefore
  · obtain ⟨_, hSent, hLast⟩ := spec.served_of_passes hPasses servo
    rw [hMoves, hLast]
    cases hNeeds : m.needs servo with
    | true => rfl
    | false =>
        rw [hSent, hNeeds, Bool.or_false] at sent
        exact tracked.last servo sent

theorem Tracked.step (tracked : Tracked start m seen) (same : SameServos m next)
    (spec : TickCases m next tick) : Tracked start next (seen ++ [tick]) where
  same := tracked.same.trans same
  stopped := by
    rw [spec.stopped_iff, List.getLast?_concat]
    simp
  spaced servo := by
    rw [moveTimes_concat, List.pairwise_append]
    refine ⟨tracked.spaced servo, ?_, ?_⟩
    · rcases spec.moves_eq servo with ⟨_, hMoves⟩ | ⟨_, _, _, hMoves⟩ <;> rw [hMoves]
      · exact List.Pairwise.nil
      · split_ifs
        · exact List.pairwise_singleton _ _
        · exact List.Pairwise.nil
    · intro earlier hEarlier later hLater
      obtain ⟨angle, hAngle, rfl⟩ := List.mem_map.mp hLater
      have hBefore := tracked.deadline servo earlier hEarlier
      rcases spec.moves_eq servo with ⟨_, hMoves⟩ | ⟨_, hDue, _, _⟩
      · rw [hMoves] at hAngle
        cases hAngle
      · exact hBefore.trans hDue
  deadline servo time hTime := by
    rw [moveTimes_concat] at hTime
    rcases List.mem_append.mp hTime with hEarlier | hNow
    · exact (tracked.deadline servo time hEarlier).trans spec.deadline_le
    · obtain ⟨angle, hAngle, rfl⟩ := List.mem_map.mp hNow
      rcases spec.moves_eq servo with ⟨_, hMoves⟩ | ⟨_, _, hNext, _⟩
      · rw [hMoves] at hAngle
        cases hAngle
      · exact hNext.ge
  unsent before stop between hSplit hStop hWaiting servo := by
    -- the stop is this tick or an earlier one
    rcases List.eq_nil_or_concat between with rfl | ⟨between, last, rfl⟩
    · obtain ⟨rfl, rfl⟩ := List.append_singleton_inj.mp hSplit
      exact spec.unsent_of_stops hStop servo
    · rw [List.concat_eq_append, ← List.cons_append, ← List.append_assoc] at hSplit
      obtain ⟨rfl, rfl⟩ := List.append_singleton_inj.mp hSplit
      rw [List.concat_eq_append, List.forall_mem_append] at hWaiting
      exact spec.unsent_of_waiting (hWaiting.2 tick (List.mem_singleton.mpr rfl))
        (tracked.unsent before stop between rfl hStop hWaiting.1 servo)
  last servo sent := lastAngle_step tracked spec sent

/-- A tick of the loop does one of the four things to what was received. -/
theorem tickStep_spec (ready : m.servoReady = true) (event : TickEvent F) :
    SameServos (m.receive event.1) (m.tickStep event) ∧
      TickCases (m.receive event.1) (m.tickStep event) (m.observeTick event) := by
  rw [tickStep_eq ready]
  exact serve_spec _ _ _

theorem Tracked.tickStep (ready : start.servoReady = true) (tracked : Tracked start m seen)
    (event : TickEvent F) : Tracked start (m.tickStep event) (seen ++ [m.observeTick event]) := by
  obtain ⟨hSame, hSpec⟩ := tickStep_spec (tracked.same.servoReady.trans ready) event
  exact (tracked.receive event.1).step hSame hSpec

/-- `Initialize` with a servo driver that works. -/
theorem tracked_initialized (readId : UInt8 → Option UInt8) :
    Tracked (initialized true readId : GimbalModule F) (initialized true readId) [] where
  same := ⟨rfl, fun _ => rfl, fun _ => rfl⟩
  stopped := by simp [initialized]
  spaced _ := List.Pairwise.nil
  deadline _ _ hTime := by cases hTime
  unsent before stop between hSplit := by cases before <;> cases hSplit
  last servo sent := by cases servo <;> cases sent

theorem tracked_trace (ready : start.servoReady = true) (tracked : Tracked start m seen)
    (events : List (TickEvent F)) :
    Tracked start (events.foldl tickStep m) (seen ++ Run.trace tickStep observeTick m events) :=
  Run.trace_invariant (fun _ _ event hTracked => hTracked.tickStep ready event) tracked events

/-- The module at a tick of the trace. -/
theorem tick_of_split (ready : start.servoReady = true) (tracked : Tracked start m [])
    {events : List (TickEvent F)} {before after : List (ServoTick F)}
    (split : Run.trace tickStep observeTick m events = before ++ tick :: after) :
    ∃ received next : GimbalModule F, Tracked start received before ∧
      TickCases received next tick ∧ tick.target = received.target := by
  obtain ⟨first, later, _, rfl, hLater⟩ := Run.trace_eq_append split
  obtain ⟨event, rest, _, rfl, _⟩ := Run.trace_eq_cons hLater.symm
  have hTracked := tracked_trace ready tracked first
  rw [List.nil_append] at hTracked
  exact ⟨_, _, hTracked.receive event.1,
    (tickStep_spec (hTracked.same.servoReady.trans ready) event).2, rfl⟩

/-- Once the servos are stopped, they get no more calls from disabled ticks. -/
theorem calls_of_stopped (ready : m.servoReady = true) (stopped : m.servoStopped = true)
    (events : List (TickEvent F))
    (disabled : ∀ tick ∈ Run.trace tickStep observeTick m events, tick.enabled = false)
    (servo : Servo) :
    (Run.trace tickStep observeTick m events).flatMap (·.calls servo) = [] := by
  induction events generalizing m with
  | nil => rfl
  | cons event rest ih =>
      obtain ⟨hEnabled, hRest⟩ := List.forall_mem_cons.mp disabled
      obtain ⟨hReceived, hStopped⟩ := m.sameServos_receive event.1
      obtain ⟨hSame, hSpec⟩ := tickStep_spec ready event
      have hReady := (hReceived.trans hSame).servoReady.trans ready
      rw [Run.trace, List.flatMap_cons, hSpec.calls_of_disabled hEnabled, hStopped, stopped]
      exact ih hReady (hSpec.stopped_iff.mpr hEnabled) hRest

/-- A run of disabled ticks after an enabled one, or at the start, stops every servo in
its first tick. -/
theorem calls_of_running (ready : m.servoReady = true) (running : m.servoStopped = false)
    (event : TickEvent F) (rest : List (TickEvent F))
    (disabled : ∀ tick ∈ Run.trace tickStep observeTick m (event :: rest), tick.enabled = false)
    (servo : Servo) :
    (Run.trace tickStep observeTick m (event :: rest)).flatMap (·.calls servo) =
      if m.online servo then [.stop (m.servoId servo)] else [] := by
  obtain ⟨hEnabled, hRest⟩ := List.forall_mem_cons.mp disabled
  obtain ⟨hReceived, hStopped⟩ := m.sameServos_receive event.1
  obtain ⟨hSame, hSpec⟩ := tickStep_spec ready event
  have hReady := (hReceived.trans hSame).servoReady.trans ready
  have hLater := calls_of_stopped hReady (hSpec.stopped_iff.mpr hEnabled) rest hRest servo
  rw [Run.trace, List.flatMap_cons, hLater, List.append_nil, hSpec.calls_of_disabled hEnabled,
    hStopped, running, hReceived.online, hReceived.servoId]
  rfl

end GimbalModule

/-- What the servos of a module are promised over the ticks of a run. -/
structure ServoProtocol (start : GimbalModule ℚ) (trace : List (ServoTick ℚ)) : Prop where
  /-- The angles sent to a servo are at least the update period apart. -/
  spaced : ∀ servo, (moveTimes servo trace).Pairwise fun earlier later : Int =>
    earlier + GimbalModule.kServoUpdatePeriodMs.toNat ≤ later
  /-- A disabled tick sends no angle. -/
  silent : ∀ servo, ∀ tick ∈ trace, tick.enabled = false → tick.moves servo = []
  /-- A servo that is online gets one `Stop`, and nothing else, in every maximal run of
  disabled ticks. -/
  stoppedOnce : ∀ servo before run after, trace = before ++ (run ++ after) → run ≠ [] →
    (∀ tick ∈ run, tick.enabled = false) → (∀ tick ∈ before.getLast?, tick.enabled = true) →
    (∀ tick ∈ after.head?, tick.enabled = true) →
    run.flatMap (·.calls servo) = if start.online servo then [.stop (start.servoId servo)] else []
  /-- The first tick after a stop at which the time to send has come sends every servo
  that is online its angle. -/
  resumed : ∀ servo before stop between tick after, start.online servo = true →
    trace = before ++ stop :: (between ++ tick :: after) → stop.Stops →
    (∀ tick ∈ between, tick.passes = false) → tick.passes = true →
    tick.calls servo =
      [.moveToAngle (start.servoId servo) (tick.target servo) GimbalModule.kServoMoveTimeMs]
  /-- Whenever the time to send has come, the last angle sent to a servo that is online
  is close to its target. -/
  near : ∀ servo before tick after, start.online servo = true →
    trace = before ++ tick :: after → tick.passes = true →
    ∃ angle, lastAngle servo (before ++ [tick]) = some angle ∧
      |angle - tick.target servo| < GimbalModule.kServoAngleEpsilonDeg

namespace GimbalModule

variable {start m next : GimbalModule ℚ} {seen : List (ServoTick ℚ)} {tick : ServoTick ℚ}

theorem needsAngle_rat (online sentOnce : Bool) (angle lastSent : ℚ) :
    needsAngle online sentOnce angle lastSent = true ↔
      online = true ∧ (sentOnce = true → kServoAngleEpsilonDeg ≤ |angle - lastSent|) := by
  simp only [needsAngle, le_rat, fabs_rat]
  cases online <;> cases sentOnce <;> simp

/-- A servo that is online and was stopped needs its angle. -/
theorem calls_of_unsent (same : SameServos start m) (spec : TickCases m next tick)
    (passes : tick.passes = true) {servo : Servo} (online : start.online servo = true)
    (unsent : m.sentOnce servo = false) :
    tick.calls servo =
      [.moveToAngle (start.servoId servo) (tick.target servo) kServoMoveTimeMs] := by
  have hNeeds : m.needs servo = true :=
    (needsAngle_rat _ _ _ _).mpr ⟨(same.online servo).trans online, fun hSent => by
      cases unsent.symm.trans hSent⟩
  rw [(spec.served_of_passes passes servo).1, if_pos hNeeds, same.servoId]

/-- The dead band: an angle is held back only if it is close to the last one. -/
theorem near_of_passes (tracked : Tracked start m seen) (spec : TickCases m next tick)
    (target : tick.target = m.target) (passes : tick.passes = true) {servo : Servo}
    (online : start.online servo = true) :
    ∃ angle, lastAngle servo (seen ++ [tick]) = some angle ∧
      |angle - tick.target servo| < kServoAngleEpsilonDeg := by
  have hSent : next.sentOnce servo = true ∧
      |next.lastSent servo - tick.target servo| < kServoAngleEpsilonDeg := by
    obtain ⟨_, hSentOnce, hLastSent⟩ := spec.served_of_passes passes servo
    rw [hSentOnce, hLastSent]
    cases hNeeds : m.needs servo with
    | true =>
        rw [if_pos rfl, sub_self, abs_zero, Bool.or_true]
        exact ⟨rfl, by norm_num [kServoAngleEpsilonDeg]⟩
    | false =>
        have hHeld : ¬ (m.online servo = true ∧ (m.sentOnce servo = true →
            kServoAngleEpsilonDeg ≤ |m.target servo - m.lastSent servo|)) := by
          rw [← needsAngle_rat]
          exact ne_true_of_eq_false hNeeds
        simp only [(tracked.same.online servo).trans online, true_and, Classical.not_imp,
          not_le] at hHeld
        rw [if_neg Bool.false_ne_true, Bool.or_false, target, abs_sub_comm]
        exact hHeld
  exact ⟨_, lastAngle_step tracked spec hSent.1, hSent.2⟩

theorem protocol_of_tracked (ready : start.servoReady = true) (tracked : Tracked start start [])
    (events : List (TickEvent ℚ)) :
    ServoProtocol start (Run.trace tickStep observeTick start events) where
  spaced := by
    have hTracked := tracked_trace ready tracked events
    rw [List.nil_append] at hTracked
    exact hTracked.spaced
  silent servo tick hMem hDisabled := by
    obtain ⟨before, after, hSplit⟩ := List.append_of_mem hMem
    obtain ⟨received, next, _, hSpec, _⟩ := tick_of_split ready tracked hSplit
    rw [ServoTick.moves, hSpec.calls_of_disabled hDisabled]
    split_ifs <;> rfl
  stoppedOnce servo before run after hSplit hNonempty hDisabled hBefore _ := by
    obtain ⟨first, later, _, rfl, hLater⟩ := Run.trace_eq_append hSplit
    obtain ⟨inRun, last, _, rfl, _⟩ := Run.trace_eq_append hLater.symm
    have hTracked := tracked_trace ready tracked first
    rw [List.nil_append] at hTracked
    have hRunning : (first.foldl tickStep start).servoStopped = false := by
      rw [← Bool.not_eq_true, hTracked.stopped]
      rintro ⟨tick, hTick, hEnabled⟩
      cases hEnabled.symm.trans (hBefore tick hTick)
    cases inRun with
    | nil => exact absurd rfl hNonempty
    | cons event rest =>
        rw [calls_of_running (hTracked.same.servoReady.trans ready) hRunning event rest hDisabled
          servo, hTracked.same.online, hTracked.same.servoId]
  resumed servo before stop between tick after hOnline hSplit hStop hWaiting hPasses := by
    rw [← List.cons_append, ← List.append_assoc] at hSplit
    obtain ⟨received, next, hTracked, hSpec, _⟩ := tick_of_split ready tracked hSplit
    exact calls_of_unsent hTracked.same hSpec hPasses hOnline
      (hTracked.unsent before stop between rfl hStop hWaiting servo)
  near servo before tick after hOnline hSplit hPasses := by
    obtain ⟨received, next, hTracked, hSpec, hTarget⟩ := tick_of_split ready tracked hSplit
    exact near_of_passes hTracked hSpec hTarget hPasses hOnline

/-- With a servo driver that works, whatever servos answer, every run keeps the protocol,
and what is seen of a tick is the calls that it makes. -/
theorem servo_protocol (readId : UInt8 → Option UInt8) (events : List (TickEvent ℚ)) :
    ServoProtocol (initialized true readId)
        (Run.trace tickStep observeTick (initialized true readId) events) ∧
      ∀ event : TickEvent ℚ,
        let m := events.foldl tickStep (initialized true readId)
        (m.runLoopTick event.1 event.2).2.1 =
          (m.observeTick event).calls .yaw ++ (m.observeTick event).calls .pitch := by
  refine ⟨protocol_of_tracked rfl (tracked_initialized readId) events, fun event => ?_⟩
  have hTracked := tracked_trace rfl (tracked_initialized readId) events
  exact calls_runLoopTick hTracked.same.servoReady event.1 event.2

end GimbalModule

end RmTest.Modules
