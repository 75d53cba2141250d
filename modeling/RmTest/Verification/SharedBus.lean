import RmTest.Library.Run
import RmTest.Library.SharedWord
import RmTest.Modules.Arm
import RmTest.Modules.Gantry

/-! The arm and the gantry on CAN3, where one frame carries the currents of the
motors of both. The two threads take their ticks in any order, with any feedback
and any commands. -/
namespace RmTest.Modules

open Channels Protocols Platform Services FloatModel

/-- The modules with motors on CAN3. -/
inductive BusUser where
  | arm
  | gantry
  deriving DecidableEq

inductive SharedBusEvent (F : Type) where
  | armStartup
  | gantryStartup
  | armTick (frames : List CanRawFrameMessage) (command : Option (ArmCommandMessage F))
  | gantryTick (arrived : List CanRawFrameMessage) (command : Option (GantryCommandMessage F))

structure SharedBus (F : Type) where
  arm : ArmModule F
  gantry : GantryLoop F
  port : CanPort
  /-- What each module computed for the last frame of currents it sent on CAN3. -/
  sent : BusUser → Option (Vector Int16 4)

namespace SharedBus

variable {F : Type} [FloatModel F]

/-- The currents that an event sends on CAN3, and for which module. -/
def sends (s : SharedBus F) : SharedBusEvent F → Option (BusUser × Vector Int16 4)
  | .armTick frames command =>
      if s.port.canDev .kCan3 then some (.arm, (s.arm.receive frames command).wristCurrents.2)
      else none
  | .gantryTick arrived command =>
      let received := s.gantry.receive arrived command
      if s.port.canDev .kCan3 ∧ received.command.enable ≠ 0 then
        some (.gantry, received.gantry.yCurrents)
      else none
  | _ => none

def record (sent : BusUser → Option (Vector Int16 4)) :
    Option (BusUser × Vector Int16 4) → BusUser → Option (Vector Int16 4)
  | none => sent
  | some (user, currents) => Function.update sent user (some currents)

def step (s : SharedBus F) (event : SharedBusEvent F) : SharedBus F :=
  let sent := record s.sent (s.sends event)
  match event with
  | .armStartup =>
      let (arm, port) := s.arm.runLoopStartup s.port
      { s with arm := arm, port := port, sent := sent }
  | .gantryStartup =>
      let (gantry, port) := s.gantry.gantry.runLoopStartup s.port
      { s with gantry := { s.gantry with gantry := gantry }, port := port, sent := sent }
  | .armTick frames command =>
      let (arm, port, _) := s.arm.runLoopTick s.port frames command
      { s with arm := arm, port := port, sent := sent }
  | .gantryTick arrived command =>
      let (gantry, port) := s.gantry.tick s.port arrived command
      { s with gantry := gantry, port := port, sent := sent }

/-- After `Initialize` of both modules, before anything is sent. -/
def start (arm : ArmModule F) (gantry : GantryModule F) (canDev : CanBus → Bool) :
    SharedBus F where
  arm := arm.initialized
  gantry := .entered gantry.initialized
  port := { canDev := canDev, sent := [] }
  sent := fun _ => none

/-- The currents in the last frame 0x200 on CAN3. -/
def held (s : SharedBus F) : Option (Vector Int16 4) := Actuator.heldCurrents s.port .kCan3

/-- Once both have sent, the last frame carries the latest currents of both: the
wrist's in slots 1 and 2, the Y axis' in slot 0. -/
def CarriesBoth (s : SharedBus F) : Prop :=
  ∀ wrist ∈ s.sent .arm, ∀ y ∈ s.sent .gantry,
    ∃ currents ∈ s.held, currents.get Dji.slot0x201 = y.get Dji.slot0x201 ∧
      currents.get Dji.slot0x202 = wrist.get Dji.slot0x202 ∧
      currents.get Dji.slot0x203 = wrist.get Dji.slot0x203

instance (s : SharedBus F) : Decidable s.CarriesBoth :=
  @Option.decidableForallMem _ _ (fun _ => @Option.decidableForallMem _ _
    (fun _ => Option.decidableExistsMem _) _) _

/-- The motors of everyone but `user` are without current. -/
def LeavesIdle (currents : Vector Int16 4) : BusUser → Prop
  | .arm => currents.get Dji.slot0x201 = 0
  | .gantry => currents.get Dji.slot0x202 = 0 ∧ currents.get Dji.slot0x203 = 0

/-- Whoever sends finds the other's motors without current. -/
def SendsOverIdle (s : SharedBus F) (event : SharedBusEvent F) : Prop :=
  ∀ user ∈ (s.sends event).map Prod.fst, ∀ currents ∈ s.held, LeavesIdle currents user

/-- A frame of currents holds nothing for the other module. -/
theorem leavesIdle_of_sends {s : SharedBus F} {event : SharedBusEvent F} {user : BusUser}
    {currents : Vector Int16 4} (sends : s.sends event = some (user, currents)) :
    LeavesIdle currents user := by
  cases event with
  | armStartup => cases sends
  | gantryStartup => cases sends
  | armTick frames command =>
      simp only [SharedBus.sends, Option.ite_none_right_eq_some, Option.some.injEq,
        Prod.mk.injEq] at sends
      obtain ⟨_, rfl, rfl⟩ := sends
      exact (s.arm.receive frames command).wristCurrents_other.1
  | gantryTick arrived command =>
      simp only [SharedBus.sends, Option.ite_none_right_eq_some, Option.some.injEq,
        Prod.mk.injEq] at sends
      obtain ⟨_, rfl, rfl⟩ := sends
      exact ⟨rfl, rfl⟩

theorem canDev_step (s : SharedBus F) (event : SharedBusEvent F) :
    (s.step event).port.canDev = s.port.canDev := by
  cases event with
  | armStartup => exact (s.arm.keepsCurrents_runLoopStartup s.port).canDev
  | gantryStartup => exact (s.gantry.gantry.keepsCurrents_runLoopStartup s.port).canDev
  | armTick frames command => exact s.arm.canDev_runLoopTick s.port frames command
  | gantryTick arrived command => exact s.gantry.canDev_tick s.port arrived command

theorem sent_step (s : SharedBus F) (event : SharedBusEvent F) :
    (s.step event).sent = record s.sent (s.sends event) := by
  cases event <;> rfl

/-- The last frame is the one just sent, if the step sent one. -/
theorem held_step (s : SharedBus F) (event : SharedBusEvent F) :
    (s.step event).held = ((s.sends event).map Prod.snd).or s.held := by
  cases event with
  | armStartup => exact (s.arm.keepsCurrents_runLoopStartup s.port).held .kCan3
  | gantryStartup => exact (s.gantry.gantry.keepsCurrents_runLoopStartup s.port).held .kCan3
  | armTick frames command =>
      refine (s.arm.heldCurrents_runLoopTick s.port frames command).trans ?_
      simp only [sends]
      split_ifs <;> rfl
  | gantryTick arrived command =>
      refine (s.gantry.heldCurrents_tick s.port arrived command).trans ?_
      simp only [sends]
      split_ifs <;> rfl

theorem step_of_silent {s : SharedBus F} {event : SharedBusEvent F}
    (silent : s.sends event = none) :
    (s.step event).held = s.held ∧ (s.step event).sent = s.sent := by
  rw [held_step, sent_step, silent]
  exact ⟨rfl, rfl⟩

theorem step_of_sends {s : SharedBus F} {event : SharedBusEvent F} {user : BusUser}
    {currents : Vector Int16 4} (sends : s.sends event = some (user, currents)) :
    (s.step event).held = some currents ∧
      (s.step event).sent = Function.update s.sent user (some currents) := by
  rw [held_step, sent_step, sends]
  exact ⟨rfl, rfl⟩

/-- What every run keeps: the last frame is the latest of one of the two modules,
each of whose frames holds nothing for the other. -/
structure Consistent (s : SharedBus F) : Prop where
  latest : ∃ user, s.held = s.sent user
  present : s.held = none → ∀ user, s.sent user = none
  own : ∀ user currents, s.sent user = some currents → LeavesIdle currents user
  device : s.port.canDev .kCan3 = false → s.held = none

theorem consistent_start (arm : ArmModule F) (gantry : GantryModule F) (canDev : CanBus → Bool) :
    Consistent (start arm gantry canDev) where
  latest := ⟨.arm, rfl⟩
  present := fun _ _ => rfl
  own := fun _ _ h => nomatch h
  device := fun _ => rfl

theorem canDev_of_sends {s : SharedBus F} {event : SharedBusEvent F}
    {sent : BusUser × Vector Int16 4} (sends : s.sends event = some sent) :
    s.port.canDev .kCan3 = true := by
  cases event with
  | armStartup => cases sends
  | gantryStartup => cases sends
  | armTick frames command =>
      simp only [SharedBus.sends, Option.ite_none_right_eq_some] at sends
      exact sends.1
  | gantryTick arrived command =>
      simp only [SharedBus.sends, Option.ite_none_right_eq_some] at sends
      exact sends.1.1

theorem Consistent.step {s : SharedBus F} (consistent : Consistent s) (event : SharedBusEvent F) :
    Consistent (s.step event) := by
  have hDevice := s.canDev_step event
  cases hSends : s.sends event with
  | none =>
      obtain ⟨hHeld, hSent⟩ := step_of_silent hSends
      refine ⟨?_, ?_, ?_, ?_⟩
      · rw [hHeld, hSent]
        exact consistent.latest
      · rw [hHeld, hSent]
        exact consistent.present
      · rw [hSent]
        exact consistent.own
      · rw [hHeld, hDevice]
        exact consistent.device
  | some frame =>
      obtain ⟨user, currents⟩ := frame
      obtain ⟨hHeld, hSent⟩ := step_of_sends hSends
      refine ⟨?_, ?_, ?_, ?_⟩
      · refine ⟨user, ?_⟩
        rw [hHeld, hSent, Function.update_self]
      · intro hNone
        rw [hHeld] at hNone
        cases hNone
      · intro other latest hLatest
        rw [hSent] at hLatest
        by_cases hSame : other = user
        · rw [hSame, Function.update_self, Option.some.injEq] at hLatest
          rw [hSame, ← hLatest]
          exact leavesIdle_of_sends hSends
        · rw [Function.update_of_ne hSame] at hLatest
          exact consistent.own other latest hLatest
      · intro hAbsent
        rw [hDevice, canDev_of_sends hSends] at hAbsent
        cases hAbsent

/-- Slot 0 is the gantry's, slots 1 and 2 are the arm's. -/
def owner : Fin 3 → BusUser
  | 0 => .gantry
  | 1 => .arm
  | 2 => .arm

def slots (currents : Vector Int16 4) : Fin 3 → Int16
  | 0 => currents.get Dji.slot0x201
  | 1 => currents.get Dji.slot0x202
  | 2 => currents.get Dji.slot0x203

/-- What the motors hold and what the modules sent, as a word they share. -/
def word (s : SharedBus F) : SharedWord (Fin 3) BusUser Int16 where
  cells := fun slot => (s.held.map (slots · slot)).getD 0
  latest := fun user => (s.sent user).map slots

theorem leavesIdle_iff (currents : Vector Int16 4) (user : BusUser) :
    LeavesIdle currents user ↔ ∀ slot, owner slot ≠ user → slots currents slot = 0 := by
  cases user with
  | arm =>
      refine ⟨fun hIdle slot hOther => ?_, fun h => h 0 (by decide)⟩
      match slot with
      | 0 => exact hIdle
      | 1 => exact absurd rfl hOther
      | 2 => exact absurd rfl hOther
  | gantry =>
      refine ⟨fun hIdle slot hOther => ?_, fun h => ⟨h 1 (by decide), h 2 (by decide)⟩⟩
      match slot with
      | 0 => exact absurd rfl hOther
      | 1 => exact hIdle.1
      | 2 => exact hIdle.2

omit [FloatModel F] in
theorem Consistent.untouched {s : SharedBus F} (consistent : Consistent s) :
    SharedWord.Untouched owner 0 s.word := by
  intro slot hNone
  have hUnsent : s.sent (owner slot) = none := by simpa [word] using hNone
  obtain ⟨user, hHeld⟩ := consistent.latest
  cases hUser : s.sent user with
  | none => simp [word, hHeld, hUser]
  | some currents =>
      have hOther : owner slot ≠ user := by
        rintro rfl
        rw [hUnsent] at hUser
        cases hUser
      have hIdle := (leavesIdle_iff currents user).mp (consistent.own user currents hUser)
      simpa [word, hHeld, hUser] using hIdle slot hOther

omit [FloatModel F] in
/-- That the frame carries both is that the word is intact. -/
theorem Consistent.carriesBoth_iff {s : SharedBus F} (consistent : Consistent s) :
    s.CarriesBoth ↔ SharedWord.Intact owner s.word := by
  constructor
  · intro hCarries slot values hLatest
    obtain ⟨currents, hOwn, rfl⟩ := Option.map_eq_some_iff.mp hLatest
    obtain ⟨user, hHeld⟩ := consistent.latest
    by_cases hSame : owner slot = user
    · rw [← hSame, hOwn] at hHeld
      simp [word, hHeld]
    · cases hUser : s.sent user with
      | none =>
          rw [consistent.present (hHeld.trans hUser) (owner slot)] at hOwn
          cases hOwn
      | some other =>
          match slot, user with
          | 0, .arm =>
              obtain ⟨held, hHeld', hSlot, -, -⟩ := hCarries other hUser currents hOwn
              simpa [word, slots, Option.mem_def.mp hHeld'] using hSlot
          | 1, .gantry =>
              obtain ⟨held, hHeld', -, hSlot, -⟩ := hCarries currents hOwn other hUser
              simpa [word, slots, Option.mem_def.mp hHeld'] using hSlot
          | 2, .gantry =>
              obtain ⟨held, hHeld', -, -, hSlot⟩ := hCarries currents hOwn other hUser
              simpa [word, slots, Option.mem_def.mp hHeld'] using hSlot
          | 0, .gantry => exact absurd rfl hSame
          | 1, .arm => exact absurd rfl hSame
          | 2, .arm => exact absurd rfl hSame
  · intro hIntact wrist hWrist y hY
    cases hHeld : s.held with
    | none =>
        have hUnsent := consistent.present hHeld .arm
        rw [hUnsent] at hWrist
        cases hWrist
    | some currents =>
        refine ⟨currents, rfl, ?_, ?_, ?_⟩
        · simpa [word, slots, hHeld] using hIntact 0 (slots y) (congrArg (Option.map slots) hY)
        · simpa [word, slots, hHeld] using hIntact 1 (slots wrist)
            (congrArg (Option.map slots) hWrist)
        · simpa [word, slots, hHeld] using hIntact 2 (slots wrist)
            (congrArg (Option.map slots) hWrist)

/-- A step is a write of the word by whoever sends, if anyone does. -/
theorem word_step (s : SharedBus F) (event : SharedBusEvent F) :
    (s.step event).word =
      match s.sends event with
      | none => s.word
      | some (user, currents) => SharedWord.write owner 0 s.word user (slots currents) := by
  cases hSends : s.sends event with
  | none =>
      obtain ⟨hHeld, hSent⟩ := step_of_silent hSends
      simp only [word, hHeld, hSent]
  | some frame =>
      obtain ⟨user, currents⟩ := frame
      obtain ⟨hHeld, hSent⟩ := step_of_sends hSends
      have hIdle := (leavesIdle_iff currents user).mp (leavesIdle_of_sends hSends)
      simp only [word, SharedWord.write, hHeld, hSent, SharedWord.mk.injEq]
      constructor
      · funext slot
        by_cases hOwn : owner slot = user
        · simp [hOwn]
        · simpa [hOwn] using hIdle slot hOwn
      · funext other
        by_cases hSame : other = user
        · simp [hSame]
        · simp [hSame]

/-- From a good state, sending over idle motors is what keeps the state good. -/
theorem Consistent.sendsOverIdle_iff {s : SharedBus F} (consistent : Consistent s)
    (carries : s.CarriesBoth) (event : SharedBusEvent F) :
    s.SendsOverIdle event ↔ (s.step event).CarriesBoth := by
  have hIntact := consistent.carriesBoth_iff.mp carries
  rw [(consistent.step event).carriesBoth_iff, word_step]
  cases hSends : s.sends event with
  | none => exact iff_of_true (fun user hUser => by simp [hSends] at hUser) hIntact
  | some frame =>
      obtain ⟨user, currents⟩ := frame
      rw [← SharedWord.othersIdle_iff_intact_write consistent.untouched hIntact]
      simp only [SendsOverIdle, hSends, leavesIdle_iff, SharedWord.OthersIdle, word]
      cases hHeld : s.held with
      | none => simp
      | some held => simp

/-- No module's currents are ever overwritten in a run exactly if all its steps
send over idle motors. -/
theorem no_current_overwritten_iff (arm : ArmModule F) (gantry : GantryModule F)
    (canDev : CanBus → Bool)
    (events : List (SharedBusEvent F)) :
    Run.Along step SendsOverIdle (start arm gantry canDev) events ↔
      Run.Always step CarriesBoth (start arm gantry canDev) events :=
  Run.along_iff_always (fun _ event consistent => consistent.step event)
    (fun _ event consistent carries => consistent.sendsOverIdle_iff carries event)
    (consistent_start arm gantry canDev) (fun _ h => nomatch h) events

/-- Feedback of the left wrist motor turning backwards. -/
def wristFeedback : CanRawFrameMessage where
  bus := 3
  canId := 0x202
  dlc := 8
  data := #v[0, 0, 0xff, 0x9c, 0, 0, 0, 0]

def enabledCommand : GantryCommandMessage ℚ :=
  { xDelta := 0, yDelta := 0, zDelta := 0, source := .kInputSourceDr16, enable := 1, sequence := 1 }

/-- The arm brakes its wrist, and an enabled gantry takes the current away. -/
theorem wrist_current_overwritten :
    ¬ Run.Always step CarriesBoth
      (start (ArmModule.zeroed ℚ) (GantryModule.zeroed ℚ) fun _ => true)
      [.armStartup, .gantryStartup, .armTick [wristFeedback] none,
        .gantryTick [] (some enabledCommand)] := by
  intro hAlways
  have hEnd := (Run.always_iff _ _ _ _).mp hAlways _ List.prefix_rfl
  revert hEnd
  decide +kernel

end SharedBus

end RmTest.Modules
