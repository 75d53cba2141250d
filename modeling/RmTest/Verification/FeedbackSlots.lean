import RmTest.Modules.Arm
import RmTest.Modules.Chassis
import RmTest.Modules.Gantry

/-! Where the modules keep the feedback of their motors, and what the decode loops
do to it: each place takes the frames of one motor and no others. -/
namespace RmTest.Modules

open Channels Protocols Platform FloatModel

variable {F : Type}

/-- What the frames of one motor, and no others, bring. -/
def fromMotor {Value : Type} (bus : UInt8) (canId : UInt16)
    (decode : CanRawFrameMessage → Option Value) (frame : CanRawFrameMessage) : Option Value :=
  if frame.bus = bus ∧ frame.canId = canId then decode frame else none

section FromMotor

variable {Value : Type} {bus : UInt8} {canId : UInt16}
  {decode : CanRawFrameMessage → Option Value} {frame : CanRawFrameMessage}

theorem fromMotor_same (hBus : frame.bus = bus) (hCanId : frame.canId = canId) :
    fromMotor bus canId decode frame = decode frame := if_pos ⟨hBus, hCanId⟩

theorem fromMotor_bus (other : frame.bus ≠ bus) : fromMotor bus canId decode frame = none :=
  if_neg fun h => other h.1

theorem fromMotor_canId (other : frame.canId ≠ canId) : fromMotor bus canId decode frame = none :=
  if_neg fun h => other h.2

theorem fromMotor_none (hNone : decode frame = none) : fromMotor bus canId decode frame = none := by
  rw [fromMotor, hNone, ite_self]

end FromMotor

/-- A place where a module keeps the feedback of one motor. -/
inductive FeedbackSlot where
  | wheel (i : Fin 4)
  | wrist (i : Fin 2)
  | claw
  | elbowPitch
  | elbowYaw
  | xLeft
  | xRight
  | y
  | zLeft
  | zRight

namespace FeedbackSlot

def consumer : FeedbackSlot → CanConsumer
  | wheel _ => .chassis
  | wrist _ | claw | elbowPitch | elbowYaw => .arm
  | xLeft | xRight | y | zLeft | zRight => .gantry

def bus : FeedbackSlot → CanBus
  | wheel _ | zRight => .kCan1
  | xLeft | xRight | zLeft => .kCan2
  | wrist _ | claw | elbowPitch | elbowYaw | y => .kCan3

def canId : FeedbackSlot → UInt16
  | wheel i => UInt16.ofNat (0x201 + i.val)
  | wrist i => UInt16.ofNat (0x202 + i.val)
  | claw => 0x011
  | elbowYaw => 0x012
  | elbowPitch => 0x013
  | xLeft | y => 0x201
  | xRight => 0x202
  | zLeft | zRight => 0x000

/-- The data length that the motor's protocol asks for. -/
def minDlc : FeedbackSlot → UInt8
  | wheel _ | wrist _ | xLeft | xRight | y => 7
  | claw | elbowPitch | elbowYaw => 8
  | zLeft | zRight => 6

/-- What a slot holds: of the wheels and the wrist a message but for its sequence
number, of the X and the Y axis the speed, of the Z axis angle, speed and torque. -/
def Value (F : Type) : FeedbackSlot → Type
  | wheel _ | wrist _ => MotorFeedbackMessage
  | claw | elbowPitch | elbowYaw => Dm.DmMotorFeedback1To4
  | xLeft | xRight | y => Int16
  | zLeft | zRight => F × F × F

/-- The feedback of a wheel or a wrist motor in a frame. -/
def djiMessage (frame : CanRawFrameMessage) : Option MotorFeedbackMessage :=
  (Dji.decodeFeedback frame.data frame.dlc).toOption.map fun decoded =>
    { bus := frame.bus
      canId := frame.canId
      encoder := decoded.encoder
      omega := decoded.omega
      current := decoded.current
      temperature := decoded.temperature
      sequence := 0 }

def djiOmega (frame : CanRawFrameMessage) : Option Int16 :=
  (Dji.decodeFeedback frame.data frame.dlc).toOption.map (·.omega)

def dmFeedback (frame : CanRawFrameMessage) : Option Dm.DmMotorFeedback1To4 :=
  (Dm.decodeFeedback1To4 frame.data frame.dlc).toOption

/-- The feedback of a Z motor in the units of the gantry. -/
def cubemarsState [FloatModel F] (frame : CanRawFrameMessage) : Option (F × F × F) :=
  (Cubemars.decodeFeedback frame.data frame.dlc).toOption.map fun decoded =>
    (GantryModule.uIntToFloat decoded.positionRaw (lit (-125 / 10)) (lit (125 / 10)) 16,
      GantryModule.uIntToFloat decoded.velocityRaw (lit (-50)) (lit 50) 12,
      GantryModule.uIntToFloat decoded.torqueRaw (lit (-18)) (lit 18) 12)

/-- The decode of a frame by the protocol of the slot's motor. -/
def decode [FloatModel F] : (slot : FeedbackSlot) → CanRawFrameMessage → Option (slot.Value F)
  | wheel _, frame | wrist _, frame => djiMessage frame
  | claw, frame | elbowPitch, frame | elbowYaw, frame => dmFeedback frame
  | xLeft, frame | xRight, frame | y, frame => djiOmega frame
  | zLeft, frame | zRight, frame => cubemarsState frame

/-- What a frame in the queue of the slot's module brings to the slot. -/
def taken [FloatModel F] (slot : FeedbackSlot) : CanRawFrameMessage → Option (slot.Value F) :=
  fromMotor slot.bus.number slot.canId slot.decode

/-- A frame decodes exactly if it is long enough. -/
theorem decode_isSome [FloatModel F] (slot : FeedbackSlot) (frame : CanRawFrameMessage) :
    (slot.decode (F := F) frame).isSome ↔ slot.minDlc ≤ frame.dlc := by
  have hDji : (Dji.decodeFeedback frame.data frame.dlc).toOption.isSome ↔ 7 ≤ frame.dlc := by
    unfold Dji.decodeFeedback
    split_ifs with hShort
    · exact iff_of_false (by simp [Except.toOption]) (UInt8.not_le.mpr hShort)
    · exact iff_of_true rfl (UInt8.not_lt.mp hShort)
  have hDm : (Dm.decodeFeedback1To4 frame.data frame.dlc).toOption.isSome ↔ 8 ≤ frame.dlc := by
    unfold Dm.decodeFeedback1To4
    split_ifs with hShort
    · exact iff_of_false (by simp [Except.toOption]) (UInt8.not_le.mpr hShort)
    · exact iff_of_true rfl (UInt8.not_lt.mp hShort)
  have hCubemars : (Cubemars.decodeFeedback frame.data frame.dlc).toOption.isSome ↔
      6 ≤ frame.dlc := by
    unfold Cubemars.decodeFeedback
    split_ifs with hShort
    · exact iff_of_false (by simp [Except.toOption]) (UInt8.not_le.mpr hShort)
    · exact iff_of_true rfl (UInt8.not_lt.mp hShort)
  have hMap {Decoded Kept : Type} {decoded : Option Decoded} {long : Prop}
      (h : decoded.isSome ↔ long) (keep : Decoded → Kept) : (decoded.map keep).isSome ↔ long := by
    rwa [Option.isSome_map]
  cases slot with
  | wheel i => exact hMap hDji _
  | wrist i => exact hMap hDji _
  | claw => exact hDm
  | elbowPitch => exact hDm
  | elbowYaw => exact hDm
  | xLeft => exact hMap hDji _
  | xRight => exact hMap hDji _
  | y => exact hMap hDji _
  | zLeft => exact hMap hCubemars _
  | zRight => exact hMap hCubemars _

end FeedbackSlot

/-- What a module has of a motor: nothing, or a value that is valid. -/
def whenValid {Value : Type} (valid : Bool) (value : Value) : Option Value :=
  if valid then some value else none

/-- Storing the feedback of one of several motors. -/
theorem whenValid_setIfInBounds {Stored Value : Type} {size : Nat} (valid : Vector Bool size)
    (stored : Vector Stored size) (value : Stored → Value) (index : Nat) (feedback : Stored)
    (i : Fin size) :
    whenValid ((valid.setIfInBounds index true).get i)
        (value ((stored.setIfInBounds index feedback).get i)) =
      if index = i.val then some (value feedback)
      else whenValid (valid.get i) (value (stored.get i)) := by
  rw [Cells.get_setIfInBounds, Cells.get_setIfInBounds]
  split_ifs <;> rfl

/-- The feedback of a motor that shares its identifiers' range with others. -/
theorem djiMessage_of_ok {frame : CanRawFrameMessage} {decoded : Dji.DjiMotorFeedback}
    (hDecode : Dji.decodeFeedback frame.data frame.dlc = .ok decoded) :
    FeedbackSlot.djiMessage frame = some
      { bus := frame.bus
        canId := frame.canId
        encoder := decoded.encoder
        omega := decoded.omega
        current := decoded.current
        temperature := decoded.temperature
        sequence := 0 } := by
  rw [FeedbackSlot.djiMessage, hDecode]
  rfl

theorem djiMessage_of_error {frame : CanRawFrameMessage} {errno : Errno}
    (hDecode : Dji.decodeFeedback frame.data frame.dlc = .error errno) :
    FeedbackSlot.djiMessage frame = none := by
  rw [FeedbackSlot.djiMessage, hDecode]
  rfl

def unsequencedFeedback (feedback : MotorFeedbackMessage) : MotorFeedbackMessage :=
  { feedback with sequence := 0 }

namespace ChassisModule

def wheelFeedback (m : ChassisModule F) (i : Fin 4) : Option MotorFeedbackMessage :=
  whenValid (m.motorFeedbackValid.get i) (unsequencedFeedback (m.motorFeedback.get i))

theorem wheelFeedback_decodeCanFrame (m : ChassisModule F) (frame : CanRawFrameMessage)
    (i : Fin 4) :
    (m.decodeCanFrame frame).wheelFeedback i =
      (fromMotor 1 (UInt16.ofNat (0x201 + i.val)) FeedbackSlot.djiMessage frame).or
        (m.wheelFeedback i) := by
  have hCanId : UInt16.toNat (UInt16.ofNat (0x201 + i.val)) = 0x201 + i.val := by
    rw [UInt16.toNat_ofNat', Nat.mod_eq_of_lt (by omega)]
  have hFirst : UInt16.toNat 0x201 = 0x201 := rfl
  have hLast : UInt16.toNat 0x204 = 0x204 := rfl
  by_cases hBus : frame.bus = 1
  · by_cases hRange : frame.canId < 0x201 ∨ frame.canId > 0x204
    · have hOther : frame.canId ≠ UInt16.ofNat (0x201 + i.val) := by
        intro hSame
        rw [hSame, gt_iff_lt, UInt16.lt_iff_toNat_lt, UInt16.lt_iff_toNat_lt, hCanId] at hRange
        omega
      rw [fromMotor_canId hOther, decodeCanFrame, if_neg (not_not.mpr hBus), if_pos hRange,
        Option.none_or]
    · rw [decodeCanFrame, if_neg (not_not.mpr hBus), if_neg hRange]
      cases hDecode : Dji.decodeFeedback frame.data frame.dlc with
      | error errno => rw [fromMotor_none (djiMessage_of_error hDecode), Option.none_or]
      | ok decoded =>
          refine (whenValid_setIfInBounds _ _ unsequencedFeedback _ _ i).trans ?_
          by_cases hSame : frame.canId = UInt16.ofNat (0x201 + i.val)
          · have hIndex : frame.canId.toNat - 0x201 = i.val := by
              rw [hSame, hCanId]
              omega
            rw [fromMotor_same hBus hSame, djiMessage_of_ok hDecode, if_pos hIndex]
            rfl
          · have hIndex : frame.canId.toNat - 0x201 ≠ i.val := by
              intro hIndex
              apply hSame
              rw [← UInt16.toNat_inj, hCanId]
              rw [not_or, UInt16.not_lt, UInt16.le_iff_toNat_le] at hRange
              omega
            rw [fromMotor_canId hSame, if_neg hIndex, Option.none_or]
            rfl
  · rw [fromMotor_bus hBus, decodeCanFrame, if_pos hBus, Option.none_or]

end ChassisModule

namespace ArmModule

def wristMotorFeedback (m : ArmModule F) (i : Fin 2) : Option MotorFeedbackMessage :=
  whenValid (m.wristFeedbackValid.get i) (unsequencedFeedback (m.wristFeedback.get i))

def clawFeedback (m : ArmModule F) : Option Dm.DmMotorFeedback1To4 :=
  whenValid m.dmFeedbackClawValid m.dmFeedbackClaw

def elbowPitchFeedback (m : ArmModule F) : Option Dm.DmMotorFeedback1To4 :=
  whenValid m.dmFeedbackElbowPitchValid m.dmFeedbackElbowPitch

def elbowYawFeedback (m : ArmModule F) : Option Dm.DmMotorFeedback1To4 :=
  whenValid m.dmFeedbackElbowYawValid m.dmFeedbackElbowYaw

theorem wristMotorFeedback_decodeCanFrame (m : ArmModule F) (frame : CanRawFrameMessage)
    (i : Fin 2) :
    (m.decodeCanFrame frame).wristMotorFeedback i =
      (fromMotor 3 (UInt16.ofNat (0x202 + i.val)) FeedbackSlot.djiMessage frame).or
        (m.wristMotorFeedback i) := by
  have hIds : UInt16.ofNat (0x202 + i.val) = kWristMotorCanId.get 0 ∨
      UInt16.ofNat (0x202 + i.val) = kWristMotorCanId.get 1 := by
    match i with
    | 0 => exact .inl rfl
    | 1 => exact .inr rfl
  by_cases hBus : frame.bus = 3
  · by_cases hWrist : frame.canId = kWristMotorCanId.get 0 ∨ frame.canId = kWristMotorCanId.get 1
    · rw [decodeCanFrame, if_neg (not_not.mpr hBus), if_pos hWrist]
      cases hDecode : Dji.decodeFeedback frame.data frame.dlc with
      | error errno => rw [fromMotor_none (djiMessage_of_error hDecode), Option.none_or]
      | ok decoded =>
          refine (whenValid_setIfInBounds _ _ unsequencedFeedback _ _ i).trans ?_
          have hIndex : (frame.canId - kWristMotorCanId.get 0).toNat = i.val ↔
              frame.canId = UInt16.ofNat (0x202 + i.val) := by
            rcases hWrist with hId | hId <;> rw [hId] <;> revert i <;> decide
          by_cases hSame : frame.canId = UInt16.ofNat (0x202 + i.val)
          · rw [fromMotor_same hBus hSame, djiMessage_of_ok hDecode, if_pos (hIndex.mpr hSame)]
            rfl
          · rw [fromMotor_canId hSame, if_neg (mt hIndex.mp hSame), Option.none_or]
            rfl
    · have hOther : frame.canId ≠ UInt16.ofNat (0x202 + i.val) := by
        intro hSame
        rw [hSame] at hWrist
        exact hWrist hIds
      rw [fromMotor_canId hOther, Option.none_or, decodeCanFrame, if_neg (not_not.mpr hBus),
        if_neg hWrist]
      cases Dm.decodeFeedback1To4 frame.data frame.dlc with
      | error errno => split_ifs <;> rfl
      | ok decoded => split_ifs <;> rfl
  · rw [fromMotor_bus hBus, decodeCanFrame, if_pos hBus, Option.none_or]

/-- A DM frame is stored with the motor whose identifier it has. -/
theorem dmFeedback_decodeCanFrame (m : ArmModule F) (frame : CanRawFrameMessage) :
    (m.decodeCanFrame frame).clawFeedback =
        (fromMotor 3 kDmClawCanId FeedbackSlot.dmFeedback frame).or m.clawFeedback ∧
      (m.decodeCanFrame frame).elbowPitchFeedback =
        (fromMotor 3 kDmElbowPitchCanId FeedbackSlot.dmFeedback frame).or m.elbowPitchFeedback ∧
      (m.decodeCanFrame frame).elbowYawFeedback =
        (fromMotor 3 kDmElbowYawCanId FeedbackSlot.dmFeedback frame).or m.elbowYawFeedback := by
  by_cases hBus : frame.bus = 3
  · by_cases hWrist : frame.canId = kWristMotorCanId.get 0 ∨ frame.canId = kWristMotorCanId.get 1
    · have hOther : frame.canId ≠ kDmClawCanId ∧ frame.canId ≠ kDmElbowPitchCanId ∧
          frame.canId ≠ kDmElbowYawCanId := by
        rcases hWrist with hId | hId <;> rw [hId] <;> decide
      rw [fromMotor_canId hOther.1, fromMotor_canId hOther.2.1, fromMotor_canId hOther.2.2,
        decodeCanFrame, if_neg (not_not.mpr hBus), if_pos hWrist]
      cases Dji.decodeFeedback frame.data frame.dlc with
      | error errno => exact ⟨rfl, rfl, rfl⟩
      | ok decoded => exact ⟨rfl, rfl, rfl⟩
    · rw [decodeCanFrame, if_neg (not_not.mpr hBus), if_neg hWrist]
      by_cases hDm : frame.canId = kDmClawCanId ∨ frame.canId = kDmElbowYawCanId ∨
          frame.canId = kDmElbowPitchCanId
      · rw [if_pos hDm]
        cases hDecode : Dm.decodeFeedback1To4 frame.data frame.dlc with
        | error errno =>
            have hNone : FeedbackSlot.dmFeedback frame = none := by
              rw [FeedbackSlot.dmFeedback, hDecode]
              rfl
            rw [fromMotor_none hNone, fromMotor_none hNone, fromMotor_none hNone]
            exact ⟨rfl, rfl, rfl⟩
        | ok decoded =>
            have hSome : FeedbackSlot.dmFeedback frame = some decoded := by
              rw [FeedbackSlot.dmFeedback, hDecode]
              rfl
            rcases hDm with hId | hId | hId <;>
              simp only [fromMotor, hBus, hId, hSome] <;> exact ⟨rfl, rfl, rfl⟩
      · simp only [not_or] at hDm
        rw [if_neg (by simpa using hDm), fromMotor_canId hDm.1, fromMotor_canId hDm.2.2,
          fromMotor_canId hDm.2.1]
        exact ⟨rfl, rfl, rfl⟩
  · rw [fromMotor_bus hBus, fromMotor_bus hBus, fromMotor_bus hBus, decodeCanFrame, if_pos hBus]
    exact ⟨rfl, rfl, rfl⟩

end ArmModule

namespace GantryModule

def simpleOmega (feedback : DjiFeedbackSimple) : Option Int16 :=
  whenValid feedback.valid feedback.omega

def zMotorState (state : CubemarsState F) : Option (F × F × F) :=
  whenValid state.valid (state.angle, state.omega, state.torque)

theorem djiOmega_of_ok {frame : CanRawFrameMessage} {decoded : Dji.DjiMotorFeedback}
    (hDecode : Dji.decodeFeedback frame.data frame.dlc = .ok decoded) :
    FeedbackSlot.djiOmega frame = some decoded.omega := by
  rw [FeedbackSlot.djiOmega, hDecode]
  rfl

theorem djiOmega_of_error {frame : CanRawFrameMessage} {errno : Errno}
    (hDecode : Dji.decodeFeedback frame.data frame.dlc = .error errno) :
    FeedbackSlot.djiOmega frame = none := by
  rw [FeedbackSlot.djiOmega, hDecode]
  rfl

/-- The part for the X axis stores its frames and leaves the rest alone. -/
theorem decodeXFeedback_slots (m : GantryModule F) (frame : CanRawFrameMessage) :
    let after := (m.decodeXFeedback frame).1
    simpleOmega after.xLeftFeedback =
        (fromMotor 2 kDjiXLeftCanId FeedbackSlot.djiOmega frame).or (simpleOmega m.xLeftFeedback) ∧
      simpleOmega after.xRightFeedback =
        (fromMotor 2 kDjiXRightCanId FeedbackSlot.djiOmega frame).or
        (simpleOmega m.xRightFeedback) ∧
      after.yFeedback = m.yFeedback ∧ after.zLeftState = m.zLeftState ∧
      after.zRightState = m.zRightState := by
  intro after
  by_cases hX : frame.bus = 2 ∧ (frame.canId = kDjiXLeftCanId ∨ frame.canId = kDjiXRightCanId)
  · simp only [after, decodeXFeedback, if_pos hX]
    cases hDecode : Dji.decodeFeedback frame.data frame.dlc with
    | error errno =>
        rw [fromMotor_none (djiOmega_of_error hDecode), fromMotor_none (djiOmega_of_error hDecode)]
        exact ⟨rfl, rfl, rfl, rfl, rfl⟩
    | ok decoded =>
        have hOmega := djiOmega_of_ok hDecode
        rcases hX with ⟨hBus, hId | hId⟩
        · have hRight : frame.canId ≠ kDjiXRightCanId := by rw [hId]; decide
          rw [fromMotor_same hBus hId, hOmega, fromMotor_canId hRight]
          simp only [if_pos hId]
          exact ⟨rfl, rfl, trivial, trivial, trivial⟩
        · have hLeft : frame.canId ≠ kDjiXLeftCanId := by rw [hId]; decide
          rw [fromMotor_same hBus hId, hOmega, fromMotor_canId hLeft]
          simp only [if_neg hLeft]
          exact ⟨rfl, rfl, trivial, trivial, trivial⟩
  · simp only [after, decodeXFeedback, if_neg hX]
    have hLeft : fromMotor 2 kDjiXLeftCanId FeedbackSlot.djiOmega frame = none :=
      if_neg fun h => hX ⟨h.1, .inl h.2⟩
    have hRight : fromMotor 2 kDjiXRightCanId FeedbackSlot.djiOmega frame = none :=
      if_neg fun h => hX ⟨h.1, .inr h.2⟩
    rw [hLeft, hRight]
    exact ⟨rfl, rfl, trivial, trivial, trivial⟩

theorem decodeYFeedback_slots (m : GantryModule F) (frame : CanRawFrameMessage) :
    let after := (m.decodeYFeedback frame).1
    simpleOmega after.yFeedback =
        (fromMotor 3 kDjiYCanId FeedbackSlot.djiOmega frame).or (simpleOmega m.yFeedback) ∧
      after.xLeftFeedback = m.xLeftFeedback ∧ after.xRightFeedback = m.xRightFeedback ∧
      after.zLeftState = m.zLeftState ∧ after.zRightState = m.zRightState := by
  intro after
  by_cases hY : frame.bus = 3 ∧ frame.canId = kDjiYCanId
  · simp only [after, decodeYFeedback, if_pos hY]
    cases hDecode : Dji.decodeFeedback frame.data frame.dlc with
    | error errno =>
        rw [fromMotor_none (djiOmega_of_error hDecode)]
        exact ⟨rfl, rfl, rfl, rfl, rfl⟩
    | ok decoded =>
        rw [fromMotor_same hY.1 hY.2, djiOmega_of_ok hDecode]
        exact ⟨rfl, rfl, rfl, rfl, rfl⟩
  · have hNone : fromMotor 3 kDjiYCanId FeedbackSlot.djiOmega frame = none := if_neg hY
    simp only [after, decodeYFeedback, if_neg hY, hNone]
    exact ⟨rfl, trivial, trivial, trivial, trivial⟩

theorem decodeZFeedback_slots [FloatModel F] (m : GantryModule F) (frame : CanRawFrameMessage) :
    let after := (m.decodeZFeedback frame).1
    zMotorState after.zLeftState =
        (fromMotor 2 kCubemarsCanId FeedbackSlot.cubemarsState frame).or
        (zMotorState m.zLeftState) ∧
      zMotorState after.zRightState =
        (fromMotor 1 kCubemarsCanId FeedbackSlot.cubemarsState frame).or
        (zMotorState m.zRightState) ∧
      after.xLeftFeedback = m.xLeftFeedback ∧ after.xRightFeedback = m.xRightFeedback ∧
      after.yFeedback = m.yFeedback := by
  intro after
  by_cases hZ : frame.canId = kCubemarsCanId
  · simp only [after, decodeZFeedback, if_pos hZ]
    cases hDecode : Cubemars.decodeFeedback frame.data frame.dlc with
    | error errno =>
        have hNone : FeedbackSlot.cubemarsState (F := F) frame = none := by
          rw [FeedbackSlot.cubemarsState, hDecode]
          rfl
        rw [fromMotor_none hNone, fromMotor_none hNone]
        exact ⟨rfl, rfl, rfl, rfl, rfl⟩
    | ok decoded =>
        by_cases hLeft : frame.bus = 2
        · rw [fromMotor_same hLeft hZ, fromMotor_bus (by rw [hLeft]; decide),
            FeedbackSlot.cubemarsState, hDecode]
          simp only [if_pos hLeft]
          exact ⟨rfl, rfl, trivial, trivial, trivial⟩
        · by_cases hRight : frame.bus = 1
          · rw [fromMotor_same hRight hZ, fromMotor_bus hLeft, FeedbackSlot.cubemarsState, hDecode]
            simp only [if_neg hLeft, if_pos hRight]
            exact ⟨rfl, rfl, trivial, trivial, trivial⟩
          · rw [fromMotor_bus hLeft, fromMotor_bus hRight]
            simp only [if_neg hLeft, if_neg hRight]
            exact ⟨rfl, rfl, trivial, trivial, trivial⟩
  · rw [fromMotor_canId hZ, fromMotor_canId hZ]
    simp only [after, decodeZFeedback, if_neg hZ]
    exact ⟨rfl, rfl, trivial, trivial, trivial⟩

end GantryModule

/-- The modules that keep feedback, with the command that the gantry's loop read
last. -/
structure FeedbackModules (F : Type) where
  chassis : ChassisModule F
  arm : ArmModule F
  gantry : GantryModule F
  gantryCommand : GantryCommandMessage F

namespace FeedbackModules

def read (modules : FeedbackModules F) : (slot : FeedbackSlot) → Option (slot.Value F)
  | .wheel i => modules.chassis.wheelFeedback i
  | .wrist i => modules.arm.wristMotorFeedback i
  | .claw => modules.arm.clawFeedback
  | .elbowPitch => modules.arm.elbowPitchFeedback
  | .elbowYaw => modules.arm.elbowYawFeedback
  | .xLeft => GantryModule.simpleOmega modules.gantry.xLeftFeedback
  | .xRight => GantryModule.simpleOmega modules.gantry.xRightFeedback
  | .y => GantryModule.simpleOmega modules.gantry.yFeedback
  | .zLeft => GantryModule.zMotorState modules.gantry.zLeftState
  | .zRight => GantryModule.zMotorState modules.gantry.zRightState

/-- A pass of the decode loop of the module whose queue the frame was in. -/
def decodeCanFrame [FloatModel F] (modules : FeedbackModules F) (consumer : CanConsumer)
    (frame : CanRawFrameMessage) : FeedbackModules F :=
  match consumer with
  | .chassis => { modules with chassis := modules.chassis.decodeCanFrame frame }
  | .arm => { modules with arm := modules.arm.decodeCanFrame frame }
  | .gimbal => modules
  | .gantry => { modules with gantry := (modules.gantry.decodeCanFrame frame).1 }

/-- A frame in the queue of the slot's module changes the slot if it is from the
slot's motor and decodes. -/
theorem read_decodeCanFrame [FloatModel F] (modules : FeedbackModules F) (slot : FeedbackSlot)
    (frame : CanRawFrameMessage) :
    (modules.decodeCanFrame slot.consumer frame).read slot =
      (slot.taken frame).or (modules.read slot) := by
  have hDm := modules.arm.dmFeedback_decodeCanFrame frame
  let gantry := modules.gantry
  have hX := gantry.decodeXFeedback_slots frame
  have hY := (gantry.decodeXFeedback frame).1.decodeYFeedback_slots frame
  have hZ := ((gantry.decodeXFeedback frame).1.decodeYFeedback frame).1.decodeZFeedback_slots frame
  cases slot with
  | wheel i => exact modules.chassis.wheelFeedback_decodeCanFrame frame i
  | wrist i => exact modules.arm.wristMotorFeedback_decodeCanFrame frame i
  | claw => exact hDm.1
  | elbowPitch => exact hDm.2.1
  | elbowYaw => exact hDm.2.2
  | xLeft => exact (congrArg GantryModule.simpleOmega (hZ.2.2.1.trans hY.2.1)).trans hX.1
  | xRight => exact (congrArg GantryModule.simpleOmega (hZ.2.2.2.1.trans hY.2.2.1)).trans hX.2.1
  | y =>
      refine ((congrArg GantryModule.simpleOmega hZ.2.2.2.2).trans hY.1).trans ?_
      rw [hX.2.2.1]
      rfl
  | zLeft =>
      refine hZ.1.trans ?_
      rw [hY.2.2.2.1, hX.2.2.2.1]
      rfl
  | zRight =>
      refine hZ.2.1.trans ?_
      rw [hY.2.2.2.2, hX.2.2.2.2]
      rfl

/-- A frame in the queue of another module does not change the slot. -/
theorem read_decodeCanFrame_other [FloatModel F] (modules : FeedbackModules F) {slot : FeedbackSlot}
    {consumer : CanConsumer} (other : consumer ≠ slot.consumer) (frame : CanRawFrameMessage) :
    (modules.decodeCanFrame consumer frame).read slot = modules.read slot := by
  cases consumer <;> cases slot <;> first | rfl | exact absurd rfl other

end FeedbackModules

end RmTest.Modules
