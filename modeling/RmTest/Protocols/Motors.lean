import RmTest.Channels.Messages
import RmTest.Library.Bytes
import RmTest.Library.FloatModel

/-! The payloads exchanged with the three kinds of motors. Multi-byte values of
DJI and DM motors travel most significant byte first. What the source returns
through a pointer is returned as a value, so the checks for null pointers have
no counterpart. -/
namespace RmTest.Protocols

open Channels FloatModel

variable {F : Type}

/-- The payload of a CAN frame. -/
abbrev Payload := Vector UInt8 8

/-- `sys_get_be16(&data[index])`. -/
def getBe16 (data : Payload) (index : Nat) : UInt16 :=
  (data.toList.getD index 0).toUInt16 <<< 8 ||| (data.toList.getD (index + 1) 0).toUInt16

namespace Dji

structure DjiMotorFeedback where
  encoder : UInt16
  omega : Int16
  current : Int16
  temperature : UInt8

def decodeFeedback (data : Payload) (dlc : UInt8) : Except Errno DjiMotorFeedback :=
  if dlc < 7 then .error .einval
  else
    .ok
      { encoder := getBe16 data 0
        omega := (getBe16 data 2).toInt16
        current := (getBe16 data 4).toInt16
        temperature := data.get 6 }

def writeBe16ToSlot (value : Int16) (slot : Int) (out : Payload) : Except Errno Payload :=
  if slot < 0 ∨ slot > 3 then .error .einval
  else
    let encoded := value.toUInt16
    .ok ((out.setIfInBounds (slot.toNat * 2) (encoded >>> 8).toUInt8).setIfInBounds
      (slot.toNat * 2 + 1) encoded.toUInt8)

def encodeCurrentFrameCommon (currentCmd : Vector Int16 4) (out : Payload) :
    Except Errno Payload :=
  (List.finRange 4).foldlM (fun out i => writeBe16ToSlot (currentCmd.get i) i.val out) out

def encodeCurrentFrame0x200 (currentCmd : Vector Int16 4) (out : Payload) : Except Errno Payload :=
  encodeCurrentFrameCommon currentCmd out

def encodeCurrentFrame0x1ff (currentCmd : Vector Int16 4) (out : Payload) : Except Errno Payload :=
  encodeCurrentFrameCommon currentCmd out

/-- The way that leaves the other motors' slots alone. -/
def writeCurrentCommandToSlot (motorCanId : UInt16) (currentCmd : Int16) (framePayload : Payload) :
    Except Errno Payload :=
  if 0x201 ≤ motorCanId ∧ motorCanId ≤ 0x204 then
    writeBe16ToSlot currentCmd (motorCanId.toNat - 0x201 : Nat) framePayload
  else .error .einval

def slot0x201 : Fin 4 := 0
def slot0x202 : Fin 4 := 1
def slot0x203 : Fin 4 := 2

/-- What a motor reads from its slot. -/
def slotCurrent (data : Payload) (slot : Fin 4) : Int16 := (getBe16 data (2 * slot.val)).toInt16

theorem getD_setIfInBounds (data : Payload) (index i : Nat) (value : UInt8) (h : index < 8) :
    (data.setIfInBounds index value).toList.getD i 0 =
      if i = index then value else data.toList.getD i 0 := by
  by_cases hSame : i = index
  · subst hSame
    simp [h]
  · have hOther : index ≠ i := fun h => hSame h.symm
    simp [hSame, List.getElem?_set_ne hOther]

/-- A slot takes a value, and the other slots keep theirs. -/
theorem writeBe16ToSlot_slots (value : Int16) (slot : Fin 4) (out : Payload) :
    ∃ payload, writeBe16ToSlot value slot.val out = .ok payload ∧
      ∀ other : Fin 4, slotCurrent payload other =
        if other = slot then value else slotCurrent out other := by
  have hSlot := slot.isLt
  have hRange : ¬ ((slot.val : Int) < 0 ∨ (slot.val : Int) > 3) := by omega
  refine ⟨_, by rw [writeBe16ToSlot, if_neg hRange], ?_⟩
  intro other
  simp only [slotCurrent, getBe16, Int.toNat_natCast]
  by_cases hSame : other = slot
  · have hFirst : 2 * other.val = slot.val * 2 := by rw [hSame, Nat.mul_comm]
    have hNext : slot.val * 2 ≠ slot.val * 2 + 1 := by omega
    rw [if_pos hSame, hFirst, getD_setIfInBounds _ _ _ _ (by omega), if_neg hNext,
      getD_setIfInBounds _ _ _ _ (by omega), if_pos rfl, getD_setIfInBounds _ _ _ _ (by omega),
      if_pos rfl]
    exact Bytes.high_or_low value
  · have hVal : other.val ≠ slot.val := fun h => hSame (Fin.ext h)
    rw [if_neg hSame]
    iterate 4 rw [getD_setIfInBounds _ _ _ _ (by omega), if_neg (by omega)]

/-- Writing the slots one after the other. -/
theorem foldlM_writeBe16ToSlot (currentCmd : Vector Int16 4) (slots : List (Fin 4))
    (out : Payload) :
    ∃ payload,
      slots.foldlM (fun out i => writeBe16ToSlot (currentCmd.get i) i.val out) out = .ok payload ∧
      (∀ slot ∈ slots, slotCurrent payload slot = currentCmd.get slot) ∧
      ∀ slot ∉ slots, slotCurrent payload slot = slotCurrent out slot := by
  induction slots generalizing out with
  | nil => exact ⟨out, rfl, by simp, fun _ _ => rfl⟩
  | cons first rest ih =>
      obtain ⟨written, hWrite, hFirst⟩ := writeBe16ToSlot_slots (currentCmd.get first) first out
      obtain ⟨payload, hRest, hIn, hOut⟩ := ih written
      refine ⟨payload, ?_, ?_, ?_⟩
      · rw [List.foldlM_cons, hWrite]
        exact hRest
      · intro slot hSlot
        by_cases hLater : slot ∈ rest
        · exact hIn slot hLater
        · obtain rfl : slot = first := (List.mem_cons.mp hSlot).resolve_right hLater
          rw [hOut slot hLater, hFirst, if_pos rfl]
      · intro slot hSlot
        obtain ⟨hOther, hLater⟩ := not_or.mp (mt List.mem_cons.mpr hSlot)
        rw [hOut slot hLater, hFirst, if_neg hOther]

/-- Every payload of four currents is encoded, and every motor reads its own. -/
theorem encodeCurrentFrameCommon_slots (currentCmd : Vector Int16 4) (out : Payload) :
    ∃ payload, encodeCurrentFrameCommon currentCmd out = .ok payload ∧
      ∀ slot : Fin 4, slotCurrent payload slot = currentCmd.get slot := by
  obtain ⟨payload, hPayload, hIn, -⟩ := foldlM_writeBe16ToSlot currentCmd (List.finRange 4) out
  exact ⟨payload, hPayload, fun slot => hIn slot (List.mem_finRange slot)⟩

end Dji

/-! DM and Cubemars motors take the same command layout: five values, each scaled
to its range and rounded, packed into 16 and four times 12 bits. -/
namespace Mit

structure MitCommand (F : Type) where
  position : F
  velocity : F
  kp : F
  kd : F
  torque : F

structure MitRange (F : Type) where
  pMin : F
  pMax : F
  vMin : F
  vMax : F
  kpMin : F
  kpMax : F
  kdMin : F
  kdMax : F
  tMin : F
  tMax : F

def floatToUInt [FloatModel F] (value minValue maxValue : F) (bits : Nat) : UInt16 :=
  let v := clamp value minValue maxValue
  let span := maxValue - minValue
  let scaled := (v - minValue) * lit ((2 ^ bits - 1 : Nat) : ℚ) / span
  UInt16.ofInt (trunc (scaled + lit (1 / 2)))

def packMitCommand [FloatModel F] (cmd : MitCommand F) (range : MitRange F) : Payload :=
  let pInt := floatToUInt cmd.position range.pMin range.pMax 16
  let vInt := floatToUInt cmd.velocity range.vMin range.vMax 12
  let kpInt := floatToUInt cmd.kp range.kpMin range.kpMax 12
  let kdInt := floatToUInt cmd.kd range.kdMin range.kdMax 12
  let tInt := floatToUInt cmd.torque range.tMin range.tMax 12
  #v[(pInt >>> 8).toUInt8, (pInt &&& 0xff).toUInt8, (vInt >>> 4).toUInt8,
    ((vInt &&& 0x0f) <<< 4 ||| kpInt >>> 8).toUInt8, (kpInt &&& 0xff).toUInt8,
    (kdInt >>> 4).toUInt8, ((kdInt &&& 0x0f) <<< 4 ||| tInt >>> 8).toUInt8,
    (tInt &&& 0xff).toUInt8]

/-- Seven bytes of ones and the byte that tells the commands apart. -/
def fixedCommand (tail : UInt8) : Payload := (Vector.replicate 8 0xff).setIfInBounds 7 tail

end Mit

namespace Dm

structure DmMotorFeedback1To4 where
  encoder : UInt16
  omegaX100 : Int16
  currentMa : Int16
  rotorTemperature : UInt8
  mosTemperature : UInt8

instance : Zero DmMotorFeedback1To4 := ⟨⟨0, 0, 0, 0, 0⟩⟩

inductive DmControlCommand where
  | kClearError
  | kEnter
  | kExit
  | kSaveZero

def decodeFeedback1To4 (data : Payload) (dlc : UInt8) : Except Errno DmMotorFeedback1To4 :=
  if dlc < 8 then .error .einval
  else
    .ok
      { encoder := getBe16 data 0
        omegaX100 := (getBe16 data 2).toInt16
        currentMa := (getBe16 data 4).toInt16
        rotorTemperature := data.get 6
        mosTemperature := data.get 7 }

def getControlCommandFrame : DmControlCommand → Payload
  | .kClearError => Mit.fixedCommand 0xfb
  | .kEnter => Mit.fixedCommand 0xfc
  | .kExit => Mit.fixedCommand 0xfd
  | .kSaveZero => Mit.fixedCommand 0xfe

def packMitCommand [FloatModel F] (cmd : Mit.MitCommand F) (range : Mit.MitRange F) : Payload :=
  Mit.packMitCommand cmd range

/-- Two groups of four ids, each with its own frame. -/
def pack1To4CurrentFrame (motorCanId : UInt16) (currentMa : Int16) (framePayload : Payload) :
    Except Errno Payload :=
  let slot :=
    if 0x301 ≤ motorCanId ∧ motorCanId ≤ 0x304 then some (motorCanId.toNat - 0x301)
    else if 0x305 ≤ motorCanId ∧ motorCanId ≤ 0x308 then some (motorCanId.toNat - 0x305)
    else none
  match slot with
  | none => .error .einval
  | some slot =>
      let encoded := currentMa.toUInt16
      .ok ((framePayload.setIfInBounds (slot * 2) (encoded >>> 8).toUInt8).setIfInBounds
        (slot * 2 + 1) encoded.toUInt8)

end Dm

namespace Cubemars

structure CubemarsFeedback where
  id : UInt8
  positionRaw : UInt16
  velocityRaw : UInt16
  torqueRaw : UInt16

def decodeFeedback (data : Payload) (dlc : UInt8) : Except Errno CubemarsFeedback :=
  if dlc < 6 then .error .einval
  else
    .ok
      { id := data.get 0
        positionRaw := (data.get 1).toUInt16 <<< 8 ||| (data.get 2).toUInt16
        velocityRaw := (data.get 3).toUInt16 <<< 4 ||| (data.get 4 >>> 4).toUInt16
        torqueRaw := (data.get 4 &&& 0x0f).toUInt16 <<< 8 ||| (data.get 5).toUInt16 }

def getEnterFrame : Payload := Mit.fixedCommand 0xfc
def getSaveZeroFrame : Payload := Mit.fixedCommand 0xfe

def packMitCommand [FloatModel F] (cmd : Mit.MitCommand F) (range : Mit.MitRange F) : Payload :=
  Mit.packMitCommand cmd range

end Cubemars

end RmTest.Protocols
