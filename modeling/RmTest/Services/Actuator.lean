import RmTest.Platform.CanDispatch

/-! The actuator service: four motor currents in one frame of a group. -/
namespace RmTest.Services.Actuator

open Channels Protocols Platform

inductive MotorCurrentGroup where
  | kDji0x200
  | kDji0x1ff
  deriving DecidableEq

structure CurrentDispatchEntry where
  group : MotorCurrentGroup
  canId : UInt16
  encode : Vector Int16 4 → Payload → Except Errno Payload

def kDispatchTable : List CurrentDispatchEntry :=
  [{ group := .kDji0x200, canId := 0x200, encode := Dji.encodeCurrentFrame0x200 },
    { group := .kDji0x1ff, canId := 0x1ff, encode := Dji.encodeCurrentFrame0x1ff }]

def findDispatchEntry (group : MotorCurrentGroup) : Option CurrentDispatchEntry :=
  kDispatchTable.find? fun entry => entry.group = group

def sendMotorCurrent (port : CanPort) (bus : CanBus) (group : MotorCurrentGroup)
    (currentCmd : Vector Int16 4) : CanPort × Except Errno Unit :=
  match findDispatchEntry group with
  | none => (port, .error .enotsup)
  | some entry =>
      match entry.encode currentCmd (Vector.replicate 8 0) with
      | .error errno => (port, .error errno)
      | .ok frame => port.sendStdDataOnBus bus entry.canId frame 8

@[simp] theorem canDev_sendMotorCurrent (port : CanPort) (bus : CanBus)
    (group : MotorCurrentGroup) (currentCmd : Vector Int16 4) :
    (sendMotorCurrent port bus group currentCmd).1.canDev = port.canDev := by
  unfold sendMotorCurrent
  split
  · rfl
  · split
    · rfl
    · exact port.canDev_sendStdDataOnBus _ _ _ _

/-- Group 0x200 is sent whole, all four slots at once, if the bus has a device. -/
theorem sendMotorCurrent_0x200 (port : CanPort) (bus : CanBus) (currentCmd : Vector Int16 4) :
    ∃ payload, (∀ slot : Fin 4, Dji.slotCurrent payload slot = currentCmd.get slot) ∧
      (sendMotorCurrent port bus .kDji0x200 currentCmd).1 =
        if port.canDev bus then { port with sent := (bus, ⟨0x200, 8, payload⟩) :: port.sent }
        else port := by
  obtain ⟨payload, hPayload, hSlots⟩ :=
    Dji.encodeCurrentFrameCommon_slots currentCmd (Vector.replicate 8 0)
  have hEntry : findDispatchEntry .kDji0x200 = some
      { group := .kDji0x200, canId := 0x200, encode := Dji.encodeCurrentFrame0x200 } := rfl
  have hEncode : Dji.encodeCurrentFrame0x200 currentCmd (Vector.replicate 8 0) = .ok payload :=
    hPayload
  refine ⟨payload, hSlots, ?_⟩
  simp only [sendMotorCurrent, hEntry, hEncode]
  exact port.sendStdDataOnBus_full bus 0x200 payload

/-- The currents of the motors 0x201 to 0x204 of a bus, which all take theirs
from the latest frame 0x200. -/
def heldCurrents (port : CanPort) (bus : CanBus) : Option (Vector Int16 4) :=
  (port.lastFrame bus 0x200).map fun frame => Vector.ofFn (Dji.slotCurrent frame.data)

/-- A frame of group 0x200 replaces all four currents. -/
theorem heldCurrents_sendMotorCurrent (port : CanPort) (bus sentBus : CanBus)
    (currentCmd : Vector Int16 4) :
    heldCurrents (sendMotorCurrent port sentBus .kDji0x200 currentCmd).1 bus =
      if port.canDev sentBus ∧ sentBus = bus then some currentCmd else heldCurrents port bus := by
  obtain ⟨payload, hSlots, hSent⟩ := sendMotorCurrent_0x200 port sentBus currentCmd
  have hPayload : Vector.ofFn (Dji.slotCurrent payload) = currentCmd := by
    apply Vector.ext
    intro slot hSlot
    rw [Vector.getElem_ofFn]
    exact hSlots ⟨slot, hSlot⟩
  rw [hSent]
  cases port.canDev sentBus with
  | false => simp
  | true =>
      rw [if_pos rfl, heldCurrents, CanPort.lastFrame_cons]
      by_cases hSame : sentBus = bus
      · simp [hSame, hPayload]
      · simp [hSame, heldCurrents]

/-- What sending frames other than those of group 0x200 does to a port. -/
structure KeepsCurrents (before after : CanPort) : Prop where
  canDev : after.canDev = before.canDev
  held : ∀ bus, heldCurrents after bus = heldCurrents before bus

namespace KeepsCurrents

theorem refl (port : CanPort) : KeepsCurrents port port := ⟨rfl, fun _ => rfl⟩

theorem trans {first second third : CanPort} (left : KeepsCurrents first second)
    (right : KeepsCurrents second third) : KeepsCurrents first third :=
  ⟨right.canDev.trans left.canDev, fun bus => (right.held bus).trans (left.held bus)⟩

theorem sendStdDataOnBus (port : CanPort) (bus : CanBus) {canId : UInt16} (other : canId ≠ 0x200)
    (data : Payload) (dlc : UInt8) :
    KeepsCurrents port (port.sendStdDataOnBus bus canId data dlc).1 := by
  refine ⟨port.canDev_sendStdDataOnBus bus canId data dlc, fun held => ?_⟩
  rw [heldCurrents, CanPort.lastFrame_sendStdDataOnBus port held bus other, heldCurrents]

theorem foldl {Item : Type} {send : CanPort → Item → CanPort} {items : List Item}
    (keeps : ∀ item ∈ items, ∀ port, KeepsCurrents port (send port item)) (port : CanPort) :
    KeepsCurrents port (items.foldl send port) := by
  induction items generalizing port with
  | nil => exact refl port
  | cons item rest ih =>
      have hFirst := keeps item (List.mem_cons_self) port
      exact hFirst.trans (ih (fun item hItem => keeps item (List.mem_cons_of_mem _ hItem)) _)

end KeepsCurrents

end RmTest.Services.Actuator
