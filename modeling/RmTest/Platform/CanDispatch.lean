import RmTest.Channels.RawFrameQueues
import RmTest.Protocols.Motors

/-! The CAN dispatcher. On the sending side `sent` records every frame handed to
a CAN controller with its bus, the latest first; motors keep the latest frame
of an identifier, and the controllers deliver in the order of sending. On the
receiving side filters, a callback and a thread bring frames to the modules. -/
namespace RmTest.Platform

open Channels Protocols

inductive CanBus where
  | kCan1
  | kCan2
  | kCan3
  deriving DecidableEq

structure CanFrame where
  id : UInt16
  dlc : UInt8
  data : Payload
  deriving DecidableEq

structure CanPort where
  /-- Whether `Initialize` found a device for the bus. -/
  canDev : CanBus → Bool
  sent : List (CanBus × CanFrame)

namespace CanPort

def sendStdDataOnBus (port : CanPort) (bus : CanBus) (canId : UInt16) (data : Payload)
    (dlc : UInt8) : CanPort × Except Errno Unit :=
  if 8 < dlc then (port, .error .einval)
  else if port.canDev bus = false then (port, .error .enodev)
  else
    let frame : CanFrame :=
      { id := canId
        dlc := dlc
        data := Vector.ofFn fun i => if i.val < dlc.toNat then data.get i else 0 }
    ({ port with sent := (bus, frame) :: port.sent }, .ok ())

/-- A full payload is sent as it is, if the bus has a device. -/
theorem sendStdDataOnBus_full (port : CanPort) (bus : CanBus) (canId : UInt16) (data : Payload) :
    (port.sendStdDataOnBus bus canId data 8).1 =
      if port.canDev bus then { port with sent := (bus, ⟨canId, 8, data⟩) :: port.sent }
      else port := by
  have hData : (Vector.ofFn fun i : Fin 8 => if i.val < (8 : UInt8).toNat then data.get i else 0) =
      data := by
    apply Vector.ext
    intro i hi
    rw [Vector.getElem_ofFn]
    exact if_pos hi
  have hDlc : ¬ (8 : UInt8) < 8 := by decide
  rw [sendStdDataOnBus, if_neg hDlc]
  cases hDev : port.canDev bus with
  | false => rfl
  | true => simp only [hData]; rfl

@[simp] theorem canDev_sendStdDataOnBus (port : CanPort) (bus : CanBus) (canId : UInt16)
    (data : Payload) (dlc : UInt8) :
    (port.sendStdDataOnBus bus canId data dlc).1.canDev = port.canDev := by
  unfold sendStdDataOnBus
  split_ifs <;> rfl

/-- The latest frame with the given identifier on a bus. -/
def lastFrame (port : CanPort) (bus : CanBus) (id : UInt16) : Option CanFrame :=
  (port.sent.find? fun entry => entry.1 = bus ∧ entry.2.id = id).map (·.2)

theorem lastFrame_cons (port : CanPort) (bus sentBus : CanBus) (id : UInt16) (frame : CanFrame) :
    { port with sent := (sentBus, frame) :: port.sent }.lastFrame bus id =
      if sentBus = bus ∧ frame.id = id then some frame else port.lastFrame bus id := by
  by_cases hSame : sentBus = bus ∧ frame.id = id
  · simp [lastFrame, hSame]
  · simp [lastFrame, hSame]

/-- Sending under another identifier, with whatever result, does not change the
latest frame. -/
theorem lastFrame_sendStdDataOnBus (port : CanPort) (bus sentBus : CanBus) {id canId : UInt16}
    (other : canId ≠ id) (data : Payload) (dlc : UInt8) :
    (port.sendStdDataOnBus sentBus canId data dlc).1.lastFrame bus id = port.lastFrame bus id := by
  unfold sendStdDataOnBus
  split_ifs
  · rfl
  · rfl
  · have hOther : ¬ (sentBus = bus ∧ canId = id) := fun h => other h.2
    rw [lastFrame_cons, if_neg hOther]

end CanPort

/-- The number of a bus, which its filters hand to the callback. -/
def CanBus.number : CanBus → UInt8
  | .kCan1 => 1
  | .kCan2 => 2
  | .kCan3 => 3

/-- The flag of a frame with an extended identifier. -/
def kCanFrameIde : UInt8 := 0x01

def kCanStdIdMask : UInt32 := 0x7ff

/-- A frame as a controller receives it. Of the data the first eight bytes count. -/
structure CanRxFrame where
  id : UInt32
  flags : UInt8
  dlc : UInt8
  data : Payload
  /-- The identifier of a standard frame has eleven bits. -/
  id_le : flags &&& kCanFrameIde = 0 → id ≤ kCanStdIdMask

def CanRxFrame.Standard (frame : CanRxFrame) : Prop := frame.flags &&& kCanFrameIde = 0

instance (frame : CanRxFrame) : Decidable frame.Standard := inferInstanceAs (Decidable (_ = _))

structure CanFilter where
  id : UInt32
  mask : UInt32

/-- Controllers compare the masked identifiers. One that compares the frame format
as well only keeps back extended frames, which the callback drops anyway. -/
def CanFilter.accepts (filter : CanFilter) (frame : CanRxFrame) : Bool :=
  (frame.id ^^^ filter.id) &&& filter.mask = 0

def kDjiId1 : UInt16 := 0x201
def kDjiId2 : UInt16 := 0x202
def kDjiId3 : UInt16 := 0x203
def kDjiId4 : UInt16 := 0x204
def kDmId1 : UInt16 := 0x011
def kDmId2 : UInt16 := 0x012
def kDmId3 : UInt16 := 0x013
def kCubemarsBroadcastId : UInt16 := 0x000

/-- The filters that `AddDefaultFilters` installs on every bus. -/
def defaultFilters : List CanFilter :=
  [kDjiId1, kDjiId2, kDjiId3, kDjiId4, kDmId1, kDmId2, kDmId3, kCubemarsBroadcastId].map
    fun id => { id := id.toUInt32, mask := kCanStdIdMask }

/-- The depth of `g_can_rx_msgq`. -/
def kCanRxQueueDepth : Nat := 16

structure CanRxEvent where
  bus : UInt8
  canId : UInt16
  dlc : UInt8
  data : Payload
  deriving DecidableEq

/-- What `CanRxCallback` puts into the receive queue. -/
def canRxCallback (bus : CanBus) (frame : CanRxFrame) : Option CanRxEvent :=
  if frame.flags &&& kCanFrameIde ≠ 0 then none
  else
    let copyLen : Nat := if frame.dlc > 8 then 8 else frame.dlc.toNat
    some
      { bus := bus.number
        canId := frame.id.toUInt16
        dlc := frame.dlc
        data := Vector.ofFn fun i => if i.val < copyLen then frame.data.get i else 0 }

theorem canRxCallback_extended {bus : CanBus} {frame : CanRxFrame} (extended : ¬ frame.Standard) :
    canRxCallback bus frame = none := if_pos extended

theorem canRxCallback_standard {bus : CanBus} {frame : CanRxFrame} (standard : frame.Standard) :
    ∃ event, canRxCallback bus frame = some event ∧ event.bus = bus.number ∧
      event.canId = frame.id.toUInt16 ∧ event.dlc = frame.dlc :=
  ⟨_, if_neg (not_not.mpr standard), rfl, rfl, rfl⟩

/-- What becomes of a frame on a bus: it comes to the callback once a filter
accepts it. -/
def receiveFrame (bus : CanBus) (frame : CanRxFrame) : Option CanRxEvent :=
  if defaultFilters.any (·.accepts frame) then canRxCallback bus frame else none

def CanRxEvent.frame (event : CanRxEvent) : CanRawFrameMessage where
  bus := event.bus
  canId := event.canId
  dlc := event.dlc
  data := event.data

def routeCanFrameToModuleQueues (queues : CanRawFrameQueues) (event : CanRxEvent) :
    CanRawFrameQueues :=
  let frame := event.frame
  if event.bus = 1 then
    let queues :=
      if event.canId ≥ kDjiId1 ∧ event.canId ≤ kDjiId4 then queues.enqueueFor .chassis frame
      else queues
    if event.canId = kCubemarsBroadcastId then queues.enqueueFor .gantry frame else queues
  else if event.bus = 2 then
    if event.canId = kCubemarsBroadcastId ∨ event.canId = 0x201 ∨ event.canId = 0x202 then
      queues.enqueueFor .gantry frame
    else queues
  else if event.bus = 3 then
    let queues :=
      if event.canId = kDmId1 ∨ event.canId = kDmId2 ∨ event.canId = kDmId3 ∨
          event.canId = 0x202 ∨ event.canId = 0x203 then
        queues.enqueueFor .arm frame
      else queues
    if event.canId = 0x201 then queues.enqueueFor .gantry frame else queues
  else queues

/-- The consumers that an event is routed to. -/
def CanRxEvent.RoutedTo (event : CanRxEvent) : CanConsumer → Prop
  | .chassis => event.bus = 1 ∧ event.canId ≥ kDjiId1 ∧ event.canId ≤ kDjiId4
  | .arm =>
      event.bus = 3 ∧ (event.canId = kDmId1 ∨ event.canId = kDmId2 ∨ event.canId = kDmId3 ∨
        event.canId = 0x202 ∨ event.canId = 0x203)
  | .gimbal => False
  | .gantry =>
      event.bus = 1 ∧ event.canId = kCubemarsBroadcastId ∨
        event.bus = 2 ∧ (event.canId = kCubemarsBroadcastId ∨ event.canId = 0x201 ∨
          event.canId = 0x202) ∨
        event.bus = 3 ∧ event.canId = 0x201

instance (event : CanRxEvent) (consumer : CanConsumer) : Decidable (event.RoutedTo consumer) :=
  match consumer with
  | .chassis => inferInstanceAs (Decidable (_ ∧ _ ∧ _))
  | .arm => inferInstanceAs (Decidable (_ ∧ (_ ∨ _ ∨ _ ∨ _ ∨ _)))
  | .gimbal => inferInstanceAs (Decidable False)
  | .gantry => inferInstanceAs (Decidable (_ ∧ _ ∨ _ ∧ (_ ∨ _ ∨ _) ∨ _ ∧ _))

/-- The frame that routing an event brings to a consumer. -/
def CanRxEvent.frameFor (event : CanRxEvent) (consumer : CanConsumer) : Option CanRawFrameMessage :=
  if event.RoutedTo consumer then some event.frame else none

/-- Routing puts the frame into the queues of those it is routed to. -/
theorem routeCanFrameToModuleQueues_apply (queues : CanRawFrameQueues) (event : CanRxEvent)
    (consumer : CanConsumer) :
    routeCanFrameToModuleQueues queues event consumer =
      if event.RoutedTo consumer then (queues consumer).put event.frame else queues consumer := by
  have hEnqueue (queues : CanRawFrameQueues) (routed : Prop) [Decidable routed]
      (enqueued : CanConsumer) :
      (if routed then queues.enqueueFor enqueued event.frame else queues) consumer =
        if routed ∧ consumer = enqueued then (queues consumer).put event.frame
        else queues consumer := by
    by_cases hRouted : routed
    · simp only [hRouted, if_true, true_and, queues.enqueueFor_apply]
    · simp only [hRouted, if_false, false_and]
  by_cases hOne : event.bus = 1
  · simp only [routeCanFrameToModuleQueues, if_pos hOne, hEnqueue]
    cases consumer <;> simp [CanRxEvent.RoutedTo, hOne]
  · by_cases hTwo : event.bus = 2
    · simp only [routeCanFrameToModuleQueues, if_neg hOne, if_pos hTwo, hEnqueue]
      cases consumer <;> simp [CanRxEvent.RoutedTo, hTwo]
    · by_cases hThree : event.bus = 3
      · simp only [routeCanFrameToModuleQueues, if_neg hOne, if_neg hTwo, if_pos hThree, hEnqueue]
        cases consumer <;> simp [CanRxEvent.RoutedTo, hThree]
      · simp only [routeCanFrameToModuleQueues, if_neg hOne, if_neg hTwo, if_neg hThree]
        cases consumer <;> simp [CanRxEvent.RoutedTo, hOne, hTwo, hThree]

end RmTest.Platform
