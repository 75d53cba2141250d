import RmTest.Library.Run
import RmTest.Verification.FeedbackSlots

/-! Motor feedback from the three buses to the modules: filters, callback,
dispatcher, queues and decode loops, in any interleaving. -/
namespace RmTest.Modules

open Channels Protocols Platform FloatModel

variable {F : Type}

section Copied

variable (data : Payload) (copyLen : Nat)

/-- What the callback makes of the data of a frame. -/
def copied : Payload := Vector.ofFn fun i : Fin 8 => if i.val < copyLen then data.get i else 0

theorem getD_copied {i : Nat} (h : i < copyLen) :
    (copied data copyLen).toList.getD i 0 = data.toList.getD i 0 := by
  by_cases hCell : i < 8
  · simp [copied, hCell, h, Vector.get]
  · simp [hCell]

theorem getBe16_copied {i : Nat} (h : i + 1 < copyLen) :
    getBe16 (copied data copyLen) i = getBe16 data i := by
  rw [getBe16, getBe16, getD_copied _ _ (Nat.lt_of_succ_lt h), getD_copied _ _ h]

theorem get_copied {i : Fin 8} (h : i.val < copyLen) :
    (copied data copyLen).get i = data.get i := by
  have hCell : (copied data copyLen).get i = if i.val < copyLen then data.get i else 0 :=
    Vector.getElem_ofFn i.isLt
  rw [hCell, if_pos h]

end Copied

/-- A frame received on a bus. -/
structure CanArrival where
  bus : CanBus
  frame : CanRxFrame

namespace CanArrival

/-- The frame in the form of the queues, with all its data. -/
def message (arrival : CanArrival) : CanRawFrameMessage where
  bus := arrival.bus.number
  canId := arrival.frame.id.toUInt16
  dlc := arrival.frame.dlc
  data := arrival.frame.data

/-- The arrival is a standard frame of the slot's motor and long enough. -/
def Concerns (arrival : CanArrival) (slot : FeedbackSlot) : Prop :=
  arrival.frame.Standard ∧ arrival.bus = slot.bus ∧
    arrival.frame.id = slot.canId.toUInt32 ∧ slot.minDlc ≤ arrival.frame.dlc

instance (arrival : CanArrival) (slot : FeedbackSlot) : Decidable (arrival.Concerns slot) :=
  inferInstanceAs (Decidable (_ ∧ _ ∧ _ ∧ _))

/-- The decode of a frame that concerns the slot. -/
def valueFor [FloatModel F] (arrival : CanArrival) (slot : FeedbackSlot) :
    Option (slot.Value F) :=
  if arrival.Concerns slot then slot.decode arrival.message else none

/-- The event that the callback puts into the receive queue, if the frame comes to
it and is a standard one. -/
def event (arrival : CanArrival) : Option CanRxEvent := receiveFrame arrival.bus arrival.frame

/-- The callback copies no fewer bytes than a protocol reads of a frame that is
long enough for it. -/
theorem canRxCallback_eq {arrival : CanArrival} {event : CanRxEvent}
    (hEvent : canRxCallback arrival.bus arrival.frame = some event) :
    ∃ copyLen, event.frame = { arrival.message with data := copied arrival.message.data copyLen } ∧
      ∀ length : UInt8, length.toNat ≤ 8 → ¬ arrival.message.dlc < length →
        length.toNat ≤ copyLen := by
  have hStandard : ¬ arrival.frame.flags &&& kCanFrameIde ≠ 0 := by
    intro hIde
    rw [canRxCallback, if_pos hIde] at hEvent
    cases hEvent
  rw [canRxCallback, if_neg hStandard] at hEvent
  obtain rfl := Option.some.inj hEvent
  refine ⟨if arrival.frame.dlc > 8 then 8 else arrival.frame.dlc.toNat, rfl, ?_⟩
  intro length hSmall hShort
  rw [UInt8.lt_iff_toNat_lt] at hShort
  split_ifs
  · exact hSmall
  · exact Nat.not_lt.mp hShort

/-- The protocols read no byte that the callback did not copy. -/
theorem decode_copied [FloatModel F] {frame : CanRawFrameMessage} {copyLen : Nat}
    (enough : ∀ length : UInt8, length.toNat ≤ 8 → ¬ frame.dlc < length → length.toNat ≤ copyLen)
    (slot : FeedbackSlot) :
    slot.decode (F := F) { frame with data := copied frame.data copyLen } = slot.decode frame := by
  have hDji : Dji.decodeFeedback (copied frame.data copyLen) frame.dlc =
      Dji.decodeFeedback frame.data frame.dlc := by
    unfold Dji.decodeFeedback
    split_ifs with hShort
    · rfl
    · have hSeven : 7 ≤ copyLen := enough 7 (by decide) hShort
      rw [getBe16_copied _ _ (by omega), getBe16_copied _ _ (by omega),
        getBe16_copied _ _ (by omega), get_copied _ _ (Nat.lt_of_lt_of_le (by decide) hSeven)]
  have hDm : Dm.decodeFeedback1To4 (copied frame.data copyLen) frame.dlc =
      Dm.decodeFeedback1To4 frame.data frame.dlc := by
    unfold Dm.decodeFeedback1To4
    split_ifs with hShort
    · rfl
    · have hEight : 8 ≤ copyLen := enough 8 (by decide) hShort
      rw [getBe16_copied _ _ (by omega), getBe16_copied _ _ (by omega),
        getBe16_copied _ _ (by omega), get_copied _ _ (Nat.lt_of_lt_of_le (by decide) hEight),
        get_copied _ _ (Nat.lt_of_lt_of_le (by decide) hEight)]
  have hCubemars : Cubemars.decodeFeedback (copied frame.data copyLen) frame.dlc =
      Cubemars.decodeFeedback frame.data frame.dlc := by
    unfold Cubemars.decodeFeedback
    split_ifs with hShort
    · rfl
    · have hSix : 6 ≤ copyLen := enough 6 (by decide) hShort
      have hGet (i : Fin 8) (hByte : i.val < 6) : (copied frame.data copyLen).get i =
          frame.data.get i := get_copied _ _ (Nat.lt_of_lt_of_le hByte hSix)
      rw [hGet 0 (by decide), hGet 1 (by decide), hGet 2 (by decide), hGet 3 (by decide),
        hGet 4 (by decide), hGet 5 (by decide)]
  have hMessage : FeedbackSlot.djiMessage { frame with data := copied frame.data copyLen } =
      FeedbackSlot.djiMessage frame := by
    rw [FeedbackSlot.djiMessage, hDji, FeedbackSlot.djiMessage]
  have hOmega : FeedbackSlot.djiOmega { frame with data := copied frame.data copyLen } =
      FeedbackSlot.djiOmega frame := by
    rw [FeedbackSlot.djiOmega, hDji, FeedbackSlot.djiOmega]
  have hFeedback : FeedbackSlot.dmFeedback { frame with data := copied frame.data copyLen } =
      FeedbackSlot.dmFeedback frame := by
    rw [FeedbackSlot.dmFeedback, hDm, FeedbackSlot.dmFeedback]
  have hState : FeedbackSlot.cubemarsState (F := F)
      { frame with data := copied frame.data copyLen } = FeedbackSlot.cubemarsState frame := by
    rw [FeedbackSlot.cubemarsState, hCubemars, FeedbackSlot.cubemarsState]
  cases slot <;> first | exact hMessage | exact hOmega | exact hFeedback | exact hState

/-- The identifiers for which filters are installed. -/
theorem canId_listed : ∀ slot : FeedbackSlot,
    slot.canId ∈ [kDjiId1, kDjiId2, kDjiId3, kDjiId4, kDmId1, kDmId2, kDmId3, kCubemarsBroadcastId]
  | .wheel i => by revert i; decide
  | .wrist i => by revert i; decide
  | .claw | .elbowPitch | .elbowYaw | .xLeft | .xRight | .y | .zLeft | .zRight => by decide

/-- The frames of every slot's motor pass a filter. -/
theorem accepted_canId {slot : FeedbackSlot} {frame : CanRxFrame}
    (hId : frame.id = slot.canId.toUInt32) : defaultFilters.any (·.accepts frame) = true := by
  refine List.any_eq_true.mpr ⟨_, List.mem_map_of_mem (canId_listed slot), ?_⟩
  simp [CanFilter.accepts, hId]

theorem routed_slot : ∀ slot : FeedbackSlot,
    (CanRxEvent.mk slot.bus.number slot.canId 0 (Vector.replicate 8 0)).RoutedTo slot.consumer
  | .wheel i => by revert i; decide
  | .wrist i => by revert i; decide
  | .claw | .elbowPitch | .elbowYaw | .xLeft | .xRight | .y | .zLeft | .zRight => by decide

/-- The frames of every slot's motor are routed to the slot's module. -/
theorem routed_canId {slot : FeedbackSlot} {event : CanRxEvent}
    (hBus : event.bus = slot.bus.number) (hCanId : event.canId = slot.canId) :
    event.RoutedTo slot.consumer := by
  obtain ⟨bus, canId, dlc, data⟩ := event
  obtain rfl : bus = slot.bus.number := hBus
  obtain rfl : canId = slot.canId := hCanId
  have hRouted := routed_slot slot
  cases slot <;> exact hRouted

theorem number_injective {bus bus' : CanBus} (h : bus.number = bus'.number) : bus = bus' := by
  cases bus <;> cases bus' <;> first | rfl | exact absurd h (by decide)

/-- Eleven bits of an identifier survive the conversion to sixteen. -/
theorem toUInt16_eq_iff {frame : CanRxFrame} (standard : frame.Standard) {slot : FeedbackSlot} :
    frame.id.toUInt16 = slot.canId ↔ frame.id = slot.canId.toUInt32 := by
  have hSmall : frame.id.toNat ≤ 0x7ff := UInt32.le_iff_toNat_le.mp (frame.id_le standard)
  rw [← UInt16.toNat_inj, ← UInt32.toNat_inj, UInt32.toNat_toUInt16, UInt16.toNat_toUInt32,
    Nat.mod_eq_of_lt (by omega)]

/-- What an arrival brings to a slot, on its way through filters, callback, routing
and decode loop, is what it should. -/
theorem taken_event [FloatModel F] (arrival : CanArrival) (slot : FeedbackSlot) :
    (arrival.event.bind (·.frameFor slot.consumer)).bind slot.taken =
      arrival.valueFor (F := F) slot := by
  by_cases hStandard : arrival.frame.Standard
  · obtain ⟨event, hEvent, hBus, hCanId, hDlc⟩ := canRxCallback_standard hStandard
    obtain ⟨copyLen, hFrame, hEnough⟩ := canRxCallback_eq hEvent
    have hReceived : arrival.event = if defaultFilters.any (·.accepts arrival.frame) then
        some event else none := by
      rw [CanArrival.event, receiveFrame, hEvent]
    by_cases hMotor : arrival.bus = slot.bus ∧ arrival.frame.id = slot.canId.toUInt32
    · obtain ⟨hSlotBus, hSlotId⟩ := hMotor
      have hSlotBus' : event.bus = slot.bus.number := hBus.trans (congrArg _ hSlotBus)
      have hSlotId' : event.canId = slot.canId :=
        hCanId.trans ((toUInt16_eq_iff hStandard).mpr hSlotId)
      rw [hReceived, if_pos (accepted_canId hSlotId), Option.bind_some, CanRxEvent.frameFor,
        if_pos (routed_canId hSlotBus' hSlotId'), Option.bind_some, FeedbackSlot.taken,
        fromMotor_same hSlotBus' hSlotId', hFrame, decode_copied hEnough, valueFor]
      by_cases hLong : slot.minDlc ≤ arrival.frame.dlc
      · rw [if_pos ⟨hStandard, hSlotBus, hSlotId, hLong⟩]
      · rw [if_neg fun h => hLong h.2.2.2]
        rw [← Option.not_isSome_iff_eq_none, slot.decode_isSome]
        exact hLong
    · have hOther : slot.taken (F := F) event.frame = none := by
        apply if_neg
        rintro ⟨hSlotBus, hSlotId⟩
        refine hMotor ⟨number_injective (hBus.symm.trans hSlotBus), ?_⟩
        exact (toUInt16_eq_iff hStandard).mp (hCanId.symm.trans hSlotId)
      have hNotConcerned : ¬ arrival.Concerns slot := fun h => hMotor ⟨h.2.1, h.2.2.1⟩
      rw [valueFor, if_neg hNotConcerned, hReceived]
      by_cases hAccepted : defaultFilters.any (·.accepts arrival.frame)
      · rw [if_pos hAccepted, Option.bind_some, CanRxEvent.frameFor]
        by_cases hRouted : event.RoutedTo slot.consumer
        · rw [if_pos hRouted]
          exact hOther
        · rw [if_neg hRouted]
          rfl
      · rw [if_neg hAccepted]
        rfl
  · have hNone : arrival.event = none := by
      rw [event, receiveFrame, canRxCallback_extended hStandard, ite_self]
    rw [hNone, valueFor, if_neg fun h => hStandard h.1]
    rfl

end CanArrival

namespace FeedbackModules

variable [FloatModel F]

/-- An iteration of the chassis loop after its decode loop. -/
def chassisTick (modules : FeedbackModules F) (port : CanPort)
    (command : Option (ChassisCommandMessage F)) : FeedbackModules F × CanPort :=
  let (chassis, port, _) := modules.chassis.runLoopTick port [] command
  ({ modules with chassis := chassis }, port)

/-- An iteration of the arm loop after its decode loop. -/
def armTick (modules : FeedbackModules F) (port : CanPort)
    (command : Option (ArmCommandMessage F)) : FeedbackModules F × CanPort :=
  let (arm, port, _) := modules.arm.runLoopTick port [] command
  ({ modules with arm := arm }, port)

/-- An iteration of the gantry loop after its decode loop. -/
def gantryTick (modules : FeedbackModules F) (port : CanPort)
    (read : Option (GantryCommandMessage F)) : FeedbackModules F × CanPort :=
  let (loop, port) :=
    (GantryLoop.mk modules.gantry modules.gantryCommand []).tick port [] read
  ({ modules with gantry := loop.gantry, gantryCommand := loop.command }, port)

theorem read_chassisTick (modules : FeedbackModules F) (port : CanPort)
    (command : Option (ChassisCommandMessage F)) (slot : FeedbackSlot) :
    (modules.chassisTick port command).1.read slot = modules.read slot := by
  have hWheel (i : Fin 4) : (modules.chassisTick port command).1.read (.wheel i) =
      modules.read (.wheel i) := by
    cases command with
    | some command => rfl
    | none =>
        simp only [chassisTick, ChassisModule.runLoopTick]
        split_ifs <;> rfl
  cases slot <;> first | exact hWheel _ | rfl

theorem read_armTick (modules : FeedbackModules F) (port : CanPort)
    (command : Option (ArmCommandMessage F)) (slot : FeedbackSlot) :
    (modules.armTick port command).1.read slot = modules.read slot := by
  cases command with
  | none => cases slot <;> rfl
  | some command =>
      simp only [armTick, ArmModule.runLoopTick, ArmModule.receive, ArmModule.handleCommand,
        ArmModule.controlClaw]
      split_ifs <;> cases slot <;> rfl

theorem read_gantryTick (modules : FeedbackModules F) (port : CanPort)
    (read : Option (GantryCommandMessage F)) (slot : FeedbackSlot) :
    (modules.gantryTick port read).1.read slot = modules.read slot := by
  cases read with
  | none =>
      simp only [gantryTick, GantryLoop.tick]
      split_ifs <;> cases slot <;> rfl
  | some command =>
      simp only [gantryTick, GantryLoop.tick, GantryLoop.receive, GantryModule.handleCommand]
      split_ifs <;> cases slot <;> rfl

end FeedbackModules

/-- The callback, the dispatcher's thread and the threads of the modules take their
steps one at a time, in any order. -/
inductive CanSystemEvent (F : Type) where
  | receive (arrival : CanArrival)
  | dispatcherGet
  | dispatcherRoute
  | decode (consumer : CanConsumer)
  | chassisTick (command : Option (ChassisCommandMessage F))
  | armTick (command : Option (ArmCommandMessage F))
  | gantryTick (command : Option (GantryCommandMessage F))

/-- The frame that an event receives from a bus. -/
def CanSystemEvent.arrival : CanSystemEvent F → Option CanArrival
  | .receive arrival => some arrival
  | _ => none

structure CanSystem (F : Type) where
  rxQueue : BoundedQueue CanRxEvent kCanRxQueueDepth
  /-- The event that the dispatcher took and has not routed yet. -/
  routing : Option CanRxEvent
  queues : CanRawFrameQueues
  modules : FeedbackModules F
  port : CanPort

namespace CanSystem

variable [FloatModel F]

/-- After the `Initialize` of all modules. -/
def start (port : CanPort) : CanSystem F where
  rxQueue := .empty
  routing := none
  queues := fun _ => .empty
  modules :=
    { chassis := (ChassisModule.zeroed F).initialized
      arm := (ArmModule.zeroed F).initialized
      gantry := (GantryModule.zeroed F).initialized
      gantryCommand := 0 }
  port := port

def step (s : CanSystem F) : CanSystemEvent F → CanSystem F
  | .receive arrival =>
      { s with rxQueue := arrival.event.elim s.rxQueue s.rxQueue.put }
  | .dispatcherGet =>
      match s.routing, s.rxQueue.get? with
      | none, some (event, rxQueue) => { s with rxQueue := rxQueue, routing := some event }
      | _, _ => s
  | .dispatcherRoute =>
      match s.routing with
      | none => s
      | some event =>
          { s with routing := none, queues := routeCanFrameToModuleQueues s.queues event }
  | .decode consumer =>
      match (s.queues consumer).get? with
      | none => s
      | some (frame, queue) =>
          { s with
            queues := Function.update s.queues consumer queue
            modules := s.modules.decodeCanFrame consumer frame }
  | .chassisTick command =>
      let (modules, port) := s.modules.chassisTick s.port command
      { s with modules := modules, port := port }
  | .armTick command =>
      let (modules, port) := s.modules.armTick s.port command
      { s with modules := modules, port := port }
  | .gantryTick command =>
      let (modules, port) := s.modules.gantryTick s.port command
      { s with modules := modules, port := port }

/-- No queue is full when something is put into it. -/
def NoOverflow (s : CanSystem F) : CanSystemEvent F → Prop
  | .receive arrival => arrival.event.isSome → s.rxQueue.HasRoom
  | .dispatcherRoute =>
      ∀ event ∈ s.routing, ∀ consumer, event.RoutedTo consumer → (s.queues consumer).HasRoom
  | _ => True

/-- The frames on their way to a module, the oldest first. -/
def pending (s : CanSystem F) (consumer : CanConsumer) : List CanRawFrameMessage :=
  (s.queues consumer).items ++
    (s.routing.toList ++ s.rxQueue.items).filterMap (·.frameFor consumer)

/-- Nothing is on its way to a module. -/
def Drained (s : CanSystem F) (consumer : CanConsumer) : Prop :=
  s.rxQueue.items = [] ∧ s.routing = none ∧ (s.queues consumer).items = []

/-- What a slot is going to hold once the frames on their way are decoded. -/
def upcoming (s : CanSystem F) (slot : FeedbackSlot) : Option (slot.Value F) :=
  ((s.pending slot.consumer).filterMap slot.taken).getLast?.or (s.modules.read slot)

omit [FloatModel F] in
theorem filterMap_toList {Item Value : Type} (item : Option Item) (f : Item → Option Value) :
    item.toList.filterMap f = (item.bind f).toList := by
  cases item with
  | none => rfl
  | some item => cases h : f item <;> simp [h]

omit [FloatModel F] in
theorem getLast?_append_toList {Value : Type} (values : List Value) (value : Option Value) :
    (values ++ value.toList).getLast? = value.or values.getLast? := by
  cases value <;> simp

/-- A frame that joins those on their way comes last. -/
theorem upcoming_append {s s' : CanSystem F} {slot : FeedbackSlot}
    {frame : Option CanRawFrameMessage}
    (joined : s'.pending slot.consumer = s.pending slot.consumer ++ frame.toList)
    (same : s'.modules.read slot = s.modules.read slot) :
    s'.upcoming slot = (frame.bind slot.taken).or (s.upcoming slot) := by
  rw [upcoming, joined, same, List.filterMap_append, filterMap_toList, getLast?_append_toList,
    Option.or_assoc, upcoming]

/-- A frame that is decoded makes no difference to what is upcoming. -/
theorem upcoming_decoded {s s' : CanSystem F} {slot : FeedbackSlot} {frame : CanRawFrameMessage}
    (left : s.pending slot.consumer = frame :: s'.pending slot.consumer)
    (decoded : s'.modules.read slot = (slot.taken frame).or (s.modules.read slot)) :
    s'.upcoming slot = s.upcoming slot := by
  have hFront : (frame :: s'.pending slot.consumer).filterMap (slot.taken (F := F)) =
      (slot.taken frame).toList ++ (s'.pending slot.consumer).filterMap slot.taken := by
    cases h : slot.taken (F := F) frame <;> simp [h]
  have hLast : (slot.taken (F := F) frame).toList.getLast? = slot.taken frame :=
    (getLast?_append_toList [] _).trans (Option.or_none)
  rw [upcoming, decoded, upcoming, left, hFront, List.getLast?_append, hLast, Option.or_assoc]

theorem upcoming_of_eq {s s' : CanSystem F} {slot : FeedbackSlot}
    (pending : s'.pending slot.consumer = s.pending slot.consumer)
    (read : s'.modules.read slot = s.modules.read slot) :
    s'.upcoming slot = s.upcoming slot := by
  rw [upcoming, pending, read, upcoming]

/-- A frame received from a bus comes last of those on their way, in the form of
the queues. -/
theorem pending_receive {s : CanSystem F} {arrival : CanArrival}
    (room : s.NoOverflow (.receive arrival)) (consumer : CanConsumer) :
    (s.step (.receive arrival)).pending consumer =
      s.pending consumer ++ (arrival.event.bind (·.frameFor consumer)).toList := by
  have hItems : (s.step (.receive arrival)).rxQueue.items =
      s.rxQueue.items ++ arrival.event.toList := by
    cases hEvent : arrival.event with
    | none => simp [step, hEvent]
    | some event =>
        have hRoom : s.rxQueue.HasRoom := room (by rw [hEvent]; rfl)
        simpa [step, hEvent] using BoundedQueue.items_put hRoom event
  rw [pending, hItems, ← List.append_assoc, List.filterMap_append, filterMap_toList,
    ← List.append_assoc]
  rfl

theorem pending_dispatcherGet (s : CanSystem F) (consumer : CanConsumer) :
    (s.step .dispatcherGet).pending consumer = s.pending consumer := by
  cases hRouting : s.routing with
  | some event => simp [step, hRouting]
  | none =>
      rcases s.rxQueue.get?_cases with ⟨hGet, _⟩ | ⟨event, rest, hGet, hItems⟩
      · simp [step, hRouting, hGet]
      · simp [step, hRouting, hGet, pending, hItems]

theorem pending_dispatcherRoute {s : CanSystem F} (room : s.NoOverflow .dispatcherRoute)
    (consumer : CanConsumer) :
    (s.step .dispatcherRoute).pending consumer = s.pending consumer := by
  cases hRouting : s.routing with
  | none => simp [step, hRouting]
  | some event =>
      have hQueue : (routeCanFrameToModuleQueues s.queues event consumer).items =
          (s.queues consumer).items ++ (event.frameFor consumer).toList := by
        rw [routeCanFrameToModuleQueues_apply, CanRxEvent.frameFor]
        by_cases hRouted : event.RoutedTo consumer
        · rw [if_pos hRouted, if_pos hRouted]
          exact BoundedQueue.items_put (room event hRouting consumer hRouted) event.frame
        · rw [if_neg hRouted, if_neg hRouted]
          exact (List.append_nil _).symm
      simp only [step, hRouting, pending, hQueue, Option.toList_none, Option.toList_some,
        List.nil_append, List.filterMap_append, List.append_assoc]
      rw [← Option.toList_some, filterMap_toList]
      rfl

theorem upcoming_decode (s : CanSystem F) (consumer : CanConsumer) (slot : FeedbackSlot) :
    (s.step (.decode consumer)).upcoming slot = s.upcoming slot := by
  rcases (s.queues consumer).get?_cases with ⟨hGet, _⟩ | ⟨frame, rest, hGet, hItems⟩
  · simp [step, hGet]
  · have hStep : s.step (.decode consumer) =
        { s with
          queues := Function.update s.queues consumer rest
          modules := s.modules.decodeCanFrame consumer frame } := by
      simp [step, hGet]
    by_cases hOwn : consumer = slot.consumer
    · subst hOwn
      have hPending : s.pending slot.consumer =
          frame :: (s.step (.decode slot.consumer)).pending slot.consumer := by
        simp [hStep, pending, hItems]
      refine upcoming_decoded hPending ?_
      rw [hStep]
      exact s.modules.read_decodeCanFrame slot frame
    · refine upcoming_of_eq ?_ ?_
      · simp [hStep, pending, Function.update_of_ne (Ne.symm hOwn)]
      · rw [hStep]
        exact s.modules.read_decodeCanFrame_other hOwn frame

/-- Without overflow, nothing on its way is lost or out of order: a step brings to
what is upcoming what it receives for the slot, and nothing else. -/
theorem upcoming_step {s : CanSystem F} {event : CanSystemEvent F} (room : s.NoOverflow event)
    (slot : FeedbackSlot) :
    (s.step event).upcoming slot =
      (event.arrival.bind (·.valueFor slot)).or (s.upcoming slot) := by
  cases event with
  | receive arrival =>
      refine (upcoming_append (pending_receive room slot.consumer) rfl).trans ?_
      rw [arrival.taken_event slot]
      rfl
  | dispatcherGet =>
      refine upcoming_of_eq (s.pending_dispatcherGet slot.consumer) ?_
      simp only [step]
      split <;> rfl
  | dispatcherRoute =>
      refine upcoming_of_eq (pending_dispatcherRoute room slot.consumer) ?_
      simp only [step]
      split <;> rfl
  | decode consumer => exact s.upcoming_decode consumer slot
  | chassisTick command =>
      have hPending : (s.step (.chassisTick command)).pending slot.consumer =
          s.pending slot.consumer := rfl
      exact upcoming_of_eq hPending (s.modules.read_chassisTick s.port command slot)
  | armTick command =>
      have hPending : (s.step (.armTick command)).pending slot.consumer =
          s.pending slot.consumer := rfl
      exact upcoming_of_eq hPending (s.modules.read_armTick s.port command slot)
  | gantryTick command =>
      have hPending : (s.step (.gantryTick command)).pending slot.consumer =
          s.pending slot.consumer := rfl
      exact upcoming_of_eq hPending (s.modules.read_gantryTick s.port command slot)

/-- The frames that a run receives from the buses, in order. -/
def arrivals (events : List (CanSystemEvent F)) : List CanArrival :=
  events.filterMap CanSystemEvent.arrival

/-- The value that a run receives for a slot last. -/
def latest (events : List (CanSystemEvent F)) (slot : FeedbackSlot) : Option (slot.Value F) :=
  ((arrivals events).filterMap (·.valueFor slot)).getLast?

theorem latest_cons (event : CanSystemEvent F) (rest : List (CanSystemEvent F))
    (slot : FeedbackSlot) :
    latest (event :: rest) slot =
      (latest rest slot).or (event.arrival.bind (·.valueFor slot)) := by
  have hFront : (arrivals (event :: rest)).filterMap (·.valueFor (F := F) slot) =
      (event.arrival.bind (·.valueFor slot)).toList ++
        (arrivals rest).filterMap (·.valueFor slot) := by
    rw [arrivals, ← List.singleton_append, List.filterMap_append, List.filterMap_append]
    cases event with
    | receive arrival => exact congrArg (· ++ _) (filterMap_toList (some arrival) _)
    | _ => rfl
  rw [latest, hFront, List.getLast?_append, latest]
  exact congrArg _ ((getLast?_append_toList [] _).trans (Option.or_none))

/-- Over a run, what is upcoming is what was received last. -/
theorem upcoming_foldl {s : CanSystem F} {events : List (CanSystemEvent F)}
    (noOverflow : Run.Along step NoOverflow s events) (slot : FeedbackSlot) :
    (events.foldl step s).upcoming slot = (latest events slot).or (s.upcoming slot) := by
  induction events generalizing s with
  | nil => exact (Option.none_or).symm
  | cons event rest ih =>
      rw [List.foldl_cons, ih noOverflow.2, upcoming_step noOverflow.1, latest_cons,
        Option.or_assoc]

/-- A slot holds something exactly if a frame that concerns it was received. -/
theorem latest_isSome (events : List (CanSystemEvent F)) (slot : FeedbackSlot) :
    (latest events slot).isSome ↔ ∃ arrival ∈ arrivals events, arrival.Concerns slot := by
  have hValue (arrival : CanArrival) :
      (arrival.valueFor (F := F) slot).isSome ↔ arrival.Concerns slot := by
    rw [CanArrival.valueFor]
    split_ifs with hConcerns
    · exact iff_of_true ((slot.decode_isSome arrival.message).mpr hConcerns.2.2.2) hConcerns
    · exact iff_of_false (by simp) hConcerns
  rw [latest, List.getLast?_isSome, Ne, List.filterMap_eq_nil_iff]
  simp only [← hValue, not_forall, Option.isSome_iff_ne_none, exists_prop]

theorem upcoming_drained {s : CanSystem F} {slot : FeedbackSlot}
    (drained : s.Drained slot.consumer) : s.upcoming slot = s.modules.read slot := by
  have hPending : s.pending slot.consumer = [] := by
    simp [pending, drained.1, drained.2.1, drained.2.2]
  rw [upcoming, hPending]
  exact Option.none_or

theorem upcoming_start (port : CanPort) (slot : FeedbackSlot) :
    (start (F := F) port).upcoming slot = none := by
  rw [upcoming_drained ⟨rfl, rfl, rfl⟩]
  have hInvalid {size : Nat} (i : Fin size) {Value : Type} (value : Value) :
      whenValid ((Vector.replicate size false).get i) value = none := by
    have hCell : (Vector.replicate size false).get i = false := Vector.getElem_replicate i.isLt
    rw [hCell]
    rfl
  have hChassis : (start (F := F) port).modules.chassis.motorFeedbackValid =
      Vector.replicate 4 false := by
    simp only [start, ChassisModule.initialized, ChassisModule.setSpeedPidTuning]
    split_ifs <;> rfl
  cases slot with
  | wheel i =>
      simp only [FeedbackModules.read, ChassisModule.wheelFeedback, hChassis]
      exact hInvalid i _
  | wrist i => exact hInvalid i _
  | _ => rfl

/-- Whatever the buses received and however the threads took turns: if no queue was
full at a put, then a module that has no frame on its way holds in every slot the
decode of the last frame of the slot's motor that was long enough, and nothing if
there was none. -/
theorem feedback_is_latest (port : CanPort) {events : List (CanSystemEvent F)}
    (noOverflow : Run.Along step NoOverflow (start port) events) (slot : FeedbackSlot)
    (drained : (events.foldl step (start port)).Drained slot.consumer) :
    (events.foldl step (start port)).modules.read slot = latest events slot ∧
      (((events.foldl step (start port)).modules.read slot).isSome ↔
        ∃ arrival ∈ arrivals events, arrival.Concerns slot) := by
  have hRead : (events.foldl step (start port)).modules.read slot = latest events slot := by
    rw [← upcoming_drained drained, upcoming_foldl noOverflow, upcoming_start]
    exact Option.or_none
  rw [hRead]
  exact ⟨rfl, latest_isSome events slot⟩

/-- Feedback of the second wheel, received, routed and decoded. -/
def wheelEvents : List (CanSystemEvent ℚ) :=
  [.receive
      { bus := .kCan1
        frame :=
          { id := 0x202
            flags := 0
            dlc := 8
            data := #v[0x10, 0x00, 0x00, 0x64, 0x00, 0x05, 0x20, 0x00]
            id_le := by decide } },
    .dispatcherGet, .dispatcherRoute, .decode .chassis]

theorem feedback_is_latest_wheel :
    (wheelEvents.foldl step (start { canDev := fun _ => true, sent := [] })).modules.read
        (.wheel 1) = latest wheelEvents (.wheel 1) ∧
      (((wheelEvents.foldl step (start { canDev := fun _ => true, sent := [] })).modules.read
        (.wheel 1)).isSome ↔ ∃ arrival ∈ arrivals wheelEvents, arrival.Concerns (.wheel 1)) := by
  have hNoOverflow :
      Run.Along step NoOverflow (start { canDev := fun _ => true, sent := [] }) wheelEvents :=
    ⟨fun _ => Nat.zero_lt_succ 15, trivial, fun _ _ _ _ => Nat.zero_lt_succ 31, trivial, trivial⟩
  exact feedback_is_latest _ hNoOverflow (.wheel 1) ⟨rfl, rfl, rfl⟩

end CanSystem

end RmTest.Modules
