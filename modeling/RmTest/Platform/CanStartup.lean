import RmTest.Platform.CanDispatch

/-! How the CAN dispatcher is started: the devices of the buses, their filters and the
thread that brings frames to the modules. -/
namespace RmTest.Platform

open Channels

/-- What the devices have to say during one call of `Initialize`. -/
structure CanOutcomes where
  /-- Whether `FindCanDeviceForBus` finds a device. -/
  found : CanBus → Bool
  /-- What `can_start` returns. -/
  canStart : CanBus → Except Errno Unit
  /-- Whether `can_add_rx_filter` returns the number of a filter. -/
  canAddRxFilter : CanBus → CanFilter → Bool

structure CanDispatcher where
  canDev : CanBus → Bool
  /-- The filters of the devices, in the order of their installation. -/
  filters : List (CanBus × CanFilter)
  /-- How many times the thread has been created. -/
  threads : Nat
  started : Bool

namespace CanDispatcher

def initial : CanDispatcher where
  canDev := fun _ => false
  filters := []
  threads := 0
  started := false

def buses : List CanBus := [.kCan1, .kCan2, .kCan3]

/-- The loop of `AddDefaultFilters`. -/
def addFilters (o : CanOutcomes) (bus : CanBus) :
    List CanFilter → CanDispatcher → CanDispatcher × Except Errno Unit
  | [], d => (d, .ok ())
  | filter :: rest, d =>
      if o.canAddRxFilter bus filter then
        addFilters o bus rest { d with filters := d.filters ++ [(bus, filter)] }
      else (d, .error .eio)

def addDefaultFilters (d : CanDispatcher) (o : CanOutcomes) (bus : CanBus) :
    CanDispatcher × Except Errno Unit :=
  addFilters o bus defaultFilters d

/-- The loop over the buses in `Initialize`. -/
def startBuses (o : CanOutcomes) : List CanBus → CanDispatcher → CanDispatcher × Except Errno Unit
  | [], d => (d, .ok ())
  | bus :: rest, d =>
      let d := { d with canDev := fun other => if other = bus then o.found bus else d.canDev other }
      if !o.found bus then startBuses o rest d
      else if o.canStart bus ≠ .ok () ∧ o.canStart bus ≠ .error .ealready then (d, o.canStart bus)
      else
        match d.addDefaultFilters o bus with
        | (d, .error rc) => (d, .error rc)
        | (d, .ok ()) => startBuses o rest d

/-- `Initialize`. -/
def initializeDispatch (d : CanDispatcher) (o : CanOutcomes) : CanDispatcher × Except Errno Unit :=
  if d.started then (d, .ok ())
  else
    match startBuses o buses d with
    | (d, .error rc) => (d, .error rc)
    | (d, .ok ()) =>
        let hasAnyBus := buses.any o.found
        if !hasAnyBus then (d, .error .enodev)
        else ({ d with threads := d.threads + 1, started := true }, .ok ())

/-- What a frame on a bus brings to the receive queue: every filter that accepts it hands
it to the callback. -/
def receive (d : CanDispatcher) (bus : CanBus) (frame : CanRxFrame) : List CanRxEvent :=
  (d.filters.filter fun installed => installed.1 = bus ∧ installed.2.accepts frame).filterMap
    fun _ => canRxCallback bus frame

end CanDispatcher

end RmTest.Platform
