import RmTest.Platform.RefereeClient

/-! The referee module: its thread feeds the chunks that wait in its queue to the client
and then publishes what the client knows. -/
namespace RmTest.Modules

open Channels Platform

variable {F : Type} [FloatSource F]

structure RefereeModule (F : Type) where
  client : RefereeClient F
  sequence : UInt32

namespace RefereeModule

/-- The module when its thread starts, which is after `Initialize`. -/
def start (F : Type) [FloatSource F] : RefereeModule F where
  client := .booted F
  sequence := 0

/-- A round of the loop of `DecodeUartFramesInQueue` with a chunk. -/
def decodeFrame (m : RefereeModule F) (frame : UartRawFrameMessage) : RefereeModule F :=
  { m with client := (m.client.feedBytes frame.bytes).1 }

/-- The rest of a pass of `RunLoop`, with the message it publishes. `GetLatestState`
does not fail. -/
def publishLatestState (m : RefereeModule F) : RefereeModule F × RefereeStateMessage F :=
  let sequence := m.sequence + 1
  ({ client := m.client.getLatestState.1, sequence },
    { m.client.getLatestState.2 with sequence })

end RefereeModule

end RmTest.Modules
