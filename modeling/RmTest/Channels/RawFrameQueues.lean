import RmTest.Channels.Messages
import RmTest.Library.BoundedQueue

/-! The queues between the receive dispatchers and the modules. Nobody waits: a
frame put into a full queue is lost, and taking from an empty queue fails. -/
namespace RmTest.Channels

def kQueueDepth : Nat := 32

inductive CanConsumer where
  | chassis
  | arm
  | gimbal
  | gantry
  deriving DecidableEq

abbrev CanRawFrameQueues := CanConsumer → BoundedQueue CanRawFrameMessage kQueueDepth

/-- `EnqueueForChassis` and its siblings, of which the one for the gimbal has no
caller. -/
def CanRawFrameQueues.enqueueFor (queues : CanRawFrameQueues) (consumer : CanConsumer)
    (frame : CanRawFrameMessage) : CanRawFrameQueues :=
  Function.update queues consumer ((queues consumer).put frame)

theorem CanRawFrameQueues.enqueueFor_apply (queues : CanRawFrameQueues)
    (enqueued consumer : CanConsumer) (frame : CanRawFrameMessage) :
    queues.enqueueFor enqueued frame consumer =
      if consumer = enqueued then (queues consumer).put frame else queues consumer := by
  by_cases hSame : consumer = enqueued
  · rw [if_pos hSame, hSame, enqueueFor, Function.update_self]
  · rw [if_neg hSame, enqueueFor, Function.update_of_ne hSame]

inductive UartConsumer where
  | remoteInput
  | referee
  | mavlink
  deriving DecidableEq

abbrev UartRawFrameQueues := UartConsumer → BoundedQueue UartRawFrameMessage kQueueDepth

/-- `EnqueueForRemoteInput` and its siblings. -/
def UartRawFrameQueues.enqueueFor (queues : UartRawFrameQueues) (consumer : UartConsumer)
    (frame : UartRawFrameMessage) : UartRawFrameQueues :=
  Function.update queues consumer ((queues consumer).put frame)

theorem UartRawFrameQueues.enqueueFor_apply (queues : UartRawFrameQueues)
    (enqueued consumer : UartConsumer) (frame : UartRawFrameMessage) :
    queues.enqueueFor enqueued frame consumer =
      if consumer = enqueued then (queues consumer).put frame else queues consumer := by
  by_cases hSame : consumer = enqueued
  · rw [if_pos hSame, hSame, enqueueFor, Function.update_self]
  · rw [if_neg hSame, enqueueFor, Function.update_of_ne hSame]

end RmTest.Channels
