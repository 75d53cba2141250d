import RmTest.Platform.UartDispatch

/-! The way of the received bytes through the driver's queue and the dispatcher to
the three modules that listen, in any interleaving of the callback, the
dispatcher's thread and the modules. -/
namespace RmTest.Platform.UartDispatch

open Channels

/-- Whether the driver is the asynchronous one. -/
inductive RxMode where
  | async
  | polled
  deriving DecidableEq

inductive UartEvent where
  /-- The driver reports bytes to the callback. -/
  | receive (bytes : List UInt8)
  | callbackPut
  | dispatcherGet
  /-- The dispatcher's thread polls a byte. -/
  | poll (byte : UInt8)
  | dispatcherEnqueue
  | dequeue (consumer : UartConsumer)

structure UartSystem where
  /-- What the callback has still to cut of the bytes reported last. -/
  remain : List UInt8
  rxQueue : BoundedQueue UartRxChunk kUartRxQueueDepth
  /-- The calls that the dispatcher has still to make for the bytes it got last. -/
  calls : List (UartConsumer × UartRawFrameMessage)
  queues : UartRawFrameQueues
  /-- The bytes of each receive event so far. -/
  received : List (List UInt8)
  /-- What each consumer has taken from its queue so far. -/
  dequeued : UartConsumer → List UartRawFrameMessage

namespace UartSystem

def start : UartSystem where
  remain := []
  rxQueue := .empty
  calls := []
  queues := fun _ => .empty
  received := []
  dequeued := fun _ => []

/-- The driver reports nothing while its callback runs, and the dispatcher's thread
gets or polls nothing while it has calls to make. -/
def step (mode : RxMode) (s : UartSystem) : UartEvent → UartSystem
  | .receive bytes =>
      if mode = .async ∧ s.remain = [] then
        { s with remain := bytes, received := s.received ++ [bytes] }
      else s
  | .callbackPut =>
      match cutChunk s.remain with
      | none => s
      | some (rest, chunk) => { s with remain := rest, rxQueue := s.rxQueue.put chunk }
  | .dispatcherGet =>
      match s.calls, s.rxQueue.get? with
      | [], some (chunk, rxQueue) =>
          { s with rxQueue := rxQueue, calls := routeUartBytesToModuleQueues chunk.bytes }
      | _, _ => s
  | .poll byte =>
      if mode = .polled ∧ s.calls = [] then
        { s with
          calls := routeUartBytesToModuleQueues [byte]
          received := s.received ++ [[byte]] }
      else s
  | .dispatcherEnqueue =>
      match s.calls with
      | [] => s
      | (consumer, msg) :: rest =>
          { s with calls := rest, queues := s.queues.enqueueFor consumer msg }
  | .dequeue consumer =>
      match (s.queues consumer).get? with
      | none => s
      | some (frame, queue) =>
          { s with
            queues := Function.update s.queues consumer queue
            dequeued := Function.update s.dequeued consumer (s.dequeued consumer ++ [frame]) }

/-- Neither the driver's queue nor the consumer's is full when something is put
into it. -/
def NoOverflow (consumer : UartConsumer) (s : UartSystem) : UartEvent → Prop
  | .callbackPut => s.remain ≠ [] → s.rxQueue.HasRoom
  | .dispatcherEnqueue =>
      ∀ call ∈ s.calls.head?, call.1 = consumer → (s.queues consumer).HasRoom
  | _ => True

/-- The bytes that have been received and not dispatched to a consumer. -/
def undispatched (s : UartSystem) (consumer : UartConsumer) : List UInt8 :=
  streamOf (messagesFor consumer s.calls) ++ streamOf s.rxQueue.items ++ s.remain

/-- The bytes of the chunks received so far, in order of their arrival. -/
def arrived (s : UartSystem) : List (List UInt8) :=
  s.received.flatMap fun bytes => (uartRxChunks bytes).map UartRawFrameMessage.bytes

/-- What a consumer has taken and what is on its way to it, the oldest first. -/
def flow (s : UartSystem) (consumer : UartConsumer) : List UartRawFrameMessage :=
  s.dequeued consumer ++ (s.queues consumer).items ++ messagesFor consumer s.calls ++
    s.rxQueue.items ++ uartRxChunks s.remain

/-- What an event receives. -/
def incoming (mode : RxMode) (s : UartSystem) : UartEvent → List (List UInt8)
  | .receive bytes => if mode = .async ∧ s.remain = [] then [bytes] else []
  | .poll byte => if mode = .polled ∧ s.calls = [] then [[byte]] else []
  | _ => []

/-- Without the asynchronous driver nothing passes its queue. -/
def PolledIdle (mode : RxMode) (s : UartSystem) : Prop :=
  mode = .polled → s.rxQueue.items = [] ∧ s.remain = []

theorem polledIdle_step {mode : RxMode} {s : UartSystem} (idle : s.PolledIdle mode)
    (event : UartEvent) : (s.step mode event).PolledIdle mode := by
  intro hMode
  obtain ⟨hQueue, hRemain⟩ := idle hMode
  subst hMode
  cases event with
  | receive bytes => exact ⟨hQueue, hRemain⟩
  | callbackPut => simpa [step, hRemain, cutChunk] using hQueue
  | dispatcherGet =>
      rcases s.rxQueue.get?_cases with ⟨hGet, _⟩ | ⟨chunk, rest, _, hItems⟩
      · simp [step, hGet, hQueue, hRemain]
      · rw [hQueue] at hItems
        cases hItems
  | poll byte =>
      simp only [step]
      split_ifs <;> exact ⟨hQueue, hRemain⟩
  | dispatcherEnqueue =>
      simp only [step]
      split <;> exact ⟨hQueue, hRemain⟩
  | dequeue consumer =>
      simp only [step]
      split <;> exact ⟨hQueue, hRemain⟩

theorem received_step (mode : RxMode) (s : UartSystem) (event : UartEvent) :
    (s.step mode event).received = s.received ++ s.incoming mode event := by
  cases event with
  | receive bytes =>
      simp only [step, incoming]
      split_ifs <;> simp
  | poll byte =>
      simp only [step, incoming]
      split_ifs <;> simp
  | callbackPut =>
      simp only [step, incoming, List.append_nil]
      split <;> rfl
  | dispatcherGet =>
      simp only [step, incoming, List.append_nil]
      split <;> rfl
  | dispatcherEnqueue =>
      simp only [step, incoming, List.append_nil]
      split <;> rfl
  | dequeue consumer =>
      simp only [step, incoming, List.append_nil]
      split <;> rfl

/-- What a step does to the flow to a consumer, given what it receives: chunks join
last or fall out, and without overflow none fall out. -/
structure Flows (before after : UartSystem) (consumer : UartConsumer)
    (incoming : List (List UInt8)) (lossless : Prop) : Prop where
  ordered : ((after.flow consumer).map UartRawFrameMessage.bytes).Sublist
    ((before.flow consumer).map UartRawFrameMessage.bytes ++
      incoming.flatMap fun bytes => (uartRxChunks bytes).map UartRawFrameMessage.bytes)
  kept : lossless →
    streamOf (after.flow consumer) = streamOf (before.flow consumer) ++ incoming.flatten

theorem Flows.of_eq {before after : UartSystem} {consumer : UartConsumer} {lossless : Prop}
    (same : after.flow consumer = before.flow consumer) :
    Flows before after consumer [] lossless := by
  constructor
  · rw [same]
    exact List.sublist_append_left _ _
  · intro _
    rw [same]
    exact (List.append_nil _).symm

/-- Bytes that come in are chunked and join last. -/
theorem Flows.of_received {before after : UartSystem} {consumer : UartConsumer} {lossless : Prop}
    (bytes : List UInt8)
    (joined : after.flow consumer = before.flow consumer ++ uartRxChunks bytes) :
    Flows before after consumer [bytes] lossless := by
  constructor
  · rw [joined, List.map_append]
    simp
  · intro _
    rw [joined, streamOf_append, streamOf_uartRxChunks]
    simp

/-- Chunks that go on from one place to the next, or fall out. -/
theorem Flows.of_middle {before after : UartSystem} {consumer : UartConsumer} {lossless : Prop}
    (front middle middle' back : List UartRawFrameMessage)
    (hBefore : before.flow consumer = front ++ middle ++ back)
    (hAfter : after.flow consumer = front ++ middle' ++ back)
    (ordered : (middle'.map UartRawFrameMessage.bytes).Sublist
      (middle.map UartRawFrameMessage.bytes))
    (kept : lossless → streamOf middle' = streamOf middle) :
    Flows before after consumer [] lossless := by
  constructor
  · rw [hBefore, hAfter, List.flatMap_nil, List.append_nil]
    simp only [List.map_append]
    exact ((List.Sublist.refl _).append ordered).append (List.Sublist.refl _)
  · intro hLossless
    rw [hBefore, hAfter, List.flatten_nil, List.append_nil]
    simp only [streamOf_append, kept hLossless]

theorem flows_receive (mode : RxMode) (s : UartSystem) (bytes : List UInt8)
    (consumer : UartConsumer) (lossless : Prop) :
    Flows s (s.step mode (.receive bytes)) consumer
    (s.incoming mode (.receive bytes)) lossless := by
  by_cases hAccepted : mode = .async ∧ s.remain = []
  · have hStep : s.step mode (.receive bytes) =
        { s with remain := bytes, received := s.received ++ [bytes] } := if_pos hAccepted
    have hFlow : (s.step mode (.receive bytes)).flow consumer =
        s.flow consumer ++ uartRxChunks bytes := by
      simp [hStep, flow, hAccepted.2]
    have hIncoming : s.incoming mode (.receive bytes) = [bytes] := if_pos hAccepted
    rw [hIncoming]
    exact .of_received bytes hFlow
  · have hStep : s.step mode (.receive bytes) = s := if_neg hAccepted
    have hIncoming : s.incoming mode (.receive bytes) = [] := if_neg hAccepted
    rw [hStep, hIncoming]
    exact .of_eq rfl

theorem flows_callbackPut (mode : RxMode) (s : UartSystem) (consumer : UartConsumer) :
    Flows s (s.step mode .callbackPut) consumer [] (s.NoOverflow consumer .callbackPut) := by
  cases hCut : cutChunk s.remain with
  | none =>
      have hStep : s.step mode .callbackPut = s := by simp [step, hCut]
      rw [hStep]
      exact .of_eq rfl
  | some pass =>
      obtain ⟨rest, chunk⟩ := pass
      have hStep : s.step mode .callbackPut =
          { s with remain := rest, rxQueue := s.rxQueue.put chunk } := by
        simp [step, hCut]
      have hRemain : s.remain ≠ [] := by
        rw [(cutChunk_some hCut).2]
        exact List.append_ne_nil_of_left_ne_nil (cutChunk_some hCut).1 rest
      have hPut := s.rxQueue.items_put_sublist chunk
      refine .of_middle (s.dequeued consumer ++ (s.queues consumer).items ++
        messagesFor consumer s.calls) (s.rxQueue.items ++ [chunk]) (s.rxQueue.put chunk).items
        (uartRxChunks rest) ?_ ?_ (hPut.map _) ?_
      · simp [flow, uartRxChunks_cons hCut]
      · simp [hStep, flow]
      · intro hRoom
        rw [BoundedQueue.items_put (hRoom hRemain)]

theorem flows_dispatcherGet (mode : RxMode) (s : UartSystem) (consumer : UartConsumer)
    (lossless : Prop) : Flows s (s.step mode .dispatcherGet) consumer [] lossless := by
  cases hCalls : s.calls with
  | cons call rest =>
      have hStep : s.step mode .dispatcherGet = s := by simp [step, hCalls]
      rw [hStep]
      exact .of_eq rfl
  | nil =>
      rcases s.rxQueue.get?_cases with ⟨hGet, _⟩ | ⟨chunk, rest, hGet, hItems⟩
      · have hStep : s.step mode .dispatcherGet = s := by simp [step, hCalls, hGet]
        rw [hStep]
        exact .of_eq rfl
      · have hStep : s.step mode .dispatcherGet =
            { s with
              rxQueue := rest
              calls := routeUartBytesToModuleQueues chunk.bytes } := by
          simp [step, hCalls, hGet]
        refine .of_middle (s.dequeued consumer ++ (s.queues consumer).items) [chunk]
          (uartRxChunks chunk.bytes) (rest.items ++ uartRxChunks s.remain) ?_ ?_ ?_ ?_
        · simp [flow, hItems, hCalls]
        · simp [hStep, flow, messagesFor_routeUartBytesToModuleQueues]
        · by_cases hEmpty : chunk.bytes = []
          · rw [hEmpty]
            exact List.nil_sublist _
          · have hSmall : chunk.bytes.length ≤ kUartRawChunkSize := by
              rw [UartRawFrameMessage.length_bytes]
              exact chunk.len_le
            rw [map_bytes_uartRxChunks hEmpty hSmall]
            exact List.Sublist.refl _
        · intro _
          rw [streamOf_uartRxChunks]
          simp [streamOf]

theorem flows_poll {mode : RxMode} {s : UartSystem} (idle : s.PolledIdle mode) (byte : UInt8)
    (consumer : UartConsumer) (lossless : Prop) :
    Flows s (s.step mode (.poll byte)) consumer (s.incoming mode (.poll byte)) lossless := by
  by_cases hAccepted : mode = .polled ∧ s.calls = []
  · obtain ⟨hQueue, hRemain⟩ := idle hAccepted.1
    have hStep : s.step mode (.poll byte) =
        { s with
          calls := routeUartBytesToModuleQueues [byte]
          received := s.received ++ [[byte]] } := if_pos hAccepted
    have hFlow : (s.step mode (.poll byte)).flow consumer =
        s.flow consumer ++ uartRxChunks [byte] := by
      simp [hStep, flow, hQueue, hRemain, hAccepted.2, messagesFor_routeUartBytesToModuleQueues]
    have hIncoming : s.incoming mode (.poll byte) = [[byte]] := if_pos hAccepted
    rw [hIncoming]
    exact .of_received [byte] hFlow
  · have hStep : s.step mode (.poll byte) = s := if_neg hAccepted
    have hIncoming : s.incoming mode (.poll byte) = [] := if_neg hAccepted
    rw [hStep, hIncoming]
    exact .of_eq rfl

theorem flows_dispatcherEnqueue (mode : RxMode) (s : UartSystem) (consumer : UartConsumer) :
    Flows s (s.step mode .dispatcherEnqueue) consumer []
      (s.NoOverflow consumer .dispatcherEnqueue) := by
  cases hCalls : s.calls with
  | nil =>
      have hStep : s.step mode .dispatcherEnqueue = s := by simp [step, hCalls]
      rw [hStep]
      exact .of_eq rfl
  | cons call rest =>
      obtain ⟨called, msg⟩ := call
      have hStep : s.step mode .dispatcherEnqueue =
          { s with calls := rest, queues := s.queues.enqueueFor called msg } := by
        simp [step, hCalls]
      by_cases hOwn : called = consumer
      · subst hOwn
        have hQueue : (s.queues.enqueueFor called msg) called = (s.queues called).put msg := by
          rw [UartRawFrameQueues.enqueueFor_apply, if_pos rfl]
        have hPut := (s.queues called).items_put_sublist msg
        refine .of_middle (s.dequeued called) ((s.queues called).items ++ [msg])
          ((s.queues called).put msg).items
          (messagesFor called rest ++ s.rxQueue.items ++ uartRxChunks s.remain) ?_ ?_
          (hPut.map _) ?_
        · simp [flow, hCalls, messagesFor]
        · simp [hStep, flow, hQueue]
        · intro hRoom
          rw [BoundedQueue.items_put (hRoom (called, msg) (by rw [hCalls]; rfl) rfl)]
      · have hQueue : (s.queues.enqueueFor called msg) consumer = s.queues consumer := by
          rw [UartRawFrameQueues.enqueueFor_apply, if_neg (Ne.symm hOwn)]
        refine .of_eq ?_
        simp [hStep, flow, hQueue, hCalls, messagesFor, hOwn]

theorem flows_dequeue (mode : RxMode) (s : UartSystem) (dequeuing consumer : UartConsumer)
    (lossless : Prop) : Flows s (s.step mode (.dequeue dequeuing)) consumer [] lossless := by
  rcases (s.queues dequeuing).get?_cases with ⟨hGet, _⟩ | ⟨frame, rest, hGet, hItems⟩
  · have hStep : s.step mode (.dequeue dequeuing) = s := by simp [step, hGet]
    rw [hStep]
    exact .of_eq rfl
  · have hStep : s.step mode (.dequeue dequeuing) =
        { s with
          queues := Function.update s.queues dequeuing rest
          dequeued := Function.update s.dequeued dequeuing (s.dequeued dequeuing ++ [frame]) } := by
      simp [step, hGet]
    refine .of_eq ?_
    by_cases hOwn : consumer = dequeuing
    · subst hOwn
      simp [hStep, flow, hItems]
    · simp [hStep, flow, Function.update_of_ne hOwn]

theorem flows_step {mode : RxMode} {s : UartSystem} (idle : s.PolledIdle mode) (event : UartEvent)
    (consumer : UartConsumer) :
    Flows s (s.step mode event) consumer (s.incoming mode event) (s.NoOverflow consumer event) := by
  cases event with
  | receive bytes => exact flows_receive mode s bytes consumer _
  | callbackPut => exact flows_callbackPut mode s consumer
  | dispatcherGet => exact flows_dispatcherGet mode s consumer _
  | poll byte => exact flows_poll idle byte consumer _
  | dispatcherEnqueue => exact flows_dispatcherEnqueue mode s consumer
  | dequeue dequeuing => exact flows_dequeue mode s dequeuing consumer _

/-- What a consumer has taken and what is on its way to it are whole chunks, in
order of their arrival. -/
structure Sound (mode : RxMode) (s : UartSystem) : Prop where
  idle : s.PolledIdle mode
  ordered : ∀ consumer,
    ((s.flow consumer).map UartRawFrameMessage.bytes).Sublist s.arrived

theorem sound_start (mode : RxMode) : start.Sound mode :=
  ⟨fun _ => ⟨rfl, rfl⟩, fun _ => List.Sublist.refl _⟩

theorem sound_step {mode : RxMode} (s : UartSystem) (event : UartEvent) (sound : s.Sound mode) :
    (s.step mode event).Sound mode where
  idle := polledIdle_step sound.idle event
  ordered := by
    intro consumer
    rw [arrived, received_step, List.flatMap_append]
    exact (flows_step sound.idle event consumer).ordered.trans
      ((sound.ordered consumer).append (List.Sublist.refl _))

/-- Without overflow, nothing that has been received is lost. -/
structure Lossless (mode : RxMode) (consumer : UartConsumer) (s : UartSystem) : Prop where
  idle : s.PolledIdle mode
  kept : streamOf (s.flow consumer) = s.received.flatten

theorem lossless_step {mode : RxMode} {consumer : UartConsumer} (s : UartSystem)
    (event : UartEvent) (lossless : s.Lossless mode consumer)
    (room : s.NoOverflow consumer event) : (s.step mode event).Lossless mode consumer where
  idle := polledIdle_step lossless.idle event
  kept := by
    rw [(flows_step lossless.idle event consumer).kept room, lossless.kept, received_step,
      List.flatten_append]

theorem length_of_mem_arrived {s : UartSystem} {bytes : List UInt8} (hMem : bytes ∈ s.arrived) :
    1 ≤ bytes.length ∧ bytes.length ≤ kUartRawChunkSize := by
  obtain ⟨event, _, hChunk⟩ := List.mem_flatMap.mp hMem
  obtain ⟨chunk, hCut, rfl⟩ := List.mem_map.mp hChunk
  refine ⟨List.length_pos_iff.mpr (nonempty_of_mem_uartRxChunks hCut), ?_⟩
  rw [UartRawFrameMessage.length_bytes]
  exact chunk.len_le

/-- What a consumer can tell of the system: the receive path and its own queue. -/
def view (consumer : UartConsumer) (s : UartSystem) :
    List UInt8 × BoundedQueue UartRxChunk kUartRxQueueDepth ×
      List (UartConsumer × UartRawFrameMessage) ×
      BoundedQueue UartRawFrameMessage kQueueDepth × List UartRawFrameMessage :=
  (s.remain, s.rxQueue, s.calls, s.queues consumer, s.dequeued consumer)

/-- The events other than those of the other consumers. -/
def concerns (consumer : UartConsumer) : UartEvent → Bool
  | .dequeue dequeuing => decide (dequeuing = consumer)
  | _ => true

theorem view_step_other (mode : RxMode) {consumer : UartConsumer} (s : UartSystem)
    (event : UartEvent) (other : concerns consumer event = false) :
    view consumer (s.step mode event) = view consumer s := by
  cases event with
  | dequeue dequeuing =>
      have hOther : consumer ≠ dequeuing := fun h => of_decide_eq_false other h.symm
      simp only [step]
      split
      · rfl
      · simp only [view, Function.update_of_ne hOther]
  | _ => cases other

theorem view_step (mode : RxMode) {consumer : UartConsumer} (s s' : UartSystem)
    (event : UartEvent) (same : view consumer s = view consumer s') :
    view consumer (s.step mode event) = view consumer (s'.step mode event) := by
  have hSame := same
  obtain ⟨remain, rxQueue, calls, queues, received, dequeued⟩ := s
  obtain ⟨remain', rxQueue', calls', queues', received', dequeued'⟩ := s'
  simp only [view, Prod.mk.injEq] at hSame
  obtain ⟨rfl, rfl, rfl, hQueue, hDequeued⟩ := hSame
  cases event with
  | receive bytes =>
      simp only [step]
      split_ifs
      · simp only [view, hQueue, hDequeued]
      · exact same
  | callbackPut =>
      simp only [step]
      split
      · exact same
      · simp only [view, hQueue, hDequeued]
  | dispatcherGet =>
      simp only [step]
      split
      · simp only [view, hQueue, hDequeued]
      · exact same
  | poll byte =>
      simp only [step]
      split_ifs
      · simp only [view, hQueue, hDequeued]
      · exact same
  | dispatcherEnqueue =>
      simp only [step]
      split
      · exact same
      · simp only [view, UartRawFrameQueues.enqueueFor_apply, hQueue, hDequeued]
  | dequeue dequeuing =>
      by_cases hOwn : dequeuing = consumer
      · subst hOwn
        simp only [step, hQueue]
        split
        · exact same
        · simp only [view, Function.update_self, hDequeued]
      · have hOther : concerns consumer (.dequeue dequeuing) = false := decide_eq_false hOwn
        rw [view_step_other mode _ _ hOther, view_step_other mode _ _ hOther]
        exact same

/-- What each consumer gets of the received bytes, whatever the driver reports and
however the callback, the dispatcher and the consumers take turns. -/
theorem fan_out (mode : RxMode) (events : List UartEvent) (consumer : UartConsumer) :
    let s := events.foldl (step mode) start
    (∀ frame ∈ s.dequeued consumer, 1 ≤ frame.len.toNat ∧ frame.len.toNat ≤ kUartRawChunkSize) ∧
      ((s.dequeued consumer).map UartRawFrameMessage.bytes).Sublist s.arrived ∧
      (∀ (s' : UartSystem) (events' : List UartEvent), view consumer s' = view consumer start →
        events'.filter (concerns consumer) = events.filter (concerns consumer) →
        view consumer (events'.foldl (step mode) s') = view consumer s) ∧
      (Run.Along (step mode) (NoOverflow consumer) start events →
        streamOf (s.dequeued consumer) ++ streamOf (s.queues consumer).items ++
          s.undispatched consumer = s.received.flatten) := by
  intro s
  have hSound : s.Sound mode :=
    Run.foldl_invariant (fun s event sound => sound_step s event sound) (sound_start mode) events
  have hOrdered : ((s.dequeued consumer).map UartRawFrameMessage.bytes).Sublist s.arrived := by
    have hFlow : (s.dequeued consumer).Sublist (s.flow consumer) := by
      simp only [flow, List.append_assoc]
      exact List.sublist_append_left _ _
    exact (hFlow.map _).trans (hSound.ordered consumer)
  refine ⟨?_, hOrdered, ?_, ?_⟩
  · intro frame hFrame
    have hArrived : frame.bytes ∈ s.arrived := hOrdered.subset (List.mem_map_of_mem hFrame)
    simpa using length_of_mem_arrived hArrived
  · intro s' events' hView hFilter
    have hFiltered (s s' : UartSystem) (same : view consumer s = view consumer s')
        (events : List UartEvent) :
        view consumer (events.foldl (step mode) s) =
          view consumer ((events.filter (concerns consumer)).foldl (step mode) s') :=
      Run.foldl_filter (view consumer) (concerns consumer)
        (fun s event other => view_step_other mode s event other)
        (fun s s' event same => view_step mode s s' event same) same events
    rw [hFiltered s' start hView events', hFilter]
    exact (hFiltered start start rfl events).symm
  · intro hNoOverflow
    have hLossless : s.Lossless mode consumer :=
      Run.along_invariant (fun s event lossless room => lossless_step s event lossless room)
        ⟨fun _ => ⟨rfl, rfl⟩, rfl⟩ hNoOverflow
    rw [← hLossless.kept, flow, undispatched]
    simp only [streamOf_append, streamOf_uartRxChunks, List.append_assoc]

/-- Forty bytes are cut into two chunks, of which one reaches the referee. -/
def fortyBytes : List UartEvent :=
  [.receive (List.replicate 40 0x55), .callbackPut, .callbackPut, .dispatcherGet,
    .dispatcherEnqueue, .dispatcherEnqueue, .dequeue .referee, .dequeue .mavlink]

theorem fan_out_fortyBytes :
    let s := fortyBytes.foldl (step .async) start
    streamOf (s.dequeued .referee) ++ streamOf (s.queues .referee).items ++
      s.undispatched .referee = s.received.flatten := by
  refine (fan_out .async fortyBytes .referee).2.2.2 ?_
  refine ⟨trivial, fun _ => ?_, fun _ => ?_, trivial, fun _ _ _ => ?_, fun _ _ _ => ?_, trivial,
    trivial, trivial⟩ <;> decide

end UartSystem

end RmTest.Platform.UartDispatch
