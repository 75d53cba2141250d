import RmTest.Channels.RawFrameQueues
import RmTest.Library.Run

/-! The UART dispatcher. The driver's callback or, without the asynchronous driver,
the dispatcher's thread itself receives bytes; both cut them into chunks, and the
thread brings every chunk to all modules that listen. -/
namespace RmTest.Platform.UartDispatch

open Channels

/-- A chunk in the driver's queue has the fields of a frame in the modules' queues. -/
abbrev UartRxChunk := UartRawFrameMessage

/-- The depth of `g_uart_rx_msgq`. -/
def kUartRxQueueDepth : Nat := 32

def stepLength (remain : List UInt8) : Nat :=
  if remain.length > kUartRawChunkSize then kUartRawChunkSize else remain.length

theorem stepLength_le (remain : List UInt8) : stepLength remain ≤ kUartRawChunkSize := by
  unfold stepLength
  split_ifs <;> omega

/-- A pass of either chunking loop over the bytes that remain: what then remains,
and the chunk. -/
def cutChunk (remain : List UInt8) : Option (List UInt8 × UartRawFrameMessage) :=
  if remain.length = 0 then none
  else
    some (remain.drop (stepLength remain),
      .ofBytes (remain.take (stepLength remain))
        (Nat.le_trans (List.length_take_le _ _) (stepLength_le remain)))

/-- A pass of the loop in `UartRxCallback`, with the chunk it puts. -/
def callbackPass (remain : List UInt8) : Option (List UInt8 × List UartRxChunk) :=
  (cutChunk remain).map fun (rest, chunk) => (rest, [chunk])

/-- The chunks that `UartRxCallback` makes of the bytes of an event. -/
def uartRxChunks (bytes : List UInt8) : List UartRxChunk :=
  (Run.whileLoop callbackPass bytes.length bytes).2

def enqueueCalls (msg : UartRawFrameMessage) : List (UartConsumer × UartRawFrameMessage) :=
  [(.remoteInput, msg), (.referee, msg), (.mavlink, msg)]

/-- A pass of the loop in `RouteUartBytesToModuleQueues`, with the calls it makes. -/
def routePass (remain : List UInt8) :
    Option (List UInt8 × List (UartConsumer × UartRawFrameMessage)) :=
  (cutChunk remain).map fun (rest, msg) => (rest, enqueueCalls msg)

/-- The calls that enqueue, in order, with the message of each. -/
def routeUartBytesToModuleQueues (bytes : List UInt8) :
    List (UartConsumer × UartRawFrameMessage) :=
  (Run.whileLoop routePass bytes.length bytes).2

/-- A pass takes a nonempty piece off the front. -/
theorem cutChunk_some {remain rest : List UInt8} {chunk : UartRawFrameMessage}
    (pass : cutChunk remain = some (rest, chunk)) :
    chunk.bytes ≠ [] ∧ remain = chunk.bytes ++ rest := by
  unfold cutChunk at pass
  by_cases hEmpty : remain.length = 0
  · rw [if_pos hEmpty] at pass
    cases pass
  · rw [if_neg hEmpty] at pass
    obtain ⟨rfl, rfl⟩ := Prod.mk.inj (Option.some.inj pass)
    rw [UartRawFrameMessage.bytes_ofBytes, List.take_append_drop]
    refine ⟨?_, rfl⟩
    have hSize : 0 < kUartRawChunkSize := Nat.zero_lt_succ 31
    rw [← List.length_pos_iff, List.length_take, stepLength]
    split_ifs <;> omega

/-- Up to the size of a chunk, bytes stay together. -/
theorem cutChunk_small {remain : List UInt8} (nonempty : remain ≠ [])
    (small : remain.length ≤ kUartRawChunkSize) :
    ∃ chunk, cutChunk remain = some ([], chunk) ∧ chunk.bytes = remain := by
  have hPositive : ¬ remain.length = 0 := mt List.length_eq_zero_iff.mp nonempty
  have hAll : stepLength remain = remain.length := if_neg (Nat.not_lt.mpr small)
  refine ⟨_, (if_neg hPositive).trans (congrArg some (Prod.ext ?_ rfl)), ?_⟩
  · simp [hAll]
  · simp [hAll]

theorem cutChunk_none {remain : List UInt8} (ends : cutChunk remain = none) : remain = [] := by
  unfold cutChunk at ends
  split_ifs at ends with hEmpty
  exact List.length_eq_zero_iff.mp hEmpty

theorem callbackPass_shrinks {remain rest : List UInt8} {out : List UartRxChunk}
    (pass : callbackPass remain = some (rest, out)) : rest.length < remain.length := by
  obtain ⟨⟨rest', chunk⟩, hCut, hPair⟩ := Option.map_eq_some_iff.mp pass
  obtain ⟨rfl, -⟩ := Prod.mk.inj hPair
  obtain ⟨hNonempty, hSplit⟩ := cutChunk_some hCut
  have hPositive : 0 < chunk.bytes.length := List.length_pos_iff.mpr hNonempty
  rw [hSplit, List.length_append]
  omega

@[simp] theorem uartRxChunks_nil : uartRxChunks [] = [] := rfl

theorem uartRxChunks_cons {remain rest : List UInt8} {chunk : UartRxChunk}
    (pass : cutChunk remain = some (rest, chunk)) :
    uartRxChunks remain = chunk :: uartRxChunks rest := by
  have hPass : callbackPass remain = some (rest, [chunk]) := by rw [callbackPass, pass]; rfl
  have hLess := callbackPass_shrinks hPass
  obtain ⟨budget, hBudget⟩ : ∃ budget, remain.length = budget + 1 :=
    ⟨remain.length - 1, by omega⟩
  rw [uartRxChunks, hBudget, Run.whileLoop_some hPass, uartRxChunks,
    Run.whileLoop_budget List.length callbackPass_shrinks budget rest.length rest (by omega)
      (Nat.le_refl _)]
  rfl

/-- The chunks of some bytes, one by one. -/
theorem uartRxChunks_induction {motive : List UInt8 → Prop} (nil : motive [])
    (cut : ∀ remain rest chunk, cutChunk remain = some (rest, chunk) → motive rest →
      motive remain) (bytes : List UInt8) : motive bytes := by
  induction hLength : bytes.length using Nat.strongRecOn generalizing bytes with
  | ind length ih =>
      cases hCut : cutChunk bytes with
      | none =>
          rw [cutChunk_none hCut]
          exact nil
      | some pass =>
          obtain ⟨rest, chunk⟩ := pass
          have hPass : callbackPass bytes = some (rest, [chunk]) := by rw [callbackPass, hCut]; rfl
          have hLess := callbackPass_shrinks hPass
          exact cut bytes rest chunk hCut (ih rest.length (hLength ▸ hLess) rest rfl)

/-- Cutting neither loses bytes nor changes their order. -/
theorem streamOf_uartRxChunks (bytes : List UInt8) : streamOf (uartRxChunks bytes) = bytes := by
  induction bytes using uartRxChunks_induction with
  | nil => rfl
  | cut remain rest chunk hCut ih =>
      rw [uartRxChunks_cons hCut, (cutChunk_some hCut).2]
      exact congrArg (chunk.bytes ++ ·) ih

theorem nonempty_of_mem_uartRxChunks {bytes : List UInt8} {chunk : UartRxChunk}
    (hMem : chunk ∈ uartRxChunks bytes) : chunk.bytes ≠ [] := by
  induction bytes using uartRxChunks_induction with
  | nil => cases hMem
  | cut remain rest first hCut ih =>
      rw [uartRxChunks_cons hCut] at hMem
      rcases List.mem_cons.mp hMem with rfl | hRest
      · exact (cutChunk_some hCut).1
      · exact ih hRest

/-- What fits a chunk is one chunk. -/
theorem map_bytes_uartRxChunks {bytes : List UInt8} (nonempty : bytes ≠ [])
    (small : bytes.length ≤ kUartRawChunkSize) :
    (uartRxChunks bytes).map UartRawFrameMessage.bytes = [bytes] := by
  obtain ⟨chunk, hCut, hBytes⟩ := cutChunk_small nonempty small
  rw [uartRxChunks_cons hCut, uartRxChunks_nil, List.map_singleton, hBytes]

/-- Both loops cut alike. -/
theorem routeUartBytesToModuleQueues_eq (bytes : List UInt8) :
    routeUartBytesToModuleQueues bytes = (uartRxChunks bytes).flatMap enqueueCalls := by
  refine Run.whileLoop_flatMap enqueueCalls (fun remain => ?_) _ _
  rw [routePass, callbackPass, Option.map_map]
  refine congrArg (Option.map · _) (funext fun pass => ?_)
  simp

/-- The messages that calls bring to one consumer. -/
def messagesFor (consumer : UartConsumer) (calls : List (UartConsumer × UartRawFrameMessage)) :
    List UartRawFrameMessage :=
  calls.filterMap fun call => if call.1 = consumer then some call.2 else none

@[simp] theorem messagesFor_nil (consumer : UartConsumer) : messagesFor consumer [] = [] := rfl

/-- Every consumer is called with every chunk, in order. -/
theorem messagesFor_routeUartBytesToModuleQueues (consumer : UartConsumer) (bytes : List UInt8) :
    messagesFor consumer (routeUartBytesToModuleQueues bytes) = uartRxChunks bytes := by
  have hCalls (msg : UartRawFrameMessage) :
      messagesFor consumer (enqueueCalls msg) = [msg] := by
    cases consumer <;> rfl
  rw [routeUartBytesToModuleQueues_eq, messagesFor, List.filterMap_flatMap]
  exact (congrArg (fun f => (uartRxChunks bytes).flatMap f) (funext hCalls)).trans
    (List.flatMap_singleton' _)

end RmTest.Platform.UartDispatch
