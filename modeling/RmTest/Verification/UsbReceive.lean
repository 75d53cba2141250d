import RmTest.Library.Conduit
import RmTest.Platform.UsbPort

/-! The receiving half of the USB session: the bytes that the host sends against those that
`Receive` returns, over every order of transfers, events of the bus and calls. -/
namespace RmTest.Platform.UsbPort

open Channels

/-- The bytes on their way from the host to the callers of `Receive`. -/
def bytes (hasUsbNode : Bool) : Conduit UsbPort UsbPortEvent UInt8 where
  step := step hasUsbNode
  brings p
    | .readCompleted packet _ => if p.reading.isSome then packet.data else []
    | _ => []
  takes p
    | .receive out outLen capacity emptyRc => (p.receive out outLen capacity emptyRc).2.out
    | _ => []
  held p := p.rxQueue.items.flatMap UsbRxChunk.data

/-- A packet finds room in the queue, and a caller of `Receive` has room for the chunk that
it gets. -/
def Fits (p : UsbPort) : UsbPortEvent → Prop
  | .readCompleted packet _ => p.reading.isSome = true → packet.data ≠ [] → p.rxQueue.HasRoom
  | .receive out outLen capacity _ =>
      out = true → outLen = true → capacity ≠ 0 →
        ∀ chunk ∈ p.rxQueue.items.head?, chunk.data.length ≤ capacity
  | _ => True

/-- A call of `Receive` that leaves bytes of its chunk behind says so. -/
def ReportsTruncation (p : UsbPort) : UsbPortEvent → Prop
  | .receive out outLen capacity emptyRc =>
      ¬ p.Fits (.receive out outLen capacity emptyRc) →
        (p.receive out outLen capacity emptyRc).2.result = .error .emsgsize
  | _ => True

/-- The controller reads into the buffer that the next callback looks at. -/
def ReadsAtIndex (p : UsbPort) : Prop := ∀ buffer ∈ p.reading, buffer = p.readIndex

theorem startRead_eq (p : UsbPort) (readRc : Except Errno Unit) :
    ∃ reading, p.startRead readRc = { p with reading := reading } ∧
      ∀ buffer ∈ reading, buffer ∈ p.reading ∨ buffer = p.readIndex := by
  cases readRc with
  | error error => exact ⟨p.reading, rfl, fun _ h => .inl h⟩
  | ok done => exact ⟨some p.readIndex, rfl, fun _ h => .inr (Option.mem_some.mp h).symm⟩

/-- From a state without a read, a read is started at the index or not at all. -/
theorem readsAtIndex_startRead {p : UsbPort} (idle : p.reading = none)
    (readRc : Except Errno Unit) : (p.startRead readRc).ReadsAtIndex := by
  obtain ⟨reading, hStart, hReading⟩ := p.startRead_eq readRc
  rw [hStart]
  intro buffer hBuffer
  rcases hReading buffer hBuffer with hBefore | hIndex
  · rw [idle] at hBefore
    cases hBefore
  · exact hIndex

theorem rxQueue_startRead (p : UsbPort) (readRc : Except Errno Unit) :
    (p.startRead readRc).rxQueue = p.rxQueue := by
  obtain ⟨reading, hStart, _⟩ := p.startRead_eq readRc
  rw [hStart]

theorem rxQueue_usbEventHandler (p : UsbPort) (event : UsbdEvent) (readRc : Except Errno Unit) :
    (p.usbEventHandler event readRc).rxQueue = p.rxQueue := by
  cases event with
  | configured => exact rxQueue_startRead _ readRc
  | _ => rfl

/-- The chunk of the buffer that was read into is the packet. -/
theorem readChunk_fillReadBuffer (p : UsbPort) (packet : OutPacket) :
    ((p.fillReadBuffer p.readIndex packet).readChunk packet.data.length).data = packet.data := by
  simp [readChunk, fillReadBuffer, Nat.min_eq_left packet.length_le]

/-- What the callback does to the queue after a packet was read into the buffer at the
index. -/
theorem rxQueue_readCompleted (hasUsbNode : Bool) {p : UsbPort} (packet : OutPacket)
    (readRc : Except Errno Unit) (reading : p.reading = some p.readIndex) :
    (packet.data = [] ∧
        (p.step hasUsbNode (.readCompleted packet readRc)).rxQueue = p.rxQueue) ∨
      (packet.data ≠ [] ∧ ∃ chunk : UsbRxChunk, chunk.data = packet.data ∧
        (p.step hasUsbNode (.readCompleted packet readRc)).rxQueue = p.rxQueue.put chunk) := by
  simp only [step, reading, usbBulkOutCallback, rxQueue_startRead]
  by_cases hEmpty : packet.data = []
  · refine .inl ⟨hEmpty, ?_⟩
    simp [hEmpty, fillReadBuffer]
  · refine .inr ⟨hEmpty, _, p.readChunk_fillReadBuffer packet, ?_⟩
    have hLength : 0 < packet.data.length := List.length_pos_iff.mpr hEmpty
    have hCopied : min packet.data.length kCdcBufferSize > 0 := Nat.lt_min.mpr ⟨hLength, by decide⟩
    rw [if_pos hCopied]
    rfl

/-- `Receive` is refused, finds nothing, or takes the oldest chunk. -/
theorem receive_cases (p : UsbPort) (out outLen : Bool) (capacity : Nat) (emptyRc : Errno) :
    (p.Fits (.receive out outLen capacity emptyRc) ∧
        (p.receive out outLen capacity emptyRc).1 = p ∧
        (p.receive out outLen capacity emptyRc).2.out = []) ∨
      ∃ chunk rest, p.rxQueue.items = chunk :: rest.items ∧
        (p.receive out outLen capacity emptyRc).1 = { p with rxQueue := rest } ∧
        (p.receive out outLen capacity emptyRc).2.out = chunk.data.take capacity ∧
        (p.Fits (.receive out outLen capacity emptyRc) ↔ chunk.data.length ≤ capacity) ∧
        (p.receive out outLen capacity emptyRc).2.result =
          if chunk.data.length ≤ capacity then .ok () else .error .emsgsize := by
  unfold receive
  by_cases hRefused : out = false ∨ outLen = false ∨ capacity = 0
  · rw [if_pos hRefused]
    refine .inl ⟨?_, rfl, rfl⟩
    rintro rfl rfl hCapacity
    simp [hCapacity] at hRefused
  · rw [if_neg hRefused]
    have hArguments : out = true ∧ outLen = true ∧ capacity ≠ 0 := by
      simpa [not_or] using hRefused
    obtain ⟨rfl, rfl, hCapacity⟩ := hArguments
    rcases p.rxQueue.get?_cases with ⟨hGet, hItems⟩ | ⟨chunk, rest, hGet, hItems⟩
    · rw [hGet]
      exact .inl ⟨by simp [Fits, hItems], rfl, rfl⟩
    · rw [hGet]
      refine .inr ⟨chunk, rest, hItems, rfl, ?_, ?_, ?_⟩
      · rcases Nat.le_total chunk.data.length capacity with hFits | hShort
        · simp [Nat.min_eq_right hFits, List.take_of_length_le hFits]
        · simp [Nat.min_eq_left hShort]
      · simp [Fits, hItems, hCapacity]
      · have hWhole : min capacity chunk.data.length = chunk.data.length ↔
            chunk.data.length ≤ capacity := by omega
        simp [hWhole]

/-- What a step takes in and gives out, and whether it loses something. -/
inductive StepCases (p next : UsbPort) (event : UsbPortEvent) (brings takes : List UInt8) :
    Prop where
  | passes (fits : p.Fits event)
      (bytes : takes ++ next.rxQueue.items.flatMap UsbRxChunk.data =
        p.rxQueue.items.flatMap UsbRxChunk.data ++ brings)
  | drops (lost : ¬ p.Fits event) (some : brings ≠ []) (none : takes = [])
      (queue : next.rxQueue = p.rxQueue)
  | truncates (lost : ¬ p.Fits event) (rest : List UInt8) (some : rest ≠ []) (none : brings = [])
      (bytes : p.rxQueue.items.flatMap UsbRxChunk.data =
        takes ++ rest ++ next.rxQueue.items.flatMap UsbRxChunk.data)

theorem step_cases (hasUsbNode : Bool) {p : UsbPort} (aligned : p.ReadsAtIndex)
    (event : UsbPortEvent) :
    StepCases p (p.step hasUsbNode event) event ((bytes hasUsbNode).brings p event)
      ((bytes hasUsbNode).takes p event) := by
  cases event with
  | initializeSession rc => exact .passes trivial (List.append_nil _).symm
  | send data rc => exact .passes trivial (List.append_nil _).symm
  | writeCompleted nbytes mps rc => exact .passes trivial (List.append_nil _).symm
  | bus event readRc =>
      refine .passes trivial ?_
      rw [step, rxQueue_usbEventHandler]
      exact (List.append_nil _).symm
  | readCompleted packet readRc =>
      cases hReading : p.reading with
      | none =>
          refine .passes (fun h => by simp [hReading] at h) ?_
          simp [step, bytes, hReading]
      | some buffer =>
          have hIndex := aligned buffer hReading
          rw [hIndex] at hReading
          rcases rxQueue_readCompleted hasUsbNode packet readRc hReading with
            ⟨hEmpty, hQueue⟩ | ⟨hSome, chunk, hChunk, hQueue⟩
          · refine .passes (fun _ h => absurd hEmpty h) ?_
            rw [hQueue]
            simp [bytes, hReading, hEmpty]
          · by_cases hRoom : p.rxQueue.HasRoom
            · refine .passes (fun _ _ => hRoom) ?_
              rw [hQueue, BoundedQueue.items_put hRoom]
              simp [bytes, hReading, hChunk]
            · refine .drops (fun h => hRoom (h (by simp [hReading]) hSome)) ?_ rfl ?_
              · simpa [bytes, hReading] using hSome
              · rw [hQueue, BoundedQueue.put_full hRoom]
  | receive out outLen capacity emptyRc =>
      rcases p.receive_cases out outLen capacity emptyRc with
        ⟨hFits, hSame, hOut⟩ | ⟨chunk, rest, hItems, hNext, hOut, hFits, _⟩
      · refine .passes hFits ?_
        simp [step, bytes, hSame, hOut]
      · by_cases hWhole : chunk.data.length ≤ capacity
        · refine .passes (hFits.mpr hWhole) ?_
          simp [step, bytes, hNext, hOut, hItems, List.take_of_length_le hWhole]
        · refine .truncates (mt hFits.mp hWhole) (chunk.data.drop capacity) ?_ rfl ?_
          · exact fun h => hWhole (List.drop_eq_nil_iff.mp h)
          · simp [step, bytes, hNext, hOut, hItems]

theorem readsAtIndex_step (hasUsbNode : Bool) {p : UsbPort} (aligned : p.ReadsAtIndex)
    (event : UsbPortEvent) : (p.step hasUsbNode event).ReadsAtIndex := by
  cases event with
  | initializeSession rc => exact aligned
  | send data rc => exact aligned
  | writeCompleted nbytes mps rc => exact aligned
  | bus event readRc =>
      cases event with
      | configured => exact readsAtIndex_startRead rfl readRc
      | reset => exact fun _ h => by cases h
      | disconnected => exact fun _ h => by cases h
      | other => exact aligned
  | readCompleted packet readRc =>
      cases hReading : p.reading with
      | none => simpa only [step, hReading] using aligned
      | some buffer =>
          simp only [step, hReading, usbBulkOutCallback]
          split_ifs <;> exact readsAtIndex_startRead rfl readRc
  | receive out outLen capacity emptyRc =>
      rcases p.receive_cases out outLen capacity emptyRc with
        ⟨_, hSame, _⟩ | ⟨chunk, rest, _, hNext, _⟩
      · rwa [step, hSame]
      · rw [step, hNext]
        exact aligned

theorem held_of_rxQueue (hasUsbNode : Bool) {p next : UsbPort}
    (same : next.rxQueue = p.rxQueue) :
    (bytes hasUsbNode).held next = (bytes hasUsbNode).held p :=
  congrArg (fun queue => queue.items.flatMap UsbRxChunk.data) same

theorem orderly_step (hasUsbNode : Bool) {p : UsbPort} (aligned : p.ReadsAtIndex)
    (event : UsbPortEvent) : (bytes hasUsbNode).Orderly p event := by
  cases step_cases hasUsbNode aligned event with
  | passes _ hBytes =>
      rw [Conduit.Orderly]
      exact hBytes ▸ List.Sublist.refl _
  | drops _ _ none queue =>
      have hHeld : (bytes hasUsbNode).held ((bytes hasUsbNode).step p event) =
          (bytes hasUsbNode).held p := held_of_rxQueue hasUsbNode queue
      rw [Conduit.Orderly, none, hHeld]
      exact List.sublist_append_left _ _
  | truncates _ rest _ none hBytes =>
      have hKept := (List.sublist_append_left ((bytes hasUsbNode).takes p event) rest).append_right
        ((p.step hasUsbNode event).rxQueue.items.flatMap UsbRxChunk.data)
      rw [← hBytes] at hKept
      rw [Conduit.Orderly, none, List.append_nil]
      exact hKept

theorem lossless_iff_fits (hasUsbNode : Bool) {p : UsbPort} (aligned : p.ReadsAtIndex)
    (event : UsbPortEvent) : (bytes hasUsbNode).Lossless p event ↔ p.Fits event := by
  cases step_cases hasUsbNode aligned event with
  | passes fits hBytes => exact iff_of_true hBytes fits
  | drops lost some none queue =>
      refine iff_of_false (fun hAll => some ?_) lost
      have hHeld : (bytes hasUsbNode).held ((bytes hasUsbNode).step p event) =
          (bytes hasUsbNode).held p := held_of_rxQueue hasUsbNode queue
      rw [Conduit.Lossless, none, hHeld] at hAll
      simpa using hAll
  | truncates lost rest some none hBytes =>
      refine iff_of_false (fun hAll => some ?_) lost
      have hLength := congrArg List.length (hAll.trans (congrArg (· ++ _) hBytes))
      rw [none] at hLength
      have hHeld : ((bytes hasUsbNode).held ((bytes hasUsbNode).step p event)).length =
        ((p.step hasUsbNode event).rxQueue.items.flatMap UsbRxChunk.data).length := rfl
      simp only [List.length_append, hHeld, List.length_nil] at hLength
      exact List.length_eq_zero_iff.mp (by omega)

theorem reportsTruncation (p : UsbPort) (event : UsbPortEvent) : p.ReportsTruncation event := by
  cases event with
  | receive out outLen capacity emptyRc =>
      intro hLost
      rcases p.receive_cases out outLen capacity emptyRc with
        ⟨hFits, _⟩ | ⟨chunk, rest, _, _, _, hFits, hResult⟩
      · exact absurd hFits hLost
      · rw [hResult, if_neg (mt hFits.mpr hLost)]
  | _ => trivial

/-- In every run, what `Receive` has returned and what is still queued are bytes that the
host has sent, in their order, and all of them exactly if every packet finds room in the
queue and every caller has room for its chunk; a caller that has not is told so. -/
theorem received_bytes_iff (hasUsbNode : Bool) (events : List UsbPortEvent) :
    ((bytes hasUsbNode).taken initial events ++
        (bytes hasUsbNode).held (events.foldl (step hasUsbNode) initial)).Sublist
      ((bytes hasUsbNode).brought initial events) ∧
    ((bytes hasUsbNode).taken initial events ++
          (bytes hasUsbNode).held (events.foldl (step hasUsbNode) initial) =
        (bytes hasUsbNode).brought initial events ↔
      Run.Along (step hasUsbNode) Fits initial events) ∧
    Run.Along (step hasUsbNode) ReportsTruncation initial events := by
  have hStart : initial.ReadsAtIndex := fun _ h => by cases h
  have hKept : ∀ p event, ReadsAtIndex p → ReadsAtIndex (step hasUsbNode p event) :=
    fun p event aligned => readsAtIndex_step hasUsbNode aligned event
  have hOrderly : ∀ p event, ReadsAtIndex p → (bytes hasUsbNode).Orderly p event :=
    fun p event aligned => orderly_step hasUsbNode aligned event
  refine ⟨?_, ?_, ?_⟩
  · exact Conduit.taken_append_held_sublist hKept hOrderly hStart events
  · refine (Conduit.taken_append_held_eq_iff hKept hOrderly hStart events).trans ?_
    constructor
    · exact Run.along_of_invariant (fun p event aligned _ => hKept p event aligned)
        (fun p event aligned hLossless => (lossless_iff_fits hasUsbNode aligned event).mp hLossless)
        hStart
    · exact Run.along_of_invariant (fun p event aligned _ => hKept p event aligned)
        (fun p event aligned hFits => (lossless_iff_fits hasUsbNode aligned event).mpr hFits) hStart
  · exact Run.along_of_invariant (fun _ _ (_ : True) _ => trivial)
      (fun p event _ _ => p.reportsTruncation event) trivial (Run.along_trivial initial events)

end RmTest.Platform.UsbPort
