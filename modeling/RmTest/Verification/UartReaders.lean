import Mathlib.Data.List.Flatten
import RmTest.Verification.UartFanOut

/-! The modules that listen to the serial line. The thread of each takes the chunks out of
its queue until it finds the queue empty, and then acts on what it has got; the driver,
the dispatcher and the other modules go on meanwhile. What a module does in a pass is what
the bytes at the front of the line ask for. -/
namespace RmTest.Modules

open Channels Platform UartDispatch

structure UartReader (State Message : Type) where
  consumer : UartConsumer
  start : State
  /-- A round of the loop that takes chunks. -/
  feed : State → UartRawFrameMessage → State
  /-- What a pass does when the queue is empty, and the message it hands over. -/
  act : State → State × Message

/-- Where the thread is in its pass. -/
inductive ReaderPoint where
  | taking
  | acting
  deriving DecidableEq

inductive ReaderEvent (consumer : UartConsumer) where
  /-- A step of the driver, the dispatcher or another module. -/
  | line (event : UartEvent) (other : event ≠ .dequeue consumer)
  | take
  | act

structure ReaderSystem (State Message : Type) where
  uart : UartSystem
  state : State
  point : ReaderPoint
  /-- The messages of the passes so far. -/
  handed : List Message

/-- The bytes that the driver has received. -/
def ReaderSystem.wire {State Message : Type} (s : ReaderSystem State Message) : List UInt8 :=
  s.uart.received.flatten

namespace UartReader

variable {State Message : Type} (reader : UartReader State Message)

def boot : ReaderSystem State Message where
  uart := .start
  state := reader.start
  point := .taking
  handed := []

/-- The chunks in the module's queue. -/
def queued (s : ReaderSystem State Message) : List UartRawFrameMessage :=
  (s.uart.queues reader.consumer).items

def step (mode : RxMode) (s : ReaderSystem State Message) :
    ReaderEvent reader.consumer → ReaderSystem State Message
  | .line event _ => { s with uart := s.uart.step mode event }
  | .take =>
      match s.point, (s.uart.queues reader.consumer).get? with
      | .acting, _ => s
      | .taking, none => { s with point := .acting }
      | .taking, some (frame, _) =>
          { s with
            uart := s.uart.step mode (.dequeue reader.consumer)
            state := reader.feed s.state frame }
  | .act =>
      match s.point with
      | .taking => s
      | .acting =>
          { s with
            state := (reader.act s.state).1
            point := .taking
            handed := s.handed ++ [(reader.act s.state).2] }

/-- The bytes that the module has taken. -/
def fed (s : ReaderSystem State Message) : List UInt8 :=
  streamOf (s.uart.dequeued reader.consumer)

/-- The bytes that have got into the module's queue. -/
def dispatched (s : ReaderSystem State Message) : List UInt8 :=
  reader.fed s ++ streamOf (reader.queued s)

/-- A pass in which nothing else happens. -/
def pass (s : ReaderSystem State Message) : List (ReaderEvent reader.consumer) :=
  List.replicate ((reader.queued s).length + 1) .take ++ [.act]

/-- What a module makes of the bytes fed to it. -/
structure Account where
  /-- The state after some bytes and a number of passes. -/
  Knows : State → List UInt8 → Nat → Prop
  Fits : State → UartRawFrameMessage → Prop
  /-- The message that some bytes ask for, by the number of the pass. -/
  said : List UInt8 → Nat → Message
  start : Knows reader.start [] 0
  fits_byte : ∀ {state bytes passes frame}, Knows state bytes passes →
    frame.bytes.length = 1 → Fits state frame
  feed : ∀ {state bytes passes frame}, Knows state bytes passes → Fits state frame →
    Knows (reader.feed state frame) (bytes ++ frame.bytes) passes
  act : ∀ {state bytes passes}, Knows state bytes passes →
    (reader.act state).2 = said bytes (passes + 1) ∧
      Knows (reader.act state).1 bytes (passes + 1)

variable {reader} (account : reader.Account) {mode : RxMode}

/-- The module has room for the chunks of the asynchronous driver. -/
def Fitting (mode : RxMode) (s : ReaderSystem State Message) : ReaderEvent reader.consumer → Prop
  | .take => mode = .async → ∀ frame ∈ (reader.queued s).head?, account.Fits s.state frame
  | _ => True

/-- No queue on the way to the module is full when something is put into it. -/
def NoOverflow (s : ReaderSystem State Message) : ReaderEvent reader.consumer → Prop
  | .line event _ => s.uart.NoOverflow reader.consumer event
  | _ => True

instance [∀ state frame, Decidable (account.Fits state frame)] (s : ReaderSystem State Message) :
    (event : ReaderEvent reader.consumer) → Decidable (Fitting account mode s event)
  | .take => inferInstanceAs (Decidable (_ → ∀ frame ∈ (reader.queued s).head?, _))
  | .line _ _ | .act => isTrue trivial

instance (consumer : UartConsumer) (s : UartSystem) :
    (event : UartEvent) → Decidable (s.NoOverflow consumer event)
  | .callbackPut => inferInstanceAs (Decidable (_ → _))
  | .dispatcherEnqueue => inferInstanceAs (Decidable (∀ call ∈ s.calls.head?, _))
  | .receive _ | .dispatcherGet | .poll _ | .dequeue _ => isTrue trivial

instance (s : ReaderSystem State Message) :
    (event : ReaderEvent reader.consumer) → Decidable (NoOverflow s event)
  | .line event _ => inferInstanceAs (Decidable (s.uart.NoOverflow reader.consumer event))
  | .take | .act => isTrue trivial

/-- The messages are what the passes were asked for, each by no fewer bytes than the one
before. -/
structure Reports (s : ReaderSystem State Message) (counts : List Nat) : Prop where
  handed_eq : s.handed =
    counts.mapIdx fun i count => account.said ((reader.fed s).take count) (i + 1)
  ordered : counts.Pairwise (· ≤ ·)
  fed_le : ∀ count ∈ counts, count ≤ (reader.fed s).length

/-- The module knows what it has been fed. -/
structure Follows (mode : RxMode) (s : ReaderSystem State Message) : Prop where
  sound : s.uart.Sound mode
  single : mode = .polled → ∀ bytes ∈ s.uart.received, bytes.length = 1
  knows : account.Knows s.state (reader.fed s) s.handed.length
  reports : ∃ counts, Reports account s counts

variable {account}

/-- Nothing is fed that has not been received, nor in another order. -/
theorem fed_sublist {s : ReaderSystem State Message} (sound : s.uart.Sound mode) :
    (reader.fed s).Sublist s.wire := by
  have hFlow : (s.uart.dequeued reader.consumer).Sublist (s.uart.flow reader.consumer) := by
    simp only [UartSystem.flow, List.append_assoc]
    exact List.sublist_append_left _ _
  have hArrived : s.uart.arrived.flatten = s.wire := by
    have hCut (bytes : List UInt8) :
        ((uartRxChunks bytes).map UartRawFrameMessage.bytes).flatMap id = bytes :=
      List.flatMap_id.trans (streamOf_uartRxChunks bytes)
    rw [UartSystem.arrived, ReaderSystem.wire, List.flatten_eq_flatMap, List.flatMap_assoc,
      List.flatten_eq_flatMap]
    exact congrArg (fun f => s.uart.received.flatMap f) (funext hCut)
  rw [← hArrived]
  exact ((hFlow.map _).trans (sound.ordered _)).flatten

/-- Without overflow the bytes fed and those still on their way are the wire. -/
theorem dispatched_append {s : ReaderSystem State Message}
    (lossless : s.uart.Lossless mode reader.consumer) :
    reader.dispatched s ++ s.uart.undispatched reader.consumer = s.wire := by
  rw [ReaderSystem.wire, ← lossless.kept, UartSystem.flow, UartSystem.undispatched, dispatched,
    fed, queued]
  simp only [streamOf_append, streamOf_uartRxChunks, List.append_assoc]

/-- What was handed over stays right when more is fed. -/
theorem Reports.extend {s s' : ReaderSystem State Message} {counts : List Nat}
    (reports : Reports account s counts) (hHanded : s'.handed = s.handed)
    (hFed : reader.fed s <+: reader.fed s') : Reports account s' counts where
  handed_eq := by
    rw [hHanded, reports.handed_eq]
    apply List.ext_getElem (by simp)
    intro i _ hIndex
    rw [List.length_mapIdx] at hIndex
    obtain ⟨more, hMore⟩ := hFed
    have hTake : (reader.fed s').take counts[i] = (reader.fed s).take counts[i] := by
      rw [← hMore, List.take_append_of_le_length (reports.fed_le _ (List.getElem_mem hIndex))]
    rw [List.getElem_mapIdx, List.getElem_mapIdx, hTake]
  ordered := reports.ordered
  fed_le := fun count hCount => Nat.le_trans (reports.fed_le count hCount) hFed.length_le

/-- Nobody else takes from the module's queue. -/
theorem dequeued_step_other {consumer : UartConsumer} {s : UartSystem} {event : UartEvent}
    (other : event ≠ .dequeue consumer) :
    (s.step mode event).dequeued consumer = s.dequeued consumer := by
  cases event with
  | dequeue dequeuing =>
      have hOther : consumer ≠ dequeuing := fun h => other (h ▸ rfl)
      simp only [UartSystem.step]
      split
      · rfl
      · exact Function.update_of_ne hOther _ _
  | _ =>
      simp only [UartSystem.step]
      (repeat' split) <;> rfl

theorem single_step {s : UartSystem}
    (single : mode = .polled → ∀ bytes ∈ s.received, bytes.length = 1) (event : UartEvent) :
    mode = .polled → ∀ bytes ∈ (s.step mode event).received, bytes.length = 1 := by
  intro hMode bytes hBytes
  rw [UartSystem.received_step] at hBytes
  rcases List.mem_append.mp hBytes with hBefore | hNow
  · exact single hMode bytes hBefore
  · subst hMode
    cases event with
    | poll byte =>
        simp only [UartSystem.incoming] at hNow
        split_ifs at hNow
        · rw [List.mem_singleton.mp hNow, List.length_singleton]
        · cases hNow
    | receive bytes => simp [UartSystem.incoming] at hNow
    | _ => cases hNow

/-- The polled line brings its bytes one by one. -/
theorem length_of_polled {s : ReaderSystem State Message} (sound : s.uart.Sound .polled)
    (single : ∀ bytes ∈ s.uart.received, bytes.length = 1) {frame : UartRawFrameMessage}
    (hFrame : frame ∈ reader.queued s) : frame.bytes.length = 1 := by
  have hFlow : frame ∈ s.uart.flow reader.consumer := by
    simp only [UartSystem.flow, List.mem_append]
    exact .inl (.inl (.inl (.inr hFrame)))
  have hArrived : frame.bytes ∈ s.uart.arrived :=
    (sound.ordered _).subset (List.mem_map_of_mem hFlow)
  obtain ⟨bytes, hReceived, hCut⟩ := List.mem_flatMap.mp hArrived
  have hOne := single bytes hReceived
  have hNonempty : bytes ≠ [] := fun h => by simp [h] at hOne
  rw [map_bytes_uartRxChunks hNonempty (by rw [hOne]; decide)] at hCut
  rw [List.mem_singleton.mp hCut, hOne]

theorem Follows.line {s : ReaderSystem State Message} (follows : Follows account mode s)
    (event : UartEvent) (other : event ≠ .dequeue reader.consumer) :
    Follows account mode (reader.step mode s (.line event other)) := by
  have hFed : reader.fed (reader.step mode s (.line event other)) = reader.fed s :=
    congrArg streamOf (dequeued_step_other other)
  obtain ⟨counts, hReports⟩ := follows.reports
  exact {
    sound := UartSystem.sound_step s.uart event follows.sound
    single := single_step follows.single event
    knows := by rw [hFed]; exact follows.knows
    reports := ⟨counts, hReports.extend rfl (hFed ▸ List.prefix_refl _)⟩ }

/-- A round of the taking loop: it ends, or takes the oldest chunk. -/
theorem step_take (mode : RxMode) {s : ReaderSystem State Message} (taking : s.point = .taking) :
    (reader.queued s = [] ∧ reader.step mode s .take = { s with point := .acting }) ∨
    ∃ frame, reader.queued s = frame :: reader.queued (reader.step mode s .take) ∧
      reader.fed (reader.step mode s .take) = reader.fed s ++ frame.bytes ∧
      reader.step mode s .take =
        { s with
          uart := s.uart.step mode (.dequeue reader.consumer)
          state := reader.feed s.state frame } := by
  rcases (s.uart.queues reader.consumer).get?_cases with
    ⟨hNone, hEmpty⟩ | ⟨frame, queue, hSome, hItems⟩
  · refine .inl ⟨hEmpty, ?_⟩
    simp only [step, taking, hNone]
  · have hStep : reader.step mode s .take =
        { s with
          uart := s.uart.step mode (.dequeue reader.consumer)
          state := reader.feed s.state frame } := by
      simp only [step, taking, hSome]
    refine .inr ⟨frame, ?_, ?_, hStep⟩
    · simp only [queued, hStep, UartSystem.step, hSome, Function.update_self, hItems]
    · simp only [fed, hStep, UartSystem.step, hSome, Function.update_self, streamOf_append]
      exact congrArg _ (List.append_nil frame.bytes)

/-- A chunk that is taken finds room. -/
theorem Follows.fits {s : ReaderSystem State Message} (follows : Follows account mode s)
    (fitting : Fitting account mode s .take) {frame : UartRawFrameMessage}
    {rest : List UartRawFrameMessage} (hQueued : reader.queued s = frame :: rest) :
    account.Fits s.state frame := by
  cases mode with
  | async => exact fitting rfl frame (by rw [hQueued]; rfl)
  | polled =>
      apply account.fits_byte follows.knows
      apply length_of_polled follows.sound (follows.single rfl)
      rw [hQueued]
      exact List.mem_cons_self

theorem Follows.take {s : ReaderSystem State Message} (follows : Follows account mode s)
    (fitting : Fitting account mode s .take) :
    Follows account mode (reader.step mode s .take) := by
  cases hPoint : s.point with
  | acting =>
      have hSame : reader.step mode s .take = s := by simp only [step, hPoint]
      rw [hSame]
      exact follows
  | taking =>
      obtain ⟨counts, hReports⟩ := follows.reports
      rcases step_take mode hPoint with ⟨_, hEnd⟩ | ⟨frame, hQueued, hFed, hStep⟩
      · rw [hEnd]
        exact ⟨follows.sound, follows.single, follows.knows, counts,
          hReports.extend rfl (List.prefix_refl _)⟩
      · have hKnows := account.feed follows.knows (follows.fits fitting hQueued)
        have hFront : reader.fed s <+: reader.fed (reader.step mode s .take) :=
          hFed ▸ List.prefix_append _ _
        rw [← hFed] at hKnows
        rw [hStep] at hKnows hFront ⊢
        exact {
          sound := UartSystem.sound_step s.uart (.dequeue reader.consumer) follows.sound
          single := single_step follows.single (.dequeue reader.consumer)
          knows := hKnows
          reports := ⟨counts, hReports.extend rfl hFront⟩ }

theorem handed_act {s : ReaderSystem State Message} (acting : s.point = .acting) :
    (reader.step mode s .act).handed = s.handed ++ [(reader.act s.state).2] := by
  simp only [step, acting]

/-- A pass does what the bytes fed so far ask for. -/
theorem Follows.handed_act {s : ReaderSystem State Message} (follows : Follows account mode s)
    (acting : s.point = .acting) :
    (reader.step mode s .act).handed =
      s.handed ++ [account.said (reader.fed s) (s.handed.length + 1)] := by
  rw [UartReader.handed_act acting, (account.act follows.knows).1]

theorem Follows.act {s : ReaderSystem State Message} (follows : Follows account mode s) :
    Follows account mode (reader.step mode s .act) := by
  cases hPoint : s.point with
  | taking =>
      have hSame : reader.step mode s .act = s := by simp only [step, hPoint]
      rw [hSame]
      exact follows
  | acting =>
      obtain ⟨hMessage, hKnows⟩ := account.act follows.knows
      obtain ⟨counts, hReports⟩ := follows.reports
      have hStep : reader.step mode s .act =
          { s with
            state := (reader.act s.state).1
            point := .taking
            handed := s.handed ++ [account.said (reader.fed s) (s.handed.length + 1)] } := by
        simp only [step, hPoint, hMessage]
      have hCount : counts.length = s.handed.length := by
        rw [hReports.handed_eq, List.length_mapIdx]
      rw [hStep]
      refine
        { sound := follows.sound, single := follows.single
          knows := ?_, reports := ⟨counts ++ [(reader.fed s).length], ?_, ?_, ?_⟩ }
      · rw [List.length_append, List.length_singleton]
        exact hKnows
      · show s.handed ++ [account.said (reader.fed s) (s.handed.length + 1)] =
          (counts ++ [(reader.fed s).length]).mapIdx fun i count =>
            account.said ((reader.fed s).take count) (i + 1)
        rw [List.mapIdx_append, ← hReports.handed_eq, List.mapIdx_singleton, Nat.zero_add, hCount,
          List.take_length]
      · rw [List.pairwise_append]
        refine ⟨hReports.ordered, List.pairwise_singleton _ _, fun first hFirst later hLater => ?_⟩
        rw [List.mem_singleton.mp hLater]
        exact hReports.fed_le first hFirst
      · intro count hMem
        rcases List.mem_append.mp hMem with hBefore | hNow
        · exact hReports.fed_le count hBefore
        · exact Nat.le_of_eq (List.mem_singleton.mp hNow)

theorem Follows.step {s : ReaderSystem State Message} (event : ReaderEvent reader.consumer)
    (follows : Follows account mode s) (fitting : Fitting account mode s event) :
    Follows account mode (reader.step mode s event) := by
  cases event with
  | line event other => exact follows.line event other
  | take => exact follows.take fitting
  | act => exact follows.act

theorem follows_boot : Follows account mode reader.boot where
  sound := UartSystem.sound_start mode
  single := fun _ _ hBytes => nomatch hBytes
  knows := account.start
  reports := ⟨[], rfl, .nil, nofun⟩

theorem lossless_step {s : ReaderSystem State Message} (event : ReaderEvent reader.consumer)
    (lossless : s.uart.Lossless mode reader.consumer) (room : NoOverflow s event) :
    (reader.step mode s event).uart.Lossless mode reader.consumer := by
  cases event with
  | line event other => exact UartSystem.lossless_step s.uart event lossless room
  | take =>
      cases hPoint : s.point with
      | acting => simpa only [UartReader.step, hPoint] using lossless
      | taking =>
          rcases step_take mode hPoint with ⟨_, hEnd⟩ | ⟨_, _, _, hStep⟩
          · rw [hEnd]
            exact lossless
          · rw [hStep]
            exact UartSystem.lossless_step s.uart (.dequeue reader.consumer) lossless trivial
  | act =>
      cases hPoint : s.point <;> simpa only [UartReader.step, hPoint] using lossless

theorem follows_run {s : ReaderSystem State Message} (follows : Follows account mode s)
    {events : List (ReaderEvent reader.consumer)}
    (fitting : Run.Along (reader.step mode) (Fitting account mode) s events) :
    Follows account mode (events.foldl (reader.step mode) s) := by
  have hKept (s : ReaderSystem State Message) (event : ReaderEvent reader.consumer)
      (follows : Follows account mode s) (fitting : Fitting account mode s event) :
      Follows account mode (reader.step mode s event) := follows.step event fitting
  exact Run.along_invariant hKept follows fitting

theorem lossless_run {events : List (ReaderEvent reader.consumer)}
    (room : Run.Along (reader.step mode) NoOverflow reader.boot events) :
    (events.foldl (reader.step mode) reader.boot).uart.Lossless mode reader.consumer := by
  let kept (s : ReaderSystem State Message) : Prop := s.uart.Lossless mode reader.consumer
  have hKept (s : ReaderSystem State Message) (event : ReaderEvent reader.consumer)
      (lossless : kept s) (room : NoOverflow s event) : kept (reader.step mode s event) :=
    lossless_step event lossless room
  have hBoot : kept reader.boot := ⟨fun _ => ⟨rfl, rfl⟩, rfl⟩
  exact Run.along_invariant hKept hBoot room

/-- The taking loop ends with everything taken. -/
theorem take_all (mode : RxMode) (count : Nat) {s : ReaderSystem State Message}
    (taking : s.point = .taking) (hCount : (reader.queued s).length = count) :
    let s' := (List.replicate (count + 1) .take).foldl (reader.step mode) s
    s'.point = .acting ∧ reader.fed s' = reader.dispatched s ∧ s'.handed = s.handed := by
  induction count generalizing s with
  | zero =>
      have hEmpty := List.length_eq_zero_iff.mp hCount
      rcases step_take mode taking with ⟨_, hEnd⟩ | ⟨_, hQueued, _⟩
      · intro s'
        have hLast : s' = { s with point := .acting } := hEnd
        rw [hLast, dispatched, hEmpty]
        exact ⟨rfl, (List.append_nil _).symm, rfl⟩
      · rw [hEmpty] at hQueued
        cases hQueued
  | succ count ih =>
      rcases step_take mode taking with ⟨hEmpty, _⟩ | ⟨frame, hQueued, hFed, hStep⟩
      · rw [hEmpty] at hCount
        cases hCount
      · have hPoint : (reader.step mode s .take).point = .taking := by rw [hStep, taking]
        have hHanded : (reader.step mode s .take).handed = s.handed := by rw [hStep]
        have hRest : (reader.queued (reader.step mode s .take)).length = count := by
          rw [hQueued] at hCount
          exact Nat.succ.inj hCount
        obtain ⟨hEnd, hAll, hSame⟩ := ih hPoint hRest
        rw [List.replicate_succ, List.foldl_cons]
        refine ⟨hEnd, ?_, hSame.trans hHanded⟩
        rw [hAll, dispatched, dispatched, hFed, hQueued, streamOf, streamOf, List.map_cons,
          List.flatten_cons, List.append_assoc]

/-- Where the chunks of the asynchronous driver always fit, every run has room. -/
theorem fitting_run (fits : mode = .async → ∀ state frame, account.Fits state frame)
    (s : ReaderSystem State Message) (events : List (ReaderEvent reader.consumer)) :
    Run.Along (reader.step mode) (Fitting account mode) s events := by
  induction events generalizing s with
  | nil => trivial
  | cons event rest ih =>
      refine ⟨?_, ih _⟩
      cases event with
      | take => exact fun hMode frame _ => fits hMode _ frame
      | _ => trivial

/-- A pass in which nothing else happens does what everything dispatched asks for. -/
theorem Follows.pass {s : ReaderSystem State Message} (follows : Follows account mode s)
    (taking : s.point = .taking)
    (fitting : Run.Along (reader.step mode) (Fitting account mode) s (reader.pass s)) :
    ((reader.pass s).foldl (reader.step mode) s).handed =
      s.handed ++ [account.said (reader.dispatched s) (s.handed.length + 1)] := by
  have hTaken := follows_run follows (Run.along_append.mp fitting).1
  obtain ⟨hPoint, hFed, hHanded⟩ := take_all mode _ taking rfl
  rw [UartReader.pass, List.foldl_append, List.foldl_cons, List.foldl_nil,
    hTaken.handed_act hPoint, hHanded, hFed]

end UartReader

end RmTest.Modules
