import RmTest.Modules.Referee
import RmTest.Verification.RefereeFrames
import RmTest.Verification.UartReaders

/-! From the serial line to the referee channel. -/
namespace RmTest.Modules.RefereeModule

open Channels Platform UartDispatch

variable {F : Type} [FloatSource F]

def reader (F : Type) [FloatSource F] : UartReader (RefereeModule F) (RefereeStateMessage F) where
  consumer := .referee
  start := .start F
  feed := decodeFrame
  act := publishLatestState

/-- What the frames on a wire say. -/
def stateOn (F : Type) [FloatSource F] (wire : List UInt8) : RefereeStateMessage F :=
  (RefereeClient.parser.drain wire).2.foldl RefereeClient.parseOneFrame 0

/-- On a wire of frames and noise, the frames alone count. -/
theorem stateOn_streamOf (segments : List RefereeClient.NoisyFrame) :
    stateOn F (RefereeClient.NoisyFrame.streamOf segments) =
      (segments.filterMap (·.frame.update)).foldl RefereeClient.RefereeUpdate.apply 0 := by
  have hFrames : segments.map (·.frame.bytes) =
      (segments.map (·.frame)).map RefereeClient.RefereeFrame.bytes := by
    rw [List.map_map]
    rfl
  rw [stateOn, RefereeClient.NoisyFrame.drain_streamOf, hFrames,
    RefereeClient.foldl_parseOneFrame, List.filterMap_map]
  rfl

/-- The client has parsed what it was fed, and the passes are counted. -/
structure Knows (m : RefereeModule F) (bytes : List UInt8) (passes : Nat) : Prop where
  parsed : m.client.Represents (RefereeClient.parser.drain bytes)
  counted : m.sequence = UInt32.ofNat passes

theorem Knows.decodeFrame {m : RefereeModule F} {bytes : List UInt8} {passes : Nat}
    {frame : UartRawFrameMessage} (knows : m.Knows bytes passes)
    (fits : m.client.Fits frame.bytes) :
    (m.decodeFrame frame).Knows (bytes ++ frame.bytes) passes where
  parsed := by
    rw [RefereeClient.parser.drain_append]
    exact knows.parsed.feedBytes fits
  counted := knows.counted

theorem Knows.publishLatestState {m : RefereeModule F} {bytes : List UInt8} {passes : Nat}
    (knows : m.Knows bytes passes) :
    m.publishLatestState.2 = { stateOn F bytes with sequence := UInt32.ofNat (passes + 1) } ∧
      m.publishLatestState.1.Knows bytes (passes + 1) := by
  have hReady : m.client.initialized = m.client := by
    rw [RefereeClient.initialized, if_pos knows.parsed.buffers.1]
  have hSequence : m.sequence + 1 = UInt32.ofNat (passes + 1) := by
    rw [knows.counted, UInt32.ofNat_add]
    rfl
  have hState : m.client.state = stateOn F bytes := knows.parsed.state_eq
  constructor
  · simp only [RefereeModule.publishLatestState, RefereeClient.getLatestState, hReady, hState,
      hSequence]
  · refine ⟨?_, hSequence⟩
    simp only [RefereeModule.publishLatestState, RefereeClient.getLatestState, hReady]
    exact knows.parsed

def account (F : Type) [FloatSource F] : (reader F).Account where
  Knows := Knows
  Fits m frame := m.client.Fits frame.bytes
  said bytes passes := { stateOn F bytes with sequence := UInt32.ofNat passes }
  start := ⟨RefereeClient.represents_booted, rfl⟩
  fits_byte := by
    intro m bytes passes frame knows hLength
    obtain ⟨byte, hByte⟩ := List.length_eq_one_iff.mp hLength
    rw [hByte]
    exact knows.parsed.fits_byte byte
  feed := Knows.decodeFrame
  act := Knows.publishLatestState

instance (m : RefereeModule F) (frame : UartRawFrameMessage) :
    Decidable ((account F).Fits m frame) :=
  inferInstanceAs (Decidable (m.client.Fits frame.bytes))

/-- What the module publishes, however the driver, the dispatcher and the modules take
turns, as long as the chunks fit into the client's buffer, which single bytes always do.
Every pass publishes what the frames among the bytes fed so far say, which are bytes of the
wire in their order, and all those dispatched unless a queue overflows; a pass that is not
disturbed publishes what all the frames dispatched say. Of frames and noise, the frames alone
say something, one after the other. -/
theorem published_follows_wire (mode : RxMode) (events : List (ReaderEvent (reader F).consumer))
    (fitting : mode = .async →
      Run.Along ((reader F).step mode) (UartReader.Fitting (account F) mode) (reader F).boot
        events) :
    let s := events.foldl ((reader F).step mode) (reader F).boot
    (∃ counts : List Nat, counts.Pairwise (· ≤ ·) ∧
      (∀ count ∈ counts, count ≤ ((reader F).fed s).length) ∧
      s.handed = counts.mapIdx fun i count =>
        { stateOn F (((reader F).fed s).take count) with sequence := UInt32.ofNat (i + 1) }) ∧
      (s.point = .acting → ((reader F).step mode s .act).handed =
        s.handed ++ [{ stateOn F ((reader F).fed s) with
          sequence := UInt32.ofNat (s.handed.length + 1) }]) ∧
      ((reader F).fed s).Sublist s.wire ∧
      (Run.Along ((reader F).step mode) UartReader.NoOverflow (reader F).boot events →
        (reader F).dispatched s ++ s.uart.undispatched .referee = s.wire) ∧
      (s.point = .taking →
        (mode = .async →
          Run.Along ((reader F).step mode) (UartReader.Fitting (account F) mode) s
            ((reader F).pass s)) →
        (((reader F).pass s).foldl ((reader F).step mode) s).handed =
          s.handed ++ [{ stateOn F ((reader F).dispatched s) with
            sequence := UInt32.ofNat (s.handed.length + 1) }]) ∧
      ∀ segments : List RefereeClient.NoisyFrame,
        (reader F).dispatched s = RefereeClient.NoisyFrame.streamOf segments →
        stateOn F ((reader F).dispatched s) =
          (segments.filterMap (·.frame.update)).foldl RefereeClient.RefereeUpdate.apply 0 := by
  intro s
  have hFitting (events : List (ReaderEvent (reader F).consumer))
      (first : ReaderSystem (RefereeModule F) (RefereeStateMessage F))
      (hAsync : mode = .async →
        Run.Along ((reader F).step mode) (UartReader.Fitting (account F) mode) first events) :
      Run.Along ((reader F).step mode) (UartReader.Fitting (account F) mode) first events := by
    cases mode with
    | async => exact hAsync rfl
    | polled => exact UartReader.fitting_run nofun first events
  have hFollows := UartReader.follows_run UartReader.follows_boot (hFitting events _ fitting)
  obtain ⟨counts, hReports⟩ := hFollows.reports
  exact ⟨⟨counts, hReports.ordered, hReports.fed_le, hReports.handed_eq⟩,
    fun hActing => hFollows.handed_act hActing, UartReader.fed_sublist hFollows.sound,
    fun hRoom => UartReader.dispatched_append (UartReader.lossless_run hRoom),
    fun hTaking hPass => hFollows.pass hTaking (hFitting _ s hPass),
    fun segments hSegments => hSegments ▸ stateOn_streamOf segments⟩

/-- A game status frame in one chunk. -/
def gameStatusEvents : List (ReaderEvent (reader NanRat).consumer) :=
  [.line (.receive RefereeClient.gameStatusBytes) nofun, .line .callbackPut nofun,
    .line .dispatcherGet nofun, .line .dispatcherEnqueue nofun, .line .dispatcherEnqueue nofun]

theorem published_follows_wire_gameStatus :
    let s := gameStatusEvents.foldl ((reader NanRat).step .async) (reader NanRat).boot
    (reader NanRat).dispatched s ++ s.uart.undispatched .referee = s.wire ∧
      (((reader NanRat).pass s).foldl ((reader NanRat).step .async) s).handed =
        s.handed ++ [{ stateOn NanRat ((reader NanRat).dispatched s) with
          sequence := UInt32.ofNat (s.handed.length + 1) }] :=
  have hRun := (published_follows_wire (F := NanRat) .async gameStatusEvents
    (fun _ => by decide +kernel)).2.2.2
  ⟨hRun.1 (by decide +kernel), hRun.2.1 (by decide +kernel) (fun _ => by decide +kernel)⟩

end RmTest.Modules.RefereeModule
