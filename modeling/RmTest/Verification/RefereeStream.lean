import RmTest.Library.StreamParser
import RmTest.Platform.RefereeClient

/-! The referee client against the parser it contains. A call whose chunk fits
into the buffer feeds the parser; a call whose chunk does not fit first drops
the oldest bytes, which belong to a frame still being received. -/
namespace RmTest.Platform.RefereeClient

open Channels Protocols

variable {F : Type} [FloatSource F]

/-- The length announced by the bytes of a frame, if one may start with them. -/
def announcedLength (buf : List UInt8) : Option Nat :=
  if buf.getD 0 0 ≠ kSof then none
  else
    let fullLen := kFrameOverhead + (readLe16 (buf.drop 1)).toNat
    if fullLen > kMaxFrameSize then none else some fullLen

theorem getD_append_left (buf more : List UInt8) (i : Nat) (h : i < buf.length) :
    (buf ++ more).getD i 0 = buf.getD i 0 := by
  simp [List.getD_eq_getElem?_getD, List.getElem?_append_left h]

theorem readLe16_append (buf more : List UInt8) (offset : Nat) (h : offset + 2 ≤ buf.length) :
    readLe16 ((buf ++ more).drop offset) = readLe16 (buf.drop offset) := by
  rw [List.drop_append_of_le_length (by omega)]
  unfold readLe16
  rw [getD_append_left _ _ 0 (by simp; omega), getD_append_left _ _ 1 (by simp; omega)]

theorem announcedLength_bounds {buf : List UInt8} {length : Nat}
    (h : announcedLength buf = some length) :
    kFrameOverhead ≤ length ∧ length ≤ kMaxFrameSize := by
  simp only [announcedLength] at h
  split_ifs at h with hSof hLong
  cases h
  exact ⟨Nat.le_add_right _ _, Nat.le_of_not_gt hLong⟩

/-- The referee's frames. -/
def frameFormat : FrameFormat UInt8 where
  header := kFrameOverhead
  frameLength := announcedLength
  header_pos := by decide
  header_le h := (announcedLength_bounds h).1
  frameLength_append := by
    intro buf more hHeader
    simp only [kFrameOverhead] at hHeader
    unfold announcedLength
    rw [getD_append_left _ _ 0 (by omega), readLe16_append _ _ 1 (by omega)]

def parser : StreamParser UInt8 (List UInt8) := .framed frameFormat

/-- A pass of the loop is a look of the parser; a delivered frame updates the
state. -/
theorem tryParsePass_eq (c : RefereeClient F) :
    tryParsePass c = (parser.step c.streamBuf.toList).map fun result =>
      ({ c with
          streamBuf := c.streamBuf.consume result.1
          state := result.2.toList.foldl parseOneFrame c.state }, result.2.toList) := by
  by_cases hHeader : kFrameOverhead ≤ c.streamBuf.len
  · have hLong : ¬ c.streamBuf.len < kFrameOverhead := by omega
    simp only [tryParsePass, hHeader, if_true, parser, StreamParser.framed, frameFormat,
      SlidingBuffer.length_toList, hLong, if_false, announcedLength]
    by_cases hSof : c.streamBuf.toList.getD 0 0 ≠ kSof
    · rw [if_pos hSof, if_pos hSof]
      rfl
    · rw [if_neg hSof, if_neg hSof]
      by_cases hMax : kFrameOverhead + (readLe16 (c.streamBuf.toList.drop 1)).toNat > kMaxFrameSize
      · rw [if_pos hMax, if_pos hMax]
        rfl
      · rw [if_neg hMax, if_neg hMax]
        by_cases hWhole : c.streamBuf.len <
            kFrameOverhead + (readLe16 (c.streamBuf.toList.drop 1)).toNat
        · simp only [if_pos hWhole, Option.map_none]
        · simp only [if_neg hWhole, Option.map_some]
          rfl
  · have hShort : c.streamBuf.len < kFrameOverhead := by omega
    simp only [tryParsePass, hHeader, if_false, parser, StreamParser.framed, frameFormat,
      SlidingBuffer.length_toList, hShort, if_true, Option.map_none]

/-- The initialized client's buffer and the bytes the parser has not yet passed. -/
def Buffers (c : RefereeClient F) (bytes : List UInt8) : Prop :=
  c.isInitialized = true ∧ c.streamBuf.toList = bytes

theorem tryParsePass_ends {c : RefereeClient F} {bytes : List UInt8} (hBuffers : Buffers c bytes)
    (hWait : parser.pass bytes = none) : tryParsePass c = none := by
  rw [tryParsePass_eq, hBuffers.2, Option.map_eq_none_iff.mp hWait, Option.map_none]

theorem tryParsePass_passes {c : RefereeClient F} {bytes next : List UInt8}
    {frames : List (List UInt8)} (hBuffers : Buffers c bytes)
    (hPass : parser.pass bytes = some (next, frames)) :
    ∃ c' frames', tryParsePass c = some (c', frames') ∧ Buffers c' next ∧
      frames'.map id = frames.map id := by
  obtain ⟨result, hStep, hNext⟩ := Option.map_eq_some_iff.mp hPass
  cases hNext
  rw [tryParsePass_eq, hBuffers.2, hStep]
  refine ⟨_, _, rfl, ⟨hBuffers.1, ?_⟩, rfl⟩
  rw [SlidingBuffer.toList_consume, hBuffers.2]

theorem tryParsePass_state {c c' : RefereeClient F} {frames : List (List UInt8)}
    (hPass : tryParsePass c = some (c', frames)) :
    c'.state = frames.foldl parseOneFrame c.state := by
  rw [tryParsePass_eq] at hPass
  obtain ⟨result, _, hNext⟩ := Option.map_eq_some_iff.mp hPass
  cases hNext
  rfl

/-- The whole loop drains the buffer and updates the state by the frames found. -/
theorem tryParseStream_drain {c : RefereeClient F} {bytes : List UInt8}
    (hBuffers : Buffers c bytes) :
    Buffers (tryParseStream c) (parser.drain bytes).1 ∧
      (tryParseStream c).state = (parser.drain bytes).2.foldl parseOneFrame c.state := by
  have hLength : bytes.length = c.streamBuf.len := by
    rw [← hBuffers.2, SlidingBuffer.length_toList]
  obtain ⟨hDrained, hFrames⟩ := Run.whileLoop_simulates Buffers id id
    tryParsePass_ends tryParsePass_passes c.streamBuf.len hBuffers
  have hState := Run.whileLoop_foldl RefereeClient.state parseOneFrame tryParsePass_state
    c.streamBuf.len c
  rw [List.map_id, List.map_id] at hFrames
  rw [hFrames] at hState
  unfold tryParseStream StreamParser.drain
  rw [hLength]
  exact ⟨hDrained, hState⟩

/-- `FeedBytes` in full: of the buffered bytes and the chunk the last 160 are
parsed, and the rest is lost. -/
theorem feedBytes_drain {c : RefereeClient F} {bytes : List UInt8} (hBuffers : Buffers c bytes)
    {data : List UInt8} (nonempty : data.length ≠ 0) :
    let kept := SlidingBuffer.keepLast kMaxFrameSize (bytes ++ data)
    Buffers (c.feedBytes data).1 (parser.drain kept).1 ∧
      (c.feedBytes data).1.state = (parser.drain kept).2.foldl parseOneFrame c.state := by
  intro kept
  have hReady : c.initialized = c := by rw [initialized, if_pos hBuffers.1]
  have hAppended :
      Buffers { c with streamBuf := data.foldl SlidingBuffer.push c.streamBuf } kept := by
    refine ⟨hBuffers.1, ?_⟩
    rw [SlidingBuffer.toList_foldl_push _ _ (by decide), hBuffers.2]
    rfl
  simp only [feedBytes, if_neg nonempty, hReady]
  exact tryParseStream_drain hAppended

def feedStep (c : RefereeClient F) (data : List UInt8) : RefereeClient F := (c.feedBytes data).1

/-- The call finds room for its whole chunk. -/
def Fits (c : RefereeClient F) (data : List UInt8) : Prop :=
  c.streamBuf.len + data.length ≤ kMaxFrameSize

instance (c : RefereeClient F) (data : List UInt8) : Decidable (c.Fits data) :=
  inferInstanceAs (Decidable (_ ≤ _))

/-- The client holds the bytes on which the parser waits and the state that the
frames delivered so far lead to. -/
structure Represents (c : RefereeClient F) (parsed : List UInt8 × List (List UInt8)) : Prop where
  buffers : Buffers c parsed.1
  state_eq : c.state = parsed.2.foldl parseOneFrame 0
  waiting : parser.step parsed.1 = none

theorem represents_booted : Represents (booted F) ([], []) where
  buffers := ⟨rfl, SlidingBuffer.toList_clear _⟩
  state_eq := rfl
  waiting := rfl

/-- A call that finds room feeds the parser. -/
theorem Represents.feedBytes {c : RefereeClient F} {parsed : List UInt8 × List (List UInt8)}
    (represents : Represents c parsed) {data : List UInt8} (fits : c.Fits data) :
    Represents (c.feedStep data) (parser.feed parsed data) := by
  by_cases hEmpty : data.length = 0
  · have hNil : data = [] := List.length_eq_zero_iff.mp hEmpty
    have hFeed : parser.feed parsed data = parsed := by
      rw [hNil, StreamParser.feed, List.append_nil, parser.drain_wait represents.waiting,
        List.append_nil]
    have hSame : c.feedStep data = c := by
      simp only [feedStep, RefereeClient.feedBytes, if_pos hEmpty]
    rw [hFeed, hSame]
    exact represents
  · have hKept : SlidingBuffer.keepLast kMaxFrameSize (parsed.1 ++ data) = parsed.1 ++ data := by
      apply SlidingBuffer.keepLast_of_le
      rw [List.length_append, ← represents.buffers.2, SlidingBuffer.length_toList]
      exact fits
    obtain ⟨hBuffers, hState⟩ := feedBytes_drain represents.buffers hEmpty
    rw [hKept] at hBuffers hState
    refine ⟨hBuffers, ?_, parser.step_drain _⟩
    rw [StreamParser.feed, List.foldl_append, ← represents.state_eq]
    exact hState

theorem Represents.foldl {c : RefereeClient F} {parsed : List UInt8 × List (List UInt8)}
    (represents : Represents c parsed) {chunks : List (List UInt8)}
    (fits : Run.Along feedStep Fits c chunks) :
    Represents (chunks.foldl feedStep c) (chunks.foldl parser.feed parsed) := by
  induction chunks generalizing c parsed with
  | nil => exact represents
  | cons chunk rest ih => exact ih (represents.feedBytes fits.1) fits.2

theorem Buffers.getLatestState {c : RefereeClient F} {bytes : List UInt8}
    (hBuffers : Buffers c bytes) : c.getLatestState.2 = c.state := by
  rw [RefereeClient.getLatestState, initialized, if_pos hBuffers.1]

/-- Without an overflow the state depends on the byte stream alone. -/
theorem getLatestState_of_fits {chunks : List (List UInt8)}
    (fits : Run.Along feedStep Fits (booted F) chunks) :
    (chunks.foldl feedStep (booted F)).getLatestState.2 =
      (parser.drain chunks.flatten).2.foldl parseOneFrame 0 := by
  have hRepresents := represents_booted.foldl fits
  rw [hRepresents.buffers.getLatestState, hRepresents.state_eq, parser.foldl_feed]

end RmTest.Platform.RefereeClient
