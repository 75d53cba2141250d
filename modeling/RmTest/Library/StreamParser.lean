import RmTest.Library.Run
import Mathlib.Data.List.Basic

/-! Parsers that look at the front of a growing buffer. A look either waits for
more input or removes some bytes and may deliver an item. Because a look that
acted on a prefix acts in the same way on every extension, what a stream yields
does not depend on the pieces in which it arrives. -/

structure StreamParser (Byte Item : Type) where
  /-- `none` waits; `some (count, item)` removes `count` bytes. -/
  step : List Byte → Option (Nat × Option Item)
  step_pos : ∀ {buffer count item}, step buffer = some (count, item) → 0 < count
  step_le : ∀ {buffer count item}, step buffer = some (count, item) → count ≤ buffer.length
  step_append : ∀ {buffer count item} (more : List Byte), step buffer = some (count, item) →
    step (buffer ++ more) = some (count, item)

namespace StreamParser

variable {Byte Item : Type} (parser : StreamParser Byte Item)

/-- One look, as a pass of a loop over the buffer. -/
def pass (buffer : List Byte) : Option (List Byte × List Item) :=
  (parser.step buffer).map fun result => (buffer.drop result.1, result.2.toList)

/-- Look until the parser waits: the bytes left over and the items delivered. -/
def drain (buffer : List Byte) : List Byte × List Item :=
  Run.whileLoop parser.pass buffer.length buffer

theorem pass_shrinks {buffer next : List Byte} {items : List Item}
    (h : parser.pass buffer = some (next, items)) : next.length < buffer.length := by
  obtain ⟨⟨count, item⟩, hStep, hPass⟩ := Option.map_eq_some_iff.mp h
  have hPos := parser.step_pos hStep
  have hLe := parser.step_le hStep
  simp only [Prod.mk.injEq] at hPass
  rw [← hPass.1, List.length_drop]
  omega

theorem drain_wait {buffer : List Byte} (h : parser.step buffer = none) :
    parser.drain buffer = (buffer, []) :=
  Run.whileLoop_none (by simp [pass, h]) _

theorem drain_step {buffer : List Byte} {count : Nat} {item : Option Item}
    (h : parser.step buffer = some (count, item)) :
    parser.drain buffer =
      ((parser.drain (buffer.drop count)).1,
        item.toList ++ (parser.drain (buffer.drop count)).2) := by
  have hPass : parser.pass buffer = some (buffer.drop count, item.toList) := by simp [pass, h]
  have hShrinks := parser.pass_shrinks hPass
  unfold drain
  rw [Run.whileLoop_budget List.length parser.pass_shrinks buffer.length
      (buffer.length - 1 + 1) buffer (Nat.le_refl _) (by omega), Run.whileLoop_some hPass,
    Run.whileLoop_budget List.length parser.pass_shrinks (buffer.length - 1)
      (buffer.drop count).length _ (by omega) (Nat.le_refl _)]

/-- A drained buffer is one on which the parser waits. -/
theorem step_drain (buffer : List Byte) : parser.step (parser.drain buffer).1 = none := by
  have hEnds := Run.whileLoop_ends List.length parser.pass_shrinks buffer.length
    buffer (Nat.le_refl _)
  exact Option.map_eq_none_iff.mp hEnds

@[simp] theorem drain_nil : parser.drain [] = ([], []) := rfl

/-- Draining a longer buffer is draining its front first. -/
theorem drain_append (front more : List Byte) :
    parser.drain (front ++ more) =
      ((parser.drain ((parser.drain front).1 ++ more)).1,
        (parser.drain front).2 ++ (parser.drain ((parser.drain front).1 ++ more)).2) := by
  induction hLength : front.length using Nat.strongRecOn generalizing front with
  | _ length ih =>
      cases hStep : parser.step front with
      | none => simp [parser.drain_wait hStep]
      | some result =>
          obtain ⟨count, item⟩ := result
          have hLe := parser.step_le hStep
          have hPos := parser.step_pos hStep
          have hRest := ih (front.drop count).length (by simp; omega) (front.drop count) rfl
          rw [parser.drain_step hStep, parser.drain_step (parser.step_append more hStep),
            List.drop_append_of_le_length hLe, hRest]
          simp

/-- The next chunk arrives: the items so far and the bytes still waiting. -/
def feed (state : List Byte × List Item) (chunk : List Byte) : List Byte × List Item :=
  ((parser.drain (state.1 ++ chunk)).1, state.2 ++ (parser.drain (state.1 ++ chunk)).2)

/-- However the stream is cut, feeding the pieces one after the other is
draining it whole. -/
theorem foldl_feed (chunks : List (List Byte)) :
    chunks.foldl parser.feed ([], []) = parser.drain chunks.flatten := by
  suffices h : ∀ stream, chunks.foldl parser.feed (parser.drain stream) =
      parser.drain (stream ++ chunks.flatten) by
    simpa using h []
  induction chunks with
  | nil => simp
  | cons chunk rest ih =>
      intro stream
      have hFeed : parser.feed (parser.drain stream) chunk = parser.drain (stream ++ chunk) := by
        rw [parser.drain_append stream chunk, feed]
      rw [List.foldl_cons, hFeed, ih, List.flatten_cons, List.append_assoc]

/-- What a stream has yielded only grows when more of it arrives. -/
theorem drain_items_grow (stream more : List Byte) :
    (parser.drain stream).2 <+: (parser.drain (stream ++ more)).2 := by
  rw [parser.drain_append]
  exact List.prefix_append _ _

section Window

/-! A window of fixed length slides over the stream: an accepted window is
delivered and skipped, a rejected one is moved on by one byte. -/

variable (length : Nat) (positive : 0 < length) (accept : List Byte → Option Item)

/-- The sliding-window parser. -/
def window : StreamParser Byte Item where
  step buffer :=
    if buffer.length < length then none
    else
      match accept (buffer.take length) with
      | some item => some (length, some item)
      | none => some (1, none)
  step_pos := by
    intro buffer count item h
    split at h
    · cases h
    · split at h <;> cases h <;> omega
  step_le := by
    intro buffer count item h
    split at h
    · cases h
    · split at h <;> cases h <;> omega
  step_append := by
    intro buffer count item more h
    split at h
    · cases h
    · rename_i hLong
      have hLong' : ¬ (buffer ++ more).length < length := by simp; omega
      rw [if_neg hLong', List.take_append_of_le_length (by omega)]
      exact h

variable {length positive accept}

theorem window_wait {buffer : List Byte} (short : buffer.length < length) :
    (window length positive accept).drain buffer = (buffer, []) :=
  drain_wait _ (by simp [window, short])

theorem window_accept {front rest : List Byte} {item : Item} (hLength : front.length = length)
    (hAccept : accept front = some item) :
    (window length positive accept).drain (front ++ rest) =
      (((window length positive accept).drain rest).1,
        item :: ((window length positive accept).drain rest).2) := by
  have hStep : (window length positive accept).step (front ++ rest) = some (length, some item) := by
    simp [window, ← hLength, hAccept]
  rw [drain_step _ hStep, List.drop_left' hLength]
  rfl

theorem window_reject {byte : Byte} {rest : List Byte} (long : length ≤ rest.length + 1)
    (hReject : accept ((byte :: rest).take length) = none) :
    (window length positive accept).drain (byte :: rest) =
    (window length positive accept).drain rest := by
  have hStep : (window length positive accept).step (byte :: rest) = some (1, none) := by
    have hLong : ¬ rest.length + 1 < length := by omega
    simp [window, hLong, hReject]
  rw [drain_step _ hStep]
  rfl

/-- The stream of whole accepted frames yields exactly their items, in order,
and leaves nothing behind. -/
theorem window_frames (frames : List (List Byte)) (items : List Item)
    (accepted : List.Forall₂ (fun frame item => frame.length = length ∧ accept frame = some item)
      frames items) :
    (window length positive accept).drain frames.flatten = ([], items) := by
  induction accepted with
  | nil => rfl
  | cons hFrame _ ih => rw [List.flatten_cons, window_accept hFrame.1 hFrame.2, ih]

/-- If no window that starts in `front` is accepted, the parser slides over
`front` and locks onto what follows it. -/
theorem window_slides (front rest : List Byte) (long : length ≤ rest.length)
    (rejected : ∀ offset < front.length,
      accept (((front ++ rest).drop offset).take length) = none) :
    (window length positive accept).drain (front ++ rest) =
      (window length positive accept).drain rest := by
  induction front with
  | nil => rfl
  | cons byte front ih =>
      have hFirst := rejected 0 (by simp)
      rw [List.cons_append, window_reject (by simp; omega) (by simpa using hFirst)]
      apply ih
      intro offset hOffset
      simpa using rejected (offset + 1) (by simpa using hOffset)

/-- If some window that starts in `front` is accepted, the first such window is
what the parser delivers first. -/
theorem window_locks (front rest : List Byte) (long : length ≤ rest.length)
    (accepted : ¬ ∀ offset < front.length,
      accept (((front ++ rest).drop offset).take length) = none) :
    ∃ offset item, offset < front.length ∧
      accept (((front ++ rest).drop offset).take length) = some item ∧
      ((window length positive accept).drain (front ++ rest)).2.head? = some item := by
  induction front with
  | nil => exact absurd (fun offset hOffset => absurd hOffset (Nat.not_lt_zero offset)) accepted
  | cons byte front ih =>
      cases hAccept : accept ((byte :: front ++ rest).take length) with
      | some item =>
          refine ⟨0, item, by simp, hAccept, ?_⟩
          rw [← List.take_append_drop length (byte :: front ++ rest),
            window_accept (List.length_take_of_le (by simp; omega)) hAccept]
          rfl
      | none =>
          have hLater : ¬ ∀ offset < front.length,
              accept (((front ++ rest).drop offset).take length) = none := by
            intro hRejected
            apply accepted
            intro offset hOffset
            cases offset with
            | zero => exact hAccept
            | succ offset => exact hRejected offset (by simpa using hOffset)
          obtain ⟨offset, item, hOffset, hItem, hFirst⟩ := ih hLater
          refine ⟨offset + 1, item, by simpa using hOffset, hItem, ?_⟩
          rw [List.cons_append, window_reject (by simp; omega) (by simpa using hAccept)]
          exact hFirst

/-- A stream yields nothing exactly if none of its windows is accepted. -/
theorem window_silent_iff (stream : List Byte) :
    ((window length positive accept).drain stream).2 = [] ↔
      ∀ offset, offset + length ≤ stream.length →
        accept ((stream.drop offset).take length) = none := by
  induction stream with
  | nil =>
      refine ⟨fun _ offset hOffset => ?_, fun _ => rfl⟩
      simp only [List.length_nil] at hOffset
      omega
  | cons byte tail ih =>
      by_cases hShort : tail.length + 1 < length
      · rw [window_wait (by simpa using hShort)]
        refine ⟨fun _ offset hOffset => ?_, fun _ => rfl⟩
        simp only [List.length_cons] at hOffset
        omega
      · cases hAccept : accept ((byte :: tail).take length) with
        | some item =>
            constructor
            · intro hSilent
              rw [← List.take_append_drop length (byte :: tail),
                window_accept (List.length_take_of_le (by simp; omega)) hAccept] at hSilent
              cases hSilent
            · intro hRejected
              have hFirst := hRejected 0 (by simp; omega)
              rw [List.drop_zero, hAccept] at hFirst
              cases hFirst
        | none =>
            rw [window_reject (by omega) hAccept, ih]
            constructor
            · intro hRejected offset hOffset
              cases offset with
              | zero => exact hAccept
              | succ offset => exact hRejected offset (by simp at hOffset; omega)
            · intro hRejected offset hOffset
              exact hRejected (offset + 1) (by simp; omega)

end Window

end StreamParser

/-- A frame format whose frames announce their length: `frameLength` reads it
from the first `header` bytes, and is `none` where no frame can start. -/
structure FrameFormat (Byte : Type) where
  header : Nat
  frameLength : List Byte → Option Nat
  header_pos : 0 < header
  header_le : ∀ {buffer length}, frameLength buffer = some length → header ≤ length
  frameLength_append : ∀ {buffer} (more : List Byte), header ≤ buffer.length →
    frameLength (buffer ++ more) = frameLength buffer

namespace StreamParser

section Framed

variable {Byte : Type} (format : FrameFormat Byte)

/-- The parser that delivers whole frames and skips a byte where none starts. -/
def framed : StreamParser Byte (List Byte) where
  step buffer :=
    if buffer.length < format.header then none
    else
      match format.frameLength buffer with
      | none => some (1, none)
      | some length =>
          if buffer.length < length then none else some (length, some (buffer.take length))
  step_pos := by
    intro buffer count item h
    have hHeader := format.header_pos
    split at h
    · cases h
    · split at h
      · cases h
        omega
      · rename_i hLength
        have hLong := format.header_le hLength
        split at h <;> cases h
        omega
  step_le := by
    intro buffer count item h
    have hHeader := format.header_pos
    split at h
    · cases h
    · split at h
      · cases h
        omega
      · split at h <;> cases h
        omega
  step_append := by
    intro buffer count item more h
    split at h
    · cases h
    · rename_i hHeader
      have hLong : ¬ (buffer ++ more).length < format.header := by simp; omega
      rw [if_neg hLong, format.frameLength_append more (by omega)]
      split at h
      · exact h
      · rename_i length _
        split at h
        · cases h
        · rename_i hWhole
          have hWhole' : ¬ (buffer ++ more).length < length := by simp; omega
          simp only [if_neg hWhole', List.take_append_of_le_length (Nat.le_of_not_lt hWhole)]
          exact h

variable {format}

/-- A whole frame in front is delivered. -/
theorem framed_frame {frame : List Byte} (rest : List Byte)
    (hLength : format.frameLength frame = some frame.length) :
    (framed format).drain (frame ++ rest) =
      (((framed format).drain rest).1, frame :: ((framed format).drain rest).2) := by
  have hHeader := format.header_le hLength
  have hLong : ¬ frame.length + rest.length < format.header := by omega
  have hStep : (framed format).step (frame ++ rest) = some (frame.length, some frame) := by
    simp only [framed, if_neg hLong, format.frameLength_append rest hHeader, hLength,
      List.length_append, Nat.not_lt.mpr (Nat.le_add_right _ _), if_false, List.take_left]
  rw [drain_step _ hStep, List.drop_left]
  rfl

theorem framed_skip {byte : Byte} {rest : List Byte} (long : format.header ≤ rest.length + 1)
    (hNone : format.frameLength (byte :: rest) = none) :
    (framed format).drain (byte :: rest) = (framed format).drain rest := by
  have hStep : (framed format).step (byte :: rest) = some (1, none) := by
    have hLong : ¬ rest.length + 1 < format.header := by omega
    simp only [framed, List.length_cons, if_neg hLong, hNone]
  rw [drain_step _ hStep]
  rfl

/-- Bytes that start no frame are skipped up to the frame behind them. -/
theorem framed_noise (noise rest : List Byte) (long : format.header ≤ rest.length)
    (silent : ∀ byte ∈ noise, ∀ after, format.frameLength (byte :: after) = none) :
    (framed format).drain (noise ++ rest) = (framed format).drain rest := by
  induction noise with
  | nil => rfl
  | cons byte noise ih =>
      rw [List.cons_append,
        framed_skip (by simp; omega) (silent byte (List.mem_cons_self ..) _)]
      exact ih fun other hOther => silent other (List.mem_cons_of_mem _ hOther)

/-- The waiting parser holds fewer bytes than the longest frame. -/
theorem framed_waiting_lt {bound : Nat} (hHeader : format.header ≤ bound)
    (bounded : ∀ {buffer length}, format.frameLength buffer = some length → length ≤ bound)
    {buffer : List Byte} (waiting : (framed format).step buffer = none) :
    buffer.length < bound := by
  simp only [framed] at waiting
  split at waiting
  · omega
  · split at waiting
    · cases waiting
    · rename_i hLength
      have hBound := bounded hLength
      split at waiting
      · omega
      · cases waiting

end Framed

end StreamParser
