import RmTest.Verification.RemoteInputStream

/-! The text lines that reach `ParseLine`, and how overlong ones do. -/
namespace RmTest.Modules.RemoteInputModule

open Channels

variable {F : Type} [FloatSource F]

/-- The terminator that a line feed writes. -/
def terminated (m : RemoteInputModule F) : RemoteInputModule F :=
  { m with lineBuf := m.lineBuf.setIfInBounds m.linePos 0 }

/-- The line that a line feed hands to `ParseLine`, if any. -/
def handedLine (m : RemoteInputModule F) : Option (List UInt8) :=
  if 0 < m.linePos then some m.terminated.lineString else none

/-- A line feed publishes what `ParseLine` makes of that line, and no other byte publishes
from the text path. -/
theorem receiveText_handed (m : RemoteInputModule F) (byte : UInt8) :
    (m.receiveText byte).2.map (·.unsequenced) =
      if byte = 0x0a then (m.handedLine.bind parsedInput).toList else [] := by
  by_cases hFeed : byte = 0x0a
  · subst hFeed
    have hEnd : m.receiveText 0x0a = m.endLine := rfl
    rw [if_pos rfl, hEnd, handedLine]
    by_cases hLine : 0 < m.linePos
    · simp only [endLine, if_pos hLine, parseLine_eq, lineString, terminated, Option.bind_some]
      cases hParsed : parsedInput (F := F)
          ((m.lineBuf.setIfInBounds m.linePos 0).toList.takeWhile (· ≠ 0)) with
      | none => rfl
      | some input => exact congrArg (fun input => [input]) (parsedInput_unsequenced hParsed)
    · simp only [endLine, if_neg hLine]
      rfl
  · rw [if_neg hFeed]
    unfold receiveText
    split_ifs <;> rfl

/-- What a received byte hands to `ParseLine`, after the binary decoder has run. -/
def handed (m : RemoteInputModule F) (byte : UInt8) : Option (List UInt8) :=
  if byte = 0x0a then (tryDecodeBinaryFrames (m.appendBinary byte)).1.handedLine else none

/-- The lines on which `ParseLine` is called while the bytes are received, in order. -/
def parseLineCalls (m : RemoteInputModule F) (bytes : List UInt8) : List (List UInt8) :=
  (Run.transduce (fun m byte => ((m.receiveByte byte).1, (m.handed byte).toList)) m bytes).2

/-- The messages that come from text lines, without their numbers. -/
def textInputs (published : List (InputPublication F)) : List (RemoteInputMessage F) :=
  (published.filter (·.site = .textLine)).map (·.input.unsequenced)

theorem textInputs_receiveByte (m : RemoteInputModule F) (byte : UInt8) :
    textInputs (m.receiveByte byte).2 = (m.handed byte).toList.filterMap parsedInput := by
  have hText := receiveText_handed (tryDecodeBinaryFrames (m.appendBinary byte)).1 byte
  have hSites (binary text : List (RemoteInputMessage F)) :
      textInputs (binary.map (⟨.binaryFrame, ·⟩) ++ text.map (⟨.textLine, ·⟩)) =
        text.map (·.unsequenced) := by
    simp [textInputs, List.filter_map, Function.comp_def]
  refine (hSites _ _).trans (hText.trans ?_)
  rw [handed]
  split_ifs
  · cases (tryDecodeBinaryFrames (m.appendBinary byte)).1.handedLine with
    | none => rfl
    | some line => cases hParsed : parsedInput (F := F) line <;> simp [hParsed]
  · rfl

/-- What is published from text lines is what `ParseLine` makes of the lines that are handed
to it. -/
theorem textInputs_receiveBytes (m : RemoteInputModule F) (bytes : List UInt8) :
    textInputs (m.receiveBytes bytes).2 = (m.parseLineCalls bytes).filterMap parsedInput := by
  induction bytes generalizing m with
  | nil => rfl
  | cons byte rest ih =>
      have hRest := ih (m.receiveByte byte).1
      simp only [receiveBytes, parseLineCalls] at hRest ⊢
      rw [Run.transduce, Run.transduce, List.filterMap_append, ← textInputs_receiveByte, ← hRest]
      simp only [textInputs, List.filter_append, List.map_append]

/-- The buffer holds `tail` and nothing else of the line. -/
def Assembled (m : RemoteInputModule F) (tail : List UInt8) : Prop :=
  m.lineBuf.toList.take m.linePos = tail ∧ m.linePos = tail.length ∧ tail.length < kLineBufSize

/-- The binary decoder leaves the line alone. -/
theorem line_tryDecodePass {m m' : RemoteInputModule F} {inputs : List (RemoteInputMessage F)}
    (hPass : tryDecodePass m = some (m', inputs)) :
    (m'.lineBuf, m'.linePos) = (m.lineBuf, m.linePos) := by
  have hConsume (m : RemoteInputModule F) (bytes : Nat) :
      ((m.consumeBinary bytes).lineBuf, (m.consumeBinary bytes).linePos) =
      (m.lineBuf, m.linePos) := by
    unfold consumeBinary
    split_ifs <;> rfl
  rcases tryDecodePass_cases F m.binaryBuf with hEnd | hDrop | ⟨input, length, -, hAccept⟩
  · rw [hEnd m rfl] at hPass
    cases hPass
  · rw [hDrop m rfl] at hPass
    cases hPass
    exact hConsume m 1
  · rw [hAccept m rfl] at hPass
    cases hPass
    exact hConsume _ length

theorem line_tryDecodeBinaryFrames (m : RemoteInputModule F) :
    ((tryDecodeBinaryFrames m).1.lineBuf, (tryDecodeBinaryFrames m).1.linePos) =
      (m.lineBuf, m.linePos) := by
  have hRun := Run.whileLoop_foldl (fun m : RemoteInputModule F => (m.lineBuf, m.linePos))
    (fun line _ => line) (fun hPass => by rw [line_tryDecodePass hPass, List.foldl_fixed])
    m.binaryBuf.len m
  rwa [List.foldl_fixed] at hRun

theorem Assembled.tryDecodeBinaryFrames {m : RemoteInputModule F} {tail : List UInt8}
    (assembled : m.Assembled tail) (byte : UInt8) :
    ((m.appendBinary byte).tryDecodeBinaryFrames).1.Assembled tail := by
  obtain ⟨hBuf, hPos⟩ := Prod.mk.inj (line_tryDecodeBinaryFrames (m.appendBinary byte))
  unfold Assembled
  rw [hBuf, hPos]
  exact assembled

theorem ne_of_isPrint {byte other : UInt8} (printable : isPrint byte = true)
    (control : isPrint other = false) : byte ≠ other := by
  rintro rfl
  cases printable.symm.trans control

theorem receiveText_printable (m : RemoteInputModule F) {byte : UInt8}
    (printable : isPrint byte = true) :
    m.receiveText byte =
      if m.linePos < kLineBufSize - 1 then
        ({ m with lineBuf := m.lineBuf.setIfInBounds m.linePos byte, linePos := m.linePos + 1 }, [])
      else (m.resetLine, []) := by
  have hReturn : byte ≠ 0x0d := ne_of_isPrint printable rfl
  have hFeed : byte ≠ 0x0a := ne_of_isPrint printable rfl
  rw [receiveText, if_neg hReturn, if_neg hFeed, if_neg (Bool.not_eq_false _ ▸ printable)]

/-- A printable character is appended; the one that finds the buffer full is dropped with
what is in it. -/
theorem Assembled.receiveByte {m : RemoteInputModule F} {tail : List UInt8}
    (assembled : m.Assembled tail) {byte : UInt8} (printable : isPrint byte = true) :
    (m.receiveByte byte).1.Assembled
      (if tail.length < kLineBufSize - 1 then tail ++ [byte] else []) := by
  obtain ⟨hTail, hPos, hFull⟩ := assembled.tryDecodeBinaryFrames byte
  have hText : (m.receiveByte byte).1 =
      (((m.appendBinary byte).tryDecodeBinaryFrames).1.receiveText byte).1 := rfl
  rw [hText, receiveText_printable _ printable]
  generalize ((m.appendBinary byte).tryDecodeBinaryFrames).1 = decoded at *
  rw [hPos]
  by_cases hRoom : tail.length < kLineBufSize - 1
  · rw [if_pos hRoom, if_pos hRoom]
    have hCell : tail.length < decoded.lineBuf.toList.length := by
      rw [Vector.length_toList]
      exact hFull
    have hWritten := SlidingBuffer.take_set_succ decoded.lineBuf.toList byte tail.length hCell
    rw [← hPos, hTail, hPos, ← Vector.toList_setIfInBounds] at hWritten
    exact ⟨hWritten, by rw [List.length_append, List.length_singleton], by
      rw [List.length_append, List.length_singleton]; omega⟩
  · rw [if_neg hRoom, if_neg hRoom]
    exact ⟨rfl, rfl, by decide⟩

/-- A line feed hands over the line so far, unless it is empty. -/
theorem Assembled.handed {m : RemoteInputModule F} {tail : List UInt8}
    (assembled : m.Assembled tail)
    (printable : ∀ byte ∈ tail, isPrint byte = true) :
    m.handed 0x0a = if tail = [] then none else some tail := by
  have hNonzero (byte : UInt8) (hByte : byte ∈ tail) : byte ≠ 0 :=
    ne_of_isPrint (printable byte hByte) rfl
  obtain ⟨hTail, hPos, hFull⟩ := assembled.tryDecodeBinaryFrames 0x0a
  rw [RemoteInputModule.handed, if_pos rfl, handedLine]
  generalize ((m.appendBinary 0x0a).tryDecodeBinaryFrames).1 = decoded at *
  by_cases hEmpty : tail = []
  · have hNone : ¬ 0 < decoded.linePos := by rw [hPos, hEmpty]; exact Nat.lt_irrefl 0
    rw [if_neg hNone, if_pos hEmpty]
  · have hSome : 0 < decoded.linePos := by rw [hPos]; exact List.length_pos_of_ne_nil hEmpty
    have hCell : decoded.linePos < decoded.lineBuf.toList.length := by
      rw [Vector.length_toList, hPos]
      exact hFull
    rw [if_pos hSome, if_neg hEmpty, lineString, terminated, Vector.toList_setIfInBounds,
      List.set_eq_take_append_cons_drop, if_pos hCell, hTail,
      List.takeWhile_append_of_pos fun byte hByte => decide_eq_true (hNonzero byte hByte),
      List.takeWhile_cons_of_neg (by simp), List.append_nil]

/-- What of a line is left in the buffer where it ends. -/
def lastPart (line : List UInt8) : List UInt8 :=
  line.drop (line.length / kLineBufSize * kLineBufSize)

theorem length_lastPart (line : List UInt8) :
    (lastPart line).length = line.length % kLineBufSize := by
  have hDivided := Nat.div_add_mod' line.length kLineBufSize
  rw [lastPart, List.length_drop]
  omega

theorem lastPart_concat (line : List UInt8) (byte : UInt8) :
    lastPart (line ++ [byte]) =
      if (lastPart line).length < kLineBufSize - 1 then lastPart line ++ [byte] else [] := by
  rw [length_lastPart]
  by_cases hRoom : line.length % kLineBufSize < kLineBufSize - 1
  · have hSame : (line.length + 1) / kLineBufSize = line.length / kLineBufSize := by
      simp only [kLineBufSize] at *
      omega
    rw [if_pos hRoom, lastPart, lastPart, List.length_append, List.length_singleton, hSame]
    exact List.drop_append_of_le_length (Nat.div_mul_le_self _ _)
  · have hAll : line.length + 1 ≤ (line.length + 1) / kLineBufSize * kLineBufSize := by
      simp only [kLineBufSize] at *
      omega
    rw [if_neg hRoom, lastPart, List.length_append, List.length_singleton]
    exact List.drop_of_length_le (by rwa [List.length_append, List.length_singleton])

/-- However often a line overflows the buffer, nothing is handed over on the way. -/
theorem receive_line {m : RemoteInputModule F} (start : m.linePos = 0) {line : List UInt8}
    (printable : ∀ byte ∈ line, isPrint byte = true) :
    let run := Run.transduce (fun m byte => ((m.receiveByte byte).1, (m.handed byte).toList)) m line
    run.1.Assembled (lastPart line) ∧ run.2 = [] := by
  induction line using List.reverseRecOn with
  | nil => exact ⟨⟨congrArg (m.lineBuf.toList.take ·) start, start, by decide⟩, rfl⟩
  | append_singleton line byte ih =>
      obtain ⟨hAssembled, hNone⟩ :=
        ih fun byte hByte => printable byte (List.mem_append_left _ hByte)
      have hPrint := printable byte (List.mem_append_right _ (List.mem_singleton_self byte))
      have hFeed : byte ≠ 0x0a := ne_of_isPrint hPrint rfl
      simp only [Run.transduce_append]
      rw [hNone, lastPart_concat]
      refine ⟨hAssembled.receiveByte hPrint, ?_⟩
      simp only [Run.transduce, RemoteInputModule.handed, if_neg hFeed]
      rfl

/-- A line hands over its last part. -/
theorem parseLineCalls_line {m : RemoteInputModule F} (start : m.linePos = 0) {line : List UInt8}
    (printable : ∀ byte ∈ line, isPrint byte = true) :
    m.parseLineCalls (line ++ [0x0a]) = if lastPart line = [] then [] else [lastPart line] := by
  obtain ⟨hAssembled, hNone⟩ := receive_line start printable
  have hHanded := hAssembled.handed fun byte hByte => printable byte (List.mem_of_mem_drop hByte)
  rw [parseLineCalls, Run.transduce_append, hNone]
  simp only [Run.transduce, hHanded]
  split_ifs <;> rfl

/-- A line is handed over whole or not at all, as its length asks for, exactly if it fits or
overflows the buffer where it ends; and what is published from it is what `ParseLine` makes
of what is handed over. -/
theorem lines_discarded_whole_iff (m : RemoteInputModule F) (start : m.linePos = 0)
    (line : List UInt8) (printable : ∀ byte ∈ line, isPrint byte = true) :
    (m.parseLineCalls (line ++ [0x0a]) =
          (if 1 ≤ line.length ∧ line.length ≤ 95 then [line] else []) ↔
        line.length ≤ 95 ∨ line.length % 96 = 0) ∧
      textInputs (m.receiveBytes (line ++ [0x0a])).2 =
        (m.parseLineCalls (line ++ [0x0a])).filterMap parsedInput := by
  refine ⟨?_, textInputs_receiveBytes m _⟩
  have hLength := length_lastPart line
  simp only [kLineBufSize] at hLength
  have hNil : lastPart line = [] ↔ line.length % 96 = 0 := by
    rw [← List.length_eq_zero_iff, hLength]
  rw [parseLineCalls_line start printable]
  by_cases hFits : line.length ≤ 95
  · have hZero : line.length / kLineBufSize = 0 := Nat.div_eq_of_lt (Nat.lt_succ_of_le hFits)
    have hWhole : lastPart line = line := by rw [lastPart, hZero, Nat.zero_mul, List.drop_zero]
    rw [hWhole]
    refine iff_of_true ?_ (.inl hFits)
    by_cases hEmpty : line = []
    · subst hEmpty
      rfl
    · have hSome : 1 ≤ line.length ∧ line.length ≤ 95 := ⟨List.length_pos_of_ne_nil hEmpty, hFits⟩
      rw [if_neg hEmpty, if_pos hSome]
  · have hLong : ¬ (1 ≤ line.length ∧ line.length ≤ 95) := fun h => hFits h.2
    rw [if_neg hLong, ← hNil, or_iff_right hFits]
    by_cases hEmpty : lastPart line = []
    · rw [if_pos hEmpty]
      exact iff_of_true rfl hEmpty
    · rw [if_neg hEmpty]
      exact iff_of_false (List.cons_ne_nil _ _) hEmpty

theorem lines_discarded_whole_iff_once :
    (zeroed NanRat).parseLineCalls (List.replicate 96 0x61 ++ [0x0a]) = [] := by
  have hPrint : ∀ byte ∈ List.replicate 96 0x61, isPrint byte = true := by
    intro byte hByte
    rw [List.eq_of_mem_replicate hByte]
    rfl
  have hLength : (List.replicate 96 (0x61 : UInt8)).length = 96 := List.length_replicate
  have hLine :=
    (lines_discarded_whole_iff (zeroed NanRat) rfl (List.replicate 96 0x61) hPrint).1.mpr
      (.inr (by rw [hLength]))
  rwa [hLength, if_neg (by decide)] at hLine

/-- `dr16 1 0 0 1` -/
def commandTail : List UInt8 :=
  [0x64, 0x72, 0x31, 0x36, 0x20, 0x31, 0x20, 0x30, 0x20, 0x30, 0x20, 0x31]

/-- A line of 96 other characters and the command, of which the command is parsed. -/
theorem tail_parsed_as_command :
    (∀ byte ∈ List.replicate 96 0x78 ++ commandTail, isPrint byte = true) ∧
      (zeroed NanRat).parseLineCalls (List.replicate 96 0x78 ++ commandTail ++ [0x0a]) =
        [commandTail] ∧
      (parsedInput (F := NanRat) commandTail).isSome = true := by
  have hPrint : ∀ byte ∈ List.replicate 96 0x78 ++ commandTail, isPrint byte = true := by
    intro byte hByte
    rcases List.mem_append.mp hByte with hFirst | hTail
    · rw [List.eq_of_mem_replicate hFirst]
      rfl
    · have hAll : commandTail.all isPrint = true := rfl
      exact List.all_eq_true.mp hAll byte hTail
  have hLength : (List.replicate 96 (0x78 : UInt8) ++ commandTail).length = 108 := by
    rw [List.length_append, List.length_replicate]
    rfl
  have hTail : lastPart (List.replicate 96 0x78 ++ commandTail) = commandTail := by
    rw [lastPart, hLength]
    exact List.drop_left' List.length_replicate
  refine ⟨hPrint, ?_, by decide +kernel⟩
  rw [parseLineCalls_line rfl hPrint, hTail]
  rfl

end RmTest.Modules.RemoteInputModule
