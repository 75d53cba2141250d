import RmTest.Library.Decimal
import RmTest.Verification.PidPersistence

/-! A file of decimal numbers under the two parsers, of which the one for bit patterns
comes first. -/
namespace RmTest.Debug

open Channels Platform Services Scan

/-- A text that starts with the numbers, with blanks between them. -/
inductive Spells : List Decimal → Text → Prop where
  | nil {rest : Text} (ends : Print.Ends rest) : Spells [] rest
  | cons {n : Decimal} {numbers : List Decimal} {gap rest : Text}
      (blank : ∀ byte ∈ gap, isSpace byte = true) (later : Spells numbers rest)
      (ends : Print.Ends rest) : Spells (n :: numbers) (gap ++ (n.bytes ++ rest))

/-- How many conversions of `%x` find something in the numbers, up to the first
point. -/
def hexItems : List Decimal → Nat
  | [] => 0
  | n :: numbers => n.hexItems + if n.fraction.isSome then 0 else hexItems numbers

/-- The conversions fail exactly if too few of them find something before a point. -/
theorem hexWords_eq_none_iff {numbers : List Decimal} {text : Text} (spells : Spells numbers text)
    {count : Nat} (enough : count ≤ numbers.length) :
    hexWords count text = none ↔ hexItems numbers < count := by
  induction spells generalizing count with
  | nil ends =>
      obtain rfl := Nat.le_zero.mp enough
      simp [hexWords]
  | @cons n numbers gap rest blank later ends ih =>
      cases count with
      | zero => simp [hexWords]
      | succ count =>
          have hCount : count ≤ numbers.length := Nat.le_of_succ_le_succ enough
          cases hFraction : n.fraction with
          | some behind =>
              rcases Decimal.hex_of_point (n := n) (by rw [hFraction]; rfl) blank rest with
                ⟨hWhole, hHex⟩ | ⟨hWhole, value, tail, hHex⟩
              · simp [hexWords, hHex, hexItems, Decimal.hexItems, hFraction, hWhole]
              · cases count with
                | zero => simp [hexWords, hHex, hexItems, Decimal.hexItems, hFraction, hWhole]
                | succ count =>
                    have hPoint : hex (0x2e :: tail) = none :=
                      hex_point (List.forall_mem_nil _) none tail
                    simp [hexWords, hHex, hPoint, hexItems, Decimal.hexItems, hFraction, hWhole]
          | none =>
              rcases Decimal.hex_of_whole hFraction blank ends with
                ⟨hItems, value, hHex⟩ | ⟨hItems, first, second, between, hFirst, hSecond⟩
              · have hLater := ih hCount
                simp only [hexWords, hHex, Option.bind_some, Option.map_eq_none_iff, hLater,
                  hexItems, hItems, hFraction, Option.isSome_none]
                simp only [Bool.false_eq_true, if_false]
                omega
              · cases count with
                | zero => simp [hexWords, hFirst, hexItems, hItems]
                | succ count =>
                    have hLater := ih (Nat.le_of_succ_le hCount)
                    simp only [hexWords, hFirst, hSecond, Option.bind_some, Option.map_eq_none_iff,
                      hLater, hexItems, hItems, hFraction, Option.isSome_none]
                    simp only [Bool.false_eq_true, if_false]
                    omega

section Tuning

variable {F : Type} [FloatSource F]

/-- The numbers as values. -/
def decimalValue (n : Decimal) : F := FloatSource.ofText (.finite n.value)

def decimalTuning (kp ki kd iLimit outLimit : Decimal) : SpeedPidTuning F where
  kp := decimalValue kp
  ki := decimalValue ki
  kd := decimalValue kd
  iLimit := decimalValue iLimit
  outLimit := decimalValue outLimit

theorem floatTexts_spells {numbers : List Decimal} {text : Text} (spells : Spells numbers text) :
    floatTexts numbers.length text = some (numbers.map (decimalValue : Decimal → F)) := by
  induction spells with
  | nil ends => rfl
  | @cons n numbers gap rest blank later ends ih =>
      simp only [List.length_cons, floatTexts, n.strtof_bytes blank ends, Option.bind_some, ih,
        Option.map_some, List.map_cons, decimalValue]

variable {kp ki kd iLimit outLimit : Decimal} {text : Text}

/-- `ParsePidFromFloatText` accepts every such text. -/
theorem parsePidFromFloatText_spells (spells : Spells [kp, ki, kd, iLimit, outLimit] text) :
    parsePidFromFloatText text =
      .ok (decimalTuning kp ki kd iLimit outLimit : SpeedPidTuning F) := by
  have hTexts := floatTexts_spells (F := F) spells
  simp only [List.length_cons, List.length_nil, List.map_cons, List.map_nil] at hTexts
  simp only [parsePidFromFloatText, hTexts, decimalTuning]

theorem length_hexWords {count : Nat} {text : Text} {words : List UInt32}
    (read : hexWords count text = some words) : words.length = count := by
  induction count generalizing text words with
  | zero =>
      obtain rfl := Option.some.inj read
      rfl
  | succ count ih =>
      obtain ⟨⟨bits, rest⟩, _, hRest⟩ := Option.bind_eq_some_iff.mp read
      obtain ⟨later, hLater, rfl⟩ := Option.map_eq_some_iff.mp hRest
      exact congrArg Nat.succ (ih hLater)

/-- `ParsePidFromHexBits` fails exactly if one of the conversions does. -/
theorem parsePidFromHexBits_spec (text : Text) :
    (hexWords 5 text = none ∧
      (parsePidFromHexBits text : Except Errno (SpeedPidTuning F)) = .error .einval) ∨
      (hexWords 5 text ≠ none ∧
        ∃ values, (parsePidFromHexBits text : Except Errno (SpeedPidTuning F)) = .ok values) := by
  cases hWords : hexWords 5 text with
  | none => exact .inl ⟨rfl, by simp only [parsePidFromHexBits, hWords]⟩
  | some words =>
      have hLength := length_hexWords hWords
      obtain ⟨b0, words, rfl⟩ := List.exists_cons_of_length_eq_add_one hLength
      obtain ⟨b1, b2, b3, b4, rfl⟩ := List.length_eq_four.mp (Nat.succ.inj hLength)
      refine .inr ⟨Option.some_ne_none _, ⟨FloatSource.ofBits b0, FloatSource.ofBits b1,
        FloatSource.ofBits b2, FloatSource.ofBits b3, FloatSource.ofBits b4⟩, ?_⟩
      simp only [parsePidFromHexBits, hWords]

/-- The text is taken for decimal numbers exactly if a point stops the conversions of
`ParsePidFromHexBits`. -/
theorem parsePidFormat_spells_iff (spells : Spells [kp, ki, kd, iLimit, outLimit] text) :
    parsePidFormat text =
        .ok (.float, (decimalTuning kp ki kd iLimit outLimit : SpeedPidTuning F)) ↔
      hexItems [kp, ki, kd, iLimit, outLimit] < 5 := by
  rw [← hexWords_eq_none_iff spells (Nat.le_refl 5)]
  rcases parsePidFromHexBits_spec (F := F) text with ⟨hWords, hFailed⟩ | ⟨hWords, values, hRead⟩
  · refine iff_of_true ?_ hWords
    simp only [parsePidFormat, hFailed, parsePidFromFloatText_spells (F := F) spells]
    rfl
  · refine iff_of_false (fun hFloat => ?_) hWords
    simp only [parsePidFormat, hRead] at hFloat
    cases hFloat

theorem parsePid_eq_map (text : Text) :
    (parsePid text : Except Errno (SpeedPidTuning F)) = (parsePidFormat text).map Prod.snd := by
  unfold parsePid parsePidFormat
  rcases hHex : (parsePidFromHexBits text : Except Errno (SpeedPidTuning F)) with rc | values
  · cases (parsePidFromFloatText text : Except Errno (SpeedPidTuning F)) <;> rfl
  · rfl

end Tuning

section Commands

variable {F Volume Provider Object : Type} [FloatSource F] [DecidableEq Provider]
  [SpeedPidTuningProvider Object F]

/-- `CmdPidLoad` sets the five values, and `CmdPidDump` prints them as decimal numbers. -/
def ReadAsDecimal (fs : FileSystem Volume) (w : ShellSystem Volume Provider Object) (text : Text)
    (tuning : SpeedPidTuning F) : Prop :=
  cmdPidLoad fs w =
      (let set := w.service.setSpeedPidTuning w.objects tuning
      ({ w with littlefs := (loadText fs w).1, objects := set.1 }, set.2)) ∧
    (cmdPidDump fs w).2 = .ok ⟨text, .ok (.float, tuning)⟩

theorem readAsDecimal_of_format {fs : FileSystem Volume} {w : ShellSystem Volume Provider Object}
    {text : Text} {tuning : SpeedPidTuning F} (loaded : (loadText fs w).2 = .ok text) :
    ReadAsDecimal fs w text tuning ↔ parsePidFormat text = .ok (.float, tuning) := by
  have hDump : (cmdPidDump fs w).2 =
      (.ok ⟨text, parsePidFormat text⟩ : Except Errno (PidDump F)) := by
    simp only [cmdPidDump, loaded]
    rfl
  constructor
  · rintro ⟨_, hParsed⟩
    exact congrArg PidDump.parsed (Except.ok.inj (hDump.symm.trans hParsed))
  · intro hFormat
    refine ⟨?_, by rw [hDump, hFormat]⟩
    have hParse : (parsePid text : Except Errno (SpeedPidTuning F)) = .ok tuning := by
      rw [parsePid_eq_map, hFormat]
      rfl
    rcases cmdPidLoad_cases (F := F) fs w with
      ⟨rc, hText | ⟨read, hText, hFailed⟩, _⟩ | ⟨read, values, hText, hValues, hLoad⟩
    · cases loaded.symm.trans hText
    · obtain rfl := Except.ok.inj (loaded.symm.trans hText)
      cases hParse.symm.trans hFailed
    · obtain rfl := Except.ok.inj (loaded.symm.trans hText)
      obtain rfl := Except.ok.inj (hParse.symm.trans hValues)
      exact hLoad

/-- A file of five decimal numbers is read as these, by loading it and by dumping it,
exactly if a decimal point stops the conversions for bit patterns before the fifth. -/
theorem read_as_decimal_iff (fs : FileSystem Volume) (w : ShellSystem Volume Provider Object)
    {text : Text} (loaded : (loadText fs w).2 = .ok text) {kp ki kd iLimit outLimit : Decimal}
    (spells : Spells [kp, ki, kd, iLimit, outLimit] text) :
    (parsePidFromFloatText text = .ok (decimalTuning kp ki kd iLimit outLimit : SpeedPidTuning F)) ∧
    (ReadAsDecimal fs w text (decimalTuning kp ki kd iLimit outLimit : SpeedPidTuning F) ↔
      hexItems [kp, ki, kd, iLimit, outLimit] < 5) :=
  ⟨parsePidFromFloatText_spells spells,
    (readAsDecimal_of_format loaded).trans (parsePidFormat_spells_iff spells)⟩

end Commands

/-- Numbers with a blank before each, and the end of the line. -/
def line : List Decimal → Text
  | [] => [0x0a]
  | n :: numbers => 0x20 :: (n.bytes ++ line numbers)

theorem spells_line (numbers : List Decimal) : Spells numbers (line numbers) := by
  have hEnds (numbers : List Decimal) : Print.Ends (line numbers) := by
    cases numbers with
    | nil => exact ends_newline
    | cons n numbers => exact ends_space _
  induction numbers with
  | nil => exact .nil (hEnds [])
  | cons n numbers ih =>
      have hBlank : ∀ byte ∈ [0x20], isSpace byte = true := List.forall_mem_singleton.mpr rfl
      exact .cons hBlank ih (hEnds numbers)

/-- A whole number, with a point after it or not. -/
def wholeNumber (digits : List (Fin 10)) (nonempty : digits ≠ []) (point : Bool) : Decimal where
  sign := none
  whole := digits
  fraction := if point then some [] else none
  exponent := none
  nonempty := by
    intro hNil
    exact nonempty (List.append_eq_nil_iff.mp hNil).1

/-- `3 0 0 500 16384`, with points or without. -/
def plainNumbers (point : Bool) : List Decimal :=
  [wholeNumber [3] (by decide) point, wholeNumber [0] (by decide) point,
    wholeNumber [0] (by decide) point, wholeNumber [5, 0, 0] (by decide) point,
    wholeNumber [1, 6, 3, 8, 4] (by decide) point]

theorem loadText_plainNumbers (point : Bool) :
    (loadText memoryFileSystem
      (pidSystem plainTuning ⟨some (line (plainNumbers point)), true⟩)).2 =
        .ok (line (plainNumbers point)) := by
  cases point <;> rfl

/-- With points the file is read as it is meant. -/
theorem read_as_decimal_iff_points :
    ReadAsDecimal memoryFileSystem (pidSystem plainTuning ⟨some (line (plainNumbers true)), true⟩)
      (line (plainNumbers true))
      (decimalTuning (wholeNumber [3] (by decide) true) (wholeNumber [0] (by decide) true)
        (wholeNumber [0] (by decide) true) (wholeNumber [5, 0, 0] (by decide) true)
        (wholeNumber [1, 6, 3, 8, 4] (by decide) true)) :=
  (read_as_decimal_iff memoryFileSystem _ (loadText_plainNumbers true)
    (spells_line (plainNumbers true))).2.mpr (by decide)

/-- Without points it is accepted as decimal numbers, but read as five bit patterns. -/
theorem integers_read_as_hex :
    Spells (plainNumbers false) (line (plainNumbers false)) ∧
      parsePidFromFloatText (line (plainNumbers false)) =
        .ok (decimalTuning (wholeNumber [3] (by decide) false) (wholeNumber [0] (by decide) false)
          (wholeNumber [0] (by decide) false) (wholeNumber [5, 0, 0] (by decide) false)
          (wholeNumber [1, 6, 3, 8, 4] (by decide) false) : SpeedPidTuning Single) ∧
      (cmdPidDump memoryFileSystem
        (pidSystem plainTuning ⟨some (line (plainNumbers false)), true⟩)).2 =
          .ok ⟨line (plainNumbers false), .ok (.hex, (⟨⟨3⟩, ⟨0⟩, ⟨0⟩, ⟨0x500⟩, ⟨0x16384⟩⟩ :
            SpeedPidTuning Single))⟩ ∧
      ¬ ReadAsDecimal memoryFileSystem
        (pidSystem plainTuning ⟨some (line (plainNumbers false)), true⟩) (line (plainNumbers false))
        (decimalTuning (wholeNumber [3] (by decide) false) (wholeNumber [0] (by decide) false)
          (wholeNumber [0] (by decide) false) (wholeNumber [5, 0, 0] (by decide) false)
          (wholeNumber [1, 6, 3, 8, 4] (by decide) false) : SpeedPidTuning Single) := by
  have hSpells := spells_line (plainNumbers false)
  have hDump : (cmdPidDump memoryFileSystem
      (pidSystem plainTuning ⟨some (line (plainNumbers false)), true⟩)).2 =
        .ok ⟨line (plainNumbers false), .ok (.hex, (⟨⟨3⟩, ⟨0⟩, ⟨0⟩, ⟨0x500⟩, ⟨0x16384⟩⟩ :
          SpeedPidTuning Single))⟩ := rfl
  refine ⟨hSpells, parsePidFromFloatText_spells hSpells, hDump, fun hDecimal => ?_⟩
  cases hDump.symm.trans hDecimal.2

end RmTest.Debug
