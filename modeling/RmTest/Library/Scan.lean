import RmTest.Library.FloatModel

/-! The conversions of `sscanf`, as the C standard describes them, over a string
given by its bytes up to the terminating zero. A conversion returns what it read
and the rest of the string, or `none` on a matching failure. An item that is
only the beginning of a number, such as `1e`, is a matching failure; `strtof` reads
the longest number that begins the string. -/
namespace Scan

abbrev Text := List UInt8

def isSpace (byte : UInt8) : Bool := byte == 0x20 || (0x09 ≤ byte && byte ≤ 0x0d)

/-- A blank in the format, and the blanks every number conversion skips. -/
def skipSpace (text : Text) : Text := text.dropWhile isSpace

/-- `%<width>s`. -/
def word (width : Nat) (text : Text) : Option (Text × Text) :=
  let start := skipSpace text
  let item := (start.take width).takeWhile fun byte => !isSpace byte
  if item.isEmpty then none else some (item, start.drop item.length)

def digitValue (base : Nat) (byte : UInt8) : Option Nat :=
  let value :=
    if 0x30 ≤ byte && byte ≤ 0x39 then byte.toNat - 0x30
    else if 0x41 ≤ byte && byte ≤ 0x46 then byte.toNat - 0x37
    else if 0x61 ≤ byte && byte ≤ 0x66 then byte.toNat - 0x57
    else base
  if value < base then some value else none

/-- The longest run of digits in front, and what follows it. -/
def digits (base : Nat) (text : Text) : List Nat × Text :=
  let isDigit := fun byte => (digitValue base byte).isSome
  ((text.takeWhile isDigit).filterMap (digitValue base), text.dropWhile isDigit)

def numeral (base : Nat) (run : List Nat) : Nat :=
  run.foldl (fun value digit => value * base + digit) 0

/-- An optional sign; `true` for a minus. -/
def sign : Text → Bool × Text
  | 0x2d :: rest => (true, rest)
  | 0x2b :: rest => (false, rest)
  | text => (false, text)

/-- `%d`. -/
def int (text : Text) : Option (Int × Text) :=
  let (negative, body) := sign (skipSpace text)
  let (run, rest) := digits 10 body
  if run.isEmpty then none
  else some (if negative then -(numeral 10 run : Int) else numeral 10 run, rest)

def toLower (byte : UInt8) : UInt8 :=
  if 0x41 ≤ byte && byte ≤ 0x5a then byte + 0x20 else byte

/-- A keyword, given in lower case, without regard to case. -/
def keyword (letters text : Text) : Option Text :=
  if (text.take letters.length).map toLower == letters then some (text.drop letters.length)
  else none

/-- `.5`, `3.` or `3.25`: the digits read as one numeral, and how many of them
stand behind the point. -/
def mantissa (base : Nat) (text : Text) : Option (Nat × Nat × Text) :=
  let (whole, rest) := digits base text
  let (behind, rest) :=
    match rest with
    | 0x2e :: tail => digits base tail
    | _ => ([], rest)
  if whole.isEmpty && behind.isEmpty then none
  else some (numeral base (whole ++ behind), behind.length, rest)

/-- The exponent after `marker` (a lower-case letter), zero if there is none. -/
def exponent (marker : UInt8) (text : Text) : Option (Int × Text) :=
  match text with
  | [] => some (0, [])
  | first :: tail =>
      if toLower first == marker then
        let (negative, body) := sign tail
        let (run, rest) := digits 10 body
        if run.isEmpty then none
        else some (if negative then -(numeral 10 run : Int) else numeral 10 run, rest)
      else some (0, text)

/-- A number in `base` with an exponent counting powers of `power`. -/
def magnitude (base power : Nat) (marker : UInt8) (text : Text) : Option (ℚ × Text) := do
  let (value, behind, rest) ← mantissa base text
  let (shift, rest) ← exponent marker rest
  return ((value : ℚ) / (base : ℚ) ^ behind * (power : ℚ) ^ shift, rest)

/-- `inf`, `infinity`, `nan` and `nan(...)`. -/
def special (negative : Bool) (text : Text) : Option (FloatText × Text) :=
  match keyword [0x69, 0x6e, 0x66] text with
  | some rest =>
      match rest.head?.map toLower with
      | some 0x69 =>
          (keyword [0x69, 0x6e, 0x69, 0x74, 0x79] rest).map fun rest =>
            (.infinity negative, rest)
      | _ => some (.infinity negative, rest)
  | none =>
      match keyword [0x6e, 0x61, 0x6e] text with
      | none => none
      | some (0x28 :: tail) =>
          let isTag := fun byte : UInt8 =>
            (digitValue 10 byte).isSome || (0x61 ≤ toLower byte && toLower byte ≤ 0x7a) ||
              byte == 0x5f
          match tail.dropWhile isTag with
          | 0x29 :: rest => some (.nan, rest)
          | _ => none
      | some rest => some (.nan, rest)

/-- `%f`. -/
def float (text : Text) : Option (FloatText × Text) :=
  let (negative, body) := sign (skipSpace text)
  let signed := fun (value, rest) =>
    (FloatText.finite (if negative then -value else value), rest)
  match body.head?.map toLower with
  | some 0x69 => special negative body
  | some 0x6e => special negative body
  | _ =>
      match keyword [0x30, 0x78] body with
      | some hex => (magnitude 16 2 0x70 hex).map signed
      | none => (magnitude 10 10 0x65 body).map signed

/-- `%x`. Of a number that does not fit, which the standard leaves open, the low 32
bits are stored. -/
def hex (text : Text) : Option (UInt32 × Text) :=
  let (negative, body) := sign (skipSpace text)
  let (run, rest) := digits 16 ((keyword [0x30, 0x78] body).getD body)
  if run.isEmpty then none
  else
    let value := UInt32.ofNat (numeral 16 run)
    some (if negative then -value else value, rest)

/-- A number in `base` of which an exponent without digits is no part. -/
def longestMagnitude (base power : Nat) (marker : UInt8) (text : Text) : Option (ℚ × Text) :=
  (mantissa base text).map fun (value, behind, rest) =>
    let (shift, rest) := (exponent marker rest).getD (0, rest)
    ((value : ℚ) / (base : ℚ) ^ behind * (power : ℚ) ^ shift, rest)

/-- `inf` or `infinity`, `nan` or `nan(...)`, whichever is longer. -/
def longestSpecial (negative : Bool) (text : Text) : Option (FloatText × Text) :=
  match keyword [0x69, 0x6e, 0x66] text with
  | some rest =>
      some (.infinity negative, (keyword [0x69, 0x6e, 0x69, 0x74, 0x79] rest).getD rest)
  | none =>
      (keyword [0x6e, 0x61, 0x6e] text).map fun rest =>
        (.nan, ((special negative text).map (·.2)).getD rest)

/-- `strtof`: the number and where it ends, or `none` if it ends where it starts. -/
def strtof (text : Text) : Option (FloatText × Text) :=
  let (negative, body) := sign (skipSpace text)
  let signed := fun (value, rest) =>
    (FloatText.finite (if negative then -value else value), rest)
  match longestSpecial negative body with
  | some item => some item
  | none =>
      match (keyword [0x30, 0x78] body).bind (longestMagnitude 16 2 0x70) with
      | some item => some (signed item)
      | none => (longestMagnitude 10 10 0x65 body).map signed

/-- The longest run of digits, given where it ends. -/
theorem digits_append (base : Nat) (run : Text) {rest : Text}
    (run_digits : ∀ byte ∈ run, (digitValue base byte).isSome = true)
    (ends : ∀ byte ∈ rest.head?, digitValue base byte = none) :
    digits base (run ++ rest) = (run.filterMap (digitValue base), rest) := by
  have hRest : rest.takeWhile (fun byte => (digitValue base byte).isSome) = [] ∧
      rest.dropWhile (fun byte => (digitValue base byte).isSome) = rest := by
    cases rest with
    | nil => exact ⟨rfl, rfl⟩
    | cons byte tail =>
        have hNone : ¬ (digitValue base byte).isSome = true := by
          rw [ends byte rfl]
          exact Bool.false_ne_true
        exact ⟨List.takeWhile_cons_of_neg hNone, List.dropWhile_cons_of_neg hNone⟩
  simp only [digits]
  rw [List.takeWhile_append_of_pos run_digits, List.dropWhile_append_of_pos run_digits, hRest.1,
    hRest.2, List.append_nil]

end Scan
