import RmTest.Library.Print

/-! Decimal numbers in every spelling that `strtof` takes for one, and what the
conversions of `Scan` make of them. -/
namespace Scan

/-- A digit of `%x` is no blank, no sign and no part of `0x`. -/
theorem digitValue_spec {byte : UInt8} (digit : (digitValue 16 byte).isSome = true) :
    isSpace byte = false ∧ byte ≠ 0x2d ∧ byte ≠ 0x2b ∧ toLower byte ≠ 0x78 := by
  refine ⟨?_, ?_, ?_, ?_⟩
  · by_contra hSpace
    rw [(Print.isSpace_spec (Bool.not_eq_false _ ▸ hSpace)).1] at digit
    cases digit
  · rintro rfl
    cases digit
  · rintro rfl
    cases digit
  · intro hLower
    unfold toLower at hLower
    split_ifs at hLower
    · have hByte : byte = 0x58 := (UInt8.add_left_inj 0x20).mp hLower
      rw [hByte] at digit
      cases digit
    · obtain rfl := hLower
      cases digit

/-- A keyword is not there if the text starts with another letter. -/
theorem keyword_none {letter : UInt8} {letters text : Text}
    (other : ∀ byte ∈ text.head?, toLower byte ≠ letter) :
    keyword (letter :: letters) text = none := by
  rw [keyword, if_neg]
  cases text with
  | nil => simp
  | cons byte tail => simp [other byte rfl]

/-- Nor is `0x` if the second byte is another. -/
theorem keyword_hex_none {text : Text} (other : ∀ byte ∈ text.tail.head?, toLower byte ≠ 0x78) :
    keyword [0x30, 0x78] text = none := by
  rw [keyword, if_neg]
  cases text with
  | nil => simp
  | cons first tail =>
      cases tail with
      | nil => simp
      | cons second tail => simp [other second rfl]

theorem skipSpace_append {gap text : Text} (blank : ∀ byte ∈ gap, isSpace byte = true)
    (starts : ∀ byte ∈ text.head?, isSpace byte = false) : skipSpace (gap ++ text) = text := by
  rw [skipSpace, List.dropWhile_append_of_pos blank]
  cases text with
  | nil => rfl
  | cons byte tail =>
      exact List.dropWhile_cons_of_neg (by rw [starts byte rfl]; exact Bool.false_ne_true)

inductive Sign where
  | plus
  | minus
  deriving DecidableEq

def signBytes : Option Sign → Text
  | none => []
  | some .plus => [0x2b]
  | some .minus => [0x2d]

/-- What follows a sign, or stands where none is, starts with something else. -/
def Unsigned (text : Text) : Prop :=
  ∀ byte ∈ text.head?, isSpace byte = false ∧ byte ≠ 0x2d ∧ byte ≠ 0x2b

theorem sign_signBytes (written : Option Sign) {text : Text} (start : Unsigned text) :
    sign (signBytes written ++ text) = (decide (written = some .minus), text) := by
  cases written with
  | none =>
      cases text with
      | nil => rfl
      | cons byte tail =>
          obtain ⟨_, hMinus, hPlus⟩ := start byte rfl
          simp only [signBytes, List.nil_append]
          unfold sign
          split
          · rename_i hCons
            exact absurd (List.cons.inj hCons).1 hMinus
          · rename_i hCons
            exact absurd (List.cons.inj hCons).1 hPlus
          · rfl
  | some written => cases written <;> rfl

/-- What is left for the digits once blanks and sign are read. -/
theorem sign_skipSpace {gap : Text} (blank : ∀ byte ∈ gap, isSpace byte = true)
    (written : Option Sign) {text : Text} (start : Unsigned text) :
    sign (skipSpace (gap ++ (signBytes written ++ text))) =
      (decide (written = some .minus), text) := by
  rw [skipSpace_append blank, sign_signBytes written start]
  intro byte hByte
  cases written with
  | none => exact (start byte hByte).1
  | some written => cases written <;> cases hByte <;> rfl

/-- `%x` reads a run of hexadecimal digits to its end. -/
theorem hex_append {gap rest : Text} (blank : ∀ byte ∈ gap, isSpace byte = true)
    (written : Option Sign) (run : Text) (nonempty : run ≠ [])
    (run_digits : ∀ byte ∈ run, (digitValue 16 byte).isSome = true)
    (ends : ∀ byte ∈ rest.head?, digitValue 16 byte = none ∧ toLower byte ≠ 0x78) :
    ∃ value, hex (gap ++ (signBytes written ++ (run ++ rest))) = some (value, rest) := by
  obtain ⟨first, later, rfl⟩ := List.exists_cons_of_ne_nil nonempty
  have hStart : Unsigned (first :: later ++ rest) := by
    intro byte hByte
    obtain rfl := Option.some.inj hByte
    obtain ⟨hSpace, hMinus, hPlus, _⟩ := digitValue_spec (run_digits first List.mem_cons_self)
    exact ⟨hSpace, hMinus, hPlus⟩
  have hKeyword : keyword [0x30, 0x78] (first :: later ++ rest) = none := by
    -- the second byte is a digit or what ends the number
    refine keyword_hex_none fun byte hByte => ?_
    cases later with
    | nil => exact (ends byte hByte).2
    | cons second tail =>
        obtain rfl := Option.some.inj hByte
        exact (digitValue_spec (run_digits second (by simp))).2.2.2
  have hRun : ((first :: later).filterMap (digitValue 16)).isEmpty = false := by
    obtain ⟨value, hValue⟩ := Option.isSome_iff_exists.mp (run_digits first List.mem_cons_self)
    rw [List.filterMap_cons_some hValue]
    rfl
  rw [hex, sign_skipSpace blank written hStart]
  simp only [hKeyword, Option.getD_none,
    digits_append 16 _ run_digits (fun byte hByte => (ends byte hByte).1), hRun]
  exact ⟨_, rfl⟩

/-- `%x` fails at a decimal point. -/
theorem hex_point {gap : Text} (blank : ∀ byte ∈ gap, isSpace byte = true)
    (written : Option Sign) (tail : Text) :
    hex (gap ++ (signBytes written ++ 0x2e :: tail)) = none := by
  have hStart : Unsigned (0x2e :: tail) := by
    intro byte hByte
    obtain rfl := Option.some.inj hByte
    decide
  have hKeyword : keyword [0x30, 0x78] (0x2e :: tail) = none := by
    refine keyword_none fun byte hByte => ?_
    obtain rfl := Option.some.inj hByte
    decide
  have hDigits : digits 16 (0x2e :: tail) = ([], 0x2e :: tail) :=
    digits_append 16 [] (List.forall_mem_nil _) (by simp; rfl)
  rw [hex, sign_skipSpace blank written hStart]
  simp only [hKeyword, Option.getD_none, hDigits]
  rfl

/-- An exponent: `e` or `E`, a sign or none, and digits. -/
structure DecimalExponent where
  upper : Bool
  sign : Option Sign
  digits : List (Fin 10)
  nonempty : digits ≠ []

/-- A decimal number as it is spelled. -/
structure Decimal where
  sign : Option Sign
  whole : List (Fin 10)
  /-- The digits behind the point, if there is a point. -/
  fraction : Option (List (Fin 10))
  exponent : Option DecimalExponent
  nonempty : whole ++ fraction.getD [] ≠ []

def digitBytes (digits : List (Fin 10)) : Text :=
  digits.map fun digit : Fin 10 => Print.hexDigit digit.val

def pointBytes : Option (List (Fin 10)) → Text
  | none => []
  | some digits => 0x2e :: digitBytes digits

def exponentBytes : Option DecimalExponent → Text
  | none => []
  | some e => (if e.upper then 0x45 else 0x65) :: (signBytes e.sign ++ digitBytes e.digits)

/-- The power of ten of an exponent. -/
def shiftOf : Option DecimalExponent → Int
  | none => 0
  | some e =>
      if e.sign = some .minus then -(numeral 10 (e.digits.map Fin.val) : Int)
      else numeral 10 (e.digits.map Fin.val)

namespace Decimal

/-- The number without its sign. -/
def body (n : Decimal) : Text :=
  digitBytes n.whole ++ (pointBytes n.fraction ++ exponentBytes n.exponent)

def bytes (n : Decimal) : Text := signBytes n.sign ++ n.body

/-- The digits before and behind the point. -/
def digitValues (n : Decimal) : List Nat := (n.whole ++ n.fraction.getD []).map Fin.val

def value (n : Decimal) : ℚ :=
  let magnitude :=
    (numeral 10 n.digitValues : ℚ) / 10 ^ (n.fraction.getD []).length * 10 ^ shiftOf n.exponent
  if n.sign = some .minus then -magnitude else magnitude

end Decimal

theorem digit_spec {digit : Nat} (small : digit < 10) :
    digitValue 10 (Print.hexDigit digit) = some digit ∧ Print.hexDigit digit ≠ 0x2e ∧
      toLower (Print.hexDigit digit) ≠ 0x69 ∧ toLower (Print.hexDigit digit) ≠ 0x6e := by
  interval_cases digit <;> decide

theorem mem_digitBytes {digits : List (Fin 10)} {byte : UInt8} (mem : byte ∈ digitBytes digits) :
    ∃ digit : Fin 10, byte = Print.hexDigit digit := by
  obtain ⟨digit, _, rfl⟩ := List.mem_map.mp mem
  exact ⟨digit, rfl⟩

/-- Decimal digits are read to their end. -/
theorem digits_digitBytes (run : List (Fin 10)) (rest : Text)
    (ends : ∀ byte ∈ rest.head?, digitValue 10 byte = none) :
    digits 10 (digitBytes run ++ rest) = (run.map Fin.val, rest) := by
  have hRun : ∀ byte ∈ digitBytes run, (digitValue 10 byte).isSome = true := by
    intro byte hByte
    obtain ⟨digit, rfl⟩ := mem_digitBytes hByte
    rw [(digit_spec digit.isLt).1]
    rfl
  have hValues : (digitBytes run).filterMap (digitValue 10) = run.map Fin.val := by
    rw [digitBytes, List.filterMap_map, ← List.filterMap_eq_map]
    exact List.filterMap_congr fun digit _ => (digit_spec digit.isLt).1
  rw [digits_append 10 _ hRun ends, hValues]

/-- What ends a number is neither a digit nor a point nor an exponent. -/
theorem ends_spec {rest : Text} (ends : Print.Ends rest) :
    ∀ byte ∈ rest.head?, digitValue 10 byte = none ∧ digitValue 16 byte = none ∧ byte ≠ 0x2e ∧
      toLower byte ≠ 0x65 ∧ toLower byte ≠ 0x78 := by
  intro byte hByte
  rcases Print.isSpace_cases (ends byte hByte) with rfl | rfl | rfl | rfl | rfl | rfl <;> decide

theorem unsigned_digitBytes {run : List (Fin 10)} (nonempty : run ≠ []) (rest : Text) :
    Unsigned (digitBytes run ++ rest) := by
  obtain ⟨first, later, rfl⟩ := List.exists_cons_of_ne_nil nonempty
  intro byte hByte
  obtain rfl := Option.some.inj hByte
  obtain ⟨_, hSpace, hMinus, hPlus, _⟩ := Print.hexDigit_spec (show first.val < 16 by omega)
  exact ⟨hSpace, hMinus, hPlus⟩

/-- What follows the digits behind the point. -/
theorem exponentBytes_head (e : Option DecimalExponent) {rest : Text} (ends : Print.Ends rest) :
    ∀ byte ∈ (exponentBytes e ++ rest).head?, digitValue 10 byte = none ∧ byte ≠ 0x2e := by
  intro byte hByte
  cases e with
  | none =>
      obtain ⟨hDigit, _, hPoint, _⟩ := ends_spec ends byte hByte
      exact ⟨hDigit, hPoint⟩
  | some e =>
      obtain rfl := Option.some.inj hByte
      cases e.upper <;> decide

theorem exponent_exponentBytes (e : Option DecimalExponent) {rest : Text} (ends : Print.Ends rest) :
    exponent 0x65 (exponentBytes e ++ rest) = some (shiftOf e, rest) := by
  cases e with
  | none =>
      cases rest with
      | nil => rfl
      | cons byte tail =>
          obtain ⟨_, _, _, hLower, _⟩ := ends_spec ends byte rfl
          simp [exponentBytes, exponent, hLower, shiftOf]
  | some e =>
      have hMarker : (toLower (if e.upper then 0x45 else 0x65) == 0x65) = true := by
        cases e.upper <;> decide
      have hDigits := digits_digitBytes e.digits rest
        (fun byte hByte => (ends_spec ends byte hByte).1)
      have hRun : (e.digits.map Fin.val).isEmpty = false := by simp [e.nonempty]
      simp only [exponentBytes, List.cons_append, List.append_assoc, exponent, hMarker, if_true,
        sign_signBytes e.sign (unsigned_digitBytes e.nonempty rest), hDigits, hRun, shiftOf]
      simp

theorem mantissa_point {base : Nat} {text tail rest : Text} {whole behind : List Nat}
    (before : digits base text = (whole, 0x2e :: tail)) (after : digits base tail = (behind, rest))
    (nonempty : whole ++ behind ≠ []) :
    mantissa base text = some (numeral base (whole ++ behind), behind.length, rest) := by
  have hDigits : (whole.isEmpty && behind.isEmpty) = false := by
    cases whole <;> cases behind <;> simp_all
  simp [mantissa, before, after, hDigits]

theorem mantissa_whole {base : Nat} {text rest : Text} {whole : List Nat}
    (before : digits base text = (whole, rest)) (noPoint : ∀ byte ∈ rest.head?, byte ≠ 0x2e)
    (nonempty : whole ≠ []) : mantissa base text = some (numeral base whole, 0, rest) := by
  cases rest with
  | nil => simp [mantissa, before, nonempty]
  | cons byte tail =>
      have hByte := noPoint byte rfl
      simp only [mantissa, before]
      split
      · rename_i hCons
        exact absurd (List.cons.inj hCons).1 hByte
      · simp [nonempty]

namespace Decimal

theorem mantissa_body (n : Decimal) {rest : Text} (ends : Print.Ends rest) :
    mantissa 10 (n.body ++ rest) =
      some (numeral 10 n.digitValues, (n.fraction.getD []).length,
        exponentBytes n.exponent ++ rest) := by
  have hEnd := exponentBytes_head n.exponent ends
  have hNonempty := n.nonempty
  rcases hFraction : n.fraction with _ | behind
  · rw [hFraction, Option.getD_none, List.append_nil] at hNonempty
    have hWhole := digits_digitBytes n.whole _ (fun byte hByte => (hEnd byte hByte).1)
    have hMantissa := mantissa_whole hWhole (fun byte hByte => (hEnd byte hByte).2) (by simpa)
    simpa [body, hFraction, pointBytes, digitValues] using hMantissa
  · rw [hFraction, Option.getD_some] at hNonempty
    have hWhole := digits_digitBytes n.whole
      (0x2e :: (digitBytes behind ++ (exponentBytes n.exponent ++ rest))) (by simp; decide)
    have hBehind := digits_digitBytes behind _ (fun byte hByte => (hEnd byte hByte).1)
    have hMantissa := mantissa_point hWhole hBehind (by simpa using hNonempty)
    simpa [body, hFraction, pointBytes, digitValues] using hMantissa

/-- A number starts with a digit or the point. -/
theorem body_start (n : Decimal) :
    ∃ first later, n.body = first :: later ∧
      (first = 0x2e ∨ ∃ digit : Fin 10, first = Print.hexDigit digit.val) := by
  cases hWhole : n.whole with
  | cons digit more =>
      refine ⟨Print.hexDigit digit.val,
        digitBytes more ++ (pointBytes n.fraction ++ exponentBytes n.exponent), ?_,
        .inr ⟨digit, rfl⟩⟩
      rw [body, hWhole]
      rfl
  | nil =>
      cases hFraction : n.fraction with
      | none => exact absurd (by rw [hWhole, hFraction]; rfl) n.nonempty
      | some behind =>
          refine ⟨0x2e, digitBytes behind ++ exponentBytes n.exponent, ?_, .inl rfl⟩
          rw [body, hWhole, hFraction]
          rfl

/-- No byte of a number is an `x`. -/
theorem body_lower (n : Decimal) : ∀ byte ∈ n.body, toLower byte ≠ 0x78 := by
  have hDigit (run : List (Fin 10)) : ∀ byte ∈ digitBytes run, toLower byte ≠ 0x78 := by
    intro byte hByte
    obtain ⟨digit, rfl⟩ := mem_digitBytes hByte
    exact (Print.hexDigit_spec (show digit.val < 16 by omega)).2.2.2.2.1
  have hPoint : ∀ byte ∈ pointBytes n.fraction, toLower byte ≠ 0x78 := by
    cases n.fraction with
    | none => exact List.forall_mem_nil _
    | some behind => exact List.forall_mem_cons.mpr ⟨by decide, hDigit behind⟩
  have hExponent : ∀ byte ∈ exponentBytes n.exponent, toLower byte ≠ 0x78 := by
    cases n.exponent with
    | none => exact List.forall_mem_nil _
    | some e =>
        refine List.forall_mem_cons.mpr ⟨by cases e.upper <;> decide, ?_⟩
        refine List.forall_mem_append.mpr ⟨?_, hDigit e.digits⟩
        rcases e.sign with _ | _ | _ <;> simp [signBytes] <;> decide
  exact List.forall_mem_append.mpr
    ⟨hDigit n.whole, List.forall_mem_append.mpr ⟨hPoint, hExponent⟩⟩

/-- `strtof` reads a number to its end. -/
theorem strtof_bytes (n : Decimal) {gap rest : Text} (blank : ∀ byte ∈ gap, isSpace byte = true)
    (ends : Print.Ends rest) :
    strtof (gap ++ (n.bytes ++ rest)) = some (.finite n.value, rest) := by
  obtain ⟨first, later, hBody, hFirst⟩ := n.body_start
  have hLetters : isSpace first = false ∧ first ≠ 0x2d ∧ first ≠ 0x2b ∧ toLower first ≠ 0x69 ∧
      toLower first ≠ 0x6e := by
    rcases hFirst with rfl | ⟨digit, rfl⟩
    · decide
    · obtain ⟨_, hSpace, hMinus, hPlus, _⟩ := Print.hexDigit_spec (show digit.val < 16 by omega)
      obtain ⟨_, _, hInf, hNan⟩ := digit_spec digit.isLt
      exact ⟨hSpace, hMinus, hPlus, hInf, hNan⟩
  have hHead : ∀ byte ∈ (n.body ++ rest).head?, byte = first := by
    rw [hBody]
    exact fun byte hByte => (Option.some.inj hByte).symm
  have hStart : Unsigned (n.body ++ rest) := by
    intro byte hByte
    rw [hHead byte hByte]
    exact ⟨hLetters.1, hLetters.2.1, hLetters.2.2.1⟩
  have hInf : keyword [0x69, 0x6e, 0x66] (n.body ++ rest) = none :=
    keyword_none fun byte hByte => hHead byte hByte ▸ hLetters.2.2.2.1
  have hNan : keyword [0x6e, 0x61, 0x6e] (n.body ++ rest) = none :=
    keyword_none fun byte hByte => hHead byte hByte ▸ hLetters.2.2.2.2
  have hHex : keyword [0x30, 0x78] (n.body ++ rest) = none := by
    -- the second byte belongs to the number or ends it
    refine keyword_hex_none fun byte hByte => ?_
    have hLower := n.body_lower
    rw [hBody] at hByte hLower
    cases later with
    | nil => exact (ends_spec ends byte hByte).2.2.2.2
    | cons second tail =>
        obtain rfl := Option.some.inj hByte
        exact hLower second (by simp)
  rw [strtof, bytes, List.append_assoc, sign_skipSpace blank n.sign hStart]
  simp only [longestSpecial, hInf, hNan, hHex, Option.map_none, Option.bind_none, longestMagnitude,
    n.mantissa_body ends, exponent_exponentBytes n.exponent ends, Option.map_some, Option.getD_some]
  simp [value]

/-- How many conversions of `%x` find something in a number: up to its point, if it
has one, and else one for the digits and the letter of the exponent, with a second one
for a signed exponent. -/
def hexItems (n : Decimal) : Nat :=
  match n.fraction, n.exponent with
  | some _, _ => if n.whole = [] then 0 else 1
  | none, some ⟨_, some _, _, _⟩ => 2
  | none, _ => 1

theorem digitBytes_hex (run : List (Fin 10)) :
    ∀ byte ∈ digitBytes run, (digitValue 16 byte).isSome = true := by
  intro byte hByte
  obtain ⟨digit, rfl⟩ := mem_digitBytes hByte
  rw [(Print.hexDigit_spec (show digit.val < 16 by omega)).1]
  rfl

/-- A point stops the conversions, after the digits before it. -/
theorem hex_of_point {n : Decimal} (point : n.fraction.isSome = true) {gap : Text}
    (blank : ∀ byte ∈ gap, isSpace byte = true) (rest : Text) :
    (n.whole = [] ∧ hex (gap ++ (n.bytes ++ rest)) = none) ∨
      (n.whole ≠ [] ∧ ∃ value tail, hex (gap ++ (n.bytes ++ rest)) =
        some (value, 0x2e :: tail)) := by
  obtain ⟨behind, hFraction⟩ := Option.isSome_iff_exists.mp point
  let tail := digitBytes behind ++ (exponentBytes n.exponent ++ rest)
  have hBytes : n.bytes ++ rest = signBytes n.sign ++ (digitBytes n.whole ++ 0x2e :: tail) := by
    simp [bytes, body, hFraction, pointBytes, tail]
  rw [hBytes]
  by_cases hWhole : n.whole = []
  · rw [hWhole]
    exact .inl ⟨rfl, hex_point blank n.sign tail⟩
  · have hPoint : ∀ byte ∈ (0x2e :: tail).head?,
        digitValue 16 byte = none ∧ toLower byte ≠ 0x78 := by
      simp
      decide
    obtain ⟨value, hHex⟩ := hex_append blank n.sign (digitBytes n.whole)
      (by simpa [digitBytes] using hWhole) (digitBytes_hex n.whole) hPoint
    exact .inr ⟨hWhole, value, tail, hHex⟩

/-- A number without a point is read to its end, in one conversion or two. -/
theorem hex_of_whole {n : Decimal} (whole : n.fraction = none) {gap rest : Text}
    (blank : ∀ byte ∈ gap, isSpace byte = true) (ends : Print.Ends rest) :
    (n.hexItems = 1 ∧ ∃ value, hex (gap ++ (n.bytes ++ rest)) = some (value, rest)) ∨
      (n.hexItems = 2 ∧ ∃ first second between,
        hex (gap ++ (n.bytes ++ rest)) = some (first, between) ∧
        hex between = some (second, rest)) := by
  have hNonempty : digitBytes n.whole ≠ [] := by
    have hDigits := n.nonempty
    rw [whole, Option.getD_none, List.append_nil] at hDigits
    simpa [digitBytes] using hDigits
  have hEnds : ∀ byte ∈ rest.head?, digitValue 16 byte = none ∧ toLower byte ≠ 0x78 :=
    fun byte hByte => Print.isSpace_spec (ends byte hByte)
  have hBytes : n.bytes ++ rest =
      signBytes n.sign ++ (digitBytes n.whole ++ (exponentBytes n.exponent ++ rest)) := by
    simp [bytes, body, whole, pointBytes]
  have hMarker (upper : Bool) : (digitValue 16 (if upper then 0x45 else 0x65)).isSome = true := by
    cases upper <;> rfl
  rw [hBytes]
  rcases hExponent : n.exponent with _ | ⟨upper, _ | written, digits, nonempty⟩
  · refine .inl ⟨by simp [hexItems, whole, hExponent], ?_⟩
    exact hex_append blank n.sign _ hNonempty (digitBytes_hex n.whole) hEnds
  · refine .inl ⟨by simp [hexItems, whole, hExponent], ?_⟩
    have hRun := hex_append blank n.sign
      (digitBytes n.whole ++ (if upper then 0x45 else 0x65) :: digitBytes digits) (by simp)
      (List.forall_mem_append.mpr ⟨digitBytes_hex n.whole,
        List.forall_mem_cons.mpr ⟨hMarker upper, digitBytes_hex digits⟩⟩) hEnds
    simpa [exponentBytes, signBytes] using hRun
  · refine .inr ⟨by simp [hexItems, whole, hExponent], ?_⟩
    have hSign : ∀ byte ∈ (signBytes (some written) ++ (digitBytes digits ++ rest)).head?,
        digitValue 16 byte = none ∧ toLower byte ≠ 0x78 := by
      cases written <;> simp [signBytes] <;> decide
    obtain ⟨first, hFirst⟩ := hex_append blank n.sign
      (digitBytes n.whole ++ [if upper then 0x45 else 0x65]) (by simp)
      (List.forall_mem_append.mpr ⟨digitBytes_hex n.whole,
        List.forall_mem_singleton.mpr (hMarker upper)⟩) hSign
    obtain ⟨second, hSecond⟩ := hex_append (List.forall_mem_nil _) (some written)
      (digitBytes digits) (by simpa [digitBytes] using nonempty) (digitBytes_hex digits) hEnds
    refine ⟨first, second, _, ?_, hSecond⟩
    simpa [exponentBytes] using hFirst

end Decimal

end Scan
