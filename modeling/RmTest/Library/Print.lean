import Mathlib.Data.Nat.Digits.Lemmas
import RmTest.Library.Scan

/-! The conversions of `printf` that `Scan` reads back. -/
namespace Print

open Scan

/-- A digit of `%x`. -/
def hexDigit (digit : Nat) : UInt8 :=
  UInt8.ofNat (if digit < 10 then 0x30 + digit else 0x57 + digit)

/-- The digits of a number in `base`, with zeros in front up to `width` of them. -/
def paddedDigits (base width value : Nat) : List Nat :=
  List.replicate (width - (Nat.digits base value).length) 0 ++ (Nat.digits base value).reverse

/-- `%08x`. -/
def hex8 (value : UInt32) : Text := (paddedDigits 16 8 value.toNat).map hexDigit

theorem numeral_append (base : Nat) (first later : List Nat) :
    numeral base (first ++ later) =
      numeral base first * base ^ later.length + numeral base later := by
  induction later using List.reverseRecOn with
  | nil => simp [numeral]
  | append_singleton later digit ih =>
      have hConcat (run : List Nat) :
          numeral base (run ++ [digit]) = numeral base run * base + digit :=
        List.foldl_concat _ _ _ _
      rw [← List.append_assoc, hConcat, hConcat, ih, List.length_append, List.length_singleton,
        pow_succ]
      ring

theorem numeral_replicate_zero (base count : Nat) : numeral base (List.replicate count 0) = 0 := by
  induction count with
  | zero => rfl
  | succ count ih =>
      rw [List.replicate_succ', numeral_append, ih]
      simp [numeral]

theorem numeral_reverse (base : Nat) (digits : List Nat) :
    numeral base digits.reverse = Nat.ofDigits base digits := by
  induction digits with
  | nil => rfl
  | cons digit rest ih =>
      rw [List.reverse_cons, numeral_append, ih, Nat.ofDigits_cons]
      simp [numeral, Nat.mul_comm, Nat.add_comm]

/-- The digits of a number make it up again, zeros in front or not. -/
theorem numeral_paddedDigits (base width value : Nat) :
    numeral base (paddedDigits base width value) = value := by
  rw [paddedDigits, numeral_append, numeral_replicate_zero, numeral_reverse, Nat.ofDigits_digits,
    Nat.zero_mul, Nat.zero_add]

theorem paddedDigits_lt {base : Nat} (large : 1 < base) (width value : Nat) :
    ∀ digit ∈ paddedDigits base width value, digit < base := by
  intro digit hDigit
  rcases List.mem_append.mp hDigit with hZero | hDigit
  · rw [List.eq_of_mem_replicate hZero]
    omega
  · exact Nat.digits_lt_base large (List.mem_reverse.mp hDigit)

theorem length_paddedDigits {base width value : Nat} (large : 1 < base)
    (fits : value < base ^ width) : (paddedDigits base width value).length = width := by
  have hLength := (Nat.digits_length_le_iff large value).mpr fits
  rw [paddedDigits, List.length_append, List.length_replicate, List.length_reverse]
  omega

@[simp] theorem length_hex8 (value : UInt32) : (hex8 value).length = 8 := by
  exact (List.length_map _).trans
    (length_paddedDigits (by decide) (show value.toNat < 16 ^ 8 from value.toNat_lt))

/-- What `Scan` makes of a digit: it is one, and nothing else. -/
theorem hexDigit_spec {digit : Nat} (small : digit < 16) :
    digitValue 16 (hexDigit digit) = some digit ∧ isSpace (hexDigit digit) = false ∧
      hexDigit digit ≠ 0x2d ∧ hexDigit digit ≠ 0x2b ∧ toLower (hexDigit digit) ≠ 0x78 ∧
      hexDigit digit ≠ 0 := by
  interval_cases digit <;> decide

theorem isSpace_cases {byte : UInt8} (space : isSpace byte = true) :
    byte = 0x20 ∨ byte = 0x09 ∨ byte = 0x0a ∨ byte = 0x0b ∨ byte = 0x0c ∨ byte = 0x0d := by
  rcases (Bool.or_eq_true _ _).mp space with hBlank | hControl
  · exact .inl (eq_of_beq hBlank)
  · obtain ⟨hLow, hHigh⟩ := (Bool.and_eq_true _ _).mp hControl
    have hLow : 9 ≤ byte.toNat := of_decide_eq_true hLow
    have hHigh : byte.toNat ≤ 13 := of_decide_eq_true hHigh
    simp only [← UInt8.toNat_inj, UInt8.reduceToNat]
    omega

theorem isSpace_spec {byte : UInt8} (space : isSpace byte = true) :
    digitValue 16 byte = none ∧ toLower byte ≠ 0x78 := by
  rcases isSpace_cases space with rfl | rfl | rfl | rfl | rfl | rfl <;> decide

/-- What ends the digits of a number. -/
def Ends (rest : Text) : Prop := ∀ byte ∈ rest.head?, isSpace byte = true

theorem digits_map_hexDigit {run : List Nat} (small : ∀ digit ∈ run, digit < 16) {rest : Text}
    (ends : Ends rest) : digits 16 (run.map hexDigit ++ rest) = (run, rest) := by
  have hRun : ∀ byte ∈ run.map hexDigit, (digitValue 16 byte).isSome = true := by
    intro byte hByte
    obtain ⟨digit, hDigit, rfl⟩ := List.mem_map.mp hByte
    rw [(hexDigit_spec (small digit hDigit)).1]
    rfl
  have hValues : (run.map hexDigit).filterMap (digitValue 16) = run := by
    rw [List.filterMap_map]
    refine (List.filterMap_congr fun digit hDigit => ?_).trans List.filterMap_some
    exact (hexDigit_spec (small digit hDigit)).1
  have hEnd : ∀ byte ∈ rest.head?, digitValue 16 byte = none :=
    fun byte hByte => (isSpace_spec (ends byte hByte)).1
  rw [digits_append 16 _ hRun hEnd, hValues]

/-- `%x` reads a run of digits to its end. -/
theorem hex_map_hexDigit {run : List Nat} (small : ∀ digit ∈ run, digit < 16) (nonempty : run ≠ [])
    {rest : Text} (ends : Ends rest) :
    hex (run.map hexDigit ++ rest) = some (UInt32.ofNat (numeral 16 run), rest) := by
  obtain ⟨first, later, rfl⟩ := List.exists_cons_of_ne_nil nonempty
  obtain ⟨_, hSpace, hMinus, hPlus, _, _⟩ := hexDigit_spec (small first List.mem_cons_self)
  have hSkip : skipSpace ((first :: later).map hexDigit ++ rest) =
      (first :: later).map hexDigit ++ rest :=
    List.dropWhile_cons_of_neg (by rw [hSpace]; exact Bool.false_ne_true)
  have hSign : sign ((first :: later).map hexDigit ++ rest) =
      (false, (first :: later).map hexDigit ++ rest) := by
    simp only [List.map_cons, List.cons_append]
    unfold sign
    split
    · rename_i hCons
      exact absurd (List.cons.inj hCons).1 hMinus
    · rename_i hCons
      exact absurd (List.cons.inj hCons).1 hPlus
    · rfl
  have hPrefix : keyword [0x30, 0x78] ((first :: later).map hexDigit ++ rest) = none := by
    -- the second byte is a digit or what ends the number
    have hSecond : ∀ byte ∈ (later.map hexDigit ++ rest).head?, toLower byte ≠ 0x78 := by
      intro byte hByte
      cases later with
      | nil => exact (isSpace_spec (ends byte hByte)).2
      | cons second tail =>
          obtain rfl := Option.some.inj hByte
          exact (hexDigit_spec (small second (by simp))).2.2.2.2.1
    simp only [List.map_cons, List.cons_append, keyword]
    rw [if_neg]
    cases hTail : later.map hexDigit ++ rest with
    | nil => simp
    | cons byte tail =>
        rw [hTail] at hSecond
        simp [hSecond byte rfl]
  have hDigits := digits_map_hexDigit small ends
  simp only [hex, hSkip, hSign, hPrefix, Option.getD_none, hDigits]
  rfl

/-- `%x` reads back what `%08x` printed. -/
theorem hex_hex8 (value : UInt32) {rest : Text} (ends : Ends rest) :
    hex (hex8 value ++ rest) = some (value, rest) := by
  have hNonempty : paddedDigits 16 8 value.toNat ≠ [] := by
    intro hNil
    have hLength := length_hex8 value
    rw [hex8, hNil] at hLength
    cases hLength
  rw [hex8, hex_map_hexDigit (paddedDigits_lt (by decide) 8 value.toNat) hNonempty ends,
    numeral_paddedDigits, UInt32.ofNat_toNat]

end Print
