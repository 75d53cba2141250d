import RmTest.Library.Bits
import RmTest.Library.Quantise
import RmTest.Modules.Gantry
import Mathlib.Algebra.Order.Floor.Ring

/-! The MIT frames of the DM and Cubemars motors. A command frame, read as one number,
has the five quantised values as its fields, and a feedback frame gives its fields
back. -/
namespace RmTest.Protocols

open Channels FloatModel

/-- Bits put below a shifted value add up with it. -/
theorem toNat_shiftLeft_or {high low : UInt16} (shift : Nat) (small : shift < 16)
    (fits : high.toNat * 2 ^ shift < 65536) (below : low.toNat < 2 ^ shift) :
    (high <<< UInt16.ofNat shift ||| low).toNat = high.toNat * 2 ^ shift + low.toNat := by
  have hShift : (UInt16.ofNat shift).toNat % 16 = shift := by
    rw [UInt16.toNat_ofNat']
    omega
  rw [UInt16.toNat_or, UInt16.toNat_shiftLeft, hShift, Nat.shiftLeft_eq, Nat.mod_eq_of_lt fits,
    ← Nat.shiftLeft_eq, Nat.shiftLeft_add_eq_or_of_lt below]

theorem toNat_shiftRight (x : UInt16) (shift : Nat) (small : shift < 16) :
    (x >>> UInt16.ofNat shift).toNat = x.toNat / 2 ^ shift := by
  have hShift : (UInt16.ofNat shift).toNat % 16 = shift := by
    rw [UInt16.toNat_ofNat']
    omega
  rw [UInt16.toNat_shiftRight, hShift, Nat.shiftRight_eq_div_pow]

theorem toNat_low_byte (x : UInt16) : (x &&& 0xff).toNat = x.toNat % 256 := by
  have hMask : UInt16.toNat 0xff = 2 ^ 8 - 1 := rfl
  rw [UInt16.toNat_and, hMask, Nat.and_two_pow_sub_one_eq_mod]

theorem toNat_low_nibble (x : UInt16) : (x &&& 0x0f).toNat = x.toNat % 16 := by
  have hMask : UInt16.toNat 0x0f = 2 ^ 4 - 1 := rfl
  rw [UInt16.toNat_and, hMask, Nat.and_two_pow_sub_one_eq_mod]

/-- The byte that two 12-bit values share. -/
theorem toNat_shared_byte (x : UInt16) {y : UInt16} (small : y.toNat < 4096) :
    ((x &&& 0x0f) <<< 4 ||| y >>> 8).toNat = x.toNat % 16 * 16 + y.toNat / 256 := by
  have hLow := toNat_low_nibble x
  have hHigh : (y >>> 8).toNat = y.toNat / 256 := toNat_shiftRight y 8 (by decide)
  have hOr := @toNat_shiftLeft_or (x &&& 0x0f) (y >>> 8) 4 (by decide) (by rw [hLow]; omega)
    (by rw [hHigh]; omega)
  rw [hLow, hHigh] at hOr
  exact hOr

theorem clamp_rat_mem {low high : ℚ} (order : low ≤ high) (x : ℚ) :
    low ≤ clamp x low high ∧ clamp x low high ≤ high := by
  simp only [clamp, lt_rat, decide_eq_true_eq]
  split_ifs with hLow hHigh
  · exact ⟨le_rfl, order⟩
  · exact ⟨order, le_rfl⟩
  · exact ⟨not_lt.mp hLow, not_lt.mp hHigh⟩

theorem clamp_rat_of_mem {low high x : ℚ} (above : low ≤ x) (below : x ≤ high) :
    clamp x low high = x := by
  simp only [clamp, lt_rat, decide_eq_true_eq, if_neg (not_lt.mpr above), if_neg (not_lt.mpr below)]

theorem toNat_ofInt_uint16 {n : ℤ} (nonneg : 0 ≤ n) (range : n < 65536) :
    ((UInt16.ofInt n).toNat : ℤ) = n := by
  rw [UInt16.ofInt, UInt16.toNat_ofNat']
  omega

namespace Mit

/-- The largest value of a field. -/
abbrev steps (bits : Nat) : ℕ := 2 ^ bits - 1

theorem steps_lt {bits : Nat} (small : bits ≤ 16) : steps bits < 65536 := by
  have hPow : 2 ^ bits ≤ 2 ^ 16 := Nat.pow_le_pow_right (by decide) small
  have hPositive := Nat.two_pow_pos bits
  unfold steps
  omega

theorem steps_pos {bits : Nat} (positive : 0 < bits) : 0 < steps bits := by
  have hPow : 2 ^ 1 ≤ 2 ^ bits := Nat.pow_le_pow_right (by decide) positive
  unfold steps
  omega

/-- A value is sent as the code of what the clamp leaves of it. -/
theorem toNat_floatToUInt {low high : ℚ} (order : low < high) {bits : Nat} (small : bits ≤ 16)
    (x : ℚ) :
    ((floatToUInt x low high bits).toNat : ℤ) =
      Quantise.code low high (steps bits) (clamp x low high) := by
  obtain ⟨hLow, hHigh⟩ := clamp_rat_mem order.le x
  have hScaled : 0 ≤ (clamp x low high - low) * steps bits / (high - low) :=
    Quantise.scaled_nonneg order hLow
  have hCode : trunc ((clamp x low high - low) * (steps bits : ℚ) / (high - low) + 1 / 2) =
      Quantise.code low high (steps bits) (clamp x low high) := by
    rw [trunc_eq_floor (by linarith), Quantise.code, round_eq]
  have hNonneg := Quantise.code_nonneg (steps bits) order hLow
  have hRange := Quantise.code_le (steps bits) order hHigh
  have hSteps := steps_lt small
  rw [floatToUInt]
  simp only [lit_rat, hCode]
  exact toNat_ofInt_uint16 hNonneg (by omega)

theorem toNat_floatToUInt_lt {low high : ℚ} (order : low < high) {bits : Nat} (small : bits ≤ 16)
    (x : ℚ) : (floatToUInt x low high bits).toNat < 2 ^ bits := by
  obtain ⟨-, hHigh⟩ := clamp_rat_mem order.le x
  have hRange := Quantise.code_le (steps bits) order hHigh
  have hPositive := Nat.two_pow_pos bits
  rw [← toNat_floatToUInt order small] at hRange
  unfold steps at hRange
  omega

/-- What a raw value stands for is sent as the raw value. -/
theorem floatToUInt_value {low high : ℚ} (order : low < high) {bits : Nat} (small : bits ≤ 16)
    (positive : 0 < bits) {raw : UInt16} (range : raw.toNat < 2 ^ bits) :
    floatToUInt (Quantise.value low high (steps bits) raw.toNat) low high bits = raw := by
  have hRange : raw.toNat ≤ steps bits := by
    unfold steps
    omega
  obtain ⟨hLow, hHigh⟩ := Quantise.value_mem order (steps_pos positive) hRange
  have hCode := toNat_floatToUInt order small (Quantise.value low high (steps bits) raw.toNat)
  rw [clamp_rat_of_mem hLow hHigh, Quantise.code_value order (steps_pos positive)] at hCode
  exact UInt16.toNat_inj.mp (by exact_mod_cast hCode)

/-- A value of the command, with its range, the bits it is sent in and where they
start. -/
structure Field where
  start : Nat
  bits : Nat
  value : ℚ
  low : ℚ
  high : ℚ

/-- The layout, most significant bits first. -/
def fields (cmd : MitCommand ℚ) (range : MitRange ℚ) : List Field :=
  [⟨48, 16, cmd.position, range.pMin, range.pMax⟩, ⟨36, 12, cmd.velocity, range.vMin, range.vMax⟩,
    ⟨24, 12, cmd.kp, range.kpMin, range.kpMax⟩, ⟨12, 12, cmd.kd, range.kdMin, range.kdMax⟩,
    ⟨0, 12, cmd.torque, range.tMin, range.tMax⟩]

/-- Five numbers cut into bytes, of which two are shared by neighbours. -/
theorem regroup_bytes {p v kp kd t : Nat} (hP : p < 65536) (hV : v < 4096) (hKp : kp < 4096)
    (hKd : kd < 4096) (hT : t < 4096) :
    t % 256 % 2 ^ 8 + 256 * ((kd % 16 * 16 + t / 256) % 2 ^ 8 + 256 * (kd / 16 % 2 ^ 8 + 256 *
      (kp % 256 % 2 ^ 8 + 256 * ((v % 16 * 16 + kp / 256) % 2 ^ 8 + 256 * (v / 16 % 2 ^ 8 + 256 *
        (p % 256 % 2 ^ 8 + 256 * (p / 256 % 2 ^ 8 + 256 * 0))))))) =
      (((p * 4096 + v) * 4096 + kp) * 4096 + kd) * 4096 + t := by
  omega

/-- The eight bytes of the source, as one number. -/
theorem beNat_bytes (p : UInt16) {v kp kd t : UInt16} (hV : v.toNat < 4096) (hKp : kp.toNat < 4096)
    (hKd : kd.toNat < 4096) (hT : t.toNat < 4096) :
    Bits.beNat [(p >>> 8).toUInt8, (p &&& 0xff).toUInt8, (v >>> 4).toUInt8,
        ((v &&& 0x0f) <<< 4 ||| kp >>> 8).toUInt8, (kp &&& 0xff).toUInt8, (kd >>> 4).toUInt8,
        ((kd &&& 0x0f) <<< 4 ||| t >>> 8).toUInt8, (t &&& 0xff).toUInt8] =
      (((p.toNat * 4096 + v.toNat) * 4096 + kp.toNat) * 4096 + kd.toNat) * 4096 + t.toNat := by
  have hP := p.toNat_lt
  have hPHigh : (p >>> 8).toNat = p.toNat / 256 := toNat_shiftRight p 8 (by decide)
  have hVHigh : (v >>> 4).toNat = v.toNat / 16 := toNat_shiftRight v 4 (by decide)
  have hKdHigh : (kd >>> 4).toNat = kd.toNat / 16 := toNat_shiftRight kd 4 (by decide)
  simp only [Bits.beNat, List.reverse_cons, List.reverse_nil, List.nil_append, List.cons_append,
    Bits.leNat_cons, Bits.leNat_nil, toNat_low_byte, toNat_shared_byte v hKp,
    toNat_shared_byte kd hT, UInt16.toNat_toUInt8, hPHigh, hVHigh, hKdHigh]
  exact regroup_bytes hP hV hKp hKd hT

/-- Every field of the frame is the value of the command as it is sent. -/
theorem field_packMitCommand {cmd : MitCommand ℚ} {range : MitRange ℚ}
    (valid : ∀ field ∈ fields cmd range, field.low < field.high) :
    ∀ field ∈ fields cmd range,
      Bits.field (Bits.beNat (packMitCommand cmd range).toList) field.start field.bits =
        (floatToUInt field.value field.low field.high field.bits).toNat := by
  simp only [fields, List.forall_mem_cons] at valid
  obtain ⟨hP, hV, hKp, hKd, hT, -⟩ := valid
  have hVSmall := toNat_floatToUInt_lt hV (by omega : 12 ≤ 16) cmd.velocity
  have hKpSmall := toNat_floatToUInt_lt hKp (by omega : 12 ≤ 16) cmd.kp
  have hKdSmall := toNat_floatToUInt_lt hKd (by omega : 12 ≤ 16) cmd.kd
  have hTSmall := toNat_floatToUInt_lt hT (by omega : 12 ≤ 16) cmd.torque
  have hWord : Bits.beNat (packMitCommand cmd range).toList = _ :=
    beNat_bytes (floatToUInt cmd.position range.pMin range.pMax 16) hVSmall hKpSmall
      hKdSmall hTSmall
  have hPSmall := (floatToUInt cmd.position range.pMin range.pMax 16).toNat_lt
  rw [hWord]
  simp only [fields, List.forall_mem_cons, Bits.field]
  refine ⟨?_, ?_, ?_, ?_, ?_, List.forall_mem_nil _⟩ <;> omega

theorem cast_steps (bits : Nat) : ((steps bits : ℕ) : ℚ) = 2 ^ bits - 1 := by
  rw [steps, Nat.cast_sub Nat.one_le_two_pow, Nat.cast_pow, Nat.cast_ofNat, Nat.cast_one]

/-- The value that the source makes of a raw one. -/
theorem uIntToFloat_eq_value (raw : UInt16) (low high : ℚ) (bits : Nat) :
    Modules.GantryModule.uIntToFloat raw low high bits =
      Quantise.value low high (steps bits) raw.toNat := by
  rw [Quantise.value, Int.cast_natCast]
  rfl

/-- What a field stands for is within half a step of the clamped value. -/
theorem abs_dequantised_sub_le {low high : ℚ} (order : low < high) {bits : Nat} (small : bits ≤ 16)
    (positive : 0 < bits) (x : ℚ) :
    |((floatToUInt x low high bits).toNat : ℚ) * (high - low) / (2 ^ bits - 1) + low -
        clamp x low high| ≤ (high - low) / (2 * (2 ^ bits - 1)) := by
  have hError := Quantise.abs_value_code_sub_le order (steps_pos positive) (clamp x low high)
  rwa [← toNat_floatToUInt order small, Quantise.value, Int.cast_natCast, cast_steps] at hError

end Mit

theorem toList_payload (data : Payload) : data.toList = List.ofFn data.get := by
  apply List.ext_getElem
  · rw [Vector.length_toList, List.length_ofFn]
  · intro i hList hFn
    rw [List.getElem_ofFn, Vector.getElem_toList]
    rfl

/-- The first six bytes of a payload, as one number. -/
theorem beNat_take_six (data : Payload) :
    Bits.beNat (data.toList.take 6) =
      ((((((data.get 0).toNat * 256 + (data.get 1).toNat) * 256 + (data.get 2).toNat) * 256 +
        (data.get 3).toNat) * 256 + (data.get 4).toNat) * 256 + (data.get 5).toNat) := by
  have hTake : data.toList.take 6 =
      [data.get 0, data.get 1, data.get 2, data.get 3, data.get 4, data.get 5] := by
    rw [toList_payload]
    simp [List.ofFn_succ]
  rw [hTake]
  simp only [Bits.beNat, List.reverse_cons, List.reverse_nil, List.nil_append, List.cons_append,
    Bits.leNat_cons, Bits.leNat_nil]
  omega

namespace Cubemars

/-- The two bytes of the position, and the two and a half of velocity and torque. -/
theorem decodeFeedback_ok (data : Payload) {dlc : UInt8} (enough : 6 ≤ dlc) :
    ∃ feedback, decodeFeedback data dlc = .ok feedback ∧ feedback.id = data.get 0 ∧
      feedback.positionRaw.toNat = (data.get 1).toNat * 256 + (data.get 2).toNat ∧
      feedback.velocityRaw.toNat = (data.get 3).toNat * 16 + (data.get 4).toNat / 16 ∧
      feedback.torqueRaw.toNat = (data.get 4).toNat % 16 * 256 + (data.get 5).toNat := by
  have hShort : ¬dlc < 6 := by
    rw [UInt8.not_lt]
    exact enough
  have hNibble : (data.get 4 >>> 4).toUInt16.toNat = (data.get 4).toNat / 16 := by
    rw [UInt8.toNat_toUInt16, UInt8.toNat_shiftRight, Nat.shiftRight_eq_div_pow]
    rfl
  have hMask : (data.get 4 &&& 0x0f).toUInt16.toNat = (data.get 4).toNat % 16 := by
    have hFifteen : UInt8.toNat 0x0f = 2 ^ 4 - 1 := rfl
    rw [UInt8.toNat_toUInt16, UInt8.toNat_and, hFifteen, Nat.and_two_pow_sub_one_eq_mod]
  have hByte (i : Fin 8) : (data.get i).toUInt16.toNat < 256 := by
    rw [UInt8.toNat_toUInt16]
    exact (data.get i).toNat_lt
  have hPosition := @toNat_shiftLeft_or (data.get 1).toUInt16 (data.get 2).toUInt16 8 (by decide)
    (by have := hByte 1; omega) (hByte 2)
  have hVelocity := @toNat_shiftLeft_or (data.get 3).toUInt16 (data.get 4 >>> 4).toUInt16 4
    (by decide) (by have := hByte 3; omega)
    (by have := (data.get 4).toNat_lt; rw [hNibble]; omega)
  have hTorque := @toNat_shiftLeft_or (data.get 4 &&& 0x0f).toUInt16 (data.get 5).toUInt16 8
    (by decide) (by rw [hMask]; omega) (hByte 5)
  rw [UInt8.toNat_toUInt16, UInt8.toNat_toUInt16] at hPosition
  rw [UInt8.toNat_toUInt16, hNibble] at hVelocity
  rw [hMask, UInt8.toNat_toUInt16] at hTorque
  rw [decodeFeedback, if_neg hShort]
  exact ⟨_, rfl, rfl, hPosition, hVelocity, hTorque⟩

/-- A frame packed from four raw values is decoded into them. -/
theorem decodeFeedback_packed {data : Payload} {dlc : UInt8} (enough : 6 ≤ dlc)
    {feedback : CubemarsFeedback} (velocity : feedback.velocityRaw.toNat < 4096)
    (torque : feedback.torqueRaw.toNat < 4096)
    (packed : Bits.beNat (data.toList.take 6) =
      ((feedback.id.toNat * 2 ^ 16 + feedback.positionRaw.toNat) * 2 ^ 12 +
        feedback.velocityRaw.toNat) * 2 ^ 12 + feedback.torqueRaw.toNat) :
    decodeFeedback data dlc = .ok feedback := by
  obtain ⟨decoded, hDecode, hId, hPosition, hVelocity, hTorque⟩ := decodeFeedback_ok data enough
  have hBytes (i : Fin 8) : (data.get i).toNat < 256 := (data.get i).toNat_lt
  have hSent := feedback.positionRaw.toNat_lt
  have hFirst := hBytes 1
  have hSecond := hBytes 2
  have hThird := hBytes 3
  have hFourth := hBytes 4
  have hFifth := hBytes 5
  rw [beNat_take_six, ← hId] at packed
  have hSame : decoded = feedback := by
    cases decoded with
    | mk id position velocityRaw torqueRaw =>
        cases feedback with
        | mk id' position' velocity' torque' =>
            simp only at hPosition hVelocity hTorque packed velocity torque hSent
            have hIds : id = id' := UInt8.toNat_inj.mp (by omega)
            have hPositions : position = position' := UInt16.toNat_inj.mp (by omega)
            have hVelocities : velocityRaw = velocity' := UInt16.toNat_inj.mp (by omega)
            have hTorques : torqueRaw = torque' := UInt16.toNat_inj.mp (by omega)
            rw [hIds, hPositions, hVelocities, hTorques]
  rw [hDecode, hSame]

end Cubemars

/-- The frames of both motors read back as the five values sent, none in more than its
bits and each within half a step of the clamped command; a raw value scaled to any
range and quantised again is the raw value; and a feedback frame packed from an id, a
position of 16 bits, and a velocity and a torque of 12 gives them back. -/
theorem mit_frames_read_back :
    (∀ (cmd : Mit.MitCommand ℚ) (range : Mit.MitRange ℚ),
      (∀ field ∈ Mit.fields cmd range, field.low < field.high) →
      ∀ frame ∈ [Dm.packMitCommand cmd range, Cubemars.packMitCommand cmd range],
      ∀ field ∈ Mit.fields cmd range,
        let code := Bits.field (Bits.beNat frame.toList) field.start field.bits
        code = (Mit.floatToUInt field.value field.low field.high field.bits).toNat ∧
          code < 2 ^ field.bits ∧
          |(code : ℚ) * (field.high - field.low) / (2 ^ field.bits - 1) + field.low -
            clamp field.value field.low field.high| ≤
            (field.high - field.low) / (2 * (2 ^ field.bits - 1))) ∧
    (∀ (low high : ℚ) (raw : UInt16), low < high → ∀ bits ∈ [16, 12], raw.toNat < 2 ^ bits →
      Mit.floatToUInt (Modules.GantryModule.uIntToFloat raw low high bits) low high bits = raw) ∧
    ∀ (data : Payload) (dlc : UInt8) (feedback : Cubemars.CubemarsFeedback), 6 ≤ dlc →
      feedback.velocityRaw.toNat < 2 ^ 12 → feedback.torqueRaw.toNat < 2 ^ 12 →
      Bits.beNat (data.toList.take 6) =
        ((feedback.id.toNat * 2 ^ 16 + feedback.positionRaw.toNat) * 2 ^ 12 +
          feedback.velocityRaw.toNat) * 2 ^ 12 + feedback.torqueRaw.toNat →
      Cubemars.decodeFeedback data dlc = .ok feedback := by
  refine ⟨?_, ?_, ?_⟩
  · intro cmd range hValid frame hFrame field hField
    have hPack : frame = Mit.packMitCommand cmd range := by
      rcases List.mem_cons.mp hFrame with rfl | hRest
      · rfl
      · exact List.mem_singleton.mp hRest
    have hBits : field.bits ≤ 16 ∧ 0 < field.bits := by
      revert field
      simp [Mit.fields]
    have hCode := Mit.field_packMitCommand hValid field hField
    simp only [hPack, hCode]
    exact ⟨trivial, Mit.toNat_floatToUInt_lt (hValid field hField) hBits.1 field.value,
      Mit.abs_dequantised_sub_le (hValid field hField) hBits.1 hBits.2 field.value⟩
  · intro low high raw hOrder bits hMember hRange
    have hBits : bits ≤ 16 ∧ 0 < bits := by
      simp only [List.mem_cons, List.not_mem_nil, or_false] at hMember
      omega
    rw [Mit.uIntToFloat_eq_value]
    exact Mit.floatToUInt_value hOrder hBits.1 hBits.2 hRange
  · intro data dlc feedback hEnough hVelocity hTorque hPacked
    exact Cubemars.decodeFeedback_packed hEnough hVelocity hTorque hPacked

end RmTest.Protocols
