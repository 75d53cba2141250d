import RmTest.Library.Bits
import RmTest.Protocols.RemoteInput

/-! The bit layouts of the two remote controls. An array of bytes is read as a little
endian number, of which every channel and every switch is a field. -/
namespace RmTest.Protocols

open FloatModel

/-- An 11-bit field of a frame. -/
def channelAt (data : List UInt8) (start : Nat) : Nat := Bits.field (Bits.leNat data) start 11

/-- A 2-bit field of a frame. -/
def switchAt (data : List UInt8) (start : Nat) : Nat := Bits.field (Bits.leNat data) start 2

theorem channelAt_lt (data : List UInt8) (start : Nat) : channelAt data start < 2048 :=
  Bits.field_lt _ _ _

-- A channel starts within a byte at bit 0, 1, 3 or 6.
section Fields

variable (data : List UInt8) (index : Nat)

theorem channelAt_zero :
    channelAt data (8 * index) =
      ((data.getD index 0).toNat ||| (data.getD (index + 1) 0).toNat <<< 8) &&& 0x7ff :=
  Bits.field_leNat_two data index 0 11 (by omega) (by omega)

theorem channelAt_one :
    channelAt data (8 * index + 1) =
      ((data.getD index 0).toNat >>> 1 ||| (data.getD (index + 1) 0).toNat <<< 7) &&& 0x7ff :=
  Bits.field_leNat_two data index 1 11 (by omega) (by omega)

theorem channelAt_three :
    channelAt data (8 * index + 3) =
      ((data.getD index 0).toNat >>> 3 ||| (data.getD (index + 1) 0).toNat <<< 5) &&& 0x7ff :=
  Bits.field_leNat_two data index 3 11 (by omega) (by omega)

theorem channelAt_six :
    channelAt data (8 * index + 6) =
      ((data.getD index 0).toNat >>> 6 ||| (data.getD (index + 1) 0).toNat <<< 2 |||
        (data.getD (index + 2) 0).toNat <<< 10) &&& 0x7ff :=
  Bits.field_leNat_three data index 6 11 (by omega) (by omega)

theorem toNat_switch_low :
    ((data.getD index 0 >>> 4) &&& 0x03).toNat = switchAt data (8 * index + 4) := by
  rw [switchAt, Bits.field_leNat_one data index 4 2 (by omega)]
  rfl

theorem toNat_switch_high :
    (((data.getD index 0 >>> 4) &&& 0x0c) >>> 2).toNat = switchAt data (8 * index + 6) := by
  have hShift : (((data.getD index 0).toNat >>> 4 &&& 0x0c) >>> 2) =
      (data.getD index 0).toNat >>> 6 &&& 0x03 := by
    rw [Nat.shiftRight_and_distrib, ← Nat.shiftRight_add]
    rfl
  rw [switchAt, Bits.field_leNat_one data index 6 2 (by omega)]
  exact hShift

end Fields

namespace Dr16

/-- At most 660 from the middle. -/
def InRange (channel : Nat) : Prop := 364 ≤ channel ∧ channel ≤ 1684

instance (channel : Nat) : Decidable (InRange channel) := inferInstanceAs (Decidable (_ ∧ _))

/-- The fields that a frame must have. -/
structure Accepts (data : List UInt8) : Prop where
  channels : ∀ start ∈ [0, 11, 22, 33, 128], InRange (channelAt data start)
  left_switch : switchAt data 46 ≠ 0
  right_switch : switchAt data 44 ≠ 0

/-- The frame that the fields make. -/
def layoutFrame (data : List UInt8) : Dr16Frame ℚ where
  rightStickX := ((channelAt data 0 : ℚ) - 1024) / 660
  rightStickY := ((channelAt data 11 : ℚ) - 1024) / 660
  leftStickX := ((channelAt data 22 : ℚ) - 1024) / 660
  leftStickY := ((channelAt data 33 : ℚ) - 1024) / 660
  wheel := -((channelAt data 128 : ℚ) - 1024) / 660
  leftSwitch := UInt8.ofNat (switchAt data 46)
  rightSwitch := UInt8.ofNat (switchAt data 44)
  chassisEnable := switchAt data 44 = 1

/-- The call with the caller's frame: what it returns, and the frame after it. -/
def decodeInto {F : Type} [FloatModel F] (out : Dr16Frame F) (data : List UInt8) :
    Bool × Dr16Frame F :=
  match decodeFrame data with
  | some frame => (true, frame)
  | none => (false, out)

theorem absI16_channel (channel : Nat) :
    absI16 ((channel : Int) - 1024) > 660 ↔ ¬InRange channel := by
  unfold absI16 InRange
  split <;> omega

theorem absI16_neg_channel (channel : Nat) :
    absI16 (-((channel : Int) - 1024)) > 660 ↔ ¬InRange channel := by
  unfold absI16 InRange
  split <;> omega

/-- The wheel is subtracted in unsigned arithmetic and narrowed to the difference. -/
theorem toInt_wheel {channel : Nat} (range : channel < 2048) :
    (UInt32.ofNat channel - 1024).toUInt16.toInt16.toInt = (channel : Int) - 1024 := by
  have hNat : (UInt32.ofNat channel - 1024).toUInt16.toNat = (channel + 64512) % 65536 := by
    rw [UInt32.toNat_toUInt16, UInt32.toNat_sub, UInt32.toNat_ofNat']
    simp only [UInt32.reduceToNat]
    omega
  rw [← Int16.toInt_toBitVec, UInt16.toBitVec_toInt16, BitVec.toInt_eq_toNat_bmod,
    UInt16.toNat_toBitVec, hNat, Int.bmod_def]
  omega

/-- A switch has three valid positions, and two bits give one of them or zero. -/
theorem switch_valid_iff {byte : UInt8} {position : Nat} (value : byte.toNat = position)
    (small : position < 4) : (byte = 1 ∨ byte = 2 ∨ byte = 3) ↔ position ≠ 0 := by
  simp only [← UInt8.toNat_inj, value, UInt8.reduceToNat]
  omega

theorem normalize_channel (channel : Nat) :
    normalize ((channel : Int) - 1024) = ((channel : ℚ) - 1024) / 660 := by
  simp [normalize]

theorem normalize_neg_channel (channel : Nat) :
    normalize (-((channel : Int) - 1024)) = -((channel : ℚ) - 1024) / 660 := by
  simp [normalize]

/-- The decoder accepts exactly the frames whose fields are in range. -/
theorem decodeFrame_fields (data : List UInt8) (long : ¬data.length < kFrameLength) :
    (Accepts data → decodeFrame data = some (layoutFrame data)) ∧
      (¬Accepts data → decodeFrame (F := ℚ) data = none) := by
  have hZero := channelAt_zero data 0
  have hFirst := channelAt_three data 1
  have hSecond := channelAt_six data 2
  have hThird := channelAt_one data 4
  have hWheel := channelAt_zero data 16
  have hLeft := toNat_switch_high data 5
  have hRight := toNat_switch_low data 5
  have hLeftValid := switch_valid_iff hLeft (Bits.field_lt _ _ _)
  have hRightValid := switch_valid_iff hRight (Bits.field_lt _ _ _)
  simp only [Nat.reduceMul, Nat.reduceAdd] at hZero hFirst hSecond hThird hWheel hLeft hRight
  simp only [Nat.reduceMul, Nat.reduceAdd] at hLeftValid hRightValid
  simp only [decodeFrame, if_neg long, ← hZero, ← hFirst, ← hSecond, ← hThird, ← hWheel,
    toInt_wheel (channelAt_lt data 128), absI16_channel, absI16_neg_channel, hLeftValid,
    hRightValid, normalize_channel, normalize_neg_channel]
  constructor
  · rintro ⟨hChannels, hLeftSwitch, hRightSwitch⟩
    have hInside : ¬(¬InRange (channelAt data 0) ∨ ¬InRange (channelAt data 11) ∨
        ¬InRange (channelAt data 22) ∨ ¬InRange (channelAt data 33) ∨
        ¬InRange (channelAt data 128)) := by
      simp only [List.forall_mem_cons] at hChannels
      obtain ⟨hX, hY, hLeftX, hLeftY, hTurn, -⟩ := hChannels
      simp only [hX, hY, hLeftX, hLeftY, hTurn, not_true_eq_false, or_self, not_false_eq_true]
    have hEnable : (data.getD 5 0 >>> 4 &&& 3 == 1) = decide (switchAt data 44 = 1) := by
      rw [← hRight, beq_eq_decide]
      simp only [← UInt8.toNat_inj, UInt8.reduceToNat]
    rw [if_neg hInside, if_neg (not_not.mpr hLeftSwitch), if_neg (not_not.mpr hRightSwitch),
      layoutFrame, hEnable, ← hLeft, ← hRight, UInt8.ofNat_toNat, UInt8.ofNat_toNat]
  · intro hRejects
    split_ifs with hOutside hLeftSwitch hRightSwitch
    · rfl
    · refine hRejects ⟨?_, hLeftSwitch, hRightSwitch⟩
      simp only [not_or, not_not] at hOutside
      obtain ⟨hX, hY, hLeftX, hLeftY, hTurn⟩ := hOutside
      simp only [List.forall_mem_cons]
      exact ⟨hX, hY, hLeftX, hLeftY, hTurn, List.forall_mem_nil _⟩
    · rfl
    · rfl

/-- A channel in range is at most one from the middle. -/
theorem abs_channel_le {channel : Nat} (range : InRange channel) :
    |((channel : ℚ) - 1024) / 660| ≤ 1 := by
  have hLow : (364 : ℚ) ≤ channel := by exact_mod_cast range.1
  have hHigh : (channel : ℚ) ≤ 1684 := by exact_mod_cast range.2
  rw [abs_le, le_div_iff₀ (by norm_num), div_le_iff₀ (by norm_num)]
  constructor <;> linarith

/-- The sticks and the wheel of a frame. -/
def Dr16Frame.axes {F : Type} (frame : Dr16Frame F) : List F :=
  [frame.rightStickX, frame.rightStickY, frame.leftStickX, frame.leftStickY, frame.wheel]

theorem axes_layoutFrame {data : List UInt8} (accepts : Accepts data) :
    ∀ axis ∈ (layoutFrame data).axes, |axis| ≤ 1 := by
  have hChannel (start : Nat) (hStart : start ∈ [0, 11, 22, 33, 128]) :=
    abs_channel_le (accepts.channels start hStart)
  simp only [List.forall_mem_cons] at hChannel
  obtain ⟨hZero, hFirst, hSecond, hThird, hWheel, -⟩ := hChannel
  rw [← abs_neg, ← neg_div] at hWheel
  simp only [Dr16Frame.axes, layoutFrame, List.forall_mem_cons]
  exact ⟨hZero, hFirst, hSecond, hThird, hWheel, List.forall_mem_nil _⟩

end Dr16

namespace Vt03

/-- A channel scaled and cut off short of one. -/
def axis (channel : Nat) : ℚ := max (-(99 / 100)) (min (99 / 100) (((channel : ℚ) - 364) / 1320))

/-- The frame that the fields make. -/
def layoutFrame (data : List UInt8) : Vt03Frame ℚ where
  rightX := axis (channelAt data 16)
  rightY := axis (channelAt data 27)
  leftX := axis (channelAt data 38)
  leftY := axis (channelAt data 49)
  wheel := axis (channelAt data 65)
  modeSwitch := UInt8.ofNat (switchAt data 60)
  chassisEnable := switchAt data 60 ≠ 1

theorem clampNormalized_rat (x : ℚ) :
    clampNormalized x = max (-(99 / 100)) (min (99 / 100) x) := by
  simp only [clampNormalized, lt_rat, lit_rat, decide_eq_true_eq]
  split_ifs with hHigh hLow
  · rw [min_eq_left hHigh.le, max_eq_right (by norm_num)]
  · rw [min_eq_right (not_lt.mp hHigh), max_eq_left hLow.le]
  · rw [min_eq_right (not_lt.mp hHigh), max_eq_right (not_lt.mp hLow)]

theorem decodeAxis_channel (channel : Nat) : decodeAxis channel = axis channel :=
  clampNormalized_rat _

theorem decodeRemoteFrame_fields {data : List UInt8} (long : kRemoteFrameLength ≤ data.length)
    (first : data.getD 0 0 = 0xa9) (second : data.getD 1 0 = 0x53) :
    decodeRemoteFrame data = some (layoutFrame data) := by
  have hLength : ¬data.length < kRemoteFrameLength := Nat.not_lt.mpr long
  have hHeader : ¬(data.getD 0 0 ≠ 0xa9 ∨ data.getD 1 0 ≠ 0x53) := by
    rw [first, second]
    simp
  have hZero := channelAt_zero data 2
  have hFirst := channelAt_three data 3
  have hSecond := channelAt_six data 4
  have hThird := channelAt_one data 6
  have hWheel := channelAt_one data 8
  have hMode := toNat_switch_low data 7
  simp only [Nat.reduceMul, Nat.reduceAdd] at hZero hFirst hSecond hThird hWheel hMode
  have hEnable : (data.getD 7 0 >>> 4 &&& 3 != 1) = decide (switchAt data 60 ≠ 1) := by
    rw [← hMode, bne, beq_eq_decide, ← decide_not]
    simp only [← UInt8.toNat_inj, UInt8.reduceToNat]
  simp only [decodeRemoteFrame, if_neg hLength, if_neg hHeader, ← hZero, ← hFirst, ← hSecond,
    ← hThird, ← hWheel, decodeAxis_channel]
  rw [hEnable, layoutFrame, ← hMode, UInt8.ofNat_toNat]

end Vt03

/-- DR16 arrays are accepted by their fields, and an accepted one gives the frame that
its fields make, with every axis within one, while a rejected one leaves the caller's
frame alone. VT03 arrays behind their two header bytes give the frame that their fields
make. -/
theorem remote_frames_by_fields :
    (∀ (bytes : Vector UInt8 18) (out : Dr16.Dr16Frame ℚ),
      ((Dr16.decodeInto out bytes.toList).1 = true ↔ Dr16.Accepts bytes.toList) ∧
      (Dr16.Accepts bytes.toList →
        (Dr16.decodeInto out bytes.toList).2 = Dr16.layoutFrame bytes.toList ∧
          ∀ axis ∈ (Dr16.layoutFrame bytes.toList).axes, |axis| ≤ 1) ∧
      (¬Dr16.Accepts bytes.toList → (Dr16.decodeInto out bytes.toList).2 = out)) ∧
    ∀ data : List UInt8, 21 ≤ data.length → data.getD 0 0 = 0xa9 → data.getD 1 0 = 0x53 →
      Vt03.decodeRemoteFrame data = some (Vt03.layoutFrame data) := by
  constructor
  · intro bytes out
    have hLong : ¬bytes.toList.length < Dr16.kFrameLength := by
      rw [Vector.length_toList, Dr16.kFrameLength]
      omega
    obtain ⟨hAccepted, hRejected⟩ := Dr16.decodeFrame_fields bytes.toList hLong
    by_cases hAccepts : Dr16.Accepts bytes.toList
    · have hInto : Dr16.decodeInto out bytes.toList = (true, Dr16.layoutFrame bytes.toList) := by
        rw [Dr16.decodeInto, hAccepted hAccepts]
      rw [hInto]
      exact ⟨iff_of_true rfl hAccepts, fun _ => ⟨rfl, Dr16.axes_layoutFrame hAccepts⟩,
        fun h => absurd hAccepts h⟩
    · have hInto : Dr16.decodeInto out bytes.toList = (false, out) := by
        rw [Dr16.decodeInto, hRejected hAccepts]
      rw [hInto]
      exact ⟨iff_of_false Bool.false_ne_true hAccepts, fun h => absurd h hAccepts, fun _ => rfl⟩
  · intro data hLong hFirst hSecond
    exact Vt03.decodeRemoteFrame_fields hLong hFirst hSecond

end RmTest.Protocols
