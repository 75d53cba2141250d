import RmTest.Library.FloatModel
import RmTest.Library.StreamParser

/-! The frame decoders of the remote controls. A decoder is given the bytes from
the frame's first byte on, and reads them only after comparing their number with
the frame length. Shifts and masks are done in `int`, where no operand
overflows. -/
namespace RmTest.Protocols

open FloatModel

variable {F : Type}

/-- `memcpy` of four bytes into a `float`, least significant byte first. -/
def copyFloat [FloatSource F] (data : List UInt8) : F :=
  FloatSource.ofBits <|
    (data.getD 0 0).toUInt32 ||| (data.getD 1 0).toUInt32 <<< 8 |||
      (data.getD 2 0).toUInt32 <<< 16 ||| (data.getD 3 0).toUInt32 <<< 24

/-- The same where the array may end before. -/
def readFloat [FloatSource F] (cells : List UInt8) (i : Nat) : Option F :=
  if i + 4 ≤ cells.length then some (copyFloat (cells.drop i)) else none

namespace Dr16

def kFrameLength : Nat := 18

structure Dr16Frame (F : Type) where
  rightStickX : F
  rightStickY : F
  leftStickX : F
  leftStickY : F
  wheel : F
  leftSwitch : UInt8
  rightSwitch : UInt8
  chassisEnable : Bool
  deriving DecidableEq

def absI16 (value : Int) : Int := if value < 0 then -value else value

/-- `static_cast<float>(channel) / kNormalizeScale`. -/
def normalize [FloatModel F] (channel : Int) : F := lit channel / lit 660

/-- `dr16::DecodeFrame`: five 11-bit channels around 1024 and two switches. The
wheel is the only channel subtracted in unsigned arithmetic and narrowed after. -/
def decodeFrame [FloatModel F] (data : List UInt8) : Option (Dr16Frame F) :=
  if data.length < kFrameLength then none
  else
    let byte := fun i => (data.getD i 0).toNat
    let ch0 : Int := ((byte 0 ||| byte 1 <<< 8) &&& 0x7ff : Nat) - 1024
    let ch1 : Int := ((byte 1 >>> 3 ||| byte 2 <<< 5) &&& 0x7ff : Nat) - 1024
    let ch2 : Int := ((byte 2 >>> 6 ||| byte 3 <<< 2 ||| byte 4 <<< 10) &&& 0x7ff : Nat) - 1024
    let ch3 : Int := ((byte 4 >>> 1 ||| byte 5 <<< 7) &&& 0x7ff : Nat) - 1024
    let sw1 : UInt8 := ((data.getD 5 0 >>> 4) &&& 0x0c) >>> 2
    let sw2 : UInt8 := (data.getD 5 0 >>> 4) &&& 0x03
    let wheelRaw : UInt32 := UInt32.ofNat ((byte 16 ||| byte 17 <<< 8) &&& 0x7ff) - 1024
    let wheel : Int := -wheelRaw.toUInt16.toInt16.toInt
    if absI16 ch0 > 660 ∨ absI16 ch1 > 660 ∨ absI16 ch2 > 660 ∨ absI16 ch3 > 660 ∨
        absI16 wheel > 660 then none
    else if ¬(sw1 = 1 ∨ sw1 = 2 ∨ sw1 = 3) then none
    else if ¬(sw2 = 1 ∨ sw2 = 2 ∨ sw2 = 3) then none
    else
      some
        { rightStickX := normalize ch0
          rightStickY := normalize ch1
          leftStickX := normalize ch2
          leftStickY := normalize ch3
          wheel := normalize wheel
          leftSwitch := sw1
          rightSwitch := sw2
          chassisEnable := sw2 == 1 }

theorem decodeFrame_of_short [FloatModel F] {data : List UInt8}
    (short : data.length < kFrameLength) : decodeFrame (F := F) data = none := if_pos short

/-- Only the first `kFrameLength` bytes count. -/
theorem decodeFrame_take [FloatModel F] (data : List UInt8) :
    decodeFrame (F := F) (data.take kFrameLength) = decodeFrame data := by
  have hByte (i : Nat) (h : i < 18) : (data.take 18).getD i 0 = data.getD i 0 := by
    simp [List.getD_eq_getElem?_getD, h]
  have hShort : (data.take 18).length < 18 ↔ data.length < 18 := by simp
  by_cases hLong : data.length < 18
  · exact (decodeFrame_of_short (hShort.mpr hLong)).trans (decodeFrame_of_short hLong).symm
  · simp only [decodeFrame, kFrameLength, hShort, hLong, if_false, hByte 0, hByte 1, hByte 2,
      hByte 3, hByte 4, hByte 5, hByte 16, hByte 17, Nat.reduceLT]

theorem absI16_of_le {channel : Nat} (h : channel ≤ 363) : 660 < absI16 (channel - 1024) := by
  unfold absI16
  split <;> omega

/-- The switch bits of a byte below `P` are not two valid positions. -/
theorem switches_of_lt {byte : UInt8} (h : byte < 0x50) :
    ¬(((byte >>> 4) &&& 0x0c) >>> 2 = 1 ∨ ((byte >>> 4) &&& 0x0c) >>> 2 = 2 ∨
        ((byte >>> 4) &&& 0x0c) >>> 2 = 3) ∨
      ¬((byte >>> 4) &&& 0x03 = 1 ∨ (byte >>> 4) &&& 0x03 = 2 ∨ (byte >>> 4) &&& 0x03 = 3) := by
  have hAll : ∀ n : Fin 0x50, ∀ byte, byte = UInt8.ofNat n.val →
      ¬(((byte >>> 4) &&& 0x0c) >>> 2 = 1 ∨ ((byte >>> 4) &&& 0x0c) >>> 2 = 2 ∨
          ((byte >>> 4) &&& 0x0c) >>> 2 = 3) ∨
        ¬((byte >>> 4) &&& 0x03 = 1 ∨ (byte >>> 4) &&& 0x03 = 2 ∨ (byte >>> 4) &&& 0x03 = 3) := by
    simp only [forall_eq]
    decide +kernel
  exact hAll ⟨byte.toNat, UInt8.lt_iff_toNat_lt.mp h⟩ byte (UInt8.ofNat_toNat).symm

theorem decodeFrame_of_switches [FloatModel F] {data : List UInt8} (h : data.getD 5 0 < 0x50) :
    decodeFrame (F := F) data = none := by
  have hSwitches := switches_of_lt h
  simp only [decodeFrame]
  rcases hSwitches with hFirst | hSecond
  · rw [if_pos hFirst, ite_self, ite_self]
  · rw [if_pos hSecond, ite_self, ite_self, ite_self]

/-- An even fifth byte behind a byte up to `Z` puts the third channel out of
range. -/
theorem decodeFrame_of_channel [FloatModel F] {data : List UInt8}
    (even : (data.getD 4 0).toNat % 2 = 0) (low : (data.getD 3 0).toNat ≤ 0x5a) :
    decodeFrame (F := F) data = none := by
  have hMask : (0x7ff : Nat) = 2 ^ 11 - 1 := rfl
  have hHigh : (data.getD 4 0).toNat <<< 10 &&& 0x7ff = 0 := by
    rw [hMask, Nat.and_two_pow_sub_one_eq_mod, Nat.shiftLeft_eq]
    omega
  have hLow : (data.getD 2 0).toNat >>> 6 ||| (data.getD 3 0).toNat <<< 2 ≤ 363 := by
    have hByte := (data.getD 2 0).toNat_lt
    have hTop : (data.getD 2 0).toNat >>> 6 < 2 ^ 2 := by
      rw [Nat.shiftRight_eq_div_pow]
      omega
    rw [Nat.or_comm, ← Nat.shiftLeft_add_eq_or_of_lt hTop, Nat.shiftLeft_eq]
    omega
  have hChannel : ((data.getD 2 0).toNat >>> 6 ||| (data.getD 3 0).toNat <<< 2 |||
      (data.getD 4 0).toNat <<< 10) &&& 0x7ff ≤ 363 := by
    rw [Nat.and_or_distrib_right, hHigh, Nat.or_zero]
    exact Nat.le_trans Nat.and_le_left hLow
  have hRange := absI16_of_le hChannel
  simp only [decodeFrame]
  rw [if_pos (Or.inr (Or.inr (Or.inl hRange))), ite_self]

/-- A frame that the decoder accepts, with what it decodes to. -/
structure AcceptedFrame (F : Type) [FloatModel F] where
  bytes : List UInt8
  decoded : Dr16Frame F
  length_eq : bytes.length = kFrameLength
  accepts : decodeFrame bytes = some decoded

/-- The bytes that a sequence of accepted frames puts on the line. -/
def AcceptedFrame.streamOf [FloatModel F] (frames : List (AcceptedFrame F)) : List UInt8 :=
  (frames.map AcceptedFrame.bytes).flatten

/-- The decoder slid over a byte stream, one byte at a time while it rejects. -/
def slidingParser (F : Type) [FloatModel F] : StreamParser UInt8 (Dr16Frame F) :=
  StreamParser.window kFrameLength (by decide) decodeFrame

end Dr16

namespace Vt03

def kRemoteFrameLength : Nat := 21
def kCustomFrameLength : Nat := 39
def kCustomControllerDataId : Nat := 0x0302

structure Vt03Frame (F : Type) where
  rightX : F
  rightY : F
  leftX : F
  leftY : F
  wheel : F
  modeSwitch : UInt8
  chassisEnable : Bool

structure Vt03CustomFrame (F : Type) where
  joystickX : F
  joystickY : F
  joystickZ : F
  chassisEnable : Bool

def clampNormalized [FloatModel F] (x : F) : F :=
  if lt (lit (99 / 100)) x then lit (99 / 100)
  else if lt x (-lit (99 / 100)) then -lit (99 / 100)
  else x

def decodeAxis [FloatModel F] (raw : Nat) : F :=
  clampNormalized ((lit raw - lit 364) / lit 1320)

/-- `vt03::DecodeRemoteFrame`. -/
def decodeRemoteFrame [FloatModel F] (data : List UInt8) : Option (Vt03Frame F) :=
  if data.length < kRemoteFrameLength then none
  else if data.getD 0 0 ≠ 0xa9 ∨ data.getD 1 0 ≠ 0x53 then none
  else
    let byte := fun i => (data.getD i 0).toNat
    let ch0 := (byte 2 ||| byte 3 <<< 8) &&& 0x7ff
    let ch1 := (byte 3 >>> 3 ||| byte 4 <<< 5) &&& 0x7ff
    let ch2 := (byte 4 >>> 6 ||| byte 5 <<< 2 ||| byte 6 <<< 10) &&& 0x7ff
    let ch3 := (byte 6 >>> 1 ||| byte 7 <<< 7) &&& 0x7ff
    let modeSwitch : UInt8 := (data.getD 7 0 >>> 4) &&& 0x03
    let wheelRaw := (byte 8 >>> 1 ||| byte 9 <<< 7) &&& 0x7ff
    some
      { rightX := decodeAxis ch0
        rightY := decodeAxis ch1
        leftX := decodeAxis ch2
        leftY := decodeAxis ch3
        wheel := decodeAxis wheelRaw
        modeSwitch := modeSwitch
        chassisEnable := modeSwitch != 1 }

/-- `vt03::DecodeCustomFrame`. -/
def decodeCustomFrame [FloatSource F] (data : List UInt8) : Option (Vt03CustomFrame F) :=
  if data.length < kCustomFrameLength then none
  else if data.getD 0 0 ≠ 0xa5 then none
  else if (data.getD 5 0).toNat ||| (data.getD 6 0).toNat <<< 8 ≠ kCustomControllerDataId then none
  else
    some
      { joystickX := copyFloat (data.drop 24)
        joystickY := copyFloat (data.drop 28)
        joystickZ := copyFloat (data.drop 32)
        chassisEnable := true }

end Vt03

end RmTest.Protocols
