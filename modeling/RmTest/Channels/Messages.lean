import Mathlib.Algebra.Group.Defs

/-! The messages carried by the zbus channels and the raw-frame queues, field by
field, and the error codes. `float` fields are generic. The zero of a message type is the message
that value initialization (`= {}`) leaves: every number zero and every
enumerator the one with value zero. -/
namespace RmTest.Channels

variable {F : Type}

inductive RemoteInputSource where
  | kRemoteInputUnknown
  | kRemoteInputDr16
  | kRemoteInputVt03
  deriving DecidableEq

structure RemoteInputMessage (F : Type) where
  source : RemoteInputSource
  chassisEnable : UInt8
  axisLx : F
  axisLy : F
  axisWheel : F
  axisJx : F
  axisJy : F
  axisJz : F
  sequence : UInt32
  deriving DecidableEq

instance [Zero F] : Zero (RemoteInputMessage F) :=
  ⟨⟨.kRemoteInputUnknown, 0, 0, 0, 0, 0, 0, 0, 0⟩⟩

/-- The message up to its sequence number. -/
def RemoteInputMessage.unsequenced (message : RemoteInputMessage F) : RemoteInputMessage F :=
  { message with sequence := 0 }

inductive ChassisInputSource where
  | kInputSourceUnknown
  | kInputSourceDr16
  | kInputSourceVt03
  deriving DecidableEq

structure ChassisCommandMessage (F : Type) where
  targetVx : F
  targetVy : F
  targetWz : F
  source : ChassisInputSource
  sequence : UInt32
  deriving DecidableEq

instance [Zero F] : Zero (ChassisCommandMessage F) := ⟨⟨0, 0, 0, .kInputSourceUnknown, 0⟩⟩

structure ArmCommandMessage (F : Type) where
  clawDelta : F
  elbowPitchDelta : F
  elbowYawDelta : F
  wristTwistDelta : F
  wristFlipDelta : F
  source : ChassisInputSource
  enable : UInt8
  sequence : UInt32
  deriving DecidableEq

instance [Zero F] : Zero (ArmCommandMessage F) :=
  ⟨⟨0, 0, 0, 0, 0, .kInputSourceUnknown, 0, 0⟩⟩

structure GimbalCommandMessage (F : Type) where
  yawDeltaDeg : F
  pitchDeltaDeg : F
  source : ChassisInputSource
  enable : UInt8
  sequence : UInt32
  deriving DecidableEq

instance [Zero F] : Zero (GimbalCommandMessage F) := ⟨⟨0, 0, .kInputSourceUnknown, 0, 0⟩⟩

structure GantryCommandMessage (F : Type) where
  xDelta : F
  yDelta : F
  zDelta : F
  source : ChassisInputSource
  enable : UInt8
  sequence : UInt32
  deriving DecidableEq

instance [Zero F] : Zero (GantryCommandMessage F) := ⟨⟨0, 0, 0, .kInputSourceUnknown, 0, 0⟩⟩

structure ChassisStateMessage (F : Type) where
  wheel1TargetOmega : F
  wheel2TargetOmega : F
  wheel3TargetOmega : F
  wheel4TargetOmega : F
  sequence : UInt32
  deriving DecidableEq

instance [Zero F] : Zero (ChassisStateMessage F) := ⟨⟨0, 0, 0, 0, 0⟩⟩

structure ArmStateMessage (F : Type) where
  clawVirtualAngle : F
  elbowPitchVirtualAngle : F
  elbowYawVirtualAngle : F
  wristLeftVirtualAngle : F
  wristRightVirtualAngle : F
  sequence : UInt32
  deriving DecidableEq

instance [Zero F] : Zero (ArmStateMessage F) := ⟨⟨0, 0, 0, 0, 0, 0⟩⟩

structure GimbalStateMessage (F : Type) where
  yawAngleDeg : F
  pitchAngleDeg : F
  servoReady : UInt8
  sequence : UInt32
  deriving DecidableEq

structure MotorFeedbackMessage where
  bus : UInt8
  canId : UInt16
  encoder : UInt16
  omega : Int16
  current : Int16
  temperature : UInt8
  sequence : UInt32
  deriving DecidableEq

instance : Zero MotorFeedbackMessage := ⟨⟨0, 0, 0, 0, 0, 0, 0⟩⟩

structure RefereeStateMessage (F : Type) where
  currentHp : UInt16
  maxHp : UInt16
  chassisPowerLimit : UInt16
  gameType : UInt8
  gameProgress : UInt8
  stageRemainTime : UInt16
  bulletType : UInt8
  launchingFrequency : UInt8
  initialSpeed : F
  gimbalPowerOn : UInt8
  sequence : UInt32
  deriving DecidableEq

instance [Zero F] : Zero (RefereeStateMessage F) := ⟨⟨0, 0, 0, 0, 0, 0, 0, 0, 0, 0, 0⟩⟩

/-- A zbus channel holds the last published message, or the initial one. -/
structure ZbusChan (Message : Type) where
  message : Message

/-- `zbus_chan_read` without waiting: it fails while the channel is locked, and
otherwise returns the message, whether or not it was read before. -/
def ZbusChan.read {Message : Type} (chan : ZbusChan Message) (locked : Bool) : Option Message :=
  if locked then none else some chan.message

/-- `kUartRawChunkSize`. -/
def kUartRawChunkSize : Nat := 32

/-- A chunk of received bytes, of which the first `len` are meant. The producers
never announce more than the array holds. -/
structure UartRawFrameMessage where
  len : UInt8
  data : Vector UInt8 kUartRawChunkSize
  len_le : len.toNat ≤ kUartRawChunkSize

namespace UartRawFrameMessage

def bytes (frame : UartRawFrameMessage) : List UInt8 := frame.data.toList.take frame.len.toNat

@[simp] theorem length_bytes (frame : UartRawFrameMessage) :
    frame.bytes.length = frame.len.toNat := by
  simp [bytes, frame.len_le]

/-- The chunk that carries the given bytes. -/
def ofBytes (bytes : List UInt8) (h : bytes.length ≤ kUartRawChunkSize) :
    UartRawFrameMessage where
  len := UInt8.ofNat bytes.length
  data := Vector.ofFn fun i => bytes.getD i.val 0
  len_le := by
    rw [UInt8.toNat_ofNat', Nat.mod_eq_of_lt (Nat.lt_of_le_of_lt h (by decide))]
    exact h

@[simp] theorem bytes_ofBytes (bytes : List UInt8) (h : bytes.length ≤ kUartRawChunkSize) :
    (ofBytes bytes h).bytes = bytes := by
  have hSize : bytes.length % 256 = bytes.length :=
    Nat.mod_eq_of_lt (Nat.lt_of_le_of_lt h (by decide))
  apply List.ext_getElem?
  intro i
  by_cases hIndex : i < bytes.length
  · have hCell : i < kUartRawChunkSize := Nat.lt_of_lt_of_le hIndex h
    simp [UartRawFrameMessage.bytes, ofBytes, hSize, hIndex, hCell]
  · have hLength : (ofBytes bytes h).bytes.length ≤ i := by
      rw [length_bytes, ofBytes, UInt8.toNat_ofNat', hSize]
      exact Nat.le_of_not_lt hIndex
    rw [List.getElem?_eq_none hLength, List.getElem?_eq_none (Nat.le_of_not_lt hIndex)]

/-- A chunk of one byte, as the polled receiver makes it. -/
def ofByte (byte : UInt8) : UartRawFrameMessage := ofBytes [byte] (by simp [kUartRawChunkSize])

@[simp] theorem bytes_ofByte (byte : UInt8) : (ofByte byte).bytes = [byte] := bytes_ofBytes _ _

end UartRawFrameMessage

/-- The byte stream that a sequence of chunks delivers. -/
def streamOf (frames : List UartRawFrameMessage) : List UInt8 :=
  (frames.map UartRawFrameMessage.bytes).flatten

@[simp] theorem streamOf_append (first later : List UartRawFrameMessage) :
    streamOf (first ++ later) = streamOf first ++ streamOf later := by
  simp [streamOf]

/-- A way to cut a byte stream into chunks. -/
def Chunking (bytes : List UInt8) : Type :=
  { frames : List UartRawFrameMessage // streamOf frames = bytes }

/-- The chunks that carry the given pieces. -/
def Chunking.ofPieces (pieces : List (List UInt8))
    (small : ∀ piece ∈ pieces, piece.length ≤ kUartRawChunkSize) : Chunking pieces.flatten :=
  ⟨pieces.pmap UartRawFrameMessage.ofBytes small, by
    simp only [streamOf, List.map_pmap, UartRawFrameMessage.bytes_ofBytes, List.pmap_eq_map,
      List.map_id']⟩

theorem Chunking.map_bytes_ofPieces (pieces : List (List UInt8))
    (small : ∀ piece ∈ pieces, piece.length ≤ kUartRawChunkSize) :
    (ofPieces pieces small).val.map UartRawFrameMessage.bytes = pieces := by
  simp only [ofPieces, List.map_pmap, UartRawFrameMessage.bytes_ofBytes, List.pmap_eq_map,
    List.map_id']

/-- Every stream can be cut, for instance into single bytes. -/
def Chunking.bytewise (bytes : List UInt8) : Chunking bytes :=
  ⟨bytes.map UartRawFrameMessage.ofByte, by
    simp only [streamOf, List.map_map, Function.comp_def, UartRawFrameMessage.bytes_ofByte]
    rw [← List.flatMap_def]
    exact List.flatMap_singleton' _⟩

/-- The error codes of the functions modelled, which return them negated, and those
that drivers return besides. -/
inductive Errno where
  | einval
  | enodev
  | enotsup
  | enoent
  | enomem
  | eagain
  | eio
  | ealready
  | emsgsize
  | ebusy
  | e2big
  | enospc
  | ebadmsg
  | etimedout
  | eoverflow
  | driver (code : Nat)
  deriving DecidableEq

structure CanRawFrameMessage where
  bus : UInt8
  canId : UInt16
  dlc : UInt8
  data : Vector UInt8 8
  deriving DecidableEq

end RmTest.Channels
