import RmTest.Library.Cells
import RmTest.Protocols.Motors
import Mathlib.Algebra.Group.End

/-! Currents written into a frame one motor at a time. A call stores the two bytes
of its motor, so four calls make the encoder's frame in whatever order they come. -/
namespace RmTest.Protocols

open Channels

/-- The byte of a value at an even or odd place, most significant byte first. -/
def byteAt (value : Int16) (index : Nat) : UInt8 :=
  if index % 2 = 0 then (value.toUInt16 >>> 8).toUInt8 else value.toUInt16.toUInt8

/-- What a frame of four currents is. -/
def currentFrame (currentCmd : Vector Int16 4) : Payload :=
  Vector.ofFn fun i => byteAt (currentCmd.get ⟨i.val / 2, by omega⟩) i.val

/-- What writing one current is. -/
def storeCurrent (slot : Fin 4) (current : Int16) (payload : Payload) : Payload :=
  Vector.ofFn fun i => if i.val / 2 = slot.val then byteAt current i.val else payload.get i

/-- The caller's buffer after a call: nothing is stored before an error. -/
def bufferAfter (payload : Payload) : Except Errno Payload → Payload
  | .ok written => written
  | .error _ => payload

theorem get_storeCurrent (slot : Fin 4) (current : Int16) (payload : Payload) (i : Fin 8) :
    (storeCurrent slot current payload).get i =
      if i.val / 2 = slot.val then byteAt current i.val else payload.get i :=
  Vector.getElem_ofFn i.isLt

theorem get_currentFrame (currentCmd : Vector Int16 4) (i : Fin 8) :
    (currentFrame currentCmd).get i = byteAt (currentCmd.get ⟨i.val / 2, by omega⟩) i.val :=
  Vector.getElem_ofFn i.isLt

/-- Two payloads of the same bytes. -/
theorem payload_ext {first second : Payload} (h : ∀ i : Fin 8, first.get i = second.get i) :
    first = second := by
  apply Vector.ext
  intro i hi
  exact h ⟨i, hi⟩

/-- The two assignments of the source, high byte first. -/
theorem setIfInBounds_eq_storeCurrent (slot : Fin 4) (current : Int16) (payload : Payload) :
    (payload.setIfInBounds (slot.val * 2) (current.toUInt16 >>> 8).toUInt8).setIfInBounds
        (slot.val * 2 + 1) current.toUInt16.toUInt8 = storeCurrent slot current payload := by
  apply payload_ext
  intro i
  rw [Cells.get_setIfInBounds, Cells.get_setIfInBounds, get_storeCurrent, byteAt]
  by_cases hOdd : slot.val * 2 + 1 = i.val
  · rw [if_pos hOdd, if_pos (by omega), if_neg (by omega)]
  · rw [if_neg hOdd]
    by_cases hEven : slot.val * 2 = i.val
    · rw [if_pos hEven, if_pos (by omega), if_pos (by omega)]
    · rw [if_neg hEven, if_neg (by omega)]

theorem writeBe16ToSlot_eq (slot : Fin 4) (current : Int16) (payload : Payload) :
    Dji.writeBe16ToSlot current slot.val payload = .ok (storeCurrent slot current payload) := by
  have hSlot := slot.isLt
  have hRange : ¬((slot.val : Int) < 0 ∨ (slot.val : Int) > 3) := by omega
  rw [Dji.writeBe16ToSlot, if_neg hRange, ← setIfInBounds_eq_storeCurrent]
  rfl

/-- A motor reads the two bytes of its slot. -/
theorem slotCurrent_of_bytes {payload : Payload} {slot : Fin 4} {current : Int16}
    (bytes : ∀ i : Fin 8, i.val / 2 = slot.val → payload.get i = byteAt current i.val) :
    Dji.slotCurrent payload slot = current := by
  have hSlot := slot.isLt
  have hGet (i : Fin 8) : payload.toList.getD i.val 0 = payload.get i := by simp [Vector.get]
  have hHigh := bytes ⟨2 * slot.val, by omega⟩ (by simp)
  have hLow := bytes ⟨2 * slot.val + 1, by omega⟩ (by simp only; omega)
  rw [← hGet, byteAt, if_pos (by simp)] at hHigh
  rw [← hGet, byteAt, if_neg (by simp only; omega)] at hLow
  rw [Dji.slotCurrent, getBe16, hHigh, hLow]
  exact Bytes.high_or_low current

/-- The motors that share a frame. -/
inductive CurrentGroup where
  | dji
  | dm1To4
  | dm5To8

namespace CurrentGroup

/-- The function that writes into the group's frame. -/
def write : CurrentGroup → UInt16 → Int16 → Payload → Except Errno Payload
  | dji => Dji.writeCurrentCommandToSlot
  | dm1To4 => Dm.pack1To4CurrentFrame
  | dm5To8 => Dm.pack1To4CurrentFrame

def firstId : CurrentGroup → UInt16
  | dji => 0x201
  | dm1To4 => 0x301
  | dm5To8 => 0x305

/-- The id of the motor that reads a slot. -/
def id (group : CurrentGroup) (slot : Fin 4) : UInt16 := group.firstId + UInt16.ofNat slot.val

/-- The ids that the group's function takes. -/
def Takes : CurrentGroup → UInt16 → Prop
  | dji, id => 0x201 ≤ id ∧ id ≤ 0x204
  | _, id => 0x301 ≤ id ∧ id ≤ 0x308

/-- One call for each slot of the list. -/
def writeSlots (group : CurrentGroup) (currentCmd : Vector Int16 4) (slots : List (Fin 4))
    (payload : Payload) : Except Errno Payload :=
  slots.foldlM (fun out slot => group.write (group.id slot) (currentCmd.get slot) out) payload

theorem toNat_id (group : CurrentGroup) (slot : Fin 4) :
    (group.id slot).toNat = group.firstId.toNat + slot.val := by
  have hSlot := slot.isLt
  rw [id, UInt16.toNat_add, UInt16.toNat_ofNat']
  cases group <;> simp only [firstId, UInt16.reduceToNat] <;> omega

theorem write_id (group : CurrentGroup) (slot : Fin 4) (current : Int16) (payload : Payload) :
    group.write (group.id slot) current payload = .ok (storeCurrent slot current payload) := by
  have hSlot := slot.isLt
  have hId := group.toNat_id slot
  cases group with
  | dji =>
      simp only [firstId, UInt16.reduceToNat] at hId
      have hRange : 0x201 ≤ id dji slot ∧ id dji slot ≤ 0x204 := by
        simp only [UInt16.le_iff_toNat_le, hId, UInt16.reduceToNat]
        omega
      have hIndex : (id dji slot).toNat - 0x201 = slot.val := by omega
      rw [write, Dji.writeCurrentCommandToSlot, if_pos hRange, hIndex, writeBe16ToSlot_eq]
  | dm1To4 =>
      simp only [firstId, UInt16.reduceToNat] at hId
      have hRange : 0x301 ≤ id dm1To4 slot ∧ id dm1To4 slot ≤ 0x304 := by
        simp only [UInt16.le_iff_toNat_le, hId, UInt16.reduceToNat]
        omega
      have hIndex : (id dm1To4 slot).toNat - 0x301 = slot.val := by omega
      simp only [write, Dm.pack1To4CurrentFrame, hRange, and_self, if_true, hIndex,
        setIfInBounds_eq_storeCurrent]
  | dm5To8 =>
      simp only [firstId, UInt16.reduceToNat] at hId
      have hFirst : ¬(0x301 ≤ id dm5To8 slot ∧ id dm5To8 slot ≤ 0x304) := by
        simp only [UInt16.le_iff_toNat_le, hId, UInt16.reduceToNat]
        omega
      have hRange : 0x305 ≤ id dm5To8 slot ∧ id dm5To8 slot ≤ 0x308 := by
        simp only [UInt16.le_iff_toNat_le, hId, UInt16.reduceToNat]
        omega
      have hIndex : (id dm5To8 slot).toNat - 0x305 = slot.val := by omega
      simp only [write, Dm.pack1To4CurrentFrame, hFirst, hRange, and_self, if_false,
        if_true, hIndex, setIfInBounds_eq_storeCurrent]

theorem write_of_not_takes (group : CurrentGroup) {motorCanId : UInt16} (current : Int16)
    (payload : Payload) (other : ¬group.Takes motorCanId) :
    group.write motorCanId current payload = .error .einval := by
  cases group with
  | dji => exact if_neg other
  | dm1To4 | dm5To8 =>
      simp only [Takes, UInt16.le_iff_toNat_le, UInt16.reduceToNat] at other
      have hFirst : ¬(0x301 ≤ motorCanId ∧ motorCanId ≤ 0x304) := by
        simp only [UInt16.le_iff_toNat_le, UInt16.reduceToNat]
        omega
      have hSecond : ¬(0x305 ≤ motorCanId ∧ motorCanId ≤ 0x308) := by
        simp only [UInt16.le_iff_toNat_le, UInt16.reduceToNat]
        omega
      simp only [write, Dm.pack1To4CurrentFrame, hFirst, hSecond, if_false]

end CurrentGroup

/-- After some currents are stored, their slots hold them and the rest is as before. -/
theorem get_foldl_storeCurrent (currentCmd : Vector Int16 4) (slots : List (Fin 4))
    (payload : Payload) (i : Fin 8) :
    (slots.foldl (fun out slot => storeCurrent slot (currentCmd.get slot) out) payload).get i =
      if ⟨i.val / 2, by omega⟩ ∈ slots then (currentFrame currentCmd).get i else payload.get i := by
  induction slots generalizing payload with
  | nil => simp
  | cons first rest ih =>
      rw [List.foldl_cons, ih, get_storeCurrent, get_currentFrame]
      by_cases hRest : (⟨i.val / 2, by omega⟩ : Fin 4) ∈ rest
      · rw [if_pos hRest, if_pos (List.mem_cons_of_mem _ hRest)]
      · rw [if_neg hRest]
        by_cases hFirst : i.val / 2 = first.val
        · have hSlot : (⟨i.val / 2, by omega⟩ : Fin 4) = first := Fin.ext hFirst
          rw [if_pos hFirst, hSlot, if_pos List.mem_cons_self]
        · have hAbsent : (⟨i.val / 2, by omega⟩ : Fin 4) ∉ first :: rest := by
            rw [List.mem_cons]
            exact not_or.mpr ⟨fun h => hFirst (congrArg Fin.val h), hRest⟩
          rw [if_neg hFirst, if_neg hAbsent]

/-- The four slots in any order leave nothing of what was there before. -/
theorem foldl_storeCurrent_eq_currentFrame (currentCmd : Vector Int16 4) {slots : List (Fin 4)}
    (all : ∀ slot, slot ∈ slots) (payload : Payload) :
    slots.foldl (fun out slot => storeCurrent slot (currentCmd.get slot) out) payload =
      currentFrame currentCmd := by
  apply payload_ext
  intro i
  rw [get_foldl_storeCurrent, if_pos (all _)]

theorem foldlM_ok {Slot : Type} {write : Payload → Slot → Except Errno Payload}
    {store : Payload → Slot → Payload}
    (h : ∀ payload slot, write payload slot = .ok (store payload slot))
    (slots : List Slot) (payload : Payload) :
    slots.foldlM write payload = .ok (slots.foldl store payload) := by
  induction slots generalizing payload with
  | nil => rfl
  | cons first rest ih =>
      rw [List.foldlM_cons, h]
      exact ih (store payload first)

theorem encodeCurrentFrameCommon_eq (currentCmd : Vector Int16 4) (out : Payload) :
    Dji.encodeCurrentFrameCommon currentCmd out = .ok (currentFrame currentCmd) := by
  rw [Dji.encodeCurrentFrameCommon, foldlM_ok fun payload slot => writeBe16ToSlot_eq slot _ payload,
    foldl_storeCurrent_eq_currentFrame currentCmd List.mem_finRange]

theorem slotCurrent_currentFrame (currentCmd : Vector Int16 4) (slot : Fin 4) :
    Dji.slotCurrent (currentFrame currentCmd) slot = currentCmd.get slot := by
  apply slotCurrent_of_bytes
  intro i hSlot
  rw [get_currentFrame]
  congr 2
  exact Fin.ext hSlot

theorem CurrentGroup.writeSlots_eq (group : CurrentGroup) (currentCmd : Vector Int16 4)
    {slots : List (Fin 4)} (all : ∀ slot, slot ∈ slots) (payload : Payload) :
    group.writeSlots currentCmd slots payload = .ok (currentFrame currentCmd) := by
  rw [writeSlots, foldlM_ok fun payload slot => group.write_id slot _ payload,
    foldl_storeCurrent_eq_currentFrame currentCmd all]

/-- Four calls in any order, on any payload, make the frame of the two encoders, from
which every motor reads its own current. A call changes the bytes of its own slot
only, and one with an id that the function does not take returns an error and changes
nothing. -/
theorem current_calls_make_encoded_frame (group : CurrentGroup) (currentCmd : Vector Int16 4)
    (payload : Payload) :
    (∀ order : Equiv.Perm (Fin 4), ∃ frame,
      group.writeSlots currentCmd ((List.finRange 4).map order) payload = .ok frame ∧
        (∀ out, Dji.encodeCurrentFrame0x200 currentCmd out = .ok frame) ∧
        (∀ out, Dji.encodeCurrentFrame0x1ff currentCmd out = .ok frame) ∧
        ∀ slot, Dji.slotCurrent frame slot = currentCmd.get slot) ∧
    (∀ slot current, ∃ frame, group.write (group.id slot) current payload = .ok frame ∧
      ∀ i : Fin 8, i.val / 2 ≠ slot.val → frame.get i = payload.get i) ∧
    ∀ motorCanId current, ¬group.Takes motorCanId →
      group.write motorCanId current payload = .error .einval ∧
        bufferAfter payload (group.write motorCanId current payload) = payload := by
  refine ⟨?_, ?_, ?_⟩
  · intro order
    have hAll (slot : Fin 4) : slot ∈ (List.finRange 4).map order :=
      List.mem_map.mpr ⟨order.symm slot, List.mem_finRange _, order.apply_symm_apply slot⟩
    exact ⟨currentFrame currentCmd, group.writeSlots_eq currentCmd hAll payload,
      encodeCurrentFrameCommon_eq currentCmd, encodeCurrentFrameCommon_eq currentCmd,
      slotCurrent_currentFrame currentCmd⟩
  · intro slot current
    refine ⟨storeCurrent slot current payload, group.write_id slot current payload, ?_⟩
    intro i hOther
    rw [get_storeCurrent, if_neg hOther]
  · intro motorCanId current hOther
    have hError := group.write_of_not_takes current payload hOther
    exact ⟨hError, by rw [hError]; rfl⟩

end RmTest.Protocols
