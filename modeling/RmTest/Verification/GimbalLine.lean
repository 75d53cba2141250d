import RmTest.Library.StreamParser
import RmTest.Modules.GimbalLine
import RmTest.Verification.MitFrames
import RmTest.Verification.ServoPackets
import RmTest.Verification.ServoProtocol
import Mathlib.Algebra.Order.Group.MinMax

/-! What the servos at the other end of the line make of it. A servo cuts the line into
packets, and holds the last order with its identifier and a right checksum. -/
namespace RmTest.Platform

open SerialServo

inductive ServoOrder where
  | stopped
  | position (raw timeMs : UInt16)
  | speed (speed : UInt16)
  deriving DecidableEq

namespace ServoLine

/-- The header, the identifier and the length, which counts neither them nor the checksum. -/
def format : FrameFormat UInt8 where
  header := 4
  frameLength
    | first :: second :: _ :: length :: _ =>
        if first = kFrameHead ∧ second = kFrameHead ∧ 3 ≤ length.toNat then some (length.toNat + 3)
        else none
    | _ => none
  header_pos := Nat.succ_pos 3
  header_le := by
    intro buffer length hLength
    split at hLength
    · split_ifs at hLength
      cases hLength
      omega
    · cases hLength
  frameLength_append := by
    intro buffer more long
    match buffer, long with
    | _ :: _ :: _ :: _ :: _, _ => rfl

def word (low high : UInt8) : UInt16 := low.toUInt16 ||| high.toUInt16 <<< 8

/-- The commands that come with four parameters. -/
def readFour (cmd first second third fourth : UInt8) : Option ServoOrder :=
  if cmd = 1 then some (.position (word first second) (word third fourth))
  else if cmd = 29 then some (.speed (word third fourth))
  else none

def readParams (cmd : UInt8) : List UInt8 → Option ServoOrder
  | [first, second, third, fourth] => readFour cmd first second third fourth
  | [] => if cmd = 12 then some .stopped else none
  | _ => none

/-- The order in a packet, and the servo it is for. -/
def readOrder : List UInt8 → Option (UInt8 × ServoOrder)
  | _ :: _ :: id :: length :: cmd :: rest =>
      if Total.total UInt8.toNat (id :: length :: cmd :: rest) % 256 = 255 then
        (readParams cmd rest.dropLast).map fun order => (id, order)
      else none
  | _ => none

def orders (line : List UInt8) : List (UInt8 × ServoOrder) :=
  ((StreamParser.framed format).drain line).2.filterMap readOrder

/-- The line ends with a whole packet. -/
def Whole (line : List UInt8) : Prop := ((StreamParser.framed format).drain line).1 = []

def ordersFor (id : UInt8) (all : List (UInt8 × ServoOrder)) : List ServoOrder :=
  all.filterMap fun order => if order.1 = id then some order.2 else none

/-- What the servo of an identifier was told last. -/
def held (line : List UInt8) (id : UInt8) : Option ServoOrder :=
  (ordersFor id (orders line)).getLast?

theorem ordersFor_append (id : UInt8) (first second : List (UInt8 × ServoOrder)) :
    ordersFor id (first ++ second) = ordersFor id first ++ ordersFor id second :=
  List.filterMap_append

theorem ordersFor_eq_nil {id : UInt8} {all : List (UInt8 × ServoOrder)}
    (others : ∀ order ∈ all, order.1 ≠ id) : ordersFor id all = [] := by
  rw [ordersFor, List.filterMap_eq_nil_iff]
  exact fun order hOrder => if_neg (others order hOrder)

theorem toNat_lowByte (x : UInt16) : (lowByte x).toNat = x.toNat % 256 := by
  rw [lowByte, UInt16.toNat_toUInt8, Protocols.toNat_low_byte]
  exact Nat.mod_mod _ _

theorem toNat_highByte (x : UInt16) : (highByte x).toNat = x.toNat / 256 := by
  have hShift := Protocols.toNat_shiftRight x 8 (by decide)
  have hRange := x.toNat_lt
  rw [highByte, UInt16.toNat_toUInt8, Protocols.toNat_low_byte]
  have hHigh : (x >>> 8).toNat = x.toNat / 256 := hShift
  rw [hHigh]
  omega

/-- The two bytes of a word give it back. -/
theorem word_bytes (x : UInt16) : word (lowByte x) (highByte x) = x := by
  have hLow : (lowByte x).toUInt16.toNat = x.toNat % 256 := by
    rw [UInt8.toNat_toUInt16, toNat_lowByte]
  have hHigh : (highByte x).toUInt16.toNat = x.toNat / 256 := by
    rw [UInt8.toNat_toUInt16, toNat_highByte]
  have hRange := x.toNat_lt
  have hOr := @Protocols.toNat_shiftLeft_or (highByte x).toUInt16 (lowByte x).toUInt16 8 (by decide)
    (by rw [hHigh]; omega) (by rw [hLow]; omega)
  rw [hLow, hHigh] at hOr
  rw [word, UInt16.or_comm, ← UInt16.toNat_inj]
  refine hOr.trans ?_
  omega

theorem readParams_position (raw timeMs : UInt16) :
    readParams 1 [lowByte raw, highByte raw, lowByte timeMs, highByte timeMs] =
      some (.position raw timeMs) := by
  have hFour : readFour 1 (lowByte raw) (highByte raw) (lowByte timeMs) (highByte timeMs) =
      some (.position (word (lowByte raw) (highByte raw))
        (word (lowByte timeMs) (highByte timeMs))) := by
    rw [readFour]
    exact if_pos rfl
  rw [word_bytes, word_bytes] at hFour
  exact hFour

theorem four_short (first second third fourth : UInt8) :
    [first, second, third, fourth].length ≤ 10 := Nat.le_add_right 4 6

variable {line : List UInt8} {id cmd : UInt8} {params : List UInt8}

theorem frameLength_packet (short : params.length ≤ 10) :
    format.frameLength (kFrameHead :: kFrameHead :: packetBody id cmd params) =
      some (kFrameHead :: kFrameHead :: packetBody id cmd params).length := by
  have hLength : (UInt8.ofNat (params.length + 3)).toNat = params.length + 3 := by
    rw [UInt8.toNat_ofNat']
    omega
  have hLong : (kFrameHead :: kFrameHead :: packetBody id cmd params).length =
      params.length + 3 + 3 := by
    rw [List.length_cons, List.length_cons, length_packetBody]
  rw [hLong]
  simp only [format, packetBody, hLength, true_and]
  exact if_pos (Nat.le_add_left 3 _)

theorem readOrder_packet (id cmd : UInt8) (params : List UInt8) :
    readOrder (kFrameHead :: kFrameHead :: packetBody id cmd params) =
      (readParams cmd params).map fun order => (id, order) := by
  have hTotal := total_packetBody id cmd params
  simp only [packetBody] at hTotal ⊢
  simp only [readOrder, hTotal, if_true, List.dropLast_concat]

/-- A packet at the end of a line that is whole is read. -/
theorem whole_packet (whole : Whole line) (id cmd : UInt8) (short : params.length ≤ 10) :
    Whole (line ++ kFrameHead :: kFrameHead :: packetBody id cmd params) ∧
      orders (line ++ kFrameHead :: kFrameHead :: packetBody id cmd params) =
        orders line ++ ((readParams cmd params).map fun order => (id, order)).toList := by
  have hFrame := @StreamParser.framed_frame _ format _ []
    (@frameLength_packet id cmd params short)
  rw [List.append_nil, StreamParser.drain_nil] at hFrame
  rw [Whole] at whole
  constructor
  · rw [Whole, StreamParser.drain_append, whole, List.nil_append, hFrame]
  · rw [orders, StreamParser.drain_append, whole, List.nil_append, hFrame, List.filterMap_append,
      orders, List.filterMap_cons, readOrder_packet]
    cases readParams cmd params <;> rfl

end ServoLine

end RmTest.Platform

namespace RmTest.Modules

open Channels FloatModel Platform ServoLine

variable {F : Type} [FloatModel F]

namespace ServoCall

def id : ServoCall F → UInt8
  | .stop id => id
  | .moveToAngle id _ _ => id

def order : ServoCall F → ServoOrder
  | .stop _ => .stopped
  | .moveToAngle _ degrees timeMs => .position (SerialServo.angleToRaw degrees) timeMs

/-- A call is read as the order that it stands for. -/
theorem orders_send {servo : SerialServo} (ready : servo.Ready) {line : List UInt8}
    (whole : Whole line) (call : ServoCall F) :
    Whole (line ++ call.send servo) ∧
      orders (line ++ call.send servo) = orders line ++ [(call.id, call.order)] := by
  cases call with
  | stop id =>
      have hShort : ([] : List UInt8).length ≤ 10 := Nat.zero_le 10
      have hSend : (ServoCall.stop id : ServoCall F).send servo = _ :=
        congrArg Prod.fst (SerialServo.sendPacket_eq ready id 12 hShort)
      have hPacket := whole_packet whole id 12 hShort
      rw [hSend]
      exact hPacket
  | moveToAngle id degrees timeMs =>
      have hShort := four_short (SerialServo.lowByte (SerialServo.angleToRaw degrees))
        (SerialServo.highByte (SerialServo.angleToRaw degrees)) (SerialServo.lowByte timeMs)
        (SerialServo.highByte timeMs)
      have hSend : (ServoCall.moveToAngle id degrees timeMs).send servo = _ :=
        congrArg Prod.fst (SerialServo.sendPacket_eq ready id 1 hShort)
      have hPacket := whole_packet whole id 1 hShort
      rw [readParams_position] at hPacket
      rw [hSend]
      exact hPacket

theorem orders_sends {servo : SerialServo} (ready : servo.Ready) {line : List UInt8}
    (whole : Whole line) (calls : List (ServoCall F)) :
    Whole (line ++ calls.flatMap (send servo)) ∧
      orders (line ++ calls.flatMap (send servo)) =
        orders line ++ calls.map fun call => (call.id, call.order) := by
  induction calls generalizing line with
  | nil => exact ⟨by simpa using whole, by simp⟩
  | cons call calls ih =>
      obtain ⟨hWhole, hOrders⟩ := call.orders_send ready whole
      obtain ⟨hRest, hAll⟩ := ih hWhole
      rw [List.flatMap_cons, ← List.append_assoc]
      refine ⟨hRest, hAll.trans ?_⟩
      rw [hOrders, List.append_assoc]
      rfl

end ServoCall

namespace GimbalModule

variable {m next : GimbalModule F} {tick : ServoTick F}

/-- No servo that is online has the identifier of the other. -/
def Distinct (m : GimbalModule F) : Prop :=
  m.online .yaw = true → m.online .pitch = true → m.servoId .yaw ≠ m.servoId .pitch

/-- A servo is called by its identifier, and only if it is online. -/
theorem callsTo_addressed (m : GimbalModule F) (nowMs : Int) (servo : Servo) :
    ∀ call ∈ m.callsTo nowMs servo, m.online servo = true ∧ call.id = m.servoId servo := by
  intro call hCall
  rw [callsTo] at hCall
  split_ifs at hCall with hEnable hStop hMove
  · rw [Bool.and_eq_true] at hStop
    rw [List.mem_singleton.mp hCall]
    exact ⟨hStop.2, rfl⟩
  · cases hCall
  · have hOnline : m.online servo = true := by
      have hNeeds := hMove.2
      rw [needs, needsAngle, Bool.and_eq_true] at hNeeds
      exact hNeeds.1
    rw [List.mem_singleton.mp hCall]
    exact ⟨hOnline, rfl⟩
  · cases hCall

/-- What a tick tells a servo. -/
theorem ordersFor_calls (distinct : m.Distinct) (nowMs : Int) {servo : Servo}
    (online : m.online servo = true) :
    ordersFor (m.servoId servo)
        ((m.callsTo nowMs .yaw ++ m.callsTo nowMs .pitch).map fun call => (call.id, call.order)) =
      (m.callsTo nowMs servo).map ServoCall.order := by
  have hOwn (servo : Servo) : ordersFor (m.servoId servo)
      ((m.callsTo nowMs servo).map fun call => (call.id, call.order)) =
        (m.callsTo nowMs servo).map ServoCall.order := by
    rw [ordersFor, List.filterMap_map, ← List.filterMap_eq_map]
    apply List.filterMap_congr
    intro call hCall
    exact if_pos (m.callsTo_addressed nowMs servo call hCall).2
  have hOther {servo other : Servo}
      (apart : m.online other = true → m.servoId other ≠ m.servoId servo) :
      ordersFor (m.servoId servo)
        ((m.callsTo nowMs other).map fun call => (call.id, call.order)) = [] := by
    apply ordersFor_eq_nil
    intro order hOrder
    obtain ⟨call, hCall, rfl⟩ := List.mem_map.mp hOrder
    obtain ⟨hOnline, hId⟩ := m.callsTo_addressed nowMs other call hCall
    exact hId ▸ apart hOnline
  rw [List.map_append, ordersFor_append]
  cases servo with
  | yaw =>
      rw [hOwn .yaw, hOther fun hPitch => (distinct online hPitch).symm, List.append_nil]
  | pitch =>
      rw [hOwn .pitch, hOther fun hYaw => distinct hYaw online, List.nil_append]

end GimbalModule

namespace GimbalRig

open GimbalModule

variable {start rig : GimbalRig F}

/-- What every servo that is online holds, as far as the module has told it. -/
structure Agrees (start rig : GimbalRig F) : Prop where
  same : SameServos start.gimbal rig.gimbal
  servo : rig.servo = start.servo
  whole : Whole rig.line
  stopped : rig.gimbal.servoStopped = true → ∀ servo, start.gimbal.online servo = true →
    held rig.line (start.gimbal.servoId servo) = some .stopped
  sent : ∀ servo, start.gimbal.online servo = true → rig.gimbal.sentOnce servo = true →
    held rig.line (start.gimbal.servoId servo) =
      some (.position (SerialServo.angleToRaw (rig.gimbal.lastSent servo)) kServoMoveTimeMs)

/-- The line after a tick: the last call to a servo is what it holds. -/
theorem held_tick (ready : start.servo.Ready) (driver : start.gimbal.servoReady = true)
    (distinct : start.gimbal.Distinct) (agrees : Agrees start rig) (event : TickEvent F) :
    Whole (rig.tick event).line ∧ ∀ servo, start.gimbal.online servo = true →
      held (rig.tick event).line (start.gimbal.servoId servo) =
        ((((rig.gimbal.observeTick event).calls servo).map ServoCall.order).getLast?).or
          (held rig.line (start.gimbal.servoId servo)) := by
  have hReceived := (rig.gimbal.sameServos_receive event.1).1
  have hSame := agrees.same.trans hReceived
  have hDistinct : (rig.gimbal.receive event.1).Distinct := by
    simp only [Distinct, hSame.online, hSame.servoId]
    exact distinct
  have hLine : (rig.tick event).line = rig.line ++
      ((rig.gimbal.receive event.1).callsTo event.2 .yaw ++
        (rig.gimbal.receive event.1).callsTo event.2 .pitch).flatMap
          (ServoCall.send start.servo) := by
    rw [← calls_runLoopTick (agrees.same.servoReady.trans driver) event.1 event.2, ← agrees.servo]
    rfl
  obtain ⟨hWhole, hOrders⟩ := ServoCall.orders_sends ready agrees.whole
    ((rig.gimbal.receive event.1).callsTo event.2 .yaw ++
      (rig.gimbal.receive event.1).callsTo event.2 .pitch)
  rw [hLine]
  refine ⟨hWhole, fun servo hOnline => ?_⟩
  have hCalls := ordersFor_calls hDistinct event.2 ((hSame.online servo).trans hOnline)
  rw [hSame.servoId] at hCalls
  rw [held, hOrders, ordersFor_append, hCalls, List.getLast?_append]
  rfl

/-- Receiving a command leaves what the servos hold. -/
theorem Agrees.receive (agrees : Agrees start rig) (command : Option (GimbalCommandMessage F)) :
    Agrees start { rig with gimbal := rig.gimbal.receive command } := by
  obtain ⟨enable, idle, yaw, pitch, hReceive⟩ := rig.gimbal.receive_servos command
  rw [hReceive]
  obtain ⟨⟨hReady, hOnline, hId⟩, hServo, hWhole, hStopped, hSent⟩ := agrees
  exact ⟨⟨hReady, hOnline, hId⟩, hServo, hWhole, hStopped, hSent⟩

/-- What the module does in the rest of a tick, with the line that comes of it. -/
theorem Agrees.step (agrees : Agrees start rig) {next : GimbalModule F} {tick : ServoTick F}
    (same : SameServos rig.gimbal next) (spec : TickCases rig.gimbal next tick)
    {line : List UInt8} (whole : Whole line)
    (told : ∀ servo, start.gimbal.online servo = true →
      held line (start.gimbal.servoId servo) =
        (((tick.calls servo).map ServoCall.order).getLast?).or
          (held rig.line (start.gimbal.servoId servo))) :
    Agrees start { rig with gimbal := next, line := line } where
  same := agrees.same.trans same
  servo := agrees.servo
  whole := whole
  stopped hStopped servo hOnline := by
    have hDisabled := spec.stopped_iff.mp hStopped
    rw [told servo hOnline, spec.calls_of_disabled hDisabled, agrees.same.online, hOnline]
    cases hBefore : rig.gimbal.servoStopped with
    | false => rfl
    | true => exact agrees.stopped hBefore servo hOnline
  sent servo hOnline hSent := by
    have hTold := told servo hOnline
    cases spec with
    | stillStopped _ _ _ calls _ sentOnce lastSent =>
        rw [hTold, calls, lastSent]
        exact agrees.sent servo hOnline ((sentOnce servo).symm.trans hSent)
    | stops _ _ _ _ _ sentOnce => cases (sentOnce servo).symm.trans hSent
    | waits _ _ calls _ sentOnce lastSent =>
        rw [hTold, calls, lastSent]
        exact agrees.sent servo hOnline ((sentOnce servo).symm.trans hSent)
    | sends _ _ _ calls _ sentOnce lastSent =>
        rw [hTold, calls, lastSent]
        cases hNeeds : rig.gimbal.needs servo with
        | true => rfl
        | false =>
            rw [sentOnce, hNeeds, Bool.or_false] at hSent
            exact agrees.sent servo hOnline hSent

theorem Agrees.tick (ready : start.servo.Ready) (driver : start.gimbal.servoReady = true)
    (distinct : start.gimbal.Distinct) (agrees : Agrees start rig) (event : TickEvent F) :
    Agrees start (rig.tick event) := by
  obtain ⟨hSame, hSpec⟩ := tickStep_spec (agrees.same.servoReady.trans driver) event
  obtain ⟨hWhole, hTold⟩ := held_tick ready driver distinct agrees event
  exact (agrees.receive event.1).step hSame hSpec hWhole hTold

omit [FloatModel F] in
/-- Whatever the answer is, a query is one packet. -/
theorem sent_ask (servo : SerialServo) (answers : UInt8 → QueryAnswer) (query : UInt8) :
    (ask servo answers query).1 = (servo.sendPacket query 14 []).1 := by
  have hSent : (servo.readId query (some 0) (answers query).nowMs (kReadIdTimeoutMs query)
      (answers query).polls).1 = (servo.sendPacket query 14 []).1 := by
    simp only [SerialServo.readId]
    split
    · next hSend => rw [hSend]
    · next hSend =>
        rw [hSend]
        split
        · rfl
        · rfl
        · split_ifs <;> rfl
  rw [← hSent, ask]
  split
  · next hRead => rw [hRead]
  · next hRead => rw [hRead]

omit [FloatModel F] in
/-- The queries of `Initialize` are whole packets. -/
theorem whole_queries {servo : SerialServo} (ready : servo.Ready)
    (answers : UInt8 → QueryAnswer) : Whole (queries servo answers) := by
  have hQuery {line : List UInt8} (whole : Whole line) (query : UInt8) :
      Whole (line ++ (ask servo answers query).1) := by
    have hShort : ([] : List UInt8).length ≤ 10 := Nat.zero_le 10
    rw [sent_ask, SerialServo.sendPacket_eq ready query 14 hShort]
    exact (whole_packet whole query 14 hShort).1
  have hEmpty : Whole [] := rfl
  have hBoth := hQuery (hQuery hEmpty kDefaultYawServoId) kDefaultPitchServoId
  simp only [queries]
  split_ifs
  · exact hQuery hBoth 0xfe
  · rw [List.append_nil]
    exact hBoth

/-- The line is whole, and stays so: a driver that is not ready is not called. -/
def LineWhole (rig : GimbalRig F) : Prop :=
  Whole rig.line ∧ (rig.servo.Ready ∨ rig.gimbal.servoReady = false)

theorem LineWhole.tick (whole : LineWhole rig) (event : TickEvent F) :
    LineWhole (rig.tick event) := by
  obtain ⟨hWhole, hReady | hUnready⟩ := whole
  · exact ⟨(ServoCall.orders_sends hReady hWhole _).1, .inl hReady⟩
  · have hReceived : (rig.gimbal.receive event.1).servoReady = false :=
      (rig.gimbal.sameServos_receive event.1).1.servoReady.trans hUnready
    have hTick : rig.tick event = { rig with gimbal := rig.gimbal.tickStep event } := by
      simp [GimbalRig.tick, tickStep, runLoopTick, hReceived]
    rw [hTick]
    refine ⟨hWhole, .inr ?_⟩
    simp [tickStep, runLoopTick, hReceived]

theorem lineWhole_initialized (hasChosen deviceReady : Bool) (answers : UInt8 → QueryAnswer) :
    LineWhole (initialized hasChosen deviceReady answers : GimbalRig F) := by
  have hEmpty : Whole [] := rfl
  cases hasChosen <;> cases deviceReady
  · exact ⟨hEmpty, .inr rfl⟩
  · exact ⟨hEmpty, .inr rfl⟩
  · exact ⟨hEmpty, .inr rfl⟩
  · have hReady : SerialServo.Ready ⟨true, true⟩ := ⟨rfl, rfl⟩
    exact ⟨whole_queries hReady answers, .inl hReady⟩

theorem agrees_initialized (hasChosen deviceReady : Bool) (answers : UInt8 → QueryAnswer)
    (driver : (initialized hasChosen deviceReady answers : GimbalRig F).gimbal.servoReady = true) :
    (initialized hasChosen deviceReady answers : GimbalRig F).servo.Ready ∧
      Agrees (initialized hasChosen deviceReady answers : GimbalRig F)
        (initialized hasChosen deviceReady answers) := by
  have hReady : SerialServo.Ready ⟨true, true⟩ := ⟨rfl, rfl⟩
  cases hasChosen <;> cases deviceReady
  · cases driver
  · cases driver
  · cases driver
  · refine ⟨hReady, ⟨⟨rfl, fun _ => rfl, fun _ => rfl⟩, rfl, whole_queries hReady answers,
      fun hStopped => ?_, fun servo _ hSent => ?_⟩⟩
    · cases hStopped
    · cases servo <;> cases hSent

end GimbalRig

/-- A position is a thousandth of the range of a servo, rounded. -/
theorem toNat_angleToRaw (degrees : ℚ) :
    ((SerialServo.angleToRaw degrees).toNat : ℤ) =
      Quantise.code 0 240 1000 (clamp degrees 0 240) := by
  have hRange : (0 : ℚ) < 240 := by norm_num
  obtain ⟨hLow, hHigh⟩ := Protocols.clamp_rat_mem hRange.le degrees
  have hClamped : (if lt (lit 240) (if lt degrees 0 then 0 else degrees) then lit 240
      else if lt degrees 0 then 0 else degrees) = clamp degrees 0 240 := by
    simp only [clamp, lt_rat, lit_rat, decide_eq_true_eq]
    split_ifs <;> first | rfl | linarith
  have hCode : trunc (clamp degrees 0 240 * (1000 / 240) + 1 / 2) =
      Quantise.code 0 240 1000 (clamp degrees 0 240) := by
    have hScaled : clamp degrees 0 240 * (1000 / 240) =
        (clamp degrees 0 240 - 0) * (1000 : ℕ) / (240 - 0) := by
      push_cast
      ring
    rw [trunc_eq_floor (by linarith), Quantise.code, round_eq, hScaled]
  have hNonneg := Quantise.code_nonneg 1000 hRange hLow
  have hBelow := Quantise.code_le 1000 hRange hHigh
  rw [SerialServo.angleToRaw]
  simp only [hClamped]
  simp only [lit_rat, hCode]
  exact Protocols.toNat_ofInt_uint16 hNonneg (by omega)

/-- A position stands for an angle within 0.12 degrees of the one sent. -/
theorem angleToRaw_close (degrees : ℚ) :
    (SerialServo.angleToRaw degrees).toNat ≤ 1000 ∧
      |((SerialServo.angleToRaw degrees).toNat : ℚ) * (6 / 25) - clamp degrees 0 240| ≤ 3 / 25 := by
  have hRange : (0 : ℚ) < 240 := by norm_num
  obtain ⟨_, hHigh⟩ := Protocols.clamp_rat_mem hRange.le degrees
  have hCode := toNat_angleToRaw degrees
  have hBelow := Quantise.code_le 1000 hRange hHigh
  have hClose := Quantise.abs_value_code_sub_le hRange (show 0 < 1000 by decide)
    (clamp degrees 0 240)
  rw [← hCode] at hBelow hClose
  have hValue : Quantise.value 0 240 1000 ((SerialServo.angleToRaw degrees).toNat : ℤ) =
      ((SerialServo.angleToRaw degrees).toNat : ℚ) * (6 / 25) := by
    rw [Quantise.value, Int.cast_natCast]
    ring
  rw [hValue] at hClose
  refine ⟨by omega, hClose.trans ?_⟩
  norm_num

/-- A servo cannot leave its range, and a clamp does not spread angles. -/
theorem abs_clamp_sub_le (x y : ℚ) : |clamp x 0 240 - clamp y 0 240| ≤ |x - y| := by
  have hMax (z : ℚ) : clamp z 0 240 = max 0 (min z 240) := by
    simp only [clamp, lt_rat, decide_eq_true_eq]
    split_ifs with hLow hHigh
    · rw [max_eq_left ((min_le_left _ _).trans hLow.le)]
    · rw [min_eq_right hHigh.le]
      norm_num
    · rw [min_eq_left (not_lt.mp hHigh), max_eq_right (not_lt.mp hLow)]
  have hMin : |min x 240 - min y 240| ≤ |x - y| := by
    simpa using abs_min_sub_min_le_max x 240 y 240
  have hClamped : |max 0 (min x 240) - max 0 (min y 240)| ≤ |min x 240 - min y 240| := by
    simpa using abs_max_sub_max_le_max 0 (min x 240) 0 (min y 240)
  rw [hMax, hMax]
  exact hClamped.trans hMin

/-- What a servo that is online holds after a tick. A tick that is enabled and finds that the
time has come moves it to its target, as far as its range goes. -/
structure Follows (before after : GimbalRig ℚ) (tick : ServoTick ℚ) (servo : Servo) (id : UInt8) :
    Prop where
  stopped : tick.enabled = false → held after.line id = some .stopped
  moved : tick.passes = true → ∃ raw, held after.line id =
      some (.position raw GimbalModule.kServoMoveTimeMs) ∧
    raw.toNat ≤ 1000 ∧ |(raw.toNat : ℚ) * (6 / 25) - clamp (tick.target servo) 0 240| < 8 / 25
  waits : tick.enabled = true → tick.passes = false → held after.line id = held before.line id

namespace GimbalRig

open GimbalModule

variable {start rig : GimbalRig ℚ}

/-- A servo that was sent an angle by a tick or before has one close to its target. -/
theorem lastSent_near {m next : GimbalModule ℚ} {tick : ServoTick ℚ}
    (spec : TickCases m next tick) (target : tick.target = m.target) (passes : tick.passes = true)
    {servo : Servo} (online : m.online servo = true) :
    next.sentOnce servo = true ∧
      |next.lastSent servo - tick.target servo| < kServoAngleEpsilonDeg := by
  obtain ⟨_, hSent, hLast⟩ := spec.served_of_passes passes servo
  rw [hSent, hLast]
  cases hNeeds : m.needs servo with
  | true =>
      rw [if_pos rfl, sub_self, abs_zero, Bool.or_true]
      exact ⟨rfl, by norm_num [kServoAngleEpsilonDeg]⟩
  | false =>
      have hHeld := (needsAngle_rat (m.online servo) (m.sentOnce servo) (m.target servo)
        (m.lastSent servo)).not.mp (ne_true_of_eq_false hNeeds)
      simp only [online, true_and, Classical.not_imp, not_le] at hHeld
      rw [if_neg Bool.false_ne_true, Bool.or_false, target, abs_sub_comm]
      exact hHeld

theorem follows_tick (ready : start.servo.Ready) (driver : start.gimbal.servoReady = true)
    (distinct : start.gimbal.Distinct) (agrees : Agrees start rig) (event : TickEvent ℚ)
    {servo : Servo} (online : start.gimbal.online servo = true) :
    Follows rig (rig.tick event) (rig.gimbal.observeTick event) servo
      (start.gimbal.servoId servo) := by
  have hAfter := agrees.tick ready driver distinct event
  obtain ⟨_, hSpec⟩ := tickStep_spec (agrees.same.servoReady.trans driver) event
  refine ⟨fun hDisabled => ?_, fun hPasses => ?_, fun hEnabled hWaits => ?_⟩
  · exact hAfter.stopped (hSpec.stopped_iff.mpr hDisabled) servo online
  · have hOnline : (rig.gimbal.receive event.1).online servo = true :=
      ((agrees.receive event.1).same.online servo).trans online
    obtain ⟨hSent, hNear⟩ := lastSent_near hSpec rfl hPasses hOnline
    obtain ⟨hRange, hClose⟩ := angleToRaw_close ((rig.tick event).gimbal.lastSent servo)
    refine ⟨_, hAfter.sent servo online hSent, hRange, ?_⟩
    -- the rounding and the dead band add up
    have hSpread := abs_clamp_sub_le ((rig.tick event).gimbal.lastSent servo)
      ((rig.gimbal.observeTick event).target servo)
    have hDead : |(rig.tick event).gimbal.lastSent servo -
        (rig.gimbal.observeTick event).target servo| < 2 / 10 := hNear
    refine lt_of_le_of_lt (abs_sub_le _ (clamp ((rig.tick event).gimbal.lastSent servo) 0 240) _) ?_
    linarith
  · have hTold := (held_tick ready driver distinct agrees event).2 servo online
    cases hSpec with
    | stillStopped enabled => cases hEnabled.symm.trans enabled
    | stops enabled => cases hEnabled.symm.trans enabled
    | waits _ _ calls =>
        rw [hTold, calls]
        rfl
    | sends _ passes => cases hWaits.symm.trans passes

/-- Whatever answers the queries, the line consists of whole packets all along; and if no two
servos that are online have the same identifier, every tick leaves them as it shall. -/
theorem servos_follow (hasChosen deviceReady : Bool) (answers : UInt8 → QueryAnswer)
    (events : List (TickEvent ℚ)) :
    Whole (events.foldl tick (initialized hasChosen deviceReady answers)).line ∧
      ((initialized hasChosen deviceReady answers : GimbalRig ℚ).gimbal.Distinct →
        ∀ (servo : Servo) (event : TickEvent ℚ),
          (initialized hasChosen deviceReady answers : GimbalRig ℚ).gimbal.online servo = true →
          Follows (events.foldl tick (initialized hasChosen deviceReady answers))
            ((events.foldl tick (initialized hasChosen deviceReady answers)).tick event)
            ((events.foldl tick
              (initialized hasChosen deviceReady answers)).gimbal.observeTick event)
            servo
            ((initialized hasChosen deviceReady answers : GimbalRig ℚ).gimbal.servoId servo)) := by
  constructor
  · have hKept : ∀ (rig : GimbalRig ℚ) (event : TickEvent ℚ), LineWhole rig →
        LineWhole (rig.tick event) := fun _ event whole => whole.tick event
    exact (Run.foldl_invariant hKept
      (lineWhole_initialized hasChosen deviceReady answers) events).1
  intro hDistinct servo event hOnline
  have hDriver : (initialized hasChosen deviceReady answers : GimbalRig ℚ).gimbal.servoReady =
      true := by
    cases hasChosen <;> cases deviceReady
    · cases servo <;> cases hOnline
    · cases servo <;> cases hOnline
    · cases servo <;> cases hOnline
    · rfl
  obtain ⟨hReady, hStart⟩ := agrees_initialized hasChosen deviceReady answers hDriver
  have hAgrees : Agrees (initialized hasChosen deviceReady answers)
      (events.foldl tick (initialized hasChosen deviceReady answers)) :=
    Run.foldl_invariant (fun _ event hAgrees => hAgrees.tick hReady hDriver hDistinct event)
      hStart events
  exact follows_tick hReady hDriver hDistinct hAgrees event hOnline

/-- Every servo answers the query for it with its identifier. -/
def bothAnswers (query : UInt8) : QueryAnswer where
  nowMs := 0
  polls := Platform.SerialServo.lineAt 5
    [0x55, 0x55, query, 4, 14, query, 0xff - (query + 4 + 14 + query)]

def turnCommand : GimbalCommandMessage ℚ :=
  { yawDeltaDeg := 30, pitchDeltaDeg := -10, source := .kInputSourceDr16, enable := 1,
    sequence := 1 }

/-- The servos are stopped at the start and then turned: yaw to 150 and pitch to 80 degrees. -/
theorem servos_follow_turn :
    let stopped := [(none, 0)].foldl tick (initialized true true bothAnswers : GimbalRig ℚ)
    let turned := stopped.tick (some turnCommand, 20)
    (∃ raw, held turned.line 1 = some (.position raw 20) ∧
        raw.toNat ≤ 1000 ∧ |(raw.toNat : ℚ) * (6 / 25) - 150| < 8 / 25) ∧
      ∃ raw, held turned.line 2 = some (.position raw 20) ∧
        raw.toNat ≤ 1000 ∧ |(raw.toNat : ℚ) * (6 / 25) - 80| < 8 / 25 := by
  intro stopped turned
  have hDistinct : (initialized true true bothAnswers : GimbalRig ℚ).gimbal.Distinct :=
    fun _ _ => show (1 : UInt8) ≠ 2 by decide
  have hFollows := (servos_follow true true bothAnswers [(none, 0)]).2 hDistinct
  have hYaw := (hFollows .yaw (some turnCommand, 20) rfl).moved rfl
  have hPitch := (hFollows .pitch (some turnCommand, 20) rfl).moved rfl
  have hTargets :
      clamp ((stopped.gimbal.observeTick (some turnCommand, 20)).target .yaw) 0 240 = 150 ∧
        clamp ((stopped.gimbal.observeTick (some turnCommand, 20)).target .pitch) 0 240 = 80 := by
    decide +kernel
  rw [hTargets.1] at hYaw
  rw [hTargets.2] at hPitch
  exact ⟨hYaw, hPitch⟩

end GimbalRig

end RmTest.Modules
