import RmTest.Library.Run
import RmTest.Platform.UsbSession

/-! The flag of the sending half of the USB session, against what is on its IN endpoint. -/
namespace RmTest.Platform.UsbSession

open Channels

/-- The flag is set exactly while a transfer is in flight. -/
def BusyIffInFlight (u : UsbSession) : Prop := u.txBusy = true ↔ u.inFlight.isSome = true

/-- A transfer in flight has set the flag. -/
def BusyInFlight (u : UsbSession) : Prop := u.inFlight.isSome = true → u.txBusy = true

/-- The event is no end of a transfer after which the packet of length zero is due and
cannot be started. -/
def ZeroLengthStarts (u : UsbSession) : UsbEvent → Prop
  | .completed nbytes mps rc =>
      u.inFlight.isSome = true → nbytes > 0 → nbytes % mps = 0 → rc = .ok ()
  | _ => True

/-- The buffer stays as it is while a transfer is in flight. -/
def BufferKept (hasUsbNode : Bool) (u : UsbSession) (event : UsbEvent) : Prop :=
  u.inFlight.isSome = true → (u.step hasUsbNode event).txBuffer = u.txBuffer

/-- `Send` returns `-EBUSY` only while a transfer is in flight, unless it has this from
the controller. -/
def BusyOnlyInFlight (u : UsbSession) : UsbEvent → Prop
  | .send data rc =>
      (u.send data rc).2 = .error .ebusy → u.inFlight.isSome = true ∨ rc = .error .ebusy
  | _ => True

/-- What `Send` comes to: it is refused, and changes nothing; or its transfer cannot be
started; or it is started. -/
theorem send_cases (u : UsbSession) (data : Option (List UInt8)) (rc : Except Errno Unit) :
    (∃ error, u.send data rc = (u, .error error) ∧ (error = .ebusy → u.txBusy = true)) ∨
      u.txBusy = false ∧ ∃ bytes, data = some bytes ∧
        ((∃ error, rc = .error error ∧
            u.send data rc = ({ u.fillTxBuffer bytes with txBusy := false }, .error error)) ∨
          (rc = .ok () ∧ u.send data rc =
            ({ u.fillTxBuffer bytes with txBusy := true, inFlight := some .data },
              .ok bytes.length))) := by
  cases data with
  | none => exact .inl ⟨_, rfl, fun h => by cases h⟩
  | some bytes =>
      simp only [send]
      split_ifs with hEmpty hConfigured hLong hBusy
      · exact .inl ⟨_, rfl, fun h => by cases h⟩
      · exact .inl ⟨_, rfl, fun h => by cases h⟩
      · exact .inl ⟨_, rfl, fun h => by cases h⟩
      · exact .inl ⟨_, rfl, fun _ => hBusy⟩
      · refine .inr ⟨by simpa using hBusy, bytes, rfl, ?_⟩
        cases rc with
        | error error => exact .inl ⟨error, rfl, rfl⟩
        | ok done => exact .inr ⟨rfl, rfl⟩

/-- What the end of a transfer comes to. -/
theorem completed_cases (hasUsbNode : Bool) {u : UsbSession} (flying : u.inFlight.isSome = true)
    (nbytes mps : Nat) (rc : Except Errno Unit) :
    (¬ (nbytes > 0 ∧ nbytes % mps = 0) ∧
        u.step hasUsbNode (.completed nbytes mps rc) =
        { u with inFlight := none, txBusy := false }) ∨
      ((nbytes > 0 ∧ nbytes % mps = 0) ∧
        ((∃ error, rc = .error error ∧
            u.step hasUsbNode (.completed nbytes mps rc) = { u with inFlight := none }) ∨
          (rc = .ok () ∧
            u.step hasUsbNode (.completed nbytes mps rc) =
              { u with inFlight := some .zeroLength }))) := by
  simp only [step, flying, if_true, usbBulkInCallback]
  split_ifs with hDue
  · refine .inr ⟨hDue, ?_⟩
    cases rc with
    | error error => exact .inl ⟨error, rfl, rfl⟩
    | ok done => exact .inr ⟨rfl, rfl⟩
  · exact .inl ⟨hDue, rfl⟩

/-- `Initialize` does not concern the transfers. -/
theorem initializeSession_eq (hasUsbNode : Bool) (rc : Except Errno Unit) (u : UsbSession) :
    ∃ started, (u.initializeSession hasUsbNode rc).1 = { u with started := started } := by
  unfold initializeSession
  split_ifs
  · exact ⟨u.started, rfl⟩
  · exact ⟨u.started, rfl⟩
  · cases rc with
    | error error => exact ⟨u.started, rfl⟩
    | ok done => exact ⟨true, rfl⟩

/-- What a step does to the flag, to the endpoint and to the buffer. -/
inductive StepCases (u next : UsbSession) (event : UsbEvent) : Prop where
  | keeps (starts : u.ZeroLengthStarts event) (busy : next.txBusy = u.txBusy)
      (inFlight : next.inFlight = u.inFlight) (buffer : next.txBuffer = u.txBuffer)
  | ends (starts : u.ZeroLengthStarts event) (busy : next.txBusy = false)
      (inFlight : next.inFlight = none) (buffer : next.txBuffer = u.txBuffer)
  | fails (starts : u.ZeroLengthStarts event) (idle : u.txBusy = false)
      (busy : next.txBusy = false) (inFlight : next.inFlight = u.inFlight)
  | sends (starts : u.ZeroLengthStarts event) (idle : u.txBusy = false)
      (busy : next.txBusy = true) (inFlight : next.inFlight = some .data)
  | sendsZero (starts : u.ZeroLengthStarts event) (flying : u.inFlight.isSome = true)
      (busy : next.txBusy = u.txBusy) (inFlight : next.inFlight = some .zeroLength)
      (buffer : next.txBuffer = u.txBuffer)
  | loses (lost : ¬ u.ZeroLengthStarts event) (flying : u.inFlight.isSome = true)
      (busy : next.txBusy = u.txBusy) (inFlight : next.inFlight = none)
      (buffer : next.txBuffer = u.txBuffer)

theorem step_cases (hasUsbNode : Bool) (u : UsbSession) (event : UsbEvent) :
    StepCases u (u.step hasUsbNode event) event := by
  cases event with
  | initializeSession rc =>
      obtain ⟨started, hInitialize⟩ := initializeSession_eq hasUsbNode rc u
      rw [step, hInitialize]
      exact .keeps trivial rfl rfl rfl
  | bus event =>
      cases event with
      | configured => exact .keeps trivial rfl rfl rfl
      | reset => exact .ends trivial rfl rfl rfl
      | disconnected => exact .ends trivial rfl rfl rfl
      | other => exact .keeps trivial rfl rfl rfl
  | send data rc =>
      rcases u.send_cases data rc with
        ⟨error, hSend, _⟩ | ⟨hIdle, bytes, _, ⟨error, _, hSend⟩ | ⟨_, hSend⟩⟩
      · rw [step, hSend]
        exact .keeps trivial rfl rfl rfl
      · rw [step, hSend]
        exact .fails trivial hIdle rfl rfl
      · rw [step, hSend]
        exact .sends trivial hIdle rfl rfl
  | completed nbytes mps rc =>
      by_cases hFlying : u.inFlight.isSome = true
      · rcases completed_cases hasUsbNode hFlying nbytes mps rc with
          ⟨hLast, hStep⟩ | ⟨hDue, ⟨error, rfl, hStep⟩ | ⟨rfl, hStep⟩⟩
        · rw [hStep]
          exact .ends (fun _ hPositive hWhole => absurd ⟨hPositive, hWhole⟩ hLast) rfl rfl rfl
        · rw [hStep]
          refine .loses (fun hStarts => ?_) hFlying rfl rfl rfl
          cases hStarts hFlying hDue.1 hDue.2
        · rw [hStep]
          exact .sendsZero (fun _ _ _ => rfl) hFlying rfl rfl rfl
      · have hStep : u.step hasUsbNode (.completed nbytes mps rc) = u := if_neg hFlying
        rw [hStep]
        exact .keeps (fun hSome => absurd hSome hFlying) rfl rfl rfl

/-- From a state in which the flag is right, a step keeps it right exactly if it does not
lose the packet of length zero. -/
theorem zeroLengthStarts_iff (hasUsbNode : Bool) {u : UsbSession} (event : UsbEvent)
    (right : u.BusyIffInFlight) :
    u.ZeroLengthStarts event ↔ (u.step hasUsbNode event).BusyIffInFlight := by
  unfold BusyIffInFlight at *
  cases u.step_cases hasUsbNode event with
  | keeps starts busy inFlight =>
      rw [busy, inFlight]
      exact iff_of_true starts right
  | ends starts busy inFlight =>
      rw [busy, inFlight]
      exact iff_of_true starts Iff.rfl
  | fails starts idle busy inFlight =>
      rw [busy, inFlight, ← idle]
      exact iff_of_true starts right
  | sends starts _ busy inFlight =>
      rw [busy, inFlight]
      exact iff_of_true starts (iff_of_true rfl rfl)
  | sendsZero starts flying busy inFlight =>
      rw [busy, inFlight]
      exact iff_of_true starts (iff_of_true (right.mpr flying) rfl)
  | loses lost flying busy inFlight =>
      -- the flag is still set, and nothing is in flight
      rw [busy, inFlight]
      exact iff_of_false lost fun hRight => by cases hRight.mp (right.mpr flying)

theorem busyInFlight_step (hasUsbNode : Bool) {u : UsbSession} (event : UsbEvent)
    (busy : u.BusyInFlight) : (u.step hasUsbNode event).BusyInFlight := by
  unfold BusyInFlight at *
  cases u.step_cases hasUsbNode event with
  | keeps _ hBusy inFlight => rwa [hBusy, inFlight]
  | ends _ _ inFlight =>
      rw [inFlight]
      exact fun hSome => by cases hSome
  | fails _ idle hBusy inFlight => rwa [hBusy, inFlight, ← idle]
  | sends _ _ hBusy => exact fun _ => hBusy
  | sendsZero _ flying hBusy => exact fun _ => hBusy.trans (busy flying)
  | loses _ _ _ inFlight =>
      rw [inFlight]
      exact fun hSome => by cases hSome

/-- Only `Send` writes to the buffer, and only if the flag is not set. -/
theorem bufferKept_of_busy (hasUsbNode : Bool) {u : UsbSession} (event : UsbEvent)
    (busy : u.BusyInFlight) : u.BufferKept hasUsbNode event := by
  intro hFlying
  cases u.step_cases hasUsbNode event with
  | keeps _ _ _ buffer => exact buffer
  | ends _ _ _ buffer => exact buffer
  | fails _ idle => cases idle.symm.trans (busy hFlying)
  | sends _ idle => cases idle.symm.trans (busy hFlying)
  | sendsZero _ _ _ _ buffer => exact buffer
  | loses _ _ _ _ buffer => exact buffer

theorem busyOnlyInFlight_of_right {u : UsbSession} (event : UsbEvent)
    (right : u.BusyIffInFlight) : u.BusyOnlyInFlight event := by
  cases event with
  | send data rc =>
      intro hBusy
      rcases u.send_cases data rc with
        ⟨error, hSend, hFlag⟩ | ⟨_, bytes, _, ⟨error, hError, hSend⟩ | ⟨_, hSend⟩⟩
      · rw [hSend] at hBusy
        exact .inl (right.mp (hFlag (Except.error.inj hBusy)))
      · rw [hSend] at hBusy
        exact .inr (hError.trans (congrArg Except.error (Except.error.inj hBusy)))
      · rw [hSend] at hBusy
        cases hBusy
  | _ => trivial

/-- Along every run the flag says whether a transfer is in flight exactly if no packet
of length zero that is due fails to start, and then `Send` is not refused as busy with
nothing in flight. No run overwrites the buffer during a transfer. -/
theorem busy_iff_in_flight_iff (hasUsbNode : Bool) (events : List UsbEvent) :
    (Run.Along (step hasUsbNode) ZeroLengthStarts initial events ↔
        Run.Always (step hasUsbNode) BusyIffInFlight initial events) ∧
      (Run.Along (step hasUsbNode) ZeroLengthStarts initial events →
        Run.Along (step hasUsbNode) BusyOnlyInFlight initial events) ∧
      Run.Along (step hasUsbNode) (BufferKept hasUsbNode) initial events := by
  have hRight (u : UsbSession) (event : UsbEvent) (right : u.BusyIffInFlight) :=
    zeroLengthStarts_iff hasUsbNode event right
  have hStart : initial.BusyIffInFlight :=
    ⟨fun h => absurd h Bool.false_ne_true, fun h => by cases h⟩
  refine ⟨?_, ?_, ?_⟩
  · exact Run.along_iff_always (fun _ _ (_ : True) => trivial)
      (fun u event _ => hRight u event) trivial hStart events
  · exact Run.along_of_invariant (fun u event right => (hRight u event right).mp)
      (fun u event right _ => busyOnlyInFlight_of_right event right) hStart
  · have hBusy : initial.BusyInFlight := hStart.mpr
    exact Run.along_of_invariant (fun u event busy _ => busyInFlight_step hasUsbNode event busy)
      (fun u event busy _ => bufferKept_of_busy hasUsbNode event busy) hBusy
      (Run.along_trivial initial events)

theorem send_started {u : UsbSession} {bytes : List UInt8} (nonempty : bytes.length ≠ 0)
    (configured : u.isConfigured = true) (fits : bytes.length ≤ u.txBuffer.length)
    (idle : u.txBusy = false) :
    (u.send (some bytes) (.ok ())).1 =
      { u.fillTxBuffer bytes with txBusy := true, inFlight := some .data } := by
  simp [send, nonempty, configured, Nat.not_lt.mpr fits, idle, startWrite]

/-- A transfer in whole packets, after which the packet of length zero cannot be started. -/
theorem lost_zeroLength (hasUsbNode : Bool) {u : UsbSession} {bytes : List UInt8} {mps : Nat}
    (nonempty : bytes.length ≠ 0) (configured : u.isConfigured = true)
    (fits : bytes.length ≤ u.txBuffer.length) (idle : u.txBusy = false)
    (whole : bytes.length % mps = 0) (error : Errno) :
    (u.step hasUsbNode (.send (some bytes) (.ok ()))).step hasUsbNode
        (.completed bytes.length mps (.error error)) =
      { u.fillTxBuffer bytes with txBusy := true, inFlight := none } := by
  have hSent : u.step hasUsbNode (.send (some bytes) (.ok ())) =
      { u.fillTxBuffer bytes with txBusy := true, inFlight := some .data } :=
    send_started nonempty configured fits idle
  rw [hSent]
  simp [step, usbBulkInCallback, Nat.pos_of_ne_zero nonempty, whole, startWrite]

/-- The session once the host has configured the device. -/
def configuredSession : UsbSession :=
  [.initializeSession (.ok ()), .bus .configured].foldl (step true) initial

def blankPacket : List UInt8 := List.replicate 64 0

/-- 64 bytes are sent in packets of 64, and the packet of length zero cannot be started:
nothing is in flight, and every later `Send` is refused. -/
theorem busy_with_nothing_in_flight :
    let u := (configuredSession.step true (.send (some blankPacket) (.ok ()))).step true
      (.completed blankPacket.length 64 (.error (.driver 1)))
    u.inFlight = none ∧ u.txBusy = true ∧
      ∀ data rc, ∃ error, u.send data rc = (u, .error error) := by
  have hBuffer : configuredSession.txBuffer.length = kCdcBufferSize := List.length_replicate
  have hBytes : blankPacket.length = 64 := List.length_replicate
  have hConfigured : configuredSession.isConfigured = true := rfl
  have hWhole : blankPacket.length % 64 = 0 := by rw [hBytes]
  have hLost := lost_zeroLength true (by rw [hBytes]; decide) hConfigured
    (by rw [hBytes, hBuffer]; decide) rfl hWhole (.driver 1)
  intro u
  have hBusy : u.txBusy = true := congrArg txBusy hLost
  refine ⟨congrArg inFlight hLost, hBusy, fun data rc => ?_⟩
  rcases u.send_cases data rc with ⟨error, hSend, _⟩ | ⟨hIdle, _⟩
  · exact ⟨error, hSend⟩
  · cases hIdle.symm.trans hBusy

end RmTest.Platform.UsbSession
