import RmTest.Library.Total
import RmTest.Verification.ServoLine

/-! Servo packets: what `SendPacket` puts on the line, and what `ReceivePacket` makes of it,
with noise in front, with a byte replaced, and with anything at all. -/
namespace RmTest.Platform.SerialServo

open Channels Total

variable {deadlineMs : Int} {polls : List Poll}

/-- Both sides add the parameters to the same 16-bit sum. -/
def sumOver (sum : UInt16) (params : List UInt8) : UInt16 :=
  params.foldl (fun sum param => sum + param.toUInt16) sum

theorem toNat_sumOver (sum : UInt16) (params : List UInt8) :
    (sumOver sum params).toNat % 256 = (sum.toNat + total UInt8.toNat params) % 256 := by
  induction params generalizing sum with
  | nil => rfl
  | cons param params ih =>
      have hStep : sumOver sum (param :: params) = sumOver (sum + param.toUInt16) params := rfl
      rw [hStep, ih, UInt16.toNat_add, UInt8.toNat_toUInt16, total_cons]
      omega

theorem toNat_checksumByte (sum : UInt16) : (checksumByte sum).toNat = 255 - sum.toNat % 256 := by
  have hMask : UInt16.toNat 0xff = 2 ^ 8 - 1 := rfl
  have hLow : (sum &&& 0xff).toNat = sum.toNat % 256 := by
    rw [UInt16.toNat_and, hMask, Nat.and_two_pow_sub_one_eq_mod]
  rw [checksumByte, UInt16.toNat_toUInt8, UInt16.toNat_not, hLow]
  have hLt := Nat.mod_lt sum.toNat (show 0 < 256 by decide)
  simp only [UInt16.size]
  omega

/-- A checksum is right when it fills the sum up to all ones. -/
theorem checksumByte_eq_iff (id length cmd : UInt8) (params : List UInt8) (checksum : UInt8) :
    checksum = checksumByte (sumOver (id.toUInt16 + length.toUInt16 + cmd.toUInt16) params) ↔
      total UInt8.toNat (id :: length :: cmd :: (params ++ [checksum])) % 256 = 255 := by
  have hChecksum := checksum.toNat_lt
  have hSum := toNat_sumOver (id.toUInt16 + length.toUInt16 + cmd.toUInt16) params
  have hByte := toNat_checksumByte
    (sumOver (id.toUInt16 + length.toUInt16 + cmd.toUInt16) params)
  rw [hSum] at hByte
  have hFields : (id.toUInt16 + length.toUInt16 + cmd.toUInt16).toNat =
      id.toNat + length.toNat + cmd.toNat := by
    have hId := id.toNat_lt
    have hLength := length.toNat_lt
    have hCmd := cmd.toNat_lt
    simp only [UInt16.toNat_add, UInt8.toNat_toUInt16]
    omega
  rw [hFields] at hByte
  rw [← UInt8.toNat_inj, hByte]
  simp only [total_cons, total_append, total_nil]
  omega

/-- What a packet has behind its header. -/
def packetBody (id cmd : UInt8) (params : List UInt8) : List UInt8 :=
  let length := UInt8.ofNat (params.length + 3)
  id :: length :: cmd :: (params ++
    [checksumByte (sumOver (id.toUInt16 + length.toUInt16 + cmd.toUInt16) params)])

theorem putParams_eq (params front back : List UInt8) (i : Nat) (sum : UInt16)
    (hFront : front.length = 5 + i) (room : params.length ≤ back.length) :
    putParams params i (front ++ back) sum =
      (front ++ params ++ back.drop params.length, sumOver sum params) := by
  induction params generalizing front back i sum with
  | nil => simp [putParams, sumOver]
  | cons param params ih =>
      cases back with
      | nil => exact absurd room (Nat.not_succ_le_zero _)
      | cons cell back =>
          have hSet : (front ++ cell :: back).set (5 + i) param = (front ++ [param]) ++ back := by
            rw [← hFront, List.set_append_right _ _ (Nat.le_refl _), Nat.sub_self,
              List.set_cons_zero, List.append_assoc]
            rfl
          rw [putParams, hSet, ih (front ++ [param]) back (i + 1) _ _ (Nat.le_of_succ_le_succ room)]
          · simp [sumOver]
          · rw [List.length_append, hFront]
            rfl

/-- A packet on the line: the header and its body. -/
theorem sendPacket_eq {s : SerialServo} (ready : s.Ready) (id cmd : UInt8) {params : List UInt8}
    (short : params.length ≤ 10) :
    s.sendPacket id cmd params =
      (kFrameHead :: kFrameHead :: packetBody id cmd params, .ok ()) := by
  have hReady : (!s.initialized || !s.uartDev) = false := by
    rw [ready.initialized, ready.uartDev]
    rfl
  have hHeader : (((((List.replicate 16 0).set 0 kFrameHead).set 1 kFrameHead).set 2 id).set 3
      (UInt8.ofNat (params.length + 3))).set 4 cmd =
      [kFrameHead, kFrameHead, id, UInt8.ofNat (params.length + 3), cmd] ++
        List.replicate 11 0 := rfl
  have hRoom : params.length ≤ (List.replicate 11 (0 : UInt8)).length := by
    rw [List.length_replicate]
    omega
  have hBack : (List.replicate 11 (0 : UInt8)).drop params.length =
      0 :: List.replicate (10 - params.length) 0 := by
    rw [List.drop_replicate, show 11 - params.length = 10 - params.length + 1 by omega]
    rfl
  have hPut :=
    putParams_eq params [kFrameHead, kFrameHead, id, UInt8.ofNat (params.length + 3), cmd]
    (List.replicate 11 0) 0
    (id.toUInt16 + (UInt8.ofNat (params.length + 3)).toUInt16 + cmd.toUInt16) rfl hRoom
  have hSet (front : List UInt8) (hFront : front.length = 5 + params.length) (b : UInt8)
      (back : List UInt8) :
      ((front ++ 0 :: back).set (5 + params.length) b).take (6 + params.length) = front ++ [b] := by
    rw [← hFront, List.set_append_right _ _ (Nat.le_refl _), Nat.sub_self, List.set_cons_zero,
      show 6 + params.length = front.length + 1 by omega, List.take_length_add_append]
    rfl
  simp only [sendPacket, hReady, hHeader, hPut, hBack]
  rw [if_neg Bool.false_ne_true, hSet]
  · rfl
  · rw [List.length_append]
    rfl

/-- Memory after `bytes` have been stored from offset `i` on. -/
def overlay (i : Nat) (bytes : List UInt8) (memory : Nat → UInt8) (j : Nat) : UInt8 :=
  if j < i then memory j else (bytes[j - i]?).getD (memory j)

theorem overlay_cons (i : Nat) (b : UInt8) (bytes : List UInt8) (memory : Nat → UInt8) :
    overlay (i + 1) bytes (fun j => if j = i then b else memory j) =
      overlay i (b :: bytes) memory := by
  funext j
  rcases Nat.lt_trichotomy j i with hLess | hEq | hMore
  · have hNext : j < i + 1 := by omega
    have hNe : j ≠ i := by omega
    simp only [overlay, if_pos hLess, if_pos hNext, if_neg hNe]
  · subst hEq
    simp [overlay]
  · have hNext : ¬j < i + 1 := by omega
    have hNe : j ≠ i := by omega
    have hLess : ¬j < i := by omega
    have hIndex : j - i = j - (i + 1) + 1 := by omega
    simp only [overlay, if_neg hNext, if_neg hNe, if_neg hLess, hIndex, List.getElem?_cons_succ]

theorem takeParams_eq {s : SerialServo} (hDev : s.uartDev = true) (params : List UInt8) (i : Nat)
    (memory : Nat → UInt8) (sum : UInt16) {bytes : List UInt8}
    (arrives : bytesBefore deadlineMs polls = params ++ bytes) :
    ∃ later, s.takeParams deadlineMs params.length i memory sum polls =
        (overlay i params memory, .ok (sumOver sum params, later)) ∧
      bytesBefore deadlineMs later = bytes := by
  induction params generalizing i memory sum polls with
  | nil =>
      refine ⟨polls, ?_, arrives⟩
      have hOverlay : overlay i [] memory = memory := by
        funext j
        simp [overlay]
      rw [hOverlay]
      rfl
  | cons param params ih =>
      obtain ⟨later, hPoll, hArrives, -⟩ := pollOneByte_of_arrived hDev arrives
      obtain ⟨last, hTaken, hLast⟩ := ih (i + 1) (fun j => if j = i then param else memory j)
        (sum + param.toUInt16) hArrives
      refine ⟨last, ?_, hLast⟩
      rw [List.length_cons, takeParams, hPoll]
      rw [overlay_cons] at hTaken
      exact hTaken

theorem takeFields_eq {s : SerialServo} (hDev : s.uartDev = true) {id length cmd : UInt8}
    {bytes : List UInt8} (arrives : bytesBefore deadlineMs polls = id :: length :: cmd :: bytes) :
    ∃ later, s.takeFields deadlineMs polls = .ok (id, length, cmd, later) ∧
      bytesBefore deadlineMs later = bytes := by
  obtain ⟨first, hFirst, hArrives, -⟩ := pollOneByte_of_arrived hDev arrives
  obtain ⟨second, hSecond, hArrives, -⟩ := pollOneByte_of_arrived hDev hArrives
  obtain ⟨third, hThird, hArrives, -⟩ := pollOneByte_of_arrived hDev hArrives
  refine ⟨third, ?_, hArrives⟩
  simp [takeFields, hFirst, hSecond, hThird, bind, Except.bind, pure, Except.pure]

/-- Behind a header: the fields are taken over if the checksum is right, and the parameters
are stored in any case. -/
theorem receiveBody_eq {s : SerialServo} (hDev : s.uartDev = true) {id length cmd : UInt8}
    {params : List UInt8} {checksum : UInt8} {bytes : List UInt8}
    (hLength : length.toNat = params.length + 3) (short : params.length ≤ 16)
    (arrives : bytesBefore deadlineMs polls = id :: length :: cmd :: (params ++ checksum :: bytes))
    (reply : ServoReply) :
    s.receiveBody deadlineMs polls reply =
      if total UInt8.toNat (id :: length :: cmd :: (params ++ [checksum])) % 256 = 255 then
        (⟨id, cmd, overlay 0 params reply.payload, UInt8.ofNat params.length⟩, .ok ())
      else ({ reply with payload := overlay 0 params reply.payload }, .error .eio) := by
  obtain ⟨first, hFields, hFirst⟩ := takeFields_eq hDev arrives
  obtain ⟨second, hParams, hSecond⟩ := takeParams_eq hDev params 0 reply.payload
    (id.toUInt16 + length.toUInt16 + cmd.toUInt16) hFirst
  obtain ⟨third, hChecksum, -⟩ := pollOneByte_of_arrived hDev hSecond
  have hThree : (3 : UInt8) ≤ length := by
    rw [UInt8.le_iff_toNat_le, hLength]
    exact Nat.le_add_left _ _
  have hLong : ¬length < 3 := UInt8.not_lt.mpr hThree
  have hSub : (length - 3).toNat = params.length := by
    rw [UInt8.toNat_sub_of_le _ _ hThree, hLength]
    rfl
  have hOfNat : length - 3 = UInt8.ofNat params.length := by
    rw [← hSub, UInt8.ofNat_toNat]
  have hShort : ¬length - 3 > 16 := by
    apply UInt8.not_lt.mpr
    rw [UInt8.le_iff_toNat_le, hSub]
    exact short
  simp only [receiveBody, hFields, if_neg hLong, if_neg hShort, hSub, hParams, hChecksum,
    ne_eq, ite_not, checksumByte_eq_iff]
  rw [hOfNat]

/-- The header is found behind noise, and what follows is read. -/
theorem receivePacket_noise {s : SerialServo} (hDev : s.uartDev = true) (nowMs : Int)
    (timeoutMs : UInt32) {noise bytes : List UInt8} (quiet : Quiet noise)
    (hLast : noise.getLast? ≠ some kFrameHead)
    (arrives : bytesBefore (nowMs + timeoutMs.toNat) polls =
      noise ++ kFrameHead :: kFrameHead :: bytes) (reply : ServoReply) :
    ∃ later, bytesBefore (nowMs + timeoutMs.toNat) later = bytes ∧
      s.receivePacket nowMs timeoutMs polls (some reply) =
        (some (s.receiveBody (nowMs + timeoutMs.toNat) later reply).1,
          (s.receiveBody (nowMs + timeoutMs.toNat) later reply).2) := by
  obtain ⟨later, hFound, hLater⟩ :=
    findHead_noise hDev quiet hLast (polls.length + 1) (Nat.lt_succ_self _) arrives
  refine ⟨later, hLater, ?_⟩
  simp only [receivePacket, hFound]

theorem total_packetBody (id cmd : UInt8) (params : List UInt8) :
    total UInt8.toNat (packetBody id cmd params) % 256 = 255 :=
  (checksumByte_eq_iff id _ cmd params _).mp rfl

theorem length_packetBody (id cmd : UInt8) (params : List UInt8) :
    (packetBody id cmd params).length = params.length + 4 := by
  simp [packetBody]

/-- A packet that is read from its first byte on is taken over. -/
theorem receiveBody_packetBody {s : SerialServo} (hDev : s.uartDev = true) {id cmd : UInt8}
    {params bytes : List UInt8} (short : params.length ≤ 10)
    (arrives : bytesBefore deadlineMs polls = packetBody id cmd params ++ bytes)
    (reply : ServoReply) :
    s.receiveBody deadlineMs polls reply =
      (⟨id, cmd, overlay 0 params reply.payload, UInt8.ofNat params.length⟩, .ok ()) := by
  have hLength : (UInt8.ofNat (params.length + 3)).toNat = params.length + 3 := by
    rw [UInt8.toNat_ofNat']
    omega
  have hSplit : packetBody id cmd params ++ bytes =
      id :: UInt8.ofNat (params.length + 3) :: cmd :: (params ++
        checksumByte (sumOver (id.toUInt16 + (UInt8.ofNat (params.length + 3)).toUInt16 +
          cmd.toUInt16) params) :: bytes) := by
    simp only [packetBody, List.cons_append, List.append_assoc, List.nil_append]
  rw [hSplit] at arrives
  rw [receiveBody_eq hDev hLength (by omega) arrives]
  exact if_pos (total_packetBody id cmd params)

/-- One different byte makes the checksum wrong. -/
theorem total_set_ne {bytes : List UInt8} (right : total UInt8.toNat bytes % 256 = 255) {i : Nat}
    (inside : i < bytes.length) {value : UInt8} (differs : value ≠ bytes.getD i 0) :
    total UInt8.toNat (bytes.set i value) % 256 ≠ 255 := by
  have hSet := total_set UInt8.toNat inside value 0
  have hNe : value.toNat ≠ (bytes.getD i 0).toNat := fun h => differs (UInt8.toNat_inj.mp h)
  have hValue := value.toNat_lt
  have hOld := (bytes.getD i 0).toNat_lt
  omega

/-- Bytes of the length of a packet are laid out as one. -/
theorem exists_fields {bytes : List UInt8} {n : Nat} (hLength : bytes.length = n + 4) :
    ∃ id length cmd params checksum, params.length = n ∧
      bytes = id :: length :: cmd :: (params ++ [checksum]) := by
  rcases bytes with _ | ⟨id, _ | ⟨length, _ | ⟨cmd, rest⟩⟩⟩
  iterate 3 simp at hLength
  have hRest : rest ≠ [] := by
    rintro rfl
    simp at hLength
  refine ⟨id, length, cmd, rest.dropLast, rest.getLast hRest, ?_, ?_⟩
  · rw [List.length_dropLast]
    simp only [List.length_cons] at hLength
    omega
  · rw [List.dropLast_append_getLast hRest]

/-- A packet with one different byte, but for its length, is refused. -/
theorem receiveBody_replaced {s : SerialServo} (hDev : s.uartDev = true) {id cmd : UInt8}
    {params : List UInt8} (short : params.length ≤ 10) {i : Nat}
    (inside : i < (packetBody id cmd params).length) (field : i ≠ 1) {value : UInt8}
    (differs : value ≠ (packetBody id cmd params).getD i 0)
    (arrives : bytesBefore deadlineMs polls = (packetBody id cmd params).set i value)
    (reply : ServoReply) :
    ∃ payload, s.receiveBody deadlineMs polls reply =
      ({ reply with payload := payload }, .error .eio) := by
  have hTotal := total_set_ne (total_packetBody id cmd params) inside differs
  have hSecond : ((packetBody id cmd params).set i value)[1]? =
      some (UInt8.ofNat (params.length + 3)) := by
    rw [List.getElem?_set_ne field]
    rfl
  obtain ⟨id', length', cmd', params', checksum', hParams, hFields⟩ :=
    exists_fields (n := params.length)
      ((List.length_set ..).trans (length_packetBody id cmd params))
  rw [hFields] at arrives hTotal hSecond
  have hLength : length'.toNat = params'.length + 3 := by
    rw [Option.some.inj hSecond, UInt8.toNat_ofNat', hParams]
    omega
  rw [receiveBody_eq hDev hLength (by omega) arrives, if_neg hTotal]
  exact ⟨_, rfl⟩

theorem takeParams_beyond (s : SerialServo) (remaining i : Nat) (payload : Nat → UInt8)
    (sum : UInt16) (polls : List Poll) {j : Nat} (beyond : i + remaining ≤ j) :
    (s.takeParams deadlineMs remaining i payload sum polls).1 j = payload j := by
  induction remaining generalizing i payload sum polls with
  | zero => rfl
  | succ remaining ih =>
      rw [takeParams]
      cases s.pollOneByte deadlineMs polls with
      | error rc => rfl
      | ok next =>
          have hNe : j ≠ i := by omega
          exact (ih (i + 1) _ _ _ (by omega)).trans (if_neg hNe)

theorem takeFields_ok {s : SerialServo} {id length cmd : UInt8} {later : List Poll}
    (ok : s.takeFields deadlineMs polls = .ok (id, length, cmd, later)) :
    bytesBefore deadlineMs polls = id :: length :: cmd :: bytesBefore deadlineMs later := by
  simp only [takeFields, bind, Except.bind, pure, Except.pure] at ok
  cases hFirst : s.pollOneByte deadlineMs polls with
  | error rc => simp [hFirst] at ok
  | ok first =>
      cases hSecond : s.pollOneByte deadlineMs first.2 with
      | error rc => simp [hFirst, hSecond] at ok
      | ok second =>
          cases hThird : s.pollOneByte deadlineMs second.2 with
          | error rc => simp [hFirst, hSecond, hThird] at ok
          | ok third =>
              simp only [hFirst, hSecond, hThird, Except.ok.injEq, Prod.mk.injEq] at ok
              obtain ⟨rfl, rfl, rfl, rfl⟩ := ok
              rw [pollOneByte_ok hFirst, pollOneByte_ok hSecond, pollOneByte_ok hThird]

/-- All that can happen behind a header: an error, which leaves everything but the stored
parameters, or a packet whose length is in bounds. -/
theorem receiveBody_cases (s : SerialServo) (deadlineMs : Int) (polls : List Poll)
    (reply : ServoReply) :
    ∃ payload, (∀ j, 16 ≤ j → payload j = reply.payload j) ∧
      ((∃ rc, s.receiveBody deadlineMs polls reply =
          ({ reply with payload := payload }, .error rc)) ∨
        ∃ id length cmd bytes, bytesBefore deadlineMs polls = id :: length :: cmd :: bytes ∧
          3 ≤ length ∧ length - 3 ≤ 16 ∧
          s.receiveBody deadlineMs polls reply = (⟨id, cmd, payload, length - 3⟩, .ok ())) := by
  cases hFields : s.takeFields deadlineMs polls with
  | error rc =>
      refine ⟨reply.payload, fun j _ => rfl, .inl ⟨.etimedout, ?_⟩⟩
      simp only [receiveBody, hFields]
  | ok fields =>
      obtain ⟨id, length, cmd, later⟩ := fields
      by_cases hShort : length < 3
      · refine ⟨reply.payload, fun j _ => rfl, .inl ⟨.eio, ?_⟩⟩
        simp only [receiveBody, hFields, if_pos hShort]
      by_cases hLong : length - 3 > 16
      · refine ⟨reply.payload, fun j _ => rfl, .inl ⟨.eoverflow, ?_⟩⟩
        simp only [receiveBody, hFields, if_neg hShort, if_pos hLong]
      have hBound : length - 3 ≤ 16 := UInt8.not_lt.mp hLong
      have hCount : (length - 3).toNat ≤ 16 := UInt8.le_iff_toNat_le.mp hBound
      have hBeyond : ∀ j, 16 ≤ j → (s.takeParams deadlineMs (length - 3).toNat 0 reply.payload
          (id.toUInt16 + length.toUInt16 + cmd.toUInt16) later).1 j = reply.payload j := by
        intro j beyond
        exact s.takeParams_beyond _ 0 _ _ later (by omega)
      cases hTaken : s.takeParams deadlineMs (length - 3).toNat 0 reply.payload
        (id.toUInt16 + length.toUInt16 + cmd.toUInt16) later with
      | mk payload rc =>
          rw [hTaken] at hBeyond
          refine ⟨payload, hBeyond, ?_⟩
          cases rc with
          | error rc =>
              refine .inl ⟨.etimedout, ?_⟩
              simp only [receiveBody, hFields, if_neg hShort, if_neg hLong, hTaken]
          | ok result =>
              cases hLast : s.pollOneByte deadlineMs result.2 with
              | error rc =>
                  refine .inl ⟨.etimedout, ?_⟩
                  simp only [receiveBody, hFields, if_neg hShort, if_neg hLong, hTaken, hLast]
              | ok final =>
                  by_cases hChecksum : final.1 ≠ checksumByte result.1
                  · refine .inl ⟨.eio, ?_⟩
                    simp only [receiveBody, hFields, if_neg hShort, if_neg hLong, hTaken, hLast,
                      if_pos hChecksum]
                  · refine .inr ⟨id, length, cmd, _, takeFields_ok hFields, UInt8.not_lt.mp hShort,
                      hBound, ?_⟩
                    simp only [receiveBody, hFields, if_neg hShort, if_neg hLong, hTaken, hLast,
                      if_neg hChecksum]

theorem receivePacket_sent {s : SerialServo} (ready : s.Ready) {nowMs : Int}
    {timeoutMs : UInt32} (id cmd : UInt8) {params : List UInt8} (short : params.length ≤ 10)
    (arrives : bytesBefore (nowMs + timeoutMs.toNat) polls = (s.sendPacket id cmd params).1)
    (reply : ServoReply) :
    s.receivePacket nowMs timeoutMs polls (some reply) =
      (some ⟨id, cmd, overlay 0 params reply.payload, UInt8.ofNat params.length⟩, .ok ()) := by
  rw [sendPacket_eq ready id cmd short] at arrives
  obtain ⟨later, hLater, hReceive⟩ := receivePacket_noise ready.uartDev nowMs timeoutMs
    quiet_nil (by simp) arrives reply
  rw [hReceive, receiveBody_packetBody ready.uartDev short
    (hLater.trans (List.append_nil _).symm)]

theorem receivePacket_replaced {s : SerialServo} (ready : s.Ready) {nowMs : Int}
    {timeoutMs : UInt32} {id cmd : UInt8} {params : List UInt8} (short : params.length ≤ 10)
    {i : Nat} {value : UInt8} (hFrom : 2 ≤ i) (field : i ≠ 3)
    (inside : i < (s.sendPacket id cmd params).1.length)
    (differs : value ≠ (s.sendPacket id cmd params).1.getD i 0)
    (arrives : bytesBefore (nowMs + timeoutMs.toNat) polls =
      (s.sendPacket id cmd params).1.set i value) (reply : ServoReply) :
    ∃ payload rc, s.receivePacket nowMs timeoutMs polls (some reply) =
      (some { reply with payload := payload }, .error rc) := by
  rw [sendPacket_eq ready id cmd short] at arrives inside differs
  obtain ⟨k, rfl⟩ := Nat.exists_eq_add_of_le' hFrom
  simp only [List.length_cons, List.getD_cons_succ, List.set_cons_succ] at arrives inside differs
  obtain ⟨later, hLater, hReceive⟩ := receivePacket_noise ready.uartDev nowMs timeoutMs
    quiet_nil (by simp) arrives reply
  obtain ⟨payload, hBody⟩ := receiveBody_replaced ready.uartDev short
    (by omega) (by omega) differs hLater reply
  exact ⟨payload, .eio, by rw [hReceive, hBody]⟩

/-- No more than sixteen of the stored parameters are touched. -/
theorem receivePacket_beyond (s : SerialServo) (nowMs : Int) (timeoutMs : UInt32)
    (polls : List Poll) (reply : ServoReply) :
    ∃ after, (s.receivePacket nowMs timeoutMs polls (some reply)).1 = some after ∧
      ∀ j, 16 ≤ j → after.payload j = reply.payload j := by
  rw [receivePacket]
  cases s.findHead (nowMs + timeoutMs.toNat) (polls.length + 1) polls with
  | error rc => exact ⟨reply, rfl, fun j _ => rfl⟩
  | ok later =>
      obtain ⟨payload, hBeyond, ⟨rc, hBody⟩ | ⟨id, length, cmd, bytes, -, -, -, hBody⟩⟩ :=
        s.receiveBody_cases (nowMs + timeoutMs.toNat) later reply
      · exact ⟨_, congrArg (fun body => some body.1) hBody, hBeyond⟩
      · exact ⟨_, congrArg (fun body => some body.1) hBody, hBeyond⟩

/-- Exactly the bytes of a packet give the packet back; with one of them replaced, other
than the header and the length, there is an error and only the stored parameters are
touched; and whatever arrives, sixteen of these are touched at most. -/
theorem receivePacket_checks (s : SerialServo) (nowMs : Int) (timeoutMs : UInt32)
    (polls : List Poll) (reply : ServoReply) :
    (∀ (id cmd : UInt8) (params : List UInt8), s.Ready → params.length ≤ 10 →
      bytesBefore (nowMs + timeoutMs.toNat) polls = (s.sendPacket id cmd params).1 →
        s.receivePacket nowMs timeoutMs polls (some reply) =
          (some ⟨id, cmd, overlay 0 params reply.payload, UInt8.ofNat params.length⟩, .ok ())) ∧
    (∀ (id cmd : UInt8) (params : List UInt8) (i : Nat) (value : UInt8), s.Ready →
      params.length ≤ 10 → 2 ≤ i → i ≠ 3 → i < (s.sendPacket id cmd params).1.length →
      value ≠ (s.sendPacket id cmd params).1.getD i 0 →
      bytesBefore (nowMs + timeoutMs.toNat) polls = (s.sendPacket id cmd params).1.set i value →
        ∃ payload rc, s.receivePacket nowMs timeoutMs polls (some reply) =
          (some { reply with payload := payload }, .error rc)) ∧
    ∃ after, (s.receivePacket nowMs timeoutMs polls (some reply)).1 = some after ∧
      ∀ j, 16 ≤ j → after.payload j = reply.payload j := by
  refine ⟨?_, ?_, s.receivePacket_beyond nowMs timeoutMs polls reply⟩
  · intro id cmd params ready short arrives
    exact receivePacket_sent ready id cmd short arrives reply
  · intro id cmd params i value ready short hFrom field inside differs arrives
    exact receivePacket_replaced ready short hFrom field inside differs arrives reply

/-- Behind noise without a header, a packet is received exactly when the noise does not end
in a header byte, which would make a header with the first byte of the packet. -/
theorem receivePacket_resynchronises_iff {s : SerialServo} (ready : s.Ready) (nowMs : Int)
    (timeoutMs : UInt32) (id cmd : UInt8) {params : List UInt8} (short : params.length ≤ 10)
    {noise : List UInt8} (quiet : Quiet noise) {polls : List Poll}
    (arrives : bytesBefore (nowMs + timeoutMs.toNat) polls =
      noise ++ (s.sendPacket id cmd params).1) (reply : ServoReply) :
    s.receivePacket nowMs timeoutMs polls (some reply) =
        (some ⟨id, cmd, overlay 0 params reply.payload, UInt8.ofNat params.length⟩, .ok ()) ↔
      noise.getLast? ≠ some kFrameHead := by
  rw [sendPacket_eq ready id cmd short] at arrives
  constructor
  · intro hReceived hLast
    obtain ⟨front, rfl⟩ := List.getLast?_eq_some_iff.mp hLast
    have hFront : Quiet front := fun h => quiet (h.trans (List.prefix_append front _).isInfix)
    have hFrontLast : front.getLast? ≠ some kFrameHead := by
      intro hTwo
      obtain ⟨start, rfl⟩ := List.getLast?_eq_some_iff.mp hTwo
      exact quiet ⟨start, [], by simp⟩
    rw [List.append_assoc] at arrives
    obtain ⟨later, hLater, hReceive⟩ := receivePacket_noise ready.uartDev nowMs timeoutMs
      hFront hFrontLast arrives reply
    rw [hReceive] at hReceived
    obtain ⟨payload, -, ⟨rc, hBody⟩ | ⟨id', length', cmd', bytes, hBytes, -, hBound, hBody⟩⟩ :=
      s.receiveBody_cases (nowMs + timeoutMs.toNat) later reply
    · rw [hBody] at hReceived
      cases (Prod.mk.inj hReceived).2
    · -- The second header byte is read as the id, and the id as the length.
      rw [hBody] at hReceived
      have hId : id' = id := (ServoReply.mk.inj (Option.some.inj (Prod.mk.inj hReceived).1)).1
      rw [hLater] at hBytes
      obtain ⟨hHead, hRest⟩ := List.cons.inj hBytes
      have hLength : id = length' := (List.cons.inj hRest).1
      rw [← hLength, ← hId, ← hHead] at hBound
      exact absurd hBound (by decide)
  · intro hLast
    obtain ⟨later, hLater, hReceive⟩ := receivePacket_noise ready.uartDev nowMs timeoutMs
      quiet hLast arrives reply
    rw [hReceive, receiveBody_packetBody ready.uartDev short
      (hLater.trans (List.append_nil _).symm)]

/-- A driver after a successful `Initialize`. -/
def running : SerialServo := (initial.initializeDriver true true).1

def noReply : ServoReply := ⟨0, 0, fun _ => 0, 0⟩

theorem receivePacket_behind_noise :
    running.receivePacket 0 20
        (lineAt 5 ([0x55, 0x00, 0x13] ++ (running.sendPacket 1 14 [7]).1)) (some noReply) =
      (some ⟨1, 14, overlay 0 [7] noReply.payload, 1⟩, .ok ()) :=
  (receivePacket_resynchronises_iff ⟨rfl, rfl⟩ 0 20 1 14 (show [7].length ≤ 10 by decide)
    (by rw [Quiet]; decide) (bytesBefore_lineAt (by decide) _) noReply).mpr (by decide)

/-- Noise of a single header byte hides the packet behind it. -/
theorem receivePacket_behind_head :
    Quiet [0x55] ∧
      bytesBefore 20 (lineAt 5 ([0x55] ++ (running.sendPacket 1 14 []).1)) =
        [0x55] ++ (running.sendPacket 1 14 []).1 ∧
      (running.receivePacket 0 20 (lineAt 5 ([0x55] ++ (running.sendPacket 1 14 []).1))
        (some noReply)).2 = .error .eio :=
  ⟨by rw [Quiet]; decide, bytesBefore_lineAt (by decide) _, rfl⟩

end RmTest.Platform.SerialServo
