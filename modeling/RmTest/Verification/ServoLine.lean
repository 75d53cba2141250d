import RmTest.Platform.SerialServo
import Mathlib.Tactic.SplitIfs

/-! The line that servo packets arrive on. The polls of a call matter only through the bytes
that they bring before the deadline, and noise in front of a header is passed over. -/
namespace RmTest.Platform

open Channels

/-- The bytes that arrive before the deadline. -/
def bytesBefore (deadlineMs : Int) (polls : List Poll) : List UInt8 :=
  (polls.takeWhile (·.uptimeMs < deadlineMs)).filterMap (·.rx)

namespace SerialServo

/-- The driver has its device and is initialised. -/
structure Ready (s : SerialServo) : Prop where
  uartDev : s.uartDev = true
  initialized : s.initialized = true

variable {deadlineMs : Int} {polls : List Poll}

theorem bytesBefore_cons (poll : Poll) (polls : List Poll) :
    bytesBefore deadlineMs (poll :: polls) =
      if poll.uptimeMs < deadlineMs then poll.rx.toList ++ bytesBefore deadlineMs polls
      else [] := by
  by_cases hTime : poll.uptimeMs < deadlineMs
  · rw [if_pos hTime, bytesBefore, List.takeWhile_cons, decide_eq_true hTime]
    cases hRx : poll.rx with
    | none => exact List.filterMap_cons_none hRx
    | some b => exact List.filterMap_cons_some hRx
  · rw [if_neg hTime, bytesBefore, List.takeWhile_cons, decide_eq_false hTime]
    rfl

theorem waitByte_ok {b : UInt8} {later : List Poll}
    (ok : waitByte deadlineMs polls = .ok (b, later)) :
    bytesBefore deadlineMs polls = b :: bytesBefore deadlineMs later ∧
      later.length < polls.length := by
  induction polls with
  | nil => cases ok
  | cons poll polls ih =>
      rw [waitByte] at ok
      rw [bytesBefore_cons]
      split_ifs at ok ⊢
      cases hRx : poll.rx with
      | none =>
          rw [hRx] at ok
          exact ⟨(ih ok).1, Nat.lt_succ_of_lt (ih ok).2⟩
      | some b' =>
          rw [hRx] at ok
          cases ok
          exact ⟨rfl, Nat.lt_succ_self _⟩

theorem waitByte_error {error : Errno} (fails : waitByte deadlineMs polls = .error error) :
    bytesBefore deadlineMs polls = [] := by
  induction polls with
  | nil => rfl
  | cons poll polls ih =>
      rw [waitByte] at fails
      rw [bytesBefore_cons]
      split_ifs at fails ⊢
      · cases hRx : poll.rx with
        | none =>
            rw [hRx] at fails
            exact ih fails
        | some b =>
            rw [hRx] at fails
            cases fails
      · rfl

/-- Bytes that are all there at a time before the deadline. -/
def lineAt (uptimeMs : Int) (bytes : List UInt8) : List Poll :=
  bytes.map fun b => ⟨uptimeMs, some b⟩

theorem bytesBefore_lineAt {uptimeMs : Int} (early : uptimeMs < deadlineMs) (bytes : List UInt8) :
    bytesBefore deadlineMs (lineAt uptimeMs bytes) = bytes := by
  induction bytes with
  | nil => rfl
  | cons b bytes ih =>
      have hCons : lineAt uptimeMs (b :: bytes) = ⟨uptimeMs, some b⟩ :: lineAt uptimeMs bytes := rfl
      rw [hCons, bytesBefore_cons, if_pos early, ih]
      rfl

/-- The next byte that arrives is the one that is polled. -/
theorem pollOneByte_of_arrived {s : SerialServo} (hDev : s.uartDev = true) {b : UInt8}
    {bytes : List UInt8} (arrives : bytesBefore deadlineMs polls = b :: bytes) :
    ∃ later, s.pollOneByte deadlineMs polls = .ok (b, later) ∧
      bytesBefore deadlineMs later = bytes ∧ later.length < polls.length := by
  have hPoll : s.pollOneByte deadlineMs polls = waitByte deadlineMs polls := by
    simp [pollOneByte, hDev]
  cases hWait : waitByte deadlineMs polls with
  | error error =>
      rw [waitByte_error hWait] at arrives
      cases arrives
  | ok result =>
      obtain ⟨b', later⟩ := result
      obtain ⟨hArrived, hLess⟩ := waitByte_ok hWait
      rw [hArrived] at arrives
      cases arrives
      exact ⟨later, hPoll.trans hWait, rfl, hLess⟩

theorem pollOneByte_ok {s : SerialServo} {b : UInt8} {later : List Poll}
    (ok : s.pollOneByte deadlineMs polls = .ok (b, later)) :
    bytesBefore deadlineMs polls = b :: bytesBefore deadlineMs later := by
  rw [pollOneByte] at ok
  split_ifs at ok
  exact (waitByte_ok ok).1

/-- No two header bytes stand next to each other. -/
def Quiet (noise : List UInt8) : Prop := ¬[kFrameHead, kFrameHead] <:+: noise

theorem Quiet.tail {b : UInt8} {noise : List UInt8} (quiet : Quiet (b :: noise)) : Quiet noise :=
  fun h => quiet (h.trans (List.suffix_cons b noise).isInfix)

theorem Quiet.second_ne {b : UInt8} {noise : List UInt8}
    (quiet : Quiet (kFrameHead :: b :: noise)) :
    b ≠ kFrameHead := by
  rintro rfl
  exact quiet ⟨[], noise, rfl⟩

theorem last_ne_tail {b : UInt8} {noise : List UInt8}
    (hLast : (b :: noise).getLast? ≠ some kFrameHead) : noise.getLast? ≠ some kFrameHead := by
  cases noise with
  | nil => simp
  | cons c noise => rwa [List.getLast?_cons_cons] at hLast

theorem quiet_nil : Quiet [] := by
  rintro ⟨front, back, hNil⟩
  simp at hNil

/-- Noise that does not end in a header byte is passed over, up to the header. -/
theorem findHead_noise {s : SerialServo} (hDev : s.uartDev = true) {noise bytes : List UInt8}
    (quiet : Quiet noise) (hLast : noise.getLast? ≠ some kFrameHead) (budget : Nat)
    (enough : polls.length < budget)
    (arrives : bytesBefore deadlineMs polls = noise ++ kFrameHead :: kFrameHead :: bytes) :
    ∃ later, s.findHead deadlineMs budget polls = .ok later ∧
      bytesBefore deadlineMs later = bytes := by
  induction budget generalizing noise polls with
  | zero => exact absurd enough (Nat.not_lt_zero _)
  | succ budget ih =>
      cases noise with
      | nil =>
          obtain ⟨later, hPoll, hArrives, hLess⟩ := pollOneByte_of_arrived hDev arrives
          obtain ⟨later', hPoll', hArrives', hLess'⟩ := pollOneByte_of_arrived hDev hArrives
          refine ⟨later', ?_, hArrives'⟩
          simp [findHead, hPoll, hPoll', bind, Except.bind, pure, Except.pure]
      | cons b noise =>
          obtain ⟨later, hPoll, hArrives, hLess⟩ := pollOneByte_of_arrived hDev arrives
          by_cases hHead : b = kFrameHead
          · subst hHead
            cases noise with
            | nil => exact absurd rfl hLast
            | cons b noise =>
                obtain ⟨later', hPoll', hArrives', hLess'⟩ := pollOneByte_of_arrived hDev hArrives
                have hSecond := quiet.second_ne
                have hRest := last_ne_tail (last_ne_tail hLast)
                obtain ⟨found, hFound⟩ := ih quiet.tail.tail hRest (by omega) hArrives'
                refine ⟨found, ?_, hFound.2⟩
                simpa [findHead, hPoll, hPoll', hSecond, bind, Except.bind] using hFound.1
          · obtain ⟨found, hFound⟩ := ih quiet.tail (last_ne_tail hLast) (by omega) hArrives
            refine ⟨found, ?_, hFound.2⟩
            simpa [findHead, hPoll, hHead, bind, Except.bind] using hFound.1

end SerialServo

end RmTest.Platform
