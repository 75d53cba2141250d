import RmTest.Algorithms.Interpolation
import RmTest.Library.Run
import Mathlib.Tactic.Ring

/-! What a segment of an interpolation outputs, in exact arithmetic. `start` leaves the
counter as the segment before has left it. -/
namespace RmTest.Algorithms.Interpolation

open FloatModel

variable {memory : Memory ℚ} {startPoint endPoint : ℚ} {pointNum : UInt8} {t : Nat}

/-- A call of `Output` clears the counter or leaves it below the number of points. -/
theorem output_times (memory : Memory ℚ) :
    (output memory).2.times = 0 ∧ (output memory).2.object.state = .ended ∨
      (output memory).2.times < memory.object.pointNum ∧
        (output memory).2.object.state = .ing := by
  by_cases hEnds : memory.object.pointNum ≤ memory.times + 1 ∨ memory.object.state = .ended
  · refine .inl ⟨?_, ?_⟩ <;> simp only [output, if_pos hEnds]
  · refine .inr ⟨?_, ?_⟩ <;> simp only [output, if_neg hEnds]
    exact UInt8.not_le.mp (not_or.mp hEnds).1

theorem call_times_lt (memory : Memory ℚ) (next : Call ℚ) (bound : memory.times.toNat < 255) :
    (call memory next).times.toNat < 255 := by
  cases next with
  | start startPoint endPoint pointNum => exact bound
  | output =>
      rcases output_times memory with ⟨hZero, -⟩ | ⟨hBelow, -⟩
      · rw [call, hZero, UInt8.toNat_zero]
        omega
      · have hPoints := memory.object.pointNum.toNat_lt
        have hTimes := UInt8.lt_iff_toNat_lt.mp hBelow
        rw [call]
        omega

/-- No calls bring the counter to where the next step would wrap it. -/
theorem calls_times_lt (constructed : Constructed memory) (calls : List (Call ℚ)) :
    (calls.foldl call memory).times.toNat < 255 := by
  have hStart : memory.times.toNat < 255 := by
    rw [constructed.2, UInt8.toNat_zero]
    omega
  exact Run.foldl_invariant call_times_lt hStart calls

/-- A segment has come as far as the counter says. -/
structure Running (startPoint endPoint : ℚ) (pointNum : UInt8) (t : Nat) (memory : Memory ℚ) :
    Prop where
  startPoint_eq : memory.object.startPoint = startPoint
  endPoint_eq : memory.object.endPoint = endPoint
  pointNum_eq : memory.object.pointNum = pointNum
  going : memory.object.state ≠ .ended
  times_eq : memory.times.toNat = t
  bound : t < 255

theorem running_start (bound : memory.times.toNat < 255) :
    Running startPoint endPoint pointNum memory.times.toNat
      (start startPoint endPoint pointNum memory) :=
  ⟨rfl, rfl, rfl, InterpolationState.noConfusion, rfl, bound⟩

/-- The line through the points of a segment. -/
def line (startPoint endPoint : ℚ) (pointNum : UInt8) (i : Nat) : ℚ :=
  startPoint + (endPoint - startPoint) * i / pointNum.toNat

theorem Running.next_times (running : Running startPoint endPoint pointNum t memory) :
    (memory.times + 1).toNat = t + 1 := by
  have hBound := running.bound
  rw [UInt8.toNat_add, running.times_eq, UInt8.toNat_one]
  omega

theorem Running.output_step (running : Running startPoint endPoint pointNum t memory)
    (more : t + 1 < pointNum.toNat) :
    (output memory).1 = line startPoint endPoint pointNum (t + 1) ∧
      Running startPoint endPoint pointNum (t + 1) (output memory).2 := by
  have hTimes := running.next_times
  have hPoints := pointNum.toNat_lt
  have hGoesOn : ¬ (memory.object.pointNum ≤ memory.times + 1 ∨ memory.object.state = .ended) := by
    rw [running.pointNum_eq, UInt8.le_iff_toNat_le, hTimes]
    exact not_or.mpr ⟨by omega, running.going⟩
  simp only [output, if_neg hGoesOn]
  refine ⟨?_, running.startPoint_eq, running.endPoint_eq, running.pointNum_eq,
    InterpolationState.noConfusion, hTimes, by omega⟩
  rw [running.startPoint_eq, running.endPoint_eq, running.pointNum_eq, hTimes, lit_rat, lit_rat,
    line]
  ring

/-- A segment that has ended stays at its end. -/
def Ended (endPoint : ℚ) (memory : Memory ℚ) : Prop :=
  memory.object.endPoint = endPoint ∧ memory.object.state = .ended

theorem Ended.output (ended : Ended endPoint memory) :
    (output memory).1 = endPoint ∧ Ended endPoint (output memory).2 := by
  have hEnds : memory.object.pointNum ≤ memory.times + 1 ∨ memory.object.state = .ended :=
    .inr ended.2
  simp only [Interpolation.output, if_pos hEnds]
  exact ⟨ended.1, ended.1, rfl⟩

theorem Running.output_last (running : Running startPoint endPoint pointNum t memory)
    (last : pointNum.toNat ≤ t + 1) :
    (output memory).1 = endPoint ∧ Ended endPoint (output memory).2 := by
  have hEnds : memory.object.pointNum ≤ memory.times + 1 ∨ memory.object.state = .ended := by
    rw [running.pointNum_eq, UInt8.le_iff_toNat_le, running.next_times]
    exact .inl last
  simp only [output, if_pos hEnds]
  exact ⟨running.endPoint_eq, running.endPoint_eq, rfl⟩

theorem nthOutput_succ (memory : Memory ℚ) (i : Nat) :
    nthOutput memory (i + 2) = nthOutput (output memory).2 (i + 1) := rfl

theorem nthOutput_ended (i : Nat) (ended : Ended endPoint memory) :
    nthOutput memory (i + 1) = endPoint := by
  induction i generalizing memory with
  | zero => exact ended.output.1
  | succ i ih =>
      rw [nthOutput_succ]
      exact ih ended.output.2

/-- From where the counter stands, the outputs go on along the line and stay at its end. -/
theorem nthOutput_running (i : Nat) (running : Running startPoint endPoint pointNum t memory) :
    nthOutput memory (i + 1) =
      if t + (i + 1) < pointNum.toNat then line startPoint endPoint pointNum (t + (i + 1))
      else endPoint := by
  induction i generalizing t memory with
  | zero =>
      by_cases hMore : t + 1 < pointNum.toNat
      · rw [if_pos hMore]
        exact (running.output_step hMore).1
      · rw [if_neg hMore]
        exact (running.output_last (Nat.not_lt.mp hMore)).1
  | succ i ih =>
      rw [nthOutput_succ]
      by_cases hMore : t + 1 < pointNum.toNat
      · rw [ih (running.output_step hMore).2, Nat.add_right_comm t 1, Nat.add_assoc t]
      · have hPast : ¬ t + (i + 1 + 1) < pointNum.toNat := by omega
        rw [nthOutput_ended i (running.output_last (Nat.not_lt.mp hMore)).2, if_neg hPast]

theorem line_eq_iff (positive : 0 < pointNum.toNat) (i j : Nat) :
    line startPoint endPoint pointNum i = line startPoint endPoint pointNum j ↔
      startPoint = endPoint ∨ i = j := by
  have hPoints : (pointNum.toNat : ℚ) ≠ 0 := Nat.cast_ne_zero.mpr positive.ne'
  rw [line, line, add_right_inj, div_left_inj' hPoints, mul_eq_mul_left_iff, Nat.cast_inj,
    sub_eq_zero, or_comm, eq_comm (a := endPoint)]

theorem line_pointNum (positive : 0 < pointNum.toNat) :
    line startPoint endPoint pointNum pointNum.toNat = endPoint := by
  have hPoints : (pointNum.toNat : ℚ) ≠ 0 := Nat.cast_ne_zero.mpr positive.ne'
  rw [line, mul_div_cancel_right₀ _ hPoints]
  ring

/-- A segment that starts with the counter at `t` is right throughout exactly if the
counter is cleared, the segment is level, or it has a single step. -/
theorem nthOutput_running_iff (running : Running startPoint endPoint pointNum t memory)
    (positive : 0 < pointNum.toNat) :
    (∀ i, 1 ≤ i → nthOutput memory i =
        if i < pointNum.toNat then line startPoint endPoint pointNum i else endPoint) ↔
      t = 0 ∨ startPoint = endPoint ∨ pointNum.toNat = 1 := by
  have hEnd : line startPoint endPoint pointNum pointNum.toNat = endPoint := line_pointNum positive
  constructor
  · intro hRight
    by_contra hBroken
    obtain ⟨hCounter, hLevel, hSingle⟩ : t ≠ 0 ∧ startPoint ≠ endPoint ∧ pointNum.toNat ≠ 1 := by
      simpa only [not_or] using hBroken
    have hFirst := hRight 1 (Nat.le_refl 1)
    have hMore : 1 < pointNum.toNat := by omega
    rw [nthOutput_running 0 running, Nat.zero_add, if_pos hMore] at hFirst
    -- The first output already is one of another point of the line.
    by_cases hInside : t + 1 < pointNum.toNat
    · rw [if_pos hInside, line_eq_iff positive] at hFirst
      rcases hFirst with hSame | hStep
      · exact hLevel hSame
      · omega
    · rw [if_neg hInside] at hFirst
      rcases (line_eq_iff positive _ _).mp (hEnd.trans hFirst) with hSame | hStep
      · exact hLevel hSame
      · omega
  · intro hGuard i hPositive
    obtain ⟨i, rfl⟩ := Nat.exists_eq_add_of_le' hPositive
    rw [nthOutput_running i running]
    rcases hGuard with rfl | rfl | hSingle
    · rw [Nat.zero_add]
    · have hLevel (j : Nat) : line startPoint startPoint pointNum j = startPoint :=
        ((line_eq_iff positive j pointNum.toNat).mpr (.inl rfl)).trans hEnd
      rw [hLevel, hLevel, ite_self, ite_self]
    · have hPast (k : Nat) : ¬ k + (i + 1) < pointNum.toNat := by omega
      have hPast' : ¬ i + 1 < pointNum.toNat := by omega
      rw [if_neg (hPast t), if_neg hPast']

/-- After any calls, a segment is output as it should be exactly if `start` finds the counter
cleared, or the segment is level or has a single step. -/
theorem restart_outputs_iff (constructed : Constructed memory) (calls : List (Call ℚ))
    (startPoint endPoint : ℚ) (pointNum : UInt8) (positive : 1 ≤ pointNum.toNat) :
    (∀ i, 1 ≤ i →
        nthOutput (start startPoint endPoint pointNum (calls.foldl call memory)) i =
          if i < pointNum.toNat then
            startPoint + (endPoint - startPoint) * i / pointNum.toNat
          else endPoint) ↔
      (calls.foldl call memory).times = 0 ∨ startPoint = endPoint ∨ pointNum = 1 := by
  have hRunning : Running startPoint endPoint pointNum (calls.foldl call memory).times.toNat
      (start startPoint endPoint pointNum (calls.foldl call memory)) :=
    running_start (calls_times_lt constructed calls)
  have hExact := nthOutput_running_iff hRunning positive
  rw [← UInt8.toNat_zero, UInt8.toNat_inj, ← UInt8.toNat_one, UInt8.toNat_inj] at hExact
  exact hExact

/-- Static storage before the first call, with zeros where nothing is initialised. -/
def zeroed : Memory ℚ := ⟨⟨0, 0, 0, 0, .ended⟩, 0⟩

/-- A segment of three steps that has ended leaves the counter cleared, so that the next one is
output from its start. -/
theorem restart_outputs_iff_ended :
    ([.start 0 1 3, .output, .output, .output].foldl call zeroed).object.state = .ended ∧
      ∀ i, 1 ≤ i →
        nthOutput (start 5 8 10
          ([.start 0 1 3, .output, .output, .output].foldl call zeroed)) i =
            if i < (10 : UInt8).toNat then 5 + (8 - 5) * (i : ℚ) / (10 : UInt8).toNat else 8 :=
  ⟨rfl, (restart_outputs_iff ⟨rfl, rfl⟩ [.start 0 1 3, .output, .output, .output] 5 8 10
    (by decide)).mpr (.inl rfl)⟩

/-- Three steps into a segment of ten, a new segment starts at its fourth point. -/
theorem restart_interrupted :
    ¬ ∀ i, 1 ≤ i →
      nthOutput (start 0 1 10
        ([.start 0 1 10, .output, .output, .output].foldl call zeroed)) i =
          if i < (10 : UInt8).toNat then 0 + (1 - 0) * (i : ℚ) / (10 : UInt8).toNat else 1 := by
  have hCounter :
      ([.start 0 1 10, .output, .output, .output].foldl call zeroed).times.toNat = 3 := rfl
  have hRunning : Running 0 1 10 3
      (start 0 1 10 ([.start 0 1 10, .output, .output, .output].foldl call zeroed)) :=
    ⟨rfl, rfl, rfl, InterpolationState.noConfusion, hCounter, by omega⟩
  intro hRight
  rcases (nthOutput_running_iff hRunning (by decide)).mp hRight with hCleared | hLevel | hSingle
  · cases hCleared
  · exact zero_ne_one hLevel
  · cases hSingle

end RmTest.Algorithms.Interpolation
