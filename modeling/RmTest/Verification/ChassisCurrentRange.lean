import RmTest.Verification.ChassisWatchdog
import RmTest.Verification.PidSingles

/-! The conversion of the controllers' outputs to currents, over runs in which
commands are published, the loop ticks and the tuning changes in any order. Floats
are singles. -/
namespace RmTest.Modules.ChassisModule

open Algorithms Channels Protocols Platform Services FloatModel Single

/-- The integral stays small: its limits are in order, or void, or small ones. -/
def BoundsIntegral (ki iLimit : Single) : Prop :=
  ki.negative = false ∨ iLimit.read = .nan ∨
    ∃ i l, ki.read = .num i ∧ iLimit.read = .num l ∧ l ≤ 2 ^ 29 * |i|

/-- A tuning of numbers whose output limit fits `int16_t` and that lets one of the three terms
overflow at most. -/
structure SaneTuning (kp ki kd iLimit outLimit : Single) : Prop where
  gains : ∃ p i d, kp.read = .num p ∧ ki.read = .num i ∧ kd.read = .num d ∧
    (i = 0 → BoundsIntegral ki iLimit) ∧
    (|p| ≤ 5 * 10 ^ 33 ∧ |d| ≤ 5 * 10 ^ 30 ∨
      |p| ≤ 5 * 10 ^ 33 ∧ |i| ≤ 15 * 10 ^ 28 ∧ BoundsIntegral ki iLimit ∨
      |d| ≤ 5 * 10 ^ 30 ∧ |i| ≤ 15 * 10 ^ 28 ∧ BoundsIntegral ki iLimit)
  outLimit : ∃ l, outLimit.read = .num l ∧ l ≤ 32767

theorem timeStep_reads :
    (lit (1 / 1000) : Single).read = .num (8589935 / 2 ^ 33) ∧
      (lit 1 * lit (1 / 1000) : Single).read = .num (8589935 / 2 ^ 33) := by
  decide +kernel

theorem nearest_half_largest : nearest (largest / 2) = largest / 2 := by
  have hHalf : largest / 2 = valueOf 0x7effffff := by norm_num [largest, valueOf]
  rw [hHalf, nearest_valueOf]

/-- What is accepted as a limit is a NaN or positive. -/
theorem limit_of_accepted {limit : Single} (accepted : le limit 0 = false) :
    limit.read = .nan ∨
      limit.negative = false ∧ ∀ l, limit.read = .num l → 0 < l := by
  obtain ⟨hLess, hEqual⟩ := Bool.or_eq_false_iff.mp accepted
  cases hLimit : limit.read with
  | num l =>
      rw [lt_num hLimit read_zero, decide_eq_false_iff_not] at hLess
      rw [eq_num hLimit read_zero, decide_eq_false_iff_not] at hEqual
      have hPositive : 0 < l := (not_lt.mp hLess).lt_of_ne (Ne.symm hEqual)
      refine .inr ⟨?_, fun l' hSame => Reading.num.inj hSame ▸ hPositive⟩
      rw [negative_of_read hLimit hEqual]
      exact decide_eq_false hLess
  | infinite sign =>
      rw [(lt_infinite_num hLimit read_zero).1] at hLess
      exact .inr ⟨(negative_of_infinite hLimit).trans hLess, fun l hNum => by cases hNum⟩
  | nan => exact .inl rfl

section Terms

variable {pid : Pid Single} {kp ki kd iLimit outLimit : Single}

/-- The limits keep a small integral small. -/
theorem clampedIntegral_bounded
    (config : pid.config = .basic kp ki kd 0 iLimit outLimit (lit (1 / 1000)))
    (accepted : le iLimit 0 = false) {i q : ℚ} (hKi : ki.read = .num i)
    (bounds : BoundsIntegral ki iLimit) (hIntegral : pid.integralError.read = .num q)
    (hQ : |q| ≤ 2 ^ 30) : ∃ q', pid.clampedIntegral.read = .num q' ∧ |q'| ≤ 2 ^ 30 := by
  have hLimited : pid.clampedIntegral = clamp pid.integralError (-iLimit / ki) (iLimit / ki) := by
    simp only [Pid.clampedIntegral, config, PidConfig.basic, (Bool.or_eq_false_iff.mp accepted).2,
      Bool.false_eq_true, if_false, mathConstrain_eq_clamp]
  have hVoid (nan : iLimit.read = .nan) : pid.clampedIntegral = pid.integralError := by
    rw [hLimited]
    exact clamp_nan_limits (div_nan (read_neg_nan nan)) (div_nan nan) _
  rcases limit_of_accepted accepted with hNan | ⟨hSign, hPositive⟩
  · rw [hVoid hNan]
    exact ⟨q, hIntegral, hQ⟩
  rcases bounds with hOrder | hNan | ⟨i', l, hKi', hLimit, hSmall⟩
  · rw [hLimited]
    rcases div_opposite iLimit hKi with ⟨hHigh, hLow⟩ | ⟨n, hHigh, hLow⟩
    · rw [clamp_nan_limits hLow hHigh]
      exact ⟨q, hIntegral, hQ⟩
    · rw [hLow, hHigh, hSign, hOrder]
      obtain ⟨q', hClamped, hNearer⟩ := clamp_opposite hIntegral n
      exact ⟨q', hClamped, hNearer.trans hQ⟩
  · rw [hVoid hNan]
    exact ⟨q, hIntegral, hQ⟩
  · obtain rfl : i' = i := Reading.num.inj (hKi'.symm.trans hKi)
    have hPos := hPositive l hLimit
    have hGain : 0 < |i'| := pos_of_mul_pos_right (hPos.trans_le hSmall) (by norm_num)
    have hQuotient : |l / i'| ≤ 2 ^ 29 := by
      rw [abs_div, abs_of_pos hPos]
      exact (div_le_iff₀ hGain).mpr hSmall
    have hQuotient' : |-l / i'| ≤ 2 ^ 29 := by rwa [neg_div, abs_neg]
    have hLargest : (2 : ℚ) ^ 29 ≤ largest := by
      rw [largest_eq]
      norm_num
    have hRounds : nearest (2 ^ 29) = 2 ^ 29 := by decide +kernel
    have hHigh := read_div hLimit hKi (abs_pos.mp hGain) (hQuotient.trans hLargest)
    have hLow := read_div (read_neg_num hLimit) hKi (abs_pos.mp hGain) (hQuotient'.trans hLargest)
    have hHighBound := abs_nearest_le hRounds hQuotient
    have hLowBound := abs_nearest_le hRounds hQuotient'
    rw [hLimited]
    rcases clamp_mem pid.integralError (-iLimit / ki) (iLimit / ki) with h | h | h <;> rw [h]
    · exact ⟨q, hIntegral, hQ⟩
    · exact ⟨_, hLow, by linarith⟩
    · exact ⟨_, hHigh, by linarith⟩

/-- With a gain, what is no NaN stays none, whatever the limits. -/
theorem clampedIntegral_ne_nan
    (config : pid.config = .basic kp ki kd 0 iLimit outLimit (lit (1 / 1000)))
    (number : iLimit.read ≠ .nan) {i : ℚ} (hKi : ki.read = .num i) (gain : i ≠ 0)
    (hIntegral : pid.integralError.read ≠ .nan) : pid.clampedIntegral.read ≠ .nan := by
  have hNeg : (-iLimit).read ≠ .nan := by
    rw [Ne, ← isNan_iff, isNan_neg, isNan_iff]
    exact number
  simp only [Pid.clampedIntegral, config, PidConfig.basic, mathConstrain_eq_clamp]
  split_ifs
  · exact hIntegral
  · rcases clamp_mem pid.integralError (-iLimit / ki) (iLimit / ki) with h | h | h <;> rw [h]
    · exact hIntegral
    · exact div_ne_nan hNeg hKi gain
    · exact div_ne_nan number hKi gain

/-- A step of the integral of one tick. -/
theorem step_reads {error : Single} {e : ℚ} (hError : error.read = .num e) (hE : |e| ≤ 32808) :
    ∃ s, (lit 1 * lit (1 / 1000) * error).read = .num s ∧ |s| ≤ 33 := by
  have hProduct : |8589935 / 2 ^ 33 * e| ≤ ((33 : Nat) : ℚ) := by
    rw [abs_mul, abs_of_pos (by norm_num)]
    norm_num
    linarith
  have hLargest : ((33 : Nat) : ℚ) ≤ largest := by
    rw [largest_eq]
    norm_num
  exact ⟨_, read_mul timeStep_reads.2 hError (hProduct.trans hLargest),
    abs_nearest_le (nearest_natCast (by norm_num)) hProduct⟩

/-- The integral is no NaN, and small where it is bounded. It comes to rest where a step no longer
reaches its last place. -/
def SoundIntegral (ki iLimit integral : Single) : Prop :=
  integral.read ≠ .nan ∧
    (BoundsIntegral ki iLimit → ∃ q, integral.read = .num q ∧ |q| ≤ 2 ^ 30)

theorem soundIntegral_zero (ki iLimit : Single) : SoundIntegral ki iLimit 0 :=
  ⟨ne_nan_of_num read_zero, fun _ => ⟨0, read_zero, by norm_num⟩⟩

theorem soundIntegral_accumulated
    (config : pid.config = .basic kp ki kd 0 iLimit outLimit (lit (1 / 1000)))
    (accepted : le iLimit 0 = false) {i : ℚ} (hKi : ki.read = .num i)
    (gain : i = 0 → BoundsIntegral ki iLimit)
    (sound : SoundIntegral ki iLimit pid.integralError) {error : Single} {e : ℚ}
    (hError : error.read = .num e) (hE : |e| ≤ 32808) :
    SoundIntegral ki iLimit (pid.accumulated error) := by
  obtain ⟨s, hStep, hS⟩ := step_reads hError hE
  have hAccumulated :
      pid.accumulated error = pid.clampedIntegral + lit 1 * lit (1 / 1000) * error := by
    rw [Pid.accumulated, config]
    rfl
  rw [hAccumulated]
  by_cases hBounds : BoundsIntegral ki iLimit
  · obtain ⟨q, hIntegral, hQ⟩ := sound.2 hBounds
    obtain ⟨q', hLimited, hQ'⟩ := clampedIntegral_bounded config accepted hKi hBounds hIntegral hQ
    have hSum : |q' + s| ≤ 2 ^ 30 + 33 := (abs_add_le q' s).trans (by linarith)
    have hLargest : (2 : ℚ) ^ 30 + 33 ≤ largest := by
      rw [largest_eq]
      norm_num
    have hSaturates : nearest (2 ^ 30 + 33) = 2 ^ 30 := by decide +kernel
    have hRead := read_add hLimited hStep (hSum.trans hLargest)
    exact ⟨ne_nan_of_num hRead, fun _ => ⟨_, hRead, abs_nearest_le hSaturates hSum⟩⟩
  · have hNumber : iLimit.read ≠ .nan := fun h => hBounds (.inr (.inl h))
    have hLimited := clampedIntegral_ne_nan config hNumber hKi (fun h => hBounds (gain h)) sound.1
    exact ⟨add_ne_nan' hLimited hStep, fun h => absurd h hBounds⟩

/-- A product that takes up at most half of the range. -/
theorem read_mul_half {a b : Single} {x y : ℚ} (ha : a.read = .num x) (hb : b.read = .num y)
    (half : |x * y| ≤ largest / 2) :
    ∃ z, (a * b).read = .num z ∧ |z| ≤ largest / 2 := by
  have hNonneg : 0 ≤ largest := valueOf_nonneg _
  exact ⟨_, read_mul ha hb (by linarith), abs_nearest_le nearest_half_largest half⟩

theorem read_derivative {difference : Single} {d c : ℚ} (hKd : kd.read = .num d)
    (hD : |d| ≤ 5 * 10 ^ 30) (hDifference : difference.read = .num c) (hC : |c| ≤ 65616) :
    ∃ z, (kd * difference / lit (1 / 1000)).read = .num z := by
  have hProduct : |d * c| ≤ 2 ^ 118 := by
    rw [abs_mul]
    calc |d| * |c| ≤ 5 * 10 ^ 30 * 65616 := mul_le_mul hD hC (abs_nonneg c) (by norm_num)
      _ ≤ 2 ^ 118 := by norm_num
  have hLargest : (2 : ℚ) ^ 118 ≤ largest := by
    rw [largest_eq]
    norm_num
  have hRounds : nearest (2 ^ 118) = 2 ^ 118 := by decide +kernel
  have hRounded := abs_nearest_le hRounds hProduct
  have hRead := read_mul hKd hDifference (hProduct.trans hLargest)
  refine ⟨_, read_div hRead timeStep_reads.1 (by norm_num) ?_⟩
  rw [abs_div, abs_of_pos (a := (8589935 / 2 ^ 33 : ℚ)) (by norm_num), largest_eq]
  calc |nearest (d * c)| / (8589935 / 2 ^ 33) ≤ 2 ^ 118 / (8589935 / 2 ^ 33) := by gcongr
    _ ≤ (2 ^ 24 - 1) * 2 ^ 104 := by norm_num

/-- One infinite term at most makes no NaN. -/
theorem terms_ne_nan
    (config : pid.config = .basic kp ki kd 0 iLimit outLimit (lit (1 / 1000)))
    (sane : SaneTuning kp ki kd iLimit outLimit) {target error : Single} {e c f : ℚ}
    (hError : error.read = .num e) (hE : |e| ≤ 32808)
    (hChange : (error - pid.preError).read = .num c) (hC : |c| ≤ 65616)
    (hForward : (target - pid.preTarget).read = .num f)
    (sound : SoundIntegral ki iLimit (pid.accumulated error)) :
    (pid.terms target error).read ≠ .nan := by
  obtain ⟨p, i, d, hKp, hKi, hKd, hGain, hModerate⟩ := sane.gains
  have hP : (kp * error).read ≠ .nan := mul_ne_nan hKp hError
  have hI : (ki * pid.accumulated error).read ≠ .nan := by
    by_cases hZero : i = 0
    · obtain ⟨q, hIntegral, -⟩ := sound.2 (hGain hZero)
      exact mul_ne_nan hKi hIntegral
    · exact mul_ne_nan' hKi hZero sound.1
  have hD : (kd * (error - pid.preError) / lit (1 / 1000)).read ≠ .nan :=
    div_ne_nan (mul_ne_nan hKd hChange) timeStep_reads.1 (by norm_num)
  have hF : (0 * (target - pid.preTarget)).read = .num 0 := read_zero_mul read_zero hForward
  have hSmallP (small : |p| ≤ 5 * 10 ^ 33) :
      ∃ z, (kp * error).read = .num z ∧ |z| ≤ largest / 2 := by
    refine read_mul_half hKp hError ?_
    rw [abs_mul]
    calc |p| * |e| ≤ 5 * 10 ^ 33 * 32808 := mul_le_mul small hE (abs_nonneg e) (by norm_num)
      _ ≤ largest / 2 := by rw [largest_eq]; norm_num
  have hSmallI (small : |i| ≤ 15 * 10 ^ 28) (bounds : BoundsIntegral ki iLimit) :
      ∃ z, (ki * pid.accumulated error).read = .num z ∧ |z| ≤ largest / 2 := by
    obtain ⟨q, hIntegral, hQ⟩ := sound.2 bounds
    refine read_mul_half hKi hIntegral ?_
    rw [abs_mul]
    calc |i| * |q| ≤ 15 * 10 ^ 28 * 2 ^ 30 := mul_le_mul small hQ (abs_nonneg q) (by norm_num)
      _ ≤ largest / 2 := by rw [largest_eq]; norm_num
  rw [Pid.terms, config]
  refine add_ne_nan' ?_ hF
  rcases hModerate with ⟨smallP, smallD⟩ | ⟨smallP, smallI, bounds⟩ | ⟨smallD, smallI, bounds⟩
  · obtain ⟨x, hX, -⟩ := hSmallP smallP
    obtain ⟨z, hZ⟩ := read_derivative hKd smallD hChange hC
    exact add_ne_nan' (add_ne_nan hX hI) hZ
  · obtain ⟨x, hX, hXHalf⟩ := hSmallP smallP
    obtain ⟨y, hY, hYHalf⟩ := hSmallI smallI bounds
    have hSum := read_add hX hY ((abs_add_le x y).trans (by linarith))
    exact add_ne_nan hSum hD
  · obtain ⟨y, hY, -⟩ := hSmallI smallI bounds
    obtain ⟨z, hZ⟩ := read_derivative hKd smallD hChange hC
    exact add_ne_nan' (add_ne_nan' hP hY) hZ

end Terms

/-- What a controller keeps from tick to tick. -/
structure SoundPid (pid : Pid Single) : Prop where
  tuning : ∃ kp ki kd iLimit outLimit,
    pid.config = .basic kp ki kd 0 iLimit outLimit (lit (1 / 1000)) ∧ Accepts iLimit outLimit ∧
      SaneTuning kp ki kd iLimit outLimit ∧ SoundIntegral ki iLimit pid.integralError
  preError : ∃ q, pid.preError.read = .num q ∧ |q| ≤ 32808
  preTarget : ∃ q, pid.preTarget.read = .num q ∧ |q| ≤ 40

/-- The numbers that a controller meets are small, so that their differences are numbers. -/
theorem read_sub_small {a b : Single} {x y : ℚ} {n : Nat} (small : n ≤ 2 ^ 24)
    (ha : a.read = .num x) (hb : b.read = .num y) (bound : |x| + |y| ≤ n) :
    ∃ q, (a - b).read = .num q ∧ |q| ≤ n := by
  have hDifference : |x - y| ≤ n := (abs_sub x y).trans bound
  have hLargest : (n : ℚ) ≤ largest := by
    have hCast : (n : ℚ) ≤ 2 ^ 24 := by exact_mod_cast small
    rw [largest_eq]
    exact hCast.trans (by norm_num)
  exact ⟨_, read_sub ha hb (hDifference.trans hLargest),
    abs_nearest_le (nearest_natCast small) hDifference⟩

/-- A step of a controller keeps it sound, and its output is within the limit. -/
theorem SoundPid.update {pid : Pid Single} (sound : SoundPid pid) {target : Single} {t : ℚ}
    (hTarget : target.read = .num t) (hT : |t| ≤ 40) (omega : Int16) :
    SoundPid (pid.update target (lit omega.toInt)).1 ∧
      ∃ out, (pid.update target (lit omega.toInt)).2.read = .num out ∧ |out| ≤ 32767 := by
  obtain ⟨⟨kp, ki, kd, iLimit, outLimit, hConfig, hAccepts, hSane, hIntegral⟩,
    ⟨p, hPreError, hP⟩, ⟨r, hPreTarget, hR⟩⟩ := sound
  obtain ⟨hILimit, hOutLimit⟩ := Bool.or_eq_false_iff.mp hAccepts
  obtain ⟨-, i, -, -, hKi, -, hGain, -⟩ := hSane.gains
  obtain ⟨l, hLimit, hFits⟩ := hSane.outLimit
  have hPositive : 0 < l := by
    rcases limit_of_accepted hOutLimit with hNan | ⟨-, h⟩
    · exact absurd hNan (ne_nan_of_num hLimit)
    · exact h l hLimit
  have hOmega : |(omega.toInt : ℚ)| ≤ 32768 := by
    have hInt : |omega.toInt| ≤ 32768 :=
      abs_le.mpr ⟨omega.le_toInt, by have := omega.toInt_lt; omega⟩
    exact_mod_cast hInt
  obtain ⟨e, hDifference, hE⟩ := read_sub_small (n := 32808) (by norm_num) hTarget
    (read_int16 omega) (by push_cast; linarith)
  obtain ⟨error, absError, hDead, hError⟩ :=
    Pid.applyDeadZone_num { pid with target := target, now := lit omega.toInt }
      (by rw [hConfig]; rfl) hDifference
  obtain ⟨c, hChange, hC⟩ := read_sub_small (n := 65616) (by norm_num) hError hPreError
    (by push_cast at hE ⊢; linarith)
  obtain ⟨f, hForward, -⟩ := read_sub_small (n := 80) (by norm_num) hTarget hPreTarget
    (by push_cast; linarith)
  obtain ⟨hNextIntegral, hNextError, hNextTarget, hOut⟩ := Pid.update_basic hConfig hDead
  have hAccumulated :=
    soundIntegral_accumulated hConfig hILimit hKi hGain hIntegral hError (by exact_mod_cast hE)
  refine ⟨⟨⟨kp, ki, kd, iLimit, outLimit, hConfig, hAccepts, hSane, ?_⟩, ?_, ?_⟩, ?_⟩
  · rw [hNextIntegral]
    exact hAccumulated
  · rw [hNextError]
    exact ⟨e, hError, by exact_mod_cast hE⟩
  · rw [hNextTarget]
    exact ⟨t, hTarget, hT⟩
  · have hTerms := terms_ne_nan hConfig hSane hError (by exact_mod_cast hE) hChange
      (by exact_mod_cast hC) hForward hAccumulated
    have hOn : eq outLimit 0 = false := (Bool.or_eq_false_iff.mp hOutLimit).2
    rw [hOut, hOn, if_neg Bool.false_ne_true, mathConstrain_eq_clamp]
    rcases clamp_cases (a := pid.terms target error) (read_neg_num hLimit) hLimit (by linarith) with
      ⟨hNan, -⟩ | ⟨-, out, hRead, hLow, hHigh⟩
    · exact absurd hNan hTerms
    · exact ⟨out, hRead, abs_le.mpr ⟨by linarith, by linarith⟩⟩

theorem SoundPid.reset {pid : Pid Single} (sound : SoundPid pid) : SoundPid pid.reset := by
  obtain ⟨kp, ki, kd, iLimit, outLimit, hConfig, hAccepts, hSane, -⟩ := sound.tuning
  exact ⟨⟨kp, ki, kd, iLimit, outLimit, hConfig, hAccepts, hSane, soundIntegral_zero _ _⟩,
    ⟨0, read_zero, by norm_num⟩, ⟨0, read_zero, by norm_num⟩⟩

/-- The wheel targets are numbers within their limit. -/
def NumberTargets (state : ChassisStateMessage Single) : Prop :=
  ∀ i : Fin 4, ∃ target,
    (#v[state.wheel1TargetOmega, state.wheel2TargetOmega, state.wheel3TargetOmega,
      state.wheel4TargetOmega].get i).read = .num target ∧ |target| ≤ 40

def NumberCommand (command : ChassisCommandMessage Single) : Prop :=
  command.targetVx.read ≠ .nan ∧ command.targetVy.read ≠ .nan ∧ command.targetWz.read ≠ .nan

theorem numberTargets_of_four {state : ChassisStateMessage Single}
    (h1 : ∃ q, state.wheel1TargetOmega.read = .num q ∧ |q| ≤ 40)
    (h2 : ∃ q, state.wheel2TargetOmega.read = .num q ∧ |q| ≤ 40)
    (h3 : ∃ q, state.wheel3TargetOmega.read = .num q ∧ |q| ≤ 40)
    (h4 : ∃ q, state.wheel4TargetOmega.read = .num q ∧ |q| ≤ 40) : NumberTargets state := by
  intro i
  match i with
  | 0 => exact h1
  | 1 => exact h2
  | 2 => exact h3
  | 3 => exact h4

/-- A limit around zero makes a small number of what is no NaN. -/
theorem clamp_number {a limit : Single} {l : ℚ} (hLimit : limit.read = .num l) (positive : 0 ≤ l)
    (number : a.read ≠ .nan) : ∃ q, (clamp a (-limit) limit).read = .num q ∧ |q| ≤ l := by
  rcases clamp_cases (a := a) (read_neg_num hLimit) hLimit (by linarith) with
    ⟨hNan, -⟩ | ⟨-, q, hRead, hLow, hHigh⟩
  · exact absurd hNan number
  · exact ⟨q, hRead, abs_le.mpr ⟨hLow, hHigh⟩⟩

/-- The limits and the kinematics make numbers of what is no NaN. -/
theorem numberTargets_updateStateFromCommand (m : ChassisModule Single)
    {command : ChassisCommandMessage Single} (numbers : NumberCommand command) :
    NumberTargets (m.updateStateFromCommand command).state := by
  have hLimit : (lit 20 : Single).read = .num 20 := by decide +kernel
  have hWheelLimit : (lit 40 : Single).read = .num 40 := by decide +kernel
  have hFactor : (kKinematicsFactor : Single).read = .num (11863287 / 2 ^ 24) := by decide +kernel
  have hLargest : (20 : ℚ) ≤ largest := by
    rw [largest_eq]
    norm_num
  have hMixed {factor value : Single} {q c : ℚ} (hF : factor.read = .num c) (hC : |c| ≤ 1)
      (hValue : value.read = .num q) (hQ : |q| ≤ 20) :
      ∃ z, (factor * value).read = .num z ∧ |z| ≤ ((20 : Nat) : ℚ) := by
    have hProduct : |c * q| ≤ ((20 : Nat) : ℚ) := by
      rw [abs_mul]
      calc |c| * |q| ≤ 1 * 20 := mul_le_mul hC hQ (abs_nonneg q) (by norm_num)
        _ = ((20 : Nat) : ℚ) := by norm_num
    exact ⟨_, read_mul hF hValue (hProduct.trans (by exact_mod_cast hLargest)),
      abs_nearest_le (nearest_natCast (by norm_num)) hProduct⟩
  have hLimited {value : Single} (number : value.read ≠ .nan) :
      ∃ q, (clamp value (-lit 20) (lit 20)).read = .num q ∧ |q| ≤ 20 :=
    clamp_number hLimit (by norm_num) number
  obtain ⟨vx, hVx, hVxBound⟩ := hLimited numbers.1
  obtain ⟨vy, hVy, hVyBound⟩ := hLimited numbers.2.1
  obtain ⟨wz, hWz, -⟩ := hLimited numbers.2.2
  have hOne : |(11863287 / 2 ^ 24 : ℚ)| ≤ 1 := by rw [abs_of_pos (by norm_num)]; norm_num
  obtain ⟨x, hX, -⟩ := hMixed hFactor hOne hVx hVxBound
  obtain ⟨y, hY, -⟩ := hMixed hFactor hOne hVy hVyBound
  have hOne' : |(-(11863287 / 2 ^ 24) : ℚ)| ≤ 1 := by rwa [abs_neg]
  obtain ⟨x', hX', -⟩ := hMixed (read_neg_num hFactor) hOne' hVx hVxBound
  have hWheel {mix : Single} (hMix : mix.read ≠ .nan) :
      ∃ q, (wheelTarget mix (clamp command.targetWz (-lit 20) (lit 20))).read = .num q ∧ |q| ≤ 40 :=
    clamp_number hWheelLimit (by norm_num) (add_ne_nan' hMix hWz)
  refine numberTargets_of_four ?_ ?_ ?_ ?_ <;>
    simp only [updateStateFromCommand, kCommandVxLimit, kCommandVyLimit, kCommandWzLimit]
  · exact hWheel (sub_ne_nan hX hY)
  · exact hWheel (sub_ne_nan hX' hY)
  · exact hWheel (add_ne_nan hX' (ne_nan_of_num hY))
  · exact hWheel (add_ne_nan hX (ne_nan_of_num hY))

/-- What the controllers and the kinematics compute with is in order. -/
structure SoundChassis (m : ChassisModule Single) : Prop where
  pids : ∀ i, SoundPid (m.wheelSpeedPid.get i)
  targets : NumberTargets m.state

theorem SoundChassis.receive {m : ChassisModule Single} (sound : SoundChassis m)
    (frames : List CanRawFrameMessage) {command : Option (ChassisCommandMessage Single)}
    (numbers : ∀ message ∈ command, NumberCommand message) :
    SoundChassis (m.receive frames command) where
  pids := by
    intro i
    have hPid := m.wheelSpeedPid_receive frames command
    by_cases hReset : m.WatchdogResets command
    · rw [hPid.1 hReset, Cells.get_map]
      exact (sound.pids i).reset
    · rw [hPid.2 hReset]
      exact sound.pids i
  targets := by
    have hState := decodeCanFramesInQueue_keeps state (fun _ _ _ => rfl) m frames
    cases command with
    | some command => exact numberTargets_updateStateFromCommand _ (numbers command rfl)
    | none =>
        simp only [ChassisModule.receive]
        split_ifs
        · have hZero : ∃ q, (0 : Single).read = .num q ∧ |q| ≤ 40 := ⟨0, read_zero, by norm_num⟩
          exact numberTargets_of_four hZero hZero hZero hZero
        · exact hState ▸ sound.targets

/-- A wheel's controller steps within the range of `int16_t`. -/
theorem SoundChassis.wheelStep {m : ChassisModule Single} (sound : SoundChassis m) (i : Fin 4) :
    SoundPid (m.wheelStep i).1 ∧
      ∃ out, (m.wheelStep i).2.read = .num out ∧ |out| ≤ 32767 := by
  obtain ⟨target, hTarget, hBound⟩ := sound.targets i
  exact (sound.pids i).update hTarget hBound _

theorem SoundChassis.setSpeedPidTuning {m : ChassisModule Single} (sound : SoundChassis m)
    {kp ki kd iLimit outLimit : Single}
    (sane : Accepts iLimit outLimit → SaneTuning kp ki kd iLimit outLimit) :
    SoundChassis (m.setSpeedPidTuning kp ki kd iLimit outLimit).1 := by
  by_cases hAccepts : Accepts iLimit outLimit
  · rw [m.setSpeedPidTuning_accepted hAccepts]
    refine ⟨fun i => ?_, sound.targets⟩
    rw [Cells.get_map]
    exact ⟨⟨kp, ki, kd, iLimit, outLimit, rfl, hAccepts, sane hAccepts, soundIntegral_zero _ _⟩,
      (sound.pids i).preError, (sound.pids i).preTarget⟩
  · rw [m.setSpeedPidTuning_rejected kp ki kd hAccepts]
    exact sound

namespace ChassisSystem

/-- No command holds a NaN, and a tuning that passes the check is a sane one. -/
def SaneInput (_ : ChassisSystem Single) : ChassisEvent Single → Prop
  | .publish command => NumberCommand command
  | .setSpeedPidTuning kp ki kd iLimit outLimit =>
      Accepts iLimit outLimit → SaneTuning kp ki kd iLimit outLimit
  | _ => True

/-- The module as its controllers find it in a tick. -/
def received (s : ChassisSystem Single) (frames : List CanRawFrameMessage) (locked : Bool) :
    ChassisModule Single :=
  s.chassis.receive frames (s.commandChan.read locked)

/-- The output of every controller that steps in a tick lies in the range of
`int16_t`, and the current of its wheel in the frame on CAN1 is the truncated
output. -/
def OutputsInRange (s : ChassisSystem Single) : ChassisEvent Single → Prop
  | .tick frames locked =>
      ∀ i, (s.received frames locked).motorFeedbackValid.get i = true →
        ∃ out : ℚ, ((s.received frames locked).wheelStep i).2.read = .num out ∧
          -32768 ≤ out ∧ out ≤ 32767 ∧
          (s.port.canDev .kCan1 = true →
            ∃ currents,
              Actuator.heldCurrents (s.step (.tick frames locked)).port .kCan1 = some currents ∧
                (currents.get i).toInt = trunc out)
  | _ => True

/-- The module is sound, and the channel holds no NaN. -/
structure Sound (s : ChassisSystem Single) : Prop where
  chassis : SoundChassis s.chassis
  command : NumberCommand s.commandChan.message

theorem saneTuning_default :
    SaneTuning (kPidKp : Single) kPidKi kPidKd kIntegralLimit kCurrentLimit := by
  have hKp : (kPidKp : Single).read = .num 3 := by decide +kernel
  have hKi : (kPidKi : Single).read = .num (13421773 / 2 ^ 26) := by decide +kernel
  have hSign : (kPidKi : Single).negative = false := by decide +kernel
  have hLimit : (kCurrentLimit : Single).read = .num 16384 := by decide +kernel
  exact ⟨⟨_, _, _, hKp, hKi, read_zero, fun _ => .inl hSign, .inl (by norm_num)⟩,
    ⟨_, hLimit, by norm_num⟩⟩

theorem sound_start (port : CanPort) : (start (zeroed Single) port).Sound := by
  have hAccepted : Accepts (kIntegralLimit : Single) kCurrentLimit := by decide +kernel
  obtain ⟨hState, hPid⟩ := initialized_of_accepts hAccepted (zeroed Single)
  have hZero : ∃ q, (0 : Single).read = .num q ∧ |q| ≤ 40 := ⟨0, read_zero, by norm_num⟩
  have hNumber := ne_nan_of_num read_zero
  refine ⟨⟨fun i => ?_, ?_⟩, hNumber, hNumber, hNumber⟩
  · have hZeroed : (zeroed Single).wheelSpeedPid.get i = Pid.zeroed Single :=
      Vector.getElem_replicate i.isLt
    rw [start, hPid, Cells.get_map, hZeroed]
    exact ⟨⟨_, _, _, _, _, rfl, hAccepted, saneTuning_default, soundIntegral_zero _ _⟩,
      ⟨0, read_zero, by norm_num⟩, ⟨0, read_zero, by norm_num⟩⟩
  · rw [start, hState]
    exact numberTargets_of_four hZero hZero hZero hZero

theorem Sound.received {s : ChassisSystem Single} (sound : s.Sound)
    (frames : List CanRawFrameMessage) (locked : Bool) :
    SoundChassis (s.received frames locked) := by
  refine sound.chassis.receive frames (fun message hRead => ?_)
  cases locked with
  | true => cases hRead
  | false =>
      cases hRead
      exact sound.command

theorem sound_step (s : ChassisSystem Single) (event : ChassisEvent Single) (sound : s.Sound)
    (sane : s.SaneInput event) : (s.step event).Sound := by
  cases event with
  | publish command => exact ⟨sound.chassis, sane⟩
  | setSpeedPidTuning kp ki kd iLimit outLimit =>
      exact ⟨sound.chassis.setSpeedPidTuning sane, sound.command⟩
  | resetSpeedPidIntegrator =>
      refine ⟨⟨fun i => ?_, sound.chassis.targets⟩, sound.command⟩
      have hReset := Cells.get_map Pid.reset s.chassis.wheelSpeedPid i
      exact hReset ▸ (sound.chassis.pids i).reset
  | tick frames locked =>
      have hReceived := sound.received frames locked
      obtain ⟨hPid, -⟩ := s.chassis.runLoopTick_receive s.port frames (s.commandChan.read locked)
      refine ⟨⟨fun i => ?_, hReceived.targets⟩, sound.command⟩
      have hGet := congrArg Prod.fst ((s.received frames locked).wheelCurrents_get i)
      simp only [step, hPid]
      refine Eq.mpr (congrArg SoundPid hGet) ?_
      split_ifs
      · exact (hReceived.wheelStep i).1
      · exact hReceived.pids i

theorem outputsInRange_of_sound (s : ChassisSystem Single) (event : ChassisEvent Single)
    (sound : s.Sound) (_ : s.SaneInput event) : s.OutputsInRange event := by
  cases event with
  | publish command => trivial
  | setSpeedPidTuning kp ki kd iLimit outLimit => trivial
  | resetSpeedPidIntegrator => trivial
  | tick frames locked =>
      intro i hValid
      obtain ⟨out, hOut, hRange⟩ := ((sound.received frames locked).wheelStep i).2
      obtain ⟨hLow, hHigh⟩ := abs_le.mp hRange
      refine ⟨out, hOut, by linarith, hHigh, fun hDev => ?_⟩
      have hHeld := Actuator.heldCurrents_sendMotorCurrent s.port .kCan1 .kCan1
        (s.received frames locked).wheelCurrents.2
      obtain ⟨_, hCurrent⟩ := Prod.mk.inj
        (((s.received frames locked).wheelCurrents_get i).trans (if_pos hValid))
      refine ⟨(s.received frames locked).wheelCurrents.2, hHeld.trans (if_pos ⟨hDev, rfl⟩), ?_⟩
      rw [hCurrent, castInt16_num hOut]
      exact toInt_castInt16_rat out hRange

/-- As long as commands hold no NaN and accepted tunings are sane, every output is
converted in range. -/
theorem outputs_in_range (port : CanPort) {events : List (ChassisEvent Single)}
    (sane : Run.Along step SaneInput (start (zeroed Single) port) events) :
    Run.Along step OutputsInRange (start (zeroed Single) port) events :=
  Run.along_of_invariant sound_step outputsInRange_of_sound (sound_start port) sane

/-- Feedback of the first wheel, turning at full speed against its target. -/
def fastWheel : CanRawFrameMessage where
  bus := 1
  canId := 0x201
  dlc := 8
  data := #v[0, 0, 0xb1, 0xe0, 0, 0, 0, 0]

/-- A proportional tuning with this output limit, and a tick with that feedback. -/
def tunedEvents (outLimit : ℚ) : List (ChassisEvent Single) :=
  [.setSpeedPidTuning (lit 3) (lit 0) (lit 0) (lit 500) (lit outLimit), .tick [fastWheel] false]

theorem outputs_in_range_tuned :
    Run.Along step OutputsInRange
      (start (zeroed Single) { canDev := fun _ => true, sent := [] }) (tunedEvents 30000) := by
  have hKp : (lit 3 : Single).read = .num 3 := by decide +kernel
  have hZero : (lit 0 : Single) = 0 := by decide +kernel
  have hLimit : (lit 30000 : Single).read = .num 30000 := by decide +kernel
  have hTuning : SaneTuning (lit 3) (lit 0) (lit 0) (lit 500) (lit 30000) := by
    rw [hZero]
    exact ⟨⟨_, _, _, hKp, read_zero, read_zero, fun _ => .inl (by decide), .inl (by norm_num)⟩,
      ⟨_, hLimit, by norm_num⟩⟩
  have hSane : Run.Along step SaneInput
      (start (zeroed Single) { canDev := fun _ => true, sent := [] }) (tunedEvents 30000) :=
    ⟨fun _ => hTuning, trivial, trivial⟩
  exact outputs_in_range _ hSane

/-- An output limit beyond the range is accepted too. -/
theorem output_out_of_range :
    ¬ Run.Along step OutputsInRange
      (start (zeroed Single) { canDev := fun _ => true, sent := [] }) (tunedEvents 100000) := by
  intro hAlong
  obtain ⟨out, hOut, _, hHigh, _⟩ := hAlong.2.1 0 (by decide +kernel)
  have hStep : (((start (zeroed Single) { canDev := fun _ => true, sent := [] }).step
      (.setSpeedPidTuning (lit 3) (lit 0) (lit 0) (lit 500) (lit 100000))).received
        [fastWheel] false |>.wheelStep 0).2.read = .num 60000 := by
    decide +kernel
  obtain rfl : 60000 = out := Reading.num.inj (hStep.symm.trans hOut)
  norm_num at hHigh

end ChassisSystem

end RmTest.Modules.ChassisModule
