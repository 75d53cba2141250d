import RmTest.Library.Unwrap
import RmTest.Verification.AttitudeUpright

/-! The total yaw of the attitude filter: the count of turns makes the yaw, which jumps at
half a turn, the heading of the device again. -/
namespace RmTest.Algorithms.QuaternionEkf

open FloatModel

theorem countTurn_eq (count : Int16) (last yaw : ℚ) :
    countTurn count last yaw = count + Int16.ofInt (Unwrap.turn (360 / 2) last yaw) := by
  simp only [countTurn, Unwrap.turn, lt_rat, lit_rat, decide_eq_true_eq]
  norm_num
  split_ifs
  · exact Int16.sub_eq_add_neg count 1
  · rfl
  · exact (Int16.add_zero count).symm

theorem turn_small (last yaw : ℚ) :
    -1 ≤ Unwrap.turn (360 / 2) last yaw ∧ Unwrap.turn (360 / 2) last yaw ≤ 1 := by
  rw [Unwrap.turn]
  split_ifs <;> decide

/-- The count is the number of turns as long as 16 bits hold it. -/
theorem toInt_countTurn {count : Int16} {last yaw : ℚ}
    (low : -32768 ≤ count.toInt + Unwrap.turn (360 / 2) last yaw)
    (high : count.toInt + Unwrap.turn (360 / 2) last yaw ≤ 32767) :
    (countTurn count last yaw).toInt = count.toInt + Unwrap.turn (360 / 2) last yaw := by
  obtain ⟨hLow, hHigh⟩ := turn_small last yaw
  have hTurn : (Int16.ofInt (Unwrap.turn (360 / 2) last yaw)).toInt =
      Unwrap.turn (360 / 2) last yaw :=
    Int16.toInt_ofInt_of_le (by omega) (by omega)
  rw [countTurn_eq, Int16.toInt_add, hTurn, Int.bmod_eq_of_le (by omega) (by omega)]

/-- The filter beside the heading of the device, which starts at zero. -/
abbrev Tracked : Type := QuaternionEkf ℚ × ℚ

variable (dsp : RiscvDsp ℚ) (math : AttitudeMath ℚ)

/-- A call, with the heading at which it is made. -/
def track (s : Tracked) (e : EkfCall ℚ × ℚ) : Tracked :=
  (s.1.call dsp math e.1,
    match e.1 with
    | .update _ _ => e.2
    | _ => 0)

/-- The total is the heading, and the count belongs to it. -/
structure Followed (s : Tracked) : Prop where
  total : s.1.ins.yawTotalAngle = s.2
  counted : s.2 = s.1.ins.yawRoundCount.toInt * 360 + s.1.ins.yawAngleLast
  near : |s.1.ins.yawAngleLast| ≤ 230

/-- In an update the device turns by less than half a turn, the yaw is the heading up to
whole turns, and the heading is not so far that the count overflows. -/
def Turns (s : Tracked) (e : EkfCall ℚ × ℚ) : Prop :=
  match e.1 with
  | .update g a =>
      |e.2 - s.2| < 180 ∧ |e.2| ≤ 32766 * 360 ∧
        ∃ turns : Int, e.2 = turns * 360 + (s.1.update dsp math g a).ins.yaw
  | _ => True

/-- `atan2` yields an angle between minus and plus half a turn. -/
def AtanRange : Prop := ∀ y x, |math.atan2 y x| ≤ 22 / 7

theorem abs_yaw_le (range : AtanRange math) (ekf : QuaternionEkf ℚ) (g a : Axes ℚ) :
    |(ekf.update dsp math g a).ins.yaw| ≤ 230 := by
  simp only [update, takeResult, setAngles, lit_rat]
  rw [abs_mul, abs_of_pos (show (0 : ℚ) < 57.29578 by norm_num)]
  calc
    _ ≤ (22 / 7 : ℚ) * 57.29578 := mul_le_mul_of_nonneg_right (range _ _) (by norm_num)
    _ ≤ 230 := by norm_num

/-- The preparation and the filter leave the count and the last yaw alone. -/
theorem count_update (ekf : QuaternionEkf ℚ) (g a : Axes ℚ) :
    (ekf.update dsp math g a).ins.yawRoundCount =
        countTurn ekf.ins.yawRoundCount ekf.ins.yawAngleLast (ekf.update dsp math g a).ins.yaw ∧
      (ekf.update dsp math g a).ins.yawAngleLast = (ekf.update dsp math g a).ins.yaw ∧
      (ekf.update dsp math g a).ins.yawTotalAngle =
        360 * ((ekf.update dsp math g a).ins.yawRoundCount.toInt : ℚ) +
          (ekf.update dsp math g a).ins.yaw := by
  have hSettled := settled_runFilter dsp math (prepare math ekf g a)
  have hCount : (runFilter dsp math (prepare math ekf g a)).ins.yawRoundCount =
      ekf.ins.yawRoundCount := (congrArg QekfIns.yawRoundCount hSettled :)
  have hLast : (runFilter dsp math (prepare math ekf g a)).ins.yawAngleLast =
      ekf.ins.yawAngleLast := (congrArg QekfIns.yawAngleLast hSettled :)
  rw [← hCount, ← hLast]
  exact ⟨rfl, rfl, rfl⟩

/-- An update takes the total along with the heading. -/
theorem followed_update (range : AtanRange math) {s : Tracked} (followed : Followed s)
    {g a : Axes ℚ} {heading : ℚ} (turns : Turns dsp math s (.update g a, heading)) :
    Followed (track dsp math s (.update g a, heading)) := by
  obtain ⟨hSlow, hFar, turns, hSame⟩ := turns
  obtain ⟨hCount, hLast, hTotal⟩ := count_update dsp math s.1 g a
  have hYaw := abs_yaw_le dsp math range s.1 g a
  have hNear : |(s.1.update dsp math g a).ins.yaw - s.1.ins.yawAngleLast| < (360 : ℚ) * (3 / 2) :=
    calc
      _ ≤ |(s.1.update dsp math g a).ins.yaw| + |s.1.ins.yawAngleLast| := abs_sub _ _
      _ ≤ 230 + 230 := add_le_add hYaw followed.near
      _ < 360 * (3 / 2) := by norm_num
  have hHeading := Unwrap.follows (by norm_num) followed.counted hSame (by linarith) hNear
  have hCounted : (s.1.update dsp math g a).ins.yawRoundCount.toInt =
      s.1.ins.yawRoundCount.toInt +
        Unwrap.turn (360 / 2) s.1.ins.yawAngleLast (s.1.update dsp math g a).ins.yaw := by
    -- the heading is not so far that the count overflows
    obtain ⟨hYawLow, hYawHigh⟩ := abs_le.mp hYaw
    obtain ⟨hFarLow, hFarHigh⟩ := abs_le.mp hFar
    have hLow : (-32767 : ℚ) < (s.1.ins.yawRoundCount.toInt +
        Unwrap.turn (360 / 2) s.1.ins.yawAngleLast (s.1.update dsp math g a).ins.yaw : Int) := by
      linarith
    have hHigh : ((s.1.ins.yawRoundCount.toInt +
        Unwrap.turn (360 / 2) s.1.ins.yawAngleLast (s.1.update dsp math g a).ins.yaw : Int) : ℚ) <
          32767 := by
      linarith
    have hLow' : -32767 < s.1.ins.yawRoundCount.toInt +
        Unwrap.turn (360 / 2) s.1.ins.yawAngleLast (s.1.update dsp math g a).ins.yaw := by
      exact_mod_cast hLow
    have hHigh' : s.1.ins.yawRoundCount.toInt +
        Unwrap.turn (360 / 2) s.1.ins.yawAngleLast (s.1.update dsp math g a).ins.yaw < 32767 := by
      exact_mod_cast hHigh
    rw [hCount]
    exact toInt_countTurn (by omega) (by omega)
  rw [← hCounted] at hHeading
  refine ⟨?_, ?_, ?_⟩
  · exact hTotal.trans ((by ring : _ = _).trans hHeading.symm)
  · exact hHeading.trans (by rw [← hLast]; rfl)
  · exact le_of_eq_of_le (congrArg abs hLast) hYaw

/-- `Init` and `Reset` start again at zero. -/
theorem followed_started {ekf : QuaternionEkf ℚ} (count : ekf.ins.yawRoundCount = 0)
    (last : ekf.ins.yawAngleLast = 0) (total : ekf.ins.yawTotalAngle = 0) :
    Followed (ekf, 0) where
  total := total
  counted := by rw [count, last]; simp
  near := by rw [last]; norm_num

theorem followed_track (range : AtanRange math) {s : Tracked} (followed : Followed s)
    {e : EkfCall ℚ × ℚ} (turns : Turns dsp math s e) : Followed (track dsp math s e) := by
  obtain ⟨call, heading⟩ := e
  cases call with
  | init params => exact followed_started rfl rfl rfl
  | reset => exact followed_started rfl rfl rfl
  | update g a => exact followed_update dsp math range followed turns

/-- In every run of calls, the total yaw is the heading of the device since the last start. -/
theorem yaw_total_follows (range : AtanRange math) (calls : List (EkfCall ℚ × ℚ))
    (turns : Run.Along (track dsp math) (Turns dsp math) (constructed, 0) calls) :
    Run.Always (track dsp math) (fun s => s.1.ins.yawTotalAngle = s.2) (constructed, 0) calls := by
  have hStart : Followed (constructed, 0) := followed_started rfl rfl rfl
  have hKept : ∀ s e, Followed s → Turns dsp math s e → Followed (track dsp math s e) :=
    fun _ _ followed turns => followed_track dsp math range followed turns
  exact Run.always_of_along hKept (fun _ followed => followed.total) hStart turns

def rationalRoot (x : ℚ) : ℚ := Nat.sqrt x.num.natAbs / Nat.sqrt x.den

theorem rationalRoot_mul_self {x : ℚ} (positive : 0 < x) : rationalRoot (x * x) = x := by
  have hValue := abs_rat_eq x
  rw [rationalRoot, Rat.mul_self_num, Rat.mul_self_den, Int.natAbs_mul, Nat.sqrt_eq, Nat.sqrt_eq,
    ← hValue, abs_of_pos positive]

/-- Roots of squares of fractions, and an angle that grows evenly along the sides of a square. -/
def squareMath : AttitudeMath ℚ where
  sqrt := rationalRoot
  sin x := x
  cos x := 1 - x * x / 2
  asin x := x
  atan2 y x :=
    let acute := |y| / (|x| + |y|) * (11 / 7)
    let angle := if x < 0 then 22 / 7 - acute else acute
    if y < 0 then -angle else angle
  invSqrt x := 1 / rationalRoot x

theorem atanRange_squareMath : AtanRange squareMath := by
  intro y x
  have hNonneg : 0 ≤ |y| / (|x| + |y|) := by positivity
  have hOne : |y| / (|x| + |y|) ≤ 1 :=
    div_le_one_of_le₀ (le_add_of_nonneg_left (abs_nonneg x)) (by positivity)
  simp only [squareMath]
  rw [abs_le]
  split_ifs <;> constructor <;> linarith

theorem exactRoots_squareMath : ExactRoots squareMath where
  sqrt _ positive := rationalRoot_mul_self positive
  invSqrt _ positive := congrArg (1 / ·) (rationalRoot_mul_self positive)

/-- The heading in degrees of the attitude `(c, 0, 0, s)`, up to turns. -/
def headingOf (c s : ℚ) : ℚ := squareMath.atan2 (c * s) (1 / 2 - s * s) * 57.29578

def turnParams : EkfParams ℚ := { plainParams with dt := 1 / 2 }

/-- Half a second of a turn to the left. -/
def turning : EkfCall ℚ := .update ⟨0, 0, 3⟩ ⟨0, 0, 98 / 10⟩

theorem upright_turning {c s c' s' : ℚ} {ekf : QuaternionEkf ℚ} (upright : Upright (1 / 2) c s ekf)
    (unit : c * c + s * s = 1) (hC : c' = (4 * c - 3 * s) / 5) (hS : s' = (4 * s + 3 * c) / 5) :
    Upright (1 / 2) c' s' (ekf.call exactDsp squareMath turning) := by
  have hNext := upright_update exact_exactDsp exactRoots_squareMath upright 3 (98 / 10)
    (n := 5 / 4) (by norm_num) (by norm_num) (by norm_num) (by linarith)
  have hC' : (c - 1 / 2 * 3 * (1 / 2) * s) / (5 / 4) = c' := by
    rw [hC]
    ring
  have hS' : (s + 1 / 2 * 3 * (1 / 2) * c) / (5 / 4) = s' := by
    rw [hS]
    ring
  rwa [hC', hS'] at hNext

theorem turns_turning {s : Tracked} {c d heading : ℚ} (last : ℚ) (before : s.2 = last)
    (upright : Upright (1 / 2) c d (s.1.call exactDsp squareMath turning)) (turns : Int)
    (same : heading = turns * 360 + headingOf c d) (slow : |heading - last| < 180)
    (far : |heading| ≤ 32766 * 360) : Turns exactDsp squareMath s (turning, heading) :=
  ⟨before.symm ▸ slow, far, turns,
    same.trans (congrArg ((turns : ℚ) * 360 + ·) (yaw_upright upright).symm)⟩

theorem headingOf_values :
    headingOf (4 / 5) (3 / 5) = 94538037 / 1356250 ∧
      headingOf (7 / 25) (24 / 25) = 4380262381 / 30205000 ∧
      headingOf (-(44 / 125)) (117 / 125) = 50381836013 / 226975000 - 360 := by
  norm_num [headingOf, squareMath, abs_div, abs_mul]

/-- With the third update the yaw jumps from the one half turn to the other. -/
def turningCalls : List (EkfCall ℚ × ℚ) :=
  [(.init turnParams, 0), (turning, headingOf (4 / 5) (3 / 5)),
    (turning, headingOf (7 / 25) (24 / 25)), (turning, 360 + headingOf (-(44 / 125)) (117 / 125))]

theorem yaw_total_follows_turning :
    Run.Always (track exactDsp squareMath) (fun s => s.1.ins.yawTotalAngle = s.2) (constructed, 0)
      turningCalls := by
  obtain ⟨hHeading₁, hHeading₂, hHeading₃⟩ := headingOf_values
  have hStart : Upright turnParams.dt 1 0 (constructed.init turnParams) :=
    upright_init sound_constructed rfl rfl
  have hFirst : Upright (1 / 2) (4 / 5) (3 / 5) _ :=
    upright_turning hStart (by norm_num) (by norm_num) (by norm_num)
  have hSecond : Upright (1 / 2) (7 / 25) (24 / 25) _ :=
    upright_turning hFirst (by norm_num) (by norm_num) (by norm_num)
  have hThird : Upright (1 / 2) (-(44 / 125)) (117 / 125) _ :=
    upright_turning hSecond (by norm_num) (by norm_num) (by norm_num)
  have hTurns : Run.Along (track exactDsp squareMath) (Turns exactDsp squareMath) (constructed, 0)
      turningCalls := by
    refine ⟨trivial, turns_turning 0 rfl hFirst 0 ?_ ?_ ?_,
      turns_turning (headingOf (4 / 5) (3 / 5)) rfl hSecond 0 ?_ ?_ ?_,
      turns_turning (headingOf (7 / 25) (24 / 25)) rfl hThird 1 ?_ ?_ ?_, trivial⟩
    all_goals norm_num [hHeading₁, hHeading₂, hHeading₃]
  exact yaw_total_follows exactDsp squareMath atanRange_squareMath _ hTurns

end RmTest.Algorithms.QuaternionEkf
