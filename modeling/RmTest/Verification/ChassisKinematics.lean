import RmTest.Modules.Chassis
import Mathlib.Tactic.FieldSimp
import Mathlib.Tactic.Ring

/-! The chassis kinematics in exact arithmetic. The wheel targets are those of the inverse
kinematics, each held to the wheel limit; the forward kinematics sees whether that limit
took something away. -/
namespace RmTest.Modules.ChassisModule

open Channels FloatModel

theorem clamp_rat_cases (x : ℚ) {limit : ℚ} (nonneg : 0 ≤ limit) :
    (|x| ≤ limit ∧ clamp x (-limit) limit = x) ∨
      (limit < x ∧ clamp x (-limit) limit = limit) ∨
        (x < -limit ∧ clamp x (-limit) limit = -limit) := by
  rcases lt_trichotomy |x| limit with hIn | hOn | hOut
  · exact .inl ⟨hIn.le, clamp_rat_of_abs_le hIn.le⟩
  · exact .inl ⟨hOn.le, clamp_rat_of_abs_le hOn.le⟩
  · right
    simp only [clamp, lt_rat, decide_eq_true_eq]
    rcases lt_abs.mp hOut with hHigh | hLow
    · have hNotLow : ¬x < -limit := by linarith
      exact .inl ⟨hHigh, by rw [if_neg hNotLow, if_pos hHigh]⟩
    · have hBelow : x < -limit := by linarith
      exact .inr ⟨hBelow, if_pos hBelow⟩

theorem clamp_rat_eq_self_iff {x limit : ℚ} (nonneg : 0 ≤ limit) :
    clamp x (-limit) limit = x ↔ |x| ≤ limit := by
  constructor
  · intro hKept
    rw [← hKept]
    exact abs_clamp_rat_le x nonneg
  · exact clamp_rat_of_abs_le

/-- A limited value has the sign of the value. -/
theorem sign_clamp_rat (x : ℚ) {limit : ℚ} (positive : 0 < limit) :
    (0 < clamp x (-limit) limit ↔ 0 < x) ∧ (clamp x (-limit) limit < 0 ↔ x < 0) := by
  rcases clamp_rat_cases x positive.le with ⟨-, hEq⟩ | ⟨hHigh, hEq⟩ | ⟨hLow, hEq⟩
  · rw [hEq]
    exact ⟨Iff.rfl, Iff.rfl⟩
  · rw [hEq]
    exact ⟨iff_of_true positive (by linarith), iff_of_false (by linarith) (by linarith)⟩
  · rw [hEq]
    exact ⟨iff_of_false (by linarith) (by linarith), iff_of_true (by linarith) (by linarith)⟩

/-- All four wheels are in the limit when the shares of the three motions are together. -/
theorem wheels_within_iff (a b c limit : ℚ) :
    (|a - b + c| ≤ limit ∧ |-a - b + c| ≤ limit ∧ |-a + b + c| ≤ limit ∧ |a + b + c| ≤ limit) ↔
      |a| + |b| + |c| ≤ limit := by
  simp only [abs_le]
  constructor
  · rintro ⟨⟨_, _⟩, ⟨_, _⟩, ⟨_, _⟩, ⟨_, _⟩⟩
    rcases abs_cases a with ⟨hA, -⟩ | ⟨hA, -⟩ <;> rcases abs_cases b with ⟨hB, -⟩ | ⟨hB, -⟩ <;>
      rcases abs_cases c with ⟨hC, -⟩ | ⟨hC, -⟩ <;> rw [hA, hB, hC] <;> linarith
  · intro hSum
    have hA := neg_abs_le a
    have hA' := le_abs_self a
    have hB := neg_abs_le b
    have hB' := le_abs_self b
    have hC := neg_abs_le c
    have hC' := le_abs_self c
    refine ⟨⟨?_, ?_⟩, ⟨?_, ?_⟩, ⟨?_, ?_⟩, ⟨?_, ?_⟩⟩ <;> linarith

/-- Opposite wheels lose the same, or something is lost of the motion: together they turn at
twice the rate of the rotation, so that they cannot both be beyond the limit. -/
theorem opposite_within {x y : ℚ} {limit : ℚ} (nonneg : 0 ≤ limit) (sum : |x + y| ≤ 2 * limit)
    (loss : clamp x (-limit) limit - x = clamp y (-limit) limit - y) :
    clamp x (-limit) limit = x ∧ clamp y (-limit) limit = y := by
  obtain ⟨hLow, hHigh⟩ := abs_le.mp sum
  rcases clamp_rat_cases x nonneg with ⟨-, hX⟩ | ⟨hX, hEqX⟩ | ⟨hX, hEqX⟩
  · exact ⟨hX, by linarith⟩
  · rcases clamp_rat_cases y nonneg with ⟨-, hY⟩ | ⟨hY, hEqY⟩ | ⟨hY, hEqY⟩ <;>
      constructor <;> linarith
  · rcases clamp_rat_cases y nonneg with ⟨-, hY⟩ | ⟨hY, hEqY⟩ | ⟨hY, hEqY⟩ <;>
      constructor <;> linarith

/-- With a rotation in the limit, the four limited wheels still show the motion exactly when
none of them is limited. -/
theorem forward_limited_iff {a b c limit : ℚ} (rotation : |c| ≤ limit) :
    (clamp (a - b + c) (-limit) limit - clamp (-a - b + c) (-limit) limit -
          clamp (-a + b + c) (-limit) limit + clamp (a + b + c) (-limit) limit = 4 * a ∧
        -clamp (a - b + c) (-limit) limit - clamp (-a - b + c) (-limit) limit +
          clamp (-a + b + c) (-limit) limit + clamp (a + b + c) (-limit) limit = 4 * b ∧
        clamp (a - b + c) (-limit) limit + clamp (-a - b + c) (-limit) limit +
          clamp (-a + b + c) (-limit) limit + clamp (a + b + c) (-limit) limit = 4 * c) ↔
      |a| + |b| + |c| ≤ limit := by
  have hNonneg : 0 ≤ limit := (abs_nonneg c).trans rotation
  have hTwice : |2 * c| ≤ 2 * limit := by
    rw [abs_mul, abs_two]
    linarith
  constructor
  · rintro ⟨hX, hY, hZ⟩
    obtain ⟨hOne, hThree⟩ := @opposite_within (a - b + c) (-a + b + c) limit hNonneg
      (by rwa [show a - b + c + (-a + b + c) = 2 * c by ring]) (by linarith)
    obtain ⟨hTwo, hFour⟩ := @opposite_within (-a - b + c) (a + b + c) limit hNonneg
      (by rwa [show -a - b + c + (a + b + c) = 2 * c by ring]) (by linarith)
    simp only [clamp_rat_eq_self_iff hNonneg] at hOne hTwo hThree hFour
    exact (wheels_within_iff a b c limit).mp ⟨hOne, hTwo, hThree, hFour⟩
  · intro hSum
    obtain ⟨hOne, hTwo, hThree, hFour⟩ := (wheels_within_iff a b c limit).mpr hSum
    rw [clamp_rat_of_abs_le hOne, clamp_rat_of_abs_le hTwo, clamp_rat_of_abs_le hThree,
      clamp_rat_of_abs_le hFour]
    refine ⟨?_, ?_, ?_⟩ <;> ring

structure Velocity where
  vx : ℚ
  vy : ℚ
  wz : ℚ
  deriving DecidableEq

/-- A command with each component held to its limit. -/
def limited (command : ChassisCommandMessage ℚ) : Velocity where
  vx := clamp command.targetVx (-kCommandVxLimit) kCommandVxLimit
  vy := clamp command.targetVy (-kCommandVyLimit) kCommandVyLimit
  wz := clamp command.targetWz (-kCommandWzLimit) kCommandWzLimit

/-- The speeds of wheels 1 to 4 for a velocity. -/
def inverseKinematics (v : Velocity) : List ℚ :=
  [kKinematicsFactor * v.vx - kKinematicsFactor * v.vy + v.wz,
    -kKinematicsFactor * v.vx - kKinematicsFactor * v.vy + v.wz,
    -kKinematicsFactor * v.vx + kKinematicsFactor * v.vy + v.wz,
    kKinematicsFactor * v.vx + kKinematicsFactor * v.vy + v.wz]

def wheelTargets (s : ChassisStateMessage ℚ) : List ℚ :=
  [s.wheel1TargetOmega, s.wheel2TargetOmega, s.wheel3TargetOmega, s.wheel4TargetOmega]

/-- The velocity that four wheel speeds make up. -/
def forwardKinematics (s : ChassisStateMessage ℚ) : Velocity where
  vx := (s.wheel1TargetOmega - s.wheel2TargetOmega - s.wheel3TargetOmega + s.wheel4TargetOmega) /
    (4 * kKinematicsFactor)
  vy := (-s.wheel1TargetOmega - s.wheel2TargetOmega + s.wheel3TargetOmega + s.wheel4TargetOmega) /
    (4 * kKinematicsFactor)
  wz := (s.wheel1TargetOmega + s.wheel2TargetOmega + s.wheel3TargetOmega + s.wheel4TargetOmega) / 4

/-- What the three components of a velocity ask of a wheel together. -/
def wheelDemand (v : Velocity) : ℚ := kKinematicsFactor * (|v.vx| + |v.vy|) + |v.wz|

theorem wheelTargets_updateStateFromCommand (m : ChassisModule ℚ)
    (command : ChassisCommandMessage ℚ) :
    wheelTargets (m.updateStateFromCommand command).state =
      (inverseKinematics (limited command)).map
        fun wheel => clamp wheel (-kWheelTargetOmegaLimit) kWheelTargetOmegaLimit := rfl

theorem factor_pos : (0 : ℚ) < kKinematicsFactor := by
  norm_num [kKinematicsFactor]

theorem abs_wz_limited (command : ChassisCommandMessage ℚ) :
    |(limited command).wz| ≤ kWheelTargetOmegaLimit := by
  have hLimit : |(limited command).wz| ≤ 20 := abs_clamp_rat_le _ (by norm_num [kCommandWzLimit])
  exact hLimit.trans (by norm_num [kWheelTargetOmegaLimit])

theorem wheelDemand_eq (v : Velocity) :
    wheelDemand v = |kKinematicsFactor * v.vx| + |kKinematicsFactor * v.vy| + |v.wz| := by
  rw [wheelDemand, abs_mul, abs_mul, abs_of_pos factor_pos, mul_add]

theorem forwardKinematics_eq_iff (s : ChassisStateMessage ℚ) (v : Velocity) :
    forwardKinematics s = v ↔
      s.wheel1TargetOmega - s.wheel2TargetOmega - s.wheel3TargetOmega + s.wheel4TargetOmega =
          4 * (kKinematicsFactor * v.vx) ∧
        -s.wheel1TargetOmega - s.wheel2TargetOmega + s.wheel3TargetOmega + s.wheel4TargetOmega =
          4 * (kKinematicsFactor * v.vy) ∧
        s.wheel1TargetOmega + s.wheel2TargetOmega + s.wheel3TargetOmega + s.wheel4TargetOmega =
          4 * v.wz := by
  have hFactor : (4 * kKinematicsFactor : ℚ) ≠ 0 := mul_ne_zero four_ne_zero factor_pos.ne'
  obtain ⟨vx, vy, wz⟩ := v
  rw [forwardKinematics, Velocity.mk.injEq, div_eq_iff hFactor, div_eq_iff hFactor,
    div_eq_iff four_ne_zero]
  ring_nf

/-- The wheel targets are those of the inverse kinematics of the limited command, each held
to the wheel limit, so that every wheel keeps its direction. The forward kinematics gives
the limited command back exactly when no wheel needs the limit, and then the targets are
those of the inverse kinematics as they are. -/
theorem kinematics_round_trip_iff (m : ChassisModule ℚ) (command : ChassisCommandMessage ℚ) :
    let targets := wheelTargets (m.updateStateFromCommand command).state
    let wheels := inverseKinematics (limited command)
    List.Forall₂ (fun target wheel => (0 < target ↔ 0 < wheel) ∧ (target < 0 ↔ wheel < 0))
        targets wheels ∧
      (forwardKinematics (m.updateStateFromCommand command).state = limited command ↔
        wheelDemand (limited command) ≤ kWheelTargetOmegaLimit) ∧
      (targets = wheels ↔ wheelDemand (limited command) ≤ kWheelTargetOmegaLimit) := by
  have hPositive : (0 : ℚ) < kWheelTargetOmegaLimit := by norm_num [kWheelTargetOmegaLimit]
  have hDemand := wheelDemand_eq (limited command)
  refine ⟨?_, ?_, ?_⟩
  · rw [wheelTargets_updateStateFromCommand, List.forall₂_map_left_iff]
    exact List.forall₂_same.mpr fun wheel _ => sign_clamp_rat wheel hPositive
  · rw [hDemand, ← forward_limited_iff (abs_wz_limited command), ← neg_mul]
    exact forwardKinematics_eq_iff _ _
  · rw [hDemand, ← wheels_within_iff, wheelTargets_updateStateFromCommand, inverseKinematics]
    simp only [List.map_cons, List.map_nil, List.cons.injEq, and_true, neg_mul,
      clamp_rat_eq_self_iff hPositive.le]

/-- At full speed forward, sideways and around, a wheel would have to turn faster than it may. -/
def fastTurn : ChassisCommandMessage ℚ := { (0 : ChassisCommandMessage ℚ) with
  targetVx := 20
  targetVy := -20
  targetWz := 20 }

theorem fastTurn_not_given_back :
    limited fastTurn = ⟨20, -20, 20⟩ ∧
      forwardKinematics ((zeroed ℚ).updateStateFromCommand fastTurn).state ≠ limited fastTurn := by
  decide +kernel

end RmTest.Modules.ChassisModule
