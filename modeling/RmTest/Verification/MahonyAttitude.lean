import Mathlib.Tactic.FieldSimp
import Mathlib.Tactic.NormNum
import RmTest.Library.Run
import RmTest.Verification.InverseSqrt

/-! The attitude of the complementary filter over whole runs in exact arithmetic: how long the
quaternion is, how far a measurement moves it, and which angles the getters report. -/
namespace RmTest.Algorithms

open FloatModel

namespace Axes

def normSq (v : Axes ℚ) : ℚ := v.x ^ 2 + v.y ^ 2 + v.z ^ 2

def dot (v w : Axes ℚ) : ℚ := v.x * w.x + v.y * w.y + v.z * w.z

def cross (v w : Axes ℚ) : Axes ℚ :=
  ⟨v.y * w.z - v.z * w.y, v.z * w.x - v.x * w.z, v.x * w.y - v.y * w.x⟩

def add (v w : Axes ℚ) : Axes ℚ := ⟨v.x + w.x, v.y + w.y, v.z + w.z⟩

def scale (c : ℚ) (v : Axes ℚ) : Axes ℚ := ⟨c * v.x, c * v.y, c * v.z⟩

theorem normSq_nonneg (v : Axes ℚ) : 0 ≤ v.normSq := by
  unfold normSq
  positivity

theorem normSq_cross (v w : Axes ℚ) :
    (v.cross w).normSq = v.normSq * w.normSq - v.dot w ^ 2 := by
  simp only [normSq, cross, dot]
  ring

/-- The product with something short is no longer than the other factor. -/
theorem normSq_cross_le {v w : Axes ℚ} (short : v.normSq ≤ 1) : (v.cross w).normSq ≤ w.normSq :=
  calc (v.cross w).normSq ≤ v.normSq * w.normSq := by
        rw [normSq_cross]
        exact sub_le_self _ (sq_nonneg _)
    _ ≤ 1 * w.normSq := mul_le_mul_of_nonneg_right short (normSq_nonneg w)
    _ = w.normSq := one_mul _

theorem sq_dot_le {v w : Axes ℚ} (short : v.normSq ≤ 1) : v.dot w ^ 2 ≤ w.normSq := by
  have hCross := normSq_nonneg (v.cross w)
  have hProduct := mul_le_mul_of_nonneg_right short (normSq_nonneg w)
  rw [normSq_cross] at hCross
  linarith

theorem normSq_add_le (v w : Axes ℚ) : (v.add w).normSq ≤ 2 * v.normSq + 2 * w.normSq := by
  have hDifference : 2 * v.normSq + 2 * w.normSq - (v.add w).normSq =
      (v.x - w.x) ^ 2 + (v.y - w.y) ^ 2 + (v.z - w.z) ^ 2 := by
    simp only [normSq, add]
    ring
  have hNonneg : 0 ≤ (v.x - w.x) ^ 2 + (v.y - w.y) ^ 2 + (v.z - w.z) ^ 2 := by positivity
  linarith

theorem normSq_scale (c : ℚ) (v : Axes ℚ) : (v.scale c).normSq = c ^ 2 * v.normSq := by
  simp only [normSq, scale]
  ring

end Axes

namespace MahonyAhrs

/-- The mathematics library, with `InvSqrt` as it is in the file. -/
structure Lawful (math : AttitudeMath ℚ) : Prop where
  circle : ∀ x, math.cos x ^ 2 + math.sin x ^ 2 = 1
  sqrt : ∀ x, 0 ≤ x → math.sqrt x ^ 2 ≤ 2 * x
  invSqrt : math.invSqrt = exactInvSqrt

def normSq (ahrs : MahonyAhrs ℚ) : ℚ := ahrs.q0 ^ 2 + ahrs.q1 ^ 2 + ahrs.q2 ^ 2 + ahrs.q3 ^ 2

variable {math : AttitudeMath ℚ}

/-- Just below one. -/
def UnitLength (ahrs : MahonyAhrs ℚ) : Prop := 1 - 11 / 1000000 ≤ normSq ahrs ∧ normSq ahrs ≤ 1

theorem Lawful.unit (lawful : Lawful math) {ahrs : MahonyAhrs ℚ} {x : ℚ} (large : 1 / 2 ≤ x)
    (bound : x ≤ 2 ^ 127) (scaled : normSq ahrs = x * math.invSqrt x ^ 2) : UnitLength ahrs := by
  obtain ⟨hHigh, hLow⟩ := exactInvSqrt_bounds (by linarith) bound
  unfold UnitLength
  rw [scaled, lawful.invSqrt]
  exact ⟨hLow large, hHigh⟩

/-- The rates make the quaternion longer before it is scaled. -/
theorem normSq_integrate (ahrs : MahonyAhrs ℚ) (g : Axes ℚ) :
    normSq (ahrs.integrate math g) =
      normSq ahrs * (1 + (1 / 2 * ahrs.invSampleFreq) ^ 2 * g.normSq) *
        math.invSqrt (normSq ahrs * (1 + (1 / 2 * ahrs.invSampleFreq) ^ 2 * g.normSq)) ^ 2 := by
  obtain ⟨gx, gy, gz⟩ := g
  obtain ⟨_, q0, q1, q2, q3, _, _, _, invSampleFreq, _, _, _, _⟩ := ahrs
  simp only [normSq, integrate, lit_rat, Axes.normSq]
  generalize 1 / 2 * invSampleFreq = half
  have hTurned : (q0 + (-q1 * (gx * half) - q2 * (gy * half) - q3 * (gz * half))) *
        (q0 + (-q1 * (gx * half) - q2 * (gy * half) - q3 * (gz * half))) +
      (q1 + (q0 * (gx * half) + q2 * (gz * half) - q3 * (gy * half))) *
        (q1 + (q0 * (gx * half) + q2 * (gz * half) - q3 * (gy * half))) +
      (q2 + (q0 * (gy * half) - q1 * (gz * half) + q3 * (gx * half))) *
        (q2 + (q0 * (gy * half) - q1 * (gz * half) + q3 * (gx * half))) +
      (q3 + (q0 * (gz * half) + q1 * (gy * half) - q2 * (gx * half))) *
        (q3 + (q0 * (gz * half) + q1 * (gy * half) - q2 * (gx * half))) =
      (q0 ^ 2 + q1 ^ 2 + q2 ^ 2 + q3 ^ 2) * (1 + half ^ 2 * (gx ^ 2 + gy ^ 2 + gz ^ 2)) := by
    ring
  rw [hTurned]
  generalize math.invSqrt _ = root
  rw [← hTurned]
  ring

theorem unit_integrate (lawful : Lawful math) {ahrs : MahonyAhrs ℚ} (unit : UnitLength ahrs)
    (rate : 0 ≤ ahrs.invSampleFreq ∧ ahrs.invSampleFreq ≤ 1) {g : Axes ℚ}
    (bound : g.normSq ≤ 10 ^ 37) : UnitLength (ahrs.integrate math g) := by
  obtain ⟨hLow, hHigh⟩ := unit
  obtain ⟨hPositive, hOne⟩ := rate
  have hSquare : (1 / 2 * ahrs.invSampleFreq) ^ 2 ≤ 1 := by
    rw [sq_le_one_iff_abs_le_one, abs_of_nonneg (by linarith)]
    linarith
  have hGrowth : (1 / 2 * ahrs.invSampleFreq) ^ 2 * g.normSq ≤ 1 * 10 ^ 37 :=
    mul_le_mul hSquare bound (Axes.normSq_nonneg g) zero_le_one
  have hNonneg : 0 ≤ (1 / 2 * ahrs.invSampleFreq) ^ 2 * g.normSq :=
    mul_nonneg (sq_nonneg _) (Axes.normSq_nonneg g)
  refine lawful.unit ?_ ?_ (normSq_integrate ahrs g)
  · have hLonger := mul_le_mul_of_nonneg_left (le_add_of_nonneg_right (a := 1) hNonneg)
      (show 0 ≤ normSq ahrs by linarith)
    linarith
  · have hProduct := mul_le_mul hHigh (add_le_add_right hGrowth 1) (by linarith) zero_le_one
    linarith

theorem mul_circles {cr sr cp sp cy sy : ℚ} (roll : cr ^ 2 + sr ^ 2 = 1)
    (pitch : cp ^ 2 + sp ^ 2 = 1) (yaw : cy ^ 2 + sy ^ 2 = 1) :
    (cr * cp * cy + sr * sp * sy) * (cr * cp * cy + sr * sp * sy) +
      (sr * cp * cy - cr * sp * sy) * (sr * cp * cy - cr * sp * sy) +
      (cr * sp * cy + sr * cp * sy) * (cr * sp * cy + sr * cp * sy) +
      (cr * cp * sy - sr * sp * cy) * (cr * cp * sy - sr * sp * cy) = 1 :=
  calc _ = (cr ^ 2 + sr ^ 2) * (cp ^ 2 + sp ^ 2) * (cy ^ 2 + sy ^ 2) := by ring
    _ = 1 := by rw [roll, pitch, yaw, one_mul, one_mul]

/-- Half angles whose sines and cosines are on the circle make a quaternion of length one. -/
theorem unit_initFromAccMag (lawful : Lawful math) (ahrs : MahonyAhrs ℚ) (a m : Axes ℚ) :
    UnitLength (ahrs.initFromAccMag math a m) := by
  refine lawful.unit (x := 1) (by norm_num) (by norm_num) ?_
  simp only [normSq, initFromAccMag]
  rw [mul_circles (lawful.circle _) (lawful.circle _) (lawful.circle _), mul_pow, mul_pow, mul_pow,
    mul_pow, ← add_mul, ← add_mul, ← add_mul, sq, sq, sq, sq,
    mul_circles (lawful.circle _) (lawful.circle _) (lawful.circle _)]

/-- The argument of `asin` is in its domain. -/
theorem abs_pitch_le {ahrs : MahonyAhrs ℚ} (unit : UnitLength ahrs) :
    |-2 * (ahrs.q1 * ahrs.q3 - ahrs.q0 * ahrs.q2)| ≤ 1 := by
  have hShort := unit.2
  unfold normSq at hShort
  rw [abs_le]
  constructor <;> nlinarith [sq_nonneg (ahrs.q1 - ahrs.q3), sq_nonneg (ahrs.q1 + ahrs.q3),
    sq_nonneg (ahrs.q0 - ahrs.q2), sq_nonneg (ahrs.q0 + ahrs.q2)]

theorem normSq_normalized (lawful : Lawful math) {a : Axes ℚ} (bound : a.normSq ≤ 10 ^ 36) :
    (normalized math a).normSq ≤ 1 := by
  have hSquares : a.x * a.x + a.y * a.y + a.z * a.z = a.normSq := by
    unfold Axes.normSq
    ring
  obtain ⟨hHigh, -⟩ := exactInvSqrt_bounds a.normSq_nonneg (bound.trans (by norm_num))
  have hScaled : (normalized math a).normSq = a.normSq * exactInvSqrt a.normSq ^ 2 := by
    simp only [normalized, lawful.invSqrt, hSquares]
    generalize exactInvSqrt a.normSq = root
    simp only [Axes.normSq]
    ring
  rwa [hScaled]

/-- Half the direction of gravity. -/
def halfGravity (ahrs : MahonyAhrs ℚ) : Axes ℚ :=
  ⟨ahrs.q1 * ahrs.q3 - ahrs.q0 * ahrs.q2, ahrs.q0 * ahrs.q1 + ahrs.q2 * ahrs.q3,
    ahrs.q0 * ahrs.q0 - 1 / 2 + ahrs.q3 * ahrs.q3⟩

/-- Half of each row of the rotation. -/
def halfRows (ahrs : MahonyAhrs ℚ) : Axes (Axes ℚ) :=
  let q := ahrs
  ⟨⟨1 / 2 - q.q2 * q.q2 - q.q3 * q.q3, q.q1 * q.q2 - q.q0 * q.q3, q.q1 * q.q3 + q.q0 * q.q2⟩,
    ⟨q.q1 * q.q2 + q.q0 * q.q3, 1 / 2 - q.q1 * q.q1 - q.q3 * q.q3, q.q2 * q.q3 - q.q0 * q.q1⟩,
    ⟨q.q1 * q.q3 - q.q0 * q.q2, q.q2 * q.q3 + q.q0 * q.q1, 1 / 2 - q.q1 * q.q1 - q.q2 * q.q2⟩⟩

/-- Half of a direction is no longer than a half, while the quaternion is not too long. -/
theorem normSq_half {ahrs : MahonyAhrs ℚ} (unit : UnitLength ahrs) :
    ahrs.halfGravity.normSq ≤ 1 / 4 ∧ ahrs.halfRows.x.normSq ≤ 1 / 4 ∧
      ahrs.halfRows.y.normSq ≤ 1 / 4 ∧ ahrs.halfRows.z.normSq ≤ 1 / 4 := by
  have hShort : 0 ≤ 1 - normSq ahrs := by linarith [unit.2]
  have hQuarter {square : ℚ} (part : ℚ) (nonneg : 0 ≤ part)
      (value : square = 1 / 4 - part * (1 - normSq ahrs)) : square ≤ 1 / 4 := by
    linarith [mul_nonneg nonneg hShort]
  refine ⟨hQuarter (ahrs.q0 ^ 2 + ahrs.q3 ^ 2) (by positivity) ?_,
    hQuarter (ahrs.q2 ^ 2 + ahrs.q3 ^ 2) (by positivity) ?_,
    hQuarter (ahrs.q1 ^ 2 + ahrs.q3 ^ 2) (by positivity) ?_,
    hQuarter (ahrs.q1 ^ 2 + ahrs.q2 ^ 2) (by positivity) ?_⟩
  all_goals
    simp only [halfGravity, halfRows, Axes.normSq, normSq]
    ring

/-- The error of the direction of gravity is half the sine of the angle between them. -/
theorem normSq_gravityError {ahrs : MahonyAhrs ℚ} {a : Axes ℚ} (unit : UnitLength ahrs)
    (short : a.normSq ≤ 1) : (ahrs.gravityError a).normSq ≤ 1 / 4 :=
  calc (ahrs.gravityError a).normSq = (a.cross ahrs.halfGravity).normSq := rfl
    _ ≤ ahrs.halfGravity.normSq := Axes.normSq_cross_le short
    _ ≤ 1 / 4 := (normSq_half unit).1

/-- Half of the field's direction, turned into the plane of the first and the last axis. -/
def halfField (math : AttitudeMath ℚ) (ahrs : MahonyAhrs ℚ) (m : Axes ℚ) : Axes ℚ :=
  let hx := 2 * m.dot ahrs.halfRows.x
  let hy := 2 * m.dot ahrs.halfRows.y
  (ahrs.halfRows.x.scale (math.sqrt (hx * hx + hy * hy))).add
    (ahrs.halfRows.z.scale (2 * m.dot ahrs.halfRows.z))

theorem fieldError_eq (ahrs : MahonyAhrs ℚ) (a m : Axes ℚ) :
    ahrs.fieldError math a m =
      (a.cross ahrs.halfGravity).add (m.cross (ahrs.halfField math m)) := by
  simp only [fieldError, halfField, halfGravity, halfRows, Axes.cross, Axes.add, Axes.scale,
    Axes.dot, lit_rat, Axes.mk.injEq]
  refine ⟨?_, ?_, ?_⟩ <;> ring

theorem normSq_halfField (lawful : Lawful math) {ahrs : MahonyAhrs ℚ} {m : Axes ℚ}
    (unit : UnitLength ahrs) (short : m.normSq ≤ 1) : (ahrs.halfField math m).normSq ≤ 5 / 2 := by
  obtain ⟨-, hX, hY, hZ⟩ := normSq_half unit
  have hDot {row : Axes ℚ} (half : row.normSq ≤ 1 / 4) : (2 * m.dot row) ^ 2 ≤ 1 := by
    linarith [mul_pow 2 (m.dot row) 2, Axes.sq_dot_le (w := row) short]
  have hPlane : (2 * m.dot ahrs.halfRows.x) * (2 * m.dot ahrs.halfRows.x) +
      (2 * m.dot ahrs.halfRows.y) * (2 * m.dot ahrs.halfRows.y) ≤ 2 := by
    linarith [hDot hX, hDot hY, sq (2 * m.dot ahrs.halfRows.x), sq (2 * m.dot ahrs.halfRows.y)]
  have hRoot := lawful.sqrt _ (add_nonneg (mul_self_nonneg (2 * m.dot ahrs.halfRows.x))
    (mul_self_nonneg (2 * m.dot ahrs.halfRows.y)))
  have hSum := Axes.normSq_add_le
    (ahrs.halfRows.x.scale (math.sqrt ((2 * m.dot ahrs.halfRows.x) * (2 * m.dot ahrs.halfRows.x) +
      (2 * m.dot ahrs.halfRows.y) * (2 * m.dot ahrs.halfRows.y))))
    (ahrs.halfRows.z.scale (2 * m.dot ahrs.halfRows.z))
  rw [Axes.normSq_scale, Axes.normSq_scale] at hSum
  have hFirst := mul_le_mul (hRoot.trans (mul_le_mul_of_nonneg_left hPlane zero_le_two)) hX
    (Axes.normSq_nonneg _) (by norm_num)
  have hLast := mul_le_mul (hDot hZ) hZ (Axes.normSq_nonneg _) zero_le_one
  exact hSum.trans (by linarith)

theorem normSq_fieldError (lawful : Lawful math) {ahrs : MahonyAhrs ℚ} {a m : Axes ℚ}
    (unit : UnitLength ahrs) (shortA : a.normSq ≤ 1) (shortM : m.normSq ≤ 1) :
    (ahrs.fieldError math a m).normSq ≤ 11 / 2 := by
  have hGravity := (Axes.normSq_cross_le shortA).trans (normSq_half unit).1
  have hField := (Axes.normSq_cross_le shortM).trans (normSq_halfField lawful unit shortM)
  have hSum := Axes.normSq_add_le (a.cross ahrs.halfGravity) (m.cross (ahrs.halfField math m))
  rw [fieldError_eq]
  linarith

/-- What holds of the filter in every run of calls. -/
structure Sound (math : AttitudeMath ℚ) (ahrs : MahonyAhrs ℚ) : Prop where
  gain : ahrs.twoKi = 0
  feedback : ahrs.integralFbx = 0 ∧ ahrs.integralFby = 0 ∧ ahrs.integralFbz = 0
  rate : 0 ≤ ahrs.invSampleFreq ∧ ahrs.invSampleFreq ≤ 1
  unit : UnitLength ahrs
  fresh : ahrs.anglesComputed = true → ahrs.computeAngles math = ahrs

/-- Without an integral gain, only the rates change. -/
theorem feedBack_eq {ahrs : MahonyAhrs ℚ} (sound : Sound math ahrs) (g error : Axes ℚ) :
    ahrs.feedBack g error = (ahrs, g.add error) := by
  obtain ⟨hx, hy, hz⟩ := sound.feedback
  have hGain := sound.gain
  have hKp : (kTwoKp : ℚ) = 1 := by norm_num [kTwoKp]
  obtain ⟨twoKi, _, _, _, _, fbx, fby, fbz, _, _, _, _, _⟩ := ahrs
  simp only at hx hy hz hGain
  subst hx hy hz hGain
  simp [feedBack, hKp, Axes.add]

/-- An update integrates the rates with a correction. -/
def Corrects (math : AttitudeMath ℚ) (ahrs : MahonyAhrs ℚ) (g : Axes ℚ) (limit : ℚ)
    (after : MahonyAhrs ℚ) : Prop :=
  ∃ c : Axes ℚ, c.normSq ≤ limit ∧ after = ahrs.integrate math (g.add c)

theorem corrects_plain (ahrs : MahonyAhrs ℚ) (g : Axes ℚ) {limit : ℚ} (nonneg : 0 ≤ limit) :
    Corrects math ahrs g limit (ahrs.integrate math g) := by
  refine ⟨⟨0, 0, 0⟩, by simpa [Axes.normSq] using nonneg, ?_⟩
  simp only [Axes.add, add_zero]

theorem corrects_updateImu (lawful : Lawful math) {ahrs : MahonyAhrs ℚ} (sound : Sound math ahrs)
    (g : Axes ℚ) {a : Axes ℚ} (bound : a.normSq ≤ 10 ^ 36) :
    Corrects math ahrs g (1 / 4) (ahrs.updateImu math g a) := by
  unfold updateImu
  split_ifs with hMeasured
  · rw [feedBack_eq sound]
    exact ⟨_, normSq_gravityError sound.unit (normSq_normalized lawful bound), rfl⟩
  · exact corrects_plain ahrs g (by norm_num)

theorem corrects_update (lawful : Lawful math) {ahrs : MahonyAhrs ℚ} (sound : Sound math ahrs)
    (g : Axes ℚ) {a m : Axes ℚ} (boundA : a.normSq ≤ 10 ^ 36) (boundM : m.normSq ≤ 10 ^ 36) :
    Corrects math ahrs g (11 / 2) (ahrs.update math g a m) := by
  unfold update
  split_ifs with hField hMeasured
  · obtain ⟨c, hC, hUpdate⟩ := corrects_updateImu lawful sound g boundA
    exact ⟨c, hC.trans (by norm_num), hUpdate⟩
  · rw [feedBack_eq sound]
    exact ⟨_, normSq_fieldError lawful sound.unit (normSq_normalized lawful boundA)
      (normSq_normalized lawful boundM), rfl⟩
  · exact corrects_plain ahrs g (by norm_num)

/-- The sample frequency of an initialisation is at least one, and the squares of measurements
are far from what a float holds. -/
def InRange : AhrsCall ℚ → Prop
  | .init sampleFrequencyHz => 1 ≤ sampleFrequencyHz
  | .initFromAccMag a m => a.normSq ≤ 10 ^ 36 ∧ m.normSq ≤ 10 ^ 36
  | .update g a m => g.normSq ≤ 10 ^ 36 ∧ a.normSq ≤ 10 ^ 36 ∧ m.normSq ≤ 10 ^ 36
  | .updateImu g a => g.normSq ≤ 10 ^ 36 ∧ a.normSq ≤ 10 ^ 36
  | .computeAngles | .rollDeg | .pitchDeg | .yawDeg => True

theorem sound_constructed : Sound math constructed where
  gain := by norm_num [constructed, kTwoKiDefault]
  feedback := ⟨rfl, rfl, rfl⟩
  rate := by norm_num [constructed]
  unit := by norm_num [UnitLength, normSq, constructed]
  fresh computed := by cases computed

theorem sound_init (ahrs : MahonyAhrs ℚ) {sampleFrequencyHz : ℚ} (rate : 1 ≤ sampleFrequencyHz) :
    Sound math (ahrs.init sampleFrequencyHz) where
  gain := by norm_num [init, kTwoKiDefault]
  feedback := ⟨rfl, rfl, rfl⟩
  rate := ⟨div_nonneg zero_le_one (zero_le_one.trans rate), div_le_one_of_le₀ rate (by linarith)⟩
  unit := by norm_num [UnitLength, normSq, init]
  fresh computed := by cases computed

theorem Corrects.sound (lawful : Lawful math) {ahrs after : MahonyAhrs ℚ}
    (sound : Sound math ahrs) {g : Axes ℚ} {limit : ℚ} (corrects : Corrects math ahrs g limit after)
    (bound : g.normSq ≤ 10 ^ 36) (small : limit ≤ 10) : Sound math after := by
  obtain ⟨c, hC, rfl⟩ := corrects
  have hSum : (g.add c).normSq ≤ 10 ^ 37 := (g.normSq_add_le c).trans (by linarith)
  exact ⟨sound.gain, sound.feedback, sound.rate, unit_integrate lawful sound.unit sound.rate hSum,
    fun computed => by cases computed⟩

theorem sound_computeAngles {ahrs : MahonyAhrs ℚ} (sound : Sound math ahrs) :
    Sound math (ahrs.computeAngles math) :=
  ⟨sound.gain, sound.feedback, sound.rate, sound.unit, fun _ => rfl⟩

/-- The getters compute the angles unless they have the ones of this attitude. -/
theorem withAngles_eq {ahrs : MahonyAhrs ℚ} (sound : Sound math ahrs) :
    ahrs.withAngles math = ahrs.computeAngles math := by
  cases hComputed : ahrs.anglesComputed with
  | true =>
      rw [withAngles, hComputed, sound.fresh hComputed]
      rfl
  | false =>
      rw [withAngles, hComputed]
      rfl

theorem sound_call (lawful : Lawful math) {ahrs : MahonyAhrs ℚ} (sound : Sound math ahrs)
    (calling : AhrsCall ℚ) (inRange : InRange calling) : Sound math (call math ahrs calling) := by
  have hAngles : Sound math (ahrs.withAngles math) := by
    rw [withAngles_eq sound]
    exact sound_computeAngles sound
  cases calling with
  | init sampleFrequencyHz => exact sound_init ahrs inRange
  | initFromAccMag a m =>
      exact ⟨sound.gain, sound.feedback, sound.rate, unit_initFromAccMag lawful ahrs a m,
        fun computed => by cases computed⟩
  | update g a m =>
      obtain ⟨hG, hA, hM⟩ := inRange
      exact (corrects_update lawful sound g hA hM).sound lawful sound hG (by norm_num)
  | updateImu g a =>
      obtain ⟨hG, hA⟩ := inRange
      exact (corrects_updateImu lawful sound g hA).sound lawful sound hG (by norm_num)
  | computeAngles => exact sound_computeAngles sound
  | rollDeg => exact hAngles
  | pitchDeg => exact hAngles
  | yawDeg => exact hAngles

/-- What the getters return are the angles of the present attitude. -/
def Reports (math : AttitudeMath ℚ) (ahrs : MahonyAhrs ℚ) : Prop :=
  (ahrs.rollDeg math).2 = (ahrs.computeAngles math).cachedRollDeg ∧
    (ahrs.pitchDeg math).2 = (ahrs.computeAngles math).cachedPitchDeg ∧
    (ahrs.yawDeg math).2 = (ahrs.computeAngles math).cachedYawDeg

/-- In every run of calls the attitude is of length one to eleven millionths and never longer,
so that `asin` gets an argument of its domain; the getters report the present attitude; and no
acceleration turns the device by more than half a radian per second. -/
theorem attitude_normalised (lawful : Lawful math) {calls : List (AhrsCall ℚ)}
    (inRange : Run.Along (call math) (fun _ calling => InRange calling) constructed calls) :
    Run.Always (call math)
        (fun ahrs => UnitLength ahrs ∧ |-2 * (ahrs.q1 * ahrs.q3 - ahrs.q0 * ahrs.q2)| ≤ 1 ∧
          Reports math ahrs) constructed calls ∧
      Run.Along (call math)
        (fun ahrs calling => ∀ g a, calling = .updateImu g a →
          Corrects math ahrs g (1 / 4) (call math ahrs calling)) constructed calls := by
  have hKept : ∀ ahrs calling, Sound math ahrs → InRange calling →
      Sound math (call math ahrs calling) :=
    fun _ calling sound inRange => sound_call lawful sound calling inRange
  constructor
  · refine Run.always_of_along hKept (fun ahrs sound => ⟨sound.unit, abs_pitch_le sound.unit, ?_⟩)
      sound_constructed inRange
    simp only [Reports, rollDeg, pitchDeg, yawDeg, withAngles_eq sound, and_self]
  · refine Run.along_of_invariant hKept (fun ahrs calling sound inRange g a hCalling => ?_)
      sound_constructed inRange
    subst hCalling
    exact corrects_updateImu lawful sound g inRange.2

/-- A library in which every angle is that of the triangle with the sides three, four and five. -/
def triangleMath : AttitudeMath ℚ where
  sqrt x := if x ≤ 1 then x else 1
  sin _ := 3 / 5
  cos _ := 4 / 5
  asin _ := 0
  atan2 _ _ := 0
  invSqrt := exactInvSqrt

theorem lawful_triangleMath : Lawful triangleMath where
  circle _ := by norm_num [triangleMath]
  sqrt x nonneg := by
    simp only [triangleMath]
    split_ifs with hSmall
    · nlinarith
    · linarith
  invSqrt := rfl

/-- Calls on a device that lies on its side and turns. -/
def turningCalls : List (AhrsCall ℚ) :=
  [.init 1000, .initFromAccMag ⟨0, 10, 0⟩ ⟨1, 1, 1⟩, .updateImu ⟨1, 0, 0⟩ ⟨0, 10, 0⟩, .rollDeg,
    .update ⟨1, 0, 0⟩ ⟨0, 10, 1⟩ ⟨1, 1, 1⟩, .yawDeg]

theorem attitude_normalised_turning :
    Run.Always (call triangleMath)
        (fun ahrs => UnitLength ahrs ∧ |-2 * (ahrs.q1 * ahrs.q3 - ahrs.q0 * ahrs.q2)| ≤ 1 ∧
          Reports triangleMath ahrs) constructed turningCalls ∧
      Run.Along (call triangleMath)
        (fun ahrs calling => ∀ g a, calling = .updateImu g a →
          Corrects triangleMath ahrs g (1 / 4) (call triangleMath ahrs calling)) constructed
        turningCalls := by
  refine attitude_normalised lawful_triangleMath ⟨?_, ?_, ?_, trivial, ?_, trivial, trivial⟩
  all_goals norm_num [InRange, Axes.normSq]

end MahonyAhrs

end RmTest.Algorithms
