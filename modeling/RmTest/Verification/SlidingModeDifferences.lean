import RmTest.Algorithms.SlidingMode
import Mathlib.Data.List.Induction

/-! The differences of the reference that the sliding-mode controller uses. A tick inside of
the band leaves `refl` as it is, so `refl` is the reference of the last tick outside. -/
namespace RmTest.Algorithms.Smc

open FloatModel

variable {errorEps uMax : ℚ}

/-- The error of a tick is inside of the band. -/
def InBand (errorEps : ℚ) (tick : Tick ℚ) : Prop := |tick.angleNow - tick.ref| < errorEps

instance (errorEps : ℚ) (tick : Tick ℚ) : Decidable (InBand errorEps tick) :=
  inferInstanceAs (Decidable (_ < _))

/-- The reference of the last tick, zero if there was none. -/
def lastRef (ticks : List (Tick ℚ)) : ℚ := (ticks.map Tick.ref).getLastD 0

/-- The reference of the last tick outside of the band, zero if there was none. -/
def heldRef (errorEps : ℚ) (ticks : List (Tick ℚ)) : ℚ :=
  lastRef (ticks.filter fun tick => ¬ InBand errorEps tick)

/-- The last reference is the one of the last tick outside of the band. -/
def Unmoved (errorEps : ℚ) (ticks : List (Tick ℚ)) : Prop := lastRef ticks = heldRef errorEps ticks

theorem lastRef_concat (ticks : List (Tick ℚ)) (next : Tick ℚ) :
    lastRef (ticks ++ [next]) = next.ref := by
  simp [lastRef]

theorem heldRef_concat (errorEps : ℚ) (ticks : List (Tick ℚ)) (next : Tick ℚ) :
    heldRef errorEps (ticks ++ [next]) =
      if InBand errorEps next then heldRef errorEps ticks else next.ref := by
  rw [heldRef, List.filter_append]
  by_cases hInside : InBand errorEps next
  · simp [hInside, heldRef]
  · simp [hInside, lastRef_concat]

theorem abs_limited_le {limit : ℚ} (nonneg : 0 ≤ limit) (u : ℚ) :
    |if (if limit < u then limit else u) < -limit then -limit
      else if limit < u then limit else u| ≤ limit := by
  rw [abs_le]
  split_ifs <;> constructor <;> linarith

theorem abs_tick_u_le (smc : Smc ℚ) (next : Tick ℚ) (nonneg : 0 ≤ smc.uMax) :
    |(smc.tick next).u| ≤ smc.uMax := by
  by_cases hInside : |next.angleNow - next.ref| < smc.errorEps
  · simp only [tick, smcTick, lt_rat, fabs_rat, decide_eq_true_eq, if_pos hInside]
    exact abs_zero.trans_le nonneg
  · simp only [tick, smcTick, lt_rat, fabs_rat, decide_eq_true_eq, if_neg hInside]
    exact abs_limited_le nonneg _

/-- What a tick does besides its output. Inside of the band it does not carry `refl` on. -/
theorem tick_eq (smc : Smc ℚ) (next : Tick ℚ) :
    smc.tick next = { smc with
      ref := next.ref
      angle := next.angleNow
      angVel := next.angleVel
      error := next.angleNow - next.ref
      dref := next.ref - smc.refl
      ddref := next.ref - smc.refl - smc.dref
      s := (smc.tick next).s
      u := (smc.tick next).u
      refl := if InBand smc.errorEps next then smc.refl else next.ref } := by
  by_cases hInside : InBand smc.errorEps next
  · have hError : |next.angleNow - next.ref| < smc.errorEps := hInside
    simp only [tick, smcTick, lt_rat, fabs_rat, decide_eq_true_eq, if_pos hError, if_pos hInside]
  · have hError : ¬ |next.angleNow - next.ref| < smc.errorEps := hInside
    simp only [tick, smcTick, lt_rat, fabs_rat, decide_eq_true_eq, if_neg hError, if_neg hInside]

/-- What the state keeps of the ticks so far. -/
structure History (errorEps uMax : ℚ) (ticks : List (Tick ℚ)) (smc : Smc ℚ) : Prop where
  errorEps_eq : smc.errorEps = errorEps
  uMax_eq : smc.uMax = uMax
  refl_eq : smc.refl = heldRef errorEps ticks
  dref_eq : smc.dref = lastRef ticks - heldRef errorEps ticks.dropLast

theorem History.tick {ticks : List (Tick ℚ)} {smc : Smc ℚ}
    (history : History errorEps uMax ticks smc) (next : Tick ℚ) :
    History errorEps uMax (ticks ++ [next]) (smc.tick next) := by
  rw [tick_eq]
  refine ⟨history.errorEps_eq, history.uMax_eq, ?_, ?_⟩
  · rw [heldRef_concat, history.errorEps_eq, history.refl_eq]
  · rw [lastRef_concat, List.dropLast_concat, history.refl_eq]

theorem history_run {smc : Smc ℚ} (start : History errorEps uMax [] smc)
    (ticks : List (Tick ℚ)) : History errorEps uMax ticks (ticks.foldl tick smc) := by
  induction ticks using List.reverseRecOn with
  | nil => exact start
  | append_singleton ticks next ih =>
      rw [List.foldl_append]
      exact ih.tick next

/-- At a tick, the differences are those of the references exactly if nothing has moved
unnoticed before it and before the tick before it. -/
theorem History.differences_iff {ticks : List (Tick ℚ)} {smc : Smc ℚ}
    (history : History errorEps uMax ticks smc) (next : Tick ℚ) :
    (smc.tick next).dref = next.ref - lastRef ticks ∧
        (smc.tick next).ddref =
          next.ref - lastRef ticks - (lastRef ticks - lastRef ticks.dropLast) ↔
      Unmoved errorEps ticks ∧ Unmoved errorEps ticks.dropLast := by
  rw [tick_eq]
  simp only [history.refl_eq, history.dref_eq, Unmoved]
  constructor
  · rintro ⟨hDref, hDdref⟩
    constructor <;> linarith
  · rintro ⟨hLast, hBefore⟩
    rw [hLast, hBefore]
    exact ⟨rfl, rfl⟩

theorem History.abs_u_le {ticks : List (Tick ℚ)} {smc : Smc ℚ}
    (history : History errorEps uMax ticks smc) (nonneg : 0 ≤ uMax) (next : Tick ℚ) :
    |(smc.tick next).u| ≤ uMax := by
  rw [← history.uMax_eq] at nonneg ⊢
  exact abs_tick_u_le smc next nonneg

theorem history_construct (c k ref errorEps uMax j epsilon : ℚ) :
    History errorEps uMax [] (construct c k ref errorEps uMax j epsilon) :=
  ⟨rfl, rfl, rfl, (sub_self 0).symm⟩

/-- Over every run, the ticks outside of the band use the differences from the immediately
preceding ticks exactly if no reference has moved inside of the band before such a tick, nor
before the tick ahead of it. The output stays within its limit in any case. -/
theorem references_differences_iff (c k ref j epsilon : ℚ) (nonneg : 0 ≤ uMax)
    (ticks : List (Tick ℚ)) :
    (∀ before next, before ++ [next] <+: ticks →
        |((before ++ [next]).foldl tick (construct c k ref errorEps uMax j epsilon)).u| ≤ uMax ∧
        (¬ InBand errorEps next →
          ((before ++ [next]).foldl tick (construct c k ref errorEps uMax j epsilon)).dref =
              next.ref - lastRef before ∧
            ((before ++ [next]).foldl tick (construct c k ref errorEps uMax j epsilon)).ddref =
              next.ref - lastRef before - (lastRef before - lastRef before.dropLast))) ↔
      ∀ before next, before ++ [next] <+: ticks → ¬ InBand errorEps next →
        Unmoved errorEps before ∧ Unmoved errorEps before.dropLast := by
  have hHistory (before : List (Tick ℚ)) :=
    history_run (history_construct c k ref errorEps uMax j epsilon) before
  constructor
  · intro hRight before next hBefore hOutside
    have hDifferences := (hRight before next hBefore).2 hOutside
    rw [List.foldl_append] at hDifferences
    exact ((hHistory before).differences_iff next).mp hDifferences
  · intro hUnmoved before next hBefore
    rw [List.foldl_append]
    refine ⟨(hHistory before).abs_u_le nonneg next, fun hOutside => ?_⟩
    exact ((hHistory before).differences_iff next).mpr (hUnmoved before next hBefore hOutside)

/-- A tick outside of the band, one inside with the same reference, and one outside again. -/
def steadyTicks : List (Tick ℚ) := [⟨5, 0, 0⟩, ⟨5, 5, 0⟩, ⟨9, 0, 0⟩]

theorem references_differences_iff_steady :
    (steadyTicks.foldl tick (construct 1 1 0 1 10 1 1)).dref = 9 - 5 ∧
      (steadyTicks.foldl tick (construct 1 1 0 1 10 1 1)).ddref = 9 - 5 - (5 - 5) := by
  have hUnmoved : ∀ before next, before ++ [next] <+: steadyTicks → ¬ InBand 1 next →
      Unmoved 1 before ∧ Unmoved 1 before.dropLast := by
    intro before next hPrefix hOutside
    rcases before with _ | ⟨first, _ | ⟨second, _ | ⟨third, rest⟩⟩⟩
    all_goals simp [steadyTicks] at hPrefix
    · norm_num [Unmoved, heldRef, lastRef]
    · obtain ⟨rfl, rfl⟩ := hPrefix
      norm_num [InBand] at hOutside
    · obtain ⟨rfl, rfl, rfl⟩ := hPrefix
      norm_num [Unmoved, heldRef, lastRef, InBand]
  have hOutside : ¬ InBand 1 ⟨9, 0, 0⟩ := by
    norm_num [InBand]
  exact ((references_differences_iff 1 1 0 1 1 (by norm_num) steadyTicks).mpr hUnmoved
    [⟨5, 0, 0⟩, ⟨5, 5, 0⟩] ⟨9, 0, 0⟩ (List.prefix_refl _)).2 hOutside

/-- The reference moves from 0 to 1 inside of the band and to 5 outside: the controller uses
a difference of 5. -/
theorem references_differences_lag :
    ¬ ∀ before next, before ++ [next] <+: [(⟨1, 1, 0⟩ : Tick ℚ), ⟨5, 0, 0⟩] →
      |((before ++ [next]).foldl tick (construct 1 1 0 1 10 1 1)).u| ≤ 10 ∧
      (¬ InBand 1 next →
        ((before ++ [next]).foldl tick (construct 1 1 0 1 10 1 1)).dref =
            next.ref - lastRef before ∧
          ((before ++ [next]).foldl tick (construct 1 1 0 1 10 1 1)).ddref =
            next.ref - lastRef before - (lastRef before - lastRef before.dropLast)) := by
  intro hRight
  have hOutside : ¬ InBand 1 ⟨5, 0, 0⟩ := by
    norm_num [InBand]
  have hDref := ((hRight [⟨1, 1, 0⟩] ⟨5, 0, 0⟩ (List.prefix_refl _)).2 hOutside).1
  have hHistory := history_run (history_construct 1 1 0 1 10 1 1) [⟨1, 1, 0⟩]
  have hRefl : heldRef 1 [(⟨1, 1, 0⟩ : Tick ℚ)] = 0 := by
    norm_num [heldRef, InBand, lastRef]
  rw [List.foldl_append, List.foldl_cons, List.foldl_nil, tick_eq] at hDref
  simp only [hHistory.refl_eq, hRefl, lastRef] at hDref
  norm_num at hDref

end RmTest.Algorithms.Smc
