import RmTest.Algorithms.Checksum
import RmTest.Library.Total
import Mathlib.Algebra.Order.Group.Nat

/-! What the sums over an array come to. The counter of their loops reaches 255 at most,
so a length from 256 on is never counted off. -/
namespace RmTest.Algorithms.Checksum

open Repeat Total

variable {W : Type} {toNat : W → Nat} {modulus : Nat}

/-- A fixed-width integer type, with the number that each value stands for. -/
structure Wraps [Add W] (toNat : W → Nat) (modulus : Nat) : Prop where
  add : ∀ a b, toNat (a + b) = (toNat a + toNat b) % modulus
  lt : ∀ a, toNat a < modulus

theorem wraps8 : Wraps UInt8.toNat (2 ^ 8) := ⟨UInt8.toNat_add, UInt8.toNat_lt⟩
theorem wraps16 : Wraps UInt16.toNat (2 ^ 16) := ⟨UInt16.toNat_add, UInt16.toNat_lt⟩
theorem wraps32 : Wraps UInt32.toNat (2 ^ 32) := ⟨UInt32.toNat_add, UInt32.toNat_lt⟩

variable [Add W] {address : List W} {length : UInt32}

theorem toNat_toUInt32_lt (i : UInt8) (length : UInt32) :
    i.toUInt32 < length ↔ i.toNat < length.toNat := by
  rw [UInt32.lt_iff_toNat_lt, UInt8.toNat_toUInt32]

/-- Inside the array a pass counts one element, and the counter wraps. -/
theorem sumPass_next {loop : Loop W} (more : loop.i.toNat < length.toNat)
    (inside : loop.i.toNat < address.length) :
    sumPass address length loop =
      .next { i := loop.i + 1, sum := loop.sum + address[loop.i.toNat] } := by
  rw [sumPass, if_pos ((toNat_toUInt32_lt _ _).mpr more), CheckedArray.load,
    List.getElem?_eq_getElem inside, Option.elim_some]

theorem sumPass_done {loop : Loop W} (counted : length.toNat ≤ loop.i.toNat) :
    sumPass address length loop = .done loop.sum := by
  rw [sumPass, if_neg (mt (toNat_toUInt32_lt _ _).mp (Nat.not_lt.mpr counted))]

/-- With so many elements left, what has been added and what is left make up the sum. -/
def Summed (toNat : W → Nat) (modulus : Nat) (address : List W) (length : UInt32) (left : Nat)
    (loop : Loop W) : Prop :=
  loop.i.toNat + left = length.toNat ∧
    (toNat loop.sum + total toNat ((address.take length.toNat).drop loop.i.toNat)) % modulus =
      total toNat (address.take length.toNat) % modulus

theorem sumPass_advances (wraps : Wraps toNat modulus) (inside : length.toNat ≤ address.length)
    (short : length.toNat < 256) (left : Nat) (loop : Loop W)
    (summed : Summed toNat modulus address length left loop) :
    Advances (sumPass address length) (Summed toNat modulus address length)
      (fun sum => toNat sum = total toNat (address.take length.toNat) % modulus) left loop := by
  obtain ⟨hLeft, hSum⟩ := summed
  cases left with
  | zero =>
      have hCounted : length.toNat ≤ loop.i.toNat := hLeft.ge
      refine .done loop.sum (sumPass_done hCounted) ?_
      have hNothing : (address.take length.toNat).drop loop.i.toNat = [] :=
        List.drop_eq_nil_of_le (Nat.le_trans (List.length_take_le _ _) hCounted)
      rw [hNothing] at hSum
      rw [← hSum]
      exact (Nat.mod_eq_of_lt (wraps.lt loop.sum)).symm
  | succ left =>
      have hMore : loop.i.toNat < length.toNat := by omega
      have hInside : loop.i.toNat < address.length := by omega
      have hCounter : (loop.i + 1).toNat = loop.i.toNat + 1 := by
        rw [UInt8.toNat_add, UInt8.toNat_one]
        omega
      refine .next left _ (sumPass_next hMore hInside) (Nat.lt_succ_self left) ⟨?_, ?_⟩
      · simp only [hCounter]
        omega
      · have hTake : loop.i.toNat < (address.take length.toNat).length := by
          rw [List.length_take]
          omega
        rw [List.drop_eq_getElem_cons hTake, total_cons, List.getElem_take] at hSum
        simp only [hCounter, wraps.add]
        rw [Nat.mod_add_mod, Nat.add_assoc, hSum]

/-- A length that the counter reaches is counted off. -/
theorem run_sumPass_returns (wraps : Wraps toNat modulus) {zero : W} (hZero : toNat zero = 0)
    (inside : length.toNat ≤ address.length) (short : length.toNat < 256) :
    ∃ sum, Returns (fun budget => run (sumPass address length) budget ⟨0, zero⟩) sum ∧
      toNat sum = total toNat (address.take length.toNat) % modulus := by
  have hStart : Summed toNat modulus address length length.toNat ⟨0, zero⟩ := by
    refine ⟨Nat.zero_add _, ?_⟩
    rw [hZero, Nat.zero_add, UInt8.toNat_zero, List.drop_zero]
  exact returns_of_advances (sumPass_advances wraps inside short) hStart

/-- A length that the counter does not reach keeps the loop going. -/
theorem run_sumPass_none (inside : length.toNat ≤ address.length) (long : 256 ≤ length.toNat)
    (loop : Loop W) (budget : Nat) : run (sumPass address length) budget loop = none := by
  have hNext (loop : Loop W) (_ : True) :
      ∃ next, sumPass address length loop = .next next ∧ True := by
    have hMore : loop.i.toNat < length.toNat := Nat.lt_of_lt_of_le loop.i.toNat_lt long
    exact ⟨_, sumPass_next hMore (Nat.lt_of_lt_of_le hMore inside), trivial⟩
  exact run_none_of_invariant hNext trivial budget

theorem run_sumPass_iff (wraps : Wraps toNat modulus) {zero : W} (hZero : toNat zero = 0)
    (inside : length.toNat ≤ address.length) :
    (∃ sum, Returns (fun budget => run (sumPass address length) budget ⟨0, zero⟩) sum ∧
        toNat sum = total toNat (address.take length.toNat) % modulus) ↔ length.toNat < 256 := by
  constructor
  · rintro ⟨sum, hReturns, -⟩
    by_contra hLong
    exact not_returns (run_sumPass_none inside (Nat.not_lt.mp hLong) _) sum hReturns
  · exact run_sumPass_returns wraps hZero inside

/-- For every array and every length within it, each of the three loops ends with the sum of
that many elements, modulo the width, exactly if the length is below 256. -/
theorem mathSum_returns_iff (length : UInt32) :
    (∀ address : List UInt8, length.toNat ≤ address.length →
      ((∃ sum, Returns (fun budget => mathSum8 budget address length) sum ∧
          sum.toNat = total UInt8.toNat (address.take length.toNat) % 2 ^ 8) ↔
        length.toNat < 256)) ∧
    (∀ address : List UInt16, length.toNat ≤ address.length →
      ((∃ sum, Returns (fun budget => mathSum16 budget address length) sum ∧
          sum.toNat = total UInt16.toNat (address.take length.toNat) % 2 ^ 16) ↔
        length.toNat < 256)) ∧
    (∀ address : List UInt32, length.toNat ≤ address.length →
      ((∃ sum, Returns (fun budget => mathSum32 budget address length) sum ∧
          sum.toNat = total UInt32.toNat (address.take length.toNat) % 2 ^ 32) ↔
        length.toNat < 256)) :=
  ⟨fun _ hInside => run_sumPass_iff wraps8 rfl hInside,
    fun _ hInside => run_sumPass_iff wraps16 rfl hInside,
    fun _ hInside => run_sumPass_iff wraps32 rfl hInside⟩

theorem mathSum_returns_iff_two :
    (∃ sum, Returns (fun budget => mathSum8 budget [255, 2, 3] 2) sum ∧
        sum.toNat = total UInt8.toNat [255, 2] % 2 ^ 8) ↔ (2 : UInt32).toNat < 256 :=
  (mathSum_returns_iff 2).1 [255, 2, 3] (by decide)

/-- Over 256 bytes the loop starts again at the first one whenever it has read the last. -/
theorem mathSum8_256 :
    ¬ ((256 : UInt32).toNat ≤ (List.replicate 256 (0 : UInt8)).length →
      ∃ sum, Returns (fun budget => mathSum8 budget (List.replicate 256 0) 256) sum ∧
        sum.toNat = total UInt8.toNat ((List.replicate 256 (0 : UInt8)).take 256) % 2 ^ 8) := by
  have hInside : (256 : UInt32).toNat ≤ (List.replicate 256 (0 : UInt8)).length := by
    rw [List.length_replicate]
    decide
  intro hSums
  obtain ⟨sum, hReturns, -⟩ := hSums hInside
  exact not_returns (run_sumPass_none hInside (by decide) _) sum hReturns

end RmTest.Algorithms.Checksum
