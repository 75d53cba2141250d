import Mathlib.Data.Nat.Basic

/-! Loops without a bound on the number of their passes. A loop is run with a budget, and
comes to a result if every budget from some on is enough for it. -/
namespace Repeat

variable {State Result : Type}

/-- What a pass of a loop comes to. -/
inductive Pass (State Result : Type) where
  | next (state : State)
  | done (result : Result)
  | failed

def Pass.map {State' Result' : Type} (f : State → State') (g : Result → Result') :
    Pass State Result → Pass State' Result'
  | .next state => .next (f state)
  | .done result => .done (g result)
  | .failed => .failed

/-- The result of a loop, unless a pass fails or the budget is too small. -/
def run (pass : State → Pass State Result) : Nat → State → Option Result
  | 0, _ => none
  | budget + 1, state =>
      match pass state with
      | .next state => run pass budget state
      | .done result => some result
      | .failed => none

/-- A function of a budget comes to a result. -/
def Returns (f : Nat → Option Result) (result : Result) : Prop :=
  ∃ enough, ∀ budget, enough ≤ budget → f budget = some result

/-- What needs no loop needs no budget. -/
theorem returns_const (result : Result) : Returns (fun _ => some result) result :=
  ⟨0, fun _ _ => rfl⟩

theorem Returns.map {Result' : Type} {f : Nat → Option Result} {result : Result}
    (returns : Returns f result) (g : Result → Result') :
    Returns (fun budget => (f budget).map g) (g result) := by
  obtain ⟨enough, hReturns⟩ := returns
  refine ⟨enough, fun budget hEnough => ?_⟩
  simp only [hReturns budget hEnough, Option.map_some]

/-- One function after the other, on the same budget. -/
theorem Returns.bind {Result' : Type} {f : Nat → Option Result} {result : Result}
    (first : Returns f result) {g : Nat → Result → Option Result'} {result' : Result'}
    (second : Returns (fun budget => g budget result) result') :
    Returns (fun budget => (f budget).bind (g budget)) result' := by
  obtain ⟨enough, hFirst⟩ := first
  obtain ⟨enough', hSecond⟩ := second
  refine ⟨enough + enough', fun budget hEnough => ?_⟩
  have hF := hFirst budget (Nat.le_trans (Nat.le_add_right _ _) hEnough)
  have hG := hSecond budget (Nat.le_trans (Nat.le_add_left _ _) hEnough)
  simp only [hF, Option.bind_some, hG]

theorem not_returns {f : Nat → Option Result} (never : ∀ budget, f budget = none)
    (result : Result) : ¬ Returns f result := by
  rintro ⟨enough, hReturns⟩
  have hSome := hReturns enough (Nat.le_refl _)
  rw [never enough] at hSome
  cases hSome

variable {pass : State → Pass State Result}

theorem run_done {state : State} {result : Result} (ends : pass state = .done result)
    (budget : Nat) : run pass (budget + 1) state = some result := by
  rw [run, ends]

theorem run_next {state next : State} (goesOn : pass state = .next next) (budget : Nat) :
    run pass (budget + 1) state = run pass budget next := by
  rw [run, goesOn]

/-- A loop seen through a map does what the loop does. -/
theorem run_map {State' Result' : Type} {pass' : State' → Pass State' Result'} (f : State → State')
    (g : Result → Result') (mirrors : ∀ state, pass' (f state) = (pass state).map f g)
    (budget : Nat) (state : State) :
    run pass' budget (f state) = (run pass budget state).map g := by
  induction budget generalizing state with
  | zero => rfl
  | succ budget ih =>
      have hPass := mirrors state
      rw [run, run, hPass]
      cases pass state with
      | next state => exact ih state
      | done result => rfl
      | failed => rfl

theorem returns_done {state : State} {result : Result} (ends : pass state = .done result) :
    Returns (fun budget => run pass budget state) result := by
  refine ⟨1, fun budget hEnough => ?_⟩
  obtain ⟨more, rfl⟩ := Nat.exists_eq_add_of_le' hEnough
  exact run_done ends more

theorem returns_next {state next : State} {result : Result} (goesOn : pass state = .next next)
    (returns : Returns (fun budget => run pass budget next) result) :
    Returns (fun budget => run pass budget state) result := by
  obtain ⟨enough, hReturns⟩ := returns
  refine ⟨enough + 1, fun budget hEnough => ?_⟩
  obtain ⟨more, rfl⟩ := Nat.exists_eq_add_of_le' hEnough
  have hRest := hReturns (more + enough) (Nat.le_add_left _ _)
  exact (run_next goesOn (more + enough)).trans hRest

/-- A pass from a state with so much left to do: it ends the loop as it should, or leaves
less to do. -/
inductive Advances (pass : State → Pass State Result) (variant : Nat → State → Prop)
    (post : Result → Prop) (left : Nat) (state : State) : Prop where
  | next (less : Nat) (next : State) (goesOn : pass state = .next next) (decreases : less < left)
      (keeps : variant less next)
  | done (result : Result) (ends : pass state = .done result) (holds : post result)

/-- Total correctness: a loop whose passes advance comes to a result, and to a right one. -/
theorem returns_of_advances {variant : Nat → State → Prop} {post : Result → Prop}
    (advances : ∀ left state, variant left state → Advances pass variant post left state)
    {left : Nat} {state : State} (start : variant left state) :
    ∃ result, Returns (fun budget => run pass budget state) result ∧ post result := by
  induction left using Nat.strongRecOn generalizing state with
  | ind left ih =>
      cases advances left state start with
      | next less next goesOn decreases keeps =>
          obtain ⟨result, hReturns, hPost⟩ := ih less decreases keeps
          exact ⟨result, returns_next goesOn hReturns, hPost⟩
      | done result ends holds => exact ⟨result, returns_done ends, holds⟩

/-- A loop whose passes go on for good comes to no result. -/
theorem run_none_of_invariant {invariant : State → Prop}
    (goesOn : ∀ state, invariant state → ∃ next, pass state = .next next ∧ invariant next)
    {state : State} (start : invariant state) (budget : Nat) : run pass budget state = none := by
  induction budget generalizing state with
  | zero => rfl
  | succ budget ih =>
      obtain ⟨next, hPass, hNext⟩ := goesOn state start
      rw [run_next hPass]
      exact ih hNext

end Repeat
