import Mathlib.Data.List.Induction

/-! Runs of a deterministic machine over a finite list of events, with or
without outputs, and `while` loops cut off by a budget that a decreasing measure
never exhausts. Nothing here depends on what the states, the events or the
outputs are. -/
namespace Run

variable {State Event : Type}

/-- Every event of the list, taken in turn from `state`, meets `guard` in the
state in which it is taken. -/
def Along (step : State → Event → State) (guard : State → Event → Prop) :
    State → List Event → Prop
  | _, [] => True
  | state, event :: rest => guard state event ∧ Along step guard (step state event) rest

instance decidableAlong (step : State → Event → State) (guard : State → Event → Prop)
    [∀ state event, Decidable (guard state event)] (state : State) :
    (events : List Event) → Decidable (Along step guard state events)
  | [] => isTrue trivial
  | event :: rest =>
      have := decidableAlong step guard (step state event) rest
      inferInstanceAs (Decidable (_ ∧ _))

/-- `property` holds in `state` and in every state the events lead through. -/
def Always (step : State → Event → State) (property : State → Prop) :
    State → List Event → Prop
  | state, [] => property state
  | state, event :: rest => property state ∧ Always step property (step state event) rest

/-- Translating the events is translating the step and the guard. -/
theorem along_map {Event' : Type} (step : State → Event → State) (guard : State → Event → Prop)
    (translate : Event' → Event) (state : State) (events : List Event') :
    Along (fun state event => step state (translate event))
        (fun state event => guard state (translate event)) state events ↔
      Along step guard state (events.map translate) := by
  induction events generalizing state with
  | nil => exact Iff.rfl
  | cons event rest ih => exact and_congr Iff.rfl (ih _)

/-- A run in two parts. -/
theorem along_append {step : State → Event → State} {guard : State → Event → Prop} {state : State}
    {before after : List Event} :
    Along step guard state (before ++ after) ↔
      Along step guard state before ∧ Along step guard (before.foldl step state) after := by
  induction before generalizing state with
  | nil => exact ⟨fun h => ⟨trivial, h⟩, fun h => h.2⟩
  | cons event rest ih => exact (and_congr Iff.rfl ih).trans and_assoc.symm

theorem Always.head {step : State → Event → State} {property : State → Prop} {state : State}
    {events : List Event} (always : Always step property state events) : property state := by
  cases events with
  | nil => exact always
  | cons event rest => exact always.1

/-- `Always` speaks of exactly the states reached by the prefixes of the run. -/
theorem always_iff (step : State → Event → State) (property : State → Prop) (state : State)
    (events : List Event) :
    Always step property state events ↔
      ∀ before, before <+: events → property (before.foldl step state) := by
  induction events generalizing state with
  | nil => simp [Always]
  | cons event rest ih =>
      constructor
      · rintro ⟨hHere, hRest⟩ before hBefore
        cases before with
        | nil => exact hHere
        | cons first tail =>
            obtain ⟨rfl, hTail⟩ := List.cons_prefix_cons.mp hBefore
            exact (ih _).mp hRest tail hTail
      · intro h
        refine ⟨h [] (List.nil_prefix), (ih _).mpr ?_⟩
        intro before hBefore
        exact h (event :: before) (List.cons_prefix_cons.mpr ⟨rfl, hBefore⟩)

/-- Exactness of a per-step guard. When, under an invariant that the assumed steps
keep and from a good state, an assumed step meets the guard exactly if it leads
to a good state, then a run of assumed steps is good throughout exactly if all
its steps meet the guard. -/
theorem along_iff_always_of {step : State → Event → State} {assumed guard : State → Event → Prop}
    {invariant property : State → Prop}
    (preserved : ∀ state event, invariant state → assumed state event →
      invariant (step state event))
    (exact_step : ∀ state event, invariant state → assumed state event → property state →
      (guard state event ↔ property (step state event)))
    {state : State} (start : invariant state) (good : property state) {events : List Event}
    (along : Along step assumed state events) :
    Along step guard state events ↔ Always step property state events := by
  induction events generalizing state with
  | nil => exact ⟨fun _ => good, fun _ => trivial⟩
  | cons event rest ih =>
      have hExact := exact_step state event start along.1 good
      have hStart := preserved state event start along.1
      constructor
      · rintro ⟨hGuard, hRest⟩
        exact ⟨good, (ih hStart (hExact.mp hGuard) along.2).mp hRest⟩
      · rintro ⟨_, hRest⟩
        exact ⟨hExact.mpr hRest.head, (ih hStart hRest.head along.2).mpr hRest⟩

theorem along_trivial {step : State → Event → State} (state : State) (events : List Event) :
    Along step (fun _ _ => True) state events := by
  induction events generalizing state with
  | nil => trivial
  | cons event rest ih => exact ⟨trivial, ih _⟩

/-- The same without anything assumed of the steps. -/
theorem along_iff_always {step : State → Event → State} {guard : State → Event → Prop}
    {invariant property : State → Prop}
    (preserved : ∀ state event, invariant state → invariant (step state event))
    (exact_step : ∀ state event, invariant state → property state →
      (guard state event ↔ property (step state event)))
    {state : State} (start : invariant state) (good : property state) (events : List Event) :
    Along step guard state events ↔ Always step property state events :=
  along_iff_always_of (fun state event hInvariant _ => preserved state event hInvariant)
    (fun state event hInvariant _ => exact_step state event hInvariant) start good
    (along_trivial state events)

/-- Exactness of a guard that keeps states good. When from a good state a step meets the
guard exactly if it leads to a state with the property, and then the next state is good
again, a run from a good state has the property throughout exactly if all its steps meet
the guard. -/
theorem along_iff_always_good {step : State → Event → State} {guard : State → Event → Prop}
    {good property : State → Prop} (holds : ∀ state, good state → property state)
    (exact_step : ∀ state event, good state → (guard state event ↔ property (step state event)))
    (stays : ∀ state event, good state → guard state event → good (step state event))
    {state : State} (start : good state) (events : List Event) :
    Along step guard state events ↔ Always step property state events := by
  induction events generalizing state with
  | nil => exact ⟨fun _ => holds state start, fun _ => trivial⟩
  | cons event rest ih =>
      have hExact := exact_step state event start
      constructor
      · rintro ⟨hGuard, hRest⟩
        exact ⟨holds state start, (ih (stays state event start hGuard)).mp hRest⟩
      · rintro ⟨_, hRest⟩
        have hGuard := hExact.mpr hRest.head
        exact ⟨hGuard, (ih (stays state event start hGuard)).mpr hRest⟩

/-- What every step keeps, every run keeps. -/
theorem foldl_invariant {step : State → Event → State} {invariant : State → Prop}
    (preserved : ∀ state event, invariant state → invariant (step state event))
    {state : State} (start : invariant state) (events : List Event) :
    invariant (events.foldl step state) := by
  induction events generalizing state with
  | nil => exact start
  | cons event rest ih => exact ih (preserved state event start)

/-- What every step under the guard keeps, every run under the guard keeps. -/
theorem along_invariant {step : State → Event → State} {guard : State → Event → Prop}
    {invariant : State → Prop}
    (preserved : ∀ state event, invariant state → guard state event → invariant (step state event))
    {state : State} (start : invariant state) {events : List Event}
    (along : Along step guard state events) : invariant (events.foldl step state) := by
  induction events generalizing state with
  | nil => exact start
  | cons event rest ih => exact ih (preserved state event start along.1) along.2

/-- Under an invariant that the guard keeps, what the guard implies of a step holds
along the run. -/
theorem along_of_invariant {step : State → Event → State} {guard target : State → Event → Prop}
    {invariant : State → Prop}
    (preserved : ∀ state event, invariant state → guard state event → invariant (step state event))
    (implied : ∀ state event, invariant state → guard state event → target state event)
    {state : State} (start : invariant state) {events : List Event}
    (along : Along step guard state events) : Along step target state events := by
  induction events generalizing state with
  | nil => trivial
  | cons event rest ih =>
      exact ⟨implied state event start along.1, ih (preserved state event start along.1) along.2⟩

/-- Under the guard, what an invariant implies of a state holds throughout the run. -/
theorem always_of_along {step : State → Event → State} {guard : State → Event → Prop}
    {invariant property : State → Prop}
    (preserved : ∀ state event, invariant state → guard state event → invariant (step state event))
    (holds : ∀ state, invariant state → property state) {state : State} (start : invariant state)
    {events : List Event} (along : Along step guard state events) :
    Always step property state events := by
  induction events generalizing state with
  | nil => exact holds state start
  | cons event rest ih =>
      exact ⟨holds state start, ih (preserved state event start along.1) along.2⟩

/-- A view that only relevant events change, and change in a way that depends on
the view alone, is the view of the run without the others. -/
theorem foldl_filter {Seen : Type} {step : State → Event → State} (view : State → Seen)
    (relevant : Event → Bool)
    (hidden : ∀ state event, relevant event = false → view (step state event) = view state)
    (seen : ∀ state state' event, view state = view state' →
      view (step state event) = view (step state' event))
    {state state' : State} (same : view state = view state') (events : List Event) :
    view (events.foldl step state) = view ((events.filter relevant).foldl step state') := by
  induction events generalizing state state' with
  | nil => exact same
  | cons event rest ih =>
      cases hRelevant : relevant event with
      | false =>
          rw [List.filter_cons_of_neg (by simp [hRelevant])]
          exact ih ((hidden state event hRelevant).trans same)
      | true =>
          rw [List.filter_cons_of_pos hRelevant]
          exact ih (seen state state' event same)

section Restored

variable (step : State → Event → State) (sets resets : State → Event → Prop)

/-- Every event of the run that resets a condition is followed by one that sets it. -/
def Restored (state : State) (events : List Event) : Prop :=
  ∀ first event second, events = first ++ event :: second →
    resets (first.foldl step state) event →
    ∃ middle later last, second = middle ++ later :: last ∧
      sets ((first ++ event :: middle).foldl step state) later

variable {step sets resets}

theorem restored_concat {state : State} {events : List Event} {event : Event}
    (apart : ∀ state event, sets state event → ¬ resets state event) :
    Restored step sets resets state (events ++ [event]) ↔
      sets (events.foldl step state) event ∨
        Restored step sets resets state events ∧ ¬ resets (events.foldl step state) event := by
  constructor
  · intro restored
    by_cases hSets : sets (events.foldl step state) event
    · exact .inl hSets
    refine .inr ⟨?_, ?_⟩
    · intro first reset second hSplit hReset
      obtain ⟨middle, later, last, hLast, hLater⟩ :=
        restored first reset (second ++ [event]) (by simp [hSplit]) hReset
      -- the last event sets nothing, so the one that does comes before it
      rcases List.eq_nil_or_concat last with rfl | ⟨last, final, rfl⟩
      · obtain ⟨rfl, rfl⟩ := List.append_singleton_inj.mp hLast
        rw [← hSplit] at hLater
        exact absurd hLater hSets
      · rw [List.concat_eq_append, ← List.cons_append, ← List.append_assoc] at hLast
        exact ⟨middle, later, last, (List.append_singleton_inj.mp hLast).1, hLater⟩
    · intro hReset
      obtain ⟨middle, later, last, hLast, _⟩ := restored events event [] rfl hReset
      exact List.append_ne_nil_of_right_ne_nil middle (List.cons_ne_nil later last) hLast.symm
  · intro hEnd first reset second hSplit hReset
    rcases List.eq_nil_or_concat second with rfl | ⟨second, final, rfl⟩
    · obtain ⟨rfl, rfl⟩ := List.append_singleton_inj.mp hSplit
      rcases hEnd with hSets | ⟨_, hNot⟩
      · exact absurd hReset (apart _ _ hSets)
      · exact absurd hReset hNot
    · rw [List.concat_eq_append, ← List.cons_append, ← List.append_assoc] at hSplit
      obtain ⟨rfl, rfl⟩ := List.append_singleton_inj.mp hSplit
      rw [List.concat_eq_append]
      rcases hEnd with hSets | ⟨hRestored, _⟩
      · exact ⟨second, event, [], rfl, hSets⟩
      · obtain ⟨middle, later, last, rfl, hLater⟩ := hRestored first reset second rfl hReset
        exact ⟨middle, later, last ++ [event], by simp, hLater⟩

/-- A condition that holds at the start, and that only these events change, holds at
the end exactly if it was set again after it was reset. -/
theorem holds_iff_restored {condition invariant : State → Prop}
    (apart : ∀ state event, sets state event → ¬ resets state event)
    (preserved : ∀ state event, invariant state → invariant (step state event))
    (changes : ∀ state event, invariant state →
      (condition (step state event) ↔ sets state event ∨ condition state ∧ ¬ resets state event))
    {state : State} (start : invariant state) (holds : condition state) (events : List Event) :
    condition (events.foldl step state) ↔ Restored step sets resets state events := by
  induction events using List.reverseRecOn with
  | nil =>
      refine iff_of_true holds fun first event second hSplit => ?_
      exact absurd hSplit.symm (List.append_ne_nil_of_right_ne_nil first (List.cons_ne_nil _ _))
  | append_singleton events event ih =>
      rw [restored_concat apart, ← ih, List.foldl_append]
      exact changes _ event (foldl_invariant preserved start events)

end Restored

section WhileLoop

variable {Out : Type}

/-- A `while` loop. `body` makes one pass and reports what it put out, or is
`none` when the loop ends. The budget counts passes. -/
def whileLoop (body : State → Option (State × List Out)) : Nat → State → State × List Out
  | 0, state => (state, [])
  | budget + 1, state =>
      match body state with
      | none => (state, [])
      | some (next, out) =>
          ((whileLoop body budget next).1, out ++ (whileLoop body budget next).2)

theorem whileLoop_none {body : State → Option (State × List Out)} {state : State}
    (ends : body state = none) (budget : Nat) : whileLoop body budget state = (state, []) := by
  cases budget with
  | zero => rfl
  | succ budget => simp [whileLoop, ends]

theorem whileLoop_some {body : State → Option (State × List Out)} {state next : State}
    {out : List Out} (pass : body state = some (next, out)) (budget : Nat) :
    whileLoop body (budget + 1) state =
      ((whileLoop body budget next).1, out ++ (whileLoop body budget next).2) := by
  simp [whileLoop, pass]

/-- A loop whose passes shrink a measure leaves through its own exit, not for
want of budget. -/
theorem whileLoop_ends {body : State → Option (State × List Out)} (measure : State → Nat)
    (shrinks : ∀ {state next out}, body state = some (next, out) → measure next < measure state)
    (budget : Nat) (state : State) (enough : measure state ≤ budget) :
    body (whileLoop body budget state).1 = none := by
  induction budget generalizing state with
  | zero =>
      cases hBody : body state with
      | none => simpa [whileLoop] using hBody
      | some pass =>
          obtain ⟨next, out⟩ := pass
          have hLess := shrinks hBody
          omega
  | succ budget ih =>
      cases hBody : body state with
      | none => simp [whileLoop, hBody]
      | some pass =>
          obtain ⟨next, out⟩ := pass
          have hLess := shrinks hBody
          rw [whileLoop_some hBody]
          exact ih next (by omega)

/-- Any two sufficient budgets run the loop alike. -/
theorem whileLoop_budget {body : State → Option (State × List Out)} (measure : State → Nat)
    (shrinks : ∀ {state next out}, body state = some (next, out) → measure next < measure state)
    (first second : Nat) (state : State) (hFirst : measure state ≤ first)
    (hSecond : measure state ≤ second) :
    whileLoop body first state = whileLoop body second state := by
  induction first generalizing second state with
  | zero =>
      cases hBody : body state with
      | none => rw [whileLoop_none hBody, whileLoop_none hBody]
      | some pass =>
          obtain ⟨next, out⟩ := pass
          have hLess := shrinks hBody
          omega
  | succ first ih =>
      cases hBody : body state with
      | none => rw [whileLoop_none hBody, whileLoop_none hBody]
      | some pass =>
          obtain ⟨next, out⟩ := pass
          have hLess := shrinks hBody
          cases second with
          | zero => omega
          | succ second =>
              rw [whileLoop_some hBody, whileLoop_some hBody,
                ih second next (by omega) (by omega)]

/-- Two loops whose passes correspond, state by state, correspond as wholes:
the final states are related and the outputs agree after `view` and `view'`. -/
theorem whileLoop_simulates {State' Out' Seen : Type}
    {body : State → Option (State × List Out)} {body' : State' → Option (State' × List Out')}
    (related : State → State' → Prop) (view : Out → Seen) (view' : Out' → Seen)
    (ends : ∀ {state state'}, related state state' → body' state' = none → body state = none)
    (passes : ∀ {state state' next' out'}, related state state' →
      body' state' = some (next', out') →
      ∃ next out, body state = some (next, out) ∧ related next next' ∧
        out.map view = out'.map view')
    (budget : Nat) {state : State} {state' : State'} (start : related state state') :
    related (whileLoop body budget state).1 (whileLoop body' budget state').1 ∧
      (whileLoop body budget state).2.map view =
        (whileLoop body' budget state').2.map view' := by
  induction budget generalizing state state' with
  | zero => exact ⟨start, rfl⟩
  | succ budget ih =>
      cases hBody' : body' state' with
      | none =>
          rw [whileLoop_none hBody', whileLoop_none (ends start hBody')]
          exact ⟨start, rfl⟩
      | some pass =>
          obtain ⟨next', out'⟩ := pass
          obtain ⟨next, out, hBody, hNext, hOut⟩ := passes start hBody'
          obtain ⟨hFinal, hRest⟩ := ih hNext
          rw [whileLoop_some hBody, whileLoop_some hBody']
          exact ⟨hFinal, by simp only [List.map_append, hOut, hRest]⟩

/-- A loop that puts out several things for each thing that another puts out. -/
theorem whileLoop_flatMap {Out' : Type} {body : State → Option (State × List Out)}
    {body' : State → Option (State × List Out')} (f : Out → List Out')
    (passes : ∀ state, body' state = (body state).map fun pass => (pass.1, pass.2.flatMap f))
    (budget : Nat) (state : State) :
    (whileLoop body' budget state).2 = (whileLoop body budget state).2.flatMap f := by
  induction budget generalizing state with
  | zero => rfl
  | succ budget ih =>
      have hPass := passes state
      cases hBody : body state with
      | none =>
          rw [hBody] at hPass
          rw [whileLoop_none hBody, whileLoop_none hPass]
          rfl
      | some pass =>
          rw [hBody] at hPass
          rw [whileLoop_some hBody, whileLoop_some hPass, List.flatMap_append, ih]

/-- A view of the state that every pass moves on by what the pass puts out is
moved on by the loop as a whole. -/
theorem whileLoop_foldl {Seen : Type} {body : State → Option (State × List Out)}
    (view : State → Seen) (absorb : Seen → Out → Seen)
    (passes : ∀ {state next out}, body state = some (next, out) →
      view next = out.foldl absorb (view state))
    (budget : Nat) (state : State) :
    view (whileLoop body budget state).1 =
      (whileLoop body budget state).2.foldl absorb (view state) := by
  induction budget generalizing state with
  | zero => rfl
  | succ budget ih =>
      cases hBody : body state with
      | none => rw [whileLoop_none hBody]; rfl
      | some pass =>
          obtain ⟨next, out⟩ := pass
          rw [whileLoop_some hBody, List.foldl_append, ← passes hBody]
          exact ih next

end WhileLoop

section Transducer

variable {Out : Type}

/-- A machine that puts something out for every event: the final state and
everything put out, in order. -/
def transduce (step : State → Event → State × List Out) :
    State → List Event → State × List Out
  | state, [] => (state, [])
  | state, event :: rest =>
      ((transduce step (step state event).1 rest).1,
        (step state event).2 ++ (transduce step (step state event).1 rest).2)

theorem transduce_append (step : State → Event → State × List Out) (state : State)
    (first later : List Event) :
    transduce step state (first ++ later) =
      ((transduce step (transduce step state first).1 later).1,
        (transduce step state first).2 ++
        (transduce step (transduce step state first).1 later).2) := by
  induction first generalizing state with
  | nil => rfl
  | cons event rest ih => simp only [List.cons_append, transduce, ih, List.append_assoc]

/-- Events that come in batches are taken one after the other. -/
theorem transduce_batches (step : State → Event → State × List Out) (state : State)
    (batches : List (List Event)) :
    transduce (transduce step) state batches = transduce step state batches.flatten := by
  induction batches generalizing state with
  | nil => rfl
  | cons batch rest ih => rw [List.flatten_cons, transduce_append, ← ih]; rfl

/-- Translating the events is translating the step. -/
theorem transduce_map {Event' : Type} (step : State → Event → State × List Out)
    (translate : Event' → Event) (state : State) (events : List Event') :
    transduce (fun state event => step state (translate event)) state events =
      transduce step state (events.map translate) := by
  induction events generalizing state with
  | nil => rfl
  | cons event rest ih => simp only [List.map_cons, transduce, ih]

theorem transduce_foldl {Seen : Type} {step : State → Event → State × List Out}
    (view : State → Seen) (absorb : Seen → Out → Seen)
    (steps : ∀ state event, view (step state event).1 =
      (step state event).2.foldl absorb (view state))
    (state : State) (events : List Event) :
    view (transduce step state events).1 =
      (transduce step state events).2.foldl absorb (view state) := by
  induction events generalizing state with
  | nil => rfl
  | cons event rest ih => rw [transduce, List.foldl_append, ← steps]; exact ih _

/-- What holds of everything a single step puts out holds of everything put out. -/
theorem transduce_forall {step : State → Event → State × List Out} {property : Out → Prop}
    (steps : ∀ state event, ∀ out ∈ (step state event).2, property out)
    (state : State) (events : List Event) :
    ∀ out ∈ (transduce step state events).2, property out := by
  induction events generalizing state with
  | nil => simp [transduce]
  | cons event rest ih =>
      intro out hOut
      rcases List.mem_append.mp hOut with hFirst | hLater
      · exact steps state event out hFirst
      · exact ih _ out hLater

/-- Two machines whose steps correspond on the same events run alike. -/
theorem transduce_simulates {State' Out' Seen : Type}
    {step : State → Event → State × List Out} {step' : State' → Event → State' × List Out'}
    (related : State → State' → Prop) (view : Out → Seen) (view' : Out' → Seen)
    (steps : ∀ {state state'} event, related state state' →
      related (step state event).1 (step' state' event).1 ∧
        (step state event).2.map view = (step' state' event).2.map view')
    {state : State} {state' : State'} (events : List Event) (start : related state state') :
    related (transduce step state events).1 (transduce step' state' events).1 ∧
      (transduce step state events).2.map view = (transduce step' state' events).2.map view' := by
  induction events generalizing state state' with
  | nil => exact ⟨start, rfl⟩
  | cons event rest ih =>
      obtain ⟨hNext, hOut⟩ := steps event start
      obtain ⟨hFinal, hRest⟩ := ih hNext
      exact ⟨hFinal, by simp only [transduce, List.map_append, hOut, hRest]⟩

end Transducer

section Checked

variable {Out State' : Type}

/-- A pass that may fail, for a state, or for none after a failure. -/
def tryPass (body : State → Option (Option (State × List Out))) :
    Option State → Option (Option State × List Out)
  | none => none
  | some state =>
      match body state with
      | none => some (none, [])
      | some none => none
      | some (some (next, out)) => some (some next, out)

/-- A loop whose passes may fail: it has a result unless one of them failed. -/
def tryLoop (body : State → Option (Option (State × List Out))) (budget : Nat) (state : State) :
    Option (State × List Out) :=
  let ran := whileLoop (tryPass body) budget (some state)
  ran.1.map fun final => (final, ran.2)

/-- Where no pass fails, the loop does what the loop of unfailing passes does. -/
theorem tryLoop_view {body : State → Option (Option (State × List Out))}
    {body' : State' → Option (State' × List Out)} (view : State' → State)
    (passes : ∀ state, body (view state) =
      some ((body' state).map fun pass => (view pass.1, pass.2)))
    (budget : Nat) (state : State') :
    tryLoop body budget (view state) =
      some (view (whileLoop body' budget state).1, (whileLoop body' budget state).2) := by
  have hEnds : ∀ {tried : Option State} {state : State'}, tried = some (view state) →
      body' state = none → tryPass body tried = none := by
    rintro _ state rfl hBody
    rw [tryPass, passes, hBody, Option.map_none]
  have hPasses : ∀ {tried : Option State} {state next : State'} {out : List Out},
      tried = some (view state) → body' state = some (next, out) →
      ∃ tried' out', tryPass body tried = some (tried', out') ∧ tried' = some (view next) ∧
        out'.map id = out.map id := by
    rintro _ state next out rfl hBody
    refine ⟨some (view next), out, ?_, rfl, rfl⟩
    rw [tryPass, passes, hBody, Option.map_some]
  obtain ⟨hState, hOut⟩ := whileLoop_simulates (fun tried state => tried = some (view state))
    id id hEnds hPasses budget (rfl : some (view state) = some (view state))
  rw [List.map_id, List.map_id] at hOut
  rw [tryLoop, hState, hOut, Option.map_some]

/-- A machine whose steps may fail: it has a result unless one of them failed. -/
def tryTransduce (step : State → Event → Option (State × List Out)) :
    State → List Event → Option (State × List Out)
  | state, [] => some (state, [])
  | state, event :: rest =>
      (step state event).bind fun first =>
        (tryTransduce step first.1 rest).map fun later => (later.1, first.2 ++ later.2)

/-- Where an invariant keeps every step from failing, the machine does what the machine
of unfailing steps does. -/
theorem tryTransduce_view {step : State → Event → Option (State × List Out)}
    {step' : State' → Event → State' × List Out} {invariant : State' → Prop}
    (view : State' → State)
    (steps : ∀ state event, invariant state →
      step (view state) event = some (view (step' state event).1, (step' state event).2) ∧
        invariant (step' state event).1)
    {state : State'} (events : List Event) (start : invariant state) :
    tryTransduce step (view state) events =
        some (view (transduce step' state events).1, (transduce step' state events).2) ∧
      invariant (transduce step' state events).1 := by
  induction events generalizing state with
  | nil => exact ⟨rfl, start⟩
  | cons event rest ih =>
      obtain ⟨hStep, hNext⟩ := steps state event start
      obtain ⟨hRest, hFinal⟩ := ih hNext
      refine ⟨?_, hFinal⟩
      rw [tryTransduce, hStep, Option.bind_some, hRest, Option.map_some]
      rfl

end Checked

section Trace

variable {Out : Type} (step : State → Event → State) (observe : State → Event → Out)

/-- One observation for every event, made before it is taken. -/
def trace : State → List Event → List Out
  | _, [] => []
  | state, event :: rest => observe state event :: trace (step state event) rest

variable {step observe}

/-- Translating the events is translating the step and the observation. -/
theorem trace_map {Event' : Type} (translate : Event' → Event) (state : State)
    (events : List Event') :
    trace step observe state (events.map translate) =
      trace (fun state event => step state (translate event))
        (fun state event => observe state (translate event)) state events := by
  induction events generalizing state with
  | nil => rfl
  | cons event rest ih => rw [List.map_cons, trace, trace, ih]

/-- Where a trace is split, the run is. -/
theorem trace_eq_append {state : State} {events : List Event} {before after : List Out}
    (split : trace step observe state events = before ++ after) :
    ∃ first later, events = first ++ later ∧ before = trace step observe state first ∧
      after = trace step observe (first.foldl step state) later := by
  induction before generalizing state events with
  | nil => exact ⟨[], events, rfl, rfl, split.symm⟩
  | cons out before ih =>
      cases events with
      | nil => cases split
      | cons event rest =>
          obtain ⟨rfl, hRest⟩ := List.cons.inj split
          obtain ⟨first, later, rfl, hBefore, hAfter⟩ := ih hRest
          exact ⟨event :: first, later, rfl, congrArg (observe state event :: ·) hBefore, hAfter⟩

theorem trace_eq_cons {state : State} {events : List Event} {out : Out} {after : List Out}
    (split : trace step observe state events = out :: after) :
    ∃ event rest, events = event :: rest ∧ out = observe state event ∧
      after = trace step observe (step state event) rest := by
  cases events with
  | nil => cases split
  | cons event rest =>
      obtain ⟨hOut, hAfter⟩ := List.cons.inj split
      exact ⟨event, rest, rfl, hOut.symm, hAfter.symm⟩

/-- What every step keeps of a state and of what was observed before it. -/
theorem trace_invariant {invariant : State → List Out → Prop}
    (preserved : ∀ state seen event, invariant state seen →
      invariant (step state event) (seen ++ [observe state event]))
    {state : State} {seen : List Out} (start : invariant state seen) (events : List Event) :
    invariant (events.foldl step state) (seen ++ trace step observe state events) := by
  induction events generalizing state seen with
  | nil => rwa [trace, List.append_nil]
  | cons event rest ih =>
      have hNext := ih (preserved state seen event start)
      rwa [List.append_assoc] at hNext

/-- Two machines whose steps correspond on translated events are observed alike, as
the view of one observation in the other. -/
theorem trace_simulates {State' Event' Out' : Type} {step' : State' → Event' → State'}
    {observe' : State' → Event' → Out'} (related : State → State' → Prop)
    (translate : Event → Event') (view : Out → Out')
    (steps : ∀ state state' event, related state state' →
      related (step state event) (step' state' (translate event)) ∧
        observe' state' (translate event) = view (observe state event))
    {state : State} {state' : State'} (start : related state state') (events : List Event) :
    trace step' observe' state' (events.map translate) =
      (trace step observe state events).map view := by
  induction events generalizing state state' with
  | nil => rfl
  | cons event rest ih =>
      obtain ⟨hNext, hOut⟩ := steps state state' event start
      rw [List.map_cons, trace, trace, List.map_cons, hOut, ih hNext]

/-- Two machines that stay related on assumed events are observed alike exactly if every
event meets the guard under which a single observation is the same. -/
theorem trace_eq_iff_along {State' : Type} {step' : State' → Event → State'}
    {observe' : State' → Event → Out} {assumed guard : State → Event → Prop}
    (related : State → State' → Prop)
    (steps : ∀ state state' event, related state state' → assumed state event →
      related (step state event) (step' state' event) ∧
        (observe' state' event = observe state event ↔ guard state event))
    {state : State} {state' : State'} (start : related state state') {events : List Event}
    (along : Along step assumed state events) :
    trace step' observe' state' events = trace step observe state events ↔
      Along step guard state events := by
  induction events generalizing state state' with
  | nil => exact iff_of_true rfl trivial
  | cons event rest ih =>
      obtain ⟨hNext, hOut⟩ := steps state state' event start along.1
      rw [trace, trace, List.cons_eq_cons, hOut, ih hNext along.2]
      exact Iff.rfl

end Trace

end Run
