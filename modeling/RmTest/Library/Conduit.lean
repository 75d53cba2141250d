import RmTest.Library.Run

/-! A conduit takes items in at one end and gives items out at the other, in order, and
may lose some on the way. Over a whole run, what was taken out and what is still held
are what was brought in exactly if no step has lost anything. -/

structure Conduit (State Event Item : Type) where
  step : State → Event → State
  /-- What an event brings in, and what it takes out. -/
  brings : State → Event → List Item
  takes : State → Event → List Item
  held : State → List Item

namespace Conduit

variable {State Event Item : Type} (conduit : Conduit State Event Item)

/-- A step that loses nothing. -/
def Lossless (state : State) (event : Event) : Prop :=
  conduit.takes state event ++ conduit.held (conduit.step state event) =
    conduit.held state ++ conduit.brings state event

/-- A step adds nothing of its own and keeps the order. -/
def Orderly (state : State) (event : Event) : Prop :=
  (conduit.takes state event ++ conduit.held (conduit.step state event)).Sublist
    (conduit.held state ++ conduit.brings state event)

/-- What a run brings in. -/
def brought : State → List Event → List Item
  | _, [] => []
  | state, event :: rest => conduit.brings state event ++ brought (conduit.step state event) rest

/-- What a run takes out. -/
def taken : State → List Event → List Item
  | _, [] => []
  | state, event :: rest => conduit.takes state event ++ taken (conduit.step state event) rest

variable {conduit} {invariant : State → Prop}

/-- A run between its first step and the rest: both leave out of what they get. -/
theorem sublist_cons {state : State} {event : Event} {rest : List Event}
    (step : conduit.Orderly state event)
    (run : (conduit.taken (conduit.step state event) rest ++
        conduit.held (rest.foldl conduit.step (conduit.step state event))).Sublist
      (conduit.held (conduit.step state event) ++
        conduit.brought (conduit.step state event) rest)) :
    (conduit.taken state (event :: rest) ++
        conduit.held ((event :: rest).foldl conduit.step state)).Sublist
      (conduit.takes state event ++ conduit.held (conduit.step state event) ++
        conduit.brought (conduit.step state event) rest) ∧
    (conduit.takes state event ++ conduit.held (conduit.step state event) ++
        conduit.brought (conduit.step state event) rest).Sublist
      (conduit.held state ++ conduit.brought state (event :: rest)) := by
  constructor
  · rw [taken, List.foldl_cons, List.append_assoc, List.append_assoc]
    exact run.append_left _
  · rw [brought, ← List.append_assoc]
    exact step.append_right _

/-- Nothing is added and nothing overtakes, whatever is lost. -/
theorem taken_append_held_sublist
    (preserved : ∀ state event, invariant state → invariant (conduit.step state event))
    (orderly : ∀ state event, invariant state → conduit.Orderly state event)
    {state : State} (start : invariant state) (events : List Event) :
    (conduit.taken state events ++ conduit.held (events.foldl conduit.step state)).Sublist
      (conduit.held state ++ conduit.brought state events) := by
  induction events generalizing state with
  | nil => simp [taken, brought]
  | cons event rest ih =>
      obtain ⟨hRest, hStep⟩ :=
        sublist_cons (orderly state event start) (ih (preserved state event start))
      exact hRest.trans hStep

/-- A run passes everything on exactly if each of its steps does. -/
theorem taken_append_held_eq_iff
    (preserved : ∀ state event, invariant state → invariant (conduit.step state event))
    (orderly : ∀ state event, invariant state → conduit.Orderly state event)
    {state : State} (start : invariant state) (events : List Event) :
    conduit.taken state events ++ conduit.held (events.foldl conduit.step state) =
        conduit.held state ++ conduit.brought state events ↔
      Run.Along conduit.step conduit.Lossless state events := by
  induction events generalizing state with
  | nil => simp [taken, brought, Run.Along]
  | cons event rest ih =>
      have hNext := preserved state event start
      obtain ⟨hRest, hStep⟩ := sublist_cons (orderly state event start)
        (taken_append_held_sublist preserved orderly hNext rest)
      rw [Run.Along, ← ih hNext]
      constructor
      · intro hAll
        -- what lies between two equal lists in length is equal to both
        have hLess := hRest.length_le
        have hMore := hStep.length_le
        have hEnds := congrArg List.length hAll
        have hFirst := hStep.eq_of_length (by omega)
        have hLater := hRest.eq_of_length (by omega)
        rw [brought, ← List.append_assoc] at hFirst
        rw [taken, List.foldl_cons, List.append_assoc, List.append_assoc] at hLater
        exact ⟨List.append_cancel_right hFirst, List.append_cancel_left hLater⟩
      · rintro ⟨hFirst, hLater⟩
        rw [taken, List.foldl_cons, List.append_assoc, hLater, brought, ← List.append_assoc,
          hFirst, List.append_assoc]

end Conduit
