import RmTest.Library.Run
import RmTest.Modules.Chassis
import RmTest.Services.ChassisTuning

/-! Threads that use the chassis tuning service. An operation on the active provider
takes two steps of its thread, the selection under the mutex and the call after it,
and the steps of other threads come between them. -/
namespace RmTest.Services

open Channels

variable {Thread Provider Object F : Type}

namespace ChassisTuning

variable [DecidableEq Provider]

/-- A call that registers a provider, with success. -/
def Registers (t : ChassisTuning Provider) (call : TuningCall Provider) (provider : Provider) :
    Prop :=
  (call = .registerDefault (some provider) ∨
      ∃ name priority, call = .register (some provider) name priority) ∧
    (t.call call).2 = .ok ()

/-- A call that unregisters a provider, with success. -/
def Unregisters (t : ChassisTuning Provider) (call : TuningCall Provider) (provider : Provider) :
    Prop :=
  call = .unregister (some provider) ∧ (t.call call).2 = .ok ()

theorem registered_registerProvider (t : ChassisTuning Provider) (new : Provider) (name : String)
    (priority : Int) (provider : Provider) :
    (t.registerProvider (some new) (some name) priority).1.Registered provider ↔
      provider = new ∧ (t.registerProvider (some new) (some name) priority).2 = .ok () ∨
        t.Registered provider := by
  rcases t.providers_registerProvider new name priority with
    ⟨hOk, hKnown, hPerm⟩ | ⟨hOk, _, hPerm⟩ | hFull
  · have hSame : (t.registerProvider (some new) (some name) priority).1.Registered provider ↔
        t.Registered provider := hPerm.mem_iff
    rw [hSame]
    exact ⟨.inr, fun h => h.elim (fun ⟨hNew, _⟩ => hNew ▸ hKnown) id⟩
  · have hNew : (t.registerProvider (some new) (some name) priority).1.Registered provider ↔
        some provider ∈ some new :: t.providers := hPerm.mem_iff
    rw [hNew, List.mem_cons, Option.some.injEq, and_iff_left hOk]
    exact Iff.rfl
  · rw [hFull]
    exact ⟨.inr, fun h => h.elim (fun ⟨_, hOk⟩ => by cases hOk) id⟩

theorem registered_unregisterProvider {t : ChassisTuning Provider} (distinct : t.providers.Nodup)
    (gone provider : Provider) :
    (t.unregisterProvider (some gone)).1.Registered provider ↔
      t.Registered provider ∧
      ¬ (provider = gone ∧ (t.unregisterProvider (some gone)).2 = .ok ()) := by
  rcases t.providers_unregisterProvider gone with ⟨hOk, hPerm⟩ | ⟨hUnknown, hAbsent⟩
  · have hBefore : t.Registered provider ↔
        some provider ∈ some gone :: (t.unregisterProvider (some gone)).1.providers := hPerm.mem_iff
    have hAbsent := (List.nodup_cons.mp (hPerm.nodup_iff.mp distinct)).1
    rw [hBefore, List.mem_cons, Option.some.injEq, and_iff_left hOk]
    constructor
    · intro hLeft
      exact ⟨.inr hLeft, fun hGone => hAbsent (hGone ▸ hLeft)⟩
    · rintro ⟨hGone | hLeft, hOther⟩
      · exact absurd hGone hOther
      · exact hLeft
  · rw [hUnknown]
    refine ⟨fun h => ⟨h, ?_⟩, fun h => h.1⟩
    rintro ⟨_, hOk⟩
    cases hOk

/-- Only the calls that succeed for a provider change whether it is registered. -/
theorem registered_call {t : ChassisTuning Provider} (distinct : t.providers.Nodup)
    (call : TuningCall Provider) (provider : Provider) :
    (t.call call).1.Registered provider ↔
      t.Registers call provider ∨ t.Registered provider ∧ ¬ t.Unregisters call provider := by
  rcases call with ⟨_ | new⟩ | ⟨_ | new, _ | name, priority⟩ | ⟨_ | gone⟩
  case registerDefault.some =>
    refine (t.registered_registerProvider new "provider" 0 provider).trans ?_
    simp [Registers, Unregisters, ChassisTuning.call, registerProviderDefault, eq_comm]
  case register.some.some =>
    refine (t.registered_registerProvider new name priority provider).trans ?_
    simp [Registers, Unregisters, ChassisTuning.call, eq_comm]
  case unregister.some =>
    refine (registered_unregisterProvider distinct gone provider).trans ?_
    simp [Registers, Unregisters, ChassisTuning.call, eq_comm]
  all_goals
    simp [Registers, Unregisters, ChassisTuning.call, registerProviderDefault, registerProvider,
      unregisterProvider]

theorem nodup_registerProvider {t : ChassisTuning Provider} (distinct : t.providers.Nodup)
    (new : Provider) (name : String) (priority : Int) :
    (t.registerProvider (some new) (some name) priority).1.providers.Nodup := by
  rcases t.providers_registerProvider new name priority with
    ⟨_, _, hPerm⟩ | ⟨_, hAbsent, hPerm⟩ | hFull
  · exact hPerm.nodup_iff.mpr distinct
  · exact hPerm.nodup_iff.mpr (List.nodup_cons.mpr ⟨hAbsent, distinct⟩)
  · rwa [hFull]

/-- No call makes a provider occupy two slots. -/
theorem nodup_call {t : ChassisTuning Provider} (distinct : t.providers.Nodup)
    (call : TuningCall Provider) : (t.call call).1.providers.Nodup := by
  rcases call with ⟨_ | new⟩ | ⟨_ | new, _ | name, priority⟩ | ⟨_ | gone⟩
  case registerDefault.some => exact nodup_registerProvider distinct new "provider" 0
  case register.some.some => exact nodup_registerProvider distinct new name priority
  case unregister.some =>
    rcases t.providers_unregisterProvider gone with ⟨_, hPerm⟩ | ⟨hUnknown, _⟩
    · exact (List.nodup_cons.mp (hPerm.nodup_iff.mp distinct)).2
    · simpa only [ChassisTuning.call, hUnknown] using distinct
  all_goals exact distinct

end ChassisTuning

/-- A call of the service that goes to a provider. -/
inductive ProviderCall (F : Type) where
  | setSpeedPidTuning (tuning : SpeedPidTuning F)
  | getSpeedPidTuning
  | resetSpeedPidIntegrator

/-- What the call does to the provider. -/
def ProviderCall.deliver [SpeedPidTuningProvider Object F] (object : Object) :
    ProviderCall F → Object
  | .setSpeedPidTuning tuning => (SpeedPidTuningProvider.setSpeedPidTuning object tuning).1
  | .getSpeedPidTuning => object
  | .resetSpeedPidIntegrator => (SpeedPidTuningProvider.resetSpeedPidIntegrator object).1

/-- What the function of the service does to the providers. -/
def ProviderCall.perform [DecidableEq Provider] [SpeedPidTuningProvider Object F]
    (service : ChassisTuning Provider) (objects : Provider → Object) :
    ProviderCall F → Provider → Object
  | .setSpeedPidTuning tuning => (service.setSpeedPidTuning objects tuning).1
  | .getSpeedPidTuning => objects
  | .resetSpeedPidIntegrator => (service.resetSpeedPidIntegrator objects).1

structure TuningSystem (Thread Provider Object F : Type) where
  service : ChassisTuning Provider
  objects : Provider → Object
  /-- The threads that hold a selected provider and have not called it yet. -/
  pending : Thread → Option (Provider × ProviderCall F)

/-- One step of a thread: a call that changes the table, the selection of a
provider, or the call of the provider selected. -/
inductive TuningEvent (Thread Provider F : Type) where
  | registry (thread : Thread) (call : TuningCall Provider)
  | select (thread : Thread) (operation : ProviderCall F)
  | deliver (thread : Thread)

namespace TuningSystem

/-- Before any call. -/
def start (objects : Provider → Object) : TuningSystem Thread Provider Object F where
  service := .initial
  objects := objects
  pending := fun _ => none

/-- The call that an event delivers to a provider. -/
def delivery (s : TuningSystem Thread Provider Object F) :
    TuningEvent Thread Provider F → Option (Provider × ProviderCall F)
  | .deliver thread => s.pending thread
  | _ => none

section Steps

variable [DecidableEq Thread] [DecidableEq Provider] [SpeedPidTuningProvider Object F]

/-- A step out of turn, of a thread that has a call to deliver or none, is none. -/
def step (s : TuningSystem Thread Provider Object F) :
    TuningEvent Thread Provider F → TuningSystem Thread Provider Object F
  | .registry thread call =>
      match s.pending thread with
      | none => { s with service := (s.service.call call).1 }
      | some _ => s
  | .select thread operation =>
      match s.pending thread with
      | none =>
          { s with
            pending := Function.update s.pending thread
              (s.service.selectProvider.map fun provider => (provider, operation)) }
      | some _ => s
  | .deliver thread =>
      match s.pending thread with
      | none => s
      | some (provider, operation) =>
          { s with
            objects := Function.update s.objects provider (operation.deliver (s.objects provider))
            pending := Function.update s.pending thread none }

/-- The state after a run. -/
def run (objects : Provider → Object) (events : List (TuningEvent Thread Provider F)) :
    TuningSystem Thread Provider Object F :=
  events.foldl step (start objects)

/-- A step in which a thread makes a call with the given property. -/
def Performs (property : ChassisTuning Provider → TuningCall Provider → Prop)
    (s : TuningSystem Thread Provider Object F) (event : TuningEvent Thread Provider F) : Prop :=
  ∃ thread call, event = .registry thread call ∧ s.pending thread = none ∧ property s.service call

/-- A step in which a provider is registered. -/
def Registers (provider : Provider) (s : TuningSystem Thread Provider Object F)
    (event : TuningEvent Thread Provider F) : Prop :=
  s.Performs (fun t call => t.Registers call provider) event

/-- A step in which a provider is unregistered. -/
def Unregisters (provider : Provider) (s : TuningSystem Thread Provider Object F)
    (event : TuningEvent Thread Provider F) : Prop :=
  s.Performs (fun t call => t.Unregisters call provider) event

omit [DecidableEq Thread] [DecidableEq Provider] [SpeedPidTuningProvider Object F] in
theorem performs_registry_iff {property : ChassisTuning Provider → TuningCall Provider → Prop}
    {s : TuningSystem Thread Provider Object F} {thread : Thread}
    (idle : s.pending thread = none) (call : TuningCall Provider) :
    s.Performs property (.registry thread call) ↔ property s.service call := by
  constructor
  · rintro ⟨_, _, hEvent, _, hProperty⟩
    obtain ⟨rfl, rfl⟩ := TuningEvent.registry.inj hEvent
    exact hProperty
  · exact fun hProperty => ⟨thread, call, rfl, idle, hProperty⟩

omit [DecidableEq Thread] [SpeedPidTuningProvider Object F] in
theorem Registers.not_unregisters {provider : Provider}
    {s : TuningSystem Thread Provider Object F} {event : TuningEvent Thread Provider F}
    (registers : Registers provider s event) : ¬ Unregisters provider s event := by
  rintro ⟨thread, call, rfl, hIdle, rfl, _⟩
  obtain ⟨hCall, _⟩ := (performs_registry_iff hIdle _).mp registers
  rcases hCall with h | ⟨_, _, h⟩ <;> cases h

/-- What a step does to the table: it makes the call of its thread, if any. -/
theorem service_step (s : TuningSystem Thread Provider Object F)
    (event : TuningEvent Thread Provider F) :
    (∃ thread call, event = .registry thread call ∧ s.pending thread = none ∧
        (s.step event).service = (s.service.call call).1) ∨
      (∀ property, ¬ s.Performs property event) ∧ (s.step event).service = s.service := by
  cases event with
  | registry thread call =>
      cases hPending : s.pending thread with
      | none => exact .inl ⟨thread, call, rfl, hPending, by simp only [step, hPending]⟩
      | some waiting =>
          refine .inr ⟨?_, by simp only [step, hPending]⟩
          rintro property ⟨_, _, hEvent, hIdle, _⟩
          obtain ⟨rfl, rfl⟩ := TuningEvent.registry.inj hEvent
          cases hPending.symm.trans hIdle
  | select thread operation =>
      refine .inr ⟨?_, ?_⟩
      · rintro property ⟨_, _, hEvent, _⟩
        cases hEvent
      · simp only [step]
        split <;> rfl
  | deliver thread =>
      refine .inr ⟨?_, ?_⟩
      · rintro property ⟨_, _, hEvent, _⟩
        cases hEvent
      · simp only [step]
        split <;> rfl

omit [DecidableEq Thread] [DecidableEq Provider] [SpeedPidTuningProvider Object F] in
theorem nodup_start (objects : Provider → Object) :
    (start objects : TuningSystem Thread Provider Object F).service.providers.Nodup :=
  List.nodup_nil

theorem nodup_step (s : TuningSystem Thread Provider Object F)
    (event : TuningEvent Thread Provider F) (distinct : s.service.providers.Nodup) :
    (s.step event).service.providers.Nodup := by
  rcases s.service_step event with ⟨_, call, _, _, hService⟩ | ⟨_, hService⟩
  · rw [hService]
    exact ChassisTuning.nodup_call distinct call
  · rwa [hService]

theorem registered_step (s : TuningSystem Thread Provider Object F)
    (event : TuningEvent Thread Provider F) (distinct : s.service.providers.Nodup)
    (provider : Provider) :
    (s.step event).service.Registered provider ↔
      Registers provider s event ∨
        s.service.Registered provider ∧ ¬ Unregisters provider s event := by
  rcases s.service_step event with ⟨thread, call, rfl, hIdle, hService⟩ | ⟨hNone, hService⟩
  · rw [hService, Registers, Unregisters, performs_registry_iff hIdle, performs_registry_iff hIdle]
    exact ChassisTuning.registered_call distinct call provider
  · rw [hService]
    exact ⟨fun h => .inr ⟨h, hNone _⟩, fun h => h.elim (absurd · (hNone _)) (·.1)⟩

/-- A call that waits after a step has waited before it, or the step selects its
provider. -/
theorem pending_step (s : TuningSystem Thread Provider Object F)
    (event : TuningEvent Thread Provider F) {thread : Thread} {provider : Provider}
    {operation : ProviderCall F}
    (waiting : (s.step event).pending thread = some (provider, operation)) :
    s.pending thread = some (provider, operation) ∧ event ≠ .deliver thread ∨
      event = .select thread operation ∧ s.pending thread = none ∧
        s.service.selectProvider = some provider := by
  cases event with
  | registry other call =>
      refine .inl ⟨?_, by simp⟩
      cases hOther : s.pending other <;> simpa only [step, hOther] using waiting
  | select other operation' =>
      cases hOther : s.pending other with
      | some busy => exact .inl ⟨by simpa only [step, hOther] using waiting, by simp⟩
      | none =>
          simp only [step, hOther] at waiting
          by_cases hThread : thread = other
          · subst hThread
            rw [Function.update_self] at waiting
            obtain ⟨selected, hSelected, hPair⟩ := Option.map_eq_some_iff.mp waiting
            obtain ⟨rfl, rfl⟩ := Prod.mk.inj hPair
            exact .inr ⟨rfl, hOther, hSelected⟩
          · rw [Function.update_of_ne hThread] at waiting
            exact .inl ⟨waiting, by simp⟩
  | deliver other =>
      by_cases hThread : thread = other
      · subst hThread
        cases hOther : s.pending thread <;> simp [step, hOther] at waiting
      · refine .inl ⟨?_, fun hEvent => hThread (TuningEvent.deliver.inj hEvent).symm⟩
        cases hOther : s.pending other with
        | none => simpa only [step, hOther] using waiting
        | some busy =>
            simp only [step, hOther] at waiting
            rwa [Function.update_of_ne hThread] at waiting

/-- A call waiting for its delivery was selected earlier, and not delivered since. -/
theorem selected_of_pending (objects : Provider → Object)
    (events : List (TuningEvent Thread Provider F)) {thread : Thread} {provider : Provider}
    {operation : ProviderCall F}
    (waiting : (run objects events).pending thread = some (provider, operation)) :
    ∃ before between, events = before ++ .select thread operation :: between ∧
      (∀ event ∈ between, event ≠ .deliver thread) ∧
      (run objects before).pending thread = none ∧
      (run objects before).service.selectProvider = some provider := by
  induction events using List.reverseRecOn with
  | nil => cases waiting
  | append_singleton events event ih =>
      rw [run, List.foldl_concat] at waiting
      rcases pending_step _ event waiting with ⟨hEarlier, hEvent⟩ | ⟨rfl, hSelected⟩
      · obtain ⟨before, between, rfl, hBetween, hSelected⟩ := ih hEarlier
        refine ⟨before, between ++ [event], by simp, fun other hOther => ?_, hSelected⟩
        rcases List.mem_append.mp hOther with hEarlier | hLast
        · exact hBetween other hEarlier
        · rwa [List.mem_singleton.mp hLast]
      · exact ⟨events, [], rfl, fun _ h => absurd h List.not_mem_nil, hSelected⟩

/-- A delivery right after the selection is the function of the service. -/
theorem deliver_select {s : TuningSystem Thread Provider Object F} {thread : Thread}
    {provider : Provider} (idle : s.pending thread = none)
    (selected : s.service.selectProvider = some provider) (operation : ProviderCall F) :
    ((s.step (.select thread operation)).step (.deliver thread)).objects =
      operation.perform s.service s.objects := by
  have hDelivered : ((s.step (.select thread operation)).step (.deliver thread)).objects =
      Function.update s.objects provider (operation.deliver (s.objects provider)) := by
    simp [step, idle, selected]
  rw [hDelivered]
  cases operation with
  | setSpeedPidTuning tuning =>
      rw [ProviderCall.perform, ChassisTuning.setSpeedPidTuning, selected]
      rfl
  | getSpeedPidTuning => exact Function.update_eq_self provider s.objects
  | resetSpeedPidIntegrator =>
      rw [ProviderCall.perform, ChassisTuning.resetSpeedPidIntegrator, selected]
      rfl

/-- A registered provider stays registered as long as unregistrations are made up for. -/
theorem registered_run {s : TuningSystem Thread Provider Object F} {provider : Provider}
    (distinct : s.service.providers.Nodup) (registered : s.service.Registered provider)
    (events : List (TuningEvent Thread Provider F)) :
    (events.foldl step s).service.Registered provider ↔
      Run.Restored step (Registers provider) (Unregisters provider) s events :=
  @Run.holds_iff_restored _ _ _ _ _ (fun s => s.service.Registered provider)
    (fun s => s.service.providers.Nodup) (fun _ _ => Registers.not_unregisters) nodup_step
    (fun s event distinct => s.registered_step event distinct provider) s distinct registered events

/-- A call is delivered to the provider that was active when its operation held the
mutex, and this provider is still registered exactly if, since then, it was
registered again whenever it was unregistered. A delivery with nothing in between does what
the function of the service does. -/
theorem delivered_registered_iff (objects : Provider → Object)
    (events : List (TuningEvent Thread Provider F)) (event : TuningEvent Thread Provider F)
    {provider : Provider} {operation : ProviderCall F}
    (delivers : (run objects events).delivery event = some (provider, operation)) :
    ∃ thread before between, event = .deliver thread ∧
      events = before ++ .select thread operation :: between ∧
      (∀ other ∈ between, other ≠ .deliver thread) ∧
      (run objects before).service.selectProvider = some provider ∧
      (run objects before).service.Registered provider ∧
      ((run objects events).service.Registered provider ↔
        Run.Restored step (Registers provider) (Unregisters provider) (run objects before)
          (.select thread operation :: between)) ∧
      (between = [] → ((run objects events).step event).objects =
        operation.perform (run objects before).service (run objects before).objects) := by
  cases event with
  | registry thread call => cases delivers
  | select thread operation => cases delivers
  | deliver thread =>
      obtain ⟨before, between, rfl, hBetween, hIdle, hSelected⟩ :=
        selected_of_pending objects events delivers
      have hRegistered := ChassisTuning.registered_of_selectProvider hSelected
      refine ⟨thread, before, between, rfl, rfl, hBetween, hSelected, hRegistered, ?_, ?_⟩
      · rw [run, List.foldl_append]
        exact registered_run (Run.foldl_invariant nodup_step (nodup_start objects) before)
          hRegistered _
      · rintro rfl
        rw [run, List.foldl_concat]
        exact deliver_select hIdle hSelected operation

end Steps

/-- One thread selects the chassis module for a reset of its controllers; before it
calls the module, another one unregisters it. -/
def overtaken : List (TuningEvent Bool Unit ℚ) :=
  [.registry false (.register (some ()) (some "chassis_module") 100),
    .select true .resetSpeedPidIntegrator, .registry false (.unregister (some ()))]

/-- The reset is delivered to a module that is not registered. -/
theorem delivered_unregistered :
    (run (fun _ => Modules.ChassisModule.zeroed ℚ) overtaken).delivery (.deliver true) =
        some ((), .resetSpeedPidIntegrator) ∧
      ¬ (run (fun _ => Modules.ChassisModule.zeroed ℚ) overtaken).service.Registered () :=
  ⟨rfl, List.not_mem_nil⟩

/-- Without the unregistration it is. -/
theorem delivered_registered_iff_undisturbed :
    (run (fun _ => Modules.ChassisModule.zeroed ℚ) (overtaken.take 2)).delivery (.deliver true) =
        some ((), .resetSpeedPidIntegrator) ∧
      (run (fun _ => Modules.ChassisModule.zeroed ℚ)
        (overtaken.take 2)).service.Registered () := by
  have hDelivery : (run (fun _ => Modules.ChassisModule.zeroed ℚ) (overtaken.take 2)).delivery
      (.deliver true) = some ((), .resetSpeedPidIntegrator) := rfl
  refine ⟨hDelivery, ?_⟩
  obtain ⟨thread, before, between, _, hSplit, _, _, _, hIff, _⟩ :=
    delivered_registered_iff (fun _ => Modules.ChassisModule.zeroed ℚ) (overtaken.take 2)
      (.deliver true) hDelivery
  refine hIff.mpr fun first event second hEvents hUnregisters => ?_
  -- neither of the two events is an unregistration
  obtain ⟨other, call, rfl, _, rfl, _⟩ := hUnregisters
  have hMem : .registry other (.unregister (some ())) ∈ overtaken.take 2 := by
    rw [hSplit, hEvents]
    simp
  simp [overtaken] at hMem

end TuningSystem

end RmTest.Services
