import RmTest.Bootstrap.ModuleManager
import RmTest.Library.Run

/-! How often the threads of the modules are created when `Initialize` and `Start` of
the module manager are called again. -/
namespace RmTest.Bootstrap

open Channels Modules Services

/-- The six modules behind `SysStateModule`. -/
def BuiltInModule.others : List BuiltInModule :=
  [.remoteInput, .chassis, .arm, .gimbal, .gantry, .referee]

namespace ModuleManager

theorem registerEnabled_spec (enabled : BuiltInModule → Bool) (manager : ModuleManager)
    (modules : List BuiltInModule)
    (room : manager.modules.length + modules.length ≤ kMaxModules) :
    manager.registerEnabled enabled modules =
      ({ manager with modules := manager.modules ++ modules.filter enabled }, .ok ()) := by
  induction modules generalizing manager with
  | nil => simp [registerEnabled]
  | cons module rest ih =>
      rw [List.length_cons] at room
      cases hEnabled : enabled module with
      | false =>
          rw [List.filter_cons_of_neg (by simp [hEnabled]), ← ih manager (by omega)]
          simp [registerEnabled, hEnabled]
      | true =>
          have hRegister : manager.register module =
              ({ manager with modules := manager.modules ++ [module] }, .ok ()) :=
            if_neg (by omega)
          have hRest := ih { manager with modules := manager.modules ++ [module] }
            (by simp only [List.length_append, List.length_singleton]; omega)
          rw [List.filter_cons_of_pos hEnabled]
          simpa [registerEnabled, hEnabled, hRegister] using hRest

/-- The manager once the modules of the configuration are registered. -/
def complete (enabled : BuiltInModule → Bool) : ModuleManager where
  modules := applicationModules.filter enabled
  builtinsRegistered := true

theorem registerBuiltInModules_complete {enabled : BuiltInModule → Bool} {manager : ModuleManager}
    (regular : manager = initial ∨ manager = complete enabled) :
    manager.registerBuiltInModules enabled = complete enabled := by
  rcases regular with rfl | rfl
  · have hAll : initial.registerApplicationModules enabled = _ :=
      registerEnabled_spec enabled initial applicationModules (by decide)
    have hNew : initial.builtinsRegistered = false := rfl
    simp only [registerBuiltInModules, hAll, hNew, Bool.false_eq_true, if_false]
    rfl
  · rfl

/-- `SysStateModule` is the first module, if it is there at all. -/
theorem modules_complete (enabled : BuiltInModule → Bool) :
    (complete enabled).modules = BuiltInModule.others.filter enabled ∨
      (complete enabled).modules = .sysState :: BuiltInModule.others.filter enabled := by
  cases hEnabled : enabled .sysState with
  | false => exact .inl (List.filter_cons_of_neg (by simp [hEnabled]))
  | true => exact .inr (List.filter_cons_of_pos hEnabled)

theorem ne_sysState_of_mem {enabled : BuiltInModule → Bool} {module : BuiltInModule}
    (mem : module ∈ BuiltInModule.others.filter enabled) : module ≠ .sysState := by
  rintro rfl
  exact absurd (List.mem_filter.mp mem).1 (by decide)

end ModuleManager

namespace ModuleSystem

variable {Provider F : Type}

section Initialising

variable [FloatModel F] [DecidableEq Provider]

/-- A module that `Initialize` gets to can be started again. -/
theorem initializeModule_spec (this : Provider) (ready : Bool) (s : ModuleSystem Provider F)
    (module : BuiltInModule) :
    (s.initializeModule this ready module).1.manager = s.manager ∧
      (s.initializeModule this ready module).1.threads = s.threads ∧
      (s.initializeModule this ready module).1.started = Function.update s.started module false ∧
      (module ≠ .chassis → (s.initializeModule this ready module).2 = .ok ()) := by
  cases module with
  | chassis => exact ⟨rfl, rfl, rfl, fun h => absurd rfl h⟩
  | _ => exact ⟨rfl, rfl, rfl, fun _ => rfl⟩

/-- `Initialize` creates no thread, and stops none: it only clears flags. -/
theorem initializeEach_spec (this : Provider) (ready : Bool) (s : ModuleSystem Provider F)
    (modules : List BuiltInModule) :
    (s.initializeEach this ready modules).1.manager = s.manager ∧
      (s.initializeEach this ready modules).1.threads = s.threads ∧
      ∀ module, (s.initializeEach this ready modules).1.started module = true →
        s.started module = true := by
  induction modules generalizing s with
  | nil => exact ⟨rfl, rfl, fun _ => id⟩
  | cons first rest ih =>
      obtain ⟨hManager, hThreads, hStarted, _⟩ := s.initializeModule_spec this ready first
      have hCleared (module : BuiltInModule) :
          (s.initializeModule this ready first).1.started module = true →
            s.started module = true := by
        rw [hStarted]
        by_cases hModule : module = first
        · rw [hModule, Function.update_self]
          exact fun h => by cases h
        · rw [Function.update_of_ne hModule]
          exact id
      rcases hFirst : s.initializeModule this ready first with ⟨next, rc | ⟨⟩⟩
      · rw [hFirst] at hManager hThreads hCleared
        simp only [initializeEach, hFirst]
        exact ⟨hManager, hThreads, hCleared⟩
      · rw [hFirst] at hManager hThreads hCleared
        obtain ⟨hManager', hThreads', hCleared'⟩ := ih next
        simp only [initializeEach, hFirst]
        exact ⟨hManager'.trans hManager, hThreads'.trans hThreads,
          fun module hModule => hCleared module (hCleared' module hModule)⟩

/-- The first module that can fail is still reached. -/
theorem initializeEach_first (this : Provider) (ready : Bool) (s : ModuleSystem Provider F)
    (module : BuiltInModule) (rest : List BuiltInModule) :
    (s.initializeEach this ready (module :: rest)).1.started module = false := by
  obtain ⟨_, _, hStarted, _⟩ := s.initializeModule_spec this ready module
  rcases hFirst : s.initializeModule this ready module with ⟨next, rc | ⟨⟩⟩
  · rw [hFirst] at hStarted
    simp only [initializeEach, hFirst]
    exact (congrFun hStarted module).trans (Function.update_self module false s.started)
  · rw [hFirst] at hStarted
    simp only [initializeEach, hFirst]
    cases hLater : (next.initializeEach this ready rest).1.started module with
    | false => rfl
    | true =>
        have hNext := (next.initializeEach_spec this ready rest).2.2 module hLater
        rw [hStarted, Function.update_self] at hNext
        cases hNext

/-- After `Initialize` the first of the six modules can be started again. -/
theorem initializeEach_complete {enabled : BuiltInModule → Bool} (this : Provider) (ready : Bool)
    (s : ModuleSystem Provider F) {module : BuiltInModule} {rest : List BuiltInModule}
    (first : BuiltInModule.others.filter enabled = module :: rest) :
    (s.initializeEach this ready (ModuleManager.complete enabled).modules).1.started module =
      false := by
  rcases ModuleManager.modules_complete enabled with hModules | hModules
  · rw [hModules, first]
    exact initializeEach_first this ready s module rest
  · rw [hModules, first]
    exact initializeEach_first this ready _ module rest

/-- The effect of `Initialize` on a registered or empty manager. -/
theorem initializeModules_spec {enabled : BuiltInModule → Bool} (this : Provider) (ready : Bool)
    {s : ModuleSystem Provider F}
    (regular : s.manager = .initial ∨ s.manager = .complete enabled) :
    (s.initializeModules enabled this ready).1.manager = .complete enabled ∧
      (s.initializeModules enabled this ready).1.threads = s.threads ∧
      (∀ module, (s.initializeModules enabled this ready).1.started module = true →
        s.started module = true) ∧
      (BuiltInModule.others.filter enabled ≠ [] →
        ∃ module ∈ BuiltInModule.others.filter enabled,
          (s.initializeModules enabled this ready).1.started module = false) := by
  have hRegister := ModuleManager.registerBuiltInModules_complete regular
  have hInitialize : s.initializeModules enabled this ready =
      initializeEach this ready { s with manager := .complete enabled }
        (ModuleManager.complete enabled).modules := by
    simp only [initializeModules, hRegister]
    rfl
  rw [hInitialize]
  obtain ⟨hManager, hThreads, hCleared⟩ := initializeEach_spec this ready
    { s with manager := .complete enabled } (ModuleManager.complete enabled).modules
  refine ⟨hManager, hThreads, hCleared, fun hNonempty => ?_⟩
  obtain ⟨module, rest, hOthers⟩ := List.exists_cons_of_ne_nil hNonempty
  refine ⟨module, by rw [hOthers]; exact List.mem_cons_self, ?_⟩
  exact initializeEach_complete this ready _ hOthers

end Initialising

/-- The modules are started as far as they were not. -/
def startedAll (s : ModuleSystem Provider F) (modules : List BuiltInModule) :
    ModuleSystem Provider F :=
  { s with
    started := fun module => decide (module ∈ modules) || s.started module
    threads := fun module =>
      if module ∈ modules ∧ s.started module = false then s.threads module + 1
      else s.threads module }

theorem startedAll_cons (s : ModuleSystem Provider F) (first : BuiltInModule)
    (rest : List BuiltInModule) :
    (s.startedAll [first]).startedAll rest = s.startedAll (first :: rest) := by
  simp only [startedAll, List.mem_cons, List.not_mem_nil, or_false]
  congr 1
  · funext module
    by_cases hSelf : module = first <;> simp [hSelf]
  · -- the first module has its flag when the rest is started
    funext module
    by_cases hSelf : module = first <;> simp [hSelf]

theorem startedAll_singleton (s : ModuleSystem Provider F) (module : BuiltInModule) :
    s.startedAll [module] =
      if s.started module = true then s
      else { s.createThread module with started := Function.update s.started module true } := by
  simp only [startedAll, List.mem_singleton]
  split_ifs with hStarted
  · congr 1
    · funext self
      by_cases hSelf : self = module <;> simp [hSelf, hStarted]
    · funext self
      by_cases hSelf : self = module <;> simp [hSelf, hStarted]
  · rw [createThread]
    congr 1
    · funext self
      by_cases hSelf : self = module <;> simp [hSelf]
    · funext self
      by_cases hSelf : self = module <;> simp [hSelf, hStarted]

/-- Starting one of the six creates its thread if it is without the flag. -/
theorem startModule_other (created : Bool) (s : ModuleSystem Provider F) {module : BuiltInModule}
    (other : module ≠ .sysState) :
    s.startModule created module = (s.startedAll [module], .ok ()) := by
  rw [startedAll_singleton, startModule, if_neg fun hSysState => other hSysState.1]
  split_ifs with hStarted hFailed
  · rfl
  · exact absurd hFailed.1 other
  · rfl

theorem startEach_others (created : Bool) (s : ModuleSystem Provider F)
    {modules : List BuiltInModule} (others : ∀ module ∈ modules, module ≠ .sysState) :
    s.startEach created modules = (s.startedAll modules, .ok ()) := by
  induction modules generalizing s with
  | nil => simp [startEach, startedAll]
  | cons first rest ih =>
      obtain ⟨hFirst, hRest⟩ := List.forall_mem_cons.mp others
      rw [← startedAll_cons, ← ih _ hRest]
      simp only [startEach, s.startModule_other created hFirst]

/-- Whether `Start` of the manager gets past `SysStateModule`. -/
def passesSysState (s : ModuleSystem Provider F) (created : Bool) : Bool :=
  s.manager.modules.all fun module =>
    module != .sysState || !s.sysStateReady || s.started .sysState || created

theorem passesSysState_iff (s : ModuleSystem Provider F) (created : Bool) :
    s.passesSysState created = true ↔
      (.sysState ∈ s.manager.modules → s.sysStateReady = true → s.started .sysState = false →
        created = true) := by
  simp only [passesSysState, List.all_eq_true]
  constructor
  · intro hAll hMem hReady hStopped
    simpa [hReady, hStopped] using hAll .sysState hMem
  · intro hPasses module hModule
    by_cases hSelf : module = .sysState
    · subst hSelf
      cases hReady : s.sysStateReady <;> cases hStarted : s.started .sysState <;>
        simp_all
    · simp [hSelf]

/-- The six modules are started, as far as they are there. -/
structure Started (enabled : BuiltInModule → Bool) (s next : ModuleSystem Provider F) : Prop where
  manager : next.manager = s.manager
  flags : ∀ module ∈ BuiltInModule.others.filter enabled, next.started module = true
  same : ∀ module, module ≠ .sysState →
    module ∉ BuiltInModule.others.filter enabled ∨ s.started module = true →
      next.threads module = s.threads module
  more : ∀ module ∈ BuiltInModule.others.filter enabled, s.started module = false →
    next.threads module = s.threads module + 1

/-- Nothing happens to the six modules. -/
structure Untouched (s next : ModuleSystem Provider F) : Prop where
  manager : next.manager = s.manager
  started : ∀ module, module ≠ .sysState → next.started module = s.started module
  threads : ∀ module, module ≠ .sysState → next.threads module = s.threads module

theorem started_of_untouched {enabled : BuiltInModule → Bool}
    {s between next : ModuleSystem Provider F}
    (untouched : Untouched s between) (started : Started enabled between next) :
    Started enabled s next where
  manager := started.manager.trans untouched.manager
  flags := started.flags
  same module other unchanged := by
    rw [← untouched.threads module other]
    exact started.same module other (by rwa [untouched.started module other])
  more module mem stopped := by
    have hOther := ModuleManager.ne_sysState_of_mem mem
    rw [← untouched.threads module hOther]
    exact started.more module mem (by rwa [untouched.started module hOther])

theorem startEach_started (enabled : BuiltInModule → Bool) (created : Bool)
    (s : ModuleSystem Provider F) :
    Started enabled s (s.startEach created (BuiltInModule.others.filter enabled)).1 := by
  have hOthers : ∀ module ∈ BuiltInModule.others.filter enabled, module ≠ .sysState :=
    fun _ => ModuleManager.ne_sysState_of_mem
  rw [s.startEach_others created hOthers]
  refine ⟨rfl, fun module hModule => ?_, fun module _ hUnchanged => if_neg ?_,
    fun module hModule hStopped => if_pos ⟨hModule, hStopped⟩⟩
  · simp only [startedAll, hModule, decide_true, Bool.true_or]
  · rintro ⟨hModule, hStopped⟩
    rcases hUnchanged with hAbsent | hOn
    · exact hAbsent hModule
    · cases hStopped.symm.trans hOn

/-- What happens to `SysStateModule` leaves the others alone. -/
theorem startModule_sysState (created : Bool) (s : ModuleSystem Provider F) :
    Untouched s (s.startModule created .sysState).1 ∧
      ((s.startModule created .sysState).2 = .ok () ↔
        (s.sysStateReady = true → s.started .sysState = false → created = true)) := by
  have hOther (next : BuiltInModule → Nat) {module : BuiltInModule} (other : module ≠ .sysState)
      (value : Nat) : Function.update next .sysState value module = next module :=
    Function.update_of_ne other _ _
  cases hReady : s.sysStateReady with
  | false => simpa [startModule, hReady] using ⟨rfl, fun _ _ => rfl, fun _ _ => rfl⟩
  | true =>
      cases hStarted : s.started .sysState with
      | true => simpa [startModule, hReady, hStarted] using ⟨rfl, fun _ _ => rfl, fun _ _ => rfl⟩
      | false =>
          cases created with
          | false =>
              simp only [startModule, hReady, hStarted]
              refine ⟨⟨rfl, fun _ _ => rfl, fun module hModule => ?_⟩, by simp⟩
              exact hOther s.threads hModule _
          | true =>
              simp only [startModule, hReady, hStarted]
              refine ⟨⟨rfl, fun module hModule => ?_, fun module hModule => ?_⟩, by simp⟩
              · exact Function.update_of_ne hModule _ _
              · exact hOther s.threads hModule _

/-- Whether `Start` of the manager gets to one of the six modules. -/
def reachesModules (s : ModuleSystem Provider F) (created : Bool) : Bool :=
  s.manager.modules.any (· != .sysState) && s.passesSysState created

/-- `Start` of the registered modules reaches the six if one of them is there. -/
theorem reachesModules_complete {enabled : BuiltInModule → Bool} {s : ModuleSystem Provider F}
    (complete : s.manager = .complete enabled) (created : Bool) :
    s.reachesModules created = true ↔
      BuiltInModule.others.filter enabled ≠ [] ∧ s.passesSysState created = true := by
  rw [reachesModules, Bool.and_eq_true, complete]
  refine and_congr_left fun _ => ?_
  rw [List.any_eq_true]
  constructor
  · rintro ⟨module, hModule, hOther⟩ hNil
    rcases ModuleManager.modules_complete enabled with hModules | hModules <;>
      rw [hModules, hNil] at hModule
    · cases hModule
    · rw [List.mem_singleton.mp hModule] at hOther
      cases hOther
  · intro hNonempty
    obtain ⟨module, rest, hOthers⟩ := List.exists_cons_of_ne_nil hNonempty
    have hMem : module ∈ BuiltInModule.others.filter enabled := by
      rw [hOthers]
      exact List.mem_cons_self
    refine ⟨module, ?_, by simpa using ModuleManager.ne_sysState_of_mem hMem⟩
    rcases ModuleManager.modules_complete enabled with hModules | hModules <;> rw [hModules]
    · exact hMem
    · exact List.mem_cons_of_mem _ hMem

/-- `Start` of the manager starts all of the six modules or leaves them alone. -/
theorem startModules_spec {enabled : BuiltInModule → Bool} (created : Bool)
    {s : ModuleSystem Provider F} (complete : s.manager = .complete enabled) :
    (s.reachesModules created = true ∧ BuiltInModule.others.filter enabled ≠ [] ∧
        Started enabled s (s.startModules created).1) ∨
      (s.reachesModules created = false ∧ Untouched s (s.startModules created).1) := by
  have hReaches := reachesModules_complete complete created
  rw [passesSysState_iff, complete] at hReaches
  rw [← Bool.not_eq_true, hReaches, startModules, complete]
  by_cases hNil : BuiltInModule.others.filter enabled = []
  · refine .inr ⟨fun hAll => hAll.1 hNil, ?_⟩
    rcases ModuleManager.modules_complete enabled with hModules | hModules <;> rw [hModules, hNil]
    · exact ⟨rfl, fun _ _ => rfl, fun _ _ => rfl⟩
    · have hUntouched := (s.startModule_sysState created).1
      rcases hFirst : s.startModule created .sysState with ⟨next, rc | ⟨⟩⟩ <;>
        rw [hFirst] at hUntouched <;> simpa only [startEach, hFirst] using hUntouched
  · rcases ModuleManager.modules_complete enabled with hModules | hModules <;> rw [hModules]
    · exact .inl ⟨⟨hNil, fun hMem => absurd rfl (ModuleManager.ne_sysState_of_mem hMem)⟩, hNil,
        s.startEach_started enabled created⟩
    · obtain ⟨hUntouched, hPasses⟩ := s.startModule_sysState created
      rcases hFirst : s.startModule created .sysState with ⟨next, rc | ⟨⟩⟩
      · rw [hFirst] at hUntouched hPasses
        simp only [startEach, hFirst]
        refine .inr ⟨fun hAll => ?_, hUntouched⟩
        cases hPasses.mpr (hAll.2 List.mem_cons_self)
      · rw [hFirst] at hUntouched hPasses
        simp only [startEach, hFirst]
        exact .inl ⟨⟨hNil, fun _ => hPasses.mp rfl⟩, hNil,
          started_of_untouched hUntouched (next.startEach_started enabled created)⟩

/-- Without modules `Start` does nothing. -/
theorem startModules_initial (created : Bool) {s : ModuleSystem Provider F}
    (unregistered : s.manager = .initial) :
    s.reachesModules created = false ∧ (s.startModules created).1 = s := by
  rw [reachesModules, startModules, unregistered]
  exact ⟨rfl, rfl⟩

theorem Started.one_le {enabled : BuiltInModule → Bool} {s next : ModuleSystem Provider F}
    (started : Started enabled s next)
    (created : ∀ module ∈ BuiltInModule.others.filter enabled,
      s.started module = true → 1 ≤ s.threads module) :
    ∀ module ∈ BuiltInModule.others.filter enabled, 1 ≤ next.threads module := by
  intro module hModule
  cases hOn : s.started module with
  | true =>
      rw [started.same module (ModuleManager.ne_sysState_of_mem hModule) (.inr hOn)]
      exact created module hModule hOn
  | false =>
      rw [started.more module hModule hOn]
      exact Nat.le_add_left 1 _

end ModuleSystem

/-- What has been called so far: no `Start` that reached the modules, such a `Start`,
or such a `Start` and `Initialize` after it. -/
inductive Phase where
  | fresh
  | started
  | initializedAgain
  deriving DecidableEq

structure LifecycleRun (Provider F : Type) where
  system : ModuleSystem Provider F
  phase : Phase

namespace LifecycleRun

variable {Provider F : Type} [FloatModel F] [DecidableEq Provider]

def initial (Provider F : Type) [FloatModel F] : LifecycleRun Provider F where
  system := .initial Provider F
  phase := .fresh

def nextPhase (r : LifecycleRun Provider F) : ManagerEvent Provider → Phase
  | .initializeModules _ => if r.phase = .started then .initializedAgain else r.phase
  | .startModules created => if r.system.reachesModules created then .started else r.phase
  | .tuningCall _ => r.phase

def step (enabled : BuiltInModule → Bool) (this : Provider)
    (r : LifecycleRun Provider F) (event : ManagerEvent Provider) : LifecycleRun Provider F where
  system := r.system.step enabled this event
  phase := r.nextPhase event

/-- Once the modules are initialised again they are not started again. -/
def StartsOnce (r : LifecycleRun Provider F) : ManagerEvent Provider → Prop
  | .startModules created => r.phase = .initializedAgain → r.system.reachesModules created = false
  | _ => True

/-- The thread of each of the six modules was created at most once. -/
def ThreadsOnce (r : LifecycleRun Provider F) : Prop :=
  ∀ module, module ≠ .sysState → r.system.threads module ≤ 1

/-- What is known of the modules in each phase. -/
def Consistent (enabled : BuiltInModule → Bool) (r : LifecycleRun Provider F) : Prop :=
  match r.phase with
  | .fresh =>
      (r.system.manager = .initial ∨ r.system.manager = .complete enabled) ∧
        ∀ module, module ≠ .sysState →
          r.system.started module = false ∧ r.system.threads module = 0
  | .started =>
      r.system.manager = .complete enabled ∧ BuiltInModule.others.filter enabled ≠ [] ∧
        ∀ module ∈ BuiltInModule.others.filter enabled,
          r.system.started module = true ∧ 1 ≤ r.system.threads module
  | .initializedAgain =>
      r.system.manager = .complete enabled ∧
        (∀ module ∈ BuiltInModule.others.filter enabled, 1 ≤ r.system.threads module) ∧
        ∃ module ∈ BuiltInModule.others.filter enabled, r.system.started module = false

omit [FloatModel F] [DecidableEq Provider] in
theorem regular_of_consistent {enabled : BuiltInModule → Bool} {r : LifecycleRun Provider F}
    (consistent : r.Consistent enabled) :
    r.system.manager = .initial ∨ r.system.manager = .complete enabled := by
  obtain ⟨s, phase⟩ := r
  cases phase with
  | fresh => exact consistent.1
  | started => exact .inr consistent.1
  | initializedAgain => exact .inr consistent.1

theorem consistent_initializeModules {enabled : BuiltInModule → Bool} (this : Provider)
    (ready : Bool) {r : LifecycleRun Provider F} (consistent : r.Consistent enabled) :
    (r.step enabled this (.initializeModules ready)).Consistent enabled := by
  obtain ⟨s, phase⟩ := r
  cases phase with
  | fresh =>
      obtain ⟨hRegular, hNone⟩ := consistent
      obtain ⟨hManager, hThreads, hCleared, _⟩ := s.initializeModules_spec this ready hRegular
      refine ⟨.inr hManager, fun module hModule => ⟨?_, ?_⟩⟩
      · rw [← Bool.not_eq_true]
        exact fun hOn => Bool.false_ne_true
          ((hNone module hModule).1.symm.trans (hCleared module hOn))
      · exact (congrFun hThreads module).trans (hNone module hModule).2
  | started =>
      obtain ⟨hComplete, hNonempty, hAll⟩ := consistent
      obtain ⟨hManager, hThreads, _, hFirst⟩ :=
        s.initializeModules_spec this ready (.inr hComplete)
      refine ⟨hManager, fun module hModule => ?_, hFirst hNonempty⟩
      exact (hAll module hModule).2.trans_eq (congrFun hThreads module).symm
  | initializedAgain =>
      obtain ⟨hComplete, hAll, module, hModule, hStopped⟩ := consistent
      obtain ⟨hManager, hThreads, hCleared, _⟩ :=
        s.initializeModules_spec this ready (.inr hComplete)
      refine ⟨hManager, fun module hModule => ?_, module, hModule, ?_⟩
      · exact (hAll module hModule).trans_eq (congrFun hThreads module).symm
      · rw [← Bool.not_eq_true]
        exact fun hOn => Bool.false_ne_true (hStopped.symm.trans (hCleared module hOn))

theorem consistent_startModules {enabled : BuiltInModule → Bool} (this : Provider)
    (created : Bool) {r : LifecycleRun Provider F} (consistent : r.Consistent enabled) :
    (r.step enabled this (.startModules created)).Consistent enabled := by
  obtain ⟨s, phase⟩ := r
  have hUnregistered (hInitial : s.manager = .initial) :
      (LifecycleRun.mk s phase).step enabled this (.startModules created) = ⟨s, phase⟩ := by
    obtain ⟨hReaches, hSame⟩ := s.startModules_initial created hInitial
    simp only [step, nextPhase, ModuleSystem.step, hReaches, hSame]
    rfl
  rcases regular_of_consistent consistent with hInitial | hComplete
  · rwa [hUnregistered hInitial]
  rcases s.startModules_spec created hComplete with
    ⟨hReaches, hNonempty, hStarted⟩ | ⟨hReaches, hUntouched⟩
  · have hCreated : ∀ module ∈ BuiltInModule.others.filter enabled,
        s.started module = true → 1 ≤ s.threads module := by
      intro module hModule hOn
      cases phase with
      | fresh =>
          have hOff := (consistent.2 module (ModuleManager.ne_sysState_of_mem hModule)).1
          cases hOff.symm.trans hOn
      | started => exact (consistent.2.2 module hModule).2
      | initializedAgain => exact consistent.2.1 module hModule
    simp only [Consistent, step, nextPhase, hReaches, if_true]
    exact ⟨hStarted.manager.trans hComplete, hNonempty, fun module hModule =>
      ⟨hStarted.flags module hModule, hStarted.one_le hCreated module hModule⟩⟩
  · have hOther {module : BuiltInModule}
        (hModule : module ∈ BuiltInModule.others.filter enabled) : module ≠ .sysState :=
      ModuleManager.ne_sysState_of_mem hModule
    have hManager : (s.startModules created).1.manager = .complete enabled :=
      hUntouched.manager.trans hComplete
    simp only [step, nextPhase, hReaches]
    cases phase with
    | fresh =>
        refine ⟨.inr hManager, fun module hModule => ?_⟩
        obtain ⟨hOff, hZero⟩ := consistent.2 module hModule
        exact ⟨(hUntouched.started module hModule).trans hOff,
          (hUntouched.threads module hModule).trans hZero⟩
    | started =>
        refine ⟨hManager, consistent.2.1, fun module hModule => ?_⟩
        obtain ⟨hOn, hOne⟩ := consistent.2.2 module hModule
        exact ⟨(hUntouched.started module (hOther hModule)).trans hOn,
          hOne.trans_eq (hUntouched.threads module (hOther hModule)).symm⟩
    | initializedAgain =>
        obtain ⟨_, hOne, module, hModule, hOff⟩ := consistent
        refine ⟨hManager, fun module hModule => ?_, module, hModule, ?_⟩
        · exact (hOne module hModule).trans_eq (hUntouched.threads module (hOther hModule)).symm
        · exact (hUntouched.started module (hOther hModule)).trans hOff

theorem consistent_step {enabled : BuiltInModule → Bool} (this : Provider)
    {r : LifecycleRun Provider F} (event : ManagerEvent Provider)
    (consistent : r.Consistent enabled) : (r.step enabled this event).Consistent enabled := by
  cases event with
  | tuningCall call => exact consistent
  | initializeModules ready => exact consistent_initializeModules this ready consistent
  | startModules created => exact consistent_startModules this created consistent

/-- From threads created at most once, a step leads to such threads again exactly if it
is no second start after an initialisation. -/
theorem startsOnce_iff {enabled : BuiltInModule → Bool} (this : Provider)
    {r : LifecycleRun Provider F} (event : ManagerEvent Provider)
    (consistent : r.Consistent enabled) (once : r.ThreadsOnce) :
    r.StartsOnce event ↔ (r.step enabled this event).ThreadsOnce := by
  obtain ⟨s, phase⟩ := r
  have hRegular := regular_of_consistent consistent
  cases event with
  | tuningCall call => exact iff_of_true trivial once
  | initializeModules ready =>
      obtain ⟨_, hThreads, _, _⟩ := s.initializeModules_spec this ready hRegular
      refine iff_of_true trivial fun module hModule => ?_
      exact (congrFun hThreads module).trans_le (once module hModule)
  | startModules created =>
      rcases hRegular with hInitial | hComplete
      · obtain ⟨hReaches, hSame⟩ := s.startModules_initial created hInitial
        refine iff_of_true (fun _ => hReaches) fun module hModule => ?_
        exact (congrArg (·.threads module) hSame).trans_le (once module hModule)
      rcases s.startModules_spec created hComplete with
        ⟨hReaches, _, hStarted⟩ | ⟨hReaches, hUntouched⟩
      · cases phase with
        | fresh =>
            refine iff_of_true (fun hPhase => by cases hPhase) fun module hModule => ?_
            obtain ⟨hOff, hZero⟩ := consistent.2 module hModule
            by_cases hMem : module ∈ BuiltInModule.others.filter enabled
            · have hMore := hStarted.more module hMem hOff
              exact (hMore.trans (congrArg (· + 1) hZero)).le
            · exact (hStarted.same module hModule (.inl hMem)).trans_le (once module hModule)
        | started =>
            refine iff_of_true (fun hPhase => by cases hPhase) fun module hModule => ?_
            have hUnchanged : module ∉ BuiltInModule.others.filter enabled ∨
                s.started module = true :=
              (Classical.em _).symm.imp_right fun hMem => (consistent.2.2 module hMem).1
            exact (hStarted.same module hModule hUnchanged).trans_le (once module hModule)
        | initializedAgain =>
            -- a module without the flag gets a second thread
            obtain ⟨_, hOne, module, hMem, hOff⟩ := consistent
            refine iff_of_false (fun hOnce => ?_) fun hOnce => ?_
            · cases hReaches.symm.trans (hOnce rfl)
            · have hMore := hStarted.more module hMem hOff
              have hTwo : (s.startModules created).1.threads module ≤ 1 :=
                hOnce module (ModuleManager.ne_sysState_of_mem hMem)
              have hBefore : 1 ≤ s.threads module := hOne module hMem
              omega
      · refine iff_of_true (fun _ => hReaches) fun module hModule => ?_
        exact (hUntouched.threads module hModule).trans_le (once module hModule)

/-- Along every run the thread of each of the six modules is created at most once
exactly if the modules are not started again after they are initialised again. -/
theorem threads_once_iff (enabled : BuiltInModule → Bool) (this : Provider)
    (events : List (ManagerEvent Provider)) :
    Run.Along (step enabled this) StartsOnce (initial Provider F) events ↔
      Run.Always (step enabled this) ThreadsOnce (initial Provider F) events :=
  Run.along_iff_always (fun _ event hConsistent => consistent_step this event hConsistent)
    (fun _ event hConsistent => startsOnce_iff this event hConsistent)
    (show (initial Provider F).Consistent enabled from ⟨.inl rfl, fun _ _ => ⟨rfl, rfl⟩⟩)
    (fun _ _ => Nat.zero_le 1) events

/-- With all modules built in, calling `Initialize` and `Start` twice creates each thread
twice. -/
theorem threads_created_twice :
    BuiltInModule.others.map
      ([.initializeModules true, .startModules true, .initializeModules true,
        .startModules true].foldl
        (ModuleSystem.step (fun _ => true) ()) (ModuleSystem.initial Unit ℚ)).threads =
      [2, 2, 2, 2, 2, 2] := by
  rfl

end LifecycleRun

end RmTest.Bootstrap
