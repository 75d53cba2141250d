import RmTest.Bootstrap.Boot
import RmTest.Verification.CanRetry
import RmTest.Verification.ModuleLifecycle
import RmTest.Verification.PidPersistence

/-! The boot, whatever the devices say: how far it comes, what it has published and started
by then, and which failures it survives. -/
namespace RmTest.Bootstrap

open Channels Platform Modules Services FloatModel

/-- The UART dispatcher does not end the boot. -/
def UartServes (config : BootConfig) (o : UartOutcomes) : Prop :=
  config.dispatchUartIsConsole = true ∨
    (o.deviceIsReady = true ∧
      (config.uartAsyncApi = true → o.uartCallbackSet = true ∧ o.uartRxEnable = true))

instance (config : BootConfig) (o : UartOutcomes) : Decidable (UartServes config o) :=
  inferInstanceAs (Decidable (_ ∨ _))

/-- The buses do not end the boot: the first one that is there and does not come up says that
it has no device. -/
def CanServes (o : CanOutcomes) (order : List CanBus) : Prop :=
  ∀ bus ∈ order, (∀ earlier ∈ order.takeWhile (· ≠ bus), CanStartup.Passes o earlier) →
    CanStartup.Passes o bus ∨ o.canStart bus = .error .enodev

instance (o : CanOutcomes) (bus : CanBus) : Decidable (CanStartup.Passes o bus) :=
  inferInstanceAs (Decidable (_ → _))

instance (o : CanOutcomes) (order : List CanBus) : Decidable (CanServes o order) :=
  inferInstanceAs (Decidable (∀ bus ∈ order, _))

def UsbServes (config : BootConfig) (usb : Except Errno Unit) : Prop :=
  config.hasUsbNode = true → usb = .ok () ∨ usb = .error .enodev

instance (config : BootConfig) (usb : Except Errno Unit) : Decidable (UsbServes config usb) :=
  inferInstanceAs (Decidable (_ → _))

def InfrastructureServes (config : BootConfig) (o : BootOutcomes) : Prop :=
  (config.runtimeInitUart = true → UartServes config o.uart) ∧
    (config.runtimeInitCan = true → CanServes o.can CanDispatcher.buses) ∧
    (config.runtimeInitUsb = true → UsbServes config o.usb)

instance (config : BootConfig) (o : BootOutcomes) : Decidable (InfrastructureServes config o) :=
  inferInstanceAs (Decidable (_ ∧ _ ∧ _))

theorem skipMissing_eq_ok {rc : Except Errno Unit} :
    Robot.skipMissing rc = .ok () ↔ rc = .ok () ∨ rc = .error .enodev := by
  cases rc with
  | ok _ => simp [Robot.skipMissing]
  | error rc =>
      by_cases hMissing : rc = .enodev <;> simp [Robot.skipMissing, hMissing]

/-- The dispatcher reads its UART exactly if this is not the console and all calls succeed. -/
theorem initializeUart_spec (config : BootConfig) (o : UartOutcomes) {d : UartDispatcher}
    (notStarted : d.started = false) :
    ((d.initializeDispatch config o).2 = .ok () ↔ UartServes config o) ∧
      ((d.initializeDispatch config o).1.started = true ↔
        config.dispatchUartIsConsole = false ∧ UartServes config o) := by
  unfold UartDispatcher.initializeDispatch UartServes
  rcases o with ⟨deviceIsReady, uartCallbackSet, uartRxEnable⟩
  rw [notStarted]
  cases config.dispatchUartIsConsole <;> cases config.uartAsyncApi <;> cases deviceIsReady <;>
    cases uartCallbackSet <;> cases uartRxEnable <;> simp [notStarted]

/-- What is asked of a list of buses, for the first of them and the rest. -/
theorem canServes_cons {o : CanOutcomes} {bus : CanBus} {rest : List CanBus} (new : bus ∉ rest) :
    CanServes o (bus :: rest) ↔
      (CanStartup.Passes o bus ∨ o.canStart bus = .error .enodev) ∧
        (CanStartup.Passes o bus → CanServes o rest) := by
  have hOther : ∀ other ∈ rest, (bus :: rest).takeWhile (· ≠ other) =
      bus :: rest.takeWhile (· ≠ other) := by
    intro other hMem
    have hDifferent : bus ≠ other := fun h => new (h ▸ hMem)
    simp [hDifferent]
  unfold CanServes
  constructor
  · intro hAll
    refine ⟨hAll bus List.mem_cons_self (by simp), fun hPasses other hMem hEarlier => ?_⟩
    refine hAll other (List.mem_cons_of_mem _ hMem) ?_
    rw [hOther other hMem]
    exact List.forall_mem_cons.mpr ⟨hPasses, hEarlier⟩
  · rintro ⟨hFirst, hRest⟩ other hMem hEarlier
    rcases List.mem_cons.mp hMem with rfl | hLater
    · exact hFirst
    · rw [hOther other hLater] at hEarlier
      obtain ⟨hPasses, hBefore⟩ := List.forall_mem_cons.mp hEarlier
      exact hRest hPasses other hLater hBefore

/-- The loop over the buses, up to the first that does not come up. -/
theorem startBuses_spec (o : CanOutcomes) (order : List CanBus) (distinct : order.Nodup)
    (d : CanDispatcher) :
    ((CanDispatcher.startBuses o order d).2 = .ok () ↔ ∀ bus ∈ order, CanStartup.Passes o bus) ∧
      (Robot.skipMissing (CanDispatcher.startBuses o order d).2 = .ok () ↔ CanServes o order) := by
  induction order generalizing d with
  | nil => simp [CanDispatcher.startBuses, CanServes, Robot.skipMissing]
  | cons bus rest ih =>
      obtain ⟨hNew, hRest⟩ := List.nodup_cons.mp distinct
      rw [canServes_cons hNew, List.forall_mem_cons]
      cases hFound : o.found bus with
      | false =>
          have hPasses : CanStartup.Passes o bus := fun h => by simp [hFound] at h
          simp only [CanDispatcher.startBuses, hFound]
          simpa [hPasses] using ih hRest _
      | true =>
          by_cases hStarts : CanStartup.Starts o bus
          · have hNoError : ¬(o.canStart bus ≠ .ok () ∧ o.canStart bus ≠ .error .ealready) :=
              fun h => hStarts.elim h.1 h.2
            have hDevice : o.canStart bus ≠ .error .enodev := by
              rintro hMissing
              rcases hStarts with h | h <;> rw [hMissing] at h <;> cases h
            simp only [CanDispatcher.startBuses, hFound, if_neg hNoError,
              CanDispatcher.addDefaultFilters, CanStartup.addFilters_eq]
            cases hAll : defaultFilters.all (o.canAddRxFilter bus) with
            | false =>
                have hPasses : ¬CanStartup.Passes o bus := fun h =>
                  absurd (List.all_eq_true.mpr (h hFound).2) (by simp [hAll])
                simp [hPasses, hDevice, Robot.skipMissing]
            | true =>
                have hPasses : CanStartup.Passes o bus :=
                  fun _ => ⟨hStarts, List.all_eq_true.mp hAll⟩
                simpa [hPasses] using ih hRest _
          · have hError : o.canStart bus ≠ .ok () ∧ o.canStart bus ≠ .error .ealready :=
              not_or.mp hStarts
            have hPasses : ¬CanStartup.Passes o bus := fun h => hStarts (h hFound).1
            simp only [CanDispatcher.startBuses, hFound, if_pos hError, skipMissing_eq_ok]
            simp [hPasses, hError.1]

/-- What the CAN dispatcher makes of its buses. -/
theorem initializeCan_spec (o : CanOutcomes) :
    (Robot.skipMissing (CanDispatcher.initial.initializeDispatch o).2 = .ok () ↔
        CanServes o CanDispatcher.buses) ∧
      ((CanDispatcher.initial.initializeDispatch o).1.started = true ↔
        (∃ bus, o.found bus = true) ∧ ∀ bus, CanStartup.Passes o bus) := by
  obtain ⟨hAll, hServes⟩ := startBuses_spec o CanDispatcher.buses (by decide) .initial
  have hEvery : (∀ bus ∈ CanDispatcher.buses, CanStartup.Passes o bus) ↔
      ∀ bus, CanStartup.Passes o bus :=
    ⟨fun h bus => h bus (by cases bus <;> decide), fun h bus _ => h bus⟩
  have hAny : CanDispatcher.buses.any o.found = true ↔ ∃ bus, o.found bus = true := by
    rw [List.any_eq_true]
    exact ⟨fun ⟨bus, _, h⟩ => ⟨bus, h⟩, fun ⟨bus, h⟩ => ⟨bus, by cases bus <;> decide, h⟩⟩
  obtain ⟨canDev, hBuses⟩ := CanStartup.startBuses_eq o CanDispatcher.buses .initial
  rw [hEvery] at hAll
  rw [← hAny, ← hAll, ← hServes]
  have hNot : ¬CanDispatcher.initial.started = true := by decide
  cases hStarted : CanDispatcher.startBuses o CanDispatcher.buses .initial with
  | mk after rc =>
      obtain rfl : after = _ := (congrArg Prod.fst hStarted).symm.trans hBuses
      simp only [CanDispatcher.initializeDispatch, if_neg hNot, hStarted]
      cases rc with
      | error rc => exact ⟨Iff.rfl, by simp [CanDispatcher.initial]⟩
      | ok _ =>
          cases CanDispatcher.buses.any o.found with
          | false => exact ⟨by simp [Robot.skipMissing], by simp [CanDispatcher.initial]⟩
          | true => exact ⟨by simp, by simp⟩

theorem initializeUsb_spec (config : BootConfig) (usb : Except Errno Unit) :
    (Robot.skipMissing (UsbSession.initial.initializeSession config.hasUsbNode usb).2 = .ok () ↔
        UsbServes config usb) ∧
      ((UsbSession.initial.initializeSession config.hasUsbNode usb).1.started = true ↔
        config.hasUsbNode = true ∧ usb = .ok ()) := by
  unfold UsbSession.initializeSession UsbServes
  have hNot : ¬UsbSession.initial.started = true := by decide
  rw [if_neg hNot]
  cases config.hasUsbNode with
  | false => simp [Robot.skipMissing, UsbSession.initial]
  | true =>
      cases usb with
      | ok _ => simp [Robot.skipMissing]
      | error rc => simp [skipMissing_eq_ok, UsbSession.initial]

namespace ModuleSystem

variable {Provider F : Type}

/-- `SysStateModule` does not end the boot. -/
def SysStateServes (config : BootConfig) (o : BootOutcomes) : Prop :=
  config.modules .sysState = true → o.sysStateReady = true → o.sysStateCreated = true

instance (config : BootConfig) (o : BootOutcomes) : Decidable (SysStateServes config o) :=
  inferInstanceAs (Decidable (_ → _))

/-- A new system with its modules initialised. -/
structure Initialized (config : BootConfig) (o : BootOutcomes) (s : ModuleSystem Provider F) :
    Prop where
  manager : s.manager = .complete config.modules
  started : ∀ module, s.started module = false
  threads : ∀ module, s.threads module = 0
  ready : config.modules .sysState = true → s.sysStateReady = o.sysStateReady

section Initialising

variable [FloatModel F] [DecidableEq Provider]

/-- The chassis module finds the table of a new service empty. -/
theorem initializeChassis_ok (accepted : ChassisModule.Accepts (ChassisModule.kIntegralLimit : F)
      ChassisModule.kCurrentLimit) (this : Provider) {s : ModuleSystem Provider F}
    (fresh : s.tuning = .initial) : (s.initializeChassis this).2 = .ok () := by
  have hRoom : (ChassisTuning.initial : ChassisTuning Provider).HasRoom this :=
    .inr (by decide : 0 < kMaxProviders)
  have hInitialize := (s.chassis.initializeAt_spec this s.tuning).1 (fresh ▸ hRoom)
  simp only [initializeChassis, hInitialize]
  simp [ChassisModule.setSpeedPidTuning_accepted _ accepted]

theorem initializeModule_other (this : Provider) (ready : Bool) (s : ModuleSystem Provider F)
    {module : BuiltInModule} (other : module ≠ .chassis) :
    (s.initializeModule this ready module).1.tuning = s.tuning ∧
      (s.initializeModule this ready module).2 = .ok () ∧
      (s.initializeModule this ready module).1.sysStateReady =
        if module = .sysState then ready else s.sysStateReady := by
  cases module with
  | chassis => exact absurd rfl other
  | _ => exact ⟨rfl, rfl, rfl⟩

/-- `Initialize` of every module succeeds on a new system. -/
theorem initializeEach_ok (accepted : ChassisModule.Accepts (ChassisModule.kIntegralLimit : F)
      ChassisModule.kCurrentLimit) (this : Provider) (ready : Bool) {s : ModuleSystem Provider F}
    {modules : List BuiltInModule} (distinct : modules.Nodup)
    (fresh : .chassis ∈ modules → s.tuning = .initial) :
    (s.initializeEach this ready modules).2 = .ok () ∧
      (s.initializeEach this ready modules).1.sysStateReady =
        if .sysState ∈ modules then ready else s.sysStateReady := by
  induction modules generalizing s with
  | nil => exact ⟨rfl, rfl⟩
  | cons first rest ih =>
      obtain ⟨hNew, hRest⟩ := List.nodup_cons.mp distinct
      have hFirst : (s.initializeModule this ready first).2 = .ok () ∧
          (.chassis ∈ rest → (s.initializeModule this ready first).1.tuning = .initial) ∧
          (s.initializeModule this ready first).1.sysStateReady =
            if first = .sysState then ready else s.sysStateReady := by
        by_cases hChassis : first = .chassis
        · subst hChassis
          exact ⟨initializeChassis_ok accepted this (fresh List.mem_cons_self),
            fun h => absurd h hNew, rfl⟩
        · obtain ⟨hTuning, hOk, hReady⟩ := s.initializeModule_other this ready hChassis
          exact ⟨hOk, fun h => hTuning.trans (fresh (List.mem_cons_of_mem _ h)), hReady⟩
      obtain ⟨hOk, hTuning, hReady⟩ := hFirst
      rcases hModule : s.initializeModule this ready first with ⟨next, rc⟩
      rw [hModule] at hOk hTuning hReady
      obtain rfl : rc = .ok () := hOk
      obtain ⟨hLater, hSys⟩ := ih hRest hTuning
      simp only [initializeEach, hModule]
      refine ⟨hLater, hSys.trans ?_⟩
      by_cases hMem : BuiltInModule.sysState ∈ rest
      · simp [hMem]
      · rw [if_neg hMem]
        refine hReady.trans ?_
        by_cases hSelf : first = .sysState
        · simp [hSelf]
        · have hAbsent : BuiltInModule.sysState ∉ first :: rest := by simp [hMem, Ne.symm hSelf]
          rw [if_neg hSelf, if_neg hAbsent]

theorem initializeModules_initial (accepted : ChassisModule.Accepts
      (ChassisModule.kIntegralLimit : F) ChassisModule.kCurrentLimit) (config : BootConfig)
    (o : BootOutcomes) (this : Provider) :
    ((initial Provider F).initializeModules config.modules this o.sysStateReady).2 = .ok () ∧
      Initialized config o
        ((initial Provider F).initializeModules config.modules this o.sysStateReady).1 := by
  have hFresh : (initial Provider F).manager = .initial ∨
      (initial Provider F).manager = .complete config.modules := .inl rfl
  obtain ⟨hManager, hThreads, hStarted, _⟩ := initializeModules_spec this o.sysStateReady hFresh
  have hRegister : (initial Provider F).manager.registerBuiltInModules config.modules = _ :=
    ModuleManager.registerBuiltInModules_complete (.inl rfl)
  have hInitialize : (initial Provider F).initializeModules config.modules this o.sysStateReady =
      initializeEach this o.sysStateReady
        { initial Provider F with manager := .complete config.modules }
        (ModuleManager.complete config.modules).modules := by
    simp only [initializeModules, hRegister]
    rfl
  have hDistinct : (ModuleManager.complete config.modules).modules.Nodup :=
    List.Nodup.filter _ (by decide)
  obtain ⟨hOk, hReady⟩ := initializeEach_ok accepted this o.sysStateReady
    (s := { initial Provider F with manager := .complete config.modules }) hDistinct fun _ => rfl
  rw [← hInitialize] at hOk hReady
  refine ⟨hOk, hManager, fun module => ?_, fun module => congrFun hThreads module,
    fun hEnabled => ?_⟩
  · exact Bool.eq_false_iff.mpr fun hOn => absurd (hStarted module hOn) Bool.false_ne_true
  · have hMem : BuiltInModule.sysState ∈ (ModuleManager.complete config.modules).modules :=
      List.mem_filter.mpr ⟨List.mem_cons_self, hEnabled⟩
    rw [hReady, if_pos hMem]

end Initialising

/-- The modules that `Start` leaves running. -/
def Runs (config : BootConfig) (o : BootOutcomes) (module : BuiltInModule) : Prop :=
  config.modules module = true ∧ (module = .sysState → o.sysStateReady = true)

theorem mem_others {enabled : BuiltInModule → Bool} {module : BuiltInModule} :
    module ∈ BuiltInModule.others.filter enabled ↔ enabled module = true ∧ module ≠ .sysState := by
  rw [List.mem_filter, and_comm]
  exact and_congr_right fun _ => by cases module <;> decide

/-- The six modules are started on a system on which none of them runs. -/
theorem startEach_others_spec (config : BootConfig) (created : Bool) {s : ModuleSystem Provider F}
    (stopped : ∀ module, module ≠ .sysState → s.started module = false ∧ s.threads module = 0) :
    (s.startEach created (BuiltInModule.others.filter config.modules)).2 = .ok () ∧
      (∀ module, (s.startEach created (BuiltInModule.others.filter config.modules)).1.started
          module = true ↔
        if module = .sysState then s.started .sysState = true else config.modules module = true) ∧
      (∀ module, module ≠ .sysState →
        (s.startEach created (BuiltInModule.others.filter config.modules)).1.threads module =
          if (s.startEach created (BuiltInModule.others.filter config.modules)).1.started module
          then 1 else 0) ∧
      (s.startEach created (BuiltInModule.others.filter config.modules)).1.threads .sysState =
        s.threads .sysState := by
  rw [s.startEach_others created fun _ => ModuleManager.ne_sysState_of_mem]
  refine ⟨rfl, fun module => ?_, fun module hOther => ?_, ?_⟩
  · simp only [startedAll, Bool.or_eq_true, decide_eq_true_eq, mem_others]
    by_cases hSelf : module = .sysState
    · simp [hSelf]
    · simp [hSelf, (stopped module hSelf).1]
  · simp [startedAll, stopped module hOther]
  · have hNot : BuiltInModule.sysState ∉ BuiltInModule.others := by decide
    simp [startedAll, hNot]

/-- `Start` of the initialised modules: all of them run, or `SysStateModule` gets no thread and
the others are not tried. -/
theorem startModules_initialized {config : BootConfig} {o : BootOutcomes}
    {s : ModuleSystem Provider F} (ready : Initialized config o s) :
    ((s.startModules o.sysStateCreated).2 = .ok () ↔ SysStateServes config o) ∧
      (∀ module, (s.startModules o.sysStateCreated).1.started module = true ↔
        SysStateServes config o ∧ Runs config o module) ∧
      ∀ module, (module = .sysState → SysStateServes config o) →
        (s.startModules o.sysStateCreated).1.threads module =
          if (s.startModules o.sysStateCreated).1.started module then 1 else 0 := by
  have hStopped : ∀ module, module ≠ .sysState → s.started module = false ∧ s.threads module = 0 :=
    fun module _ => ⟨ready.started module, ready.threads module⟩
  have hRuns (module : BuiltInModule) (hOther : module ≠ .sysState) :
      Runs config o module ↔ config.modules module = true := by simp [Runs, hOther]
  rw [startModules, ready.manager]
  cases hEnabled : config.modules .sysState with
  | false =>
      have hModules : (ModuleManager.complete config.modules).modules =
          BuiltInModule.others.filter config.modules :=
        List.filter_cons_of_neg (by simp [hEnabled])
      have hServes : SysStateServes config o := fun h => by simp [hEnabled] at h
      obtain ⟨hOk, hStarted, hThreads, hSysThreads⟩ :=
        startEach_others_spec config o.sysStateCreated hStopped
      rw [hModules]
      refine ⟨iff_of_true hOk hServes, fun module => ?_, fun module _ => ?_⟩
      · rw [hStarted, and_iff_right hServes]
        by_cases hSelf : module = .sysState
        · simp [hSelf, ready.started, Runs, hEnabled]
        · rw [if_neg hSelf, hRuns module hSelf]
      · by_cases hSelf : module = .sysState
        · have hOff := (hStarted .sysState).mp
          rw [if_pos rfl, ready.started] at hOff
          rw [hSelf, hSysThreads, ready.threads, if_neg (fun h => Bool.false_ne_true (hOff h))]
        · exact hThreads module hSelf
  | true =>
      have hModules : (ModuleManager.complete config.modules).modules =
          .sysState :: BuiltInModule.others.filter config.modules :=
        List.filter_cons_of_pos hEnabled
      have hReady := ready.ready hEnabled
      have hSys := ready.started .sysState
      rw [hModules]
      cases hOutputs : o.sysStateReady with
      | false =>
          have hServes : SysStateServes config o := fun _ h => by simp [hOutputs] at h
          have hFirst : s.startModule o.sysStateCreated .sysState = (s, .ok ()) :=
            if_pos ⟨rfl, hReady.trans hOutputs⟩
          obtain ⟨hOk, hStarted, hThreads, hSysThreads⟩ :=
            startEach_others_spec config o.sysStateCreated hStopped
          simp only [startEach, hFirst]
          refine ⟨iff_of_true hOk hServes, fun module => ?_, fun module _ => ?_⟩
          · rw [hStarted, and_iff_right hServes]
            by_cases hSelf : module = .sysState
            · simp [hSelf, hSys, Runs, hOutputs]
            · rw [if_neg hSelf, hRuns module hSelf]
          · by_cases hSelf : module = .sysState
            · have hOff := (hStarted .sysState).mp
              rw [if_pos rfl, hSys] at hOff
              rw [hSelf, hSysThreads, ready.threads, if_neg (fun h => Bool.false_ne_true (hOff h))]
            · exact hThreads module hSelf
      | true =>
          have hOn : s.sysStateReady = true := hReady.trans hOutputs
          cases hCreated : o.sysStateCreated with
          | false =>
              have hServes : ¬SysStateServes config o := fun h => by
                simp [h hEnabled hOutputs] at hCreated
              have hFirst : s.startModule false .sysState =
                  (s.createThread .sysState, .error .enomem) := by
                simp [startModule, hOn, hSys]
              simp only [startEach, hFirst]
              refine ⟨by simp [hServes], fun module => ?_, fun module hSelf => ?_⟩
              · simp [hServes, createThread, ready.started]
              · have hOther : module ≠ .sysState := fun h => hServes (hSelf h)
                simp [createThread, ready.started, ready.threads, hOther]
          | true =>
              have hServes : SysStateServes config o := fun _ _ => hCreated
              have hFirst : s.startModule true .sysState =
                  ({ s.createThread .sysState with
                      started := Function.update s.started .sysState true }, .ok ()) := by
                simp [startModule, hOn, hSys, createThread]
              obtain ⟨hOk, hStarted, hThreads, hSysThreads⟩ := startEach_others_spec config true
                (s := { s.createThread .sysState with
                  started := Function.update s.started .sysState true }) fun module hOther => by
                  simp [createThread, hOther, hStopped module hOther]
              simp only [startEach, hFirst]
              refine ⟨iff_of_true hOk hServes, fun module => ?_, fun module _ => ?_⟩
              · rw [hStarted, and_iff_right hServes]
                by_cases hSelf : module = .sysState
                · simp [hSelf, Runs, hEnabled, hOutputs]
                · rw [if_neg hSelf, hRuns module hSelf]
              · by_cases hSelf : module = .sysState
                · have hOn := (hStarted .sysState).mpr
                  rw [if_pos rfl] at hOn
                  rw [hSelf, hSysThreads, if_pos (hOn (by simp))]
                  simp [createThread, ready.threads]
                · exact hThreads module hSelf

end ModuleSystem

namespace Robot

variable {Volume Provider F : Type}

/-- The stage of the UART dispatcher. -/
theorem initializeUart_stage (config : BootConfig) (o : BootOutcomes) {r : Robot Volume Provider F}
    (new : r.uart.started = false) :
    ∃ uart, (r.initializeUart config o).1 = { r with uart := uart } ∧
      ((r.initializeUart config o).2 = .ok () ↔
        (config.runtimeInitUart = true → UartServes config o.uart)) ∧
      (uart.started = true ↔ config.runtimeInitUart = true ∧
        config.dispatchUartIsConsole = false ∧ UartServes config o.uart) := by
  obtain ⟨hOk, hStarted⟩ := initializeUart_spec config o.uart new
  unfold initializeUart
  cases config.runtimeInitUart with
  | false => exact ⟨r.uart, rfl, by simp, by simp [new]⟩
  | true =>
      exact ⟨(r.uart.initializeDispatch config o.uart).1, rfl, by simpa using hOk,
        by simpa using hStarted⟩

theorem initializeCan_stage (config : BootConfig) (o : BootOutcomes) {r : Robot Volume Provider F}
    (new : r.can = .initial) :
    ∃ can, (r.initializeCan config o).1 = { r with can := can } ∧
      ((r.initializeCan config o).2 = .ok () ↔
        (config.runtimeInitCan = true → CanServes o.can CanDispatcher.buses)) ∧
      (can.started = true ↔ config.runtimeInitCan = true ∧
        (∃ bus, o.can.found bus = true) ∧ ∀ bus, CanStartup.Passes o.can bus) := by
  obtain ⟨hOk, hStarted⟩ := initializeCan_spec o.can
  unfold initializeCan
  rw [new]
  cases config.runtimeInitCan with
  | false => exact ⟨r.can, rfl, by simp, by simp [new, CanDispatcher.initial]⟩
  | true =>
      exact ⟨(CanDispatcher.initial.initializeDispatch o.can).1, rfl, by simpa using hOk,
        by simpa using hStarted⟩

theorem initializeUsb_stage (config : BootConfig) (o : BootOutcomes) {r : Robot Volume Provider F}
    (new : r.usb = .initial) :
    ∃ usb, (r.initializeUsb config o).1 = { r with usb := usb } ∧
      ((r.initializeUsb config o).2 = .ok () ↔
        (config.runtimeInitUsb = true → UsbServes config o.usb)) ∧
      (usb.started = true ↔ config.runtimeInitUsb = true ∧ config.hasUsbNode = true ∧
        o.usb = .ok ()) := by
  obtain ⟨hOk, hStarted⟩ := initializeUsb_spec config o.usb
  unfold initializeUsb
  rw [new]
  cases config.runtimeInitUsb with
  | false => exact ⟨r.usb, rfl, by simp, by simp [new, UsbSession.initial]⟩
  | true =>
      exact ⟨(UsbSession.initial.initializeSession config.hasUsbNode o.usb).1, rfl,
        by simpa using hOk, by simpa using hStarted⟩

theorem initializeStorage_stage (config : BootConfig) (fs : FileSystem Volume) {volume : Volume}
    {r : Robot Volume Provider F} (new : r.littlefs = { volume := volume, mounted := false }) :
    ∃ littlefs, r.initializeStorage config fs = { r with littlefs := littlefs } ∧
      littlefs = if config.runtimeInitLittlefs then
          (LittlefsService.initializeLittlefs fs { volume := volume, mounted := false }).1
        else { volume := volume, mounted := false } := by
  unfold initializeStorage
  cases config.runtimeInitLittlefs with
  | false => exact ⟨r.littlefs, rfl, new⟩
  | true => exact ⟨(r.littlefs.initializeLittlefs fs).1, rfl, by rw [new]; rfl⟩

/-- The drivers of a robot that runs. -/
structure Drivers (config : BootConfig) (fs : FileSystem Volume) (o : BootOutcomes)
    (volume : Volume) (r : Robot Volume Provider F) : Prop where
  uart : r.uart.started = true ↔
    config.runtimeInitUart = true ∧ config.dispatchUartIsConsole = false
  can : r.can.started = true ↔ config.runtimeInitCan = true ∧
    (∃ bus, o.can.found bus = true) ∧ ∀ bus, CanStartup.Passes o.can bus
  usb : r.usb.started = true ↔
    config.runtimeInitUsb = true ∧ config.hasUsbNode = true ∧ o.usb = .ok ()
  littlefs : r.littlefs =
    if config.runtimeInitLittlefs then
      (LittlefsService.initializeLittlefs fs { volume := volume, mounted := false }).1
    else { volume := volume, mounted := false }

/-- The infrastructure leaves the modules and the status alone. -/
theorem initializeInfrastructure_spec (config : BootConfig) (fs : FileSystem Volume)
    (o : BootOutcomes) {volume : Volume} {r : Robot Volume Provider F}
    (uart : r.uart.started = false) (can : r.can = .initial) (usb : r.usb = .initial)
    (littlefs : r.littlefs = { volume := volume, mounted := false }) :
    (r.initializeInfrastructure config fs o).1.modules = r.modules ∧
      (r.initializeInfrastructure config fs o).1.published = r.published ∧
      ((r.initializeInfrastructure config fs o).2 = .ok () ↔ InfrastructureServes config o) ∧
      (InfrastructureServes config o →
        Drivers config fs o volume (r.initializeInfrastructure config fs o).1) := by
  obtain ⟨uart', hUart, hUartOk, hUartStarted⟩ := r.initializeUart_stage config o uart
  rcases hFirst : r.initializeUart config o with ⟨r₁, rc₁⟩
  rw [hFirst] at hUart hUartOk
  obtain rfl : r₁ = { r with uart := uart' } := hUart
  rcases rc₁ with rc | _
  · have hServes : ¬InfrastructureServes config o := fun h => by simpa using hUartOk.mpr h.1
    have hEnds : r.initializeInfrastructure config fs o =
        ({ r with uart := uart' }, .error rc) := by
      simp only [initializeInfrastructure, hFirst]
    rw [hEnds]
    exact ⟨rfl, rfl, by simp [hServes], fun h => absurd h hServes⟩
  obtain ⟨can', hCan, hCanOk, hCanStarted⟩ :=
    initializeCan_stage config o (r := { r with uart := uart' }) can
  rcases hSecond : initializeCan config o { r with uart := uart' } with ⟨r₂, rc₂⟩
  rw [hSecond] at hCan hCanOk
  obtain rfl : r₂ = { r with uart := uart', can := can' } := hCan
  rcases rc₂ with rc | _
  · have hServes : ¬InfrastructureServes config o := fun h => by simpa using hCanOk.mpr h.2.1
    have hEnds : r.initializeInfrastructure config fs o =
        ({ r with uart := uart', can := can' }, .error rc) := by
      simp only [initializeInfrastructure, hFirst, hSecond]
    rw [hEnds]
    exact ⟨rfl, rfl, by simp [hServes], fun h => absurd h hServes⟩
  obtain ⟨usb', hUsb, hUsbOk, hUsbStarted⟩ :=
    initializeUsb_stage config o (r := { r with uart := uart', can := can' }) usb
  rcases hThird : initializeUsb config o { r with uart := uart', can := can' } with ⟨r₃, rc₃⟩
  rw [hThird] at hUsb hUsbOk
  obtain rfl : r₃ = { r with uart := uart', can := can', usb := usb' } := hUsb
  rcases rc₃ with rc | _
  · have hServes : ¬InfrastructureServes config o := fun h => by simpa using hUsbOk.mpr h.2.2
    have hEnds : r.initializeInfrastructure config fs o =
        ({ r with uart := uart', can := can', usb := usb' }, .error rc) := by
      simp only [initializeInfrastructure, hFirst, hSecond, hThird]
    rw [hEnds]
    exact ⟨rfl, rfl, by simp [hServes], fun h => absurd h hServes⟩
  have hServes : InfrastructureServes config o :=
    ⟨hUartOk.mp rfl, hCanOk.mp rfl, hUsbOk.mp rfl⟩
  have hEnds : r.initializeInfrastructure config fs o =
      (initializeStorage config fs { r with uart := uart', can := can', usb := usb' }, .ok ()) := by
    simp only [initializeInfrastructure, hFirst, hSecond, hThird]
  obtain ⟨storage, hStorage, hValue⟩ := initializeStorage_stage config fs
    (r := { r with uart := uart', can := can', usb := usb' }) littlefs
  rw [hEnds, hStorage]
  refine ⟨rfl, rfl, by simp [hServes], fun _ => ⟨?_, hCanStarted, hUsbStarted, hValue⟩⟩
  exact hUartStarted.trans ⟨fun h => ⟨h.1, h.2.1⟩, fun h => ⟨h.1, h.2, hServes.1 h.1⟩⟩

/-- The status messages of a boot. -/
def announced (config : BootConfig) (o : BootOutcomes) : List SystemStatusMessage :=
  let count := UInt32.ofNat (ModuleManager.applicationModules.filter config.modules).length
  ⟨.kBooting, 0⟩ ::
    if InfrastructureServes config o then
      ⟨.kModulesInitialized, count⟩ ::
        if ModuleSystem.SysStateServes config o then [⟨.kRunning, count⟩] else []
    else []

variable [FloatModel F] [DecidableEq Provider]

/-- Whatever the devices say, the status channel tells how far the boot has come. It comes to
the end exactly if no stage fails with an error that counts; then all modules run that have
something to run on, each in the one thread it was given, the others have none, and all
drivers run that found their devices. Before that, no module runs. -/
theorem boot_outcome (accepted : ChassisModule.Accepts (ChassisModule.kIntegralLimit : F)
      ChassisModule.kCurrentLimit) (config : BootConfig) (fs : FileSystem Volume)
    (o : BootOutcomes) (this : Provider) (volume : Volume) :
    ∃ (r : Robot Volume Provider F) (rc : Option Errno),
      (powered volume).boot config fs o this = (r, rc) ∧
        r.published = announced config o ∧
        (rc = none ↔ InfrastructureServes config o ∧ ModuleSystem.SysStateServes config o) ∧
        (∀ module, r.modules.started module = true ↔
          rc = none ∧ ModuleSystem.Runs config o module) ∧
        (∀ module, (module = .sysState → rc = none) →
          r.modules.threads module = if r.modules.started module then 1 else 0) ∧
        (rc = none → Drivers config fs o volume r) := by
  obtain ⟨hModules, hPublished, hOk, hDrivers⟩ := initializeInfrastructure_spec config fs o
    (r := (powered volume : Robot Volume Provider F).publish .kBooting 0) rfl rfl rfl rfl
  rcases hInfra : ((powered volume : Robot Volume Provider F).publish
    .kBooting 0).initializeInfrastructure config fs o with ⟨r₁, rc₁⟩
  rw [hInfra] at hModules hPublished hOk hDrivers
  rcases rc₁ with rc | _
  · have hServes : ¬InfrastructureServes config o := fun h => by simpa using hOk.mpr h
    refine ⟨r₁, some rc, by simp only [boot, hInfra], ?_, by simp [hServes], fun module => ?_,
      fun module _ => ?_, fun h => by cases h⟩
    · rw [announced, if_neg hServes]
      exact hPublished
    · rw [hModules]
      exact iff_of_false Bool.false_ne_true fun h => by cases h.1
    · rw [hModules]
      rfl
  have hServes : InfrastructureServes config o := hOk.mp rfl
  obtain ⟨hInitOk, hReady⟩ := ModuleSystem.initializeModules_initial accepted config o this
  have hNew : r₁.modules = .initial Provider F := hModules
  rcases hInit : (ModuleSystem.initial Provider F).initializeModules config.modules this
    o.sysStateReady with ⟨modules, rc₂⟩
  rw [hInit] at hInitOk hReady
  obtain rfl : rc₂ = .ok () := hInitOk
  obtain ⟨hStartOk, hStarted, hThreads⟩ := ModuleSystem.startModules_initialized hReady
  rcases hStart : modules.startModules o.sysStateCreated with ⟨modules', rc₃⟩
  rw [hStart] at hStartOk hStarted hThreads
  have hManager : modules'.manager = .complete config.modules := by
    have hSame : (modules.startModules o.sysStateCreated).1.manager = modules.manager := by
      rcases ModuleSystem.startModules_spec o.sysStateCreated hReady.manager with
        ⟨_, _, hAll⟩ | ⟨_, hNone⟩
      · exact hAll.manager
      · exact hNone.manager
    rw [hStart] at hSame
    exact hSame.trans hReady.manager
  have hStatus : announced config o = r₁.published ++
      [⟨.kModulesInitialized, UInt32.ofNat modules.manager.modules.length⟩] ++
        if ModuleSystem.SysStateServes config o then
          [⟨.kRunning, UInt32.ofNat modules'.manager.modules.length⟩] else [] := by
    rw [announced, if_pos hServes, hPublished, hReady.manager, hManager]
    rfl
  let r₂ : Robot Volume Provider F := { r₁ with modules := modules }.publish .kModulesInitialized
    (UInt32.ofNat modules.manager.modules.length)
  rcases rc₃ with rc | _
  · have hSys : ¬ModuleSystem.SysStateServes config o := fun h => by simpa using hStartOk.mpr h
    have hBoot : (powered volume).boot config fs o this =
        ({ r₂ with modules := modules' }, some rc) := by
      simp only [boot, hInfra, hNew, hInit, modules_publish, hStart]
      rfl
    rw [if_neg hSys, List.append_nil] at hStatus
    refine ⟨_, _, hBoot, hStatus.symm, by simp [hSys], fun module => ?_, fun module hSelf => ?_,
      fun h => by cases h⟩
    · exact (hStarted module).trans (iff_of_false (fun h => hSys h.1) fun h => by cases h.1)
    · exact hThreads module fun h => nomatch hSelf h
  · have hSys : ModuleSystem.SysStateServes config o := hStartOk.mp rfl
    have hBoot : (powered volume).boot config fs o this =
        ({ r₂ with modules := modules' }.publish .kRunning
          (UInt32.ofNat modules'.manager.modules.length), none) := by
      simp only [boot, hInfra, hNew, hInit, modules_publish, hStart]
      rfl
    obtain ⟨hUart, hCan, hUsb, hLittlefs⟩ := hDrivers hServes
    rw [if_pos hSys] at hStatus
    refine ⟨_, _, hBoot, hStatus.symm, by simp [hServes, hSys], fun module => ?_,
      fun module _ => ?_, fun _ => ⟨hUart, hCan, hUsb, hLittlefs⟩⟩
    · exact (hStarted module).trans (by simp [hSys])
    · exact hThreads module fun _ => hSys

/-- Everything is configured, but the robot has no USB controller. -/
def plainConfig : BootConfig where
  runtimeInitUart := true
  runtimeInitCan := true
  runtimeInitUsb := true
  runtimeInitLittlefs := true
  dispatchUartIsConsole := false
  uartAsyncApi := true
  hasUsbNode := false
  modules _ := true

/-- One bus is there, and an LED for `SysStateModule`. -/
def plainOutcomes : BootOutcomes where
  uart := { deviceIsReady := true, uartCallbackSet := true, uartRxEnable := true }
  can := { found := (· = .kCan1), canStart := fun _ => .ok (), canAddRxFilter := fun _ _ => true }
  usb := .error .eio
  sysStateReady := true
  sysStateCreated := true

theorem boot_outcome_plain :
    ∃ (r : Robot Debug.MemoryVolume Unit ℚ) (rc : Option Errno),
      (powered ⟨none, true⟩).boot plainConfig Debug.memoryFileSystem plainOutcomes () = (r, rc) ∧
        r.published = announced plainConfig plainOutcomes ∧
        (rc = none ↔ InfrastructureServes plainConfig plainOutcomes ∧
          ModuleSystem.SysStateServes plainConfig plainOutcomes) ∧
        (∀ module, r.modules.started module = true ↔
          rc = none ∧ ModuleSystem.Runs plainConfig plainOutcomes module) ∧
        (∀ module, (module = .sysState → rc = none) →
          r.modules.threads module = if r.modules.started module then 1 else 0) ∧
        (rc = none → Drivers plainConfig Debug.memoryFileSystem plainOutcomes ⟨none, true⟩ r) :=
  boot_outcome (by simp [ChassisModule.Accepts, le, ChassisModule.kIntegralLimit,
    ChassisModule.kCurrentLimit]) _ _ _ _ _

/-- The robot comes up without the CAN buses that it does not find, and stops at one that has no
room for a filter. -/
example : InfrastructureServes plainConfig plainOutcomes ∧
    ModuleSystem.SysStateServes plainConfig plainOutcomes ∧
    ¬InfrastructureServes plainConfig
      { plainOutcomes with
        can := { plainOutcomes.can with canAddRxFilter := fun _ _ => false } } := by
  decide

end Robot

end RmTest.Bootstrap
