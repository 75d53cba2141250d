import RmTest.Modules.Chassis

/-! The module manager, which registers the built-in modules, and initialises and
starts them in the order of registration. Of a module only what decides whether its
thread is created is kept. -/
namespace RmTest.Bootstrap

open Channels Modules Services

inductive BuiltInModule where
  | sysState
  | remoteInput
  | chassis
  | arm
  | gimbal
  | gantry
  | referee
  deriving DecidableEq

/-- `modules_` and `module_count_` as one list. -/
structure ModuleManager where
  modules : List BuiltInModule
  builtinsRegistered : Bool

namespace ModuleManager

def kMaxModules : Nat := 16

def initial : ModuleManager where
  modules := []
  builtinsRegistered := false

def register (manager : ModuleManager) (module : BuiltInModule) :
    ModuleManager × Except Errno Unit :=
  if kMaxModules ≤ manager.modules.length then (manager, .error .enomem)
  else ({ manager with modules := manager.modules ++ [module] }, .ok ())

/-- The modules in the order in which `RegisterApplicationModules` comes to them. -/
def applicationModules : List BuiltInModule :=
  [.sysState, .remoteInput, .chassis, .arm, .gimbal, .gantry, .referee]

/-- The calls of `RegisterApplicationModules`, of which the first that fails is the last. -/
def registerEnabled (enabled : BuiltInModule → Bool) (manager : ModuleManager) :
    List BuiltInModule → ModuleManager × Except Errno Unit
  | [] => (manager, .ok ())
  | module :: rest =>
      if enabled module then
        match manager.register module with
        | (manager, .error rc) => (manager, .error rc)
        | (manager, .ok ()) => registerEnabled enabled manager rest
      else registerEnabled enabled manager rest

/-- `enabled` says which modules the configuration has. -/
def registerApplicationModules (enabled : BuiltInModule → Bool) (manager : ModuleManager) :
    ModuleManager × Except Errno Unit :=
  manager.registerEnabled enabled applicationModules

def registerBuiltInModules (enabled : BuiltInModule → Bool) (manager : ModuleManager) :
    ModuleManager :=
  if manager.builtinsRegistered then manager
  else
    match manager.registerApplicationModules enabled with
    | (manager, .error _) => manager
    | (manager, .ok ()) => { manager with builtinsRegistered := true }

end ModuleManager

/-- The manager and the modules. -/
structure ModuleSystem (Provider F : Type) where
  manager : ModuleManager
  /-- `started_` of each module. -/
  started : BuiltInModule → Bool
  /-- `ready_` of `SysStateModule`. -/
  sysStateReady : Bool
  /-- How often the thread of each module was created. -/
  threads : BuiltInModule → Nat
  /-- The tuning service, with which the chassis module registers. -/
  tuning : ChassisTuning Provider
  chassis : ChassisModule F

namespace ModuleSystem

open FloatModel

variable {Provider F : Type} [FloatModel F] [DecidableEq Provider]

/-- Before the first call. -/
def initial (Provider F : Type) [FloatModel F] : ModuleSystem Provider F where
  manager := .initial
  started _ := false
  sysStateReady := false
  threads _ := 0
  tuning := .initial
  chassis := .zeroed F

/-- `ChassisModule::Initialize`, with the module at the address `this`. -/
def initializeChassis (this : Provider) (s : ModuleSystem Provider F) :
    ModuleSystem Provider F × Except Errno Unit :=
  let (tuning, chassis, rc) := s.chassis.initializeAt this s.tuning
  ({ s with
      tuning := tuning
      chassis := chassis
      started := Function.update s.started .chassis false },
    rc)

/-- `Initialize` of a module. `ready` is what `SysStateModule` finds of its outputs. -/
def initializeModule (this : Provider) (ready : Bool) (s : ModuleSystem Provider F) :
    BuiltInModule → ModuleSystem Provider F × Except Errno Unit
  | .sysState =>
      ({ s with started := Function.update s.started .sysState false, sysStateReady := ready },
        .ok ())
  | .chassis => s.initializeChassis this
  | module => ({ s with started := Function.update s.started module false }, .ok ())

/-- The loop of `ModuleManager::Initialize`. -/
def initializeEach (this : Provider) (ready : Bool) (s : ModuleSystem Provider F) :
    List BuiltInModule → ModuleSystem Provider F × Except Errno Unit
  | [] => (s, .ok ())
  | module :: rest =>
      match s.initializeModule this ready module with
      | (s, .error rc) => (s, .error rc)
      | (s, .ok ()) => initializeEach this ready s rest

/-- `ModuleManager::Initialize`. -/
def initializeModules (enabled : BuiltInModule → Bool) (this : Provider) (ready : Bool)
    (s : ModuleSystem Provider F) : ModuleSystem Provider F × Except Errno Unit :=
  let s := { s with manager := s.manager.registerBuiltInModules enabled }
  if !s.manager.builtinsRegistered then (s, .error .eio)
  else s.initializeEach this ready s.manager.modules

omit [FloatModel F] [DecidableEq Provider] in
/-- `StartMemberThread` with the thread object and the stack of a module. -/
def createThread (s : ModuleSystem Provider F) (module : BuiltInModule) : ModuleSystem Provider F :=
  { s with threads := Function.update s.threads module (s.threads module + 1) }

omit [FloatModel F] [DecidableEq Provider] in
/-- `Start` of a module. `created` is false if `SysStateModule` gets a null pointer for
its thread; the others do not look at it. -/
def startModule (created : Bool) (s : ModuleSystem Provider F) (module : BuiltInModule) :
    ModuleSystem Provider F × Except Errno Unit :=
  if module = .sysState ∧ s.sysStateReady = false then (s, .ok ())
  else if s.started module then (s, .ok ())
  else
    let s := s.createThread module
    if module = .sysState ∧ created = false then (s, .error .enomem)
    else ({ s with started := Function.update s.started module true }, .ok ())

omit [FloatModel F] [DecidableEq Provider] in
/-- The loop of `ModuleManager::Start`. -/
def startEach (created : Bool) (s : ModuleSystem Provider F) :
    List BuiltInModule → ModuleSystem Provider F × Except Errno Unit
  | [] => (s, .ok ())
  | module :: rest =>
      match s.startModule created module with
      | (s, .error rc) => (s, .error rc)
      | (s, .ok ()) => startEach created s rest

omit [FloatModel F] [DecidableEq Provider] in
/-- `ModuleManager::Start`. -/
def startModules (created : Bool) (s : ModuleSystem Provider F) :
    ModuleSystem Provider F × Except Errno Unit :=
  s.startEach created s.manager.modules

end ModuleSystem

/-- A call of the manager, or a call of the tuning service by someone else. -/
inductive ManagerEvent (Provider : Type) where
  | initializeModules (ready : Bool)
  | startModules (created : Bool)
  | tuningCall (call : TuningCall Provider)

namespace ModuleSystem

variable {Provider F : Type} [FloatModel F] [DecidableEq Provider]

def step (enabled : BuiltInModule → Bool) (this : Provider) (s : ModuleSystem Provider F) :
    ManagerEvent Provider → ModuleSystem Provider F
  | .initializeModules ready => (s.initializeModules enabled this ready).1
  | .startModules created => (s.startModules created).1
  | .tuningCall call => { s with tuning := (s.tuning.call call).1 }

end ModuleSystem

end RmTest.Bootstrap
