import RmTest.Bootstrap.ModuleManager
import RmTest.Platform.CanStartup
import RmTest.Platform.LittlefsService
import RmTest.Platform.UsbSession

/-! From power-on to the running robot: the drivers, then the modules. -/
namespace RmTest.Bootstrap

open Channels Platform

inductive BootPhase where
  | kBooting
  | kModulesInitialized
  | kRunning
  deriving DecidableEq

structure SystemStatusMessage where
  phase : BootPhase
  activeModules : UInt32
  deriving DecidableEq

/-- The thread of the UART dispatcher. -/
structure UartDispatcher where
  started : Bool
  threads : Nat

/-- What the device says during `Initialize`. -/
structure UartOutcomes where
  deviceIsReady : Bool
  uartCallbackSet : Bool
  uartRxEnable : Bool

/-- What the configuration and the device tree decide. -/
structure BootConfig where
  runtimeInitUart : Bool
  runtimeInitCan : Bool
  runtimeInitUsb : Bool
  runtimeInitLittlefs : Bool
  dispatchUartIsConsole : Bool
  uartAsyncApi : Bool
  hasUsbNode : Bool
  modules : BuiltInModule → Bool

/-- What the devices and the kernel say while the robot boots. -/
structure BootOutcomes where
  uart : UartOutcomes
  can : CanOutcomes
  /-- What `usbd_initialize` returns. -/
  usb : Except Errno Unit
  /-- What `SysStateModule` finds of its outputs, and whether it gets a thread. -/
  sysStateReady : Bool
  sysStateCreated : Bool

/-- `Initialize` of the UART dispatcher. -/
def UartDispatcher.initializeDispatch (config : BootConfig) (o : UartOutcomes)
    (d : UartDispatcher) :
    UartDispatcher × Except Errno Unit :=
  if d.started then (d, .ok ())
  else if config.dispatchUartIsConsole then (d, .ok ())
  else if !o.deviceIsReady then (d, .error .enodev)
  else if config.uartAsyncApi && !o.uartCallbackSet then (d, .error .enotsup)
  else if config.uartAsyncApi && !o.uartRxEnable then (d, .error .eio)
  else ({ started := true, threads := d.threads + 1 }, .ok ())

/-- Everything that is started, with what has been published on the status channel. -/
structure Robot (Volume Provider F : Type) where
  uart : UartDispatcher
  can : CanDispatcher
  usb : UsbSession
  littlefs : LittlefsService Volume
  modules : ModuleSystem Provider F
  published : List SystemStatusMessage

namespace Robot

variable {Volume Provider F : Type}

/-- The stage of the UART dispatcher: every error ends the boot. -/
def initializeUart (config : BootConfig) (o : BootOutcomes) (r : Robot Volume Provider F) :
    Robot Volume Provider F × Except Errno Unit :=
  if config.runtimeInitUart then
    let (uart, rc) := r.uart.initializeDispatch config o.uart
    ({ r with uart := uart }, rc)
  else (r, .ok ())

/-- A device that is not there does not end the boot. -/
def skipMissing : Except Errno Unit → Except Errno Unit
  | .ok () => .ok ()
  | .error rc => if rc = .enodev then .ok () else .error rc

def initializeCan (config : BootConfig) (o : BootOutcomes) (r : Robot Volume Provider F) :
    Robot Volume Provider F × Except Errno Unit :=
  if config.runtimeInitCan then
    let (can, rc) := r.can.initializeDispatch o.can
    ({ r with can := can }, skipMissing rc)
  else (r, .ok ())

def initializeUsb (config : BootConfig) (o : BootOutcomes) (r : Robot Volume Provider F) :
    Robot Volume Provider F × Except Errno Unit :=
  if config.runtimeInitUsb then
    let (usb, rc) := r.usb.initializeSession config.hasUsbNode o.usb
    ({ r with usb := usb }, skipMissing rc)
  else (r, .ok ())

/-- The stage of the file system: no error ends the boot. -/
def initializeStorage (config : BootConfig) (fs : FileSystem Volume) (r : Robot Volume Provider F) :
    Robot Volume Provider F :=
  if config.runtimeInitLittlefs then { r with littlefs := (r.littlefs.initializeLittlefs fs).1 }
  else r

def initializeInfrastructure (config : BootConfig) (fs : FileSystem Volume) (o : BootOutcomes)
    (r : Robot Volume Provider F) : Robot Volume Provider F × Except Errno Unit :=
  match r.initializeUart config o with
  | (r, .error rc) => (r, .error rc)
  | (r, .ok ()) =>
      match r.initializeCan config o with
      | (r, .error rc) => (r, .error rc)
      | (r, .ok ()) =>
          match r.initializeUsb config o with
          | (r, .error rc) => (r, .error rc)
          | (r, .ok ()) => (r.initializeStorage config fs, .ok ())

def publish (r : Robot Volume Provider F) (phase : BootPhase) (activeModules : UInt32) :
    Robot Volume Provider F :=
  { r with published := r.published ++ [⟨phase, activeModules⟩] }

@[simp] theorem modules_publish (r : Robot Volume Provider F) (phase : BootPhase)
    (activeModules : UInt32) : (r.publish phase activeModules).modules = r.modules := rfl

/-- `ModuleCount` as the status has it. -/
def moduleCount (r : Robot Volume Provider F) : UInt32 :=
  UInt32.ofNat r.modules.manager.modules.length

variable [FloatModel F] [DecidableEq Provider]

/-- `Bootstrap::Run`, with what it returns if it does. -/
def boot (config : BootConfig) (fs : FileSystem Volume) (o : BootOutcomes) (this : Provider)
    (r : Robot Volume Provider F) : Robot Volume Provider F × Option Errno :=
  match (r.publish .kBooting 0).initializeInfrastructure config fs o with
  | (r, .error rc) => (r, some rc)
  | (r, .ok ()) =>
      match r.modules.initializeModules config.modules this o.sysStateReady with
      | (modules, .error rc) => ({ r with modules := modules }, some rc)
      | (modules, .ok ()) =>
          let r := { r with modules := modules }
          let r := r.publish .kModulesInitialized r.moduleCount
          match r.modules.startModules o.sysStateCreated with
          | (modules, .error rc) => ({ r with modules := modules }, some rc)
          | (modules, .ok ()) =>
              let r := { r with modules := modules }
              -- the loop that follows does nothing
              (r.publish .kRunning r.moduleCount, none)

/-- After power-on. -/
def powered (volume : Volume) : Robot Volume Provider F where
  uart := { started := false, threads := 0 }
  can := .initial
  usb := .initial
  littlefs := { volume := volume, mounted := false }
  modules := .initial Provider F
  published := []

end Robot

end RmTest.Bootstrap
