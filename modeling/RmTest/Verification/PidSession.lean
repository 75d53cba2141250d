import RmTest.Debug.PidSession
import RmTest.Library.Run
import RmTest.Verification.PidPersistence

/-! What a session of `chassis pid` commands can do to the tuning of the chassis modules. -/
namespace RmTest

open Channels Modules Platform Services Algorithms FloatModel

namespace Services.ChassisTuning

variable {Provider : Type}

/-- The count is that of the slots in use, and each of these has a provider. -/
structure Counted (t : ChassisTuning Provider) : Prop where
  count : t.providerCount = t.inUseSlots.length
  provider : ∀ slot ∈ t.inUseSlots, slot.provider.isSome = true

theorem counted_initial : (initial : ChassisTuning Provider).Counted where
  count := rfl
  provider := fun _ h => by cases h

/-- The slots in use count as they did, up to one more and one less. -/
theorem Counted.of_perm {next : ChassisTuning Provider} {slots : List (ProviderSlot Provider)}
    (perm : next.inUseSlots.Perm slots) (count : next.providerCount = slots.length)
    (provider : ∀ slot ∈ slots, slot.provider.isSome = true) : next.Counted where
  count := count.trans perm.length_eq.symm
  provider := fun slot h => provider slot (perm.mem_iff.mp h)

variable [DecidableEq Provider]

theorem counted_registerProvider {t : ChassisTuning Provider} (counted : t.Counted)
    (provider : Option Provider) (name : Option String) (priority : Int) :
    (t.registerProvider provider name priority).1.Counted := by
  rcases provider with _ | provider
  · exact counted
  rcases name with _ | name
  · exact counted
  cases hFind : t.findSlotByProviderLocked provider with
  | some index =>
      obtain ⟨slot, rest, hPerm, hInUse, hProvider, hGet, hSet⟩ := inUseSlots_found hFind
      have hNew := hSet { slot with name := some name, priority := priority }
      rw [if_pos hInUse] at hNew
      simp only [registerProvider, hFind, hGet]
      refine Counted.of_perm hNew ?_ ?_
      · exact counted.count.trans hPerm.length_eq
      · intro other hOther
        rcases List.mem_cons.mp hOther with rfl | hRest
        · rw [hProvider]
          rfl
        · exact counted.provider other (hPerm.mem_iff.mpr (List.mem_cons_of_mem _ hRest))
  | none =>
      cases hFree : t.findFreeSlotLocked with
      | none => simpa only [registerProvider, hFind, hFree] using counted
      | some index =>
          have hNew := (inUseSlots_free hFree).2
            ⟨some provider, some name, priority, t.nextOrder, true⟩ rfl
          simp only [registerProvider, hFind, hFree]
          refine Counted.of_perm hNew ?_ ?_
          · exact congrArg (· + 1) counted.count
          · intro other hOther
            rcases List.mem_cons.mp hOther with rfl | hRest
            · rfl
            · exact counted.provider other hRest

theorem counted_unregisterProvider {t : ChassisTuning Provider} (counted : t.Counted)
    (provider : Option Provider) : (t.unregisterProvider provider).1.Counted := by
  rcases provider with _ | provider
  · exact counted
  cases hFind : t.findSlotByProviderLocked provider with
  | none => simpa only [unregisterProvider, hFind] using counted
  | some index =>
      obtain ⟨slot, rest, hPerm, _, _, _, hSet⟩ := inUseSlots_found hFind
      have hCount : t.providerCount = rest.length + 1 := counted.count.trans hPerm.length_eq
      simp only [unregisterProvider, hFind]
      refine Counted.of_perm (hSet 0) ?_ ?_
      · simp [hCount]
      · exact fun other hOther =>
          counted.provider other (hPerm.mem_iff.mpr (List.mem_cons_of_mem _ hOther))

theorem counted_call {t : ChassisTuning Provider} (counted : t.Counted)
    (call : TuningCall Provider) : (t.call call).1.Counted := by
  cases call with
  | registerDefault provider => exact counted_registerProvider counted _ _ _
  | register provider name priority => exact counted_registerProvider counted _ _ _
  | unregister provider => exact counted_unregisterProvider counted _

end Services.ChassisTuning

namespace Modules.ChassisModule

variable {F : Type} [FloatModel F]

/-- The held tuning passes the check, and the four controllers run with it. -/
structure Coherent (m : ChassisModule F) : Prop where
  accepted : Accepts m.pidILimit m.pidOutLimit
  config : ∀ i, (m.wheelSpeedPid.get i).config =
    .basic m.pidKp m.pidKi m.pidKd 0 m.pidILimit m.pidOutLimit (lit (1 / 1000))

theorem coherent_of_accepted (m : ChassisModule F) (kp ki kd : F) {iLimit outLimit : F}
    (accepted : Accepts iLimit outLimit) :
    (m.setSpeedPidTuning kp ki kd iLimit outLimit).1.Coherent := by
  rw [setSpeedPidTuning_accepted m accepted]
  refine ⟨accepted, fun i => ?_⟩
  rw [Cells.get_map]
  rfl

theorem coherent_setSpeedPidTuning {m : ChassisModule F} (coherent : m.Coherent)
    (kp ki kd iLimit outLimit : F) : (m.setSpeedPidTuning kp ki kd iLimit outLimit).1.Coherent := by
  by_cases hAccepted : Accepts iLimit outLimit
  · exact m.coherent_of_accepted kp ki kd hAccepted
  · rw [setSpeedPidTuning_rejected m kp ki kd hAccepted]
    exact coherent

/-- What neither changes the tuning nor configures a controller. -/
theorem Coherent.of_eq {m next : ChassisModule F} (coherent : m.Coherent)
    (tuning : next.getSpeedPidTuning = m.getSpeedPidTuning)
    (config : ∀ i, (next.wheelSpeedPid.get i).config = (m.wheelSpeedPid.get i).config) :
    next.Coherent := by
  obtain ⟨hKp, hKi, hKd, hILimit, hOutLimit⟩ := SpeedPidTuning.mk.inj tuning
  refine ⟨?_, fun i => ?_⟩
  · rw [hILimit, hOutLimit]
    exact coherent.accepted
  · rw [config i, coherent.config i, hKp, hKi, hKd, hILimit, hOutLimit]

theorem config_resetSpeedPidIntegrator (m : ChassisModule F) (i : Fin 4) :
    (m.resetSpeedPidIntegrator.wheelSpeedPid.get i).config = (m.wheelSpeedPid.get i).config := by
  rw [resetSpeedPidIntegrator, Cells.get_map]
  rfl

theorem coherent_initialized {m : ChassisModule F} (coherent : m.Coherent) :
    m.initialized.Coherent := by
  have hZeroed : Coherent { m with state := 0, publishSequence := 0, idleTicks := 0 } :=
    coherent.of_eq rfl fun _ => rfl
  exact coherent_setSpeedPidTuning hZeroed _ _ _ _ _

theorem tuning_runLoopTick (m : ChassisModule F) (port : CanPort)
    (frames : List CanRawFrameMessage) (command : Option (ChassisCommandMessage F)) :
    (m.runLoopTick port frames command).1.getSpeedPidTuning = m.getSpeedPidTuning := by
  have hDecode := decodeCanFramesInQueue_keeps getSpeedPidTuning (fun _ _ _ => rfl) m frames
  have hTick : (m.runLoopTick port frames command).1.getSpeedPidTuning =
      (m.receive frames command).getSpeedPidTuning := rfl
  rw [hTick, ← hDecode]
  cases command with
  | some command => rfl
  | none =>
      simp only [receive]
      split_ifs <;> rfl

theorem config_runLoopTick (m : ChassisModule F) (port : CanPort)
    (frames : List CanRawFrameMessage) (command : Option (ChassisCommandMessage F)) (i : Fin 4) :
    ((m.runLoopTick port frames command).1.wheelSpeedPid.get i).config =
      (m.wheelSpeedPid.get i).config := by
  have hReceive : ((m.receive frames command).wheelSpeedPid.get i).config =
      (m.wheelSpeedPid.get i).config := by
    by_cases hResets : m.WatchdogResets command
    · rw [(m.wheelSpeedPid_receive frames command).1 hResets, Cells.get_map]
      rfl
    · rw [(m.wheelSpeedPid_receive frames command).2 hResets]
  have hStep := congrArg Prod.fst ((m.receive frames command).wheelCurrents_get i)
  rw [(m.runLoopTick_receive port frames command).1, ← hReceive]
  dsimp only at hStep
  rw [hStep]
  split_ifs
  · exact Pid.config_update _ _ _
  · rfl

end Modules.ChassisModule

namespace Debug

variable {Volume Provider F : Type} [DecidableEq Provider] [FloatBits F] (fs : FileSystem Volume)

/-- A tuning goes to the selected provider, if that accepts it. -/
def offered (w : ShellSystem Volume Provider (ChassisModule F)) (tuning : SpeedPidTuning F) :
    Option (Provider × SpeedPidTuning F) :=
  if ChassisModule.Accepts tuning.iLimit tuning.outLimit then
    w.service.selectProvider.map (·, tuning)
  else none

def defaultTuning : SpeedPidTuning F where
  kp := ChassisModule.kPidKp
  ki := ChassisModule.kPidKi
  kd := ChassisModule.kPidKd
  iLimit := ChassisModule.kIntegralLimit
  outLimit := ChassisModule.kCurrentLimit

/-- The tuning that a command is about. -/
def asked (w : ShellSystem Volume Provider (ChassisModule F)) :
    PidEvent Provider F → Except Errno (SpeedPidTuning F)
  | .set [_, kp, ki, kd, iLimit, outLimit] => parseTuningArgs kp ki kd iLimit outLimit
  | .load => (loadText fs w).2.bind parsePid
  | _ => .error .einval

/-- The provider to which an event gives a tuning, and this tuning. -/
def tuned (w : ShellSystem Volume Provider (ChassisModule F)) (event : PidEvent Provider F) :
    Option (Provider × SpeedPidTuning F) :=
  match event with
  | .initializeChassis provider =>
      if w.service.HasRoom provider ∧
          ChassisModule.Accepts (ChassisModule.kIntegralLimit : F) ChassisModule.kCurrentLimit then
        some (provider, defaultTuning)
      else none
  | event =>
      match asked fs w event with
      | .error _ => none
      | .ok tuning => offered w tuning

/-- What a provider holds after it. -/
def heldAfter (order : Option (Provider × SpeedPidTuning F)) (provider : Provider)
    (held : SpeedPidTuning F) : SpeedPidTuning F :=
  match order with
  | some (target, tuning) => if target = provider then tuning else held
  | none => held

/-- A command or call that brings a tuning. -/
def PidEvent.Brings : PidEvent Provider F → Prop
  | .set _ => True
  | .load => True
  | .initializeChassis _ => True
  | _ => False

/-- Exactly the tuning of the event is taken over, of a command or call that brings one
whenever it succeeds. An event that fails leaves every module and the table as they were,
but for `Initialize`, which has by then reset a module's state and maybe its place; with no
slot for the module, it fails and leaves the table. -/
structure Obeys (w : ShellSystem Volume Provider (ChassisModule F)) (event : PidEvent Provider F) :
    Prop where
  tuning : ∀ provider, ((pidStep fs w event).objects provider).getSpeedPidTuning =
    heldAfter (tuned fs w event) provider (w.objects provider).getSpeedPidTuning
  succeeded : event.Brings → (pidEvent fs w event).2 = .ok () → (tuned fs w event).isSome = true
  failed : (∀ provider, event ≠ .initializeChassis provider) →
    ∀ rc, (pidEvent fs w event).2 = .error rc →
      (pidStep fs w event).objects = w.objects ∧ (pidStep fs w event).service = w.service
  refused : ∀ provider, event = .initializeChassis provider → ¬ w.service.HasRoom provider →
    (pidEvent fs w event).2 = .error .enomem ∧ (pidStep fs w event).service = w.service

/-- The tuning that the service passes on. -/
theorem tuning_setSpeedPidTuning (w : ShellSystem Volume Provider (ChassisModule F))
    (tuning : SpeedPidTuning F) (provider : Provider) :
    ((w.service.setSpeedPidTuning w.objects tuning).1 provider).getSpeedPidTuning =
      heldAfter (offered w tuning) provider (w.objects provider).getSpeedPidTuning := by
  unfold offered
  cases hSelect : w.service.selectProvider with
  | none =>
      simp only [ChassisTuning.setSpeedPidTuning, hSelect, Option.map_none, ite_self, heldAfter]
  | some target =>
      by_cases hAccepted : ChassisModule.Accepts tuning.iLimit tuning.outLimit
      · have hSet : ((w.service.setSpeedPidTuning w.objects tuning).1 target).getSpeedPidTuning =
            tuning := (setSpeedPidTuning_selected hSelect hAccepted).2
        rw [if_pos hAccepted, Option.map_some, heldAfter]
        split_ifs with hSame
        · rw [← hSame]
          exact hSet
        · simp only [ChassisTuning.setSpeedPidTuning, hSelect,
            Function.update_of_ne (Ne.symm hSame)]
      · have hFailed : (w.service.setSpeedPidTuning w.objects tuning).2 = .error .einval := by
          have hRejected : SpeedPidTuningProvider.setSpeedPidTuning (w.objects target) tuning = _ :=
            (w.objects target).setSpeedPidTuning_rejected tuning.kp tuning.ki tuning.kd hAccepted
          simp only [ChassisTuning.setSpeedPidTuning, hSelect, hRejected]
        rw [if_neg hAccepted, setSpeedPidTuning_failed hFailed]
        rfl

/-- A call that succeeds had a provider to go to, which accepted it. -/
theorem offered_of_ok {w : ShellSystem Volume Provider (ChassisModule F)}
    {tuning : SpeedPidTuning F}
    (ok : (w.service.setSpeedPidTuning w.objects tuning).2 = .ok ()) :
    (offered w tuning).isSome = true := by
  cases hSelect : w.service.selectProvider with
  | none => simp only [ChassisTuning.setSpeedPidTuning, hSelect, reduceCtorEq] at ok
  | some target =>
      by_cases hAccepted : ChassisModule.Accepts tuning.iLimit tuning.outLimit
      · rw [offered, if_pos hAccepted, hSelect]
        rfl
      · have hRejected : SpeedPidTuningProvider.setSpeedPidTuning (w.objects target) tuning = _ :=
          (w.objects target).setSpeedPidTuning_rejected tuning.kp tuning.ki tuning.kd hAccepted
        simp only [ChassisTuning.setSpeedPidTuning, hSelect, hRejected, reduceCtorEq] at ok

theorem coherent_setSpeedPidTuning {w : ShellSystem Volume Provider (ChassisModule F)}
    (coherent : ∀ provider, (w.objects provider).Coherent) (tuning : SpeedPidTuning F)
    (provider : Provider) :
    ((w.service.setSpeedPidTuning w.objects tuning).1 provider).Coherent := by
  cases hSelect : w.service.selectProvider with
  | none => simpa only [ChassisTuning.setSpeedPidTuning, hSelect] using coherent provider
  | some target =>
      simp only [ChassisTuning.setSpeedPidTuning, hSelect]
      by_cases hSame : provider = target
      · subst hSame
        rw [Function.update_self]
        exact ChassisModule.coherent_setSpeedPidTuning (coherent provider) _ _ _ _ _
      · rw [Function.update_of_ne hSame]
        exact coherent provider

/-- What an event comes to: it leaves the modules alone, hands a tuning to the service,
or touches one module. -/
inductive PidEventCases (w : ShellSystem Volume Provider (ChassisModule F))
    (event : PidEvent Provider F) : Prop where
  | calls (call : TuningCall Provider) (called : event = .tuningCall call)
  | keeps (objects : (pidStep fs w event).objects = w.objects)
      (service : (pidStep fs w event).service = w.service)
      (failed : event.Brings → ∃ rc, (pidEvent fs w event).2 = .error rc)
      (none : tuned fs w event = none)
  | sets (tuning : SpeedPidTuning F)
      (objects : (pidStep fs w event).objects = (w.service.setSpeedPidTuning w.objects tuning).1)
      (service : (pidStep fs w event).service = w.service)
      (result : (pidEvent fs w event).2 = (w.service.setSpeedPidTuning w.objects tuning).2)
      (some : tuned fs w event = offered w tuning)
  | runs (target : Provider) (next : ChassisModule F)
      (objects : (pidStep fs w event).objects = Function.update w.objects target next)
      (service : (pidStep fs w event).service = w.service)
      (tuning : next.getSpeedPidTuning = (w.objects target).getSpeedPidTuning)
      (config : ∀ i, (next.wheelSpeedPid.get i).config =
        ((w.objects target).wheelSpeedPid.get i).config)
      (result : (pidEvent fs w event).2 = .ok ()) (quiet : ¬ event.Brings)
      (none : tuned fs w event = none)
  | initializes (target : Provider) (called : event = .initializeChassis target)

theorem set_cases (w : ShellSystem Volume Provider (ChassisModule F)) (argv : List Scan.Text) :
    PidEventCases fs w (.set argv) := by
  have hOther (short : asked fs w (.set argv) = .error .einval)
      (same : cmdPidSet F argv w = (w, .error .einval)) : PidEventCases fs w (.set argv) := by
    refine .keeps ?_ ?_ (fun _ => ⟨_, congrArg Prod.snd same⟩) (by simp only [tuned, short])
    · exact congrArg (fun result => result.1.objects) same
    · exact congrArg (fun result => result.1.service) same
  match argv with
  | [name, kp, ki, kd, iLimit, outLimit] =>
      cases hArgs : (parseTuningArgs kp ki kd iLimit outLimit :
          Except Errno (SpeedPidTuning F)) with
      | error rc =>
          have hSame : cmdPidSet F [name, kp, ki, kd, iLimit, outLimit] w = (w, .error rc) := by
            simp only [cmdPidSet, hArgs]
          refine .keeps ?_ ?_ (fun _ => ⟨rc, congrArg Prod.snd hSame⟩)
            (by simp only [tuned, asked, hArgs])
          · exact congrArg (fun result => result.1.objects) hSame
          · exact congrArg (fun result => result.1.service) hSame
      | ok tuning =>
          have hSet : cmdPidSet F [name, kp, ki, kd, iLimit, outLimit] w =
              ({ w with objects := (w.service.setSpeedPidTuning w.objects tuning).1 },
                (w.service.setSpeedPidTuning w.objects tuning).2) := by
            simp only [cmdPidSet, hArgs]
          exact .sets tuning (congrArg (fun result => result.1.objects) hSet)
            (congrArg (fun result => result.1.service) hSet) (congrArg Prod.snd hSet)
            (by simp only [tuned, asked, hArgs])
  | [] => exact hOther rfl rfl
  | [_] => exact hOther rfl rfl
  | [_, _] => exact hOther rfl rfl
  | [_, _, _] => exact hOther rfl rfl
  | [_, _, _, _] => exact hOther rfl rfl
  | [_, _, _, _, _] => exact hOther rfl rfl
  | _ :: _ :: _ :: _ :: _ :: _ :: _ :: _ => exact hOther rfl rfl

theorem load_cases (w : ShellSystem Volume Provider (ChassisModule F)) :
    PidEventCases fs w .load := by
  rcases cmdPidLoad_cases (F := F) fs w with
    ⟨rc, hFailed, hLoad⟩ | ⟨text, values, hText, hParse, hLoad⟩
  · refine .keeps ?_ ?_ (fun _ => ⟨rc, congrArg Prod.snd hLoad⟩) ?_
    · exact congrArg (fun result => result.1.objects) hLoad
    · exact congrArg (fun result => result.1.service) hLoad
    · rcases hFailed with hText | ⟨text, hText, hParse⟩
      · simp only [tuned, asked, hText]
        rfl
      · have hAsked : asked fs w .load = (.error rc : Except Errno (SpeedPidTuning F)) := by
          rw [asked, hText]
          exact hParse
        simp only [tuned, hAsked]
  · have hAsked : asked fs w .load = (.ok values : Except Errno (SpeedPidTuning F)) := by
      rw [asked, hText]
      exact hParse
    exact .sets values (congrArg (fun result => result.1.objects) hLoad)
      (congrArg (fun result => result.1.service) hLoad) (congrArg Prod.snd hLoad)
      (by simp only [tuned, hAsked])

theorem resetI_cases (w : ShellSystem Volume Provider (ChassisModule F)) :
    PidEventCases fs w .resetI := by
  cases hSelect : w.service.selectProvider with
  | none =>
      have hReset : cmdPidResetI F w = (w, .error .eagain) := by
        simp only [cmdPidResetI, ChassisTuning.resetSpeedPidIntegrator, hSelect]
      refine .keeps ?_ ?_ False.elim rfl
      · exact congrArg (fun result => result.1.objects) hReset
      · exact congrArg (fun result => result.1.service) hReset
  | some target =>
      have hReset : cmdPidResetI F w =
          ({ w with
              objects := Function.update w.objects target
                (w.objects target).resetSpeedPidIntegrator }, .ok ()) := by
        simp only [cmdPidResetI, ChassisTuning.resetSpeedPidIntegrator, hSelect]
        rfl
      exact .runs target (w.objects target).resetSpeedPidIntegrator
        (congrArg (fun result => result.1.objects) hReset)
        (congrArg (fun result => result.1.service) hReset) rfl
        (ChassisModule.config_resetSpeedPidIntegrator _) (congrArg Prod.snd hReset) id rfl

theorem save_cases (w : ShellSystem Volume Provider (ChassisModule F)) :
    PidEventCases fs w .save := by
  rcases cmdPidSave_cases (F := F) fs w with ⟨rc, _, hSave⟩ | ⟨_, tuning, _, hSave⟩
  · refine .keeps ?_ ?_ False.elim rfl
    · exact congrArg (fun result => result.1.objects) hSave
    · exact congrArg (fun result => result.1.service) hSave
  · refine .keeps ?_ ?_ False.elim rfl
    · exact congrArg (fun result => result.1.objects) hSave
    · exact congrArg (fun result => result.1.service) hSave

theorem pidEvent_cases (w : ShellSystem Volume Provider (ChassisModule F))
    (event : PidEvent Provider F) : PidEventCases fs w event := by
  cases event with
  | set argv => exact set_cases fs w argv
  | load => exact load_cases fs w
  | resetI => exact resetI_cases fs w
  | save => exact save_cases fs w
  | get => exact .keeps rfl rfl False.elim rfl
  | dump => exact .keeps rfl rfl False.elim rfl
  | status => exact .keeps rfl rfl False.elim rfl
  | tuningCall call => exact .calls call rfl
  | initializeChassis provider => exact .initializes provider rfl
  | tick provider port frames command =>
      exact .runs provider _ rfl rfl (ChassisModule.tuning_runLoopTick _ port frames command)
        (ChassisModule.config_runLoopTick _ port frames command) rfl id rfl

/-- What `Initialize` makes of the module, with room in the table and without. -/
theorem objects_initializeChassis (w : ShellSystem Volume Provider (ChassisModule F))
    (target : Provider) :
    (pidStep fs w (.initializeChassis target)).objects = Function.update w.objects target
      (if w.service.HasRoom target then (w.objects target).initialized
        else { w.objects target with state := 0, publishSequence := 0, idleTicks := 0 }) := by
  obtain ⟨hRoom, hFull⟩ := (w.objects target).initializeAt_spec target w.service
  by_cases hHasRoom : w.service.HasRoom target
  · simp only [pidStep, pidEvent, hRoom hHasRoom, if_pos hHasRoom]
  · simp only [pidStep, pidEvent, hFull hHasRoom, if_neg hHasRoom]

theorem refused_initializeChassis (w : ShellSystem Volume Provider (ChassisModule F))
    {event : PidEvent Provider F} (provider : Provider)
    (initializes : event = .initializeChassis provider) (full : ¬ w.service.HasRoom provider) :
    (pidEvent fs w event).2 = .error .enomem ∧ (pidStep fs w event).service = w.service := by
  subst initializes
  obtain ⟨-, hFull⟩ := (w.objects provider).initializeAt_spec provider w.service
  simp only [pidStep, pidEvent, hFull full, and_self]

/-- `Initialize` gives the module the default tuning if there is room for it and the limits
are accepted, and fails otherwise. -/
theorem obeys_initializeChassis (w : ShellSystem Volume Provider (ChassisModule F))
    (target : Provider) : Obeys fs w (.initializeChassis target) := by
  have hTuned : tuned fs w (.initializeChassis target) =
      if w.service.HasRoom target ∧
          ChassisModule.Accepts (ChassisModule.kIntegralLimit : F) ChassisModule.kCurrentLimit then
        some (target, defaultTuning)
      else none := rfl
  refine ⟨fun provider => ?_, fun _ ok => ?_, fun other => absurd rfl (other target),
    refused_initializeChassis fs w⟩
  · rw [objects_initializeChassis, hTuned]
    by_cases hSame : provider = target
    · subst hSame
      rw [Function.update_self]
      by_cases hRoom : w.service.HasRoom provider
      · by_cases hAccepted :
            ChassisModule.Accepts (ChassisModule.kIntegralLimit : F) ChassisModule.kCurrentLimit
        · rw [if_pos hRoom, if_pos ⟨hRoom, hAccepted⟩, heldAfter, if_pos rfl,
            ChassisModule.initialized, ChassisModule.setSpeedPidTuning_accepted _ hAccepted]
          rfl
        · rw [if_pos hRoom, if_neg (fun h => hAccepted h.2), ChassisModule.initialized,
            ChassisModule.setSpeedPidTuning_rejected _ _ _ _ hAccepted]
          rfl
      · rw [if_neg hRoom, if_neg (fun h => hRoom h.1)]
        rfl
    · rw [Function.update_of_ne hSame]
      split_ifs
      · exact (if_neg (Ne.symm hSame)).symm
      · rfl
  · obtain ⟨hRoom, hFull⟩ := (w.objects target).initializeAt_spec target w.service
    rw [hTuned]
    by_cases hHasRoom : w.service.HasRoom target
    · by_cases hAccepted :
          ChassisModule.Accepts (ChassisModule.kIntegralLimit : F) ChassisModule.kCurrentLimit
      · rw [if_pos ⟨hHasRoom, hAccepted⟩]
        rfl
      · simp only [pidEvent, hRoom hHasRoom,
          ChassisModule.setSpeedPidTuning_rejected _ _ _ _ hAccepted, reduceCtorEq] at ok
    · simp only [pidEvent, hFull hHasRoom, reduceCtorEq] at ok

theorem obeys_event (w : ShellSystem Volume Provider (ChassisModule F))
    (event : PidEvent Provider F) : Obeys fs w event := by
  cases pidEvent_cases fs w event with
  | calls call called =>
      subst called
      exact ⟨fun _ => rfl, False.elim,
        fun _ rc failed => ⟨rfl, w.service.call_error call failed⟩, refused_initializeChassis fs w⟩
  | keeps objects service fails none =>
      refine ⟨fun provider => ?_, fun brings ok => ?_, fun _ rc failed => ⟨objects, service⟩,
        refused_initializeChassis fs w⟩
      · rw [objects, none]
        rfl
      · obtain ⟨rc, hFailed⟩ := fails brings
        cases hFailed.symm.trans ok
  | sets tuning objects service result some =>
      refine ⟨fun provider => ?_, fun _ ok => ?_, fun _ rc failed => ⟨?_, service⟩,
        refused_initializeChassis fs w⟩
      · rw [objects, some]
        exact tuning_setSpeedPidTuning w tuning provider
      · rw [some]
        exact offered_of_ok (result.symm.trans ok)
      · rw [objects]
        exact setSpeedPidTuning_failed (result.symm.trans failed)
  | runs target next objects service tuning config result quiet none =>
      refine ⟨fun provider => ?_, fun brings => absurd brings quiet, fun _ rc failed => ?_,
        refused_initializeChassis fs w⟩
      · rw [objects, none]
        by_cases hSame : provider = target
        · subst hSame
          rw [Function.update_self]
          exact tuning
        · rw [Function.update_of_ne hSame]
          rfl
      · cases failed.symm.trans result
  | initializes target called =>
      subst called
      exact obeys_initializeChassis fs w target

theorem coherent_event {w : ShellSystem Volume Provider (ChassisModule F)}
    (coherent : ∀ provider, (w.objects provider).Coherent) (event : PidEvent Provider F)
    (provider : Provider) : ((pidStep fs w event).objects provider).Coherent := by
  have hUpdated {target : Provider} {next : ChassisModule F} (hNext : next.Coherent) :
      (Function.update w.objects target next provider).Coherent := by
    by_cases hSame : provider = target
    · subst hSame
      rwa [Function.update_self]
    · rw [Function.update_of_ne hSame]
      exact coherent provider
  cases pidEvent_cases fs w event with
  | calls call called =>
      subst called
      exact coherent provider
  | keeps objects =>
      rw [objects]
      exact coherent provider
  | sets tuning objects =>
      rw [objects]
      exact coherent_setSpeedPidTuning coherent tuning provider
  | runs target next objects service tuning config =>
      rw [objects]
      exact hUpdated ((coherent target).of_eq tuning config)
  | initializes target called =>
      subst called
      rw [objects_initializeChassis]
      split_ifs
      · exact hUpdated (ChassisModule.coherent_initialized (coherent target))
      · exact hUpdated ((coherent target).of_eq rfl fun _ => rfl)

/-- `CmdPidStatus` speaks of the provider to which the next command goes, under the name
and the priority that it is registered with, and counts the registered providers. -/
def StatusTells (w : ShellSystem Volume Provider (ChassisModule F)) : Prop :=
  (cmdPidStatus w = .ok .notReady ∧ w.service.selectProvider = none ∧ w.service.providers = [] ∧
      w.service.providerCount = 0) ∨
    ∃ provider, w.service.selectProvider = some provider ∧
      ∃ slot ∈ w.service.inUseSlots, slot.provider = some provider ∧
        cmdPidStatus w = .ok (.ready slot.name slot.priority w.service.providers.length)

omit [DecidableEq Provider] [FloatBits F] in
theorem statusTells_of_counted {w : ShellSystem Volume Provider (ChassisModule F)}
    (counted : w.service.Counted) : StatusTells w := by
  have hCount : w.service.providerCount = w.service.providers.length := by
    rw [counted.count, ChassisTuning.providers, List.length_map]
  cases hActive : w.service.findActiveSlotLocked with
  | none =>
      have hNone : w.service.inUseSlots = [] := by
        rw [ChassisTuning.findActiveSlotLocked_eq_best] at hActive
        refine not_not.mp fun hSome => ?_
        have hBest : (SlotTable.best ChassisTuning.outranks w.service.inUseSlots).isSome :=
          (SlotTable.best_isSome _).mpr hSome
        rw [hActive] at hBest
        cases hBest
      have hProviders : w.service.providers = [] := by rw [ChassisTuning.providers, hNone]; rfl
      refine .inl ⟨?_, ?_, hProviders, ?_⟩
      · simp [cmdPidStatus, ChassisTuning.getProviderStatus, hActive]
      · simp [ChassisTuning.selectProvider, hActive]
      · rw [hCount, hProviders]
        rfl
  | some active =>
      have hMem : active ∈ w.service.inUseSlots := by
        rw [ChassisTuning.findActiveSlotLocked_eq_best] at hActive
        exact SlotTable.best_mem hActive
      obtain ⟨provider, hProvider⟩ := Option.isSome_iff_exists.mp (counted.provider active hMem)
      refine .inr ⟨provider, ?_, active, hMem, hProvider, ?_⟩
      · simp [ChassisTuning.selectProvider, hActive, hProvider]
      · simp [cmdPidStatus, ChassisTuning.getProviderStatus, hActive, hCount]

theorem counted_event {w : ShellSystem Volume Provider (ChassisModule F)}
    (counted : w.service.Counted) (event : PidEvent Provider F) :
    (pidStep fs w event).service.Counted := by
  cases pidEvent_cases fs w event with
  | calls call called =>
      subst called
      exact ChassisTuning.counted_call counted call
  | keeps _ service => rwa [service]
  | sets _ _ service => rwa [service]
  | runs _ _ _ service => rwa [service]
  | initializes target called =>
      subst called
      obtain ⟨hRoom, hFull⟩ := (w.objects target).initializeAt_spec target w.service
      by_cases hHasRoom : w.service.HasRoom target
      · simp only [pidStep, pidEvent, hRoom hHasRoom]
        exact ChassisTuning.counted_registerProvider
          (ChassisTuning.counted_unregisterProvider counted _) _ _ _
      · simpa only [pidStep, pidEvent, hFull hHasRoom] using counted

/-- A module that has been given a tuning, on an empty volume. -/
def plainSystem : ShellSystem MemoryVolume Unit (ChassisModule Single) :=
  { pidSystem plainTuning ⟨none, true⟩ with
    objects _ := ((ChassisModule.zeroed Single).setSpeedPidTuning plainTuning.kp plainTuning.ki
      plainTuning.kd plainTuning.iLimit plainTuning.outLimit).1 }

end Debug

end RmTest
