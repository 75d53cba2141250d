import Mathlib.Logic.Function.Basic
import RmTest.Channels.Messages
import RmTest.Library.SlotTable

/-! The chassis tuning service: a table of tuning providers, of which the one with
the highest priority gets the calls. Providers are pointers to objects of a class with
the three operations; a null pointer is `none`. -/
namespace RmTest.Services

open Channels

/-- The five values of a tuning, in the order of the arguments. -/
structure SpeedPidTuning (F : Type) where
  kp : F
  ki : F
  kd : F
  iLimit : F
  outLimit : F
  deriving DecidableEq

/-- The abstract class of the objects that take a tuning. -/
class SpeedPidTuningProvider (Object : Type) (F : outParam Type) where
  setSpeedPidTuning : Object → SpeedPidTuning F → Object × Except Errno Unit
  getSpeedPidTuning : Object → Except Errno (SpeedPidTuning F)
  resetSpeedPidIntegrator : Object → Object × Except Errno Unit

/-- A cell of `g_slots`. -/
structure ProviderSlot (Provider : Type) where
  provider : Option Provider
  name : Option String
  priority : Int
  order : UInt32
  inUse : Bool

instance {Provider : Type} : Zero (ProviderSlot Provider) := ⟨⟨none, none, 0, 0, false⟩⟩

def kMaxProviders : Nat := 8

/-- The variables of the service, which its mutex guards. -/
structure ChassisTuning (Provider : Type) where
  slots : Vector (ProviderSlot Provider) kMaxProviders
  providerCount : Nat
  nextOrder : UInt32

namespace ChassisTuning

variable {Provider : Type}

/-- Before any call. -/
def initial : ChassisTuning Provider where
  slots := Vector.replicate kMaxProviders 0
  providerCount := 0
  nextOrder := 1

def findSlotByProviderLocked [DecidableEq Provider] (t : ChassisTuning Provider)
    (provider : Provider) : Option Nat :=
  t.slots.toList.findIdx? fun slot => slot.inUse && decide (slot.provider = some provider)

def findFreeSlotLocked (t : ChassisTuning Provider) : Option Nat :=
  t.slots.toList.findIdx? fun slot => !slot.inUse

/-- Whether a slot takes the place of the active one found so far. -/
def outranks (slot active : ProviderSlot Provider) : Bool :=
  decide (slot.priority > active.priority) ||
    (decide (slot.priority = active.priority) && decide (slot.order < active.order))

def findActiveSlotLocked (t : ChassisTuning Provider) : Option (ProviderSlot Provider) :=
  t.slots.toList.foldl
    (fun active slot => if slot.inUse then SlotTable.choose outranks active slot else active) none

def registerProvider [DecidableEq Provider] (t : ChassisTuning Provider)
    (provider : Option Provider)
    (name : Option String) (priority : Int) : ChassisTuning Provider × Except Errno Unit :=
  match provider, name with
  | none, _ => (t, .error .einval)
  | some _, none => (t, .error .einval)
  | some provider, some name =>
      match t.findSlotByProviderLocked provider with
      | none =>
          match t.findFreeSlotLocked with
          | none => (t, .error .enomem)
          | some slot =>
              ({ slots := t.slots.setIfInBounds slot
                  { provider := some provider
                    name := some name
                    priority := priority
                    order := t.nextOrder
                    inUse := true }
                 providerCount := t.providerCount + 1
                 nextOrder := t.nextOrder + 1 },
                .ok ())
      | some slot =>
          ({ t with
              slots := t.slots.setIfInBounds slot
                { t.slots.toList.getD slot 0 with name := some name, priority := priority } },
            .ok ())

/-- `RegisterProvider` without a name and a priority. -/
def registerProviderDefault [DecidableEq Provider] (t : ChassisTuning Provider)
    (provider : Option Provider) :
    ChassisTuning Provider × Except Errno Unit :=
  t.registerProvider provider (some "provider") 0

def unregisterProvider [DecidableEq Provider] (t : ChassisTuning Provider)
    (provider : Option Provider) :
    ChassisTuning Provider × Except Errno Unit :=
  match provider with
  | none => (t, .error .einval)
  | some provider =>
      match t.findSlotByProviderLocked provider with
      | none => (t, .error .enoent)
      | some slot =>
          ({ t with
              slots := t.slots.setIfInBounds slot 0
              providerCount :=
                if t.providerCount > 0 then t.providerCount - 1 else t.providerCount },
            .ok ())

/-- What `GetProviderStatus` returns, and what it writes to its arguments. -/
structure ProviderStatus where
  result : Except Errno Unit
  activeName : Option String
  activePriority : Int
  providerCount : Nat

def getProviderStatus (t : ChassisTuning Provider) : ProviderStatus :=
  match t.findActiveSlotLocked with
  | none =>
      { result := .error .enoent
        activeName := none
        activePriority := 0
        providerCount := t.providerCount }
  | some active =>
      { result := .ok ()
        activeName := active.name
        activePriority := active.priority
        providerCount := t.providerCount }

/-- The part of `SetSpeedPidTuning`, `GetSpeedPidTuning` and
`ResetSpeedPidIntegrator` under the mutex: the provider that the call goes to. -/
def selectProvider (t : ChassisTuning Provider) : Option Provider :=
  t.findActiveSlotLocked.bind (·.provider)

section Calls

variable [DecidableEq Provider] {Object F : Type} [SpeedPidTuningProvider Object F]

def setSpeedPidTuning (t : ChassisTuning Provider) (objects : Provider → Object)
    (tuning : SpeedPidTuning F) : (Provider → Object) × Except Errno Unit :=
  match t.selectProvider with
  | none => (objects, .error .eagain)
  | some provider =>
      let (object, rc) := SpeedPidTuningProvider.setSpeedPidTuning (objects provider) tuning
      (Function.update objects provider object, rc)

omit [DecidableEq Provider] in
def getSpeedPidTuning (t : ChassisTuning Provider) (objects : Provider → Object) :
    Except Errno (SpeedPidTuning F) :=
  match t.selectProvider with
  | none => .error .eagain
  | some provider => SpeedPidTuningProvider.getSpeedPidTuning (objects provider)

def resetSpeedPidIntegrator (t : ChassisTuning Provider) (objects : Provider → Object) :
    (Provider → Object) × Except Errno Unit :=
  match t.selectProvider with
  | none => (objects, .error .eagain)
  | some provider =>
      let (object, rc) := SpeedPidTuningProvider.resetSpeedPidIntegrator (objects provider)
      (Function.update objects provider object, rc)

end Calls

end ChassisTuning

/-- A call that changes the table, with any arguments. -/
inductive TuningCall (Provider : Type) where
  | registerDefault (provider : Option Provider)
  | register (provider : Option Provider) (name : Option String) (priority : Int)
  | unregister (provider : Option Provider)

namespace ChassisTuning

variable {Provider : Type}

def call [DecidableEq Provider] (t : ChassisTuning Provider) :
    TuningCall Provider → ChassisTuning Provider × Except Errno Unit
  | .registerDefault provider => t.registerProviderDefault provider
  | .register provider name priority => t.registerProvider provider name priority
  | .unregister provider => t.unregisterProvider provider

def inUseSlots (t : ChassisTuning Provider) : List (ProviderSlot Provider) :=
  t.slots.toList.filter (·.inUse)

theorem length_inUseSlots_le (t : ChassisTuning Provider) :
    t.inUseSlots.length ≤ kMaxProviders := by
  have hLength := List.length_filter_le (·.inUse) t.slots.toList
  rwa [Vector.length_toList] at hLength

/-- The active slot is the best of those in use. -/
theorem findActiveSlotLocked_eq_best (t : ChassisTuning Provider) :
    t.findActiveSlotLocked = SlotTable.best outranks t.inUseSlots :=
  List.foldl_filter.symm

/-- The providers in the slots in use. -/
def providers (t : ChassisTuning Provider) : List (Option Provider) :=
  t.inUseSlots.map (·.provider)

def Registered (t : ChassisTuning Provider) (provider : Provider) : Prop :=
  some provider ∈ t.providers

/-- Calls go to registered providers. -/
theorem registered_of_selectProvider {t : ChassisTuning Provider} {provider : Provider}
    (selected : t.selectProvider = some provider) : t.Registered provider := by
  obtain ⟨slot, hActive, hProvider⟩ := Option.bind_eq_some_iff.mp selected
  rw [findActiveSlotLocked_eq_best] at hActive
  exact List.mem_map.mpr ⟨slot, SlotTable.best_mem hActive, hProvider⟩

/-- A free slot makes room for one more slot in use. -/
theorem inUseSlots_free {t : ChassisTuning Provider} {index : Nat}
    (free : t.findFreeSlotLocked = some index) :
    t.inUseSlots.length < kMaxProviders ∧
      ∀ new : ProviderSlot Provider, new.inUse = true →
        ((t.slots.setIfInBounds index new).toList.filter (·.inUse)).Perm (new :: t.inUseSlots) := by
  obtain ⟨front, slot, back, hTable, hSlot, _, hSet⟩ := SlotTable.exists_split free
  have hFree : ¬ slot.inUse = true := by simpa using hSlot
  have hInUse : t.inUseSlots = front.filter (·.inUse) ++ back.filter (·.inUse) := by
    rw [inUseSlots, hTable, List.filter_append, List.filter_cons_of_neg hFree]
  refine ⟨?_, ?_⟩
  · have hLength : t.slots.toList.length = kMaxProviders := t.slots.length_toList
    have hFront := List.length_filter_le (·.inUse) front
    have hBack := List.length_filter_le (·.inUse) back
    rw [hTable, List.length_append, List.length_cons] at hLength
    rw [hInUse, List.length_append]
    omega
  · intro new hNew
    rw [Vector.toList_setIfInBounds, hSet, List.filter_append, List.filter_cons_of_pos hNew, hInUse]
    exact List.perm_middle

theorem length_inUseSlots_of_full {t : ChassisTuning Provider}
    (full : t.findFreeSlotLocked = none) : t.inUseSlots.length = kMaxProviders := by
  have hAll : ∀ slot ∈ t.slots.toList, slot.inUse = true := by
    intro slot hSlot
    simpa using List.findIdx?_eq_none_iff.mp full slot hSlot
  rw [inUseSlots, List.filter_eq_self.mpr hAll]
  exact t.slots.length_toList

variable [DecidableEq Provider]

/-- A slot found by its provider is one of those in use, and is replaced among them. -/
theorem inUseSlots_found {t : ChassisTuning Provider} {provider : Provider} {index : Nat}
    (found : t.findSlotByProviderLocked provider = some index) :
    ∃ slot rest, t.inUseSlots.Perm (slot :: rest) ∧ slot.inUse = true ∧
      slot.provider = some provider ∧ t.slots.toList.getD index 0 = slot ∧
      ∀ new : ProviderSlot Provider,
        ((t.slots.setIfInBounds index new).toList.filter (·.inUse)).Perm
          (if new.inUse then new :: rest else rest) := by
  obtain ⟨front, slot, back, hTable, hSlot, hGet, hSet⟩ := SlotTable.exists_split found
  obtain ⟨hInUse, hProvider⟩ := (Bool.and_eq_true _ _).mp hSlot
  refine ⟨slot, front.filter (·.inUse) ++ back.filter (·.inUse), ?_, hInUse,
    of_decide_eq_true hProvider, hGet 0, ?_⟩
  · rw [inUseSlots, hTable, List.filter_append, List.filter_cons_of_pos hInUse]
    exact List.perm_middle
  · intro new
    rw [Vector.toList_setIfInBounds, hSet, List.filter_append, List.filter_cons]
    split
    · exact List.perm_middle
    · exact List.Perm.refl _

theorem not_registered_of_notFound {t : ChassisTuning Provider} {provider : Provider}
    (notFound : t.findSlotByProviderLocked provider = none) : ¬ t.Registered provider := by
  intro registered
  obtain ⟨slot, hSlot, hProvider⟩ := List.mem_map.mp registered
  obtain ⟨hMem, hInUse⟩ := List.mem_filter.mp hSlot
  have hNot := List.findIdx?_eq_none_iff.mp notFound slot hMem
  rw [hInUse, hProvider, decide_eq_true rfl] at hNot
  cases hNot

/-- A successful registration adds the provider if it was not there. -/
theorem providers_registerProvider (t : ChassisTuning Provider) (provider : Provider)
    (name : String) (priority : Int) :
    (t.registerProvider (some provider) (some name) priority).2 = .ok () ∧
        t.Registered provider ∧
        (t.registerProvider (some provider) (some name) priority).1.providers.Perm t.providers ∨
      (t.registerProvider (some provider) (some name) priority).2 = .ok () ∧
        ¬ t.Registered provider ∧
        (t.registerProvider (some provider) (some name) priority).1.providers.Perm
          (some provider :: t.providers) ∨
      t.registerProvider (some provider) (some name) priority = (t, .error .enomem) := by
  cases hFind : t.findSlotByProviderLocked provider with
  | some index =>
      obtain ⟨slot, rest, hPerm, hInUse, hProvider, hGet, hSet⟩ := inUseSlots_found hFind
      have hRegistered : t.Registered provider :=
        List.mem_map.mpr ⟨slot, hPerm.mem_iff.mpr List.mem_cons_self, hProvider⟩
      refine .inl ?_
      simp only [registerProvider, hFind, hGet]
      have hRenamed := (hSet { slot with name := some name, priority := priority }).map (·.provider)
      rw [if_pos (show ({ slot with name := some name, priority := priority } :
        ProviderSlot Provider).inUse = true from hInUse)] at hRenamed
      exact ⟨trivial, hRegistered, hRenamed.trans (hPerm.map (·.provider)).symm⟩
  | none =>
      have hAbsent := not_registered_of_notFound hFind
      cases hFree : t.findFreeSlotLocked with
      | none =>
          refine .inr (.inr ?_)
          simp only [registerProvider, hFind, hFree]
      | some index =>
          refine .inr (.inl ?_)
          have hNew := (inUseSlots_free hFree).2
            ⟨some provider, some name, priority, t.nextOrder, true⟩ rfl
          simp only [registerProvider, hFind, hFree]
          exact ⟨trivial, hAbsent, hNew.map ProviderSlot.provider⟩

/-- A successful unregistration takes the provider out once. -/
theorem providers_unregisterProvider (t : ChassisTuning Provider) (provider : Provider) :
    (t.unregisterProvider (some provider)).2 = .ok () ∧
        t.providers.Perm
          (some provider :: (t.unregisterProvider (some provider)).1.providers) ∨
      t.unregisterProvider (some provider) = (t, .error .enoent) ∧ ¬ t.Registered provider := by
  cases hFind : t.findSlotByProviderLocked provider with
  | some index =>
      obtain ⟨slot, rest, hPerm, _, hProvider, _, hSet⟩ := inUseSlots_found hFind
      refine .inl ?_
      simp only [unregisterProvider, hFind]
      have hBefore := hPerm.map ProviderSlot.provider
      rw [List.map_cons, hProvider] at hBefore
      exact ⟨trivial, hBefore.trans (((hSet 0).map ProviderSlot.provider).symm.cons _)⟩
  | none =>
      refine .inr ⟨?_, not_registered_of_notFound hFind⟩
      simp only [unregisterProvider, hFind]

/-- There is a slot for the provider, its own or a free one. -/
def HasRoom (t : ChassisTuning Provider) (provider : Provider) : Prop :=
  t.Registered provider ∨ t.inUseSlots.length < kMaxProviders

instance (t : ChassisTuning Provider) (provider : Provider) : Decidable (t.HasRoom provider) :=
  inferInstanceAs (Decidable (some provider ∈ t.providers ∨ _))

/-- A provider that is taken out and registered again finds a slot exactly if there was one
for it. -/
theorem reregister_spec (t : ChassisTuning Provider) (provider : Provider) (name : String)
    (priority : Int) :
    ((t.unregisterProvider (some provider)).2 = .ok () ∨
        (t.unregisterProvider (some provider)).2 = .error .enoent) ∧
      (t.HasRoom provider →
        ((t.unregisterProvider (some provider)).1.registerProvider (some provider) (some name)
          priority).2 = .ok ()) ∧
      (¬ t.HasRoom provider →
        (t.unregisterProvider (some provider)).1.registerProvider (some provider) (some name)
          priority = (t, .error .enomem)) := by
  have hRegister (t : ChassisTuning Provider) (room : t.inUseSlots.length < kMaxProviders) :
      (t.registerProvider (some provider) (some name) priority).2 = .ok () := by
    cases hFind : t.findSlotByProviderLocked provider with
    | some index => simp only [registerProvider, hFind]
    | none =>
        cases hFree : t.findFreeSlotLocked with
        | some index => simp only [registerProvider, hFind, hFree]
        | none => exact absurd (length_inUseSlots_of_full hFree) (Nat.ne_of_lt room)
  cases hFind : t.findSlotByProviderLocked provider with
  | some index =>
      obtain ⟨slot, rest, hPerm, _, hProvider, _, hSet⟩ := inUseSlots_found hFind
      have hRegistered : t.Registered provider :=
        List.mem_map.mpr ⟨slot, hPerm.mem_iff.mpr List.mem_cons_self, hProvider⟩
      have hTaken : (t.unregisterProvider (some provider)).1.inUseSlots.Perm rest := by
        simp only [unregisterProvider, hFind]
        exact hSet 0
      have hLength := t.length_inUseSlots_le
      rw [hPerm.length_eq, List.length_cons] at hLength
      refine ⟨.inl (by simp only [unregisterProvider, hFind]), fun _ => ?_, fun full => ?_⟩
      · exact hRegister _ (by rw [hTaken.length_eq]; omega)
      · exact absurd (.inl hRegistered) full
  | none =>
      have hUnknown : t.unregisterProvider (some provider) = (t, .error .enoent) := by
        simp only [unregisterProvider, hFind]
      rw [hUnknown]
      refine ⟨.inr rfl, fun room => ?_, fun full => ?_⟩
      · exact hRegister t (room.resolve_left (not_registered_of_notFound hFind))
      · cases hFree : t.findFreeSlotLocked with
        | none => simp only [registerProvider, hFind, hFree]
        | some index => exact absurd (.inr (inUseSlots_free hFree).1) full

theorem registerProvider_error (t : ChassisTuning Provider) (provider : Option Provider)
    (name : Option String) (priority : Int) {error : Errno}
    (failed : (t.registerProvider provider name priority).2 = .error error) :
    (t.registerProvider provider name priority).1 = t := by
  rcases provider with _ | provider
  · rfl
  · rcases name with _ | name
    · rfl
    · rw [registerProvider] at failed ⊢
      split at failed
      · split at failed
        · rfl
        · cases failed
      · cases failed

theorem unregisterProvider_error (t : ChassisTuning Provider) (provider : Option Provider)
    {error : Errno} (failed : (t.unregisterProvider provider).2 = .error error) :
    (t.unregisterProvider provider).1 = t := by
  rcases provider with _ | provider
  · rfl
  · rw [unregisterProvider] at failed ⊢
    split at failed
    · rfl
    · cases failed

/-- A call that fails changes nothing. -/
theorem call_error (t : ChassisTuning Provider) (call : TuningCall Provider) {error : Errno}
    (failed : (t.call call).2 = .error error) : (t.call call).1 = t := by
  cases call with
  | registerDefault provider => exact t.registerProvider_error _ _ _ failed
  | register provider name priority => exact t.registerProvider_error _ _ _ failed
  | unregister provider => exact t.unregisterProvider_error _ failed

end ChassisTuning

end RmTest.Services
