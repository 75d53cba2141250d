import Mathlib.Data.List.Induction
import Mathlib.Data.List.Nodup
import Mathlib.Data.List.Perm.Basic
import RmTest.Library.Run
import RmTest.Services.ChassisTuning

/-! The table of tuning providers against a registry that says what it is for: the
registered providers in order of age. -/
namespace RmTest.Services

open Channels

variable {Provider : Type}

structure Registration (Provider : Type) where
  provider : Provider
  name : String
  priority : Int

/-- The registered providers, the oldest first, and how many registrations of a
provider that was not registered there have been. -/
structure Registry (Provider : Type) where
  entries : List (Registration Provider)
  registrations : Nat

namespace Registry

def empty : Registry Provider := ⟨[], 0⟩

/-- No registration is older and has the same or a higher priority, and none is newer
and has a higher one. -/
def IsActive (r : Registry Provider) (registration : Registration Provider) : Prop :=
  ∃ older newer, r.entries = older ++ registration :: newer ∧
    (∀ other ∈ older, other.priority < registration.priority) ∧
    ∀ other ∈ newer, other.priority ≤ registration.priority

/-- There is one active registration at most. -/
theorem IsActive.unique {r : Registry Provider} {a b : Registration Provider}
    (active : r.IsActive a) (active' : r.IsActive b) : a = b := by
  obtain ⟨older, newer, hEntries, hOlder, hNewer⟩ := active
  obtain ⟨older', newer', hEntries', hOlder', hNewer'⟩ := active'
  rw [hEntries] at hEntries'
  -- one of the two is older, unless both are the same entry
  rcases List.append_eq_append_iff.mp hEntries' with ⟨between, rfl, hNext⟩ | ⟨between, rfl, hNext⟩
  · cases between with
    | nil => exact (List.cons.inj hNext).1
    | cons first rest =>
        obtain ⟨rfl, rfl⟩ := List.cons.inj hNext
        have hLow := hOlder' a (List.mem_append_right _ List.mem_cons_self)
        have hHigh := hNewer b (List.mem_append_right _ List.mem_cons_self)
        exact absurd hHigh (Int.not_le.mpr hLow)
  · cases between with
    | nil => exact (List.cons.inj hNext).1.symm
    | cons first rest =>
        obtain ⟨rfl, rfl⟩ := List.cons.inj hNext
        have hLow := hOlder b (List.mem_append_right _ List.mem_cons_self)
        have hHigh := hNewer' a (List.mem_append_right _ List.mem_cons_self)
        exact absurd hHigh (Int.not_le.mpr hLow)

variable [DecidableEq Provider]

/-- A registered provider changes its name and priority and keeps its age; another
one becomes the newest, if there is room. -/
def register (r : Registry Provider) (provider : Provider) (name : String) (priority : Int) :
    Registry Provider :=
  if r.entries.any (fun entry => decide (entry.provider = provider)) then
    { r with
      entries := r.entries.map fun entry =>
        if entry.provider = provider then ⟨provider, name, priority⟩ else entry }
  else if r.entries.length < kMaxProviders then
    ⟨r.entries ++ [⟨provider, name, priority⟩], r.registrations + 1⟩
  else r

def unregister (r : Registry Provider) (provider : Provider) : Registry Provider :=
  { r with entries := r.entries.filter fun entry => decide (entry.provider ≠ provider) }

def call (r : Registry Provider) : TuningCall Provider → Registry Provider
  | .registerDefault (some provider) => r.register provider "provider" 0
  | .register (some provider) (some name) priority => r.register provider name priority
  | .unregister (some provider) => r.unregister provider
  | _ => r

end Registry

namespace ChassisTuning

/-- The slot that holds a registration of the given age. -/
def slotOf (aged : Registration Provider × UInt32) : ProviderSlot Provider where
  provider := some aged.1.provider
  name := some aged.1.name
  priority := aged.1.priority
  order := aged.2
  inUse := true

/-- The slots in use hold the registrations, in whatever places, with order numbers
that grow from the oldest to the newest. -/
structure Represents (t : ChassisTuning Provider) (r : Registry Provider)
    (aged : List (Registration Provider × UInt32)) : Prop where
  entries : r.entries = aged.map (·.1)
  slots : t.inUseSlots.Perm (aged.map slotOf)
  older : aged.Pairwise fun a b => a.2 < b.2
  next : ∀ a ∈ aged, a.2 < t.nextOrder
  nextOrder : t.nextOrder.toNat = r.registrations + 1
  distinct : (aged.map (·.1.provider)).Nodup
  count : t.providerCount = aged.length

theorem represents_initial : (initial : ChassisTuning Provider).Represents .empty [] where
  entries := rfl
  slots := List.Perm.refl _
  older := List.Pairwise.nil
  next := fun _ h => absurd h List.not_mem_nil
  nextOrder := rfl
  distinct := List.nodup_nil
  count := rfl

section Represents

variable {t : ChassisTuning Provider} {r : Registry Provider}
  {aged : List (Registration Provider × UInt32)}

theorem Represents.length_inUseSlots (represents : t.Represents r aged) :
    t.inUseSlots.length = aged.length := by
  rw [represents.slots.length_eq, List.length_map]

/-- The providers of the slots in use are distinct. -/
theorem Represents.nodup (represents : t.Represents r aged) :
    (t.inUseSlots.map (·.provider)).Nodup := by
  rw [(represents.slots.map _).nodup_iff, List.map_map]
  have hSome : ((·.provider) ∘ slotOf : Registration Provider × UInt32 → Option Provider) =
      some ∘ fun a => a.1.provider := rfl
  rw [hSome, ← List.map_map]
  exact represents.distinct.map fun _ _ hSame => Option.some.inj hSame

variable [DecidableEq Provider]

/-- The registration of a provider that is found, and the slots of the others. -/
theorem Represents.found (represents : t.Represents r aged) {provider : Provider} {index : Nat}
    (found : t.findSlotByProviderLocked provider = some index) :
    ∃ a rest, a ∈ aged ∧ a.1.provider = provider ∧ t.slots.toList.getD index 0 = slotOf a ∧
      t.inUseSlots.Perm (slotOf a :: rest) ∧ (∀ slot ∈ rest, slot.provider ≠ some provider) ∧
      ∀ new : ProviderSlot Provider,
        ((t.slots.setIfInBounds index new).toList.filter (·.inUse)).Perm
          (if new.inUse then new :: rest else rest) := by
  obtain ⟨slot, rest, hPerm, _, hProvider, hGet, hSet⟩ := inUseSlots_found found
  obtain ⟨a, hAged, rfl⟩ := List.mem_map.mp
    (represents.slots.mem_iff.mp (hPerm.mem_iff.mpr List.mem_cons_self))
  have hNodup := (hPerm.map (·.provider)).nodup_iff.mp represents.nodup
  rw [List.map_cons, List.nodup_cons, hProvider] at hNodup
  refine ⟨a, rest, hAged, Option.some.inj hProvider, hGet, hPerm, ?_, hSet⟩
  intro other hOther hSame
  exact hNodup.1 (List.mem_map.mpr ⟨other, hOther, hSame⟩)

theorem Represents.notFound (represents : t.Represents r aged) {provider : Provider}
    (notFound : t.findSlotByProviderLocked provider = none) :
    ∀ a ∈ aged, a.1.provider ≠ provider := by
  intro a hAged hSame
  refine not_registered_of_notFound notFound (List.mem_map.mpr ⟨slotOf a, ?_, congrArg some hSame⟩)
  exact represents.slots.mem_iff.mpr (List.mem_map_of_mem hAged)

/-- The registry knows a provider exactly if the table has it. -/
theorem Represents.any_entries (represents : t.Represents r aged) (provider : Provider) :
    r.entries.any (fun entry => decide (entry.provider = provider)) =
      (t.findSlotByProviderLocked provider).isSome := by
  cases hFind : t.findSlotByProviderLocked provider with
  | none =>
      rw [represents.entries, List.any_map, List.any_eq_false.mpr]
      · rfl
      · intro a hAged
        simpa using represents.notFound hFind a hAged
  | some index =>
      obtain ⟨a, _, hAged, hProvider, _⟩ := represents.found hFind
      rw [represents.entries, List.any_map, List.any_eq_true.mpr]
      · rfl
      · exact ⟨a, hAged, decide_eq_true hProvider⟩

theorem Represents.register_new (represents : t.Represents r aged) {provider : Provider}
    {index : Nat} (absent : t.findSlotByProviderLocked provider = none)
    (free : t.findFreeSlotLocked = some index) (name : String) (priority : Int) :
    r.register provider name priority =
      ⟨r.entries ++ [⟨provider, name, priority⟩], r.registrations + 1⟩ := by
  have hRoom := (inUseSlots_free free).1
  rw [represents.length_inUseSlots] at hRoom
  have hAbsent := represents.any_entries provider
  rw [absent, Option.isSome_none] at hAbsent
  rw [Registry.register, hAbsent, if_neg Bool.false_ne_true,
    if_pos (by rwa [represents.entries, List.length_map])]

/-- A new provider takes a free slot. -/
theorem Represents.insert (represents : t.Represents r aged) {provider : Provider} {index : Nat}
    (absent : t.findSlotByProviderLocked provider = none)
    (free : t.findFreeSlotLocked = some index) (room : r.registrations + 1 < UInt32.size - 1)
    (name : String) (priority : Int) :
    (t.registerProvider (some provider) (some name) priority).1.Represents
      (r.register provider name priority)
      (aged ++ [(⟨provider, name, priority⟩, t.nextOrder)]) := by
  have hOrder : (t.nextOrder + 1).toNat = t.nextOrder.toNat + 1 := by
    have hNext := represents.nextOrder
    rw [UInt32.toNat_add]
    exact Nat.mod_eq_of_lt (show t.nextOrder.toNat + 1 < UInt32.size by omega)
  simp only [registerProvider, absent, free, represents.register_new absent free]
  refine ⟨?_, ?_, ?_, ?_, ?_, ?_, ?_⟩
  · rw [List.map_append, represents.entries, List.map_singleton]
  · rw [List.map_append, List.map_singleton]
    refine ((inUseSlots_free free).2 _ rfl).trans (List.Perm.trans ?_ List.perm_append_comm)
    exact represents.slots.cons _
  · refine List.pairwise_append.mpr ⟨represents.older, List.pairwise_singleton _ _, ?_⟩
    intro a ha b hb
    obtain rfl := List.mem_singleton.mp hb
    exact represents.next a ha
  · intro a ha
    rw [UInt32.lt_iff_toNat_lt, hOrder]
    rcases List.mem_append.mp ha with ha | ha
    · have hOlder := UInt32.lt_iff_toNat_lt.mp (represents.next a ha)
      omega
    · obtain rfl := List.mem_singleton.mp ha
      exact Nat.lt_succ_self _
  · rw [hOrder, represents.nextOrder]
  · rw [List.map_append, List.nodup_append]
    refine ⟨represents.distinct, List.nodup_singleton _, ?_⟩
    intro other hOther new hNew hSame
    obtain ⟨a, hAged, rfl⟩ := List.mem_map.mp hOther
    obtain rfl := List.mem_singleton.mp hNew
    exact represents.notFound absent a hAged hSame
  · rw [represents.count, List.length_append, List.length_singleton]

/-- A call for a provider that has no room changes nothing. -/
theorem Represents.full (represents : t.Represents r aged) {provider : Provider}
    (absent : t.findSlotByProviderLocked provider = none) (full : t.findFreeSlotLocked = none)
    (name : String) (priority : Int) :
    (t.registerProvider (some provider) (some name) priority).1.Represents
      (r.register provider name priority) aged := by
  have hAbsent := represents.any_entries provider
  rw [absent, Option.isSome_none] at hAbsent
  have hFull : ¬ r.entries.length < kMaxProviders := by
    rw [represents.entries, List.length_map, ← represents.length_inUseSlots,
      length_inUseSlots_of_full full]
    exact Nat.lt_irrefl _
  rw [Registry.register, hAbsent, if_neg Bool.false_ne_true, if_neg hFull]
  simpa only [registerProvider, absent, full] using represents

/-- A known provider gets a new name and priority in its slot. -/
theorem Represents.update (represents : t.Represents r aged) {provider : Provider} {index : Nat}
    (found : t.findSlotByProviderLocked provider = some index) (name : String) (priority : Int) :
    (t.registerProvider (some provider) (some name) priority).1.Represents
      (r.register provider name priority)
      (aged.map fun a =>
        (if a.1.provider = provider then ⟨provider, name, priority⟩ else a.1, a.2)) := by
  obtain ⟨a, rest, _, hProvider, hGet, hPerm, hRest, hSet⟩ := represents.found found
  have hRegistry : r.register provider name priority =
      { r with
        entries := r.entries.map fun entry =>
          if entry.provider = provider then ⟨provider, name, priority⟩ else entry } := by
    have hKnown := represents.any_entries provider
    rw [found, Option.isSome_some] at hKnown
    rw [Registry.register, hKnown, if_pos rfl]
  let renamed : ProviderSlot Provider → ProviderSlot Provider := fun slot =>
    if slot.provider = some provider then { slot with name := some name, priority := priority }
    else slot
  have hSlot : renamed (slotOf a) = { slotOf a with name := some name, priority := priority } :=
    if_pos (congrArg some hProvider)
  have hOthers : rest.map renamed = rest := by
    refine (List.map_congr_left fun slot hMem => ?_).trans (List.map_id rest)
    exact if_neg (hRest slot hMem)
  simp only [registerProvider, found, hRegistry, hGet]
  refine ⟨?_, ?_, ?_, ?_, represents.nextOrder, ?_, ?_⟩
  · rw [represents.entries, List.map_map, List.map_map]
    rfl
  · have hRenamed := (hPerm.map renamed).symm.trans (represents.slots.map renamed)
    rw [List.map_cons, hSlot, hOthers, List.map_map] at hRenamed
    refine (hSet _).trans (hRenamed.trans (List.Perm.of_eq ?_))
    rw [List.map_map]
    refine List.map_congr_left fun b _ => ?_
    by_cases hSame : b.1.provider = provider
    · simp [renamed, slotOf, hSame]
    · simp [renamed, slotOf, hSame]
  · exact List.pairwise_map.mpr represents.older
  · intro b hb
    obtain ⟨older, hOlder, rfl⟩ := List.mem_map.mp hb
    exact represents.next older hOlder
  · have hProviders : ∀ b : Registration Provider × UInt32,
        (if b.1.provider = provider then (⟨provider, name, priority⟩ : Registration Provider)
          else b.1).provider = b.1.provider := by
      intro b
      split
      · rename_i hSame
        exact hSame.symm
      · rfl
    rw [List.map_map]
    exact (List.map_congr_left fun b _ => hProviders b) ▸ represents.distinct
  · rw [represents.count, List.length_map]

/-- An unregistered provider leaves the others as they were. -/
theorem Represents.remove (represents : t.Represents r aged) {provider : Provider} {index : Nat}
    (found : t.findSlotByProviderLocked provider = some index) :
    (t.unregisterProvider (some provider)).1.Represents (r.unregister provider)
      (aged.filter fun a => decide (a.1.provider ≠ provider)) := by
  obtain ⟨a, rest, _, hProvider, _, hPerm, hRest, hSet⟩ := represents.found found
  have hFilter : (aged.map slotOf).filter (fun slot => decide (slot.provider ≠ some provider)) =
      (aged.filter fun a => decide (a.1.provider ≠ provider)).map slotOf := by
    rw [List.filter_map]
    refine congrArg (List.map slotOf) (List.filter_congr fun b _ => ?_)
    simp [slotOf]
  have hLeft := (hPerm.symm.trans represents.slots).filter fun slot =>
    decide (slot.provider ≠ some provider)
  rw [List.filter_cons_of_neg (by simp [slotOf, hProvider]), hFilter,
    List.filter_eq_self.mpr fun slot hMem => decide_eq_true (hRest slot hMem)] at hLeft
  simp only [unregisterProvider, found]
  refine ⟨?_, (hSet 0).trans hLeft, ?_, ?_, represents.nextOrder, ?_, ?_⟩
  · rw [Registry.unregister, represents.entries, List.filter_map]
    rfl
  · exact represents.older.filter _
  · exact fun b hb => represents.next b (List.mem_of_mem_filter hb)
  · exact represents.distinct.sublist (List.filter_sublist.map _)
  · have hCount := hLeft.length_eq
    have hAll := hPerm.length_eq
    rw [List.length_map] at hCount
    rw [represents.length_inUseSlots, List.length_cons] at hAll
    simp only [represents.count]
    split <;> omega

theorem Represents.unknown (represents : t.Represents r aged) {provider : Provider}
    (absent : t.findSlotByProviderLocked provider = none) :
    (t.unregisterProvider (some provider)).1.Represents (r.unregister provider) aged := by
  have hEntries : (r.unregister provider).entries = r.entries := by
    refine List.filter_eq_self.mpr fun entry hEntry => decide_eq_true ?_
    rw [represents.entries] at hEntry
    obtain ⟨a, hAged, rfl⟩ := List.mem_map.mp hEntry
    exact represents.notFound absent a hAged
  simp only [unregisterProvider, absent]
  exact { represents with entries := hEntries.trans represents.entries }

theorem Represents.registerProvider (represents : t.Represents r aged) (provider : Provider)
    (name : String) (priority : Int)
    (room : (r.register provider name priority).registrations < UInt32.size - 1) :
    ∃ aged', (t.registerProvider (some provider) (some name) priority).1.Represents
      (r.register provider name priority) aged' := by
  cases hFind : t.findSlotByProviderLocked provider with
  | some index => exact ⟨_, represents.update hFind name priority⟩
  | none =>
      cases hFree : t.findFreeSlotLocked with
      | none => exact ⟨_, represents.full hFind hFree name priority⟩
      | some index =>
          rw [represents.register_new hFind hFree] at room
          exact ⟨_, represents.insert hFind hFree room name priority⟩

/-- A call keeps the table and the registry together. -/
theorem Represents.call (represents : t.Represents r aged) (call : TuningCall Provider)
    (room : (r.call call).registrations < UInt32.size - 1) :
    ∃ aged', (t.call call).1.Represents (r.call call) aged' := by
  cases call with
  | registerDefault provider =>
      cases provider with
      | none => exact ⟨aged, represents⟩
      | some provider => exact represents.registerProvider provider "provider" 0 room
  | register provider name priority =>
      cases provider with
      | none => exact ⟨aged, represents⟩
      | some provider =>
          cases name with
          | none => exact ⟨aged, represents⟩
          | some name => exact represents.registerProvider provider name priority room
  | unregister provider =>
      cases provider with
      | none => exact ⟨aged, represents⟩
      | some provider =>
          cases hFind : t.findSlotByProviderLocked provider with
          | some index => exact ⟨_, represents.remove hFind⟩
          | none => exact ⟨_, represents.unknown hFind⟩

end Represents

section Active

variable {t : ChassisTuning Provider} {r : Registry Provider}
  {aged : List (Registration Provider × UInt32)}

theorem outranks_iff (slot active : ProviderSlot Provider) :
    outranks slot active = true ↔ active.priority < slot.priority ∨
      slot.priority = active.priority ∧ slot.order < active.order := by
  simp [outranks]

theorem outranks_trans (a b c : ProviderSlot Provider) (ab : outranks a b = true)
    (bc : outranks b c = true) : outranks a c = true := by
  rw [outranks_iff] at ab bc ⊢
  rcases ab with hHigher | ⟨hSame, hOlder⟩
  · rcases bc with hHigher' | ⟨hSame', _⟩
    · exact .inl (Int.lt_trans hHigher' hHigher)
    · exact .inl (hSame' ▸ hHigher)
  · rcases bc with hHigher' | ⟨hSame', hOlder'⟩
    · exact .inl (hSame ▸ hHigher')
    · exact .inr ⟨hSame.trans hSame', UInt32.lt_trans hOlder hOlder'⟩

/-- The order numbers tell the registrations apart. -/
theorem Represents.order_injective (represents : t.Represents r aged)
    {a b : Registration Provider × UInt32} (ha : a ∈ aged) (hb : b ∈ aged) (same : a.2 = b.2) :
    a = b := by
  have hNodup : (aged.map (·.2)).Nodup := by
    rw [List.Nodup, List.pairwise_map]
    exact represents.older.imp fun hLess => UInt32.ne_of_lt hLess
  exact List.inj_on_of_nodup_map hNodup ha hb same

theorem Represents.ranks (represents : t.Represents r aged) :
    SlotTable.Ranks outranks t.inUseSlots where
  total := by
    intro slot hSlot slot' hSlot'
    obtain ⟨a, ha, rfl⟩ := List.mem_map.mp (represents.slots.mem_iff.mp hSlot)
    obtain ⟨b, hb, rfl⟩ := List.mem_map.mp (represents.slots.mem_iff.mp hSlot')
    rw [outranks_iff, outranks_iff]
    rcases Int.lt_trichotomy a.1.priority b.1.priority with hLess | hSame | hLess
    · exact .inr (.inr (.inl hLess))
    · by_cases hOrder : a.2 = b.2
      · exact .inl (congrArg slotOf (represents.order_injective ha hb hOrder))
      · rcases UInt32.lt_or_lt_of_ne hOrder with hOlder | hOlder
        · exact .inr (.inl (.inr ⟨hSame, hOlder⟩))
        · exact .inr (.inr (.inr ⟨hSame.symm, hOlder⟩))
    · exact .inr (.inl (.inl hLess))
  trans := outranks_trans

/-- The active slot holds the active registration. -/
theorem Represents.active (represents : t.Represents r aged) {slot : ProviderSlot Provider}
    (found : t.findActiveSlotLocked = some slot) :
    ∃ a, slot = slotOf a ∧ r.IsActive a.1 := by
  rw [findActiveSlotLocked_eq_best] at found
  obtain ⟨a, hAged, rfl⟩ :=
    List.mem_map.mp (represents.slots.mem_iff.mp (SlotTable.best_mem found))
  have hBest := SlotTable.best_spec represents.ranks found
  refine ⟨a, rfl, ?_⟩
  obtain ⟨older, newer, rfl⟩ := List.append_of_mem hAged
  have hPairs := List.pairwise_append.mp represents.older
  have hNewer := (List.pairwise_cons.mp hPairs.2.1).1
  -- no other registration has the same order number, so the scan compared it with `a`
  have hRank {b : Registration Provider × UInt32} (hb : b ∈ older ++ a :: newer)
      (hOrder : b.2 ≠ a.2) :
      b.1.priority < a.1.priority ∨ a.1.priority = b.1.priority ∧ a.2 < b.2 := by
    have hSlot := represents.slots.mem_iff.mpr (List.mem_map_of_mem hb)
    rcases hBest _ hSlot with hSame | hBetter
    · exact absurd (congrArg (·.order) hSame) hOrder
    · exact (outranks_iff _ _).mp hBetter
  refine ⟨older.map (·.1), newer.map (·.1), ?_, ?_, ?_⟩
  · rw [represents.entries, List.map_append, List.map_cons]
  · intro other hOther
    obtain ⟨b, hb, rfl⟩ := List.mem_map.mp hOther
    have hLess : b.2 < a.2 := hPairs.2.2 b hb a List.mem_cons_self
    rcases hRank (List.mem_append_left _ hb) (UInt32.ne_of_lt hLess) with hHigher | ⟨_, hOlder⟩
    · exact hHigher
    · exact absurd hOlder (UInt32.lt_asymm hLess)
  · intro other hOther
    obtain ⟨b, hb, rfl⟩ := List.mem_map.mp hOther
    have hLess : a.2 < b.2 := hNewer b hb
    rcases hRank (List.mem_append_right _ (List.mem_cons_of_mem _ hb)) (UInt32.ne_of_lt hLess).symm
      with hHigher | ⟨hSame, _⟩
    · exact Int.le_of_lt hHigher
    · exact Int.le_of_eq hSame.symm

theorem Represents.active_isSome (represents : t.Represents r aged) :
    t.findActiveSlotLocked.isSome ↔ 0 < t.providerCount := by
  rw [findActiveSlotLocked_eq_best, SlotTable.best_isSome, represents.count,
    ← represents.length_inUseSlots, List.length_pos_iff]

/-- The calls see the active registration of the registry, which exists exactly if
a provider is registered. -/
theorem Represents.calls_active (represents : t.Represents r aged) :
    (∃ registration, r.IsActive registration) ∧ 0 < t.providerCount ∧
      (∀ registration, r.IsActive registration →
        t.selectProvider = some registration.provider ∧
        t.getProviderStatus =
          ⟨.ok (), some registration.name, registration.priority, t.providerCount⟩) ∨
    (∀ registration, ¬ r.IsActive registration) ∧ t.providerCount = 0 ∧
      t.selectProvider = none ∧
      t.getProviderStatus = ⟨.error .enoent, none, 0, 0⟩ := by
  cases hFind : t.findActiveSlotLocked with
  | some slot =>
      obtain ⟨a, rfl, hActive⟩ := represents.active hFind
      refine .inl ⟨⟨a.1, hActive⟩, represents.active_isSome.mp (by rw [hFind]; rfl), ?_⟩
      intro registration hRegistration
      obtain rfl := hActive.unique hRegistration
      rw [selectProvider, getProviderStatus, hFind]
      exact ⟨rfl, rfl⟩
  | none =>
      have hCount : t.providerCount = 0 := by
        have hNot := mt represents.active_isSome.mpr
        rw [hFind] at hNot
        exact Nat.eq_zero_of_not_pos (hNot Bool.false_ne_true)
      refine .inr ⟨?_, hCount, ?_, ?_⟩
      · rintro registration ⟨older, newer, hEntries, _⟩
        have hLength := congrArg List.length (represents.entries.symm.trans hEntries)
        rw [List.length_map, ← represents.count, hCount, List.length_append] at hLength
        exact absurd hLength (by simp)
      · rw [selectProvider, hFind]
        rfl
      · rw [getProviderStatus, hFind, hCount]

end Active

section Runs

variable [DecidableEq Provider]

theorem registrations_le_register (r : Registry Provider) (provider : Provider) (name : String)
    (priority : Int) : r.registrations ≤ (r.register provider name priority).registrations := by
  rw [Registry.register]
  split
  · exact Nat.le_refl _
  · split
    · exact Nat.le_succ _
    · exact Nat.le_refl _

/-- Registrations are counted, never uncounted. -/
theorem registrations_le_call (r : Registry Provider) (call : TuningCall Provider) :
    r.registrations ≤ (r.call call).registrations := by
  rcases call with ⟨_ | provider⟩ | ⟨_ | provider, _ | name, priority⟩ | ⟨_ | provider⟩
  case registerDefault.some => exact registrations_le_register r provider "provider" 0
  case register.some.some => exact registrations_le_register r provider name priority
  all_goals exact Nat.le_refl _

/-- The table after a sequence of calls. -/
def run (calls : List (TuningCall Provider)) : ChassisTuning Provider :=
  calls.foldl (fun t call => (t.call call).1) initial

end Runs

end ChassisTuning

/-- The registry after a sequence of calls. -/
def Registry.run [DecidableEq Provider] (calls : List (TuningCall Provider)) : Registry Provider :=
  calls.foldl Registry.call .empty

namespace ChassisTuning

variable [DecidableEq Provider]

theorem represents_run (calls : List (TuningCall Provider))
    (room : (Registry.run calls).registrations < UInt32.size - 1) :
    ∃ aged, (run calls).Represents (Registry.run calls) aged := by
  induction calls using List.reverseRecOn with
  | nil => exact ⟨[], represents_initial⟩
  | append_singleton calls call ih =>
      rw [Registry.run, List.foldl_append] at room
      obtain ⟨aged, hRepresents⟩ := ih (Nat.lt_of_le_of_lt (registrations_le_call _ call) room)
      rw [run, Registry.run, List.foldl_append, List.foldl_append]
      exact hRepresents.call call room

/-- Over any calls, the table holds each provider once and counts them, the calls see
the oldest of the registrations with the highest priority, and calls that fail change
nothing. -/
theorem registry_correct (calls : List (TuningCall Provider))
    (room : (Registry.run calls).registrations < UInt32.size - 1) :
    ((run calls).inUseSlots.map (·.provider)).Nodup ∧
    (run calls).providerCount = (run calls).inUseSlots.length ∧
    (run calls).providerCount ≤ kMaxProviders ∧
    ((run calls).inUseSlots.map fun slot => (slot.provider, slot.name, slot.priority)).Perm
      ((Registry.run calls).entries.map fun entry =>
        (some entry.provider, some entry.name, entry.priority)) ∧
    ((∃ registration, (Registry.run calls).IsActive registration) ↔
      0 < (run calls).providerCount) ∧
    (∀ registration, (Registry.run calls).IsActive registration →
      (run calls).selectProvider = some registration.provider ∧
      (run calls).getProviderStatus =
        ⟨.ok (), some registration.name, registration.priority, (run calls).providerCount⟩) ∧
    ((run calls).providerCount = 0 →
      (run calls).selectProvider = none ∧
      (run calls).getProviderStatus = ⟨.error .enoent, none, 0, 0⟩) ∧
    ∀ call error, ((run calls).call call).2 = .error error →
      ((run calls).call call).1 = run calls := by
  obtain ⟨aged, hRepresents⟩ := represents_run calls room
  have hCount : (run calls).providerCount = (run calls).inUseSlots.length := by
    rw [hRepresents.count, hRepresents.length_inUseSlots]
  refine ⟨hRepresents.nodup, hCount, hCount ▸ length_inUseSlots_le _, ?_, ?_⟩
  · have hPerm := hRepresents.slots.map fun slot => (slot.provider, slot.name, slot.priority)
    rw [List.map_map] at hPerm
    rw [hRepresents.entries, List.map_map]
    exact hPerm
  · rcases hRepresents.calls_active with ⟨hSome, hPos, hCalls⟩ | ⟨hNone, hZero, hCalls⟩
    · exact ⟨iff_of_true hSome hPos, hCalls, fun hZero => absurd hZero (Nat.ne_of_gt hPos),
        fun call error => call_error _ call⟩
    · exact ⟨iff_of_false (fun ⟨_, h⟩ => hNone _ h) (hZero ▸ Nat.lt_irrefl 0),
        fun registration h => absurd h (hNone registration), fun _ => hCalls,
        fun call error => call_error _ call⟩

/-- Two providers of one priority, of which the older one is renamed. -/
theorem registry_correct_two :
    (Registry.run [.register (some true) (some "arm") 2, .register (some false) (some "wheels") 2,
      .register (some true) (some "chassis") 2]).registrations < UInt32.size - 1 ∧
    (run [.register (some true) (some "arm") 2, .register (some false) (some "wheels") 2,
      .register (some true) (some "chassis") 2]).selectProvider = some true := by
  refine ⟨by decide, ?_⟩
  exact ((registry_correct [.register (some true) (some "arm") 2,
    .register (some false) (some "wheels") 2, .register (some true) (some "chassis") 2]
    (by decide)).2.2.2.2.2.1 ⟨true, "chassis", 2⟩
    ⟨[], [⟨false, "wheels", 2⟩], rfl, fun _ h => absurd h List.not_mem_nil,
      fun other h => by obtain rfl := List.mem_singleton.mp h; exact Int.le_refl 2⟩).1

end ChassisTuning

end RmTest.Services
