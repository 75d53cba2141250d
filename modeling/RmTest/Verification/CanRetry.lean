import RmTest.Library.Run
import RmTest.Platform.CanStartup
import Mathlib.Data.List.Nodup

/-! Calls of the CAN initialisation, one after the other, whatever the devices answer. A
call that fails leaves its filters installed. -/
namespace RmTest.Platform

open Channels

/-- The dispatcher, and whether a call of `Initialize` has returned 0. -/
structure CanStartup where
  dispatch : CanDispatcher
  returnedZero : Bool

namespace CanStartup

def initial : CanStartup where
  dispatch := CanDispatcher.initial
  returnedZero := false

def step (s : CanStartup) (o : CanOutcomes) : CanStartup where
  dispatch := (s.dispatch.initializeDispatch o).1
  returnedZero := s.returnedZero || (s.dispatch.initializeDispatch o).2 = .ok ()

/-- The bus and the identifier that an installed filter is for. -/
def key (installed : CanBus × CanFilter) : CanBus × UInt32 := (installed.1, installed.2.id)

/-- What the initialisation shall keep, however often it is tried. -/
structure Sound (s : CanStartup) : Prop where
  filters_once : (s.dispatch.filters.map key).Nodup
  received_once : ∀ bus frame, (s.dispatch.receive bus frame).length ≤ 1
  threads_le : s.dispatch.threads ≤ 1
  threads_iff : s.dispatch.threads = 1 ↔ s.returnedZero = true

/-- The controller of a bus runs after `can_start`. -/
def Starts (o : CanOutcomes) (bus : CanBus) : Prop :=
  o.canStart bus = .ok () ∨ o.canStart bus = .error .ealready

instance (o : CanOutcomes) (bus : CanBus) : Decidable (Starts o bus) :=
  inferInstanceAs (Decidable (_ ∨ _))

/-- The loop over the buses goes on after a bus. -/
def Passes (o : CanOutcomes) (bus : CanBus) : Prop :=
  o.found bus = true → Starts o bus ∧ ∀ filter ∈ defaultFilters, o.canAddRxFilter bus filter = true

/-- A call gets as far as the filters of a bus. -/
def Reaches (o : CanOutcomes) (order : List CanBus) (bus : CanBus) : Prop :=
  (∀ earlier ∈ order.takeWhile (· ≠ bus), Passes o earlier) ∧ o.found bus = true ∧ Starts o bus

/-- The first of the filters that every bus gets. -/
def firstFilter : CanFilter := { id := kDjiId1.toUInt32, mask := kCanStdIdMask }

/-- The filters that a call installs on the buses still to come. -/
def added (o : CanOutcomes) : List CanBus → List (CanBus × CanFilter)
  | [] => []
  | bus :: rest =>
      if o.found bus = false then added o rest
      else if Starts o bus then
        (defaultFilters.takeWhile (o.canAddRxFilter bus)).map (Prod.mk bus) ++
          if defaultFilters.all (o.canAddRxFilter bus) then added o rest else []
      else []

theorem addFilters_eq (o : CanOutcomes) (bus : CanBus) (filters : List CanFilter)
    (d : CanDispatcher) :
    CanDispatcher.addFilters o bus filters d =
      ({ d with
          filters := d.filters ++
            (filters.takeWhile (o.canAddRxFilter bus)).map (Prod.mk bus) },
        if filters.all (o.canAddRxFilter bus) then .ok () else .error .eio) := by
  induction filters generalizing d with
  | nil => simp [CanDispatcher.addFilters]
  | cons filter rest ih =>
      cases hAdd : o.canAddRxFilter bus filter with
      | false => simp [CanDispatcher.addFilters, hAdd]
      | true => simp [CanDispatcher.addFilters, hAdd, ih]

/-- Starting the buses adds filters, and touches nothing but these and the devices. -/
theorem startBuses_eq (o : CanOutcomes) (order : List CanBus) (d : CanDispatcher) :
    ∃ canDev, (CanDispatcher.startBuses o order d).1 =
      { d with canDev := canDev, filters := d.filters ++ added o order } := by
  induction order generalizing d with
  | nil => exact ⟨d.canDev, by simp [CanDispatcher.startBuses, added]⟩
  | cons bus rest ih =>
      cases hFound : o.found bus with
      | false =>
          simp only [CanDispatcher.startBuses, added, hFound]
          exact ih _
      | true =>
          by_cases hStarts : Starts o bus
          · have hNoError : ¬(o.canStart bus ≠ .ok () ∧ o.canStart bus ≠ .error .ealready) :=
              fun h => hStarts.elim h.1 h.2
            simp only [CanDispatcher.startBuses, added, hFound, if_neg hNoError, if_pos hStarts,
              CanDispatcher.addDefaultFilters, addFilters_eq]
            cases hAll : defaultFilters.all (o.canAddRxFilter bus) with
            | false =>
                simp only [Bool.false_eq_true, if_false, List.append_nil]
                exact ⟨_, rfl⟩
            | true =>
                obtain ⟨canDev, hRest⟩ := ih
                  { d with
                    canDev := fun other => if other = bus then true else d.canDev other
                    filters := d.filters ++
                      (defaultFilters.takeWhile (o.canAddRxFilter bus)).map (Prod.mk bus) }
                refine ⟨canDev, ?_⟩
                simp only [List.append_assoc] at hRest
                exact hRest
          · have hError : o.canStart bus ≠ .ok () ∧ o.canStart bus ≠ .error .ealready :=
              not_or.mp hStarts
            simp only [CanDispatcher.startBuses, added, hFound, if_pos hError, if_neg hStarts,
              Bool.not_true, Bool.false_eq_true, Bool.true_eq_false, if_false, List.append_nil]
            exact ⟨_, rfl⟩

theorem initializeDispatch_started {d : CanDispatcher} (started : d.started = true)
    (o : CanOutcomes) : d.initializeDispatch o = (d, .ok ()) := if_pos started

/-- A call that finds the dispatcher not started: filters are added, and the thread is
created exactly if the call returns 0. -/
theorem initializeDispatch_eq {d : CanDispatcher} (notStarted : d.started = false)
    (o : CanOutcomes) :
    (d.initializeDispatch o).1.filters = d.filters ++ added o CanDispatcher.buses ∧
      (((d.initializeDispatch o).2 = .ok () ∧ (d.initializeDispatch o).1.started = true ∧
          (d.initializeDispatch o).1.threads = d.threads + 1) ∨
        ((d.initializeDispatch o).2 ≠ .ok () ∧ (d.initializeDispatch o).1.started = false ∧
          (d.initializeDispatch o).1.threads = d.threads)) := by
  obtain ⟨canDev, hBuses⟩ := startBuses_eq o CanDispatcher.buses d
  have hNot : ¬d.started = true := by simp [notStarted]
  cases hStarted : CanDispatcher.startBuses o CanDispatcher.buses d with
  | mk after rc =>
      obtain rfl : after = _ := (congrArg Prod.fst hStarted).symm.trans hBuses
      simp only [CanDispatcher.initializeDispatch, if_neg hNot, hStarted]
      cases rc with
      | error rc => exact ⟨rfl, .inr ⟨by simp, notStarted, rfl⟩⟩
      | ok _ =>
          cases hAny : CanDispatcher.buses.any o.found with
          | false => exact ⟨rfl, .inr ⟨by simp, notStarted, rfl⟩⟩
          | true => exact ⟨rfl, .inl ⟨rfl, rfl, rfl⟩⟩

theorem ids_nodup : (defaultFilters.map CanFilter.id).Nodup := by
  rw [defaultFilters, List.map_map]
  decide

/-- What a bus gets is some of the default filters, and the first of them with any other. -/
theorem mem_takeWhile {o : CanOutcomes} {bus : CanBus} {filter : CanFilter}
    (member : filter ∈ defaultFilters.takeWhile (o.canAddRxFilter bus)) :
    filter ∈ defaultFilters ∧
      firstFilter ∈ defaultFilters.takeWhile (o.canAddRxFilter bus) := by
  refine ⟨(List.takeWhile_prefix _).subset member, ?_⟩
  have hFirst : defaultFilters = firstFilter :: defaultFilters.tail := rfl
  rw [hFirst, List.takeWhile_cons] at member ⊢
  cases hAdd : o.canAddRxFilter bus firstFilter with
  | false => simp [hAdd] at member
  | true => simp

theorem mem_own {o : CanOutcomes} {other bus : CanBus} {filter : CanFilter}
    (member : (bus, filter) ∈
      (defaultFilters.takeWhile (o.canAddRxFilter other)).map (Prod.mk other)) :
    bus = other ∧ filter ∈ defaultFilters ∧ (bus, firstFilter) ∈
      (defaultFilters.takeWhile (o.canAddRxFilter other)).map (Prod.mk other) := by
  obtain ⟨own, hOwn, hEq⟩ := List.mem_map.mp member
  obtain ⟨rfl, rfl⟩ := Prod.mk.inj hEq
  obtain ⟨hFilter, hFirst⟩ := mem_takeWhile hOwn
  exact ⟨rfl, hFilter, List.mem_map_of_mem hFirst⟩

theorem mem_added {o : CanOutcomes} {order : List CanBus} {bus : CanBus} {filter : CanFilter}
    (member : (bus, filter) ∈ added o order) :
    bus ∈ order ∧ filter ∈ defaultFilters ∧ (bus, firstFilter) ∈ added o order := by
  induction order with
  | nil => cases member
  | cons other rest ih =>
      rw [added] at member ⊢
      split_ifs at member ⊢ with hFound hStarts hAll
      · obtain ⟨hBus, hFilter, hFirst⟩ := ih member
        exact ⟨List.mem_cons_of_mem _ hBus, hFilter, hFirst⟩
      · rcases List.mem_append.mp member with hHere | hRest
        · obtain ⟨rfl, hFilter, hFirst⟩ := mem_own hHere
          exact ⟨List.mem_cons_self, hFilter, List.mem_append_left _ hFirst⟩
        · obtain ⟨hBus, hFilter, hFirst⟩ := ih hRest
          exact ⟨List.mem_cons_of_mem _ hBus, hFilter, List.mem_append_right _ hFirst⟩
      · rw [List.append_nil] at member ⊢
        obtain ⟨rfl, hFilter, hFirst⟩ := mem_own member
        exact ⟨List.mem_cons_self, hFilter, hFirst⟩
      · cases member

/-- A call installs no filter twice. -/
theorem added_nodup (o : CanOutcomes) {order : List CanBus} (distinct : order.Nodup) :
    ((added o order).map key).Nodup := by
  induction order with
  | nil => exact List.nodup_nil
  | cons bus rest ih =>
      obtain ⟨hAbsent, hDistinct⟩ := List.nodup_cons.mp distinct
      have hOwn : (((defaultFilters.takeWhile (o.canAddRxFilter bus)).map
          (Prod.mk bus)).map key).Nodup := by
        have hIds : ((defaultFilters.takeWhile (o.canAddRxFilter bus)).map CanFilter.id).Nodup :=
          ids_nodup.sublist ((List.takeWhile_prefix _).sublist.map _)
        have hKey : ((defaultFilters.takeWhile (o.canAddRxFilter bus)).map (Prod.mk bus)).map key =
            ((defaultFilters.takeWhile (o.canAddRxFilter bus)).map CanFilter.id).map
              (Prod.mk bus) := by
          rw [List.map_map, List.map_map]
          rfl
        rw [hKey]
        exact hIds.map (Prod.mk_right_injective bus)
      rw [added]
      split_ifs
      · exact ih hDistinct
      · rw [List.map_append, List.nodup_append]
        refine ⟨hOwn, ih hDistinct, ?_⟩
        rintro pair hHere pair' hLater rfl
        obtain ⟨installed, hInstalled, rfl⟩ := List.mem_map.mp hHere
        obtain ⟨filter, -, rfl⟩ := List.mem_map.mp hInstalled
        obtain ⟨later, hMember, hKey⟩ := List.mem_map.mp hLater
        have hBus : later.1 = bus := (Prod.mk.inj hKey).1
        exact hAbsent (hBus ▸ (mem_added hMember).1)
      · rwa [List.append_nil]
      · exact List.nodup_nil

theorem firstFilter_mem_takeWhile_iff (o : CanOutcomes) (bus : CanBus) :
    firstFilter ∈ defaultFilters.takeWhile (o.canAddRxFilter bus) ↔
      o.canAddRxFilter bus firstFilter = true := by
  have hFirst : defaultFilters = firstFilter :: defaultFilters.tail := rfl
  rw [hFirst, List.takeWhile_cons]
  constructor
  · intro hMember
    by_contra hAdd
    rw [if_neg hAdd] at hMember
    cases hMember
  · intro hAdd
    rw [if_pos hAdd]
    exact List.mem_cons_self

/-- Only the filters of a bus are for the bus. -/
theorem mem_own_iff (o : CanOutcomes) (bus other : CanBus) :
    (bus, firstFilter) ∈
        (defaultFilters.takeWhile (o.canAddRxFilter other)).map (Prod.mk other) ↔
      bus = other ∧ o.canAddRxFilter bus firstFilter = true := by
  rw [List.mem_map]
  constructor
  · rintro ⟨filter, hFilter, hEq⟩
    obtain ⟨rfl, rfl⟩ := Prod.mk.inj hEq
    exact ⟨rfl, (firstFilter_mem_takeWhile_iff o other).mp hFilter⟩
  · rintro ⟨rfl, hAdd⟩
    exact ⟨firstFilter, (firstFilter_mem_takeWhile_iff o bus).mpr hAdd, rfl⟩

theorem reaches_head (o : CanOutcomes) (bus : CanBus) (rest : List CanBus) :
    Reaches o (bus :: rest) bus ↔ o.found bus = true ∧ Starts o bus := by
  have hNone : (bus :: rest).takeWhile (· ≠ bus) = [] :=
    List.takeWhile_cons_of_neg (by simp)
  rw [Reaches, hNone]
  simp

theorem reaches_tail (o : CanOutcomes) {bus other : CanBus} (differs : other ≠ bus)
    (rest : List CanBus) :
    Reaches o (other :: rest) bus ↔ Passes o other ∧ Reaches o rest bus := by
  have hCons : (other :: rest).takeWhile (· ≠ bus) = other :: rest.takeWhile (· ≠ bus) :=
    List.takeWhile_cons_of_pos (by simpa using differs)
  rw [Reaches, hCons, List.forall_mem_cons, and_assoc]
  rfl

/-- A bus gets its first filter in a call that reaches it and installs it. -/
theorem firstFilter_mem_added_iff (o : CanOutcomes) {order : List CanBus} (distinct : order.Nodup)
    {bus : CanBus} (member : bus ∈ order) :
    (bus, firstFilter) ∈ added o order ↔
      Reaches o order bus ∧ o.canAddRxFilter bus firstFilter = true := by
  induction order with
  | nil => cases member
  | cons other rest ih =>
      obtain ⟨hAbsent, hDistinct⟩ := List.nodup_cons.mp distinct
      by_cases hHere : bus = other
      · subst hHere
        have hLater : (bus, firstFilter) ∉ added o rest := fun h => hAbsent (mem_added h).1
        rw [reaches_head, added]
        split_ifs with hFound hStarts hAll
        · exact iff_of_false hLater (by simp [hFound])
        · rw [List.mem_append, mem_own_iff]
          simp [hLater, hFound, hStarts]
        · rw [List.append_nil, mem_own_iff]
          simp [hFound, hStarts]
        · exact iff_of_false List.not_mem_nil (fun h => hStarts h.1.2)
      · have hRest := ih hDistinct ((List.mem_cons.mp member).resolve_left hHere)
        rw [reaches_tail o (Ne.symm hHere), added]
        split_ifs with hFound hStarts hAll
        · have hPasses : Passes o other := fun h => absurd h (by simp [hFound])
          rw [hRest, and_iff_right hPasses]
        · have hPasses : Passes o other := fun _ => ⟨hStarts, List.all_eq_true.mp hAll⟩
          rw [List.mem_append, mem_own_iff, hRest, and_iff_right hPasses]
          exact or_iff_right fun h => hHere h.1
        · have hStops : ¬Passes o other :=
            fun h => hAll (List.all_eq_true.mpr (h (by simpa using hFound)).2)
          rw [List.append_nil, mem_own_iff]
          exact iff_of_false (fun h => hHere h.1) (fun h => hStops h.1.1)
        · have hStops : ¬Passes o other := fun h => hStarts (h (by simpa using hFound)).1
          exact iff_of_false List.not_mem_nil (fun h => hStops h.1.1)

structure Coherent (s : CanStartup) : Prop where
  from_defaults : ∀ bus filter, (bus, filter) ∈ s.dispatch.filters →
    filter ∈ defaultFilters ∧ (bus, firstFilter) ∈ s.dispatch.filters
  threads_eq : s.dispatch.threads = if s.dispatch.started then 1 else 0
  returned_eq : s.returnedZero = s.dispatch.started

theorem coherent_initial : Coherent initial where
  from_defaults := fun _ _ h => absurd h List.not_mem_nil
  threads_eq := rfl
  returned_eq := rfl

theorem step_started {s : CanStartup} (started : s.dispatch.started = true) (o : CanOutcomes) :
    step s o = ⟨s.dispatch, true⟩ := by
  rw [step, initializeDispatch_started started]
  simp

theorem Coherent.step {s : CanStartup} (coherent : Coherent s) (o : CanOutcomes) :
    Coherent (step s o) := by
  obtain ⟨hFilters, hThreads, hReturned⟩ := coherent
  cases hStarted : s.dispatch.started with
  | true =>
      rw [step_started hStarted]
      exact ⟨hFilters, hThreads, hStarted.symm⟩
  | false =>
      obtain ⟨hAdded, hResult⟩ := initializeDispatch_eq hStarted o
      rw [hStarted] at hThreads hReturned
      have hNone : s.dispatch.threads = 0 := hThreads
      constructor
      · intro bus filter hMember
        simp only [CanStartup.step, hAdded, List.mem_append] at hMember ⊢
        rcases hMember with hOld | hNew
        · exact ⟨(hFilters bus filter hOld).1, .inl (hFilters bus filter hOld).2⟩
        · obtain ⟨-, hFilter, hFirst⟩ := mem_added hNew
          exact ⟨hFilter, .inr hFirst⟩
      · rcases hResult with ⟨-, hStart, hThread⟩ | ⟨-, hStart, hThread⟩
        · simp only [CanStartup.step, hStart, hThread, hNone]
          rfl
        · simp only [CanStartup.step, hStart, hThread, hNone]
          rfl
      · rcases hResult with ⟨hRc, hStart, -⟩ | ⟨hRc, hStart, -⟩
        · simp [CanStartup.step, hRc, hStart]
        · simp [CanStartup.step, hRc, hStart, hReturned]

/-- A default filter accepts no standard frame but those with its identifier. -/
theorem id_of_accepts {filter : CanFilter} (member : filter ∈ defaultFilters) {frame : CanRxFrame}
    (standard : frame.Standard) (accepts : filter.accepts frame = true) : filter.id = frame.id := by
  have hAll : defaultFilters.all
      (fun filter => filter.id.toNat < 2048 && filter.mask == kCanStdIdMask) = true := rfl
  have hFilter := List.all_eq_true.mp hAll filter member
  simp only [Bool.and_eq_true, decide_eq_true_eq, beq_iff_eq] at hFilter
  obtain ⟨hId, hMask⟩ := hFilter
  have hFrame : frame.id.toNat < 2 ^ 11 :=
    Nat.lt_succ_of_le (UInt32.le_iff_toNat_le.mp (frame.id_le standard))
  have hZero : (frame.id ^^^ filter.id) &&& filter.mask = 0 := of_decide_eq_true accepts
  have hNat : (frame.id.toNat ^^^ filter.id.toNat) &&& (2 ^ 11 - 1) = 0 := by
    have hToNat := congrArg UInt32.toNat hZero
    rwa [hMask, UInt32.toNat_and, UInt32.toNat_xor] at hToNat
  rw [Nat.and_two_pow_sub_one_eq_mod, Nat.mod_eq_of_lt (Nat.xor_lt_two_pow hFrame hId)] at hNat
  have hXor : frame.id ^^^ filter.id = 0 := UInt32.toNat_inj.mp ((UInt32.toNat_xor _ _).trans hNat)
  exact (UInt32.xor_eq_zero_iff.mp hXor).symm

/-- With one filter for each bus and identifier a frame comes to the callback once. -/
theorem length_receive_le {d : CanDispatcher} (once : (d.filters.map key).Nodup)
    (defaults : ∀ installed ∈ d.filters, installed.2 ∈ defaultFilters) (bus : CanBus)
    (frame : CanRxFrame) : (d.receive bus frame).length ≤ 1 := by
  by_cases hStandard : frame.Standard
  · have hKeys : ((d.filters.filter fun installed =>
        installed.1 = bus ∧ installed.2.accepts frame).map key) =
        List.replicate (d.filters.filter fun installed =>
          installed.1 = bus ∧ installed.2.accepts frame).length (bus, frame.id) := by
      apply List.eq_replicate_iff.mpr
      refine ⟨List.length_map _, ?_⟩
      rintro pair hPair
      obtain ⟨installed, hMember, rfl⟩ := List.mem_map.mp hPair
      obtain ⟨hInstalled, hAccepts⟩ := List.mem_filter.mp hMember
      obtain ⟨hBus, hAccepts⟩ := of_decide_eq_true hAccepts
      exact Prod.ext hBus (id_of_accepts (defaults installed hInstalled) hStandard hAccepts)
    have hOnce : ((d.filters.filter fun installed =>
        installed.1 = bus ∧ installed.2.accepts frame).map key).Nodup :=
      once.sublist (List.filter_sublist.map key)
    rw [hKeys, List.nodup_replicate] at hOnce
    exact (List.length_filterMap_le _ _).trans hOnce
  · have hNone : d.receive bus frame = [] :=
      List.filterMap_eq_nil_iff.mpr fun _ _ => canRxCallback_extended hStandard
    rw [hNone]
    exact Nat.zero_le 1

/-- One filter for each bus and identifier is all that is needed. -/
theorem Coherent.sound_iff {s : CanStartup} (coherent : Coherent s) :
    Sound s ↔ (s.dispatch.filters.map key).Nodup := by
  obtain ⟨hFilters, hThreads, hReturned⟩ := coherent
  constructor
  · exact Sound.filters_once
  · intro hOnce
    refine ⟨hOnce, length_receive_le hOnce fun installed h => (hFilters _ _ h).1, ?_, ?_⟩
    · rw [hThreads]
      split_ifs <;> decide
    · rw [hThreads, hReturned]
      cases s.dispatch.started <;> simp

/-- Once a call has returned 0 there is nothing to ask for. Before, no call adds a first
filter to a bus that has filters already. -/
def Guard (s : CanStartup) (o : CanOutcomes) : Prop :=
  s.dispatch.started = true ∨
    ∀ bus, (∃ filter, (bus, filter) ∈ s.dispatch.filters) →
      ¬(Reaches o CanDispatcher.buses bus ∧ o.canAddRxFilter bus firstFilter = true)

theorem buses_nodup : CanDispatcher.buses.Nodup := by decide

theorem mem_buses (bus : CanBus) : bus ∈ CanDispatcher.buses := by
  cases bus <;> decide

/-- From a sound state, a call leads to a sound state exactly under the guard. -/
theorem guard_iff_sound_step {s : CanStartup} (coherent : Coherent s) (sound : Sound s)
    (o : CanOutcomes) : Guard s o ↔ Sound (step s o) := by
  cases hStarted : s.dispatch.started with
  | true =>
      have hSame : Sound (step s o) := by
        rw [(coherent.step o).sound_iff, step_started hStarted]
        exact sound.filters_once
      exact iff_of_true (.inl hStarted) hSame
  | false =>
      have hAdded : (step s o).dispatch.filters =
          s.dispatch.filters ++ added o CanDispatcher.buses :=
        (initializeDispatch_eq hStarted o).1
      rw [(coherent.step o).sound_iff, hAdded, List.map_append, List.nodup_append]
      have hReaches (bus : CanBus) := firstFilter_mem_added_iff o buses_nodup (mem_buses bus)
      constructor
      · rintro (hTrue | hFirst)
        · exact absurd hTrue (by simp [hStarted])
        · refine ⟨sound.filters_once, added_nodup o buses_nodup, ?_⟩
          rintro pair hOld pair' hNew rfl
          obtain ⟨⟨bus, filter⟩, hInstalled, rfl⟩ := List.mem_map.mp hOld
          obtain ⟨⟨bus', filter'⟩, hAgain, hKey⟩ := List.mem_map.mp hNew
          obtain rfl : bus' = bus := (Prod.mk.inj hKey).1
          exact hFirst bus' ⟨filter, hInstalled⟩ ((hReaches bus').mp (mem_added hAgain).2.2)
      · rintro ⟨-, -, hApart⟩
        refine .inr ?_
        rintro bus ⟨filter, hOld⟩ hAgain
        have hFirst := (coherent.from_defaults bus filter hOld).2
        exact hApart _ (List.mem_map_of_mem hFirst) _
          (List.mem_map_of_mem ((hReaches bus).mpr hAgain)) rfl

/-- A sequence of calls is sound throughout exactly when no call that can still add filters
adds the first one to a bus that a failed call has left filters on. -/
theorem retried_iff (calls : List CanOutcomes) :
    Run.Along step Guard initial calls ↔ Run.Always step Sound initial calls := by
  have hSound : Sound initial := coherent_initial.sound_iff.mpr List.nodup_nil
  have hKept : ∀ s o, Coherent s → Coherent (step s o) := fun s o coherent => coherent.step o
  have hExact : ∀ s o, Coherent s → Sound s → (Guard s o ↔ Sound (step s o)) :=
    fun s o coherent sound => guard_iff_sound_step coherent sound o
  exact Run.along_iff_always hKept hExact coherent_initial hSound calls

/-- A call in which the second filter of the first bus is refused. -/
def refused : CanOutcomes where
  found bus := bus = .kCan1
  canStart _ := .ok ()
  canAddRxFilter _ filter := filter.id = kDjiId1.toUInt32

/-- The same device, with all filters accepted. -/
def accepted : CanOutcomes where
  found bus := bus = .kCan1
  canStart _ := .error .ealready
  canAddRxFilter _ _ := true

/-- The retry installs the first filter once more. -/
theorem retry_duplicates_filter :
    ([refused, accepted].foldl step initial).dispatch.filters.map key =
        (.kCan1, 0x201) :: (defaultFilters.map fun filter => (.kCan1, filter.id)) ∧
      ¬Run.Always step Sound initial [refused, accepted] := by
  refine ⟨rfl, ?_⟩
  rintro ⟨-, -, hSound⟩
  exact absurd hSound.filters_once (by decide)

end CanStartup

end RmTest.Platform
