import Mathlib.Data.List.Nodup
import Mathlib.Logic.Function.Basic

/-! A channel that holds the value published last gives it to a reader as often as
the reader asks. This is the account of who has taken what: publications and
applied values by identifier, and who has read since the last publication. -/

structure Deliveries (Reader Id : Type) where
  published : List Id
  readSince : Reader → Bool
  applied : Reader → List Id

namespace Deliveries

variable {Reader Id : Type}

def empty : Deliveries Reader Id where
  published := []
  readSince := fun _ => false
  applied := fun _ => []

def publish (d : Deliveries Reader Id) (id : Id) : Deliveries Reader Id :=
  { d with published := id :: d.published, readSince := fun _ => false }

/-- A reader reads, and applies what the channel holds for it, if anything. -/
def read [DecidableEq Reader] (d : Deliveries Reader Id) (reader : Reader) (held : Option Id) :
    Deliveries Reader Id :=
  { d with
    readSince := Function.update d.readSince reader true
    applied := Function.update d.applied reader (d.applied reader ++ held.toList) }

/-- No reader has applied anything twice. -/
def Once (d : Deliveries Reader Id) : Prop := ∀ reader, (d.applied reader).Nodup

theorem once_empty : (empty : Deliveries Reader Id).Once := fun _ => List.nodup_nil

theorem Once.publish {d : Deliveries Reader Id} (once : d.Once) (id : Id) : (d.publish id).Once :=
  once

/-- The account agrees with what the channel holds for each reader: it has been
published, and exactly those that have read it since have applied it. -/
structure Tracks (d : Deliveries Reader Id) (held : Reader → Option Id) : Prop where
  applied_published : ∀ reader, ∀ id ∈ d.applied reader, id ∈ d.published
  held_published : ∀ reader, ∀ id ∈ held reader, id ∈ d.published
  readSince_iff : ∀ reader, ∀ id ∈ held reader, d.readSince reader = true ↔ id ∈ d.applied reader

theorem tracks_empty : (empty : Deliveries Reader Id).Tracks fun _ => none where
  applied_published := fun _ _ h => absurd h List.not_mem_nil
  held_published := fun _ _ h => absurd h (Option.not_mem_none _)
  readSince_iff := fun _ _ h => absurd h (Option.not_mem_none _)

/-- Publishing under a fresh identifier. -/
theorem Tracks.publish {d : Deliveries Reader Id} {held held' : Reader → Option Id}
    (tracks : d.Tracks held) {id : Id} (fresh : id ∉ d.published)
    (new : ∀ reader, ∀ id' ∈ held' reader, id' = id) : (d.publish id).Tracks held' where
  applied_published := fun reader id' h =>
    List.mem_cons_of_mem _ (tracks.applied_published reader id' h)
  held_published := by
    intro reader id' h
    rw [new reader id' h]
    exact List.mem_cons_self
  readSince_iff := by
    intro reader id' h
    rw [new reader id' h]
    refine iff_of_false Bool.false_ne_true (fun hApplied => ?_)
    exact fresh (tracks.applied_published reader id hApplied)

section Read

variable [DecidableEq Reader] {d : Deliveries Reader Id} {held : Reader → Option Id}

theorem applied_read (reader : Reader) (id : Option Id) :
    (d.read reader id).applied reader = d.applied reader ++ id.toList :=
  Function.update_self ..

theorem applied_read_other {reader other : Reader} (h : other ≠ reader) (id : Option Id) :
    (d.read reader id).applied other = d.applied other :=
  Function.update_of_ne h ..

theorem Tracks.read (tracks : d.Tracks held) (reader : Reader) :
    (d.read reader (held reader)).Tracks held where
  applied_published := by
    intro other id h
    by_cases hSame : other = reader
    · subst hSame
      rw [applied_read, List.mem_append, Option.mem_toList] at h
      exact h.elim (tracks.applied_published other id) (tracks.held_published other id)
    · rw [applied_read_other hSame] at h
      exact tracks.applied_published other id h
  held_published := tracks.held_published
  readSince_iff := by
    intro other id h
    by_cases hSame : other = reader
    · subst hSame
      rw [applied_read, List.mem_append, Option.mem_toList]
      exact iff_of_true (Function.update_self ..) (.inr h)
    · rw [applied_read_other hSame]
      have hReadSince : (d.read reader (held reader)).readSince other = d.readSince other :=
        Function.update_of_ne hSame ..
      rw [hReadSince]
      exact tracks.readSince_iff other id h

/-- Reading keeps everything applied once exactly if the reader has not yet read
what the channel holds for it. -/
theorem once_read_iff (tracks : d.Tracks held) (once : d.Once) (reader : Reader) :
    (d.read reader (held reader)).Once ↔ ((held reader).isSome → d.readSince reader = false) := by
  have hOther : (d.read reader (held reader)).Once ↔
      (d.applied reader ++ (held reader).toList).Nodup := by
    constructor
    · intro h
      simpa only [applied_read] using h reader
    · intro h other
      by_cases hSame : other = reader
      · subst hSame
        rwa [applied_read]
      · rw [applied_read_other hSame]
        exact once other
  rw [hOther]
  cases hHeld : held reader with
  | none => simpa using once reader
  | some id =>
      have hRead := tracks.readSince_iff reader id (by rw [hHeld]; rfl)
      rw [Option.toList_some, ← List.concat_eq_append, List.nodup_concat, ← hRead]
      simp [once reader]

end Read

end Deliveries
