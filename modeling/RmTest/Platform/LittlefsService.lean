import RmTest.Channels.Messages

/-! The service that mounts the file system, and formats the partition if that fails.
The file system and the flash map are parameters, whose calls return 0 or an error. -/
namespace RmTest.Platform

open Channels

inductive FsOpenFlag where
  | create
  | write
  | trunc
  | read
  deriving DecidableEq

/-- The calls on a volume, with at most one file open, and what its files hold. -/
structure FileSystem (Volume : Type) where
  fsMount : Volume → Volume × Except Errno Unit
  fsMkfs : Volume → Volume × Except Errno Unit
  fsOpen : Volume → String → List FsOpenFlag → Volume × Except Errno Unit
  fsRead : Volume → Nat → Volume × Except Errno (List UInt8)
  fsWrite : Volume → List UInt8 → Volume × Except Errno Nat
  fsSync : Volume → Volume × Except Errno Unit
  fsClose : Volume → Volume
  flashAreaOpen : Volume → Volume × Except Errno Unit
  flashAreaFlatten : Volume → Nat → Nat → Volume × Except Errno Unit
  flashAreaErase : Volume → Nat → Nat → Volume × Except Errno Unit
  flashAreaWrite : Volume → Nat → List UInt8 → Volume × Except Errno Unit
  flashAreaRead : Volume → Nat → Nat → Volume × Except Errno (List UInt8)
  flashAreaClose : Volume → Volume
  /-- `fa_size` of the storage partition. -/
  faSize : Nat
  /-- The bytes of a file, or `none` if it does not exist. -/
  content : Volume → String → Option (List UInt8)

namespace FileSystem

variable {Volume : Type}

/-- What the calls do to the files, as far as they are documented. -/
structure Documented (fs : FileSystem Volume) : Prop where
  /-- A mount keeps the files or formats the volume. -/
  mount : ∀ volume path,
    fs.content (fs.fsMount volume).1 path = fs.content volume path ∨
      fs.content (fs.fsMount volume).1 path = none
  mkfs : ∀ volume path, (fs.fsMkfs volume).2 = .ok () → fs.content (fs.fsMkfs volume).1 path = none
  open_failed : ∀ volume path flags error, (fs.fsOpen volume path flags).2 = .error error →
    fs.content (fs.fsOpen volume path flags).1 path = fs.content volume path
  open_trunc : ∀ volume path, (fs.fsOpen volume path [.create, .write, .trunc]).2 = .ok () →
    fs.content (fs.fsOpen volume path [.create, .write, .trunc]).1 path = some []
  /-- A write to an empty file leaves the bytes that it reports, and some of them in
  front if it fails. -/
  write : ∀ volume path bytes, (fs.fsOpen volume path [.create, .write, .trunc]).2 = .ok () →
    ∃ written,
      fs.content (fs.fsWrite (fs.fsOpen volume path [.create, .write, .trunc]).1 bytes).1 path =
        some (bytes.take written) ∧
      ∀ reported,
        (fs.fsWrite (fs.fsOpen volume path [.create, .write, .trunc]).1 bytes).2 = .ok reported →
        reported = written
  /-- A sync that fails may lose the end of the file. -/
  sync : ∀ volume path text, fs.content volume path = some text →
    ∃ kept, fs.content (fs.fsSync volume).1 path = some (text.take kept) ∧
      ((fs.fsSync volume).2 = .ok () → text.length ≤ kept)
  close : ∀ volume path, fs.content (fs.fsClose volume) path = fs.content volume path
  /-- A read from the start returns as much as there is, up to the size asked for. -/
  read : ∀ volume path size bytes, (fs.fsOpen volume path [.read]).2 = .ok () →
    (fs.fsRead (fs.fsOpen volume path [.read]).1 size).2 = .ok bytes →
    ∃ text, fs.content volume path = some text ∧ bytes = text.take size

variable (fs : FileSystem Volume)

/-- Flattens a range, or erases it where that fails. -/
def flattenOrErase (volume : Volume) (offset length : Nat) : Volume × Except Errno Unit :=
  match fs.flashAreaFlatten volume offset length with
  | (volume, .ok ()) => (volume, .ok ())
  | (volume, .error _) => fs.flashAreaErase volume offset length

def eraseStoragePartition (volume : Volume) : Volume × Except Errno Unit :=
  match fs.flashAreaOpen volume with
  | (volume, .error rc) => (volume, .error rc)
  | (volume, .ok ()) =>
      let (volume, rc) := fs.flattenOrErase volume 0 fs.faSize
      (fs.flashAreaClose volume, rc)

/-- `wr` of the probe. -/
def probeBytes : List UInt8 :=
  [0x5a, 0xa5, 0x3c, 0xc3, 0x11, 0x22, 0x33, 0x44, 0x55, 0x66, 0x77, 0x88, 0x99, 0xaa, 0xbb, 0xcc]

def probeStoragePartitionIo (volume : Volume) : Volume × Except Errno Unit :=
  match fs.flashAreaOpen volume with
  | (volume, .error rc) => (volume, .error rc)
  | (volume, .ok ()) =>
      match fs.flattenOrErase volume 0 probeBytes.length with
      | (volume, .error rc) => (fs.flashAreaClose volume, .error rc)
      | (volume, .ok ()) =>
          match fs.flashAreaWrite volume 0 probeBytes with
          | (volume, .error rc) => (fs.flashAreaClose volume, .error rc)
          | (volume, .ok ()) =>
              match fs.flashAreaRead volume 0 probeBytes.length with
              | (volume, .error rc) => (fs.flashAreaClose volume, .error rc)
              | (volume, .ok rd) =>
                  if rd ≠ probeBytes then (fs.flashAreaClose volume, .error .eio)
                  else
                    let (volume, rc) := fs.flattenOrErase volume 0 probeBytes.length
                    (fs.flashAreaClose volume, rc)

/-- The attempts of `Initialize` to make a file system after a failed mount. -/
def makeFileSystem (volume : Volume) : Volume × Except Errno Unit :=
  match fs.fsMkfs volume with
  | (volume, .ok ()) => (volume, .ok ())
  | (volume, .error _) =>
      match fs.eraseStoragePartition volume with
      | (volume, .error eraseRc) => (volume, .error eraseRc)
      | (volume, .ok ()) =>
          match fs.fsMkfs volume with
          | (volume, .ok ()) => (volume, .ok ())
          | (volume, .error mkfsRc) =>
              match fs.probeStoragePartitionIo volume with
              | (volume, .error probeRc) => (volume, .error probeRc)
              | (volume, .ok ()) => (volume, .error mkfsRc)

end FileSystem

/-- The volume with `g_mounted`. -/
structure LittlefsService (Volume : Type) where
  volume : Volume
  mounted : Bool

namespace LittlefsService

variable {Volume : Type} (fs : FileSystem Volume)

/-- The error of a mount, of which one that was done already is none. -/
def mountError : Except Errno Unit → Option Errno
  | .ok () => none
  | .error rc => if rc = .ealready then none else some rc

/-- `Initialize`. -/
def initializeLittlefs (s : LittlefsService Volume) : LittlefsService Volume × Except Errno Unit :=
  if s.mounted then (s, .ok ())
  else
    let (volume, rc) := fs.fsMount s.volume
    match mountError rc with
    | none => ({ volume := volume, mounted := true }, .ok ())
    | some _ =>
        match fs.makeFileSystem volume with
        | (volume, .error rc) => ({ s with volume := volume }, .error rc)
        | (volume, .ok ()) =>
            let (volume, rc) := fs.fsMount volume
            match mountError rc with
            | none => ({ volume := volume, mounted := true }, .ok ())
            | some rc => ({ s with volume := volume }, .error rc)

theorem initializeLittlefs_mounted {s : LittlefsService Volume} (mounted : s.mounted = true) :
    s.initializeLittlefs fs = (s, .ok ()) := if_pos mounted

variable {fs}

/-- A file system made anew is empty. -/
theorem makeFileSystem_empty (documented : fs.Documented) (volume : Volume) (path : String)
    (made : (fs.makeFileSystem volume).2 = .ok ()) :
    fs.content (fs.makeFileSystem volume).1 path = none := by
  unfold FileSystem.makeFileSystem at made ⊢
  split at made
  · rename_i volume' hMkfs
    have hEmpty := documented.mkfs volume path
    rw [hMkfs] at hEmpty
    exact hEmpty rfl
  · split at made
    · cases made
    · rename_i volume' hErase
      split at made
      · rename_i volume'' hMkfs
        have hEmpty := documented.mkfs volume' path
        rw [hMkfs] at hEmpty
        exact hEmpty rfl
      · split at made <;> cases made

/-- Once initialized, the files are as they were, or gone. -/
theorem content_initializeLittlefs (documented : fs.Documented) (s : LittlefsService Volume)
    (path : String) (ready : (s.initializeLittlefs fs).2 = .ok ()) :
    fs.content (s.initializeLittlefs fs).1.volume path = fs.content s.volume path ∨
      fs.content (s.initializeLittlefs fs).1.volume path = none := by
  by_cases hMounted : s.mounted = true
  · rw [initializeLittlefs_mounted fs hMounted]
    exact .inl rfl
  · simp only [initializeLittlefs, if_neg hMounted] at ready ⊢
    split at ready
    · exact documented.mount s.volume path
    · split at ready
      · cases ready
      · rename_i volume hMade
        split at ready
        · have hEmpty := makeFileSystem_empty documented (fs.fsMount s.volume).1 path
          rw [hMade] at hEmpty
          rcases documented.mount volume path with hKept | hGone
          · exact .inr (hKept.trans (hEmpty rfl))
          · exact .inr hGone
        · cases ready

end LittlefsService

end RmTest.Platform
