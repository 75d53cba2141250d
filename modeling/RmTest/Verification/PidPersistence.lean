import Mathlib.Data.List.TakeWhile
import RmTest.Debug.ChassisTuningShell
import RmTest.Library.Single
import RmTest.Modules.Chassis

/-! What `CmdPidSave` writes and `CmdPidLoad` reads back. -/
namespace RmTest.Debug

open Channels Modules Platform Services

variable {F : Type}

section Text

variable [FloatBits F]

@[simp] theorem length_pidText (tuning : SpeedPidTuning F) : (pidText tuning).length = 45 := by
  simp [pidText]

theorem hex8_ne_zero (bits : UInt32) : ∀ byte ∈ Print.hex8 bits, byte ≠ 0 := by
  intro byte hByte
  obtain ⟨digit, hDigit, rfl⟩ := List.mem_map.mp hByte
  exact (Print.hexDigit_spec
    (Print.paddedDigits_lt (by decide) 8 bits.toNat digit hDigit)).2.2.2.2.2

/-- The text has no terminating zero in it. -/
theorem pidText_ne_zero (tuning : SpeedPidTuning F) : ∀ byte ∈ pidText tuning, byte ≠ 0 := by
  simp only [pidText, List.forall_mem_append, List.forall_mem_cons]
  exact ⟨hex8_ne_zero _, by decide, hex8_ne_zero _, by decide, hex8_ne_zero _, by decide,
    hex8_ne_zero _, by decide, hex8_ne_zero _, by decide, List.forall_mem_nil _⟩

theorem ends_space (text : Scan.Text) : Print.Ends (0x20 :: text) := by
  intro byte hByte
  obtain rfl := Option.some.inj hByte
  rfl

theorem ends_newline : Print.Ends [0x0a] := by
  intro byte hByte
  obtain rfl := Option.some.inj hByte
  rfl

theorem hexWords_hex8 (count : Nat) (bits : UInt32) {rest : Scan.Text} (ends : Print.Ends rest) :
    hexWords (count + 1) (Print.hex8 bits ++ rest) = (hexWords count rest).map (bits :: ·) := by
  rw [hexWords, Print.hex_hex8 bits ends]
  rfl

theorem hexWords_space (count : Nat) (text : Scan.Text) :
    hexWords (count + 1) (0x20 :: text) = hexWords (count + 1) text := by
  have hSkip : Scan.skipSpace (0x20 :: text) = Scan.skipSpace text :=
    List.dropWhile_cons_of_pos rfl
  simp only [hexWords, Scan.hex, hSkip]

/-- The text is read as the five bit patterns it was made of. -/
theorem parsePid_pidText (tuning : SpeedPidTuning F) : parsePid (pidText tuning) = .ok tuning := by
  have hWords : hexWords 5 (pidText tuning) =
      some [FloatBits.toBits tuning.kp, FloatBits.toBits tuning.ki, FloatBits.toBits tuning.kd,
        FloatBits.toBits tuning.iLimit, FloatBits.toBits tuning.outLimit] := by
    rw [pidText, hexWords_hex8 4 _ (ends_space _), hexWords_space, hexWords_hex8 3 _ (ends_space _),
      hexWords_space, hexWords_hex8 2 _ (ends_space _), hexWords_space,
      hexWords_hex8 1 _ (ends_space _), hexWords_space, hexWords_hex8 0 _ ends_newline]
    rfl
  simp only [parsePid, parsePidFromHexBits, hWords, FloatBits.ofBits_toBits]

end Text

section File

variable {Volume : Type} {fs : FileSystem Volume}

/-- A text for which the buffer has room is written as it is. -/
theorem writeOpened_of_fits (fs : FileSystem Volume) (volume : Volume) {text : Scan.Text}
    (nonempty : text.length ≠ 0) (fits : text.length < kBufSize) :
    writeOpened fs volume text = storeBytes fs volume text text.length := by
  have hBuf : text.take (kBufSize - 1) = text := List.take_of_length_le (Nat.le_sub_one_of_lt fits)
  exact (if_neg nonempty).trans (congrArg (storeBytes fs volume · text.length) hBuf)

/-- Writing the file: it is left alone if it cannot be opened; else it holds the
beginning of the text, and all of it if the writing succeeds. -/
theorem writeConfig_spec (documented : fs.Documented) (volume : Volume) {text : Scan.Text}
    (nonempty : text.length ≠ 0) (fits : text.length < kBufSize) :
    (∃ rc, (fs.fsOpen volume kPidConfigPath [.create, .write, .trunc]).2 = .error rc ∧
        (writeConfig fs volume text).2 = .error rc ∧
        fs.content (writeConfig fs volume text).1 kPidConfigPath =
          fs.content volume kPidConfigPath) ∨
      (fs.fsOpen volume kPidConfigPath [.create, .write, .trunc]).2 = .ok () ∧
        ∃ kept, fs.content (writeConfig fs volume text).1 kPidConfigPath = some (text.take kept) ∧
          ((writeConfig fs volume text).2 = .ok () → text.length ≤ kept) := by
  have hFailed := documented.open_failed volume kPidConfigPath [.create, .write, .trunc]
  have hWrite := documented.write volume kPidConfigPath text
  rcases hOpen : fs.fsOpen volume kPidConfigPath [.create, .write, .trunc] with ⟨opened, rc | ⟨⟩⟩
  · rw [hOpen] at hFailed
    refine .inl ⟨rc, rfl, ?_, ?_⟩
    · simp only [writeConfig, hOpen]
    · simp only [writeConfig, hOpen]
      exact hFailed rc rfl
  · rw [hOpen] at hWrite
    obtain ⟨written, hContent, hReported⟩ := hWrite rfl
    obtain ⟨kept, hKept, hSynced⟩ := documented.sync _ _ _ hContent
    refine .inr ⟨rfl, min kept written, ?_, ?_⟩
    · simp only [writeConfig, hOpen, writeOpened_of_fits fs opened nonempty fits, storeBytes,
        List.take_length, documented.close]
      rw [hKept, List.take_take]
    · simp only [writeConfig, hOpen, writeOpened_of_fits fs opened nonempty fits, storeBytes,
        List.take_length]
      cases hLen : (fs.fsWrite opened text).2 with
      | error writeRc => exact fun hOk => by cases hOk
      | ok reported =>
          intro hOk
          dsimp only at hOk
          split at hOk
          · cases hOk
          · have hAll := hReported reported hLen
            have hLost := hSynced hOk
            rw [List.length_take] at hLost
            omega

/-- What a text read from the file is, zeros apart. -/
theorem readConfig_ok (documented : fs.Documented) {volume : Volume} {text : Scan.Text}
    (read : (readConfig fs volume).2 = .ok text) :
    ∃ file, fs.content volume kPidConfigPath = some file ∧
      text = (file.take (kBufSize - 1)).takeWhile (· ≠ 0) := by
  have hRead := documented.read volume kPidConfigPath (kBufSize - 1)
  rcases hOpen : fs.fsOpen volume kPidConfigPath [.read] with ⟨opened, rc | ⟨⟩⟩
  · simp only [readConfig, hOpen] at read
    cases read
  · rw [hOpen] at hRead
    simp only [readConfig, hOpen] at read
    split at read
    · cases read
    · cases read
    · rename_i bytes _ hBytes
      obtain ⟨file, hFile, rfl⟩ := hRead bytes rfl hBytes
      exact ⟨file, hFile, (Except.ok.inj read).symm⟩

end File

section Commands

variable {Volume Provider Object : Type} (fs : FileSystem Volume)

/-- How far `CmdPidSave` comes. -/
theorem cmdPidSave_cases [FloatBits F] [SpeedPidTuningProvider Object F]
    (w : ShellSystem Volume Provider Object) :
    (∃ rc, ((w.littlefs.initializeLittlefs fs).2 = .error rc ∨
          (w.littlefs.initializeLittlefs fs).2 = .ok () ∧
            w.service.getSpeedPidTuning w.objects = .error rc) ∧
        cmdPidSave fs w =
          ({ w with littlefs := (w.littlefs.initializeLittlefs fs).1 }, .error rc)) ∨
      (w.littlefs.initializeLittlefs fs).2 = .ok () ∧
        ∃ tuning, w.service.getSpeedPidTuning w.objects = .ok tuning ∧
          cmdPidSave fs w =
            let written :=
              writeConfig fs (w.littlefs.initializeLittlefs fs).1.volume (pidText tuning)
            ({ w with
                littlefs := { (w.littlefs.initializeLittlefs fs).1 with volume := written.1 } },
              written.2) := by
  rcases hMount : w.littlefs.initializeLittlefs fs with ⟨littlefs, mountRc | ⟨⟩⟩
  · refine .inl ⟨mountRc, .inl rfl, ?_⟩
    simp only [cmdPidSave, hMount]
  · cases hGet : w.service.getSpeedPidTuning w.objects with
    | error rc =>
        refine .inl ⟨rc, .inr ⟨rfl, rfl⟩, ?_⟩
        simp only [cmdPidSave, hMount, hGet]
    | ok tuning =>
        refine .inr ⟨rfl, tuning, rfl, ?_⟩
        simp only [cmdPidSave, hMount, hGet]

/-- How far `CmdPidLoad` comes. -/
theorem cmdPidLoad_cases [DecidableEq Provider] [FloatSource F] [SpeedPidTuningProvider Object F]
    (w : ShellSystem Volume Provider Object) :
    (∃ rc, ((loadText fs w).2 = .error rc ∨ ∃ text, (loadText fs w).2 = .ok text ∧
          (parsePid text : Except Errno (SpeedPidTuning F)) = .error rc) ∧
        cmdPidLoad fs w = ({ w with littlefs := (loadText fs w).1 }, .error rc)) ∨
      ∃ text values, (loadText fs w).2 = .ok text ∧
        (parsePid text : Except Errno (SpeedPidTuning F)) = .ok values ∧
        cmdPidLoad fs w =
          let set := w.service.setSpeedPidTuning w.objects values
          ({ w with littlefs := (loadText fs w).1, objects := set.1 }, set.2) := by
  rcases hText : loadText fs w with ⟨littlefs, rc | text⟩
  · refine .inl ⟨rc, .inl rfl, ?_⟩
    simp only [cmdPidLoad, hText]
  · cases hParse : (parsePid text : Except Errno (SpeedPidTuning F)) with
    | error rc =>
        refine .inl ⟨rc, .inr ⟨text, rfl, hParse⟩, ?_⟩
        simp only [cmdPidLoad, hText, hParse]
    | ok values =>
        refine .inr ⟨text, values, rfl, hParse, ?_⟩
        simp only [cmdPidLoad, hText, hParse]

variable {fs}

/-- A text is loaded from a file that was there before. -/
theorem loadText_ok (documented : fs.Documented) {w : ShellSystem Volume Provider Object}
    {text : Scan.Text} (loaded : (loadText fs w).2 = .ok text) :
    ∃ file, fs.content w.littlefs.volume kPidConfigPath = some file ∧
      text = (file.take (kBufSize - 1)).takeWhile (· ≠ 0) := by
  have hContent := LittlefsService.content_initializeLittlefs documented w.littlefs kPidConfigPath
  rcases hMount : w.littlefs.initializeLittlefs fs with ⟨littlefs, mountRc | ⟨⟩⟩
  · simp only [loadText, hMount] at loaded
    cases loaded
  · rw [hMount] at hContent
    simp only [loadText, hMount] at loaded
    obtain ⟨file, hFile, hText⟩ := readConfig_ok documented loaded
    rcases hContent rfl with hKept | hGone
    · exact ⟨file, hKept.symm.trans hFile, hText⟩
    · cases hGone.symm.trans hFile

/-- What is loaded from a saved file. -/
theorem text_of_saved [FloatBits F] (documented : fs.Documented)
    {w : ShellSystem Volume Provider Object} {text : Scan.Text} {tuning : SpeedPidTuning F}
    (loaded : (loadText fs w).2 = .ok text)
    (saved : fs.content w.littlefs.volume kPidConfigPath = some (pidText tuning)) :
    text = pidText tuning := by
  obtain ⟨file, hFile, rfl⟩ := loadText_ok documented loaded
  obtain rfl := Option.some.inj (hFile.symm.trans saved)
  rw [List.take_of_length_le (by rw [length_pidText]; decide)]
  exact List.takeWhile_eq_self_iff.mpr fun byte hByte =>
    decide_eq_true (pidText_ne_zero tuning byte hByte)

/-- A successful save leaves the tuning in the file. -/
theorem content_of_saved [FloatBits F] [SpeedPidTuningProvider Object F]
    (documented : fs.Documented) {w : ShellSystem Volume Provider Object}
    (saved : (cmdPidSave fs w).2 = .ok ()) :
    ∃ tuning : SpeedPidTuning F, w.service.getSpeedPidTuning w.objects = .ok tuning ∧
      fs.content (cmdPidSave fs w).1.littlefs.volume kPidConfigPath = some (pidText tuning) := by
  rcases cmdPidSave_cases fs w with ⟨rc, _, hSave⟩ | ⟨_, tuning, hGet, hSave⟩
  · rw [hSave] at saved
    cases saved
  · rw [hSave] at saved ⊢
    refine ⟨tuning, hGet, ?_⟩
    have hLength := length_pidText tuning
    rcases writeConfig_spec documented (w.littlefs.initializeLittlefs fs).1.volume
        (by rw [hLength]; decide) (by rw [hLength]; decide) with
      ⟨rc, _, hFailed, _⟩ | ⟨_, kept, hContent, hAll⟩
    · cases saved.symm.trans hFailed
    · exact hContent.trans (congrArg some (List.take_of_length_le (hAll saved)))

end Commands

section Tuning

variable [FloatModel F] {Provider : Type}

/-- Getting the tuning from the chassis module that calls go to. -/
theorem getSpeedPidTuning_selected {service : ChassisTuning Provider}
    {objects : Provider → ChassisModule F} {provider : Provider}
    (selected : service.selectProvider = some provider) :
    service.getSpeedPidTuning objects = .ok (objects provider).getSpeedPidTuning := by
  rw [ChassisTuning.getSpeedPidTuning, selected]
  rfl

variable [DecidableEq Provider]

/-- Setting a tuning that the chassis module accepts. -/
theorem setSpeedPidTuning_selected {service : ChassisTuning Provider}
    {objects : Provider → ChassisModule F} {provider : Provider} {tuning : SpeedPidTuning F}
    (selected : service.selectProvider = some provider)
    (accepted : ChassisModule.Accepts tuning.iLimit tuning.outLimit) :
    (service.setSpeedPidTuning objects tuning).2 = .ok () ∧
      ((service.setSpeedPidTuning objects tuning).1 provider).getSpeedPidTuning = tuning := by
  have hSet : SpeedPidTuningProvider.setSpeedPidTuning (objects provider) tuning = _ :=
    (objects provider).setSpeedPidTuning_accepted accepted
  simp only [ChassisTuning.setSpeedPidTuning, selected, hSet, Function.update_self]
  exact ⟨trivial, rfl⟩

/-- A tuning that is refused changes nothing. -/
theorem setSpeedPidTuning_failed {service : ChassisTuning Provider}
    {objects : Provider → ChassisModule F} {tuning : SpeedPidTuning F} {error : Errno}
    (failed : (service.setSpeedPidTuning objects tuning).2 = .error error) :
    (service.setSpeedPidTuning objects tuning).1 = objects := by
  cases hSelect : service.selectProvider with
  | none => simp only [ChassisTuning.setSpeedPidTuning, hSelect]
  | some provider =>
      by_cases hAccepted : ChassisModule.Accepts tuning.iLimit tuning.outLimit
      · cases failed.symm.trans (setSpeedPidTuning_selected hSelect hAccepted).1
      · have hSet : SpeedPidTuningProvider.setSpeedPidTuning (objects provider) tuning = _ :=
          (objects provider).setSpeedPidTuning_rejected tuning.kp tuning.ki tuning.kd hAccepted
        simp only [ChassisTuning.setSpeedPidTuning, hSelect, hSet, Function.update_eq_self]

end Tuning

/-- The five bit patterns of a tuning. -/
def bitPatterns [FloatBits F] (tuning : SpeedPidTuning F) : SpeedPidTuning UInt32 where
  kp := FloatBits.toBits tuning.kp
  ki := FloatBits.toBits tuning.ki
  kd := FloatBits.toBits tuning.kd
  iLimit := FloatBits.toBits tuning.iLimit
  outLimit := FloatBits.toBits tuning.outLimit

section RoundTrip

variable [FloatBits F] {Volume Provider : Type} [DecidableEq Provider] {fs : FileSystem Volume}

/-- A load that fails changes nothing but the volume. -/
theorem objects_of_failed_load {w : ShellSystem Volume Provider (ChassisModule F)} {error : Errno}
    (failed : (cmdPidLoad fs w).2 = .error error) : (cmdPidLoad fs w).1.objects = w.objects := by
  rcases cmdPidLoad_cases fs w with ⟨rc, _, hLoad⟩ | ⟨text, values, _, _, hLoad⟩
  · rw [hLoad]
  · rw [hLoad] at failed ⊢
    exact setSpeedPidTuning_failed failed

/-- With a saved tuning in the file that the active module accepts, a load fails only
if the file cannot be read; else the module has this tuning. -/
theorem load_of_content (documented : fs.Documented)
    {w : ShellSystem Volume Provider (ChassisModule F)} {tuning : SpeedPidTuning F}
    (content : fs.content w.littlefs.volume kPidConfigPath = some (pidText tuning))
    (accepted : ChassisModule.Accepts tuning.iLimit tuning.outLimit) {provider : Provider}
    (selected : w.service.selectProvider = some provider) :
    (∃ rc, (loadText fs w).2 = .error rc ∧ (cmdPidLoad fs w).2 = .error rc) ∨
      (cmdPidLoad fs w).2 = .ok () ∧
        ((cmdPidLoad fs w).1.objects provider).getSpeedPidTuning = tuning := by
  rcases cmdPidLoad_cases fs w with
    ⟨rc, hText | ⟨text, hText, hParse⟩, hLoad⟩ | ⟨text, values, hText, hParse, hLoad⟩
  · exact .inl ⟨rc, hText, by rw [hLoad]⟩
  · rw [text_of_saved documented hText content, parsePid_pidText] at hParse
    cases hParse
  · rw [text_of_saved documented hText content, parsePid_pidText] at hParse
    obtain rfl := Except.ok.inj hParse
    rw [hLoad]
    exact .inr (setSpeedPidTuning_selected selected accepted)

/-- A tuning that was saved with success is loaded again, bit by bit, if the file can
be read, whatever has happened in between; a load that fails changes no tuning. -/
theorem load_restores_saved (documented : fs.Documented)
    {w : ShellSystem Volume Provider (ChassisModule F)} {provider : Provider}
    (selected : w.service.selectProvider = some provider)
    (accepted :
      ChassisModule.Accepts (w.objects provider).pidILimit (w.objects provider).pidOutLimit)
    (saved : (cmdPidSave fs w).2 = .ok ()) :
    (∀ (later : ShellSystem Volume Provider (ChassisModule F)) (target : Provider),
      fs.content later.littlefs.volume kPidConfigPath =
          fs.content (cmdPidSave fs w).1.littlefs.volume kPidConfigPath →
      later.service.selectProvider = some target →
      (∃ rc, (loadText fs later).2 = .error rc ∧ (cmdPidLoad fs later).2 = .error rc) ∨
        (cmdPidLoad fs later).2 = .ok () ∧
          bitPatterns ((cmdPidLoad fs later).1.objects target).getSpeedPidTuning =
            bitPatterns (w.objects provider).getSpeedPidTuning) ∧
    ∀ (later : ShellSystem Volume Provider (ChassisModule F)) (rc : Errno),
      (cmdPidLoad fs later).2 = .error rc → (cmdPidLoad fs later).1.objects = later.objects := by
  refine ⟨fun later target hUnchanged hTarget => ?_, fun later rc => objects_of_failed_load⟩
  obtain ⟨tuning, hGet, hContent⟩ := content_of_saved documented saved
  obtain rfl := Except.ok.inj ((getSpeedPidTuning_selected selected).symm.trans hGet)
  rcases load_of_content documented (hUnchanged.trans hContent) accepted hTarget with
    hFailed | ⟨hOk, hTuning⟩
  · exact .inl hFailed
  · exact .inr ⟨hOk, congrArg bitPatterns hTuning⟩

end RoundTrip

/-- One file, to which writing may fail. -/
structure MemoryVolume where
  file : Option (List UInt8)
  writable : Bool

/-- The file system with the configuration file alone. -/
def memoryFileSystem : FileSystem MemoryVolume where
  fsMount volume := (volume, .ok ())
  fsMkfs volume := ({ volume with file := none }, .ok ())
  fsOpen volume path flags :=
    if path ≠ kPidConfigPath then (volume, .error .enoent)
    else if flags.contains .trunc then ({ volume with file := some [] }, .ok ())
    else if volume.file.isNone then (volume, .error .enoent)
    else (volume, .ok ())
  fsRead volume size :=
    match volume.file with
    | none => (volume, .error .eio)
    | some bytes => (volume, .ok (bytes.take size))
  fsWrite volume bytes :=
    if volume.writable then ({ volume with file := some bytes }, .ok bytes.length)
    else (volume, .error .eio)
  fsSync volume := (volume, .ok ())
  fsClose volume := volume
  flashAreaOpen volume := (volume, .ok ())
  flashAreaFlatten volume _ _ := ({ volume with file := none }, .ok ())
  flashAreaErase volume _ _ := ({ volume with file := none }, .ok ())
  flashAreaWrite volume _ _ := (volume, .ok ())
  flashAreaRead volume _ size := (volume, .ok (List.replicate size 0))
  flashAreaClose volume := volume
  faSize := 0
  content volume path := if path = kPidConfigPath then volume.file else none

theorem memoryFileSystem_documented : memoryFileSystem.Documented where
  mount _ _ := .inl rfl
  mkfs volume path _ := ite_self none
  open_failed volume path flags error failed := by
    simp only [memoryFileSystem] at failed ⊢
    split_ifs at failed ⊢ <;> rfl
  open_trunc volume path opened := by
    by_cases hPath : path = kPidConfigPath
    · simp [memoryFileSystem, hPath]
    · simp [memoryFileSystem, hPath] at opened
  write volume path bytes opened := by
    by_cases hPath : path = kPidConfigPath
    · cases hWritable : volume.writable with
      | true => exact ⟨bytes.length, by simp [memoryFileSystem, hPath, hWritable]⟩
      | false => exact ⟨0, by simp [memoryFileSystem, hPath, hWritable]⟩
    · simp [memoryFileSystem, hPath] at opened
  sync volume path text content := ⟨text.length, by rwa [List.take_length], fun _ => Nat.le_refl _⟩
  close _ _ := rfl
  read volume path size bytes opened read := by
    by_cases hPath : path = kPidConfigPath
    · cases hFile : volume.file with
      | none => simp [memoryFileSystem, hPath, hFile] at opened
      | some text =>
          simp [memoryFileSystem, hPath, hFile] at read
          exact ⟨text, by simp [memoryFileSystem, hPath, hFile], read.symm⟩
    · simp [memoryFileSystem, hPath] at opened

/-- A system with a chassis module of the given tuning, on a mounted volume. -/
def pidSystem (tuning : SpeedPidTuning Single) (volume : MemoryVolume) :
    ShellSystem MemoryVolume Unit (ChassisModule Single) where
  littlefs := ⟨volume, true⟩
  service := (ChassisTuning.initial.registerProvider (some ()) (some "chassis_module") 100).1
  objects _ :=
    { ChassisModule.zeroed Single with
      pidKp := tuning.kp
      pidKi := tuning.ki
      pidKd := tuning.kd
      pidILimit := tuning.iLimit
      pidOutLimit := tuning.outLimit }

theorem selectProvider_pidSystem (tuning : SpeedPidTuning Single) (volume : MemoryVolume) :
    (pidSystem tuning volume).service.selectProvider = some () := rfl

theorem storeBytes_memory (file : Option (List UInt8)) (writable : Bool) (text : Scan.Text) :
    storeBytes memoryFileSystem ⟨file, writable⟩ text text.length =
      match writable with
      | true => (⟨some text, true⟩, .ok ())
      | false => (⟨file, false⟩, .error .eio) := by
  cases writable <;> simp [storeBytes, memoryFileSystem]

/-- Of a save in memory only the write can fail, with the file truncated. -/
theorem cmdPidSave_pidSystem (tuning : SpeedPidTuning Single) (file : Option (List UInt8))
    (writable : Bool) :
    cmdPidSave memoryFileSystem (pidSystem tuning ⟨file, writable⟩) =
      match writable with
      | true => (pidSystem tuning ⟨some (pidText tuning), true⟩, .ok ())
      | false => (pidSystem tuning ⟨some [], false⟩, .error .eio) := by
  have hLength := length_pidText tuning
  have hOpen : memoryFileSystem.fsOpen ⟨file, writable⟩ kPidConfigPath [.create, .write, .trunc] =
      (⟨some [], writable⟩, .ok ()) := by simp [memoryFileSystem]
  have hWrite := (writeOpened_of_fits memoryFileSystem ⟨some [], writable⟩
    (show (pidText tuning).length ≠ 0 by rw [hLength]; decide) (by rw [hLength]; decide)).trans
    (storeBytes_memory (some []) writable (pidText tuning))
  have hMount : (pidSystem tuning ⟨file, writable⟩).littlefs.initializeLittlefs memoryFileSystem =
      (⟨⟨file, writable⟩, true⟩, .ok ()) := LittlefsService.initializeLittlefs_mounted _ rfl
  have hGet : (pidSystem tuning ⟨file, writable⟩).service.getSpeedPidTuning
      (pidSystem tuning ⟨file, writable⟩).objects = .ok tuning := rfl
  simp only [cmdPidSave, hMount, hGet, writeConfig, hOpen, hWrite]
  cases writable <;> rfl

theorem loadText_pidSystem (tuning saved : SpeedPidTuning Single) (writable : Bool) (rc : Errno) :
    (loadText memoryFileSystem (pidSystem tuning ⟨some (pidText saved), writable⟩)).2 ≠
      .error rc := by
  have hLength := length_pidText saved
  have hMount : (pidSystem tuning ⟨some (pidText saved), writable⟩).littlefs.initializeLittlefs
      memoryFileSystem = (⟨⟨some (pidText saved), writable⟩, true⟩, .ok ()) :=
    LittlefsService.initializeLittlefs_mounted _ rfl
  have hOpen : memoryFileSystem.fsOpen ⟨some (pidText saved), writable⟩ kPidConfigPath [.read] =
      (⟨some (pidText saved), writable⟩, .ok ()) := by simp [memoryFileSystem]
  have hTake : (pidText saved).take (kBufSize - 1) = pidText saved :=
    List.take_of_length_le (by rw [hLength]; decide)
  obtain ⟨first, rest, hText⟩ : ∃ first rest, pidText saved = first :: rest :=
    List.exists_cons_of_ne_nil (List.ne_nil_of_length_pos (by rw [hLength]; decide))
  simp only [loadText, hMount, readConfig, hOpen]
  simp only [memoryFileSystem, hTake]
  rw [hText]
  exact fun h => by cases h

/-- Values as only bit patterns tell apart: a NaN with a payload, a negative zero, a
subnormal number, and infinity as a limit. -/
def unusualTuning : SpeedPidTuning Single where
  kp := ⟨0x7fc00001⟩
  ki := ⟨0x80000000⟩
  kd := ⟨0x00000001⟩
  iLimit := ⟨0x43fa0000⟩
  outLimit := ⟨0x7f800000⟩

def plainTuning : SpeedPidTuning Single where
  kp := ⟨0x40400000⟩
  ki := ⟨0⟩
  kd := ⟨0⟩
  iLimit := ⟨0x43fa0000⟩
  outLimit := ⟨0x43fa0000⟩

theorem load_restores_saved_unusual :
    (cmdPidSave memoryFileSystem (pidSystem unusualTuning ⟨none, true⟩)).2 = .ok () ∧
      bitPatterns ((cmdPidLoad memoryFileSystem
        (pidSystem plainTuning
          ⟨some (pidText unusualTuning), true⟩)).1.objects ()).getSpeedPidTuning =
        ⟨0x7fc00001, 0x80000000, 0x00000001, 0x43fa0000, 0x7f800000⟩ := by
  have hSave := cmdPidSave_pidSystem unusualTuning none true
  have hRestored := (load_restores_saved memoryFileSystem_documented
    (selectProvider_pidSystem unusualTuning ⟨none, true⟩) (by decide)
    (congrArg Prod.snd hSave)).1 (pidSystem plainTuning ⟨some (pidText unusualTuning), true⟩) ()
    (by rw [hSave]; rfl) (selectProvider_pidSystem _ _)
  refine ⟨congrArg Prod.snd hSave, ?_⟩
  rcases hRestored with ⟨rc, hText, _⟩ | ⟨_, hBits⟩
  · exact absurd hText (loadText_pidSystem plainTuning unusualTuning true rc)
  · exact hBits

end RmTest.Debug
