import RmTest.Verification.PidPersistence

/-! What is left of the configuration file when `CmdPidSave` fails. -/
namespace RmTest.Debug

open Channels Modules Platform Services

variable {F Volume Provider : Type} [FloatBits F]

/-- `CmdPidSave` comes as far as opening the file, which truncates it. -/
def OpensConfig (fs : FileSystem Volume) (w : ShellSystem Volume Provider (ChassisModule F)) :
    Prop :=
  (w.littlefs.initializeLittlefs fs).2 = .ok () ∧
    (∃ tuning, w.service.getSpeedPidTuning w.objects = .ok tuning) ∧
    (fs.fsOpen (w.littlefs.initializeLittlefs fs).1.volume kPidConfigPath
      [.create, .write, .trunc]).2 = .ok ()

variable {fs : FileSystem Volume}

/-- A save that ends before the file is open leaves it as mounting did; one that ends
later leaves the beginning of the new text. -/
theorem content_of_save (documented : fs.Documented)
    (w : ShellSystem Volume Provider (ChassisModule F)) :
    ¬ OpensConfig fs w ∧
        fs.content (cmdPidSave fs w).1.littlefs.volume kPidConfigPath =
          fs.content (w.littlefs.initializeLittlefs fs).1.volume kPidConfigPath ∨
      OpensConfig fs w ∧
        ∃ tuning kept, w.service.getSpeedPidTuning w.objects = .ok tuning ∧
          fs.content (cmdPidSave fs w).1.littlefs.volume kPidConfigPath =
            some ((pidText tuning).take kept) := by
  rcases cmdPidSave_cases fs w with ⟨rc', hEarly, hSave⟩ | ⟨hMount, tuning, hGet, hSave⟩
  · refine .inl ⟨?_, by rw [hSave]⟩
    rintro ⟨hMount, ⟨tuning, hGet⟩, _⟩
    rcases hEarly with hFailed | ⟨_, hFailed⟩
    · cases hMount.symm.trans hFailed
    · cases hGet.symm.trans hFailed
  · have hLength := length_pidText tuning
    rcases writeConfig_spec documented (w.littlefs.initializeLittlefs fs).1.volume
        (by rw [hLength]; decide) (by rw [hLength]; decide) with
      ⟨rc', hOpen, _, hContent⟩ | ⟨hOpen, kept, hContent, _⟩
    · refine .inl ⟨?_, by rw [hSave]; exact hContent⟩
      rintro ⟨_, _, hOpened⟩
      cases hOpened.symm.trans hOpen
    · exact .inr ⟨⟨hMount, ⟨tuning, hGet⟩, hOpen⟩, tuning, kept, hGet,
        by rw [hSave]; exact hContent⟩

variable [DecidableEq Provider]

/-- Whatever the calls return: a save that fails before the file is open leaves it as
`Initialize` did, which on a mounted volume does nothing and otherwise keeps the file or
formats the volume; a file that is kept is loaded as before. A save that fails later has
replaced the file by the beginning of the new text. -/
theorem save_keeps_or_truncates (documented : fs.Documented)
    (w : ShellSystem Volume Provider (ChassisModule F)) :
    ¬ OpensConfig fs w ∧
        fs.content (cmdPidSave fs w).1.littlefs.volume kPidConfigPath =
          fs.content (w.littlefs.initializeLittlefs fs).1.volume kPidConfigPath ∧
        (w.littlefs.mounted = true →
          fs.content (cmdPidSave fs w).1.littlefs.volume kPidConfigPath =
            fs.content w.littlefs.volume kPidConfigPath) ∧
        ((w.littlefs.initializeLittlefs fs).2 = .ok () →
          fs.content (cmdPidSave fs w).1.littlefs.volume kPidConfigPath =
              fs.content w.littlefs.volume kPidConfigPath ∨
            fs.content (cmdPidSave fs w).1.littlefs.volume kPidConfigPath = none) ∧
        (fs.content (cmdPidSave fs w).1.littlefs.volume kPidConfigPath =
            fs.content w.littlefs.volume kPidConfigPath →
          ∀ (old : SpeedPidTuning F) (later : ShellSystem Volume Provider (ChassisModule F))
            (target : Provider),
            fs.content w.littlefs.volume kPidConfigPath = some (pidText old) →
            ChassisModule.Accepts old.iLimit old.outLimit →
            fs.content later.littlefs.volume kPidConfigPath =
              fs.content (cmdPidSave fs w).1.littlefs.volume kPidConfigPath →
            later.service.selectProvider = some target →
            (∃ rc, (loadText fs later).2 = .error rc ∧ (cmdPidLoad fs later).2 = .error rc) ∨
              (cmdPidLoad fs later).2 = .ok () ∧
                ((cmdPidLoad fs later).1.objects target).getSpeedPidTuning = old) ∨
      OpensConfig fs w ∧
        ∃ tuning kept, w.service.getSpeedPidTuning w.objects = .ok tuning ∧
          fs.content (cmdPidSave fs w).1.littlefs.volume kPidConfigPath =
            some ((pidText tuning).take kept) := by
  rcases content_of_save documented w with ⟨hOpen, hContent⟩ | hOpened
  · refine .inl ⟨hOpen, hContent, fun hMounted => ?_, fun hReady => ?_, ?_⟩
    · rw [hContent, LittlefsService.initializeLittlefs_mounted fs hMounted]
    · rw [hContent]
      exact LittlefsService.content_initializeLittlefs documented w.littlefs kPidConfigPath hReady
    · intro hKept old later target hOld hAccepted hLater hTarget
      exact load_of_content documented (hLater.trans (hKept.trans hOld)) hAccepted hTarget
  · exact .inr hOpened

/-- The save of another tuning truncates the file that an earlier save left, and the
write fails: the earlier tuning is lost. -/
theorem failed_save_loses_tuning :
    (cmdPidSave memoryFileSystem (pidSystem unusualTuning ⟨none, true⟩)).2 = .ok () ∧
      memoryFileSystem.content
          (cmdPidSave memoryFileSystem (pidSystem unusualTuning ⟨none, true⟩)).1.littlefs.volume
          kPidConfigPath = some (pidText unusualTuning) ∧
      (cmdPidSave memoryFileSystem
        (pidSystem plainTuning ⟨some (pidText unusualTuning), false⟩)).2 =
        .error .eio ∧
      memoryFileSystem.content
          (cmdPidSave memoryFileSystem
            (pidSystem plainTuning ⟨some (pidText unusualTuning), false⟩)).1.littlefs.volume
          kPidConfigPath = some [] ∧
      (cmdPidLoad memoryFileSystem
        (cmdPidSave memoryFileSystem
          (pidSystem plainTuning ⟨some (pidText unusualTuning), false⟩)).1).2 = .error .enoent := by
  rw [cmdPidSave_pidSystem unusualTuning none true,
    cmdPidSave_pidSystem plainTuning (some (pidText unusualTuning)) false]
  exact ⟨rfl, rfl, rfl, rfl, rfl⟩

/-- A failing write leaves a beginning of the new text, here none of it. -/
theorem save_keeps_or_truncates_unwritable :
    ∃ kept, memoryFileSystem.content
        (cmdPidSave memoryFileSystem
          (pidSystem plainTuning ⟨some (pidText unusualTuning), false⟩)).1.littlefs.volume
        kPidConfigPath = some ((pidText plainTuning).take kept) := by
  have hOpens : OpensConfig memoryFileSystem
      (pidSystem plainTuning ⟨some (pidText unusualTuning), false⟩) :=
    ⟨rfl, ⟨plainTuning, rfl⟩, rfl⟩
  rcases save_keeps_or_truncates memoryFileSystem_documented
      (pidSystem plainTuning ⟨some (pidText unusualTuning), false⟩) with
    ⟨hNot, _⟩ | ⟨_, tuning, kept, hTuning, hContent⟩
  · exact absurd hOpens hNot
  · obtain rfl := Except.ok.inj hTuning
    exact ⟨kept, hContent⟩

end RmTest.Debug
