import Keyplan.Command.Run
import Keyplan.Proofs.Backups
import Mathlib

/-!
# Commands and the keymap they are about

A command changes a keymap only with leave to write, only as a whole and only into a keymap, and if
no path of a backup leads to the keymap, only when the old text is in a backup
(`Command.runWith_keeps_keymap`). `run_cases` leads every way in which a command can end back to
`writeBack`, and `writeBack_cases` follows that through opening the file, beginning a transaction
and the checked commit. Where a link to the keymap has the name of the backup, the old text is lost
(`Command.setKey_loses_text`).
-/

namespace Keyplan

open File (Path Disk FileSystem FileError KeymapFile Moment Transaction)

namespace File

variable {σ : Type} {disk : σ → Disk} {fs : FileSystem (StateM σ)} {s s' : σ} {old : ByteArray}

/-- Opening a file leaves its content and makes no backup lead to it. -/
lemma openAt_keeps (hfs : fs.Faithful disk) {path : Path} {r : Except FileError KeymapFile}
    (hread : (disk s).readBytes path = .ok old) (h : (KeymapFile.openAt fs path).run s = (r, s')) :
    (disk s').readBytes path = .ok old ∧
      (∀ file, r = .ok file → KeymapFile.ofPath? path = some file) ∧
      ∀ file, KeymapFile.ofPath? path = some file → file.Clear (disk s) → file.Clear (disk s') := by
  obtain ⟨hmade, hfile⟩ := openAt_cases hfs h
  rcases hmade with hsame | ⟨file, -, -, hpath, hmake⟩
  · rw [hsame]
    exact ⟨hread, hfile, fun _ _ hclear => hclear⟩
  · cases KeymapFile.path_of_ofPath? hpath
    obtain ⟨hclear, hread'⟩ := KeymapFile.Clear.of_makeDir hpath hread hmake
    refine ⟨hread', hfile, fun file' hpath' _ => ?_⟩
    cases hpath.symm.trans hpath'
    exact hclear

/-- A transaction that begins leaves the file alone and copies it. One that fails to begin may have
written something else to a backup, which is not the file if no backup leads to it. -/
lemma begin_keeps (hfs : fs.Faithful disk) {file : KeymapFile} {r : Except FileError Transaction}
    (hread : (disk s).readBytes file.path = .ok old)
    (h : (Transaction.begin fs file).run s = (r, s')) :
    (∀ t, r = .ok t → t.file = file ∧ (disk s').readBytes file.path = .ok old ∧
      (disk s').readBytes t.backupPath = .ok old ∧
      ∃ clock, file.backupPath? clock = some t.backupPath) ∧
    (file.Clear (disk s) →
      file.Clear (disk s') ∧ (disk s').readBytes file.path = .ok old) := by
  rcases begin_cases hfs h with ⟨hfail, hdamage⟩ |
    ⟨clock, backup, content, rfl, hbackup, hcontent, hwrite⟩
  · refine ⟨fun t hr => ?_, fun hclear => ?_⟩
    · cases hr
      cases hfail
    rcases hdamage with hsame | ⟨clock, backup, text, e, s₁, hbackup, -, hs₁, hwritten⟩
    · rw [hsame]
      exact ⟨hclear, hread⟩
    · rcases hfs.writeText_error hwritten with hsame | ⟨bytes, hwrite⟩
      · rw [hsame, hs₁]
        exact ⟨hclear, hread⟩
      · rw [hs₁] at hwrite
        exact (hclear.writeBytes hbackup hwrite).imp_right fun hkeep => hkeep old hread
  · cases (Disk.readText_eq_ok_iff.1 hcontent).symm.trans hread
    refine ⟨fun t hr => ?_, fun hclear => ?_⟩
    · cases hr
      exact ⟨rfl, Disk.readBytes_of_copy hread hwrite, Disk.readBytes_of_writeBytes hwrite, clock,
        hbackup⟩
    · exact (hclear.writeBytes hbackup hwrite).imp_right fun hkeep => hkeep _ hread

/-- A checked commit leaves everything alone or gives the file its new content, which is a keymap,
and leaves every other file. -/
lemma commitChecked_keeps [PatternEngine] (hfs : fs.Faithful disk) {t : Transaction}
    {content : String} {r : Except FileError Unit}
    (hread : (disk s).readBytes t.file.path = .ok old)
    (h : (t.commitChecked fs content).run s = (r, s')) :
    r.isOk = false ∧ disk s' = disk s ∨
      r.isOk = true ∧ (∃ m, Keymap.parse content none = .ok m) ∧
        (disk s').readBytes t.file.path = .ok content.toUTF8 ∧
        ∀ p bytes, (∀ place, (disk s).Reaches true p place →
            ¬ (disk s).Reaches true t.file.path place) →
          (disk s).readBytes p = .ok bytes → (disk s').readBytes p = .ok bytes := by
  rcases commitChecked_cases hfs h with hfail | ⟨hok, hparse, hreplace⟩
  · exact .inl hfail
  · have hnew := (Disk.settled_of_readBytes hread).stored_of_replaceText hreplace
    refine .inr ⟨hok, hparse, hnew.readBytes, fun p bytes hother hp => ?_⟩
    exact Disk.readBytes_of_replaceText hreplace hread hother hp

end File

/-- A command that fails at a file exits with an error. -/
lemma Outcome.exit_fileFailure (err : String) (e : FileError) :
    (Outcome.fileFailure err e).exit = 1 := by
  rw [Outcome.fileFailure]
  cases e.cause? <;> rfl

namespace Command

/-- Whether the command has leave to write its file. -/
def writes : Command → Bool
  | .setKey _ _ _ _ _ write => write
  | .addLayer _ _ write => write
  | _ => false

/-- What the command makes of the text of its file, if it edits it. -/
def edited? [PatternEngine] (text : String) : Command → Option String
  | .setKey _ layer key value keys _ => some (Edit.setKey text layer key value keys).text
  | .addLayer _ keyword _ =>
    (Keymap.parse text none).toOption.map fun m => Edit.addLayer text (keyword.getD m.keyword)
  | _ => none

/-- The edited text has taken the place of the old one, and it is a keymap. -/
def Edited [PatternEngine] (c : Command) (path : Path) (before after : Disk) : Prop :=
  ∃ old new, before.readText path = .ok old ∧ c.edited? old = some new ∧
    after.readText path = .ok new ∧ ∃ m, Keymap.parse new none = .ok m

/-- What the first disk has at the path is in a backup on the second one. -/
def BackedUp (path : Path) (before after : Disk) : Prop :=
  ∃ old file clock backup, before.readText path = .ok old ∧ KeymapFile.ofPath? path = some file ∧
    file.backupPath? clock = some backup ∧ after.readText backup = .ok old

section
variable {σ : Type} {disk : σ → Disk} {fs : FileSystem (StateM σ)} {s s' : σ}

/-- Writing back gives the file the new text, or it fails. If no backup leads to the file, a failure
leaves the file as it was, and after a success its old text is in a backup. -/
lemma writeBack_cases [PatternEngine] (hfs : fs.Faithful disk) {path : Path}
    {text err done : String} {outcome : Outcome} {old : ByteArray}
    (hread : (disk s).readBytes path = .ok old)
    (h : (writeBack fs path text err done).run s = (outcome, s')) :
    outcome.exit ≠ 0 ∧
      ((∀ file, KeymapFile.ofPath? path = some file → file.Clear (disk s)) →
        (disk s').readBytes path = .ok old) ∨
    outcome.exit = 0 ∧ (∃ m, Keymap.parse text none = .ok m) ∧
      (disk s').readBytes path = .ok text.toUTF8 ∧
      ∃ file clock backup, KeymapFile.ofPath? path = some file ∧
        file.backupPath? clock = some backup ∧
        (file.Clear (disk s) → (disk s').readBytes backup = .ok old) := by
  have hexit : ∀ e, (Outcome.fileFailure err e).exit ≠ 0 := by simp [Outcome.exit_fileFailure]
  rw [writeBack] at h
  obtain ⟨opened, s₁, hopened, h₁⟩ := File.run_bind_eq h
  obtain ⟨hread₁, hopen, hclear₁⟩ := File.openAt_keeps hfs hread hopened
  cases opened with
  | error e =>
    obtain ⟨rfl, rfl⟩ := File.run_pure_eq h₁
    exact .inl ⟨hexit e, fun _ => hread₁⟩
  | ok file =>
    have hfile := hopen file rfl
    cases KeymapFile.path_of_ofPath? hfile
    obtain ⟨begun, s₂, hbegun, h₂⟩ := File.run_bind_eq h₁
    obtain ⟨hbegin, hclear₂⟩ := File.begin_keeps hfs hread₁ hbegun
    replace hclear₂ := fun hclear => hclear₂ (hclear₁ file hfile hclear)
    cases begun with
    | error e =>
      obtain ⟨rfl, rfl⟩ := File.run_pure_eq h₂
      exact .inl ⟨hexit e, fun hclear => (hclear₂ (hclear file hfile)).2⟩
    | ok t =>
      obtain ⟨rfl, hread₂, hcopy, clock, hbackup⟩ := hbegin t rfl
      obtain ⟨committed, s₃, hcommitted, h₃⟩ := File.run_bind_eq h₂
      have hcommit := File.commitChecked_keeps hfs hread₂ hcommitted
      cases committed with
      | error e =>
        obtain ⟨rfl, rfl⟩ := File.run_pure_eq h₃
        obtain ⟨-, hsame⟩ | ⟨⟨⟩, -⟩ := hcommit
        exact .inl ⟨hexit e, fun _ => hsame ▸ hread₂⟩
      | ok _ =>
        obtain ⟨rfl, rfl⟩ := File.run_pure_eq h₃
        obtain ⟨⟨⟩, -⟩ | ⟨-, hparse, hread₃, hothers⟩ := hcommit
        refine .inr ⟨rfl, hparse, hread₃, t.file, clock, t.backupPath, hfile, hbackup, ?_⟩
        intro hclear
        exact hothers _ _ (fun place => (hclear₂ hclear).1 clock _ place hbackup) hcopy

/-- A command leaves the disk alone, or it has leave to write and writes back what it makes of the
text of its file. -/
lemma run_cases [PatternEngine] (hfs : fs.Faithful disk) {home : Option String} {c : Command}
    {outcome : Outcome} (h : (c.run fs home).run s = (outcome, s')) :
    disk s' = disk s ∧ (c.writes = true → outcome.exit ≠ 0) ∨
    c.writes = true ∧ ∃ old new err done s₁, disk s₁ = disk s ∧
      (disk s).readText (expandHome home c.path) = .ok old ∧ c.edited? old = some new ∧
      (writeBack fs (expandHome home c.path) new err done).run s₁ = (outcome, s') := by
  rw [run] at h
  obtain ⟨content, s₁, hcontent, h₁⟩ := File.run_bind_eq h
  obtain ⟨hsame, hread⟩ := hfs.readText hcontent
  cases content with
  | error e =>
    obtain ⟨rfl, rfl⟩ := File.run_pure_eq h₁
    exact .inl ⟨hsame, fun _ => by simp [Outcome.failure]⟩
  | ok text =>
    cases c with
    | parse path keys json =>
      obtain ⟨-, rfl⟩ := File.run_pure_eq h₁
      exact .inl ⟨hsame, nofun⟩
    | settings path =>
      obtain ⟨-, rfl⟩ := File.run_pure_eq h₁
      exact .inl ⟨hsame, nofun⟩
    | render path layer json =>
      obtain ⟨-, rfl⟩ := File.run_pure_eq h₁
      exact .inl ⟨hsame, nofun⟩
    | setKey path layer key value keys write =>
      change (runSetKey fs _ text layer key value keys write).run s₁ = _ at h₁
      rw [runSetKey] at h₁
      dsimp only at h₁
      split at h₁
      · split at h₁
        all_goals
          obtain ⟨rfl, rfl⟩ := File.run_pure_eq h₁
          exact .inl ⟨hsame, fun _ => by simp [Outcome.failure]⟩
      · cases write with
        | false =>
          obtain ⟨-, rfl⟩ := File.run_pure_eq h₁
          exact .inl ⟨hsame, nofun⟩
        | true => exact .inr ⟨rfl, text, _, _, _, s₁, hsame, hread text rfl, rfl, h₁⟩
    | addLayer path keyword write =>
      change (runAddLayer fs _ text keyword write).run s₁ = _ at h₁
      rw [runAddLayer] at h₁
      cases hparse : Keymap.parse text none with
      | error e =>
        rw [hparse] at h₁
        obtain ⟨rfl, rfl⟩ := File.run_pure_eq h₁
        exact .inl ⟨hsame, fun _ => by simp [Outcome.failure]⟩
      | ok m =>
        rw [hparse] at h₁
        cases write with
        | false =>
          obtain ⟨-, rfl⟩ := File.run_pure_eq h₁
          exact .inl ⟨hsame, nofun⟩
        | true =>
          refine .inr ⟨rfl, text, _, _, _, s₁, hsame, hread text rfl, ?_, h₁⟩
          rw [edited?, hparse]
          rfl

/-- What a command line does to a keymap, however it is read and whichever operation on files fails.
Without leave to write, it leaves the disk alone. Where it has leave and succeeds, the content is
what its edit makes of the old one and is a keymap. If no path of a backup leads to the keymap, then
where the command line fails, the content of the keymap is what it was, and where it succeeds, the
old content is in a backup; so a content that has changed is the edited one, and the old one is in a
backup. -/
theorem runWith_keeps_keymap [PatternEngine] (hfs : fs.Faithful disk) (home : Option String)
    (read : List String → Except Refusal Command) (words : List String) (s : σ) :
    let outcome := ((runWith fs home read words).run s).1
    let after := disk ((runWith fs home read words).run s).2
    (∀ r, read words = .error r → after = disk s) ∧
    ∀ c, read words = .ok c →
      (c.writes = false → after = disk s) ∧
      let path := expandHome home c.path
      (c.writes = true → outcome.exit = 0 → c.Edited path (disk s) after) ∧
      ((∀ file, KeymapFile.ofPath? path = some file → file.Clear (disk s)) →
        (outcome.exit ≠ 0 → after.readBytes path = (disk s).readBytes path) ∧
        (c.writes = true → outcome.exit = 0 → BackedUp path (disk s) after) ∧
        (after.readBytes path ≠ (disk s).readBytes path →
          outcome.exit = 0 ∧ c.Edited path (disk s) after ∧ BackedUp path (disk s) after)) := by
  intro outcome after
  rcases hrun : (runWith fs home read words).run s with ⟨outcome', s'⟩
  have houtcome : outcome = outcome' := congrArg Prod.fst hrun
  have hafter : after = disk s' := congrArg (disk ∘ Prod.snd) hrun
  rw [houtcome, hafter]
  rw [runWith] at hrun
  constructor
  · intro r hwords
    rw [hwords] at hrun
    obtain ⟨-, rfl⟩ := File.run_pure_eq hrun
    rfl
  · intro c hwords
    rw [hwords] at hrun
    rcases run_cases hfs hrun with ⟨hsame, hexit⟩ |
      ⟨hwrites, old, new, err, done, s₁, hsame, hread, hedit, hback⟩
    · rw [hsame]
      exact ⟨fun _ => rfl, fun hw hzero => absurd hzero (hexit hw), fun _ => ⟨fun _ => rfl,
        fun hw hzero => absurd hzero (hexit hw), fun hne => absurd rfl hne⟩⟩
    · refine ⟨fun hw => by simp [hwrites] at hw, ?_⟩
      rw [← hsame] at hread ⊢
      have hread' := Disk.readText_eq_ok_iff.1 hread
      rcases writeBack_cases hfs hread' hback with
        ⟨hexit, hkept⟩ | ⟨hexit, hparse, hnew, file, clock, backup, hfile, hbackup, hold⟩
      · refine ⟨fun _ hzero => absurd hzero hexit, fun hclear => ?_⟩
        have hsame' := (hkept hclear).trans hread'.symm
        exact ⟨fun _ => hsame', fun _ hzero => absurd hzero hexit, fun hne => absurd hsame' hne⟩
      · have hedited : c.Edited (expandHome home c.path) (disk s₁) (disk s') :=
          ⟨old, new, hread, hedit, Disk.readText_eq_ok_iff.2 hnew, hparse⟩
        refine ⟨fun _ _ => hedited, fun hclear => ?_⟩
        have hkept : BackedUp (expandHome home c.path) (disk s₁) (disk s') :=
          ⟨old, file, clock, backup, hread, hfile, hbackup,
            Disk.readText_eq_ok_iff.2 (hold (hclear file hfile))⟩
        exact ⟨fun hne => absurd hexit hne, fun _ _ => hkept, fun _ => ⟨hexit, hedited, hkept⟩⟩

end

/-- Writing back succeeds where nothing is in its way. -/
lemma run_writeBack [PatternEngine] {clock : Moment} {d d₁ d₂ : Disk} {path : Path}
    {file : KeymapFile} {t : Transaction} {text err done : String} {m : Keymap}
    (hfile : KeymapFile.ofPath? path = some file) (hpresent : d.isPresent path = true)
    (hdir : d.isReadOnly file.backupDir = .ok false)
    (hbegin : (Transaction.begin (Disk.fileSystem clock) file).run d = (.ok t, d₁))
    (hparse : Keymap.parse text none = .ok m)
    (hreplace : d₁.replaceText t.file.path text = .ok d₂) :
    (writeBack (Disk.fileSystem clock) path text err done).run d = ({ out := done, err }, d₂) := by
  rw [writeBack, File.run_bind_of_eq (File.run_openAt clock hfile hpresent hdir)]
  dsimp only
  rw [File.run_bind_of_eq hbegin]
  dsimp only
  rw [File.run_bind_of_eq (File.run_commitChecked clock hparse hreplace)]
  rfl

/-- The words of a command that replaces the one key. -/
def setKeyWords : List String := ["set-key", "k.c", "-l", "0", "-k", "0", "B", "-w"]

/-- The command succeeds where nothing is in its way. -/
lemma runWords_setKeyWords {backups : List (String × File.Entry)} {d d' : Disk}
    (hbegin : (Transaction.begin (Disk.fileSystem .sample) .sample).run
      (Disk.withBackups backups) = (.ok .sample, d))
    (hreplace : d.replaceText "k.c" "LAYOUT(B)" = .ok d') :
    (runWords (Disk.fileSystem .sample) none setKeyWords).run (Disk.withBackups backups) =
      ({ out := "✓ Updated k.c\n" }, d') := by
  have hwords : ofWords setKeyWords = .ok (.setKey "k.c" 0 0 "B" none true) := rfl
  have hpath : expandHome none (Command.setKey "k.c" 0 0 "B" none true).path = "k.c" := rfl
  have hcontent : ((Disk.fileSystem .sample).readText "k.c").run (Disk.withBackups backups) =
      (.ok "LAYOUT(A)", Disk.withBackups backups) :=
    congrArg (·, Disk.withBackups backups) Disk.withBackups_readText
  have hedit : Edit.setKey "LAYOUT(A)" 0 0 "B" none = ⟨"LAYOUT(B)", true, none⟩ := by cbv
  have hparse : Keymap.parse "LAYOUT(B)" none = .ok ⟨"LAYOUT", [[.word "B" 7 8]], 9, {}⟩ := by cbv
  rw [runWords, runWith, hwords]
  dsimp only
  rw [run, hpath]
  dsimp only
  rw [File.run_bind_of_eq hcontent]
  dsimp only
  rw [runSetKey, hedit]
  simp only [Bool.not_true, Bool.false_eq_true, if_true, if_false]
  rw [run_writeBack KeymapFile.ofPath?_sample Disk.withBackups_isPresent
    Disk.withBackups_isReadOnly hbegin hparse hreplace]
  rfl

/-- The command edits the keymap on the disk and leaves the old one in a backup. -/
theorem runWith_keeps_keymap_setKey :
    let after := ((runWith (Disk.fileSystem .sample) none ofWords setKeyWords).run Disk.sample).2
    (Command.setKey "k.c" 0 0 "B" none true).Edited "k.c" Disk.sample after ∧
      BackedUp "k.c" Disk.sample after := by
  have hfs := Disk.faithful_fileSystem .sample
  have hclear : ∀ file, KeymapFile.ofPath? "k.c" = some file → file.Clear Disk.sample := by
    rintro file hfile
    cases KeymapFile.ofPath?_sample.symm.trans hfile
    exact KeymapFile.apart_sample.clear
  obtain ⟨-, hedited, hkept⟩ :=
    (runWith_keeps_keymap hfs none ofWords setKeyWords Disk.sample).2 _ rfl
  obtain ⟨-, hbacked, -⟩ := hkept hclear
  -- Nothing is in the way of the command, so that it succeeds.
  obtain ⟨d, -, hbegin⟩ := File.exists_run_begin_sample
  have hread : Disk.sample.readBytes KeymapFile.sample.path = .ok "LAYOUT(A)".toUTF8 :=
    Disk.readText_eq_ok_iff.1 Disk.withBackups_readText
  obtain ⟨hbegun, -⟩ := File.begin_keeps hfs hread hbegin
  obtain ⟨d', hreplace⟩ :=
    (Disk.settled_of_readBytes (hbegun _ rfl).2.1).exists_replaceText "LAYOUT(B)"
  have hexit : ((runWith (Disk.fileSystem .sample) none ofWords setKeyWords).run
      Disk.sample).1.exit = 0 :=
    congrArg (fun r => r.1.exit) (runWords_setKeyWords hbegin hreplace)
  exact ⟨hedited rfl hexit, hbacked rfl hexit⟩

/-- Where a link to the keymap has the name of the backup, the command succeeds, and the old content
is nowhere on the disk any more. -/
theorem setKey_loses_text :
    let run := (runWords (Disk.fileSystem .sample) none setKeyWords).run Disk.linked
    Disk.linked.readText "k.c" = .ok "LAYOUT(A)" ∧ run.1.exit = 0 ∧
      run.2.readText "k.c" = .ok "LAYOUT(B)" ∧
      ∀ place, run.2.kindAt place ≠ some (.file "LAYOUT(A)".toUTF8) := by
  obtain ⟨d, hbegin, hcopied, hpath, -⟩ := File.exists_run_begin_linked
  have hread : d.readBytes "k.c" = .ok "LAYOUT(A)".toUTF8 :=
    Disk.readBytes_eq_ok_iff.2 ⟨_, hpath true, hcopied.kindAt_site⟩
  obtain ⟨d', hreplace⟩ := (Disk.settled_of_readBytes hread).exists_replaceText "LAYOUT(B)"
  have hstored := (Disk.settled_of_readBytes hread).stored_of_replaceText hreplace
  obtain ⟨site, hsite, -, hreplaced⟩ := Disk.replaceText_eq_ok hreplace
  cases hsite.unique (hpath false)
  have hrun := runWords_setKeyWords hbegin hreplace
  intro run
  rw [show run = _ from hrun]
  refine ⟨Disk.withBackups_readText, rfl, Disk.readText_eq_ok_iff.2 hstored.readBytes, ?_⟩
  intro place hold
  by_cases hplace : place = ["k.c"]
  · rw [hplace, hreplaced.kindAt_site] at hold
    simp [String.toByteArray_inj] at hold
  · rw [hreplaced.kindAt_of_ne hplace, hcopied.kindAt_of_ne hplace] at hold
    exact hplace (Disk.linked_kindAt hold)

end Command

end Keyplan
