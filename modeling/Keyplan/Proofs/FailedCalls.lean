import Keyplan.File.KeymapFile
import Keyplan.Proofs.Backups
import Keyplan.Regex.Engine

/-!
# Calls that fail

A run is any sequence of calls on any keymap files, with anything happening to the disk in between,
and its log says of each call what was there before, what it returned and what was there afterwards
(`log`). Every call of a log is safe (`Record.Safe`): if it failed, the keymap at its path has the
content it had, with one exception, a copy that breaks off half-way, at a path that leads to the
keymap itself (`Record.Broken`). `call_safe` shows that for one call, from what the operations on
files do to a disk or fail to do, and `exists_call_of_mem_log` leads every record of a log back to
one call. Where no write breaks off, nothing is excepted (`keeps_of_run`); where one does, the
exception is real (`begin_empties_keymap`). The main statement is `log_safe`.
-/

namespace Keyplan.File

/-! ## Runs -/

/-- A call on a keymap file or on a transaction. -/
inductive Call where
  | openAt (path : Path)
  | begin (file : KeymapFile)
  | commit (t : Transaction) (text : String)
  | commitChecked (t : Transaction) (text : String)
  | rollback (t : Transaction)

namespace Call

/-- The path of the keymap that the call is about. -/
def path : Call → Path
  | openAt path => path
  | begin file => file.path
  | commit t _ => t.file.path
  | commitChecked t _ => t.file.path
  | rollback t => t.file.path

/-- What the call does, and whether it fails. -/
def run [PatternEngine] {m : Type → Type} [Monad m] (fs : FileSystem m) :
    Call → m (Except FileError Unit)
  | openAt path => do return (← KeymapFile.openAt fs path).map fun _ => ()
  | begin file => do return (← Transaction.begin fs file).map fun _ => ()
  | commit t text => t.commit fs text
  | commitChecked t text => t.commitChecked fs text
  | rollback t => t.rollback fs

end Call

/-- What happens in a run: a call, with the operations on files as they are by then, or anything
else. -/
inductive Event (σ : Type) where
  | call (fs : FileSystem (StateM σ)) (c : Call)
  | outside (f : σ → σ)

/-- A call in a run. -/
structure Record (σ : Type) where
  call : Call
  before : σ
  result : Except FileError Unit
  after : σ

/-- The calls of a run. -/
def log [PatternEngine] {σ : Type} (s : σ) : List (Event σ) → List (Record σ)
  | [] => []
  | .outside f :: events => log (f s) events
  | .call fs c :: events =>
    let (result, s') := (c.run fs).run s
    ⟨c, s, result, s'⟩ :: log s' events

/-- The operations act on a disk, and nothing is said to be present that is not. -/
structure FileSystem.Truthful {σ : Type} (disk : σ → Disk) (fs : FileSystem (StateM σ)) : Prop
    extends fs.Faithful disk where
  present {p s s'} : (fs.isPresent p).run s = (true, s') → (disk s).isPresent p = true

/-- On a disk, what is said to be present is. -/
lemma Disk.truthful_fileSystem (clock : Moment) : (Disk.fileSystem clock).Truthful id where
  toFaithful := Disk.faithful_fileSystem clock
  present h := (Prod.mk.inj h).1

namespace Record

variable {σ : Type}

/-- Copying the keymap broke off half-way, and the path of the copy leads to the keymap. -/
def Broken (disk : σ → Disk) (r : Record σ) : Prop :=
  ∃ file clock backup bytes place, r.call = .begin file ∧ file.backupPath? clock = some backup ∧
    (disk r.before).writeBytes backup bytes = .ok (disk r.after) ∧
    (disk r.before).Reaches true backup place ∧ (disk r.before).Reaches true file.path place

/-- The call kept the content of its keymap, or it succeeded. -/
structure Safe [PatternEngine] (disk : σ → Disk) (r : Record σ) : Prop where
  /-- A call that fails leaves the content as it was. -/
  keeps : r.result.isOk = false →
    (disk r.after).readBytes r.call.path = (disk r.before).readBytes r.call.path ∨ r.Broken disk
  /-- A text is refused exactly if it is no keymap. -/
  refused : ∀ t text e, r.call = .commitChecked t text →
    (r.result = .error (.invalidKeymap e) ↔ Keymap.parse text none = .error e)
  /-- Refusing a text changes nothing. -/
  untouched : ∀ t text e, r.call = .commitChecked t text →
    r.result = .error (.invalidKeymap e) → r.after = r.before
  /-- An accepted text is a keymap. It alone takes the place of what is at the path, and it is what
  is read there, unless that was a link that the path itself led through. -/
  written : ∀ t text, r.call = .commitChecked t text → r.result = .ok () →
    (∃ m, Keymap.parse text none = .ok m) ∧
    ∃ place, (disk r.before).Reaches false r.call.path place ∧
      Disk.Patched (disk r.before) (disk r.after) place (some (.file text.toUTF8)) ∧
      ((disk r.after).readText r.call.path = .ok text ∨
        (∃ target, (disk r.before).kindAt place = some (.link target)) ∧
          (disk r.after).readText r.call.path = .error .notADirectory)

end Record

/-! ## One call -/

section
variable {σ : Type} {disk : σ → Disk} {fs : FileSystem (StateM σ)} {s s' : σ}

/-- Opening a file never changes its content. -/
lemma openAt_readBytes (hfs : fs.Truthful disk) {path : Path} {r : Except FileError KeymapFile}
    (h : (KeymapFile.openAt fs path).run s = (r, s')) :
    (disk s').readBytes path = (disk s).readBytes path := by
  obtain ⟨hsame | ⟨file, s₁, hpresent, -, hmake⟩, -⟩ := openAt_cases hfs.toFaithful h
  · rw [hsame]
  · exact Disk.readBytes_of_makeDir (hfs.present hpresent) hmake

/-- A transaction that fails to begin keeps the content of the file, unless the backup that it wrote
is the file. -/
lemma begin_keeps_content (hfs : fs.Faithful disk) {file : KeymapFile}
    {r : Except FileError Transaction} (h : (Transaction.begin fs file).run s = (r, s'))
    (hfail : r.isOk = false) :
    (disk s').readBytes file.path = (disk s).readBytes file.path ∨
      ∃ clock backup bytes place, file.backupPath? clock = some backup ∧
        (disk s).writeBytes backup bytes = .ok (disk s') ∧
        (disk s).Reaches true backup place ∧ (disk s).Reaches true file.path place := by
  rcases begin_cases hfs h with
    ⟨-, hsame | ⟨clock, backup, text, e, s₁, hbackup, htext, hs₁, hwritten⟩⟩ |
    ⟨clock, backup, text, rfl, -⟩
  · exact .inl (by rw [hsame])
  · rcases hfs.writeText_error hwritten with hsame | ⟨bytes, hwrite⟩
    · exact .inl (by rw [hsame, hs₁])
    rw [hs₁] at hwrite
    obtain ⟨site, hsite, hplain, hpatch⟩ := Disk.writeBytes_eq_ok hwrite
    by_cases hown : (disk s).Reaches true file.path site
    · exact .inr ⟨clock, backup, bytes, site, hbackup, hwrite, hsite, hown⟩
    · have hread := Disk.readText_eq_ok_iff.1 htext
      exact .inl ((hpatch.readBytes hplain hown hread).trans hread.symm)
  · cases hfail

/-- A commit refuses no text. -/
lemma commit_ne_invalid {t : Transaction} {text : String} {e : ParseError} :
    (t.commit fs text).run s ≠ (.error (.invalidKeymap e), s') := by
  intro h
  rw [Transaction.commit] at h
  obtain ⟨replaced, s₁, -, h⟩ := run_bind_eq h
  obtain ⟨hr, -⟩ := run_pure_eq h
  cases replaced <;> simp [Except.mapError] at hr

/-- A text is refused exactly if it is no keymap, and before anything is done. -/
lemma commitChecked_refused [PatternEngine] {t : Transaction} {text : String} {e : ParseError}
    {r : Except FileError Unit} (h : (t.commitChecked fs text).run s = (r, s')) :
    (r = .error (.invalidKeymap e) ↔ Keymap.parse text none = .error e) ∧
      (r = .error (.invalidKeymap e) → s' = s) := by
  rw [Transaction.commitChecked] at h
  cases hparse : Keymap.parse text none with
  | error e' =>
    rw [hparse] at h
    obtain ⟨rfl, rfl⟩ := run_pure_eq h
    simp
  | ok m =>
    rw [hparse] at h
    have hne : r ≠ .error (.invalidKeymap e) := by
      rintro rfl
      exact commit_ne_invalid h
    simp [hne]

/-- What holds of a call that failed. -/
lemma left_of_isOk {ε α : Type} {r : Except ε α} {P Q : Prop}
    (h : r.isOk = false ∧ P ∨ r.isOk = true ∧ Q) (hfail : r.isOk = false) : P := by
  rcases h with ⟨-, hleft⟩ | ⟨hok, -⟩
  · exact hleft
  · cases hfail.symm.trans hok

/-- What fails fails before its result is used. -/
lemma isOk_of_map {ε α β : Type} {f : α → β} {r : Except ε α} (h : (r.map f).isOk = false) :
    r.isOk = false := by
  cases r with
  | error e => rfl
  | ok a => cases h

/-- Every call is safe. -/
theorem call_safe [PatternEngine] (hfs : fs.Truthful disk) {c : Call} {r : Except FileError Unit}
    (h : (c.run fs).run s = (r, s')) : Record.Safe disk ⟨c, s, r, s'⟩ where
  keeps := by
    intro hfail
    cases c with
    | openAt path =>
      obtain ⟨opened, s₁, hopened, h⟩ := run_bind_eq h
      obtain ⟨-, rfl⟩ := run_pure_eq h
      exact .inl (openAt_readBytes hfs hopened)
    | begin file =>
      obtain ⟨begun, s₁, hbegun, h⟩ := run_bind_eq h
      obtain ⟨rfl, rfl⟩ := run_pure_eq h
      refine (begin_keeps_content hfs.toFaithful hbegun (isOk_of_map hfail)).imp_right ?_
      rintro ⟨clock, backup, bytes, place, hbackup, hwrite, hplace, hown⟩
      exact ⟨file, clock, backup, bytes, place, rfl, hbackup, hwrite, hplace, hown⟩
    | commit t text =>
      have hsame := left_of_isOk (commit_cases hfs.toFaithful h) hfail
      exact .inl (congrArg (·.readBytes t.file.path) hsame)
    | commitChecked t text =>
      have hsame := left_of_isOk (commitChecked_cases hfs.toFaithful h) hfail
      exact .inl (congrArg (·.readBytes t.file.path) hsame)
    | rollback t =>
      have hsame := left_of_isOk (rollback_cases hfs.toFaithful h) hfail
      exact .inl (congrArg (·.readBytes t.file.path) hsame)
  refused := by
    rintro t text e ⟨⟩
    exact (commitChecked_refused h).1
  untouched := by
    rintro t text e ⟨⟩
    exact (commitChecked_refused h).2
  written := by
    rintro t text ⟨⟩ rfl
    rcases commitChecked_cases hfs.toFaithful h with ⟨⟨⟩, -⟩ | ⟨-, hparse, hreplace⟩
    exact ⟨hparse, Disk.readText_of_replaceText hreplace⟩

/-- Where no write breaks off, a call that fails keeps the content of its keymap. -/
lemma keeps_of_run [PatternEngine] (hfs : fs.Truthful disk) (hwhole : fs.Whole disk) {c : Call}
    {r : Except FileError Unit} (h : (c.run fs).run s = (r, s')) (hfail : r.isOk = false) :
    (disk s').readBytes c.path = (disk s).readBytes c.path := by
  have hsafe := (call_safe hfs h).keeps hfail
  cases c with
  | begin file =>
    obtain ⟨begun, s₁, hbegun, h⟩ := run_bind_eq h
    obtain ⟨rfl, rfl⟩ := run_pure_eq h
    rw [begin_fails hwhole hbegun (isOk_of_map hfail)]
  | _ =>
    rcases hsafe with hkeep | ⟨file, clock, backup, bytes, place, hcall, -⟩
    · exact hkeep
    · cases hcall

/-- Every record of a log is of a call in the run. -/
lemma exists_call_of_mem_log [PatternEngine] {events : List (Event σ)} {r : Record σ}
    (h : r ∈ log s events) :
    ∃ fs, .call fs r.call ∈ events ∧ (r.call.run fs).run r.before = (r.result, r.after) := by
  induction events generalizing s with
  | nil => cases h
  | cons event events ih =>
    cases event with
    | outside f =>
      obtain ⟨fs, hmem, hrun⟩ := ih h
      exact ⟨fs, List.mem_cons_of_mem _ hmem, hrun⟩
    | call fs c =>
      rcases List.mem_cons.1 h with rfl | h
      · exact ⟨fs, List.mem_cons_self, rfl⟩
      · obtain ⟨fs, hmem, hrun⟩ := ih h
        exact ⟨fs, List.mem_cons_of_mem _ hmem, hrun⟩

end

/-- Whatever calls a run has, whichever operations on files fail and whatever happens in between, a
call that fails leaves the content of its keymap as it was. Only a copy that breaks off half-way can
spoil it, if the path of the copy leads to the keymap. A text that is no keymap is refused, and
nothing is changed; a text that is accepted is a keymap and takes the place of the file. -/
theorem log_safe [PatternEngine] {σ : Type} (disk : σ → Disk) (events : List (Event σ)) (s : σ) :
    ((∀ fs c, .call fs c ∈ events → fs.Truthful disk) → ∀ r ∈ log s events, r.Safe disk) ∧
    ((∀ fs c, .call fs c ∈ events → fs.Truthful disk ∧ fs.Whole disk) →
      ∀ r ∈ log s events, r.result.isOk = false →
        (disk r.after).readBytes r.call.path = (disk r.before).readBytes r.call.path) := by
  refine ⟨fun hfs r hr => ?_, fun hfs r hr => ?_⟩
  · obtain ⟨fs, hmem, hrun⟩ := exists_call_of_mem_log hr
    exact call_safe (hfs fs r.call hmem) hrun
  · obtain ⟨fs, hmem, hrun⟩ := exists_call_of_mem_log hr
    exact keeps_of_run (hfs fs r.call hmem).1 (hfs fs r.call hmem).2 hrun

/-- A run in which no backup is there to put back, a broken keymap is offered, and then a good
one. -/
def sampleRun : List (Event Disk) :=
  [.call (Disk.fileSystem .sample) (.rollback .sample),
    .call (Disk.fileSystem .sample) (.commitChecked .sample "LAYOUT("),
    .call (Disk.fileSystem .sample) (.commitChecked .sample "LAYOUT(B)")]

/-- The run ends with the good keymap, and the two calls before fail and keep what was there. -/
theorem log_safe_sample :
    ∃ d, log Disk.sample sampleRun =
      [⟨.rollback .sample, Disk.sample, .error (.io .notFound), Disk.sample⟩,
        ⟨.commitChecked .sample "LAYOUT(", Disk.sample, .error (.invalidKeymap (.unbalanced 1)),
          Disk.sample⟩,
        ⟨.commitChecked .sample "LAYOUT(B)", Disk.sample, .ok (), d⟩] ∧
      d.readText "k.c" = .ok "LAYOUT(B)" ∧
      ∀ r ∈ log Disk.sample sampleRun, r.result.isOk = false →
        r.after.readBytes r.call.path = r.before.readBytes r.call.path := by
  have hreach : Disk.sample.Reaches false "k.c" ["k.c"] := Disk.withBackups_reaches_path false
  obtain ⟨d, hreplace⟩ := hreach.exists_replaceText (by rintro ⟨⟩) "LAYOUT(B)"
  have hbackup : Disk.sample.readText Transaction.sample.backupPath = .error .notFound := by
    rw [Disk.readText, Disk.sample_reaches_backup.readBytes_eq]
    rfl
  have hbroken : Keymap.parse "LAYOUT(" none = .error (.unbalanced 1) := by cbv
  have hgood : Keymap.parse "LAYOUT(B)" none = .ok ⟨"LAYOUT", [[.word "B" 7 8]], 9, {}⟩ := by cbv
  have hrollback : (Transaction.sample.rollback (Disk.fileSystem .sample)).run Disk.sample =
      (.error (.io .notFound), Disk.sample) := by
    have hread : ((Disk.fileSystem .sample).readText Transaction.sample.backupPath).run
        Disk.sample = (.error .notFound, Disk.sample) := congrArg (·, Disk.sample) hbackup
    rw [Transaction.rollback, run_bind_of_eq hread]
    rfl
  have hrefused : (Transaction.sample.commitChecked (Disk.fileSystem .sample) "LAYOUT(").run
      Disk.sample = (.error (.invalidKeymap (.unbalanced 1)), Disk.sample) := by
    rw [Transaction.commitChecked, hbroken]
    rfl
  have hwritten : (Transaction.sample.commitChecked (Disk.fileSystem .sample) "LAYOUT(B)").run
      Disk.sample = (.ok (), d) := run_commitChecked .sample hgood hreplace
  have hfs : ∀ fs c, .call fs c ∈ sampleRun → fs.Truthful id ∧ fs.Whole id := by
    intro fs c hmem
    simp only [sampleRun, List.mem_cons, Event.call.injEq, List.not_mem_nil, or_false] at hmem
    rcases hmem with ⟨rfl, -⟩ | ⟨rfl, -⟩ | ⟨rfl, -⟩
    all_goals exact ⟨Disk.truthful_fileSystem .sample, Disk.whole_fileSystem .sample⟩
  obtain ⟨hsafe, hkeeps⟩ := log_safe id sampleRun Disk.sample
  refine ⟨d, by simp only [sampleRun, log, Call.run, hrollback, hrefused, hwritten], ?_,
    hkeeps hfs⟩
  have hlast : ⟨.commitChecked .sample "LAYOUT(B)", Disk.sample, .ok (), d⟩ ∈
      log Disk.sample sampleRun := by
    simp [sampleRun, log, Call.run, hrollback, hrefused, hwritten]
  obtain ⟨-, place, hplace, -, hread | ⟨⟨t, hlink⟩, -⟩⟩ :=
    (hsafe (fun fs c hmem => (hfs fs c hmem).1) _ hlast).written .sample _ rfl rfl
  · exact hread
  · cases hplace.unique hreach
    cases hlink

/-- The disk takes no more bytes. -/
def OsError.ioError : OsError := .other "Input/output error (os error 5)"

/-- The operations on a disk that takes no more bytes: a write empties the file and then fails. -/
def Disk.wornFileSystem (clock : Moment) : FileSystem (StateM Disk) :=
  { Disk.fileSystem clock with
    writeText := fun p _ => do
      match ← (Disk.fileSystem clock).writeText p "" with
      | .ok _ => return .error .ioError
      | .error e => return .error e
    replaceText := fun _ _ => return .error (.writing, .ioError) }

/-- The operations on such a disk do what a disk does or fail. -/
lemma Disk.truthful_wornFileSystem (clock : Moment) : (Disk.wornFileSystem clock).Truthful id where
  isPresent := (Disk.faithful_fileSystem clock).isPresent
  isReadOnly := (Disk.faithful_fileSystem clock).isReadOnly
  makeDir := (Disk.faithful_fileSystem clock).makeDir
  readText := (Disk.faithful_fileSystem clock).readText
  now := (Disk.faithful_fileSystem clock).now
  present := (Disk.truthful_fileSystem clock).present
  writeText {p text d r d'} h := by
    obtain ⟨emptied, d₁, hemptied, h⟩ := run_bind_eq h
    have hwrite := (Disk.whole_fileSystem clock).writeText hemptied
    cases emptied with
    | error e =>
      obtain ⟨rfl, rfl⟩ := run_pure_eq h
      exact .inl ⟨rfl, .inl ((Disk.whole_fileSystem clock).writeText_fails hemptied)⟩
    | ok _ =>
      obtain ⟨rfl, rfl⟩ := run_pure_eq h
      obtain ⟨⟨⟩, -⟩ | ⟨-, hempty⟩ := hwrite
      exact .inl ⟨rfl, .inr ⟨_, hempty⟩⟩
  replaceText h := by
    obtain ⟨rfl, rfl⟩ := run_pure_eq h
    exact .inl ⟨rfl, rfl⟩

/-- Where a link to the keymap has the name of the backup and the disk takes no more bytes, a
transaction fails to begin and leaves the keymap empty. -/
theorem begin_empties_keymap :
    (Disk.wornFileSystem .sample).Truthful id ∧
    Disk.linked.readText "k.c" = .ok "LAYOUT(A)" ∧
    ∃ d, log Disk.linked [.call (Disk.wornFileSystem .sample) (.begin .sample)] =
        [⟨.begin .sample, Disk.linked,
          .error (.backupFailed Transaction.sample.backupPath .ioError), d⟩] ∧
      d.readText "k.c" = .ok "" := by
  have hplain : Disk.linked.Plain ["k.c"] := Disk.withBackups_plain
  obtain ⟨d, hwrite⟩ := Disk.linked_reaches_backup.exists_writeBytes hplain "".toUTF8
  obtain ⟨site, hsite, -, hpatch⟩ := Disk.writeBytes_eq_ok hwrite
  cases hsite.unique Disk.linked_reaches_backup
  have hpath : d.Reaches true "k.c" ["k.c"] :=
    (Disk.withBackups_reaches_path true).patch_plain hpatch hplain (by simp)
  have hempty : ((Disk.fileSystem .sample).writeText Transaction.sample.backupPath "").run
      Disk.linked = (.ok (), d) := by
    change (Disk.commit (Disk.linked.writeText _ _)).run _ = _
    rw [Disk.writeText_eq, hwrite]
    rfl
  have hwritten : ((Disk.wornFileSystem .sample).writeText Transaction.sample.backupPath
      "LAYOUT(A)").run Disk.linked = (.error .ioError, d) := run_bind_of_eq hempty
  have hread : ((Disk.wornFileSystem .sample).readText KeymapFile.sample.path).run Disk.linked =
      (.ok "LAYOUT(A)", Disk.linked) := congrArg (·, Disk.linked) Disk.withBackups_readText
  have hbegin : (Transaction.begin (Disk.wornFileSystem .sample) .sample).run Disk.linked =
      (.error (.backupFailed Transaction.sample.backupPath .ioError), d) :=
    run_begin hread rfl Transaction.sample_backupPath hwritten
  refine ⟨Disk.truthful_wornFileSystem .sample, Disk.withBackups_readText, d, ?_, ?_⟩
  · rw [log, Call.run, run_bind_of_eq hbegin]
    rfl
  · exact Disk.readText_eq_ok_iff.2
      (Disk.readBytes_eq_ok_iff.2 ⟨_, hpath, hpatch.kindAt_site⟩)

end Keyplan.File
