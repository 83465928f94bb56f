import Keyplan.File.KeymapFile
import Keyplan.Proofs.Backups
import Keyplan.Regex.Engine
import Mathlib

/-!
# Runs over one keymap file

A run is any sequence of transactions that begin, commit and roll back, with others reading,
overwriting and removing the file in between, at any times and with any operations on files failing.
`step_cases` says what one event can do to the disk, `Sound` is what every event keeps
(`Sound.step`), and with it every run (`sound_run`): a backup holds the content of the last
transaction that began with it (`backup_of_last_begin`). So rolling back the last transaction that
began restores what the file held then (`rollback_newest`), unless a link to the file has the name
of the backup (`rollback_through_link`). Transactions that begin within one second share a backup,
and the first content is lost (`begin_overwrites_backup`).
-/

namespace Keyplan.File

/-- What can happen to a keymap file: transactions begin, and those that began do something, counted
from the last one; the file is read; someone else overwrites or removes it. A transaction may go on
after it committed. -/
inductive Act where
  | begin
  | commit (index : Nat) (text : String)
  | commitChecked (index : Nat) (text : String)
  | rollback (index : Nat)
  | read
  | overwrite (bytes : ByteArray)
  | remove

/-- Something that happens to a keymap file, with the operations on files as they are by then. -/
abbrev Incident := FileSystem (StateM Disk) × Act

/-- A disk and the transactions that began so far, each with what the file held then. The last one
comes first. -/
structure History where
  disk : Disk
  begun : List (Transaction × Except OsError ByteArray) := []

namespace History

/-- A transaction that began does something. -/
def act (h : History) (index : Nat) (f : Transaction → StateM Disk (Except FileError Unit)) :
    History :=
  match h.begun[index]? with
  | some (t, _) => { h with disk := ((f t).run h.disk).2 }
  | none => h

/-- Something happens. -/
def step [PatternEngine] (file : KeymapFile) (h : History) (incident : Incident) : History :=
  let (fs, act) := incident
  match act with
  | .begin =>
    match (Transaction.begin fs file).run h.disk with
    | (.ok t, d) => ⟨d, (t, h.disk.readBytes file.path) :: h.begun⟩
    | (.error _, d) => { h with disk := d }
  | .commit index text => h.act index fun t => t.commit fs text
  | .commitChecked index text => h.act index fun t => t.commitChecked fs text
  | .rollback index => h.act index fun t => t.rollback fs
  | .read => { h with disk := ((file.read fs).run h.disk).2 }
  | .overwrite bytes => { h with disk := (h.disk.writeBytes file.path bytes).toOption.getD h.disk }
  | .remove => { h with disk := (h.disk.removeFile file.path).toOption.getD h.disk }

/-- What is left of a disk after a run. -/
def run [PatternEngine] (file : KeymapFile) (d : Disk) (incidents : List Incident) : History :=
  incidents.foldl (step file) ⟨d, []⟩

/-- What the file held when the last transaction with the backup began. -/
def latest? (h : History) (backup : Path) : Option (Except OsError ByteArray) :=
  (h.begun.find? fun e => e.1.backupPath = backup).map Prod.snd

variable {file : KeymapFile} {h : History}

/-- What a transaction does changes nothing or changes the file. -/
lemma act_cases {index : Nat} {f : Transaction → StateM Disk (Except FileError Unit)}
    (hfile : ∀ e ∈ h.begun, e.1.file = file)
    (hf : ∀ t r d, (f t).run h.disk = (r, d) →
      d = h.disk ∨ ∃ text, h.disk.replaceText t.file.path text = .ok d) :
    h.act index f = h ∨
      ∃ d, Disk.Touched file.path h.disk d ∧ h.act index f = { h with disk := d } := by
  rw [act]
  cases hindex : h.begun[index]? with
  | none => exact .inl rfl
  | some e =>
    obtain ⟨t, content⟩ := e
    cases hfile _ (List.mem_of_getElem? hindex)
    rcases hf t _ _ rfl with hsame | ⟨text, hreplace⟩
    · exact .inl (congrArg (fun d => { h with disk := d }) hsame)
    · exact .inr ⟨_, Disk.touched_of_replaceText hreplace, rfl⟩

/-- On a disk, a transaction begins with what the file holds. -/
lemma step_begin [PatternEngine] {clock : Moment} {backup : Path} {text : String} {d : Disk}
    (hbackup : file.backupPath? clock = some backup) (hread : h.disk.readText file.path = .ok text)
    (hwrite : h.disk.writeText backup text = .ok d) :
    step file h (Disk.fileSystem clock, .begin) =
      ⟨d, (⟨file, backup⟩, .ok text.toUTF8) :: h.begun⟩ := by
  simp only [step, Disk.run_begin hbackup hread hwrite, Disk.readText_eq_ok_iff.1 hread]

/-- An event changes nothing, or makes a backup, or changes the file. -/
lemma step_cases [PatternEngine] (hfile : ∀ e ∈ h.begun, e.1.file = file) {incident : Incident}
    (hfs : incident.1.Whole id) :
    step file h incident = h ∨
    (∃ clock backup text d, file.backupPath? clock = some backup ∧
      h.disk.readText file.path = .ok text ∧ h.disk.writeText backup text = .ok d ∧
      step file h incident = ⟨d, (⟨file, backup⟩, .ok text.toUTF8) :: h.begun⟩) ∨
    ∃ d, Disk.Touched file.path h.disk d ∧ step file h incident = { h with disk := d } := by
  obtain ⟨fs, act⟩ := incident
  replace hfs : fs.Whole id := hfs
  cases act with
  | begin =>
    rcases hrun : (Transaction.begin fs file).run h.disk with ⟨r, d⟩
    rcases begin_cases hfs.toFaithful hrun with
      ⟨hfail, -⟩ | ⟨clock, backup, text, rfl, hbackup, hread, hwrite⟩
    · obtain rfl : d = h.disk := begin_fails hfs hrun hfail
      cases r with
      | error e =>
        left
        simp only [step, hrun]
      | ok t => cases hfail
    · refine .inr (.inl ⟨clock, backup, text, d, hbackup, hread, hwrite, ?_⟩)
      have hbytes : h.disk.readBytes file.path = .ok text.toUTF8 :=
        Disk.readText_eq_ok_iff.1 hread
      simp only [step, hrun, hbytes]
  | commit index text =>
    refine (act_cases hfile fun t r d hrun => ?_).imp_right .inr
    exact (commit_cases hfs.toFaithful hrun).imp (fun hfail => hfail.2) fun hok => ⟨text, hok.2⟩
  | commitChecked index text =>
    refine (act_cases hfile fun t r d hrun => ?_).imp_right .inr
    exact (commitChecked_cases hfs.toFaithful hrun).imp (fun hfail => hfail.2) fun hok =>
      ⟨text, hok.2.2⟩
  | rollback index =>
    refine (act_cases hfile fun t r d hrun => ?_).imp_right .inr
    exact (rollback_cases hfs.toFaithful hrun).imp (fun hfail => hfail.2) fun hok => hok.2
  | read =>
    left
    rcases hrun : (file.read fs).run h.disk with ⟨r, d⟩
    obtain rfl : d = h.disk := read_keeps hfs.toFaithful hrun
    simp only [step, hrun]
  | overwrite bytes =>
    rw [step]
    cases hwrite : h.disk.writeBytes file.path bytes with
    | error e => exact .inl rfl
    | ok d => exact .inr (.inr ⟨d, Disk.touched_of_writeBytes hwrite, rfl⟩)
  | remove =>
    rw [step]
    cases hremove : h.disk.removeFile file.path with
    | error e => exact .inl rfl
    | ok d => exact .inr (.inr ⟨d, Disk.touched_of_removeFile hremove, rfl⟩)

/-- What every event keeps: a backup holds what the file held when the last transaction with it
began, and once a transaction began, the file can be replaced. -/
structure Sound (file : KeymapFile) (h : History) : Prop where
  apart : file.Apart h.disk
  file_eq : ∀ e ∈ h.begun, e.1.file = file
  settled : h.begun ≠ [] → h.disk.Settled file.path
  stored : ∀ backup content, h.latest? backup = some content →
    (∃ clock, file.backupPath? clock = some backup) ∧
      ∃ text : String, content = .ok text.toUTF8 ∧ h.disk.Stored backup text.toUTF8

/-- Where a backup has a content, a transaction began. -/
lemma begun_ne_nil_of_latest? {backup : Path} {content : Except OsError ByteArray}
    (h' : h.latest? backup = some content) : h.begun ≠ [] := by
  intro hnil
  simp [latest?, hnil] at h'

/-- The last transaction that began gives its backup a new content. -/
lemma latest?_cons (d : Disk) (t : Transaction) (content : Except OsError ByteArray)
    (begun : List (Transaction × Except OsError ByteArray)) (backup : Path) :
    latest? ⟨d, (t, content) :: begun⟩ backup =
      if t.backupPath = backup then some content else latest? ⟨d, begun⟩ backup := by
  by_cases ht : t.backupPath = backup
  · simp [latest?, ht]
  · simp [latest?, ht]

/-- Every event keeps it. -/
lemma Sound.step [PatternEngine] (hs : Sound file h) {incident : Incident}
    (hfs : incident.1.Whole id) : Sound file (step file h incident) := by
  rcases step_cases hs.file_eq hfs with hsame |
    ⟨clock, backup, text, d, hbackup, hread, hwrite, hstep⟩ | ⟨d, htouch, hstep⟩
  · rwa [hsame]
  · rw [hstep]
    obtain ⟨hapart, hstored, hfile, hothers⟩ := hs.apart.writeBytes hbackup hwrite
    refine ⟨hapart, ?_, ?_, ?_⟩
    · rintro e (_ | ⟨_, he⟩)
      · rfl
      · exact hs.file_eq e he
    · intro _
      exact Disk.settled_of_readBytes (hfile _ (Disk.readText_eq_ok_iff.1 hread))
    · intro backup' content hlatest
      rw [latest?_cons] at hlatest
      split at hlatest
      · next heq =>
        cases hlatest
        cases heq
        exact ⟨⟨clock, hbackup⟩, text, rfl, hstored⟩
      · next hne =>
        obtain ⟨⟨clock', hbackup'⟩, text', rfl, hstored'⟩ := hs.stored backup' content hlatest
        exact ⟨⟨clock', hbackup'⟩, text', rfl,
          hothers clock' backup' _ hbackup' (Ne.symm hne) hstored'⟩
  · rw [hstep]
    refine ⟨hs.apart.touched htouch, hs.file_eq, ?_, ?_⟩
    · intro hne
      exact htouch.settled (hs.settled hne)
    · intro backup content hlatest
      obtain ⟨⟨clock, hbackup⟩, text, rfl, hstored⟩ := hs.stored backup content hlatest
      have hsettled := hs.settled (begun_ne_nil_of_latest? hlatest)
      exact ⟨⟨clock, hbackup⟩, text, rfl,
        hs.apart.stored_of_touched hbackup hsettled htouch hstored⟩

/-- Every run keeps it. -/
lemma sound_run [PatternEngine] {d : Disk} (hapart : file.Apart d) {incidents : List Incident}
    (hwhole : ∀ e ∈ incidents, e.1.Whole id) : Sound file (run file d incidents) := by
  have hsteps : ∀ h, Sound file h → Sound file (incidents.foldl (step file) h) := by
    induction incidents with
    | nil => exact fun _ hs => hs
    | cons incident incidents ih =>
      obtain ⟨hfs, hwhole⟩ := List.forall_mem_cons.1 hwhole
      exact fun h hs => ih hwhole _ (hs.step hfs)
  exact hsteps ⟨d, []⟩ ⟨hapart, by simp, by simp, by simp [latest?]⟩

/-- Rolling back restores what the file held when the last transaction with the backup began. -/
lemma Sound.rollback (hs : Sound file h) {t : Transaction} {content : Except OsError ByteArray}
    (ht : t.file = file) (hlatest : h.latest? t.backupPath = some content)
    {fs : FileSystem (StateM Disk)} (hfs : fs.Able id) :
    h.disk.readBytes t.backupPath = content ∧
    ∃ d, (t.rollback fs).run h.disk = (.ok (), d) ∧ d.readBytes file.path = content := by
  obtain ⟨-, text, rfl, hstored⟩ := hs.stored t.backupPath content hlatest
  have hsettled := hs.settled (begun_ne_nil_of_latest? hlatest)
  obtain ⟨d, hreplace⟩ := hsettled.exists_replaceText text
  have hread : h.disk.readText t.backupPath = .ok text :=
    Disk.readText_eq_ok_iff.2 hstored.readBytes
  obtain ⟨d', hrun, rfl⟩ := hfs.exists_run_rollback hread (ht ▸ hreplace)
  exact ⟨hstored.readBytes, d', hrun, (hsettled.stored_of_replaceText hreplace).readBytes⟩

/-- Rolling back the last transaction that began succeeds and restores what the file held when it
began, whatever happened and whatever failed since, on every disk where no backup is a link or the
file itself. -/
theorem rollback_newest [PatternEngine] {d : Disk} (hapart : file.Apart d)
    {incidents : List Incident} (hwhole : ∀ e ∈ incidents, e.1.Whole id) {t : Transaction}
    {content : Except OsError ByteArray} {earlier : List (Transaction × Except OsError ByteArray)}
    (hbegun : (run file d incidents).begun = (t, content) :: earlier)
    {fs : FileSystem (StateM Disk)} (hfs : fs.Able id) :
    ∃ d', (t.rollback fs).run (run file d incidents).disk = (.ok (), d') ∧
      d'.readBytes file.path = content := by
  have hs := sound_run hapart hwhole
  have hlatest : (run file d incidents).latest? t.backupPath = some content := by
    simp [latest?, hbegun]
  exact (hs.rollback (hs.file_eq (t, content) (by simp [hbegun])) hlatest hfs).2

/-- Acts on a disk within one second. -/
def within (clock : Moment) (acts : List Act) : List Incident :=
  acts.map fun act => (Disk.fileSystem clock, act)

/-- A run within one second goes on act by act. -/
lemma run_within [PatternEngine] (d : Disk) (clock : Moment) (acts : List Act) :
    run file d (within clock acts) =
      acts.foldl (fun h act => step file h (Disk.fileSystem clock, act)) ⟨d, []⟩ := by
  rw [run, within, List.foldl_map]

/-- On a disk no write breaks off. -/
lemma whole_within {clock : Moment} {acts : List Act} :
    ∀ e ∈ within clock acts, e.1.Whole id := by
  intro e he
  obtain ⟨act, -, rfl⟩ := List.mem_map.1 he
  exact Disk.whole_fileSystem clock

/-- A transaction begins on the disk. -/
lemma begun_sample [PatternEngine] : (run .sample .sample (within .sample [.begin])).begun =
    [(.sample, .ok "LAYOUT(A)".toUTF8)] := by
  obtain ⟨d, -, hbegin⟩ := exists_run_begin_sample
  have hread : Disk.sample.readBytes "k.c" = .ok "LAYOUT(A)".toUTF8 :=
    Disk.readText_eq_ok_iff.1 Disk.withBackups_readText
  have hpath : KeymapFile.sample.path = "k.c" := rfl
  simp only [run_within, List.foldl_cons, List.foldl_nil, step, hbegin, hpath, hread]

/-- A file that was overwritten and then removed is there again. -/
theorem rollback_newest_removed :
    ∃ d, (Transaction.sample.rollback (Disk.fileSystem .sample)).run (run .sample .sample
        (within .sample [.begin, .overwrite "B".toUTF8, .remove])).disk = (.ok (), d) ∧
      d.readBytes "k.c" = .ok "LAYOUT(A)".toUTF8 := by
  have hbegun : (run .sample .sample
      (within .sample [.begin, .overwrite "B".toUTF8, .remove])).begun =
        [(.sample, .ok "LAYOUT(A)".toUTF8)] := begun_sample
  exact rollback_newest KeymapFile.apart_sample whole_within hbegun
    (Disk.able_fileSystem .sample)

/-- Where a link to the file has the name of the backup, rolling back succeeds and leaves what
others wrote to the file. -/
theorem rollback_through_link :
    let h := run .sample .linked (within .sample [.begin, .overwrite "B".toUTF8])
    h.begun = [(.sample, .ok "LAYOUT(A)".toUTF8)] ∧
    ∃ d, (Transaction.sample.rollback (Disk.fileSystem .sample)).run h.disk = (.ok (), d) ∧
      d.readBytes "k.c" = .ok "B".toUTF8 := by
  obtain ⟨d, hbegin, hcopied, hpath, hbackup⟩ := exists_run_begin_linked
  have hread : Disk.linked.readBytes "k.c" = .ok "LAYOUT(A)".toUTF8 :=
    Disk.readText_eq_ok_iff.1 Disk.withBackups_readText
  have hplain : d.Plain ["k.c"] := by simp [Disk.Plain, hcopied.kindAt_site]
  obtain ⟨d₁, hwrite⟩ := (hpath true).exists_writeBytes hplain "B".toUTF8
  have hrun : run .sample .linked (within .sample [.begin, .overwrite "B".toUTF8]) =
      ⟨d₁, [(.sample, .ok "LAYOUT(A)".toUTF8)]⟩ := by
    have hname : KeymapFile.sample.path = "k.c" := rfl
    simp only [run_within, List.foldl_cons, List.foldl_nil, step, hbegin, hname, hread, hwrite,
      Except.toOption, Option.getD_some]
  -- What was written to the file is read at the backup, too.
  obtain ⟨site, hsite, -, hwritten⟩ := Disk.writeBytes_eq_ok hwrite
  cases hsite.unique (hpath true)
  have hbackup₁ := hbackup.patch_plain hwritten hplain (by simp)
  have hread₁ : d₁.readText Transaction.sample.backupPath = .ok "B" :=
    Disk.readText_eq_ok_iff.2 (Disk.readBytes_eq_ok_iff.2 ⟨_, hbackup₁, hwritten.kindAt_site⟩)
  have hsettled := Disk.settled_of_readBytes (Disk.readBytes_of_writeBytes hwrite)
  obtain ⟨d₂, hreplace⟩ := hsettled.exists_replaceText "B"
  obtain ⟨d₃, hroll, rfl⟩ :=
    (Disk.able_fileSystem .sample).exists_run_rollback (t := .sample) hread₁ hreplace
  intro h
  rw [show h = _ from hrun]
  exact ⟨rfl, d₃, hroll, (hsettled.stored_of_replaceText hreplace).readBytes⟩

/-- After any run, a backup holds what the file held when the last transaction with that backup
began, and rolling back any transaction restores that. It is what the file held when the transaction
itself began if no later one has the same backup. -/
theorem backup_of_last_begin [PatternEngine] {d : Disk} (hapart : file.Apart d)
    {incidents : List Incident} (hwhole : ∀ e ∈ incidents, e.1.Whole id)
    {t : Transaction} {content : Except OsError ByteArray}
    {later earlier : List (Transaction × Except OsError ByteArray)}
    (hbegun : (run file d incidents).begun = later ++ (t, content) :: earlier)
    {fs : FileSystem (StateM Disk)} (hfs : fs.Able id) :
    ∃ kept, (run file d incidents).latest? t.backupPath = some kept ∧
      (run file d incidents).disk.readBytes t.backupPath = kept ∧
      (∃ d', (t.rollback fs).run (run file d incidents).disk = (.ok (), d') ∧
        d'.readBytes file.path = kept) ∧
      ((∀ e ∈ later, e.1.backupPath ≠ t.backupPath) → kept = content) := by
  have hs := sound_run hapart hwhole
  have ht : t.file = file := hs.file_eq (t, content) (by simp [hbegun])
  cases hlatest : (run file d incidents).latest? t.backupPath with
  | none => simp [latest?, hbegun] at hlatest
  | some kept =>
    obtain ⟨hread, hroll⟩ := hs.rollback ht hlatest hfs
    refine ⟨kept, rfl, hread, hroll, fun hother => ?_⟩
    rw [latest?, hbegun, List.find?_append, List.find?_eq_none.2 (by simpa using hother)] at hlatest
    simpa using hlatest.symm

/-- The backup stays as it is while the file is overwritten. -/
theorem backup_of_last_begin_overwritten :
    (run .sample .sample (within .sample [.begin, .overwrite "B".toUTF8])).disk.readBytes
      Transaction.sample.backupPath = .ok "LAYOUT(A)".toUTF8 := by
  have hbegun : (run .sample .sample (within .sample [.begin, .overwrite "B".toUTF8])).begun =
      [] ++ [(.sample, .ok "LAYOUT(A)".toUTF8)] := begun_sample
  obtain ⟨kept, -, hread, -, hkept⟩ := backup_of_last_begin KeymapFile.apart_sample
    whole_within hbegun (Disk.able_fileSystem .sample)
  rw [hread, hkept (by simp)]

/-- A transaction takes over the backup of one that began in the same second, even if the file has
another content by then. -/
lemma begun_of_begin_twice [PatternEngine] {d d₁ : Disk} (hapart : file.Apart d) {clock : Moment}
    {backup : Path} {old : String} (hbackup : file.backupPath? clock = some backup)
    (hread : d.readText file.path = .ok old) (hwrite : d.writeText backup old = .ok d₁)
    (text : String) :
    (run file d (within clock [.begin, .overwrite text.toUTF8, .begin])).begun =
      [(⟨file, backup⟩, .ok text.toUTF8), (⟨file, backup⟩, .ok old.toUTF8)] := by
  have hstep := step_begin (h := ⟨d, []⟩) hbackup hread hwrite
  have hread₁ := Disk.readBytes_of_copy (Disk.readText_eq_ok_iff.1 hread) hwrite
  obtain ⟨d₂, hwrite₂⟩ := Disk.exists_writeBytes_of_readBytes hread₁ text.toUTF8
  have hread₂ := Disk.readText_eq_ok_iff.2 (Disk.readBytes_of_writeBytes hwrite₂)
  have hsecond : run file d (within clock [.begin, .overwrite text.toUTF8]) =
      ⟨d₂, [(⟨file, backup⟩, .ok old.toUTF8)]⟩ := by
    simp only [run_within, List.foldl_cons, List.foldl_nil, hstep]
    simp only [step, hwrite₂, Except.toOption, Option.getD_some]
  -- The first backup is still there, and the second one is written over it.
  have hs := hsecond ▸ sound_run hapart (@whole_within clock _)
  obtain ⟨-, old', -, hstored⟩ := hs.stored backup (.ok old.toUTF8) (by simp [latest?])
  obtain ⟨d₃, hwrite₃⟩ := Disk.exists_writeBytes_of_readBytes hstored.readBytes text.toUTF8
  change (step file (run file d (within clock [.begin, .overwrite text.toUTF8]))
    (Disk.fileSystem clock, .begin)).begun = _
  rw [hsecond, step_begin hbackup hread₂ hwrite₃]

/-- Two transactions that begin in one second with different contents in between: the first content
is in no backup any more, and rolling back the first transaction restores the second content. -/
theorem begin_overwrites_backup :
    let h := run .sample .sample (within .sample [.begin, .overwrite "B".toUTF8, .begin])
    h.begun = [(.sample, .ok "B".toUTF8), (.sample, .ok "LAYOUT(A)".toUTF8)] ∧
    h.disk.readBytes Transaction.sample.backupPath = .ok "B".toUTF8 ∧
    ∃ d, (Transaction.sample.rollback (Disk.fileSystem .sample)).run h.disk = (.ok (), d) ∧
      d.readBytes "k.c" = .ok "B".toUTF8 := by
  intro h
  have hapart := KeymapFile.apart_sample
  obtain ⟨d, hwrite, -⟩ := exists_run_begin_sample
  have hbegun : h.begun = _ :=
    begun_of_begin_twice hapart Transaction.sample_backupPath Disk.withBackups_readText hwrite "B"
  have hlatest : h.latest? Transaction.sample.backupPath = some (.ok "B".toUTF8) := by
    simp [latest?, hbegun]
  exact ⟨hbegun, (sound_run hapart whole_within).rollback rfl hlatest
    (Disk.able_fileSystem .sample)⟩

end History

end Keyplan.File
