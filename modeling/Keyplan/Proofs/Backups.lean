import Keyplan.File.KeymapFile
import Keyplan.Proofs.DiskOperations
import Mathlib

/-!
# Keymap files and their backups

A backup stands under the name of the file and a time in the directory of backups. `Apart` says of
a disk that no backup is a link and none is the file itself; that holds where the directory of
backups has no link in it and the file is not in it (`apart_of_entries`). Then a write to a backup
leaves the file alone (`Apart.writeBytes`), and a change of the file leaves the backups alone
(`Apart.stored_of_touched`). The second half says once what each action on a keymap file can do to a
disk (`openAt_cases`, `begin_cases`, `commit_cases`, ...), for every file system that does what a
disk does or fails (`FileSystem.Faithful`).
-/

namespace Keyplan

namespace File

/-- A padded number has no slash in it. -/
lemma slash_notMem_padded (width n : Nat) : '/' ∉ (padded width n).toList := by
  intro hmem
  simp only [padded, String.toList_ofList, List.mem_append, List.mem_replicate] at hmem
  rcases hmem with ⟨-, hzero⟩ | hdigit
  · cases hzero
  · exact absurd (Nat.isDigit_of_mem_toDigits (by decide) (by decide) hdigit) (by decide)

/-- A time in a file name has no slash in it. -/
lemma slash_notMem_stamp (clock : Moment) : '/' ∉ clock.stamp.toList := by
  simp [Moment.stamp, slash_notMem_padded]

/-- A file name has no slash in it. -/
lemma slash_notMem_fileName {p : Path} {name : String} (h : p.fileName? = some name) :
    '/' ∉ name.toList := by
  rw [Path.fileName?] at h
  split at h
  · cases h
  · cases h
    intro hmem
    rw [String.toList_ofList, List.mem_reverse] at hmem
    exact absurd (List.mem_takeWhile_imp hmem) (by simp)

namespace KeymapFile

/-- The path of the backup that the file gets at a time, if it has a name. -/
def backupPath? (file : KeymapFile) (clock : Moment) : Option Path :=
  file.path.fileName?.map fun name => Path.join file.backupDir (name ++ "." ++ clock.stamp)

/-- No backup of the file is a link, and none is the file itself. -/
def Apart (file : KeymapFile) (d : Disk) : Prop :=
  ∀ clock backup place, file.backupPath? clock = some backup → d.Reaches false backup place →
    (∀ t, d.kindAt place ≠ some (.link t)) ∧ ∀ follow, ¬ d.Reaches follow file.path place

/-- No path of a backup leads to the file, be it through links. -/
def Clear (file : KeymapFile) (d : Disk) : Prop :=
  ∀ clock backup place, file.backupPath? clock = some backup → d.Reaches true backup place →
    ¬ d.Reaches true file.path place

variable {file : KeymapFile} {d d' : Disk} {clock : Moment} {backup : Path}

/-- A backup is a name in the directory of backups. -/
lemma exists_name_of_backup (h : file.backupPath? clock = some backup) :
    ∃ name, backup = Path.join file.backupDir name ∧ '/' ∉ name.toList ∧
      name ≠ "" ∧ name ≠ "." ∧ name ≠ ".." := by
  obtain ⟨name, hname, rfl⟩ := Option.map_eq_some_iff.1 h
  have hdash : '-' ∈ (name ++ "." ++ clock.stamp).toList := by simp [Moment.stamp]
  refine ⟨name ++ "." ++ clock.stamp, rfl, ?_, ?_, ?_, ?_⟩
  · simp [slash_notMem_fileName hname, slash_notMem_stamp]
  all_goals
    intro heq
    rw [heq] at hdash
    simp at hdash

/-- A backup is at a place that ends with its name. -/
lemma exists_place_of_backup {place : List String} (h : file.backupPath? clock = some backup)
    (hreach : d.Reaches false backup place) :
    ∃ dir name, place = dir ++ [name] ∧ backup = Path.join file.backupDir name := by
  obtain ⟨name, rfl, hslash, hempty, hdot, hdots⟩ := exists_name_of_backup h
  obtain ⟨front, hfront⟩ := Path.exists_names_join file.backupDir hslash
  have hleads := (Disk.reaches_iff.1 hreach).2
  rw [hfront] at hleads
  obtain ⟨dir, -, hplace⟩ := hleads.target_concat hempty hdot hdots
  exact ⟨dir, name, hplace, rfl⟩

/-- Different backups are at different places. -/
lemma backup_unique {clock' : Moment} {backup' : Path} {place : List String}
    (h : file.backupPath? clock = some backup) (h' : file.backupPath? clock' = some backup')
    (hreach : d.Reaches false backup place) (hreach' : d.Reaches false backup' place) :
    backup = backup' := by
  obtain ⟨dir, name, rfl, rfl⟩ := exists_place_of_backup h hreach
  obtain ⟨dir', name', hplace, rfl⟩ := exists_place_of_backup h' hreach'
  cases (List.append_inj' hplace rfl).2
  rfl

namespace Apart

/-- A backup is no link, so that its path leads on to nothing else. -/
lemma reaches {place : List String} (h : file.Apart d)
    (hbackup : file.backupPath? clock = some backup) (hreach : d.Reaches true backup place) :
    d.Reaches false backup place := by
  obtain ⟨husable, hleads⟩ := Disk.reaches_iff.1 hreach
  obtain ⟨stop, hstop, hend⟩ := hleads.unfollow
  replace hstop : d.Reaches false backup stop := Disk.reaches_iff.2 ⟨husable, hstop⟩
  rcases hend with rfl | ⟨t, -, hlink, -⟩
  · exact hstop
  · exact absurd hlink ((h clock backup stop hbackup hstop).1 t)

/-- Backups that are apart from the file do not lead to it. -/
lemma clear (h : file.Apart d) : file.Clear d := fun clock backup place hbackup hreach =>
  (h clock backup place hbackup (h.reaches hbackup hreach)).2 true

/-- A change keeps the backups and the file apart if it makes no link and no directory, and takes
away no link but the file. -/
lemma patch {site : List String} {new : Option Kind} (h : file.Apart d)
    (hpatch : Disk.Patched d d' site new) (hnew : d'.Plain site)
    (hold : (∀ t, d.kindAt site ≠ some (.link t)) ∨ d.Reaches false file.path site) :
    file.Apart d' := by
  intro clock backup place hbackup hreach
  -- Whatever the changed disk leads to, the disk before it did, except through the changed place.
  have hback : ∀ follow p place, d'.Reaches follow p place →
      (follow = true → place = site → ∀ t, d.kindAt site ≠ some (.link t)) →
      d.Reaches follow p place :=
    fun follow p place hreach hsite => hreach.patch_plain hpatch.symm hnew hsite
  obtain ⟨hlink, hfile⟩ := h clock backup place hbackup (hback _ _ _ hreach (by simp))
  refine ⟨fun t => ?_, fun follow hreach' => ?_⟩
  · by_cases hplace : place = site
    · exact hplace ▸ hnew.2 t
    · rw [hpatch.kindAt_of_ne hplace]
      exact hlink t
  · rcases hold with hold | hold
    · exact hfile follow (hback _ _ _ hreach' fun _ _ => hold)
    · have hplace : place ≠ site := by
        rintro rfl
        exact hfile false hold
      exact hfile follow (hback _ _ _ hreach' fun _ heq => absurd heq hplace)

/-- Writing any bytes to a backup changes that backup alone. -/
lemma writeBytes {bytes : ByteArray} (h : file.Apart d)
    (hbackup : file.backupPath? clock = some backup) (hwrite : d.writeBytes backup bytes = .ok d') :
    file.Apart d' ∧ d'.Stored backup bytes ∧
      (∀ content, d.readBytes file.path = .ok content → d'.readBytes file.path = .ok content) ∧
      ∀ clock' backup' bytes', file.backupPath? clock' = some backup' → backup' ≠ backup →
        d.Stored backup' bytes' → d'.Stored backup' bytes' := by
  obtain ⟨site, hsite, hplain, hpatch⟩ := Disk.writeBytes_eq_ok hwrite
  replace hsite := h.reaches hbackup hsite
  refine ⟨?_, ?_, ?_, ?_⟩
  · exact h.patch hpatch (by simp [Disk.Plain, hpatch.kindAt_site]) (.inl hplain.2)
  · exact ⟨site, hsite.patch_plain hpatch hplain (by simp), hpatch.kindAt_site⟩
  · intro content hread
    exact hpatch.readBytes hplain ((h clock backup site hbackup hsite).2 true) hread
  · rintro clock' backup' bytes' hbackup' hne ⟨place, hplace, hkind⟩
    have hother : place ≠ site := by
      rintro rfl
      exact hne (backup_unique hbackup' hbackup hplace hsite)
    exact ⟨place, hplace.patch_plain hpatch hplain (by simp),
      (hpatch.kindAt_of_ne hother).trans hkind⟩

/-- A change of the file keeps the backups apart from it. -/
lemma touched (h : file.Apart d) (htouch : Disk.Touched file.path d d') : file.Apart d' := by
  cases htouch with
  | through hsite hplain hpatch =>
    exact h.patch hpatch (by simp [Disk.Plain, hpatch.kindAt_site]) (.inl hplain.2)
  | instead hsite hpatch hnew => exact h.patch hpatch hnew (.inr hsite)

/-- A change of the file leaves the backups as they are. -/
lemma stored_of_touched {bytes : ByteArray} (h : file.Apart d)
    (hbackup : file.backupPath? clock = some backup) (hsettled : d.Settled file.path)
    (htouch : Disk.Touched file.path d d') (hstored : d.Stored backup bytes) :
    d'.Stored backup bytes := by
  obtain ⟨place, hplace, hkind⟩ := hstored
  have hfile := (h clock backup place hbackup hplace).2
  cases htouch with
  | @through site _ hsite hplain hpatch =>
    have hne : place ≠ site := by
      rintro rfl
      exact hfile true hsite
    exact ⟨place, hplace.patch_plain hpatch hplain (by simp),
      (hpatch.kindAt_of_ne hne).trans hkind⟩
  | @instead site _ hsite hpatch _ =>
    have hne : place ≠ site := by
      rintro rfl
      exact hfile false hsite
    exact ⟨place, hplace.patch hpatch (hsettled.leaf hsite) (by simp) (by simp),
      (hpatch.kindAt_of_ne hne).trans hkind⟩

end Apart

/-- The keymap file at a path, whose backups stand beside it. -/
def ofPath? (path : Path) : Option KeymapFile :=
  path.parent?.map fun parent => ⟨path, Path.join parent "backups"⟩

/-- The keymap file at a path has that path. -/
lemma path_of_ofPath? {path : Path} (h : ofPath? path = some file) : file.path = path := by
  obtain ⟨parent, -, rfl⟩ := Option.map_eq_some_iff.1 h
  rfl

/-- The path of a backup is the path of its directory, a slash and its name. -/
lemma join_backupDir {path : Path} (h : ofPath? path = some file) (name : String) :
    file.backupDir ≠ "" ∧ Path.join file.backupDir name = file.backupDir ++ "/" ++ name := by
  obtain ⟨parent, -, rfl⟩ := Option.map_eq_some_iff.1 h
  have hlast : (Path.join parent "backups").toList.getLast? = some 's' := by
    rw [Path.join]
    split_ifs <;> simp
  have hne : Path.join parent "backups" ≠ "" := by
    intro hempty
    rw [hempty] at hlast
    simp at hlast
  refine ⟨hne, ?_⟩
  rw [Path.join, if_neg hne, if_neg (by rw [hlast]; simp)]

/-- The backups and the file are apart if the directory of backups holds no link and the file is not
in it. -/
lemma apart_of_entries {path : Path} (hfile : ofPath? path = some file)
    (h : ∀ site name, d.Reaches true file.backupDir site →
      (∀ t, d.kindAt (site ++ [name]) ≠ some (.link t)) ∧
        ∀ follow, ¬ d.Reaches follow file.path (site ++ [name])) : file.Apart d := by
  intro clock backup place hbackup hreach
  obtain ⟨name, rfl, hslash, hempty, hdot, hdots⟩ := exists_name_of_backup hbackup
  obtain ⟨hne, hjoin⟩ := join_backupDir hfile name
  rw [hjoin] at hreach
  obtain ⟨site, hsite, rfl⟩ := hreach.of_append_slash hslash hempty hdot hdots hne
  exact h site name hsite

namespace Clear

/-- Writing to a backup moves no path and leaves the file alone. -/
lemma writeBytes {bytes : ByteArray} (h : file.Clear d)
    (hbackup : file.backupPath? clock = some backup) (hwrite : d.writeBytes backup bytes = .ok d') :
    file.Clear d' ∧
      ∀ content, d.readBytes file.path = .ok content → d'.readBytes file.path = .ok content := by
  obtain ⟨site, hsite, hplain, hpatch⟩ := Disk.writeBytes_eq_ok hwrite
  have hnew : d'.Plain site := by simp [Disk.Plain, hpatch.kindAt_site]
  have hback : ∀ p place, d'.Reaches true p place → d.Reaches true p place :=
    fun p place hreach => hreach.patch_plain hpatch.symm hnew fun _ _ => hplain.2
  refine ⟨fun clock' backup' place hbackup' hreach hown => ?_, fun content hread => ?_⟩
  · exact h clock' backup' place hbackup' (hback _ _ hreach) (hback _ _ hown)
  · exact hpatch.readBytes hplain (h clock backup site hbackup hsite) hread

/-- In a directory for backups that is new, no path leads to the file. -/
lemma of_makeDir {path : Path} {bytes : ByteArray} (hfile : ofPath? path = some file)
    (hread : d.readBytes file.path = .ok bytes) (hmake : d.makeDir file.backupDir = .ok d') :
    file.Clear d' ∧ d'.readBytes file.path = .ok bytes := by
  obtain ⟨site, hsite, hfree, hpatch⟩ := Disk.makeDir_eq_ok hmake
  have hplain : d.Plain site := by simp [Disk.Plain, hfree]
  have hread' : d'.readBytes file.path = .ok bytes :=
    hpatch.readBytes hplain (fun hreach => hreach.kindAt_ne_none hread hfree) hread
  refine ⟨fun clock backup place hbackup hreach hown => ?_, hread'⟩
  obtain ⟨place', hplace', hkind⟩ := Disk.readBytes_eq_ok_iff.1 hread'
  cases hown.unique hplace'
  have hdir : d'.Reaches true file.backupDir site :=
    (hsite.patch_plain hpatch hplain (by simp)).followed (by simp [hpatch.kindAt_site])
  obtain ⟨stop, hstop, -, hend⟩ := hreach.unfollow (by simp [hkind])
  obtain ⟨name, rfl, hslash, hempty, hdot, hdots⟩ := exists_name_of_backup hbackup
  obtain ⟨hne, hjoin⟩ := join_backupDir hfile name
  rw [hjoin] at hstop
  obtain ⟨site', hsite', rfl⟩ := hstop.of_append_slash hslash hempty hdot hdots hne
  cases hsite'.unique hdir
  -- The new directory is empty.
  have hnone : d'.kindAt (site ++ [name]) = none := by
    rw [hpatch.kindAt_of_ne (by simp)]
    by_contra hsome
    obtain ⟨k, hk⟩ := Option.ne_none_iff_exists'.1 hsome
    rw [Disk.kindAt_of_concat hk] at hfree
    cases hfree
  rcases hend with rfl | ⟨t, hlink⟩
  · cases hnone.symm.trans hkind
  · cases hnone.symm.trans hlink

end Clear

end KeymapFile

/-! ## What actions do to a disk -/

/-- The operations act on the disk in a state: one that succeeds does what it does on a disk, and
one that fails leaves the disk alone. Only a write may fail half-way and leave any bytes behind. -/
structure FileSystem.Faithful {σ : Type} (disk : σ → Disk) (fs : FileSystem (StateM σ)) :
    Prop where
  isPresent {p s r s'} : (fs.isPresent p).run s = (r, s') → disk s' = disk s
  isReadOnly {p s r s'} : (fs.isReadOnly p).run s = (r, s') → disk s' = disk s
  now {s r s'} : fs.now.run s = (r, s') → disk s' = disk s
  readText {p s r s'} : (fs.readText p).run s = (r, s') →
    disk s' = disk s ∧ ∀ text, r = .ok text → (disk s).readText p = .ok text
  makeDir {p s r s'} : (fs.makeDir p).run s = (r, s') →
    r.isOk = false ∧ disk s' = disk s ∨ r.isOk = true ∧ (disk s).makeDir p = .ok (disk s')
  writeText {p text s r s'} : (fs.writeText p text).run s = (r, s') →
    r.isOk = false ∧ (disk s' = disk s ∨ ∃ bytes, (disk s).writeBytes p bytes = .ok (disk s')) ∨
      r.isOk = true ∧ (disk s).writeText p text = .ok (disk s')
  replaceText {p text s r s'} : (fs.replaceText p text).run s = (r, s') →
    r.isOk = false ∧ disk s' = disk s ∨ r.isOk = true ∧ (disk s).replaceText p text = .ok (disk s')

/-- No write breaks off: one that fails leaves everything as it was. -/
structure FileSystem.Whole {σ : Type} (disk : σ → Disk) (fs : FileSystem (StateM σ)) : Prop
    extends fs.Faithful disk where
  writeText_fails {p text e s s'} :
    (fs.writeText p text).run s = (.error e, s') → disk s' = disk s

/-- A file is read and replaced wherever that can be done on a disk. -/
structure FileSystem.Able {σ : Type} (disk : σ → Disk) (fs : FileSystem (StateM σ)) : Prop
    extends fs.Faithful disk where
  readText_ok {p text s} :
    (disk s).readText p = .ok text → ((fs.readText p).run s).1 = .ok text
  replaceText_ok {p text s d} :
    (disk s).replaceText p text = .ok d → ((fs.replaceText p text).run s).1 = .ok ()

/-- Two actions in a row run one after the other. -/
lemma run_bind_eq {σ α β : Type} {x : StateM σ α} {f : α → StateM σ β} {s s' : σ} {b : β}
    (h : (x >>= f).run s = (b, s')) :
    ∃ a s₁, x.run s = (a, s₁) ∧ (f a).run s₁ = (b, s') :=
  ⟨(x.run s).1, (x.run s).2, rfl, h⟩

/-- What follows an action starts with what the action left. -/
lemma run_bind_of_eq {σ α β : Type} {x : StateM σ α} {f : α → StateM σ β} {s s₁ : σ} {a : α}
    (h : x.run s = (a, s₁)) : (x >>= f).run s = (f a).run s₁ := by
  rw [StateT.run_bind, h]
  rfl

/-- An action that does nothing leaves the state alone. -/
lemma run_pure_eq {σ α : Type} {a b : α} {s s' : σ} (h : (pure a : StateM σ α).run s = (b, s')) :
    b = a ∧ s' = s := by
  cases h
  exact ⟨rfl, rfl⟩

/-- Taking over a disk fails with what made it, or makes it the state. -/
lemma Disk.run_commit_eq {ε : Type} {result : Except ε Disk} {d d' : Disk} {r : Except ε Unit}
    (h : (Disk.commit result).run d = (r, d')) :
    r.isOk = false ∧ d' = d ∨ r.isOk = true ∧ result = .ok d' := by
  cases result with
  | error e =>
    cases h
    exact .inl ⟨rfl, rfl⟩
  | ok d =>
    cases h
    exact .inr ⟨rfl, rfl⟩

/-- The operations on a disk do what a disk does. -/
lemma Disk.faithful_fileSystem (clock : Moment) : (Disk.fileSystem clock).Faithful id where
  isPresent h := by
    cases h
    rfl
  isReadOnly h := by
    cases h
    rfl
  now h := by
    cases h
    rfl
  readText h := by
    cases h
    exact ⟨rfl, fun _ htext => htext⟩
  makeDir h := Disk.run_commit_eq h
  writeText h := by
    rcases Disk.run_commit_eq h with ⟨hfail, hkeep⟩ | hwrite
    · exact .inl ⟨hfail, .inl hkeep⟩
    · exact .inr hwrite
  replaceText {p text d r d'} h := by
    rcases Disk.run_commit_eq h with hfail | ⟨hok, hreplace⟩
    · exact .inl hfail
    · refine .inr ⟨hok, ?_⟩
      change d.replaceText p text = .ok d'
      cases hresult : d.replaceText p text with
      | error e => rw [hresult] at hreplace; cases hreplace
      | ok d₁ => rw [hresult] at hreplace; cases hreplace; rfl

/-- On a disk no write breaks off. -/
lemma Disk.whole_fileSystem (clock : Moment) : (Disk.fileSystem clock).Whole id where
  toFaithful := Disk.faithful_fileSystem clock
  writeText_fails h := by
    obtain ⟨-, hkeep⟩ | ⟨⟨⟩, -⟩ := Disk.run_commit_eq h
    exact hkeep

/-- The operations on a disk do all that a disk can do. -/
lemma Disk.able_fileSystem (clock : Moment) : (Disk.fileSystem clock).Able id where
  toFaithful := Disk.faithful_fileSystem clock
  readText_ok h := h
  replaceText_ok {p text d d'} h := by
    change ((Disk.commit ((d.replaceText p text).mapError _)).run d).1 = _
    rw [show d.replaceText p text = .ok d' from h]
    rfl

section
variable {σ : Type} {disk : σ → Disk} {fs : FileSystem (StateM σ)} {s s' : σ}

/-- Asking for leave to write and answering accordingly changes nothing. -/
lemma isReadOnly_bind_keeps (hfs : fs.Faithful disk) {dir : Path} {r : Except FileError Unit}
    {f : Except OsError Bool → StateM σ (Except FileError Unit)}
    (hf : ∀ readOnly, ∃ result, f readOnly = pure result)
    (h : (fs.isReadOnly dir >>= f).run s = (r, s')) : disk s' = disk s := by
  obtain ⟨readOnly, s₁, hreadOnly, h₁⟩ := run_bind_eq h
  obtain ⟨result, hresult⟩ := hf readOnly
  rw [hresult] at h₁
  exact (congrArg disk (run_pure_eq h₁).2).trans (hfs.isReadOnly hreadOnly)

/-- Preparing a directory for backups makes that directory at most. -/
lemma prepareBackups_cases (hfs : fs.Faithful disk) {dir : Path} {r : Except FileError Unit}
    (h : (prepareBackups fs dir).run s = (r, s')) :
    disk s' = disk s ∨ (disk s).makeDir dir = .ok (disk s') := by
  rw [prepareBackups] at h
  obtain ⟨present, s₁, hpresent, h₁⟩ := run_bind_eq h
  dsimp only at h₁
  split at h₁
  · obtain ⟨made, s₂, hmade, h₂⟩ := run_bind_eq h₁
    have hmake := hfs.makeDir hmade
    rw [hfs.isPresent hpresent] at hmake
    cases made with
    | error e =>
      obtain ⟨-, hkeep⟩ | ⟨⟨⟩, -⟩ := hmake
      exact .inl ((congrArg disk (run_pure_eq h₂).2).trans hkeep)
    | ok _ =>
      obtain ⟨⟨⟩, -⟩ | ⟨-, hmake⟩ := hmake
      -- Once the directory is made, it is only looked at.
      rw [isReadOnly_bind_keeps hfs (by rintro (_ | _ | _) <;> exact ⟨_, rfl⟩) h₂]
      exact .inr hmake
  · have hkeep := isReadOnly_bind_keeps hfs (by rintro (_ | _ | _) <;> exact ⟨_, rfl⟩) h₁
    exact .inl (hkeep.trans (hfs.isPresent hpresent))

/-- Opening a file makes the directory of its backups at most, and only if something is there. -/
lemma openAt_cases (hfs : fs.Faithful disk) {path : Path} {r : Except FileError KeymapFile}
    (h : (KeymapFile.openAt fs path).run s = (r, s')) :
    (disk s' = disk s ∨ ∃ file s₁, (fs.isPresent path).run s = (true, s₁) ∧
      KeymapFile.ofPath? path = some file ∧ (disk s).makeDir file.backupDir = .ok (disk s')) ∧
    ∀ file, r = .ok file → KeymapFile.ofPath? path = some file := by
  rw [KeymapFile.openAt] at h
  obtain ⟨present, s₁, hpresent, h⟩ := run_bind_eq h
  cases present with
  | false =>
    obtain ⟨rfl, rfl⟩ := run_pure_eq h
    exact ⟨.inl (hfs.isPresent hpresent), by simp⟩
  | true =>
    simp only [Bool.not_true, Bool.false_eq_true, if_false] at h
    split at h
    · obtain ⟨rfl, rfl⟩ := run_pure_eq h
      exact ⟨.inl (hfs.isPresent hpresent), by simp⟩
    · next parent hparent =>
      have hfile : KeymapFile.ofPath? path = some ⟨path, Path.join parent "backups"⟩ := by
        rw [KeymapFile.ofPath?, hparent, Option.map_some]
      obtain ⟨prepared, s₂, hprepared, h⟩ := run_bind_eq h
      have hmade := prepareBackups_cases hfs hprepared
      rw [hfs.isPresent hpresent] at hmade
      have hmade' : disk s₂ = disk s ∨ ∃ file s₁, (fs.isPresent path).run s = (true, s₁) ∧
          KeymapFile.ofPath? path = some file ∧
          (disk s).makeDir file.backupDir = .ok (disk s₂) :=
        hmade.imp_right fun hmake => ⟨_, s₁, hpresent, hfile, hmake⟩
      split at h
      · obtain ⟨rfl, rfl⟩ := run_pure_eq h
        exact ⟨hmade', by simp⟩
      · obtain ⟨rfl, rfl⟩ := run_pure_eq h
        exact ⟨hmade', fun file heq => by cases heq; exact hfile⟩

/-- A write that fails changes nothing or leaves other bytes behind. -/
lemma FileSystem.Faithful.writeText_error (hfs : fs.Faithful disk) {p : Path} {text : String}
    {e : OsError} (h : (fs.writeText p text).run s = (.error e, s')) :
    disk s' = disk s ∨ ∃ bytes, (disk s).writeBytes p bytes = .ok (disk s') := by
  obtain ⟨-, hdamage⟩ | ⟨⟨⟩, -⟩ := hfs.writeText h
  exact hdamage

/-- Beginning a transaction copies the file to a backup, or fails; what it has done then is to write
a backup at most, once the file is read. -/
lemma begin_cases (hfs : fs.Faithful disk) {file : KeymapFile} {r : Except FileError Transaction}
    (h : (Transaction.begin fs file).run s = (r, s')) :
    r.isOk = false ∧ (disk s' = disk s ∨ ∃ clock backup text e s₁,
      file.backupPath? clock = some backup ∧ (disk s).readText file.path = .ok text ∧
        disk s₁ = disk s ∧ (fs.writeText backup text).run s₁ = (.error e, s')) ∨
    ∃ clock backup text, r = .ok ⟨file, backup⟩ ∧ file.backupPath? clock = some backup ∧
      (disk s).readText file.path = .ok text ∧ (disk s).writeText backup text = .ok (disk s') := by
  rw [Transaction.begin] at h
  obtain ⟨made, s₀, hmade, h⟩ := run_bind_eq h
  obtain ⟨rfl, rfl⟩ := run_pure_eq h
  rw [KeymapFile.backUp] at hmade
  obtain ⟨content, s₁, hcontent, hmade⟩ := run_bind_eq hmade
  obtain ⟨hkeep, hread⟩ := hfs.readText hcontent
  split at hmade
  · obtain ⟨rfl, rfl⟩ := run_pure_eq hmade
    exact .inl ⟨rfl, .inl hkeep⟩
  · next text =>
    obtain ⟨clock, s₂, hclock, hmade⟩ := run_bind_eq hmade
    replace hkeep := (hfs.now hclock).trans hkeep
    split at hmade
    · obtain ⟨rfl, rfl⟩ := run_pure_eq hmade
      exact .inl ⟨rfl, .inl hkeep⟩
    · next name hname =>
      have hbackup : file.backupPath? clock =
          some (Path.join file.backupDir (name ++ "." ++ clock.stamp)) := by
        rw [KeymapFile.backupPath?, hname, Option.map_some]
      obtain ⟨written, s₃, hwritten, hmade⟩ := run_bind_eq hmade
      split at hmade
      · obtain ⟨rfl, rfl⟩ := run_pure_eq hmade
        exact .inl ⟨rfl, .inr ⟨clock, _, text, _, s₂, hbackup, hread text rfl, hkeep, hwritten⟩⟩
      · obtain ⟨rfl, rfl⟩ := run_pure_eq hmade
        obtain ⟨⟨⟩, -⟩ | ⟨-, hwrite⟩ := hfs.writeText hwritten
        rw [hkeep] at hwrite
        exact .inr ⟨clock, _, text, rfl, hbackup, hread text rfl, hwrite⟩

/-- Reading the file changes nothing. -/
lemma read_keeps (hfs : fs.Faithful disk) {file : KeymapFile} {r : Except FileError String}
    (h : (file.read fs).run s = (r, s')) : disk s' = disk s := by
  rw [KeymapFile.read] at h
  obtain ⟨content, s₁, hcontent, h⟩ := run_bind_eq h
  obtain ⟨-, rfl⟩ := run_pure_eq h
  exact (hfs.readText hcontent).1

/-- Where no write breaks off, a transaction that fails to begin changes nothing. -/
lemma begin_fails (hfs : fs.Whole disk) {file : KeymapFile} {r : Except FileError Transaction}
    (h : (Transaction.begin fs file).run s = (r, s')) (hfail : r.isOk = false) :
    disk s' = disk s := by
  rcases begin_cases hfs.toFaithful h with
    ⟨-, hsame | ⟨clock, backup, text, e, s₁, -, -, hs₁, hwritten⟩⟩ | ⟨clock, backup, text, rfl, -⟩
  · exact hsame
  · exact (hfs.writeText_fails hwritten).trans hs₁
  · cases hfail

/-- Replacing a file or leaving it alone is all that a commit can do. -/
lemma commit_cases (hfs : fs.Faithful disk) {t : Transaction} {content : String}
    {r : Except FileError Unit} (h : (t.commit fs content).run s = (r, s')) :
    r.isOk = false ∧ disk s' = disk s ∨
      r.isOk = true ∧ (disk s).replaceText t.file.path content = .ok (disk s') := by
  rw [Transaction.commit] at h
  obtain ⟨replaced, s₁, hreplaced, h⟩ := run_bind_eq h
  obtain ⟨rfl, rfl⟩ := run_pure_eq h
  have hisOk (f : WriteStage × OsError → FileError) :
      (replaced.mapError f).isOk = replaced.isOk := by
    cases replaced <;> rfl
  rw [hisOk]
  exact hfs.replaceText hreplaced

/-- A checked commit fails and changes nothing, or its text is a keymap and takes the place of the
file. -/
lemma commitChecked_cases [PatternEngine] (hfs : fs.Faithful disk) {t : Transaction}
    {content : String}
    {r : Except FileError Unit} (h : (t.commitChecked fs content).run s = (r, s')) :
    r.isOk = false ∧ disk s' = disk s ∨
      r.isOk = true ∧ (∃ m, Keymap.parse content none = .ok m) ∧
        (disk s).replaceText t.file.path content = .ok (disk s') := by
  rw [Transaction.commitChecked] at h
  split at h
  · obtain ⟨rfl, rfl⟩ := run_pure_eq h
    exact .inl ⟨rfl, rfl⟩
  · next m hparse =>
    exact (commit_cases hfs h).imp_right fun ⟨hok, hreplace⟩ => ⟨hok, ⟨m, hparse⟩, hreplace⟩

/-- Rolling back fails and changes nothing, or some text takes the place of the file. -/
lemma rollback_cases (hfs : fs.Faithful disk) {t : Transaction} {r : Except FileError Unit}
    (h : (t.rollback fs).run s = (r, s')) :
    r.isOk = false ∧ disk s' = disk s ∨
      r.isOk = true ∧ ∃ content, (disk s).replaceText t.file.path content = .ok (disk s') := by
  rw [Transaction.rollback] at h
  obtain ⟨content, s₁, hcontent, h⟩ := run_bind_eq h
  have hkeep := (hfs.readText hcontent).1
  split at h
  · obtain ⟨rfl, rfl⟩ := run_pure_eq h
    exact .inl ⟨rfl, hkeep⟩
  · next text =>
    rw [← hkeep]
    exact (commit_cases hfs h).imp_right fun ⟨hok, hreplace⟩ => ⟨hok, text, hreplace⟩

/-- Rolling back succeeds if the backup can be read and the file be replaced. -/
lemma FileSystem.Able.exists_run_rollback (hfs : fs.Able disk) {t : Transaction} {content : String}
    {d : Disk} (hread : (disk s).readText t.backupPath = .ok content)
    (hreplace : (disk s).replaceText t.file.path content = .ok d) :
    ∃ s', (t.rollback fs).run s = (.ok (), s') ∧ disk s' = d := by
  rcases hcontent : (fs.readText t.backupPath).run s with ⟨r, s₁⟩
  obtain rfl : r = .ok content := by rw [← hfs.readText_ok hread, hcontent]
  have hkeep := (hfs.readText hcontent).1
  rw [← hkeep] at hreplace
  rcases hreplaced : (fs.replaceText t.file.path content).run s₁ with ⟨r, s₂⟩
  obtain rfl : r = .ok () := by rw [← hfs.replaceText_ok hreplace, hreplaced]
  obtain ⟨⟨⟩, -⟩ | ⟨-, hnew⟩ := hfs.replaceText hreplaced
  refine ⟨s₂, ?_, Except.ok.inj (hnew.symm.trans hreplace)⟩
  rw [Transaction.rollback, run_bind_of_eq hcontent]
  exact run_bind_of_eq hreplaced

end

/-! ## Actions on a disk -/

/-- On a disk, opening a file with a directory for backups only looks at both. -/
lemma run_openAt (clock : Moment) {d : Disk} {path : Path} {file : KeymapFile}
    (hfile : KeymapFile.ofPath? path = some file) (hpresent : d.isPresent path = true)
    (hdir : d.isReadOnly file.backupDir = .ok false) :
    (KeymapFile.openAt (Disk.fileSystem clock) path).run d = (.ok file, d) := by
  obtain ⟨parent, hparent, rfl⟩ := Option.map_eq_some_iff.1 hfile
  have hthere : d.isPresent (Path.join parent "backups") = true := by
    rw [Disk.isReadOnly] at hdir
    rw [Disk.isPresent]
    cases hentry : d.entry (Path.join parent "backups") with
    | error e => rw [hentry] at hdir; cases hdir
    | ok e => rfl
  have hlook (p : Path) (h : d.isPresent p = true) :
      ((Disk.fileSystem clock).isPresent p).run d = (true, d) := congrArg (·, d) h
  have hlook' : ((Disk.fileSystem clock).isReadOnly (Path.join parent "backups")).run d =
      (.ok false, d) := congrArg (·, d) hdir
  have hprepared : (prepareBackups (Disk.fileSystem clock) (Path.join parent "backups")).run d =
      (.ok (), d) := by
    rw [prepareBackups, run_bind_of_eq (hlook _ hthere)]
    exact run_bind_of_eq hlook'
  rw [KeymapFile.openAt, run_bind_of_eq (hlook _ hpresent), hparent]
  exact run_bind_of_eq hprepared

/-- Where the file can be read, a transaction begins, or it fails as writing the backup does. -/
lemma run_begin {σ : Type} {fs : FileSystem (StateM σ)} {s s₁ s₂ s' : σ} {clock : Moment}
    {file : KeymapFile} {backup : Path} {text : String} {r : Except OsError Unit}
    (hread : (fs.readText file.path).run s = (.ok text, s₁)) (hnow : fs.now.run s₁ = (clock, s₂))
    (hbackup : file.backupPath? clock = some backup)
    (hwrite : (fs.writeText backup text).run s₂ = (r, s')) :
    (Transaction.begin fs file).run s =
      ((r.mapError (.backupFailed backup)).map fun _ => ⟨file, backup⟩, s') := by
  obtain ⟨name, hname, rfl⟩ := Option.map_eq_some_iff.1 hbackup
  rw [Transaction.begin, KeymapFile.backUp, bind_assoc, run_bind_of_eq hread]
  dsimp only
  rw [bind_assoc, run_bind_of_eq hnow, hname]
  dsimp only
  rw [bind_assoc, run_bind_of_eq hwrite]
  cases r <;> rfl

/-- On a disk, a transaction begins where the file can be read and the backup be written. -/
lemma Disk.run_begin {clock : Moment} {file : KeymapFile} {backup : Path} {text : String}
    {d d' : Disk} (hbackup : file.backupPath? clock = some backup)
    (hread : d.readText file.path = .ok text) (hwrite : d.writeText backup text = .ok d') :
    (Transaction.begin (Disk.fileSystem clock) file).run d = (.ok ⟨file, backup⟩, d') := by
  have hcontent : ((Disk.fileSystem clock).readText file.path).run d = (.ok text, d) :=
    congrArg (·, d) hread
  have hnow : (Disk.fileSystem clock).now.run d = (clock, d) := rfl
  have hwritten : ((Disk.fileSystem clock).writeText backup text).run d = (.ok (), d') := by
    change (Disk.commit (d.writeText backup text)).run d = _
    rw [hwrite]
    rfl
  exact File.run_begin hcontent hnow hbackup hwritten

/-- On a disk, a commit succeeds where the file can be replaced. -/
lemma run_commit (clock : Moment) {t : Transaction} {d d' : Disk} {content : String}
    (hreplace : d.replaceText t.file.path content = .ok d') :
    (t.commit (Disk.fileSystem clock) content).run d = (.ok (), d') := by
  have hrun : ((Disk.fileSystem clock).replaceText t.file.path content).run d = (.ok (), d') := by
    change (Disk.commit ((d.replaceText t.file.path content).mapError _)).run d = _
    rw [hreplace]
    rfl
  rw [Transaction.commit, run_bind_of_eq hrun]
  rfl

/-- On a disk, a checked commit of a keymap succeeds where the file can be replaced. -/
lemma run_commitChecked [PatternEngine] (clock : Moment) {t : Transaction} {d d' : Disk}
    {content : String} {m : Keymap} (hparse : Keymap.parse content none = .ok m)
    (hreplace : d.replaceText t.file.path content = .ok d') :
    (t.commitChecked (Disk.fileSystem clock) content).run d = (.ok (), d') := by
  rw [Transaction.commitChecked, hparse]
  exact run_commit clock hreplace

/-! ## A disk with one keymap file -/

/-- A keymap file with a directory for backups beside it. -/
def Disk.withBackups (backups : List (String × Entry)) : Disk :=
  ⟨.dir false [("k.c", .file "LAYOUT(A)".toUTF8), ("backups", .dir false backups)], []⟩

/-- A keymap file with an empty directory for backups beside it. -/
def Disk.sample : Disk := .withBackups []

/-- A keymap file, and in the place of one of its backups a link to it. -/
def Disk.linked : Disk := .withBackups [("k.c.2024-01-02_030405", .link "../k.c")]

/-- The keymap file on these disks. -/
def KeymapFile.sample : KeymapFile := ⟨"k.c", "backups"⟩

/-- A time. -/
def Moment.sample : Moment := ⟨2024, 1, 2, 3, 4, 5⟩

/-- The transaction that begins on these disks at that time. -/
def Transaction.sample : Transaction := ⟨.sample, "backups/k.c.2024-01-02_030405"⟩

section
variable {backups : List (String × Entry)}

/-- The path of the keymap leads to it. -/
lemma Disk.withBackups_reaches_path (follow : Bool) :
    (Disk.withBackups backups).Reaches follow "k.c" ["k.c"] := by
  have hnames : Path.names "k.c" = ["k.c"] := by cbv
  rw [Disk.reaches_iff, hnames]
  refine ⟨⟨by decide, by decide, by decide⟩, ?_⟩
  exact .last rfl ⟨by decide, by decide, by decide, by decide⟩ (by rintro _ _ ⟨⟩)

/-- The path of the directory for backups leads to it. -/
lemma Disk.withBackups_reaches_backups :
    (Disk.withBackups backups).Reaches true "backups" ["backups"] := by
  have hnames : Path.names "backups" = ["backups"] := by cbv
  rw [Disk.reaches_iff, hnames]
  refine ⟨⟨by decide, by decide, by decide⟩, ?_⟩
  exact .last rfl ⟨by decide, by decide, by decide, by decide⟩ (by rintro _ _ ⟨⟩)

/-- At the place of the keymap is a file. -/
lemma Disk.withBackups_plain : (Disk.withBackups backups).Plain ["k.c"] := by
  refine ⟨?_, ?_⟩
  · rintro ⟨⟩
  · rintro _ ⟨⟩

/-- The keymap has one layer with one key. -/
lemma Disk.withBackups_readText :
    (Disk.withBackups backups).readText "k.c" = .ok "LAYOUT(A)" :=
  Disk.readText_eq_ok_iff.2
    (Disk.readBytes_eq_ok_iff.2 ⟨_, Disk.withBackups_reaches_path true, rfl⟩)

/-- The keymap is there. -/
lemma Disk.withBackups_isPresent : (Disk.withBackups backups).isPresent "k.c" = true := by
  rw [Disk.isPresent, (Disk.withBackups_reaches_path true).entry rfl]

/-- The directory for backups may be written. -/
lemma Disk.withBackups_isReadOnly :
    (Disk.withBackups backups).isReadOnly "backups" = .ok false := by
  rw [Disk.isReadOnly, Disk.withBackups_reaches_backups.entry rfl]

end

/-- The keymap file is the one at its path. -/
lemma KeymapFile.ofPath?_sample : KeymapFile.ofPath? "k.c" = some KeymapFile.sample := by decide

/-- In an empty directory for backups, no backup is a link or the file. -/
lemma KeymapFile.apart_sample : KeymapFile.sample.Apart Disk.sample := by
  refine KeymapFile.apart_of_entries KeymapFile.ofPath?_sample fun site name hsite => ?_
  cases hsite.unique Disk.withBackups_reaches_backups
  have hnone : Disk.sample.kindAt (["backups"] ++ [name]) = none := by
    rw [Disk.kindAt]
    rfl
  refine ⟨fun t => by rw [hnone]; simp, fun follow hreach => ?_⟩
  exact absurd (hreach.unique (Disk.withBackups_reaches_path follow)) (by simp)

/-- The transaction has the backup of its time. -/
lemma Transaction.sample_backupPath :
    KeymapFile.sample.backupPath? .sample = some Transaction.sample.backupPath := by decide

/-- The backup is a name in the directory for backups. -/
lemma Transaction.names_sample :
    Transaction.sample.backupPath.names = ["backups", "k.c.2024-01-02_030405"] := by cbv

/-- On the one disk, the name of the backup is free. -/
lemma Disk.sample_reaches_backup :
    Disk.sample.Reaches true Transaction.sample.backupPath
      ["backups", "k.c.2024-01-02_030405"] := by
  rw [Disk.reaches_iff, Transaction.names_sample]
  refine ⟨⟨by decide, by decide, by decide⟩, ?_⟩
  refine .enter ⟨by decide, by decide, by decide, by decide⟩ rfl (by simp) ?_
  exact .last rfl ⟨by decide, by decide, by decide, by decide⟩ (by rintro _ _ ⟨⟩)

/-- On the other disk, it leads to the file. -/
lemma Disk.linked_reaches_backup :
    Disk.linked.Reaches true Transaction.sample.backupPath ["k.c"] := by
  have hnames : Path.names "../k.c" = ["..", "k.c"] := by cbv
  rw [Disk.reaches_iff, Transaction.names_sample]
  refine ⟨⟨by decide, by decide, by decide⟩, ?_⟩
  refine .enter ⟨by decide, by decide, by decide, by decide⟩ rfl (by simp) ?_
  refine .link ⟨by decide, by decide, by decide, by decide⟩ rfl (.inr rfl) ?_
  rw [hnames]
  refine .up rfl (.last rfl ⟨by decide, by decide, by decide, by decide⟩ ?_)
  rintro _ _ ⟨⟩

/-- The keymap is the only file on that disk. -/
lemma Disk.linked_kindAt {place : List String} {bytes : ByteArray}
    (h : Disk.linked.kindAt place = some (.file bytes)) : place = ["k.c"] := by
  rw [Disk.kindAt, Disk.linked, Disk.withBackups] at h
  rcases place with _ | ⟨name, rest⟩
  · cases h
  by_cases hname : name = "k.c"
  · subst hname
    rcases rest with _ | ⟨next, rest⟩
    · rfl
    · cases h
  by_cases hdir : name = "backups"
  · subst hdir
    rcases rest with _ | ⟨next, rest⟩
    · cases h
    -- The one name in the directory is a link.
    by_cases hnext : next = "k.c.2024-01-02_030405"
    · subst hnext
      rcases rest with _ | ⟨_, _⟩ <;> cases h
    · simp [Entry.at?, Entry.child?, Ne.symm hnext] at h
  · simp [Entry.at?, Entry.child?, Ne.symm hname, Ne.symm hdir] at h

/-- Where the name of the backup is free, the transaction begins. -/
lemma exists_run_begin_sample : ∃ d,
    Disk.sample.writeText Transaction.sample.backupPath "LAYOUT(A)" = .ok d ∧
    (Transaction.begin (Disk.fileSystem .sample) .sample).run Disk.sample =
      (.ok .sample, d) := by
  have hplain : Disk.sample.Plain ["backups", "k.c.2024-01-02_030405"] := by
    refine ⟨?_, ?_⟩
    · rintro ⟨⟩
    · rintro _ ⟨⟩
  obtain ⟨d, hwrite⟩ := Disk.sample_reaches_backup.exists_writeBytes hplain "LAYOUT(A)".toUTF8
  exact ⟨d, hwrite, Disk.run_begin Transaction.sample_backupPath Disk.withBackups_readText hwrite⟩

/-- Where the backup is a link to the file, the copy is written over the file. -/
lemma exists_run_begin_linked : ∃ d,
    (Transaction.begin (Disk.fileSystem .sample) .sample).run Disk.linked = (.ok .sample, d) ∧
      Disk.Patched Disk.linked d ["k.c"] (some (.file "LAYOUT(A)".toUTF8)) ∧
      (∀ follow, d.Reaches follow "k.c" ["k.c"]) ∧
      d.Reaches true Transaction.sample.backupPath ["k.c"] := by
  have hplain : Disk.linked.Plain ["k.c"] := Disk.withBackups_plain
  obtain ⟨d, hwrite⟩ := Disk.linked_reaches_backup.exists_writeBytes hplain "LAYOUT(A)".toUTF8
  obtain ⟨site, hsite, -, hpatch⟩ := Disk.writeBytes_eq_ok hwrite
  cases hsite.unique Disk.linked_reaches_backup
  have hbegin := Disk.run_begin Transaction.sample_backupPath Disk.withBackups_readText hwrite
  refine ⟨d, hbegin, hpatch, fun follow => ?_, ?_⟩
  · exact (Disk.withBackups_reaches_path follow).patch_plain hpatch hplain (by simp)
  · exact Disk.linked_reaches_backup.patch_plain hpatch hplain (by simp)

end File

end Keyplan
