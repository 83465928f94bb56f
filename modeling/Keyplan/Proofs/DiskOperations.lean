import Keyplan.File.Disk
import Keyplan.Proofs.Places
import Mathlib

/-!
# What the operations of a disk do

Each operation that succeeds is a change at the one place that its path leads to (`Patched`):
`writeBytes_eq_ok`, `makeDir_eq_ok`, `replaceText_eq_ok` and `removeFile_eq_ok`. The bytes that are
read are those at the place that the path leads to through all links (`readBytes_eq_ok_iff`).
`Touched` sums up the operations that change the file at a path. A path at which there is a file, a
link to one or nothing stays such a path (`Touched.settled`), and its file can be replaced. Any text
that replaces a file is what is read then, unless the path led through a link that the new file took
the place of (`readText_of_replaceText`).
-/

namespace Keyplan.File

namespace Disk

variable {d d' : Disk} {p : Path}

/-- The entry of a path is what is at the place that it leads to. -/
lemma Reaches.entry {place : List String} {e : Entry} (h : d.Reaches true p place)
    (hat : d.root.at? place = some e) : d.entry p = .ok e := by
  obtain ⟨target, hresolve, rfl⟩ := h
  have hfits := fits_of_resolve hresolve
  rw [Disk.entry, hresolve]
  cases target with
  | missing dir name => exact absurd (kindAt_of_at? hat) (by simp [Target.place, hfits.2])
  | found place e' =>
    cases hfits.symm.trans hat
    rfl

/-- Bytes are read at a path that leads to a file with them. -/
lemma readBytes_eq_ok_iff {bytes : ByteArray} :
    d.readBytes p = .ok bytes ↔
      ∃ place, d.Reaches true p place ∧ d.kindAt place = some (.file bytes) := by
  constructor
  · intro h
    rw [readBytes, entry] at h
    cases hresolve : d.resolve true p with
    | error e => rw [hresolve] at h; cases h
    | ok target =>
      have hfits := fits_of_resolve hresolve
      rw [hresolve] at h
      cases target with
      | missing dir name => cases h
      | found place e =>
        cases e with
        | file content =>
          cases h
          exact ⟨place, ⟨_, hresolve, rfl⟩, kindAt_of_at? hfits⟩
        | _ => cases h
  · rintro ⟨place, hreaches, hkind⟩
    obtain ⟨e, hat, hkind⟩ := Option.map_eq_some_iff.1 hkind
    rw [readBytes, hreaches.entry hat]
    cases e with
    | file content =>
      cases hkind
      rfl
    | _ => cases hkind

/-- Bytes are the text that has these bytes. -/
lemma fromUTF8?_eq_some_iff {bytes : ByteArray} {text : String} :
    String.fromUTF8? bytes = some text ↔ bytes = text.toUTF8 := by
  rw [String.fromUTF8?]
  constructor
  · intro h
    split at h
    · cases h
      rfl
    · cases h
  · rintro rfl
    rw [String.toUTF8_eq_toByteArray, dif_pos text.isValidUTF8]
    rfl

/-- A text is read where its bytes are. -/
lemma readText_eq_ok_iff {text : String} :
    d.readText p = .ok text ↔ d.readBytes p = .ok text.toUTF8 := by
  rw [readText]
  cases d.readBytes p with
  | error e => simp
  | ok bytes =>
    rw [Except.ok.injEq, ← fromUTF8?_eq_some_iff]
    cases htext : String.fromUTF8? bytes <;> simp [htext]

/-- A change of another file, or of a free name, leaves what a path reads. -/
lemma Patched.readBytes {site : List String} {new : Option Kind} {bytes : ByteArray}
    (hpatch : Patched d d' site new) (hplain : d.Plain site) (hother : ¬ d.Reaches true p site)
    (h : d.readBytes p = .ok bytes) : d'.readBytes p = .ok bytes := by
  obtain ⟨place, hreaches, hkind⟩ := readBytes_eq_ok_iff.1 h
  have hne : place ≠ site := by
    rintro rfl
    exact hother hreaches
  refine readBytes_eq_ok_iff.2 ⟨place, ?_, (hpatch.kindAt_of_ne hne).trans hkind⟩
  exact hreaches.patch_plain hpatch hplain fun _ heq => absurd heq hne

/-- What is read of a place. -/
def bytesOf : Option Kind → Except OsError ByteArray
  | some (.file content) => .ok content
  | some .dir => .error .isADirectory
  | some (.link _) => .error .tooManyLinks
  | none => .error .notFound

/-- What is read at a path is what is at the place that it leads to. -/
lemma Reaches.readBytes_eq {place : List String} (h : d.Reaches true p place) :
    d.readBytes p = bytesOf (d.kindAt place) := by
  obtain ⟨target, hresolve, rfl⟩ := h
  have hfits := fits_of_resolve hresolve
  rw [readBytes, Disk.entry, hresolve]
  cases target with
  | missing dir name => rw [Target.place, hfits.2, bytesOf]
  | found place e =>
    rw [Target.place, kindAt_of_at? hfits]
    cases e <;> rfl

/-- A path at which something is present leads to it. -/
lemma exists_reaches_of_isPresent (h : d.isPresent p = true) :
    ∃ place, d.Reaches true p place ∧ d.kindAt place ≠ none := by
  rw [isPresent, Disk.entry] at h
  cases hresolve : d.resolve true p with
  | error e => simp [hresolve] at h
  | ok target =>
    have hfits := fits_of_resolve hresolve
    cases target with
    | missing dir name => simp [hresolve] at h
    | found place e => exact ⟨place, ⟨_, hresolve, rfl⟩, by simp [kindAt_of_at? hfits]⟩

/-- A file with the bytes stands at the path, and no link. -/
def Stored (d : Disk) (p : Path) (bytes : ByteArray) : Prop :=
  ∃ place, d.Reaches false p place ∧ d.kindAt place = some (.file bytes)

/-- What is stored at a path is read there. -/
lemma Stored.readBytes {bytes : ByteArray} (h : d.Stored p bytes) : d.readBytes p = .ok bytes := by
  obtain ⟨place, hplace, hkind⟩ := h
  exact readBytes_eq_ok_iff.2 ⟨place, hplace.followed (by simp [hkind]), hkind⟩

/-- The path ends at a leaf: a file or a link to one is there, or its name is free. -/
def Settled (d : Disk) (p : Path) : Prop :=
  ∃ stop, d.Reaches false p stop ∧ d.Leaf stop

/-- No path leads on from where a settled path ends. -/
lemma Settled.leaf {place : List String} (h : d.Settled p) (hplace : d.Reaches false p place) :
    d.Leaf place := by
  obtain ⟨stop, hstop, hleaf⟩ := h
  rwa [hplace.unique hstop]

/-- A path that leads to what is no directory is settled. -/
lemma Reaches.settled {place : List String} (h : d.Reaches true p place)
    (hkind : d.kindAt place ≠ some .dir) : d.Settled p := by
  obtain ⟨stop, hstop, hleaf, -⟩ := h.unfollow hkind
  exact ⟨stop, hstop, hleaf⟩

/-- A path at which bytes are read is settled. -/
lemma settled_of_readBytes {bytes : ByteArray} (h : d.readBytes p = .ok bytes) : d.Settled p := by
  obtain ⟨place, hplace, hkind⟩ := readBytes_eq_ok_iff.1 h
  exact hplace.settled (by simp [hkind])

/-- A path at which bytes are read leads to something. -/
lemma Reaches.kindAt_ne_none {follow : Bool} {place : List String} {bytes : ByteArray}
    (h : d.Reaches follow p place) (hread : d.readBytes p = .ok bytes) : d.kindAt place ≠ none := by
  cases follow with
  | true =>
    obtain ⟨place', hplace', hkind⟩ := readBytes_eq_ok_iff.1 hread
    simp [h.unique hplace', hkind]
  | false =>
    obtain ⟨place', hplace', hkind⟩ := readBytes_eq_ok_iff.1 hread
    obtain ⟨stop, hstop, -, rfl | ⟨t, hlink⟩⟩ := hplace'.unfollow (by simp [hkind])
    · simp [h.unique hstop, hkind]
    · simp [h.unique hstop, hlink]

/-- Writes bytes to the file that a path leads to, and makes the file if there is none. -/
def writeBytes (d : Disk) (p : Path) (bytes : ByteArray) : Except OsError Disk :=
  match d.resolve true p with
  | .ok (.found place (.file _)) => .ok (d.replaceAt place (.file bytes))
  | .ok (.found _ _) => .error .isADirectory
  | .ok (.missing dir name) => .ok (d.put dir name (.file bytes))
  | .error e => .error e

/-- Writing a text is writing its bytes. -/
lemma writeText_eq (d : Disk) (p : Path) (text : String) :
    d.writeText p text = d.writeBytes p text.toUTF8 := rfl

/-- There is nothing in a file. -/
lemma at?_file (bytes : ByteArray) (n : String) (r : List String) :
    Entry.at? (n :: r) (.file bytes) = none := rfl

/-- A file in the place of one, or of a link, is a change there. -/
lemma Reaches.patched_replaceAt {follow : Bool} {place : List String} (h : d.Reaches follow p place)
    (hkind : d.kindAt place ≠ some .dir) (bytes : ByteArray) :
    Patched d (d.replaceAt place (.file bytes)) place (some (.file bytes)) := by
  obtain ⟨dir, name, rfl, hdir⟩ := (reaches_iff.1 h).2.exists_dir hkind
  rw [replaceAt, List.getLast?_concat, List.dropLast_concat]
  exact patched_put hdir hkind (at?_file bytes)

/-- A write that succeeds puts a file where a file or nothing was. -/
lemma writeBytes_eq_ok {bytes : ByteArray} (h : d.writeBytes p bytes = .ok d') :
    ∃ place, d.Reaches true p place ∧ d.Plain place ∧
      Patched d d' place (some (.file bytes)) := by
  rw [writeBytes] at h
  cases hresolve : d.resolve true p with
  | error e => rw [hresolve] at h; cases h
  | ok target =>
    have hreaches : d.Reaches true p target.place := ⟨target, hresolve, rfl⟩
    have hfits := fits_of_resolve hresolve
    rw [hresolve] at h
    cases target with
    | missing dir name =>
      cases h
      refine ⟨_, hreaches, ?_, patched_put hfits.1 (by simp [hfits.2]) (at?_file bytes)⟩
      simp [Plain, Target.place, hfits.2]
    | found place e =>
      cases e with
      | file content =>
        cases h
        have hkind := kindAt_of_at? hfits
        have hplain : d.Plain place := by simp [Plain, hkind, Entry.kind]
        exact ⟨place, hreaches, hplain, hreaches.patched_replaceAt hplain.1 bytes⟩
      | _ => cases h

/-- A path that leads to a file or to a free name can be written. -/
lemma Reaches.exists_writeBytes {place : List String} (h : d.Reaches true p place)
    (hplain : d.Plain place) (bytes : ByteArray) : ∃ d', d.writeBytes p bytes = .ok d' := by
  obtain ⟨target, hresolve, rfl⟩ := h
  have hfits := fits_of_resolve hresolve
  rw [writeBytes, hresolve]
  cases target with
  | missing dir name => exact ⟨_, rfl⟩
  | found place e =>
    have hkind := kindAt_of_at? hfits
    cases e with
    | file content => exact ⟨_, rfl⟩
    | dir _ _ => exact absurd hkind hplain.1
    | link t => exact absurd hkind (hplain.2 t)

/-- What was written is read. -/
lemma readBytes_of_writeBytes {bytes : ByteArray} (h : d.writeBytes p bytes = .ok d') :
    d'.readBytes p = .ok bytes := by
  obtain ⟨place, hplace, hplain, hpatch⟩ := writeBytes_eq_ok h
  refine readBytes_eq_ok_iff.2 ⟨place, ?_, hpatch.kindAt_site⟩
  exact hplace.patch_plain hpatch hplain (by simp)

/-- A copy of a file leaves the file as it is, even if it is written over the file itself. -/
lemma readBytes_of_copy {q : Path} {bytes : ByteArray} (h : d.readBytes p = .ok bytes)
    (hcopy : d.writeBytes q bytes = .ok d') : d'.readBytes p = .ok bytes := by
  obtain ⟨site, -, hplain, hpatch⟩ := writeBytes_eq_ok hcopy
  by_cases hown : d.Reaches true p site
  · refine readBytes_eq_ok_iff.2 ⟨site, ?_, hpatch.kindAt_site⟩
    exact hown.patch_plain hpatch hplain (by simp)
  · exact hpatch.readBytes hplain hown h

/-- A file that can be read can be written. -/
lemma exists_writeBytes_of_readBytes {content : ByteArray} (h : d.readBytes p = .ok content)
    (bytes : ByteArray) : ∃ d', d.writeBytes p bytes = .ok d' := by
  obtain ⟨place, hplace, hkind⟩ := readBytes_eq_ok_iff.1 h
  exact hplace.exists_writeBytes (by simp [Plain, hkind]) bytes

/-- A directory is made at a free name. -/
lemma makeDir_eq_ok (h : d.makeDir p = .ok d') :
    ∃ place, d.Reaches false p place ∧ d.kindAt place = none ∧ Patched d d' place (some .dir) := by
  rw [makeDir] at h
  cases hresolve : d.resolve false p with
  | error e => rw [hresolve] at h; cases h
  | ok target =>
    have hfits := fits_of_resolve hresolve
    rw [hresolve] at h
    cases target with
    | missing dir name =>
      cases h
      exact ⟨_, ⟨_, hresolve, rfl⟩, hfits.2, patched_put hfits.1 (by simp [hfits.2]) fun _ _ => rfl⟩
    | found place e => cases h

/-- A new directory does not change what is at a path that leads to something. -/
lemma readBytes_of_makeDir (hpresent : d.isPresent p = true) (hmake : d.makeDir q = .ok d') :
    d'.readBytes p = d.readBytes p := by
  obtain ⟨place, hplace, hsome⟩ := exists_reaches_of_isPresent hpresent
  obtain ⟨site, -, hfree, hpatch⟩ := makeDir_eq_ok hmake
  have hplain : d.Plain site := by simp [Plain, hfree]
  have hne : place ≠ site := by
    rintro rfl
    exact hsome hfree
  have hplace' : d'.Reaches true p place :=
    hplace.patch_plain hpatch hplain fun _ heq => absurd heq hne
  rw [hplace.readBytes_eq, hplace'.readBytes_eq, hpatch.kindAt_of_ne hne]

/-- A new file takes the place of what is at the path itself, unless that is a directory. -/
lemma replaceText_eq_ok {text : String} (h : d.replaceText p text = .ok d') :
    ∃ place, d.Reaches false p place ∧ d.kindAt place ≠ some .dir ∧
      Patched d d' place (some (.file text.toUTF8)) := by
  rw [replaceText] at h
  cases hresolve : d.resolve false p with
  | error e => rw [hresolve] at h; cases h
  | ok target =>
    have hreaches : d.Reaches false p target.place := ⟨target, hresolve, rfl⟩
    have hfits := fits_of_resolve hresolve
    rw [hresolve] at h
    cases target with
    | missing dir name =>
      cases h
      refine ⟨_, hreaches, by simp [Target.place, hfits.2], ?_⟩
      exact patched_put hfits.1 (by simp [hfits.2]) (at?_file _)
    | found place e =>
      have hkind := kindAt_of_at? hfits
      cases e with
      | dir _ _ => cases h
      | _ =>
        cases h
        have hkind : d.kindAt place ≠ some .dir := by simp [hkind, Entry.kind]
        exact ⟨place, hreaches, hkind, hreaches.patched_replaceAt hkind _⟩

/-- What is no directory can be replaced. -/
lemma Reaches.exists_replaceText {place : List String} (h : d.Reaches false p place)
    (hkind : d.kindAt place ≠ some .dir) (text : String) : ∃ d', d.replaceText p text = .ok d' := by
  obtain ⟨target, hresolve, rfl⟩ := h
  have hfits := fits_of_resolve hresolve
  rw [replaceText, hresolve]
  cases target with
  | missing dir name => exact ⟨_, rfl⟩
  | found place e =>
    cases e with
    | dir _ _ => exact absurd (kindAt_of_at? hfits) hkind
    | _ => exact ⟨_, rfl⟩

/-- What is removed is no directory, and it is gone. -/
lemma removeFile_eq_ok (h : d.removeFile p = .ok d') :
    ∃ place, d.Reaches false p place ∧ d.kindAt place ≠ some .dir ∧ Patched d d' place none := by
  rw [removeFile] at h
  cases hresolve : d.resolve false p with
  | error e => rw [hresolve] at h; cases h
  | ok target =>
    have hreaches : d.Reaches false p target.place := ⟨target, hresolve, rfl⟩
    have hfits := fits_of_resolve hresolve
    rw [hresolve] at h
    cases target with
    | missing dir name => cases h
    | found place e =>
      have hkind := kindAt_of_at? hfits
      cases e with
      | dir _ _ => cases h
      | _ =>
        cases h
        have hkind : d.kindAt place ≠ some .dir := by simp [hkind, Entry.kind]
        refine ⟨place, hreaches, hkind, ?_⟩
        obtain ⟨dir, name, rfl, hdir⟩ := (reaches_iff.1 hreaches).2.exists_dir hkind
        rw [List.getLast?_concat, List.dropLast_concat]
        exact patched_erase hdir hkind

/-- The second disk is the first one after a change of the file at a path: the file that the path
leads to was written, or what stands at the path was replaced or removed. -/
inductive Touched (p : Path) (d d' : Disk) : Prop where
  | through {site bytes} :
    d.Reaches true p site →
    d.Plain site →
    Patched d d' site (some (.file bytes)) →
    Touched p d d'
  | instead {site new} :
    d.Reaches false p site →
    Patched d d' site new →
    d'.Plain site →
    Touched p d d'

/-- Writing at a path changes its file. -/
lemma touched_of_writeBytes {bytes : ByteArray} (h : d.writeBytes p bytes = .ok d') :
    Touched p d d' := by
  obtain ⟨site, hsite, hplain, hpatch⟩ := writeBytes_eq_ok h
  exact .through hsite hplain hpatch

/-- Replacing what is at a path changes its file. -/
lemma touched_of_replaceText {text : String} (h : d.replaceText p text = .ok d') :
    Touched p d d' := by
  obtain ⟨site, hsite, -, hpatch⟩ := replaceText_eq_ok h
  exact .instead hsite hpatch (by simp [Plain, hpatch.kindAt_site])

/-- Removing what is at a path changes its file. -/
lemma touched_of_removeFile (h : d.removeFile p = .ok d') : Touched p d d' := by
  obtain ⟨site, hsite, -, hpatch⟩ := removeFile_eq_ok h
  exact .instead hsite hpatch (by simp [Plain, hpatch.kindAt_site])

/-- A path stays settled when its file changes. -/
lemma Touched.settled (h : Touched p d d') (hsettled : d.Settled p) : d'.Settled p := by
  cases h with
  | through hsite hplain hpatch =>
    have hsite' := hsite.patch_plain hpatch hplain (by simp)
    exact hsite'.settled (by simp [hpatch.kindAt_site])
  | instead hsite hpatch hnew =>
    exact ⟨_, hsite.patch hpatch (hsettled.leaf hsite) (by simp) (by simp), hnew.leaf⟩

/-- A settled file can be replaced, and then has the new text. -/
lemma Settled.exists_replaceText (h : d.Settled p) (text : String) :
    ∃ d', d.replaceText p text = .ok d' := by
  obtain ⟨stop, hstop, hleaf⟩ := h
  exact hstop.exists_replaceText hleaf.1 text

/-- What replaces a file is stored at the path. -/
lemma Settled.stored_of_replaceText {text : String} (h : d.Settled p)
    (hreplace : d.replaceText p text = .ok d') : d'.Stored p text.toUTF8 := by
  obtain ⟨site, hsite, -, hpatch⟩ := replaceText_eq_ok hreplace
  exact ⟨site, hsite.patch hpatch (h.leaf hsite) (by simp) (by simp), hpatch.kindAt_site⟩

/-- A new file at a path that led to one leaves what another path reads, unless that path led to the
same file. -/
lemma readBytes_of_replaceText {q : Path} {text : String} {old bytes : ByteArray}
    (hreplace : d.replaceText p text = .ok d') (hold : d.readBytes p = .ok old)
    (hother : ∀ place, d.Reaches true q place → ¬ d.Reaches true p place)
    (h : d.readBytes q = .ok bytes) : d'.readBytes q = .ok bytes := by
  obtain ⟨site, hsite, hkind, hpatch⟩ := replaceText_eq_ok hreplace
  obtain ⟨target, htarget, hfile⟩ := readBytes_eq_ok_iff.1 hold
  obtain ⟨place, hplace, hbytes⟩ := readBytes_eq_ok_iff.1 h
  have hleaf := (settled_of_readBytes hold).leaf hsite
  have hne : place ≠ site := by
    rintro rfl
    exact hother _ hplace (hsite.followed (by simp [hbytes]))
  -- A link at the path leads to the one file, and so not to the other.
  have hlink : ∀ t links, d.kindAt site = some (.link t) →
      ¬ Leads d true links (linkStart t site.dropLast) t.names place := by
    intro t links hlink hleads
    obtain ⟨stop, hstop, hend⟩ := (reaches_iff.1 htarget).2.unfollow
    cases hstop.unique (reaches_iff.1 hsite).2
    rcases hend with rfl | ⟨t', links', hlink', hleads'⟩
    · cases hfile.symm.trans hlink
    · cases hlink.symm.trans hlink'
      cases hleads.unique hleads'
      exact hother _ hplace htarget
  refine readBytes_eq_ok_iff.2 ⟨place, ?_, (hpatch.kindAt_of_ne hne).trans hbytes⟩
  exact hplace.patch hpatch hleaf (fun _ => hlink) fun _ heq => absurd heq hne

/-- The new file is what is read at the path, unless the path led through a link at its own end. -/
lemma readText_of_replaceText {text : String} (h : d.replaceText p text = .ok d') :
    ∃ place, d.Reaches false p place ∧ Patched d d' place (some (.file text.toUTF8)) ∧
      (d'.readText p = .ok text ∨
        (∃ t, d.kindAt place = some (.link t)) ∧ d'.readText p = .error .notADirectory) := by
  obtain ⟨place, hplace, hkind, hpatch⟩ := replaceText_eq_ok h
  obtain ⟨husable, hleads⟩ := reaches_iff.1 hplace
  have hstart : d'.startOf p = d.startOf p := by rw [startOf, startOf, hpatch.cwd]
  refine ⟨place, hplace, hpatch, (hpatch.leads_or_walk hkind hleads).imp ?_ (And.imp_right ?_)⟩
  · intro hleads'
    have hplace' : d'.Reaches false p place := reaches_iff.2 ⟨husable, hstart ▸ hleads'⟩
    have hstored : d'.Stored p text.toUTF8 := ⟨place, hplace', hpatch.kindAt_site⟩
    exact readText_eq_ok_iff.2 hstored.readBytes
  · intro hwalk
    rw [readText, readBytes, Disk.entry, resolve_of_usable husable, hstart, hwalk]

end Disk

end Keyplan.File
