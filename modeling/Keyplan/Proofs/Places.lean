import Keyplan.File.Disk
import Mathlib

/-!
# Where paths lead

A disk is seen here as a map from places to what stands there (`Disk.kindAt`), and an operation as a
change of that map at one place (`Disk.Patched`). Following names from a place on is a relation
(`Leads`), which holds of exactly the successful walks (`walk_eq_ok`, `Leads.exists_walk`). Where
names lead after a change is read off that relation: a change at a place from which no path leads
on, a file, a free name or a link to one of these, moves no path but those that end with a link
there (`Patched.leads`, `Reaches.patch`). A file in the place of any other link moves the paths
through it only (`Patched.leads_or_walk`).
-/

namespace Keyplan

namespace File

/-- A name behind a slash is the last name of a path. -/
lemma Path.names_append_slash (dir : Path) {name : String} (h : '/' ∉ name.toList) :
    (dir ++ "/" ++ name).names = dir.names ++ [name] := by
  have hchars : (dir ++ "/" ++ name).toList = dir.toList ++ '/' :: name.toList := by simp
  rw [names, hchars, Text.splitBy_append, Text.splitBy_of_notMem h]
  simp [names]

/-- A name in a directory is the last name of its path. -/
lemma Path.exists_names_join (dir : Path) {name : String} (h : '/' ∉ name.toList) :
    ∃ front, (join dir name).names = front ++ [name] := by
  rw [join]
  split
  · exact ⟨[], by simp [names, Text.splitBy_of_notMem h]⟩
  · split
    · next _ hlast =>
      -- The slash in between is the last character of the directory.
      obtain ⟨front, hfront⟩ := List.getLast?_eq_some_iff.1 hlast
      have hdir : dir = String.ofList front ++ "/" := by
        rw [← String.toList_inj, hfront]
        simp
      exact ⟨_, by rw [hdir, names_append_slash _ h]⟩
    · exact ⟨_, names_append_slash dir h⟩

/-- What stands at a place, without what a directory holds. -/
inductive Kind where
  | file (content : ByteArray)
  | link (target : Path)
  | dir

namespace Entry

/-- The kind of an entry. -/
def kind : Entry → Kind
  | .file content => .file content
  | .link target => .link target
  | .dir _ _ => .dir

/-- Only a directory is of the kind of directories. -/
lemma exists_dir_of_kind {e : Entry} (h : e.kind = .dir) : ∃ readOnly cs, e = .dir readOnly cs := by
  cases e with
  | dir readOnly cs => exact ⟨readOnly, cs, rfl⟩
  | _ => cases h

/-- Putting an entry under a name changes that name only. -/
lemma child?_putChild (m n : String) (e : Entry) (cs : List (String × Entry)) :
    child? m (putChild n e cs) = if m = n then some e else child? m cs := by
  induction cs with
  | nil =>
    by_cases h : m = n
    · simp [putChild, child?, h]
    · simp [putChild, child?, h, Ne.symm h]
  | cons c cs ih =>
    obtain ⟨k, old⟩ := c
    rw [putChild]
    by_cases hk : k = n
    · subst hk
      by_cases h : m = k
      · simp [child?, h]
      · simp [child?, h, Ne.symm h]
    · rw [if_neg hk]
      by_cases h : k = m
      · subst h
        simp [child?, hk]
      · simpa [child?, h] using ih

/-- Removing a name changes that name only. -/
lemma child?_filter (m n : String) (cs : List (String × Entry)) :
    child? m (cs.filter fun c => c.1 != n) = if m = n then none else child? m cs := by
  induction cs with
  | nil => simp [child?]
  | cons c cs ih =>
    obtain ⟨k, old⟩ := c
    by_cases hk : k = n
    · subst hk
      by_cases h : m = k
      · simpa [h] using ih
      · simpa [child?, h, Ne.symm h] using ih
    · by_cases h : k = m
      · subst h
        simp [child?, hk]
      · simpa [child?, hk, h] using ih

/-- What is at a place in a directory is what the directory has under the last name. -/
lemma at?_concat {e : Entry} {place : List String} {readOnly cs} (name : String)
    (h : e.at? place = some (.dir readOnly cs)) : e.at? (place ++ [name]) = child? name cs := by
  induction place generalizing e with
  | nil =>
    cases h
    rw [List.nil_append, at?]
    cases child? name cs <;> rfl
  | cons n place ih =>
    cases e with
    | dir ro cs' =>
      rw [at?] at h
      rw [List.cons_append, at?]
      cases hc : child? n cs' with
      | none => rw [hc] at h; cases h
      | some e =>
        rw [hc] at h
        exact ih h
    | _ => cases h

/-- The entries around a place are directories. -/
lemma kind_of_at?_append {e : Entry} {place : List String} {name : String} {rest : List String}
    (h : (e.at? (place ++ name :: rest)).isSome = true) : (e.at? place).map kind = some .dir := by
  induction place generalizing e with
  | nil =>
    cases e with
    | dir _ _ => rfl
    | _ => cases h
  | cons n place ih =>
    cases e with
    | dir _ cs =>
      rw [List.cons_append, at?] at h
      rw [at?]
      cases hc : child? n cs with
      | none => rw [hc] at h; cases h
      | some e =>
        rw [hc] at h
        exact ih h
    | _ => cases h

/-- Changing one name of a directory changes what stands there and nothing else, if no directory
stands there before and nothing stands below it afterwards. -/
lemma kind_changeDir {f : List (String × Entry) → List (String × Entry)} {name : String}
    {new : Option Entry} (hf : ∀ m cs, child? m (f cs) = if m = name then new else child? m cs)
    (hnew : ∀ e ∈ new, ∀ n r, e.at? (n :: r) = none) {e : Entry} {dir : List String}
    (hdir : (e.at? dir).map kind = some .dir)
    (hold : (e.at? (dir ++ [name])).map kind ≠ some .dir) (place : List String) :
    ((e.changeDir f dir).at? place).map kind =
      if place = dir ++ [name] then new.map kind else (e.at? place).map kind := by
  induction dir generalizing e place with
  | nil =>
    cases e with
    | dir ro cs =>
      cases place with
      | nil => rfl
      | cons n rest =>
        rw [changeDir, at?, hf]
        by_cases hn : n = name
        · subst hn
          cases rest with
          | nil => cases new <;> simp [at?]
          | cons r rest =>
            -- Below the name there is nothing before the change and nothing after it.
            have hbelow : Entry.at? (n :: r :: rest) (.dir ro cs) = none := by
              by_contra hne
              exact hold (kind_of_at?_append (Option.isSome_iff_ne_none.2 hne))
            cases new with
            | none => simp [hbelow]
            | some x => simp [hbelow, hnew x rfl]
        · simp [hn, at?]
    | _ => cases hdir
  | cons a dir ih =>
    cases e with
    | dir ro cs =>
      rw [changeDir]
      cases hc : child? a cs with
      | none => simp [at?, hc] at hdir
      | some e' =>
        simp only [at?, hc, List.cons_append] at hdir hold
        cases place with
        | nil => rfl
        | cons n rest =>
          simp only [at?, child?_putChild]
          by_cases hn : n = a
          · subst hn
            simp [hc, ih hdir hold rest]
          · simp [hn]
    | _ => cases hdir

end Entry

namespace Disk

/-- What stands at a place, if something does. -/
def kindAt (d : Disk) (place : List String) : Option Kind :=
  (d.root.at? place).map Entry.kind

/-- The second disk is the first one with something else at one place. -/
structure Patched (d d' : Disk) (place : List String) (new : Option Kind) : Prop where
  cwd : d'.cwd = d.cwd
  kindAt (q : List String) : d'.kindAt q = if q = place then new else d.kindAt q

/-- Around a place at which something stands is a directory. -/
lemma kindAt_of_concat {d : Disk} {place : List String} {name : String} {k : Kind}
    (h : d.kindAt (place ++ [name]) = some k) : d.kindAt place = some .dir := by
  obtain ⟨e, he, -⟩ := Option.map_eq_some_iff.1 h
  exact Entry.kind_of_at?_append (by rw [he]; rfl)

/-- Around a directory is a directory. -/
lemma kindAt_dropLast {d : Disk} {place : List String} (h : d.kindAt place = some .dir) :
    d.kindAt place.dropLast = some .dir := by
  rcases List.eq_nil_or_concat place with rfl | ⟨front, name, rfl⟩
  · exact h
  · rw [List.concat_eq_append] at h ⊢
    rw [List.dropLast_concat]
    exact kindAt_of_concat h

/-- Putting what holds nothing under a name is a change at that name. -/
lemma patched_put {d : Disk} {dir : List String} {name : String} {e : Entry}
    (hdir : d.kindAt dir = some .dir) (hold : d.kindAt (dir ++ [name]) ≠ some .dir)
    (he : ∀ n r, e.at? (n :: r) = none) :
    Patched d (d.put dir name e) (dir ++ [name]) (some e.kind) where
  cwd := rfl
  kindAt q := by
    refine Entry.kind_changeDir (fun m cs => Entry.child?_putChild m name e cs) ?_ hdir hold q
    rintro _ ⟨⟩
    exact he

/-- Removing what is no directory is a change at its name. -/
lemma patched_erase {d : Disk} {dir : List String} {name : String}
    (hdir : d.kindAt dir = some .dir) (hold : d.kindAt (dir ++ [name]) ≠ some .dir) :
    Patched d (d.erase dir name) (dir ++ [name]) none where
  cwd := rfl
  kindAt q :=
    Entry.kind_changeDir (fun m cs => Entry.child?_filter m name cs) (by simp) hdir hold q

/-- The name of an entry, as opposed to one that stands for a directory. -/
structure IsName (name : String) : Prop where
  ne_empty : name ≠ ""
  ne_dot : name ≠ "."
  ne_dots : name ≠ ".."
  size_le : name.utf8ByteSize ≤ maxName

/-- A name that the walk does not treat apart is the name of an entry. -/
lemma isName_of_not {name : String} (hdot : ¬ (name = "" ∨ name = ".")) (hdots : ¬ name = "..")
    (hsize : ¬ maxName < name.utf8ByteSize) : IsName name where
  ne_empty h := hdot (.inl h)
  ne_dot h := hdot (.inr h)
  ne_dots := hdots
  size_le := Nat.not_lt.1 hsize

/-- Where the names of a link start when it stands in a directory. -/
def linkStart (target : Path) (dir : List String) : List String :=
  if target.isAbsolute then [] else dir

/-- The names lead from a place to a target through at most `links` links. Something stands at the
target, or its name is free in its directory. -/
inductive Leads (d : Disk) (follow : Bool) :
    Nat → List String → List String → List String → Prop where
  | here {links place} :
    d.kindAt place = some .dir →
    Leads d follow links place [] place
  | stay {links place name rest target} :
    d.kindAt place = some .dir →
    name = "" ∨ name = "." →
    Leads d follow links place rest target →
    Leads d follow links place (name :: rest) target
  | up {links place rest target} :
    d.kindAt place = some .dir →
    Leads d follow links place.dropLast rest target →
    Leads d follow links place (".." :: rest) target
  | last {links place name} :
    d.kindAt place = some .dir →
    IsName name →
    (follow = true → ∀ t, d.kindAt (place ++ [name]) ≠ some (.link t)) →
    Leads d follow links place [name] (place ++ [name])
  | enter {links place name rest target} :
    IsName name →
    d.kindAt (place ++ [name]) = some .dir →
    rest ≠ [] →
    Leads d follow links (place ++ [name]) rest target →
    Leads d follow links place (name :: rest) target
  | link {links place name rest t target} :
    IsName name →
    d.kindAt (place ++ [name]) = some (.link t) →
    rest ≠ [] ∨ follow = true →
    Leads d follow links (linkStart t place) (t.names ++ rest) target →
    Leads d follow (links + 1) place (name :: rest) target

/-- The place of a target. -/
def Target.place : Target → List String
  | .found place _ => place
  | .missing dir name => dir ++ [name]

/-- The target is what stands at its place. -/
def Target.Fits (d : Disk) : Target → Prop
  | .found place e => d.root.at? place = some e
  | .missing dir name => d.kindAt dir = some .dir ∧ d.kindAt (dir ++ [name]) = none

/-- At the place of a directory is a directory. -/
lemma at?_of_kindAt {d : Disk} {place : List String} (h : d.kindAt place = some .dir) :
    ∃ readOnly cs, d.root.at? place = some (.dir readOnly cs) := by
  obtain ⟨e, he, hkind⟩ := Option.map_eq_some_iff.1 h
  obtain ⟨readOnly, cs, rfl⟩ := Entry.exists_dir_of_kind hkind
  exact ⟨readOnly, cs, he⟩

/-- The kind of what is at a place is the kind at that place. -/
lemma kindAt_of_at? {d : Disk} {place : List String} {e : Entry} (h : d.root.at? place = some e) :
    d.kindAt place = some e.kind := by
  rw [kindAt, h, Option.map_some]

variable {d : Disk} {follow : Bool} {links links' : Nat} {place names target : List String}

/-- Names lead on from directories only. -/
lemma Leads.start (h : Leads d follow links place names target) : d.kindAt place = some .dir := by
  cases h with
  | here hdir => exact hdir
  | stay hdir _ _ => exact hdir
  | up hdir _ => exact hdir
  | last hdir _ _ => exact hdir
  | enter _ hkind _ _ => exact kindAt_of_concat hkind
  | link _ hkind _ _ => exact kindAt_of_concat hkind

/-- More links may be allowed than are needed. -/
lemma Leads.mono (h : Leads d follow links place names target) (hle : links ≤ links') :
    Leads d follow links' place names target := by
  induction h generalizing links' with
  | here hdir => exact .here hdir
  | stay hdir hname _ ih => exact .stay hdir hname (ih hle)
  | up hdir _ ih => exact .up hdir (ih hle)
  | last hdir hname hlast => exact .last hdir hname hlast
  | enter hname hkind hrest _ ih => exact .enter hname hkind hrest (ih hle)
  | link hname hkind hrest _ ih =>
    obtain ⟨links', rfl⟩ : ∃ n, links' = n + 1 := ⟨links' - 1, by omega⟩
    exact .link hname hkind hrest (ih (by omega))

/-- A path has at least one name. -/
lemma names_ne_nil (p : Path) : p.names ≠ [] := by
  simpa [Path.names] using Text.splitBy_ne_nil '/' p.toList

/-- A walk that succeeds leads to its target. -/
lemma walk_eq_ok {target : Target} (hnil : names = [] → d.kindAt place = some .dir)
    (h : d.walk follow links place names = .ok target) :
    Leads d follow links place names target.place ∧ target.Fits d := by
  fun_induction walk d follow links place names with
  | case1 links place e hat =>
    cases h
    exact ⟨.here (hnil rfl), hat⟩
  | case3 links place name rest readOnly cs hat hname ih =>
    have hdir := kindAt_of_at? hat
    obtain ⟨hleads, hfits⟩ := ih (fun _ => hdir) h
    exact ⟨.stay hdir hname hleads, hfits⟩
  | case4 links place rest readOnly cs hat _ ih =>
    have hdir := kindAt_of_at? hat
    obtain ⟨hleads, hfits⟩ := ih (fun _ => kindAt_dropLast hdir) h
    exact ⟨.up hdir hleads, hfits⟩
  | case6 links place name readOnly cs hat hdot hdots hsize hchild =>
    cases h
    have hdir := kindAt_of_at? hat
    have hname := isName_of_not hdot hdots hsize
    have hnone : d.kindAt (place ++ [name]) = none := by
      rw [kindAt, Entry.at?_concat name hat, hchild, Option.map_none]
    exact ⟨.last hdir hname (by simp [hnone]), hdir, hnone⟩
  | case8 links place name rest readOnly cs hat hdot hdots hsize t hchild hrest =>
    cases h
    obtain ⟨rfl, hfollow⟩ := hrest
    have hname := isName_of_not hdot hdots hsize
    have hlink := (Entry.at?_concat name hat).trans hchild
    refine ⟨.last (kindAt_of_at? hat) hname ?_, hlink⟩
    rintro rfl
    cases hfollow
  | case10 place name rest readOnly cs hat hdot hdots hsize t hchild hrest links start ih =>
    have hname := isName_of_not hdot hdots hsize
    have hlink := (Entry.at?_concat name hat).trans hchild
    have hne : t.names ++ rest ≠ [] := List.append_ne_nil_of_left_ne_nil (names_ne_nil t) rest
    obtain ⟨hleads, hfits⟩ := ih (fun hnil => absurd hnil hne) h
    refine ⟨.link hname (kindAt_of_at? hlink) ?_ hleads, hfits⟩
    by_cases hnil : rest = []
    · exact .inr (by simpa [hnil] using hrest)
    · exact .inl hnil
  | case11 links place name rest readOnly cs hat hdot hdots hsize e hlink hchild ih =>
    have hname := isName_of_not hdot hdots hsize
    have hentry := (Entry.at?_concat name hat).trans hchild
    cases rest with
    | nil =>
      rw [walk, hentry] at h
      cases h
      refine ⟨.last (kindAt_of_at? hat) hname ?_, hentry⟩
      intro _ t hkind
      rw [kindAt_of_at? hentry] at hkind
      cases e with
      | link t' => exact hlink t' rfl
      | _ => cases hkind
    | cons n rest =>
      obtain ⟨hleads, hfits⟩ := ih (by simp) h
      exact ⟨.enter hname hleads.start (by simp) hleads, hfits⟩
  | _ => cases h

section
variable {name : String} (follow : Bool) (links : Nat)

/-- The walk ends at a name that is free. -/
lemma IsName.walk_free (h : IsName name) (hdir : d.kindAt place = some .dir)
    (hat : d.root.at? (place ++ [name]) = none) :
    d.walk follow links place [name] = .ok (.missing place name) := by
  obtain ⟨readOnly, cs, hplace⟩ := at?_of_kindAt hdir
  rw [Entry.at?_concat name hplace] at hat
  rw [walk, hplace]
  simp [h.ne_empty, h.ne_dot, h.ne_dots, Nat.not_lt.2 h.size_le, hat]

/-- The walk ends at a link that it does not follow. -/
lemma IsName.walk_unfollowed (h : IsName name) {t : Path}
    (hat : d.root.at? (place ++ [name]) = some (.link t)) :
    d.walk false links place [name] = .ok (.found (place ++ [name]) (.link t)) := by
  obtain ⟨readOnly, cs, hplace⟩ := at?_of_kindAt (kindAt_of_concat (kindAt_of_at? hat))
  rw [Entry.at?_concat name hplace] at hat
  rw [walk, hplace]
  simp [h.ne_empty, h.ne_dot, h.ne_dots, Nat.not_lt.2 h.size_le, hat]

/-- The walk goes on through a link. -/
lemma IsName.walk_link (h : IsName name) {t : Path} {rest : List String}
    (hat : d.root.at? (place ++ [name]) = some (.link t)) (hrest : rest ≠ [] ∨ follow = true) :
    d.walk follow (links + 1) place (name :: rest) =
      d.walk follow links (linkStart t place) (t.names ++ rest) := by
  obtain ⟨readOnly, cs, hplace⟩ := at?_of_kindAt (kindAt_of_concat (kindAt_of_at? hat))
  rw [Entry.at?_concat name hplace] at hat
  have hcond : ¬ (rest = [] ∧ (!follow) = true) := by
    rintro ⟨rfl, hfollow⟩
    simp_all
  rw [walk, hplace]
  simp only [h.ne_empty, h.ne_dot, h.ne_dots, or_self, Nat.not_lt.2 h.size_le, hat, hcond, if_false]
  rfl

/-- The walk goes on from what is no link. -/
lemma IsName.walk_enter (h : IsName name) {e : Entry} (he : ∀ t, e ≠ .link t)
    (hat : d.root.at? (place ++ [name]) = some e) (rest : List String) :
    d.walk follow links place (name :: rest) = d.walk follow links (place ++ [name]) rest := by
  obtain ⟨readOnly, cs, hplace⟩ := at?_of_kindAt (kindAt_of_concat (kindAt_of_at? hat))
  rw [Entry.at?_concat name hplace] at hat
  rw [walk, hplace]
  cases e with
  | link t => exact absurd rfl (he t)
  | _ => simp [h.ne_empty, h.ne_dot, h.ne_dots, Nat.not_lt.2 h.size_le, hat]

end

/-- Names that lead somewhere can be walked. -/
lemma Leads.exists_walk (h : Leads d follow links place names target) :
    ∃ t, d.walk follow links place names = .ok t ∧ t.place = target := by
  induction h with
  | @here links place hdir =>
    obtain ⟨readOnly, cs, hat⟩ := at?_of_kindAt hdir
    exact ⟨.found place (.dir readOnly cs), by rw [walk, hat], rfl⟩
  | stay hdir hname _ ih =>
    obtain ⟨readOnly, cs, hat⟩ := at?_of_kindAt hdir
    obtain ⟨t, hwalk, ht⟩ := ih
    refine ⟨t, ?_, ht⟩
    rw [walk, hat]
    simp only [if_pos hname, hwalk]
  | up hdir _ ih =>
    obtain ⟨readOnly, cs, hat⟩ := at?_of_kindAt hdir
    obtain ⟨t, hwalk, ht⟩ := ih
    refine ⟨t, ?_, ht⟩
    rw [walk, hat]
    simp [hwalk]
  | @last links place name hdir hname hlast =>
    cases hat : d.root.at? (place ++ [name]) with
    | none => exact ⟨_, hname.walk_free follow links hdir hat, rfl⟩
    | some e =>
      by_cases hlink : ∃ t, e = .link t
      · obtain ⟨t, rfl⟩ := hlink
        have hfollow : follow = false := by
          by_contra hcon
          exact hlast (by simpa using hcon) t (kindAt_of_at? hat)
        subst hfollow
        exact ⟨_, hname.walk_unfollowed links hat, rfl⟩
      · refine ⟨.found (place ++ [name]) e, ?_, rfl⟩
        rw [hname.walk_enter follow links (fun t ht => hlink ⟨t, ht⟩) hat, walk, hat]
  | enter hname hkind _ _ ih =>
    obtain ⟨t, hwalk, ht⟩ := ih
    obtain ⟨readOnly, cs, hat⟩ := at?_of_kindAt hkind
    exact ⟨t, (hname.walk_enter _ _ (by simp) hat _).trans hwalk, ht⟩
  | link hname hkind hrest _ ih =>
    obtain ⟨t, hwalk, ht⟩ := ih
    obtain ⟨e, hat, hkind⟩ := Option.map_eq_some_iff.1 hkind
    cases e with
    | link _ =>
      cases hkind
      exact ⟨t, (hname.walk_link _ _ hat hrest).trans hwalk, ht⟩
    | _ => cases hkind

/-- Names lead to one place only, whatever the bound on the links. -/
lemma Leads.unique {target' : List String} (h : Leads d follow links place names target)
    (h' : Leads d follow links' place names target') : target = target' := by
  obtain ⟨t, hwalk, rfl⟩ := (h.mono (Nat.le_add_right links links')).exists_walk
  obtain ⟨t', hwalk', rfl⟩ := (h'.mono (Nat.le_add_left links' links)).exists_walk
  cases hwalk.symm.trans hwalk'
  rfl

/-- The first names lead to a directory, and the others lead on from there. -/
lemma Leads.split (h : Leads d follow links place names target) {front back : List String}
    (hnames : names = front ++ back) (hback : back ≠ []) :
    ∃ dir links', Leads d true links place front dir ∧ Leads d follow links' dir back target := by
  induction h generalizing front with
  | here _ => exact absurd (List.append_eq_nil_iff.1 hnames.symm).2 hback
  | @stay links place name rest target hdir hname hleads ih =>
    cases front with
    | nil =>
      cases hnames
      exact ⟨place, links, .here hdir, .stay hdir hname hleads⟩
    | cons n front =>
      obtain ⟨rfl, hrest⟩ := List.cons.inj hnames
      obtain ⟨dir, links', hfront, hleads'⟩ := ih hrest
      exact ⟨dir, links', .stay hdir hname hfront, hleads'⟩
  | @up links place rest target hdir hleads ih =>
    cases front with
    | nil =>
      cases hnames
      exact ⟨place, links, .here hdir, .up hdir hleads⟩
    | cons n front =>
      obtain ⟨rfl, hrest⟩ := List.cons.inj hnames
      obtain ⟨dir, links', hfront, hleads'⟩ := ih hrest
      exact ⟨dir, links', .up hdir hfront, hleads'⟩
  | @last links place name hdir hname hlast =>
    cases front with
    | nil =>
      cases hnames
      exact ⟨place, links, .here hdir, .last hdir hname hlast⟩
    | cons n front =>
      have hnil := List.append_eq_nil_iff.1 (List.cons.inj hnames).2.symm
      exact absurd hnil.2 hback
  | @enter links place name rest target hname hkind hne hleads ih =>
    cases front with
    | nil =>
      cases hnames
      exact ⟨place, links, .here (kindAt_of_concat hkind), .enter hname hkind hne hleads⟩
    | cons n front =>
      obtain ⟨rfl, hrest⟩ := List.cons.inj hnames
      obtain ⟨dir, links', hfront, hleads'⟩ := ih hrest
      refine ⟨dir, links', ?_, hleads'⟩
      cases front with
      | nil =>
        cases hfront
        exact .last (kindAt_of_concat hkind) hname (by simp [hkind])
      | cons m front => exact .enter hname hkind (by simp) hfront
  | @link links place name rest t target hname hkind hne hleads ih =>
    cases front with
    | nil =>
      cases hnames
      exact ⟨place, links + 1, .here (kindAt_of_concat hkind), .link hname hkind hne hleads⟩
    | cons n front =>
      obtain ⟨rfl, hrest⟩ := List.cons.inj hnames
      have hnames' : t.names ++ rest = t.names ++ front ++ back := by
        rw [List.append_assoc]
        exact congrArg _ hrest
      obtain ⟨dir, links', hfront, hleads'⟩ := ih hnames'
      exact ⟨dir, links', .link hname hkind (.inr rfl) hfront, hleads'⟩

/-- Names whose last link is followed lead to where they lead without that, or on through the link
that stands there. -/
lemma Leads.unfollow (h : Leads d true links place names target) :
    ∃ stop, Leads d false links place names stop ∧
      (stop = target ∨ ∃ t links', d.kindAt stop = some (.link t) ∧
        Leads d true links' (linkStart t stop.dropLast) t.names target) := by
  induction h with
  | here hdir => exact ⟨_, .here hdir, .inl rfl⟩
  | stay hdir hname _ ih =>
    obtain ⟨stop, hstop, hend⟩ := ih
    exact ⟨stop, .stay hdir hname hstop, hend⟩
  | up hdir _ ih =>
    obtain ⟨stop, hstop, hend⟩ := ih
    exact ⟨stop, .up hdir hstop, hend⟩
  | last hdir hname _ => exact ⟨_, .last hdir hname (by simp), .inl rfl⟩
  | enter hname hkind hrest _ ih =>
    obtain ⟨stop, hstop, hend⟩ := ih
    exact ⟨stop, .enter hname hkind hrest hstop, hend⟩
  | @link links place name rest t target hname hkind _ hleads ih =>
    cases rest with
    | nil =>
      rw [List.append_nil] at hleads
      refine ⟨place ++ [name], .last (kindAt_of_concat hkind) hname (by simp), .inr ?_⟩
      exact ⟨t, links, hkind, by rwa [List.dropLast_concat]⟩
    | cons n rest =>
      obtain ⟨stop, hstop, hend⟩ := ih
      exact ⟨stop, .link hname hkind (.inl (by simp)) hstop, hend⟩

/-- Where no link stands at the end, following it makes no difference. -/
lemma Leads.followed (h : Leads d false links place names target)
    (hlink : ∀ t, d.kindAt target ≠ some (.link t)) :
    Leads d true links place names target := by
  induction h with
  | here hdir => exact .here hdir
  | stay hdir hname _ ih => exact .stay hdir hname (ih hlink)
  | up hdir _ ih => exact .up hdir (ih hlink)
  | last hdir hname _ => exact .last hdir hname fun _ => hlink
  | enter hname hkind hrest _ ih => exact .enter hname hkind hrest (ih hlink)
  | link hname hkind _ _ ih => exact .link hname hkind (.inr rfl) (ih hlink)

/-- Where links at the end are followed, none stands at the target. -/
lemma Leads.not_link (h : Leads d true links place names target) (t : Path) :
    d.kindAt target ≠ some (.link t) := by
  induction h with
  | here hdir => simp [hdir]
  | last _ _ hlast => exact hlast rfl t
  | stay _ _ _ ih => exact ih
  | up _ _ ih => exact ih
  | enter _ _ _ _ ih => exact ih
  | link _ _ _ _ ih => exact ih

/-- A target that is no directory is a name in one. -/
lemma Leads.exists_dir (h : Leads d follow links place names target)
    (hkind : d.kindAt target ≠ some .dir) :
    ∃ dir name, target = dir ++ [name] ∧ d.kindAt dir = some .dir := by
  induction h with
  | here hdir => exact absurd hdir hkind
  | last hdir _ _ => exact ⟨_, _, rfl, hdir⟩
  | stay _ _ _ ih => exact ih hkind
  | up _ _ ih => exact ih hkind
  | enter _ _ _ _ ih => exact ih hkind
  | link _ _ _ _ ih => exact ih hkind

/-- A last name that is the name of an entry is the last name of the target. -/
lemma Leads.target_concat {front : List String} {name : String} (hempty : name ≠ "")
    (hdot : name ≠ ".") (hdots : name ≠ "..")
    (h : Leads d false links place (front ++ [name]) target) :
    ∃ dir, Leads d true links place front dir ∧ target = dir ++ [name] := by
  obtain ⟨dir, links', hfront, hlast⟩ := h.split rfl (by simp)
  refine ⟨dir, hfront, ?_⟩
  cases hlast with
  | stay _ hname _ => exact absurd hname (by simp [hempty, hdot])
  | up _ _ => exact absurd rfl hdots
  | last _ _ _ => rfl
  | enter _ _ hrest _ => exact absurd rfl hrest
  | link _ _ hrest _ => simp at hrest

/-- A file stands at the place, or nothing does. -/
def Plain (d : Disk) (place : List String) : Prop :=
  d.kindAt place ≠ some .dir ∧ ∀ t, d.kindAt place ≠ some (.link t)

/-- No path leads on from the place: no directory stands there, and no link to one. -/
def Leaf (d : Disk) (place : List String) : Prop :=
  d.kindAt place ≠ some .dir ∧ ∀ t, d.kindAt place = some (.link t) →
    ∃ links target, Leads d true links (linkStart t place.dropLast) t.names target ∧
      d.kindAt target ≠ some .dir

/-- No path leads on from a file or from a free name. -/
lemma Plain.leaf (h : d.Plain place) : d.Leaf place :=
  ⟨h.1, fun t ht => absurd ht (h.2 t)⟩

/-- A link at a leaf is followed by no further name. -/
lemma Leaf.not_leads {rest : List String} {name : String} {t : Path} (h : d.Leaf (place ++ [name]))
    (hkind : d.kindAt (place ++ [name]) = some (.link t)) (hrest : rest ≠ []) :
    ¬ Leads d follow links (linkStart t place) (t.names ++ rest) target := by
  intro hleads
  obtain ⟨dir, links', hdir, hon⟩ := hleads.split rfl hrest
  obtain ⟨links'', stop, hstop, hnot⟩ := h.2 t hkind
  rw [List.dropLast_concat] at hstop
  cases hdir.unique hstop
  exact hnot hon.start

namespace Patched

variable {d' : Disk} {site : List String} {new : Option Kind}

/-- Undoing a change is a change at the same place. -/
lemma symm (h : Patched d d' site new) : Patched d' d site (d.kindAt site) where
  cwd := h.cwd.symm
  kindAt q := by
    by_cases hq : q = site
    · rw [if_pos hq, hq]
    · rw [if_neg hq, h.kindAt q, if_neg hq]

/-- What was put at the place is there. -/
lemma kindAt_site (h : Patched d d' site new) : d'.kindAt site = new := by
  rw [h.kindAt, if_pos rfl]

/-- Everything else is as it was. -/
lemma kindAt_of_ne (h : Patched d d' site new) (hne : place ≠ site) :
    d'.kindAt place = d.kindAt place := by
  rw [h.kindAt, if_neg hne]

/-- A directory is not where the change is. -/
lemma kindAt_dir (h : Patched d d' site new) (hold : d.kindAt site ≠ some .dir)
    (hdir : d.kindAt place = some .dir) : d'.kindAt place = some .dir := by
  rw [h.kindAt_of_ne, hdir]
  rintro rfl
  exact hold hdir

/-- A change at a leaf moves no path, except one that ends with a link that stood there. -/
lemma leads (hpatch : Patched d d' site new) (hleaf : d.Leaf site)
    (hold : follow = true → ∀ t links, d.kindAt site = some (.link t) →
      ¬ Leads d true links (linkStart t site.dropLast) t.names target)
    (h : Leads d follow links place names target)
    (hnew : follow = true → target = site → ∀ t, new ≠ some (.link t)) :
    Leads d' follow links place names target := by
  have hkeep : ∀ q, d.kindAt q = some .dir → d'.kindAt q = some .dir :=
    fun _ => hpatch.kindAt_dir hleaf.1
  induction h with
  | here hdir => exact .here (hkeep _ hdir)
  | stay hdir hname _ ih => exact .stay (hkeep _ hdir) hname (ih hold hnew)
  | up hdir _ ih => exact .up (hkeep _ hdir) (ih hold hnew)
  | last hdir hname hlast =>
    refine .last (hkeep _ hdir) hname fun hfollow t => ?_
    rw [hpatch.kindAt]
    split
    · exact hnew hfollow ‹_› t
    · exact hlast hfollow t
  | enter hname hkind hrest _ ih => exact .enter hname (hkeep _ hkind) hrest (ih hold hnew)
  | @link links place name rest t target hname hkind hrest hleads ih =>
    have hne : place ++ [name] ≠ site := by
      rintro rfl
      by_cases hend : rest = []
      · -- The link is followed although it comes last, so it stood in the way.
        cases hend
        have hfollow : follow = true := hrest.resolve_left (by simp)
        subst hfollow
        rw [List.append_nil] at hleads
        refine hold rfl t links hkind ?_
        rwa [List.dropLast_concat]
      · exact hleaf.not_leads hkind hend hleads
    exact .link hname ((hpatch.kindAt_of_ne hne).trans hkind) hrest (ih hold hnew)

/-- A file in the place of a link cuts off the names that lead on through the link, and no
others. -/
lemma leads_or_walk {bytes : ByteArray} (hpatch : Patched d d' site (some (.file bytes)))
    (hold : d.kindAt site ≠ some .dir) (h : Leads d false links place names target) :
    Leads d' false links place names target ∨ (∃ t, d.kindAt site = some (.link t)) ∧
      ∀ follow, d'.walk follow links place names = .error .notADirectory := by
  have hkeep : ∀ q, d.kindAt q = some .dir → d'.kindAt q = some .dir :=
    fun _ => hpatch.kindAt_dir hold
  induction h with
  | here hdir => exact .inl (.here (hkeep _ hdir))
  | stay hdir hname _ ih =>
    obtain ⟨readOnly, cs, hat⟩ := at?_of_kindAt (hkeep _ hdir)
    refine ih.imp (.stay (hkeep _ hdir) hname) (And.imp_right fun hwalk follow => ?_)
    rw [walk, hat]
    simp only [if_pos hname, hwalk]
  | up hdir _ ih =>
    obtain ⟨readOnly, cs, hat⟩ := at?_of_kindAt (hkeep _ hdir)
    refine ih.imp (.up (hkeep _ hdir)) (And.imp_right fun hwalk follow => ?_)
    rw [walk, hat]
    simp [hwalk]
  | last hdir hname _ => exact .inl (.last (hkeep _ hdir) hname (by simp))
  | enter hname hkind hrest _ ih =>
    obtain ⟨readOnly, cs, hat⟩ := at?_of_kindAt (hkeep _ hkind)
    refine ih.imp (.enter hname (hkeep _ hkind) hrest) (And.imp_right fun hwalk follow => ?_)
    rw [hname.walk_enter _ _ (by simp) hat, hwalk]
  | @link links place name rest t target hname hkind hrest _ ih =>
    have hrest' : rest ≠ [] := hrest.resolve_right (by simp)
    by_cases hsite : place ++ [name] = site
    · -- The file is in the way, since more names follow.
      refine .inr ⟨⟨t, hsite ▸ hkind⟩, fun follow => ?_⟩
      obtain ⟨e, hat, hfile⟩ := Option.map_eq_some_iff.1 (hsite ▸ hpatch.kindAt_site)
      obtain ⟨next, rest, rfl⟩ := List.exists_cons_of_ne_nil hrest'
      cases e with
      | file content => rw [hname.walk_enter _ _ (by simp) hat, walk, hat]
      | _ => cases hfile
    · have hlink := (hpatch.kindAt_of_ne hsite).trans hkind
      obtain ⟨e, hat, hkind'⟩ := Option.map_eq_some_iff.1 hlink
      cases e with
      | link _ =>
        cases hkind'
        refine ih.imp (.link hname hlink hrest) (And.imp_right fun hwalk follow => ?_)
        rw [hname.walk_link _ _ hat (.inl hrest'), hwalk]
      | _ => cases hkind'

end Patched

/-! ## Paths -/

/-- A path leads to a place. -/
def Reaches (d : Disk) (follow : Bool) (p : Path) (place : List String) : Prop :=
  ∃ target, d.resolve follow p = .ok target ∧ target.place = place

/-- A path that is not refused before it is followed. -/
structure Usable (p : Path) : Prop where
  no_null : '\x00' ∉ p.toList
  ne_empty : p ≠ ""
  size_le : p.utf8ByteSize ≤ maxPath

/-- Where the names of a path start. -/
def startOf (d : Disk) (p : Path) : List String :=
  if p.isAbsolute then [] else d.cwd

/-- A path that is not refused is walked. -/
lemma resolve_of_usable {p : Path} (h : Usable p) :
    d.resolve follow p = d.walk follow maxLinks (d.startOf p) p.names := by
  rw [resolve, if_neg (by simpa using h.no_null), if_neg h.ne_empty,
    if_neg (Nat.not_lt.2 h.size_le)]
  rfl

/-- A path that leads somewhere is not refused. -/
lemma usable_of_resolve {p : Path} {target : Target}
    (h : d.resolve follow p = .ok target) : Usable p := by
  rw [resolve] at h
  split_ifs at h with hnull hempty hsize _
  all_goals exact ⟨by simpa using hnull, hempty, Nat.not_lt.1 hsize⟩

/-- A path leads to a place if it is not refused and its names lead there. -/
lemma reaches_iff {p : Path} :
    d.Reaches follow p place ↔
      Usable p ∧ Leads d follow maxLinks (d.startOf p) p.names place := by
  constructor
  · rintro ⟨target, hresolve, rfl⟩
    have husable := usable_of_resolve hresolve
    rw [resolve_of_usable husable] at hresolve
    exact ⟨husable, (walk_eq_ok (fun hnil => absurd hnil (names_ne_nil p)) hresolve).1⟩
  · rintro ⟨husable, hleads⟩
    obtain ⟨target, hwalk, htarget⟩ := hleads.exists_walk
    exact ⟨target, (resolve_of_usable husable).trans hwalk, htarget⟩

/-- What a path leads to is at the place that it leads to. -/
lemma fits_of_resolve {p : Path} {target : Target}
    (h : d.resolve follow p = .ok target) : target.Fits d := by
  rw [resolve_of_usable (usable_of_resolve h)] at h
  exact (walk_eq_ok (fun hnil => absurd hnil (names_ne_nil p)) h).2

namespace Reaches

variable {d' : Disk} {p : Path}

/-- A path leads to one place only. -/
lemma unique {place' : List String} (h : d.Reaches follow p place)
    (h' : d.Reaches follow p place') : place = place' :=
  (reaches_iff.1 h).2.unique (reaches_iff.1 h').2

/-- Where no link stands at the end of a path, following it makes no difference. -/
lemma followed (h : d.Reaches false p place) (hlink : ∀ t, d.kindAt place ≠ some (.link t)) :
    d.Reaches true p place := by
  obtain ⟨husable, hleads⟩ := reaches_iff.1 h
  exact reaches_iff.2 ⟨husable, hleads.followed hlink⟩

/-- A path to what is no directory ends at a leaf, be it there or at a link to it. -/
lemma unfollow (h : d.Reaches true p place) (hkind : d.kindAt place ≠ some .dir) :
    ∃ stop, d.Reaches false p stop ∧ d.Leaf stop ∧
      (stop = place ∨ ∃ t, d.kindAt stop = some (.link t)) := by
  obtain ⟨husable, hleads⟩ := reaches_iff.1 h
  obtain ⟨stop, hstop, hend⟩ := hleads.unfollow
  refine ⟨stop, reaches_iff.2 ⟨husable, hstop⟩, ?_⟩
  rcases hend with rfl | ⟨t, links, hlink, hon⟩
  · exact ⟨Plain.leaf ⟨hkind, hleads.not_link⟩, .inl rfl⟩
  · refine ⟨⟨by simp [hlink], ?_⟩, .inr ⟨t, hlink⟩⟩
    intro t' hlink'
    cases hlink.symm.trans hlink'
    exact ⟨links, place, hon, hkind⟩

/-- The path of a name in a directory leads to that name in the place of the directory. -/
lemma of_append_slash {dir : Path} {name : String} (hslash : '/' ∉ name.toList)
    (hempty : name ≠ "") (hdot : name ≠ ".") (hdots : name ≠ "..") (hdir : dir ≠ "")
    (h : d.Reaches false (dir ++ "/" ++ name) place) :
    ∃ site, d.Reaches true dir site ∧ place = site ++ [name] := by
  obtain ⟨husable, hleads⟩ := reaches_iff.1 h
  have hstart : d.startOf (dir ++ "/" ++ name) = d.startOf dir := by
    obtain ⟨c, cs, hcs⟩ := List.exists_cons_of_ne_nil (mt String.toList_eq_nil_iff.1 hdir)
    simp [startOf, Path.isAbsolute, hcs]
  rw [Path.names_append_slash dir hslash, hstart] at hleads
  obtain ⟨site, hsite, hplace⟩ := hleads.target_concat hempty hdot hdots
  have husable' : Usable dir := by
    refine ⟨fun hnull => husable.no_null (by simp [hnull]), hdir, ?_⟩
    have hsize := husable.size_le
    simp only [String.utf8ByteSize_append] at hsize
    omega
  exact ⟨site, reaches_iff.2 ⟨husable', hsite⟩, hplace⟩

/-- A change at a leaf moves no path, except one that ends with a link that stood there. -/
lemma patch {site : List String} {new : Option Kind}
    (h : d.Reaches follow p place) (hpatch : Patched d d' site new) (hleaf : d.Leaf site)
    (hold : follow = true → ∀ t links, d.kindAt site = some (.link t) →
      ¬ Leads d true links (linkStart t site.dropLast) t.names place)
    (hnew : follow = true → place = site → ∀ t, new ≠ some (.link t)) :
    d'.Reaches follow p place := by
  obtain ⟨husable, hleads⟩ := reaches_iff.1 h
  have hstart : d'.startOf p = d.startOf p := by rw [startOf, startOf, hpatch.cwd]
  exact reaches_iff.2 ⟨husable, hstart ▸ hpatch.leads hleaf hold hleads hnew⟩

/-- A change where no link was moves no path. -/
lemma patch_plain {site : List String} {new : Option Kind} (h : d.Reaches follow p place)
    (hpatch : Patched d d' site new) (hplain : d.Plain site)
    (hnew : follow = true → place = site → ∀ t, new ≠ some (.link t)) :
    d'.Reaches follow p place :=
  h.patch hpatch hplain.leaf (fun _ t _ hlink => absurd hlink (hplain.2 t)) hnew

end Reaches

end Disk

end File

end Keyplan
