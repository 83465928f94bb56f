import Keyplan.Proofs.BlockRoundTrip
import Keyplan.Proofs.SourceLines

/-!
# Reading settings by descent

A second account of how a block is read: a value is read by reading the values in it, each with the
lines that the one before it left (`Reads`). The mark of an item is taken off its line, and the line
is read once more without it. There is no rule for a value behind the last line, so that a task has
an outcome only if the reader gets to its end and never looks for a line that is not there. The main
statement is `descends_iff`: for every block the descent ends (`Reads.exists_of_ready`, by a weight
that falls with the lines left and with the texts of them), and it ends with what `Settings.parse`
gives (`Reads.agrees`, where the open containers are those that the descent is in).
-/

namespace Keyplan

namespace Descent
open Container Outline

/-- What is to be read. -/
inductive Task where
  /-- The value that the next line starts. -/
  | value
  /-- The items of a sequence behind those that are read. -/
  | items (indent : Nat) (done : List Value)
  /-- The value of the item on the next line. -/
  | item (indent : Nat)
  /-- The entries of a mapping behind those that are read. -/
  | entries (indent : Nat) (done : Entries)
  /-- The value of the entry on the next line. -/
  | entry (indent : Nat)
  /-- The value on deeper lines, if there are any. -/
  | nested (indent : Nat)

/-- A value with the lines that are left behind it, or an error. -/
abbrev Result := Except SettingsError (Value × List Line)

/-- An item of a sequence is next. -/
def ItemNext (n : Nat) (lines : List Line) : Prop :=
  ∃ line ∈ lines.head?, line.indent = n ∧ line.isItem = true

/-- An entry of a mapping is next. -/
def EntryNext (n : Nat) (lines : List Line) : Prop :=
  ∃ line ∈ lines.head?, line.indent = n ∧ line.isItem = false

/-- What reading a task gives. -/
inductive Reads [PatternEngine] : Task → List Line → Result → Prop where
  | value_items {line lines r} :
    line.isItem = true →
    Reads (.items line.indent []) (line :: lines) r →
    Reads .value (line :: lines) r
  | value_entries {line lines r} :
    line.isItem = false →
    Reads (.entries line.indent []) (line :: lines) r →
    Reads .value (line :: lines) r
  | items_end {n done lines} :
    ¬ ItemNext n lines →
    Reads (.items n done) lines (.ok (.seq done, lines))
  | items_next {n done lines v rest r} :
    ItemNext n lines →
    Reads (.item n) lines (.ok (v, rest)) →
    Reads (.items n (done ++ [v])) rest r →
    Reads (.items n done) lines r
  | items_fail {n done lines e} :
    ItemNext n lines →
    Reads (.item n) lines (.error e) →
    Reads (.items n done) lines (.error e)
  | item_nested {n line lines r} :
    line.itemBody.text = [] →
    Reads (.nested n) lines r →
    Reads (.item n) (line :: lines) r
  | item_entries {n line lines r} :
    (Scalar.splitKey? line.itemBody.text).isSome = true →
    Reads (.entries line.itemBody.indent []) (line.itemBody :: lines) r →
    Reads (.item n) (line :: lines) r
  | item_scalar {n line lines} :
    line.itemBody.text ≠ [] →
    Scalar.splitKey? line.itemBody.text = none →
    Reads (.item n) (line :: lines)
      ((Scalar.read line.number line.itemBody.text).map fun v => (v, lines))
  | entries_end {n done lines} :
    Shallow n lines →
    ¬ EntryNext n lines →
    Reads (.entries n done) lines (.ok (.map done, lines))
  | entries_deeper {n done line lines} :
    n < line.indent →
    Reads (.entries n done) (line :: lines) (.error (.unexpectedIndent line.number))
  | entries_keyless {n done line lines} :
    EntryNext n (line :: lines) →
    Scalar.splitKey? line.text = none →
    Reads (.entries n done) (line :: lines)
      (.error (.invalidLine line.number (.expectedEntry (String.ofList line.text))))
  | entries_next {n done line lines k text v rest r} :
    EntryNext n (line :: lines) →
    Scalar.splitKey? line.text = some (k, text) →
    Reads (.entry n) (line :: lines) (.ok (v, rest)) →
    Reads (.entries n (done.insert k v)) rest r →
    Reads (.entries n done) (line :: lines) r
  | entries_fail {n done line lines k text e} :
    EntryNext n (line :: lines) →
    Scalar.splitKey? line.text = some (k, text) →
    Reads (.entry n) (line :: lines) (.error e) →
    Reads (.entries n done) (line :: lines) (.error e)
  | entry_items {n line lines k r} :
    Scalar.splitKey? line.text = some (k, []) →
    ItemNext n lines →
    Reads (.items n []) lines r →
    Reads (.entry n) (line :: lines) r
  | entry_nested {n line lines k r} :
    Scalar.splitKey? line.text = some (k, []) →
    ¬ ItemNext n lines →
    Reads (.nested n) lines r →
    Reads (.entry n) (line :: lines) r
  | entry_scalar {n line lines k text} :
    Scalar.splitKey? line.text = some (k, text) →
    text ≠ [] →
    Reads (.entry n) (line :: lines) ((Scalar.read line.number text).map fun v => (v, lines))
  | nested_value {n lines r} :
    ¬ Shallow n lines →
    Reads .value lines r →
    Reads (.nested n) lines r
  | nested_none {n lines} :
    Shallow n lines →
    Reads (.nested n) lines (.ok (.null, lines))

/-- What reading a whole block by descent gives. -/
inductive Descends [PatternEngine] (block : List Char) : Except SettingsError Settings → Prop where
  | unreadable {e} :
    Line.ofBlock block = .error e →
    Descends block (.error e)
  | empty :
    Line.ofBlock block = .ok [] →
    Descends block (.ok {})
  | fail {lines e} :
    Line.ofBlock block = .ok lines →
    Reads .value lines (.error e) →
    Descends block (.error e)
  | leftover {lines v line rest} :
    Line.ofBlock block = .ok lines →
    Reads .value lines (.ok (v, line :: rest)) →
    Descends block (.error (leftover line))
  | mapping {lines entries} :
    Line.ofBlock block = .ok lines →
    Reads .value lines (.ok (.map entries, [])) →
    Descends block (.ok { entries })
  | other {lines v} :
    Line.ofBlock block = .ok lines →
    Reads .value lines (.ok (v, [])) →
    (∀ entries, v ≠ .map entries) →
    Descends block (.error .notAMapping)

/-! ## The descent ends -/

/-- How much there is to read on the lines. -/
def size (lines : List Line) : Nat :=
  (lines.map fun line => line.text.length + 1).sum

/-- The line on which the task is done is there. -/
def Task.Ready (lines : List Line) : Task → Prop
  | .value => lines ≠ []
  | .item n => ItemNext n lines
  | .entry _ => ∃ line rest, lines = line :: rest ∧ (Scalar.splitKey? line.text).isSome = true
  | _ => True

/-- An order of the tasks in which those without a line in between fall. -/
def Task.rank : Task → Nat
  | .nested _ => 3
  | .value => 2
  | .items _ _ => 1
  | .entries _ _ => 1
  | .item _ => 0
  | .entry _ => 0

/-- How many lines the task passes over at least. -/
def Task.passed : Task → Nat
  | .item _ => 1
  | .entry _ => 1
  | _ => 0

/-- A line counts as one more than its text is long. -/
lemma size_cons (line : Line) (lines : List Line) :
    size (line :: lines) = line.text.length + 1 + size lines :=
  rfl

/-- What stands behind the mark of an item is shorter than the line. -/
lemma length_itemBody_lt {line : Line} (h : line.itemBody.text ≠ []) :
    line.itemBody.text.length < line.text.length := by
  have hle : line.itemBody.text.length ≤ (line.text.drop 1).length :=
    (List.dropWhile_sublist _).length_le
  have hpos := List.length_pos_iff.2 h
  rw [List.length_drop] at hle
  omega

/-- Without its mark the line of an item is deeper. -/
lemma indent_lt_itemBody {line : Line} (h : line.itemBody.text ≠ []) :
    line.indent < line.itemBody.indent := by
  obtain ⟨number, indent, text⟩ := line
  cases text with
  | nil => exact absurd rfl h
  | cons c cs =>
    obtain ⟨lead, hlead⟩ := Text.exists_trimLeft_eq cs
    have hsize : Text.size cs = Text.size lead + Text.size (Text.trimLeft cs) := by
      rw [← Text.size_append, ← hlead]
    have hpos := c.utf8Size_pos
    simp only [Line.itemBody, List.drop_one, List.tail_cons, Text.size_cons]
    omega

/-- An item counts for less without its mark. -/
lemma size_itemBody_lt {line : Line} (h : line.itemBody.text ≠ []) (lines : List Line) :
    size (line.itemBody :: lines) < size (line :: lines) := by
  have := length_itemBody_lt h
  rw [size_cons, size_cons]
  omega

/-- Without their first line, lines count for less. -/
lemma size_lt_cons (line : Line) (lines : List Line) : size lines < size (line :: lines) := by
  rw [size_cons]
  omega

/-- An entry is not empty. -/
lemma ne_nil_of_splitKey? {cs : List Char} (h : (Scalar.splitKey? cs).isSome = true) :
    cs ≠ [] := by
  rintro rfl
  cases h

/-- Where an item comes next, it is the first line. -/
lemma exists_of_itemNext {n lines} (h : ItemNext n lines) :
    ∃ line rest, lines = line :: rest ∧ line.indent = n ∧ line.isItem = true := by
  obtain ⟨line, hline, hindent, hitem⟩ := h
  obtain ⟨rest, rfl⟩ := List.head?_eq_some_iff.1 hline
  exact ⟨line, rest, rfl, hindent, hitem⟩

/-- A scalar leaves the other lines alone. -/
lemma eq_of_map_eq_ok {read : Except SettingsError Value} {v : Value} {lines rest : List Line}
    (h : read.map (fun v => (v, lines)) = .ok (v, rest)) : rest = lines := by
  cases read with
  | error e => cases h
  | ok v => cases h; rfl

/-- A task leaves no more to read than there was, and less if it passes over a line. -/
lemma Reads.size_le [PatternEngine] {t lines r} (h : Reads t lines r) :
    ∀ v rest, r = .ok (v, rest) → size rest + t.passed ≤ size lines := by
  induction h with
  | value_items _ _ ih => exact ih
  | value_entries _ _ ih => exact ih
  | items_end _ =>
    rintro v rest ⟨⟩
    exact le_rfl
  | items_next _ _ _ ihitem ih =>
    intro v rest hr
    have hitem := ihitem _ _ rfl
    have hitems := ih v rest hr
    simp only [Task.passed] at hitem hitems ⊢
    omega
  | @item_nested _ line lines _ _ _ ih =>
    exact fun v rest hr => (ih v rest hr).trans_lt (size_lt_cons line lines)
  | @item_entries _ line lines _ hkey _ ih =>
    exact fun v rest hr => (ih v rest hr).trans_lt (size_itemBody_lt (ne_nil_of_splitKey? hkey) _)
  | @item_scalar _ line lines _ _ =>
    intro v rest hr
    cases eq_of_map_eq_ok hr
    exact size_lt_cons line lines
  | entries_end _ _ =>
    rintro v rest ⟨⟩
    exact le_rfl
  | entries_next _ _ _ _ ihentry ih =>
    intro v rest hr
    have hentry := ihentry _ _ rfl
    have hentries := ih v rest hr
    simp only [Task.passed] at hentry hentries ⊢
    omega
  | @entry_items _ line lines _ _ _ _ _ ih =>
    exact fun v rest hr => (ih v rest hr).trans_lt (size_lt_cons line lines)
  | @entry_nested _ line lines _ _ _ _ _ ih =>
    exact fun v rest hr => (ih v rest hr).trans_lt (size_lt_cons line lines)
  | @entry_scalar _ line lines _ _ _ _ =>
    intro v rest hr
    cases eq_of_map_eq_ok hr
    exact size_lt_cons line lines
  | nested_value _ _ ih => exact ih
  | nested_none _ =>
    rintro v rest ⟨⟩
    exact le_rfl
  | items_fail => nofun
  | entries_deeper => nofun
  | entries_keyless => nofun
  | entries_fail => nofun

/-- A task whose line is there comes to an end. -/
theorem Reads.exists_of_ready [PatternEngine] {t : Task} {lines : List Line} (h : t.Ready lines) :
    ∃ r, Reads t lines r := by
  -- The lines left weigh more than the task, so that a task may go over to any other behind a line.
  induction hweight : 4 * size lines + t.rank using Nat.strongRecOn generalizing t lines with
  | ind weight ih =>
    subst hweight
    have hsame : ∀ t' : Task, t'.rank < t.rank → t'.Ready lines → ∃ r, Reads t' lines r :=
      fun _ hlt hready => ih _ (Nat.add_lt_add_left hlt _) hready rfl
    have hless : ∀ (t' : Task) {lines'}, size lines' < size lines → t'.Ready lines' →
        ∃ r, Reads t' lines' r := by
      intro t' lines' hlt hready
      have hrank : t'.rank ≤ 3 := by cases t' <;> simp [Task.rank]
      exact ih _ (by omega) hready rfl
    cases t with
    | value =>
      obtain ⟨line, lines, rfl⟩ := List.exists_cons_of_ne_nil h
      cases hitem : line.isItem with
      | true =>
        obtain ⟨r, hr⟩ := hsame (.items line.indent []) (by simp [Task.rank]) trivial
        exact ⟨r, .value_items hitem hr⟩
      | false =>
        obtain ⟨r, hr⟩ := hsame (.entries line.indent []) (by simp [Task.rank]) trivial
        exact ⟨r, .value_entries hitem hr⟩
    | items n done =>
      by_cases hnext : ItemNext n lines
      · obtain ⟨r, hr⟩ := hsame (.item n) (by simp [Task.rank]) hnext
        rcases r with e | ⟨v, rest⟩
        · exact ⟨_, .items_fail hnext hr⟩
        · have hlt := hr.size_le v rest rfl
          obtain ⟨r, hr'⟩ := hless (.items n (done ++ [v])) hlt trivial
          exact ⟨r, .items_next hnext hr hr'⟩
      · exact ⟨_, .items_end hnext⟩
    | item n =>
      obtain ⟨line, rest, rfl, -, -⟩ := exists_of_itemNext h
      by_cases hbody : line.itemBody.text = []
      · obtain ⟨r, hr⟩ := hless (.nested n) (size_lt_cons line rest) trivial
        exact ⟨r, .item_nested hbody hr⟩
      · cases hkey : Scalar.splitKey? line.itemBody.text with
        | none => exact ⟨_, .item_scalar hbody hkey⟩
        | some key =>
          obtain ⟨r, hr⟩ := hless (.entries line.itemBody.indent [])
            (size_itemBody_lt hbody rest) trivial
          exact ⟨r, .item_entries (by rw [hkey]; rfl) hr⟩
    | entries n done =>
      cases lines with
      | nil => exact ⟨_, .entries_end (by simp [Shallow]) (by simp [EntryNext])⟩
      | cons line lines =>
        by_cases hdeeper : n < line.indent
        · exact ⟨_, .entries_deeper hdeeper⟩
        by_cases hnext : EntryNext n (line :: lines)
        · cases hkey : Scalar.splitKey? line.text with
          | none => exact ⟨_, .entries_keyless hnext hkey⟩
          | some key =>
            obtain ⟨k, text⟩ := key
            have hready : (Task.entry n).Ready (line :: lines) :=
              ⟨line, lines, rfl, by rw [hkey]; rfl⟩
            obtain ⟨r, hr⟩ := hsame (.entry n) (by simp [Task.rank]) hready
            rcases r with e | ⟨v, rest⟩
            · exact ⟨_, .entries_fail hnext hkey hr⟩
            · have hlt := hr.size_le v rest rfl
              obtain ⟨r, hr'⟩ := hless (.entries n (done.insert k v)) hlt trivial
              exact ⟨r, .entries_next hnext hkey hr hr'⟩
        · refine ⟨_, .entries_end ?_ hnext⟩
          rintro _ ⟨⟩
          exact Nat.not_lt.1 hdeeper
    | entry n =>
      obtain ⟨line, rest, rfl, hkey⟩ := h
      obtain ⟨⟨k, text⟩, hkey⟩ := Option.isSome_iff_exists.1 hkey
      by_cases htext : text = []
      · subst htext
        by_cases hnext : ItemNext n rest
        · obtain ⟨r, hr⟩ := hless (.items n []) (size_lt_cons line rest) trivial
          exact ⟨r, .entry_items hkey hnext hr⟩
        · obtain ⟨r, hr⟩ := hless (.nested n) (size_lt_cons line rest) trivial
          exact ⟨r, .entry_nested hkey hnext hr⟩
      · exact ⟨_, .entry_scalar hkey htext⟩
    | nested n =>
      by_cases hshallow : Shallow n lines
      · exact ⟨_, .nested_none hshallow⟩
      · have hne : lines ≠ [] := by
          rintro rfl
          exact hshallow (by simp [Shallow])
        obtain ⟨r, hr⟩ := hsame .value (by simp [Task.rank]) hne
        exact ⟨r, .nested_value hshallow hr⟩

/-! ## The open containers of a descent -/

/-- What the reader makes of the lines once the innermost of the open containers has got a value. -/
def resume [PatternEngine] (v : Value) (opened : List Container) :
    List Line → Except SettingsError Value
  | [] => .ok (finish v opened)
  | line :: lines =>
    match feed line (some v) opened with
    | .error e => .error e
    | .ok next => outcome next lines

/-- What the reader makes of the result of a task that is done inside the open containers. -/
def settle [PatternEngine] (opened : List Container) : Result → Except SettingsError Value
  | .error e => .error e
  | .ok (v, rest) => resume v opened rest

/-- A value goes to the innermost container that waits for it. -/
lemma resume_cons [PatternEngine] (v : Value) (c : Container) (outer : List Container)
    (lines : List Line) :
    resume v (c :: outer) lines = outcome (c.fill v :: outer) lines := by
  have hwaits := waits_fill c v
  cases lines with
  | nil => simp only [resume, outcome, run, finish, fill_of_waits hwaits]
  | cons line lines =>
    have hfeed : feed line (some v) (c :: outer) = feed line none (c.fill v :: outer) := rfl
    rw [resume, outcome, run, hfeed]
    cases feed line none (c.fill v :: outer) <;> rfl

/-- A container that the next line closes hands its value on. -/
lemma outcome_closed [PatternEngine] {c : Container} {lines : List Line} (hwaits : c.waits = false)
    (hclosed : ∀ line ∈ lines.head?, readSettled line c = .ok (.closed c.close line))
    (outer : List Container) : outcome (c :: outer) lines = resume c.close outer lines := by
  cases lines with
  | nil => simp only [resume, outcome, run, finish, fill_of_waits hwaits]
  | cons line lines =>
    have hfeed : feed line none (c :: outer) = feed line (some c.close) outer := by
      rw [feed, read_of_waits hwaits, hclosed line rfl]
    rw [outcome, run, hfeed, resume]
    cases feed line (some c.close) outer <;> rfl

/-- A container that waits gets nothing if the next line is no deeper. -/
lemma outcome_fill_null [PatternEngine] {c : Container} {lines : List Line}
    (h : ∀ line ∈ lines.head?, c.nests line = false) (outer : List Container) :
    outcome (c :: outer) lines = outcome (c.fill .null :: outer) lines := by
  have hwaits := waits_fill c .null
  cases lines with
  | nil => simp only [outcome, run, finish, fill_of_waits hwaits]
  | cons line lines =>
    apply outcome_congr
    have hread : c.read line = readSettled line (c.fill .null) := by
      rw [Container.read, h line rfl]
      rfl
    rw [feed, feed, hread, read_of_waits hwaits]

section
variable {n : Nat} {done : List Value} {es : Entries} {line : Line} (outer : List Container)

/-- The mark of an item alone makes its sequence wait. -/
lemma feed_item_nested [PatternEngine] (hindent : line.indent = n) (hitem : line.isItem = true)
    (hbody : line.itemBody.text = []) :
    feed line none (.seq n done false :: outer) = .ok (.seq n done true :: outer) := by
  have hread : readSettled line (.seq n done false) = .ok (.taken [.seq n done true]) := by
    simp [readSettled, hindent, hitem, readItem, hbody]
  exact feed_of_taken rfl hread

/-- A line with the mark of an item is read as what is left without it, in a mapping of its own. -/
lemma feed_item_entries [PatternEngine] (hindent : line.indent = n) (hitem : line.isItem = true)
    (hkey : (Scalar.splitKey? line.itemBody.text).isSome = true) :
    feed line none (.seq n done false :: outer) =
      feed line.itemBody none
        (.map line.itemBody.indent [] none :: .seq n done true :: outer) := by
  have hne : line.itemBody.text.isEmpty = false :=
    List.isEmpty_eq_false_iff.2 (ne_nil_of_splitKey? hkey)
  rw [feed, feed, read_of_waits rfl, read_of_waits rfl]
  simp only [readSettled, hindent, hitem, readItem, hne, hkey, lt_irrefl]
  cases hinner : line.itemBody.isItem with
  | true =>
    -- The mapping is closed at once, and the sequence with it, as the line is deeper than both.
    have hdeeper : line.itemBody.indent ≠ n :=
      Nat.ne_of_gt (hindent ▸ indent_lt_itemBody (ne_nil_of_splitKey? hkey))
    have hclosed : Container.read line.itemBody (.seq n (done ++ [.map []]) false) =
        .ok (.closed (.seq (done ++ [.map []])) line.itemBody) := by
      rw [read_of_waits rfl]
      simp [readSettled, hdeeper]
    simp [feed, Container.fill, hclosed]
  | false =>
    cases readEntry line.itemBody.indent [] line.itemBody with
    | error e => simp
    | ok inner => simp

/-- An item with a scalar behind its mark is that scalar. -/
lemma outcome_item_scalar [PatternEngine] (hindent : line.indent = n) (hitem : line.isItem = true)
    (hbody : line.itemBody.text ≠ []) (hkey : Scalar.splitKey? line.itemBody.text = none)
    (lines : List Line) :
    outcome (.seq n done false :: outer) (line :: lines) = settle (.seq n done true :: outer)
      ((Scalar.read line.number line.itemBody.text).map fun v => (v, lines)) := by
  have hne : line.itemBody.text.isEmpty = false := List.isEmpty_eq_false_iff.2 hbody
  cases hread : Scalar.read line.number line.itemBody.text with
  | error e =>
    rw [outcome, run, feed, read_of_waits rfl]
    simp [readSettled, hindent, hitem, readItem, hne, hkey, hread, settle, Except.map]
  | ok v =>
    have htaken : readSettled line (.seq n done false) =
        .ok (.taken [.seq n (done ++ [v]) false]) := by
      simp [readSettled, hindent, hitem, readItem, hne, hkey, hread]
    rw [outcome_of_feed (feed_of_taken rfl htaken)]
    exact (resume_cons v (.seq n done true) outer lines).symm

/-- A line of a mapping is read as an entry of it. -/
lemma readSettled_entry [PatternEngine] (hindent : line.indent = n) (hitem : line.isItem = false) :
    readSettled line (.map n es none) =
      (readEntry n es line).map fun c => .taken [c] := by
  simp only [readSettled, hindent, hitem]
  cases readEntry n es line <;> simp [Except.map]

/-- An entry with a text behind its key is that scalar. -/
lemma outcome_entry_scalar [PatternEngine] {k : String} {text : List Char}
    (hindent : line.indent = n) (hitem : line.isItem = false)
    (hkey : Scalar.splitKey? line.text = some (k, text)) (htext : text ≠ []) (lines : List Line) :
    outcome (.map n es none :: outer) (line :: lines) = settle (.map n es (some k) :: outer)
      ((Scalar.read line.number text).map fun v => (v, lines)) := by
  have hne : text.isEmpty = false := List.isEmpty_eq_false_iff.2 htext
  cases hread : Scalar.read line.number text with
  | error e =>
    rw [outcome, run, feed, read_of_waits rfl, readSettled_entry hindent hitem]
    simp [readEntry, hkey, hne, hread, settle, Except.map]
  | ok v =>
    have htaken : readSettled line (.map n es none) =
        .ok (.taken [.map n (es.insert k v) none]) := by
      rw [readSettled_entry hindent hitem]
      simp [readEntry, hkey, hne, hread, Except.map]
    rw [outcome_of_feed (feed_of_taken rfl htaken)]
    exact (resume_cons v (.map n es (some k)) outer lines).symm

/-- A key alone makes its mapping wait. -/
lemma feed_entry_waiting [PatternEngine] {k : String} (hindent : line.indent = n)
    (hitem : line.isItem = false) (hkey : Scalar.splitKey? line.text = some (k, [])) :
    feed line none (.map n es none :: outer) = .ok (.map n es (some k) :: outer) := by
  have htaken : readSettled line (.map n es none) = .ok (.taken [.map n es (some k)]) := by
    rw [readSettled_entry hindent hitem]
    simp [readEntry, hkey, Except.map]
  exact feed_of_taken rfl htaken

end

/-- The reader makes of the lines what it makes of the result of the task. -/
def Task.Agrees [PatternEngine] (lines : List Line) (r : Result) : Task → Prop
  | .value => ∀ line ∈ lines.head?, ∀ outer,
    outcome (fresh line :: outer) lines = settle outer r
  | .items n done => ∀ outer, outcome (.seq n done false :: outer) lines = settle outer r
  | .item n => ItemNext n lines → ∀ done outer,
    outcome (.seq n done false :: outer) lines = settle (.seq n done true :: outer) r
  | .entries n done => ∀ outer, outcome (.map n done none :: outer) lines = settle outer r
  | .entry n => EntryNext n lines → ∀ line ∈ lines.head?, ∀ k text,
    Scalar.splitKey? line.text = some (k, text) → ∀ es outer,
    outcome (.map n es none :: outer) lines = settle (.map n es (some k) :: outer) r
  | .nested n => ∀ c, c.waits = true → c.indent = n →
    (∀ line ∈ lines.head?, c.nests line = true → n < line.indent) → ∀ outer,
    outcome (c :: outer) lines = settle (c :: outer) r

/-- The open containers go through a task as the descent does. -/
theorem Reads.agrees [PatternEngine] {t lines r} (h : Reads t lines r) : t.Agrees lines r := by
  induction h with
  | value_items hitem _ ih =>
    rintro line ⟨⟩ outer
    rw [fresh, if_pos hitem]
    exact ih outer
  | value_entries hitem _ ih =>
    rintro line ⟨⟩ outer
    rw [fresh, if_neg (by simp [hitem])]
    exact ih outer
  | items_end hnext =>
    intro outer
    refine outcome_closed rfl (fun line hline => ?_) outer
    rw [readSettled, if_neg fun h => hnext ⟨line, hline, h⟩]
    rfl
  | items_next hnext _ _ ihitem ih =>
    intro outer
    rw [ihitem hnext _ outer, settle, resume_cons]
    exact ih outer
  | items_fail hnext _ ihitem =>
    intro outer
    rw [ihitem hnext _ outer]
    rfl
  | item_nested hbody _ ih =>
    rintro ⟨_, ⟨⟩, hindent, hitem⟩ done outer
    rw [outcome_of_feed (feed_item_nested outer hindent hitem hbody)]
    exact ih _ rfl rfl (by simp [nests]) outer
  | item_entries hkey _ ih =>
    rintro ⟨_, ⟨⟩, hindent, hitem⟩ done outer
    rw [outcome_congr (feed_item_entries outer hindent hitem hkey)]
    exact ih _
  | item_scalar hbody hkey =>
    rintro ⟨_, ⟨⟩, hindent, hitem⟩ done outer
    exact outcome_item_scalar outer hindent hitem hbody hkey _
  | @entries_end n done lines hshallow hnext =>
    intro outer
    refine outcome_closed rfl (fun line hline => ?_) outer
    have hclosed : line.indent < n ∨ line.indent = n ∧ line.isItem = true := by
      rcases (hshallow line hline).lt_or_eq with hlt | heq
      · exact .inl hlt
      · exact .inr ⟨heq, Bool.eq_true_of_not_eq_false fun hitem => hnext ⟨line, hline, heq, hitem⟩⟩
    rw [readSettled, if_pos hclosed]
    rfl
  | @entries_deeper n done line lines hdeeper =>
    intro outer
    have hread : readSettled line (.map n done none) = .error (.unexpectedIndent line.number) := by
      rw [readSettled, if_neg (by omega), if_pos hdeeper]
    rw [outcome, run, feed, read_of_waits rfl, hread]
    rfl
  | entries_keyless hnext hkey =>
    obtain ⟨_, ⟨⟩, hindent, hitem⟩ := hnext
    intro outer
    rw [outcome, run, feed, read_of_waits rfl, readSettled_entry hindent hitem, readEntry, hkey]
    rfl
  | entries_next hnext hkey _ _ ihentry ih =>
    intro outer
    rw [ihentry hnext _ rfl _ _ hkey _ outer, settle, resume_cons]
    exact ih outer
  | entries_fail hnext hkey _ ihentry =>
    intro outer
    rw [ihentry hnext _ rfl _ _ hkey _ outer]
    rfl
  | @entry_items n line lines k r hkey hnext _ ih =>
    rintro ⟨_, ⟨⟩, hindent, hitem⟩ _ ⟨⟩ k text hkey' es outer
    cases hkey.symm.trans hkey'
    rw [outcome_of_feed (feed_entry_waiting outer hindent hitem hkey)]
    obtain ⟨next, rest, rfl, hindent', hitem'⟩ := exists_of_itemNext hnext
    have hfresh : fresh next = .seq n [] false := by
      rw [fresh, if_pos hitem', hindent']
    rw [outcome_congr (feed_fresh (by simp [nests, hindent', hitem']) outer), hfresh]
    exact ih _
  | @entry_nested n line lines k r hkey hnext _ ih =>
    rintro ⟨_, ⟨⟩, hindent, hitem⟩ _ ⟨⟩ k text hkey' es outer
    cases hkey.symm.trans hkey'
    rw [outcome_of_feed (feed_entry_waiting outer hindent hitem hkey)]
    refine ih _ rfl rfl (fun next hline hnests => ?_) outer
    by_contra hshallow
    have hitems : next.indent = n ∧ next.isItem = true := by
      simpa [nests, hshallow] using hnests
    exact hnext ⟨next, hline, hitems⟩
  | entry_scalar hkey htext =>
    rintro ⟨_, ⟨⟩, hindent, hitem⟩ _ ⟨⟩ k text' hkey' es outer
    cases hkey.symm.trans hkey'
    exact outcome_entry_scalar outer hindent hitem hkey htext _
  | @nested_value n lines r hdeeper _ ih =>
    intro c hwaits hindent _ outer
    obtain ⟨line, hline, hlt⟩ : ∃ line ∈ lines.head?, n < line.indent := by
      simpa [Shallow] using hdeeper
    obtain ⟨rest, rfl⟩ := List.head?_eq_some_iff.1 hline
    rw [outcome_congr (feed_fresh (nests_of_lt hwaits (hindent ▸ hlt)) outer)]
    exact ih line rfl _
  | nested_none hshallow =>
    intro c _ _ hnests outer
    rw [settle, resume_cons]
    refine outcome_fill_null (fun line hline => ?_) outer
    exact Bool.eq_false_of_not_eq_true fun h =>
      absurd (hshallow line hline) (Nat.not_le.2 (hnests line hline h))

/-- The value of a block is the one that the descent gives. -/
lemma read?_of_reads [PatternEngine] {lines r} (hne : lines ≠ []) (h : Reads .value lines r) :
    read? lines = (settle [] r).map some := by
  obtain ⟨line, rest, rfl⟩ := List.exists_cons_of_ne_nil hne
  rw [read?_cons, h.agrees line rfl []]

/-- A value takes at least one line. -/
lemma Reads.ne_nil [PatternEngine] {lines r} (h : Reads .value lines r) : lines ≠ [] := by
  cases h <;> exact List.cons_ne_nil _ _

/-- A block has what it descends to. -/
lemma Descends.read_eq [PatternEngine] {block r} (h : Descends block r) :
    Settings.read block = r := by
  cases h with
  | unreadable hlines => rw [Settings.read, hlines]
  | empty hlines =>
    rw [Settings.read, hlines]
    rfl
  | fail hlines hreads =>
    rw [Settings.read, hlines]
    simp [read?_of_reads hreads.ne_nil hreads, settle, Except.map]
  | leftover hlines hreads =>
    rw [Settings.read, hlines]
    simp [read?_of_reads hreads.ne_nil hreads, settle, resume, feed, Except.map]
  | mapping hlines hreads =>
    rw [Settings.read, hlines]
    simp [read?_of_reads hreads.ne_nil hreads, settle, resume, finish, Except.map]
  | @other lines v hlines hreads hother =>
    rw [Settings.read, hlines]
    cases v with
    | map entries => exact absurd rfl (hother entries)
    | _ => simp [read?_of_reads hreads.ne_nil hreads, settle, resume, finish, Except.map]

/-- Every block descends to something. -/
lemma exists_descends [PatternEngine] (block : List Char) : ∃ r, Descends block r := by
  cases hlines : Line.ofBlock block with
  | error e => exact ⟨_, .unreadable hlines⟩
  | ok lines =>
    by_cases hne : lines = []
    · exact ⟨_, .empty (hne ▸ hlines)⟩
    · obtain ⟨r, hreads⟩ := Reads.exists_of_ready (t := .value) hne
      rcases r with e | ⟨v, _ | ⟨line, rest⟩⟩
      · exact ⟨_, .fail hlines hreads⟩
      · by_cases hmap : ∃ entries, v = .map entries
        · obtain ⟨entries, rfl⟩ := hmap
          exact ⟨_, .mapping hlines hreads⟩
        · exact ⟨_, .other hlines hreads (not_exists.1 hmap)⟩
      · exact ⟨_, .leftover hlines hreads⟩

/-- The settings of a block are what it descends to, and nothing else is. -/
theorem descends_iff [PatternEngine] {block r} : Descends block r ↔ Settings.read block = r := by
  constructor
  · exact Descends.read_eq
  · rintro rfl
    obtain ⟨r, h⟩ := exists_descends block
    rwa [h.read_eq]

end Descent

end Keyplan
