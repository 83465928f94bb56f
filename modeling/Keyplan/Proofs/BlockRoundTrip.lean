import Keyplan.Proofs.BlockStyle
import Keyplan.Regex.Engine

/-!
# Settings are read back

The reader keeps open what a later line may still add to, so after the rows of a value some of its
containers are still open. The statements here are therefore about all that follows: what the reader
makes of the rows of a value and of any lines behind them is what it makes of those lines alone, had
the value been put into its container at once (`outcome`, `outcome_rows_key`, `outcome_rows_mark`).
Of the lines behind only the first one matters, and of that only that it is not indented deeper
(`Shallow`). The main statement is `parse_write`.
-/

namespace Keyplan

namespace Value

-- Behind a key a value starts on the row of the key, whatever it is.
/-- The rows of a value under a key start with the key. -/
lemma exists_rows_key (v : Value) (n : Nat) (k : String) :
    ∃ text rest, v.rows n (.key k) = ⟨n, text⟩ :: rest ∧
      (text = (Head.key k).text ∨ ∃ cs, text = (Head.key k).text ++ ' ' :: cs) := by
  cases v with
  | map es => exact ⟨_, _, rfl, .inl rfl⟩
  | seq vs =>
    cases vs with
    | nil => exact ⟨_, _, rfl, .inr ⟨_, rfl⟩⟩
    | cons v vs => exact ⟨_, _, rfl, .inl rfl⟩
  | _ => exact ⟨_, _, rfl, .inr ⟨_, rfl⟩⟩

/-- The rows of a mapping start with a key at its own depth. -/
lemma exists_entryRows {es : List (String × Value)} (h : es ≠ []) (n : Nat) :
    ∃ k text rest, entryRows n es = ⟨n, text⟩ :: rest ∧
      (text = (Head.key k).text ∨ ∃ cs, text = (Head.key k).text ++ ' ' :: cs) := by
  obtain ⟨⟨k, v⟩, es, rfl⟩ := List.exists_cons_of_ne_nil h
  obtain ⟨text, rest, hrows, htext⟩ := v.exists_rows_key n k
  refine ⟨k, text, rest ++ entryRows n es, ?_, htext⟩
  rw [entryRows, hrows, List.cons_append]

/-- The rows of an item start with its mark. -/
lemma exists_rows_mark {v : Value} (h : v.Writable) (n : Nat) :
    ∃ text rest, v.rows n .mark = ⟨n, text⟩ :: rest ∧
      (text = ['-'] ∨ ∃ cs, text = '-' :: ' ' :: cs) := by
  cases v with
  | map es =>
    obtain ⟨k, text, rest, hrows, -⟩ := exists_entryRows h.1 (n + 2)
    refine ⟨'-' :: ' ' :: text, rest, ?_, .inr ⟨_, rfl⟩⟩
    rw [rows, hrows]
    rfl
  | seq vs =>
    cases vs with
    | nil => exact ⟨_, _, rfl, .inr ⟨_, rfl⟩⟩
    | cons v vs => exact ⟨_, _, rfl, .inl rfl⟩
  | _ => exact ⟨_, _, rfl, .inr ⟨_, rfl⟩⟩

/-- The rows of a sequence start with the mark of an item at its own depth. -/
lemma exists_itemRows {vs : List Value} (hne : vs ≠ []) (h : WritableItems vs) (n : Nat) :
    ∃ text rest, itemRows n vs = ⟨n, text⟩ :: rest ∧
      (text = ['-'] ∨ ∃ cs, text = '-' :: ' ' :: cs) := by
  obtain ⟨v, vs, rfl⟩ := List.exists_cons_of_ne_nil hne
  obtain ⟨text, rest, hrows, htext⟩ := exists_rows_mark h.1 n
  refine ⟨text, rest ++ itemRows n vs, ?_, htext⟩
  rw [itemRows, hrows, List.cons_append]

/-- A scalar is written in one row behind its head. -/
lemma rows_of_isScalar {v : Value} (h : v.isScalar = true) (n : Nat) (head : Head) :
    v.rows n head = [⟨n, head.text ++ ' ' :: v.scalar⟩] := by
  cases v with
  | seq vs => cases vs with
    | nil => rfl
    | cons v vs => cases h
  | map es => cases h
  | _ => rfl

/-- Putting the mark of an item in front of sound rows leaves them sound. -/
lemma sound_row_mark {rows : List Row} (h : ∀ r ∈ rows, Line.Sound r.text) :
    ∀ r ∈ Row.mark rows, Line.Sound r.text := by
  cases rows with
  | nil => exact h
  | cons r rows =>
    obtain ⟨hr, hrows⟩ := List.forall_mem_cons.1 h
    exact List.forall_mem_cons.2 ⟨Line.sound_mark.append_space hr, hrows⟩

mutual

/-- Every row of a value can stand on a line of its own. -/
theorem sound_rows : ∀ (v : Value), v.Writable → ∀ (n : Nat) {head : Head},
    Line.Sound head.text → ∀ r ∈ v.rows n head, Line.Sound r.text
  | .map es, hw, n, .key k, hhead =>
    List.forall_mem_cons.2 ⟨hhead, sound_entryRows es hw.2 (n + 2)⟩
  | .map es, hw, n, .mark, _ => sound_row_mark (sound_entryRows es hw.2 (n + 2))
  | .seq (v :: vs), hw, n, _, hhead =>
    List.forall_mem_cons.2 ⟨hhead, sound_itemRows (v :: vs) hw (n + 2)⟩
  | .seq [], hw, n, _, hhead => by
    simpa [rows] using hhead.append_space (Line.sound_scalar (v := .seq []) rfl hw)
  | .null, hw, n, _, hhead => by
    simpa [rows] using hhead.append_space (Line.sound_scalar (v := .null) rfl hw)
  | .bool b, hw, n, _, hhead => by
    simpa [rows] using hhead.append_space (Line.sound_scalar (v := .bool b) rfl hw)
  | .int i, hw, n, _, hhead => by
    simpa [rows] using hhead.append_space (Line.sound_scalar (v := .int i) rfl hw)
  | .str s, hw, n, _, hhead => by
    simpa [rows] using hhead.append_space (Line.sound_scalar (v := .str s) rfl hw)

/-- All rows of a mapping that can be written are sound. -/
theorem sound_entryRows : ∀ (es : List (String × Value)), WritableEntries es → ∀ (n : Nat),
    ∀ r ∈ entryRows n es, Line.Sound r.text
  | [], _, _ => by simp [entryRows]
  | (k, v) :: es, hw, n => by
    obtain ⟨hk, -, hv, hes⟩ := hw
    exact List.forall_mem_append.2 ⟨sound_rows v hv n (Line.sound_key hk), sound_entryRows es hes n⟩

/-- All rows of a sequence that can be written are sound. -/
theorem sound_itemRows : ∀ (vs : List Value), WritableItems vs → ∀ (n : Nat),
    ∀ r ∈ itemRows n vs, Line.Sound r.text
  | [], _, _ => by simp [itemRows]
  | v :: vs, hw, n =>
    List.forall_mem_append.2 ⟨sound_rows v hw.1 n Line.sound_mark, sound_itemRows vs hw.2 n⟩

end

end Value

namespace Container

/-- Whether an item or key has no value yet. -/
def waits : Container → Bool
  | .seq _ _ waiting => waiting
  | .map _ _ waiting => waiting.isSome

/-- Where the items or keys stand. -/
def indent : Container → Nat
  | .seq indent _ _ => indent
  | .map indent _ _ => indent

/-- The container that a line opens, before the line is read. -/
def fresh (line : Line) : Container :=
  if line.isItem then .seq line.indent [] false else .map line.indent [] none

/-- A container that waits for nothing takes no value. -/
lemma fill_of_waits {c : Container} (h : c.waits = false) (v : Value) : c.fill v = c := by
  cases c with
  | seq n items waiting => cases h; rfl
  | map n es waiting => cases waiting <;> cases h; rfl

/-- A container that has got its value waits no longer. -/
lemma waits_fill (c : Container) (v : Value) : (c.fill v).waits = false := by
  cases c with
  | seq n items waiting => cases waiting <;> rfl
  | map n es waiting => cases waiting <;> rfl

/-- A container that waits for nothing opens no other in itself. -/
lemma nests_of_waits {c : Container} (h : c.waits = false) (line : Line) :
    c.nests line = false := by
  cases c with
  | seq n items waiting => cases h; rfl
  | map n es waiting => cases waiting <;> cases h; rfl

/-- A container that waits takes a deeper line for the start of its value. -/
lemma nests_of_lt {c : Container} (h : c.waits = true) {line : Line}
    (hlt : c.indent < line.indent) : c.nests line = true := by
  cases c with
  | seq n items waiting => simp_all [waits, indent, nests]
  | map n es waiting => simp_all [waits, indent, nests]

/-- A container that waits for nothing reads a line at its own depth. -/
lemma read_of_waits [PatternEngine] {c : Container} (h : c.waits = false) (line : Line) :
    c.read line = readSettled line c := by
  rw [read, nests_of_waits h, fill_of_waits h]
  rfl

/-- A container that a line opens waits for nothing. -/
lemma waits_fresh (line : Line) : (fresh line).waits = false := by
  unfold fresh
  split <;> rfl

/-- A container that a line opens reads that line as its first one. -/
lemma readSettled_fresh [PatternEngine] (line : Line) :
    readSettled line (fresh line) = openAt line := by
  unfold fresh openAt
  split
  · next h => simp [readSettled, h]
  · next h => simp [readSettled, h]

/-- A line that is less deep closes the container. -/
lemma readSettled_of_lt [PatternEngine] {c : Container} (h : c.waits = false) {line : Line}
    (hlt : line.indent < c.indent) : readSettled line c = .ok (.closed c.close line) := by
  cases c with
  | seq n items waiting =>
    have hne : line.indent ≠ n := Nat.ne_of_lt hlt
    cases h
    simp [readSettled, hne, close, fill]
  | map n es waiting =>
    have hlt' : line.indent < n := hlt
    cases waiting <;> cases h
    simp [readSettled, hlt', close, fill]

end Container

namespace Outline
open Container

/-- What the reader makes of lines when containers are open. -/
def outcome [PatternEngine] (opened : List Container) (lines : List Line) :
    Except SettingsError Value :=
  match run opened lines with
  | .error e => .error e
  | .ok opened => .ok (finish .null opened)

/-- The first of the lines is not indented deeper than `n`. -/
def Shallow (n : Nat) (lines : List Line) : Prop :=
  ∀ line ∈ lines.head?, line.indent ≤ n

/-- Lines that lead to the same containers have the same outcome. -/
lemma outcome_congr [PatternEngine] {as bs : List Container} {line line' : Line}
    (h : feed line none as = feed line' none bs) (lines : List Line) :
    outcome as (line :: lines) = outcome bs (line' :: lines) := by
  rw [outcome, outcome, run, run, h]

/-- A line that is taken leaves the outcome to the lines behind it. -/
lemma outcome_of_feed [PatternEngine] {opened next : List Container} {line : Line}
    (h : feed line none opened = .ok next) (lines : List Line) :
    outcome opened (line :: lines) = outcome next lines := by
  rw [outcome, outcome, run, h]

/-- A line that the innermost container takes reaches no other. -/
lemma feed_of_taken [PatternEngine] {c : Container} {line top outer} (hc : c.waits = false)
    (h : readSettled line c = .ok (.taken top)) :
    feed line none (c :: outer) = .ok (top ++ outer) := by
  rw [feed, read_of_waits hc, h]

/-- A line that starts the awaited value is read by a new container for it. -/
lemma feed_fresh [PatternEngine] {c : Container} {line : Line} (h : c.nests line = true)
    (outer : List Container) :
    feed line none (c :: outer) = feed line none (fresh line :: c :: outer) := by
  rw [feed, feed, read_of_waits (waits_fresh line), readSettled_fresh, Container.read, if_pos h]
  cases openAt line with
  | error e => rfl
  | ok reading =>
    cases reading with
    | taken top => simp
    | closed v line' => simp only [feed, read_of_waits (waits_fill c v)]

/-- The first line opens its container. -/
lemma start_eq_feed [PatternEngine] (line : Line) : start line = feed line none [fresh line] := by
  rw [feed, read_of_waits (waits_fresh line), readSettled_fresh, start]
  cases openAt line with
  | error e => rfl
  | ok reading =>
    cases reading with
    | taken top => simp
    | closed v line' => rfl

/-- Reading lines starts with a container for the first of them. -/
lemma read?_cons [PatternEngine] (line : Line) (lines : List Line) :
    read? (line :: lines) = (outcome [fresh line] (line :: lines)).map some := by
  rw [read?, start_eq_feed, outcome, run]
  cases feed line none [fresh line] with
  | error e => rfl
  | ok opened =>
    simp only
    cases run opened lines <;> rfl

/-- A container is closed by what is not indented as deep, and its value goes to the one around. -/
lemma outcome_close [PatternEngine] {c : Container} {n : Nat} {rest : List Line}
    (hc : c.waits = false)
    (hrest : Shallow n rest) (hlt : n < c.indent) (w : Container) (outer : List Container) :
    outcome (c :: w :: outer) rest = outcome (w.fill c.close :: outer) rest := by
  cases rest with
  | nil =>
    simp only [outcome, run, finish, fill_of_waits hc, fill_of_waits (waits_fill w c.close)]
  | cons line rest =>
    have hline : line.indent < c.indent := Nat.lt_of_le_of_lt (hrest line rfl) hlt
    apply outcome_congr
    rw [feed, read_of_waits hc, readSettled_of_lt hc hline]
    rfl

/-! ## Rows one by one -/

/-- A line that starts with a key is no item. -/
lemma isItem_entry {num n : Nat} {k : String} {text : List Char}
    (h : text = (Head.key k).text ∨ ∃ cs, text = (Head.key k).text ++ ' ' :: cs) :
    Line.isItem ⟨num, n, text⟩ = false := by
  rcases h with rfl | ⟨cs, rfl⟩ <;> rfl

/-- A line that starts with the mark of an item is one. -/
lemma isItem_item {num n : Nat} {text : List Char}
    (h : text = ['-'] ∨ ∃ cs, text = '-' :: ' ' :: cs) :
    Line.isItem ⟨num, n, text⟩ = true := by
  rcases h with rfl | ⟨cs, rfl⟩ <;> rfl

/-- Behind the mark of an item stands a line that is two deeper. -/
lemma itemBody_item {text : List Char} (h : Line.Sound text) (num n : Nat) :
    Line.itemBody ⟨num, n, '-' :: ' ' :: text⟩ = ⟨num, n + 2, text⟩ := by
  have htext : Text.trimLeft (' ' :: text) = text := by
    have hspace : Text.isBlank ' ' = true := rfl
    rw [Text.trimLeft, List.dropWhile_cons_of_pos hspace]
    exact h.trimLeft
  have hsize : Text.size ('-' :: ' ' :: text) - Text.size text = 2 := by
    have : Text.size ('-' :: ' ' :: text) = 1 + (1 + Text.size text) := rfl
    omega
  simp only [Line.itemBody, List.drop_one, List.tail_cons, htext, hsize]

section
variable (num n : Nat) (k : String) (es : Entries) (vs : List Value) (outer : List Container)

/-- A key alone makes its mapping wait for the value. -/
lemma feed_key [PatternEngine] : feed ⟨num, n, (Head.key k).text⟩ none (.map n es none :: outer) =
    .ok (.map n es (some k) :: outer) := by
  have hitem : Line.isItem ⟨num, n, (Head.key k).text⟩ = false := isItem_entry (.inl rfl)
  have hread : readSettled ⟨num, n, (Head.key k).text⟩ (.map n es none) =
      .ok (.taken [.map n es (some k)]) := by
    simp [readSettled, readEntry, hitem, Scalar.splitKey?_key]
  exact feed_of_taken rfl hread

/-- A key with a scalar adds that entry to its mapping. -/
lemma feed_entry [PatternEngine] {v : Value} (hs : v.isScalar = true) (hw : v.Writable) :
    feed ⟨num, n, (Head.key k).text ++ ' ' :: v.scalar⟩ none (.map n es none :: outer) =
      .ok (.map n (es.insert k v) none :: outer) := by
  have hitem : Line.isItem ⟨num, n, (Head.key k).text ++ ' ' :: v.scalar⟩ = false :=
    isItem_entry (.inr ⟨_, rfl⟩)
  have hsound := Line.sound_scalar hs hw
  obtain ⟨c, rest, htext, -⟩ := hsound.first
  have hne : v.scalar.isEmpty = false := by simp [htext]
  have hread : readSettled ⟨num, n, (Head.key k).text ++ ' ' :: v.scalar⟩ (.map n es none) =
      .ok (.taken [.map n (es.insert k v) none]) := by
    simp [readSettled, readEntry, hitem, Scalar.splitKey?_entry, hsound.trim, hne,
      Scalar.read_scalar hs hw]
  exact feed_of_taken rfl hread

/-- The mark of an item alone makes its sequence wait for the value. -/
lemma feed_mark [PatternEngine] : feed ⟨num, n, Head.mark.text⟩ none (.seq n vs false :: outer) =
    .ok (.seq n vs true :: outer) := by
  have hread : readSettled ⟨num, n, Head.mark.text⟩ (.seq n vs false) =
      .ok (.taken [.seq n vs true]) := by
    simp [readSettled, readItem, Head.text, Line.isItem, Line.itemBody, Text.trimLeft]
  exact feed_of_taken rfl hread

/-- The mark of an item with a scalar adds that item to its sequence. -/
lemma feed_item [PatternEngine] {v : Value} (hs : v.isScalar = true) (hw : v.Writable) :
    feed ⟨num, n, Head.mark.text ++ ' ' :: v.scalar⟩ none (.seq n vs false :: outer) =
      .ok (.seq n (vs ++ [v]) false :: outer) := by
  have hsound := Line.sound_scalar hs hw
  obtain ⟨c, rest, htext, -⟩ := hsound.first
  have hne : v.scalar.isEmpty = false := by simp [htext]
  have hbody : Line.itemBody ⟨num, n, '-' :: ' ' :: v.scalar⟩ = ⟨num, n + 2, v.scalar⟩ :=
    itemBody_item hsound num n
  have hread : readSettled ⟨num, n, Head.mark.text ++ ' ' :: v.scalar⟩ (.seq n vs false) =
      .ok (.taken [.seq n (vs ++ [v]) false]) := by
    simp [readSettled, readItem, Head.text, Line.isItem, hbody, hne, Scalar.splitKey?_scalar hs,
      Scalar.read_scalar hs hw]
  exact feed_of_taken rfl hread

/-- An entry behind the mark of an item is read as the first of a mapping two spaces deeper. -/
lemma feed_marked [PatternEngine] {text : List Char} (hsound : Line.Sound text)
    (htext : text = (Head.key k).text ∨ ∃ cs, text = (Head.key k).text ++ ' ' :: cs) :
    feed ⟨num, n, '-' :: ' ' :: text⟩ none (.seq n vs false :: outer) =
      feed ⟨num, n + 2, text⟩ none (.map (n + 2) [] none :: .seq n vs true :: outer) := by
  have hbody := itemBody_item hsound num n
  have hitem : Line.isItem ⟨num, n + 2, text⟩ = false := isItem_entry htext
  have hkey : (Scalar.splitKey? text).isSome = true := by
    rcases htext with rfl | ⟨cs, rfl⟩
    · rw [Scalar.splitKey?_key]; rfl
    · rw [Scalar.splitKey?_entry]; rfl
  have hne : text.isEmpty = false := by
    obtain ⟨c, rest, rfl, -⟩ := hsound.first
    rfl
  have hmarked : Line.isItem ⟨num, n, '-' :: ' ' :: text⟩ = true := rfl
  rw [feed, feed, read_of_waits rfl, read_of_waits rfl]
  simp only [readSettled, readItem, hbody, hne, hkey, hitem, hmarked]
  cases readEntry (n + 2) [] ⟨num, n + 2, text⟩ with
  | error e => simp
  | ok c => simp

end

/-! ## Rows of whole values -/

/-- A key behind all others is put at the end. -/
lemma insert_of_forall_lt {es : Entries} {k : String} (h : ∀ e ∈ es, e.1 < k) (v : Value) :
    es.insert k v = es ++ [(k, v)] := by
  induction es with
  | nil => rfl
  | cons e es ih =>
    obtain ⟨he, hes⟩ := List.forall_mem_cons.1 h
    obtain ⟨l, w⟩ := e
    rw [Entries.insert, if_neg (lt_asymm he), if_neg (ne_of_gt he), ih hes]
    rfl

/-- A first line that is no deeper than one depth is no deeper than a greater one. -/
lemma Shallow.mono {n m : Nat} {lines : List Line} (h : Shallow n lines) (hle : n ≤ m) :
    Shallow m lines :=
  fun line hline => (h line hline).trans hle

/-- Lines that are given rows start with a line for the first row. -/
lemma exists_line {lines : List Line} {rows : List Row} {n : Nat} {text : List Char}
    (h : lines.map Line.row = ⟨n, text⟩ :: rows) :
    ∃ num ls, lines = ⟨num, n, text⟩ :: ls ∧ ls.map Line.row = rows := by
  obtain ⟨⟨num, i, t⟩, ls, rfl, hrow, hls⟩ := List.map_eq_cons_iff.1 h
  cases hrow
  exact ⟨num, ls, rfl, hls⟩

/-- Rows that start at a depth may stand in front of lines that are no deeper. -/
lemma Shallow.append_rows {n : Nat} {rows : List Row} {lines rest : List Line}
    (hrows : rows = [] ∨ ∃ text tail, rows = ⟨n, text⟩ :: tail) (hlines : lines.map Line.row = rows)
    (hrest : Shallow n rest) : Shallow n (lines ++ rest) := by
  rcases hrows with rfl | ⟨text, tail, rfl⟩
  · cases List.map_eq_nil_iff.1 hlines
    exact hrest
  · obtain ⟨num, ls, rfl, -⟩ := exists_line hlines
    rintro _ ⟨⟩
    exact le_rfl

section
variable {v : Value} {n : Nat} {lines rest : List Line}

/-- A scalar under a key has the outcome of its mapping with that entry. -/
lemma outcome_scalar_key [PatternEngine] (hs : v.isScalar = true) (hw : v.Writable) {k : String}
    (hlines : lines.map Line.row = v.rows n (.key k)) (es : Entries) (outer : List Container) :
    outcome (.map n es none :: outer) (lines ++ rest) =
      outcome (.map n (es.insert k v) none :: outer) rest := by
  rw [Value.rows_of_isScalar hs] at hlines
  obtain ⟨num, ls, rfl, hls⟩ := exists_line hlines
  cases List.map_eq_nil_iff.1 hls
  exact outcome_of_feed (feed_entry num n k es outer hs hw) rest

/-- A scalar as an item has the outcome of its sequence with that item. -/
lemma outcome_scalar_mark [PatternEngine] (hs : v.isScalar = true) (hw : v.Writable)
    (hlines : lines.map Line.row = v.rows n .mark) (vs : List Value) (outer : List Container) :
    outcome (.seq n vs false :: outer) (lines ++ rest) =
      outcome (.seq n (vs ++ [v]) false :: outer) rest := by
  rw [Value.rows_of_isScalar hs] at hlines
  obtain ⟨num, ls, rfl, hls⟩ := exists_line hlines
  cases List.map_eq_nil_iff.1 hls
  exact outcome_of_feed (feed_item num n vs outer hs hw) rest

/-- Entries below a container that waits are read by a mapping of their own. -/
lemma outcome_nested_entries [PatternEngine] {es : Entries} {w : Container} (hne : es ≠ [])
    (hlines : lines.map Line.row = Value.entryRows (n + 2) es)
    (hwaits : w.waits = true) (hindent : w.indent = n)
    (hrun : ∀ outer, outcome (.map (n + 2) [] none :: outer) (lines ++ rest) =
      outcome (.map (n + 2) es none :: outer) rest)
    (hrest : Shallow n rest) (outer : List Container) :
    outcome (w :: outer) (lines ++ rest) = outcome (w.fill (.map es) :: outer) rest := by
  obtain ⟨_, text, rows, hrows, htext⟩ := Value.exists_entryRows hne (n + 2)
  obtain ⟨num, ls, rfl, -⟩ := exists_line (hlines.trans hrows)
  have hfresh : fresh ⟨num, n + 2, text⟩ = .map (n + 2) [] none := by
    simp [fresh, isItem_entry htext]
  have hline : w.nests ⟨num, n + 2, text⟩ = true := nests_of_lt hwaits (hindent ▸ by simp)
  rw [List.cons_append, outcome_congr (feed_fresh hline outer), hfresh, ← List.cons_append, hrun]
  exact outcome_close rfl hrest (Nat.lt_add_of_pos_right Nat.two_pos) w outer

/-- Items below a container that waits are read by a sequence of their own. -/
lemma outcome_nested_items [PatternEngine] {vs : List Value} {w : Container} (hne : vs ≠ [])
    (hw : Value.WritableItems vs) (hlines : lines.map Line.row = Value.itemRows (n + 2) vs)
    (hwaits : w.waits = true) (hindent : w.indent = n)
    (hrun : ∀ outer, outcome (.seq (n + 2) [] false :: outer) (lines ++ rest) =
      outcome (.seq (n + 2) vs false :: outer) rest)
    (hrest : Shallow n rest) (outer : List Container) :
    outcome (w :: outer) (lines ++ rest) = outcome (w.fill (.seq vs) :: outer) rest := by
  obtain ⟨text, rows, hrows, htext⟩ := Value.exists_itemRows hne hw (n + 2)
  obtain ⟨num, ls, rfl, -⟩ := exists_line (hlines.trans hrows)
  have hfresh : fresh ⟨num, n + 2, text⟩ = .seq (n + 2) [] false := by
    simp [fresh, isItem_item htext]
  have hline : w.nests ⟨num, n + 2, text⟩ = true := nests_of_lt hwaits (hindent ▸ by simp)
  rw [List.cons_append, outcome_congr (feed_fresh hline outer), hfresh, ← List.cons_append, hrun]
  exact outcome_close rfl hrest (Nat.lt_add_of_pos_right Nat.two_pos) w outer

/-- Entries behind the mark of an item are read by a mapping of their own. -/
lemma outcome_marked_entries [PatternEngine] {es : Entries} (hne : es ≠ [])
    (hw : Value.WritableEntries es)
    (hlines : lines.map Line.row = Row.mark (Value.entryRows (n + 2) es))
    (hrun : ∀ {ls}, ls.map Line.row = Value.entryRows (n + 2) es → ∀ outer,
      outcome (.map (n + 2) [] none :: outer) (ls ++ rest) =
        outcome (.map (n + 2) es none :: outer) rest)
    (hrest : Shallow n rest) (vs : List Value) (outer : List Container) :
    outcome (.seq n vs false :: outer) (lines ++ rest) =
      outcome (.seq n (vs ++ [.map es]) false :: outer) rest := by
  obtain ⟨k, text, rows, hrows, htext⟩ := Value.exists_entryRows hne (n + 2)
  have hsound : Line.Sound text := by
    have hfirst : ⟨n + 2, text⟩ ∈ Value.entryRows (n + 2) es := by simp [hrows]
    exact Value.sound_entryRows es hw (n + 2) _ hfirst
  have hmark : Row.mark (Value.entryRows (n + 2) es) = ⟨n, '-' :: ' ' :: text⟩ :: rows := by
    rw [hrows]
    rfl
  obtain ⟨num, ls, rfl, hls⟩ := exists_line (hlines.trans hmark)
  -- Without its mark the first line is the first row of the entries.
  have hentries :
      (⟨num, n + 2, text⟩ :: ls : List Line).map Line.row = Value.entryRows (n + 2) es := by
    rw [List.map_cons, hls, hrows]
    rfl
  rw [List.cons_append, outcome_congr (feed_marked num n k vs outer hsound htext),
    ← List.cons_append, hrun hentries]
  exact outcome_close rfl hrest (Nat.lt_add_of_pos_right Nat.two_pos) _ outer

end

mutual

/-- The rows of a value behind its key put it into the mapping. -/
theorem outcome_rows_key [PatternEngine] : ∀ (v : Value), v.Writable → ∀ {n : Nat} {k : String}
    {lines rest : List Line}, lines.map Line.row = v.rows n (.key k) → Shallow n rest →
    ∀ (es : Entries) (outer : List Container), outcome (.map n es none :: outer) (lines ++ rest) =
      outcome (.map n (es.insert k v) none :: outer) rest
  | .map entries, hw, n, k, lines, rest, hlines, hrest, es, outer => by
    obtain ⟨num, ls, rfl, hls⟩ := exists_line hlines
    rw [List.cons_append, outcome_of_feed (feed_key num n k es outer)]
    exact outcome_nested_entries hw.1 hls rfl rfl
      (outcome_entryRows entries hw.2 hls (hrest.mono (by omega)) [] (by simp)) hrest outer
  | .seq (v :: vs), hw, n, k, lines, rest, hlines, hrest, es, outer => by
    obtain ⟨num, ls, rfl, hls⟩ := exists_line hlines
    rw [List.cons_append, outcome_of_feed (feed_key num n k es outer)]
    exact outcome_nested_items (by simp) hw hls rfl rfl
      (outcome_itemRows (v :: vs) hw hls (hrest.mono (by omega)) []) hrest outer
  | .seq [], hw, _, _, _, _, hlines, _, es, outer => outcome_scalar_key rfl hw hlines es outer
  | .null, hw, _, _, _, _, hlines, _, es, outer => outcome_scalar_key rfl hw hlines es outer
  | .bool _, hw, _, _, _, _, hlines, _, es, outer => outcome_scalar_key rfl hw hlines es outer
  | .int _, hw, _, _, _, _, hlines, _, es, outer => outcome_scalar_key rfl hw hlines es outer
  | .str _, hw, _, _, _, _, hlines, _, es, outer => outcome_scalar_key rfl hw hlines es outer

/-- The rows of a value behind its mark put it into the sequence. -/
theorem outcome_rows_mark [PatternEngine] :
    ∀ (v : Value), v.Writable → ∀ {n : Nat} {lines rest : List Line},
    lines.map Line.row = v.rows n .mark → Shallow n rest →
    ∀ (vs : List Value) (outer : List Container),
      outcome (.seq n vs false :: outer) (lines ++ rest) =
        outcome (.seq n (vs ++ [v]) false :: outer) rest
  | .map entries, hw, n, lines, rest, hlines, hrest, vs, outer =>
    outcome_marked_entries hw.1 hw.2 hlines
      (fun hls => outcome_entryRows entries hw.2 hls (hrest.mono (by omega)) [] (by simp))
      hrest vs outer
  | .seq (v :: items), hw, n, lines, rest, hlines, hrest, vs, outer => by
    obtain ⟨num, ls, rfl, hls⟩ := exists_line hlines
    rw [List.cons_append, outcome_of_feed (feed_mark num n vs outer)]
    exact outcome_nested_items (by simp) hw hls rfl rfl
      (outcome_itemRows (v :: items) hw hls (hrest.mono (by omega)) []) hrest outer
  | .seq [], hw, _, _, _, hlines, _, vs, outer => outcome_scalar_mark rfl hw hlines vs outer
  | .null, hw, _, _, _, hlines, _, vs, outer => outcome_scalar_mark rfl hw hlines vs outer
  | .bool _, hw, _, _, _, hlines, _, vs, outer => outcome_scalar_mark rfl hw hlines vs outer
  | .int _, hw, _, _, _, hlines, _, vs, outer => outcome_scalar_mark rfl hw hlines vs outer
  | .str _, hw, _, _, _, hlines, _, vs, outer => outcome_scalar_mark rfl hw hlines vs outer

/-- The rows of entries put them all into the mapping. -/
theorem outcome_entryRows [PatternEngine] :
    ∀ (es : List (String × Value)), Value.WritableEntries es → ∀ {n : Nat}
    {lines rest : List Line}, lines.map Line.row = Value.entryRows n es → Shallow n rest →
    ∀ (done : Entries), (∀ a ∈ done, ∀ e ∈ es, a.1 < e.1) → ∀ (outer : List Container),
    outcome (.map n done none :: outer) (lines ++ rest) =
      outcome (.map n (done ++ es) none :: outer) rest
  | [], _, n, lines, rest, hlines, _, done, _, outer => by
    cases List.map_eq_nil_iff.1 hlines
    rw [List.nil_append, List.append_nil]
  | (k, v) :: es, hw, n, lines, rest, hlines, hrest, done, hdone, outer => by
    obtain ⟨-, hk, hv, hes⟩ := hw
    obtain ⟨ls, ls', rfl, hls, hls'⟩ := List.map_eq_append_iff.1 hlines
    have hrest' : Shallow n (ls' ++ rest) := by
      refine Shallow.append_rows ?_ hls' hrest
      cases es with
      | nil => exact .inl rfl
      | cons e es =>
        obtain ⟨_, text, tail, htail, -⟩ := Value.exists_entryRows (List.cons_ne_nil e es) n
        exact .inr ⟨text, tail, htail⟩
    have hlast : ∀ a ∈ done, a.1 < k := fun a ha => hdone a ha (k, v) (by simp)
    have hnext : ∀ a ∈ done ++ [(k, v)], ∀ e ∈ es, a.1 < e.1 := by
      intro a ha e he
      rcases List.mem_append.1 ha with ha | ha
      · exact hdone a ha e (by simp [he])
      · cases List.mem_singleton.1 ha
        exact hk e he
    rw [List.append_assoc, outcome_rows_key v hv hls hrest', insert_of_forall_lt hlast,
      outcome_entryRows es hes hls' hrest _ hnext, List.append_assoc, List.singleton_append]

/-- The rows of items put them all into the sequence. -/
theorem outcome_itemRows [PatternEngine] : ∀ (vs : List Value), Value.WritableItems vs → ∀ {n : Nat}
    {lines rest : List Line}, lines.map Line.row = Value.itemRows n vs → Shallow n rest →
    ∀ (done : List Value) (outer : List Container),
    outcome (.seq n done false :: outer) (lines ++ rest) =
      outcome (.seq n (done ++ vs) false :: outer) rest
  | [], _, n, lines, rest, hlines, _, done, outer => by
    cases List.map_eq_nil_iff.1 hlines
    rw [List.nil_append, List.append_nil]
  | v :: vs, hw, n, lines, rest, hlines, hrest, done, outer => by
    obtain ⟨ls, ls', rfl, hls, hls'⟩ := List.map_eq_append_iff.1 hlines
    have hrest' : Shallow n (ls' ++ rest) := by
      refine Shallow.append_rows ?_ hls' hrest
      cases vs with
      | nil => exact .inl rfl
      | cons w vs =>
        obtain ⟨text, tail, htail, -⟩ := Value.exists_itemRows (List.cons_ne_nil w vs) hw.2 n
        exact .inr ⟨text, tail, htail⟩
    rw [List.append_assoc, outcome_rows_mark v hw.1 hls hrest',
      outcome_itemRows vs hw.2 hls' hrest, List.append_assoc, List.singleton_append]

end

end Outline

namespace Settings
open Outline

/-- The settings in block style, each row on a line of its own. -/
def write (s : Settings) : String :=
  String.ofList (Row.block (Value.entryRows 0 s.entries))

/-- The rows of a mapping are read as that mapping. -/
lemma read?_entryRows [PatternEngine] {es : Entries} (hne : es ≠ []) (hw : Value.WritableEntries es)
    {lines : List Line} (hlines : lines.map Line.row = Value.entryRows 0 es) :
    Outline.read? lines = .ok (some (.map es)) := by
  obtain ⟨_, text, rows, hrows, htext⟩ := Value.exists_entryRows hne 0
  obtain ⟨num, ls, rfl, -⟩ := exists_line (hlines.trans hrows)
  have hfresh : Container.fresh ⟨num, 0, text⟩ = .map 0 [] none := by
    simp [Container.fresh, isItem_entry htext]
  have hshallow : Shallow 0 [] := by simp [Shallow]
  have houtcome := outcome_entryRows es hw hlines hshallow [] (by simp) []
  rw [List.append_nil, ← hfresh] at houtcome
  rw [read?_cons, houtcome]
  rfl

/-- Settings are read back from their text in block style, with or without a line feed at its
end. -/
theorem parse_write [PatternEngine] (s : Settings) (hw : Value.WritableEntries s.entries) :
    parse s.write = .ok s ∧ parse (s.write ++ "\n") = .ok s := by
  suffices hread : ∀ tail, tail = [] ∨ tail = ['\n'] →
      read (Row.block (Value.entryRows 0 s.entries) ++ tail) = .ok s by
    refine ⟨?_, ?_⟩
    · simpa [parse, write] using hread [] (.inl rfl)
    · simpa [parse, write] using hread ['\n'] (.inr rfl)
  intro tail htail
  obtain ⟨lines, hlines, hrows⟩ :=
    Line.ofBlock_block (Value.sound_entryRows s.entries hw 0) htail
  obtain ⟨es⟩ := s
  cases es with
  | nil =>
    cases List.map_eq_nil_iff.1 hrows
    rw [read, hlines]
    rfl
  | cons e es =>
    rw [read, hlines]
    simp only [read?_entryRows (List.cons_ne_nil e es) hw hrows]

/-- Settings with quotes, marks and signs in texts and keys, and with all ways of nesting. -/
def sample : Settings where
  entries := [
    ("", .seq [.seq [.int (-9223372036854775808), .seq []],
      .map [("a: b", .null), ("c", .seq [])]]),
    ("it's # \"one\"", .map [("- x", .str "# ' [a, b]"), ("y", .map [("!z", .bool true)])])]

/-- Nested sequences and mappings under keys that need their quotes. -/
theorem parse_write_sample :
    Value.WritableEntries sample.entries ∧ parse sample.write = .ok sample ∧
    parse (sample.write ++ "\n") = .ok sample ∧
    sample.write = "'':\n  -\n    - -9223372036854775808\n    - []\n  - 'a: b': ~\n    'c': []\n" ++
      "'it''s # \"one\"':\n  '- x': '# '' [a, b]'\n  'y':\n    '!z': true" := by
  have hitems : Value.WritableItems [.seq [.int (-9223372036854775808), .seq []],
      .map [("a: b", .null), ("c", .seq [])]] :=
    ⟨⟨⟨by decide, by decide⟩, trivial, trivial⟩,
      ⟨by simp, by decide, by decide, trivial, by decide, by simp, trivial, trivial⟩, trivial⟩
  have htext : '\n' ∉ "# ' [a, b]".toList := by decide
  have hentries : Value.WritableEntries [("- x", .str "# ' [a, b]"),
      ("y", .map [("!z", .bool true)])] :=
    ⟨by decide, by decide, htext, by decide, by simp,
      ⟨by simp, by decide, by simp, trivial, trivial⟩, trivial⟩
  have hw : Value.WritableEntries sample.entries :=
    ⟨by decide, by decide, hitems, by decide, by simp, ⟨by simp, hentries⟩, trivial⟩
  obtain ⟨hparse, hparse'⟩ := parse_write sample hw
  exact ⟨hw, hparse, hparse', by decide +kernel⟩

end Settings

end Keyplan
