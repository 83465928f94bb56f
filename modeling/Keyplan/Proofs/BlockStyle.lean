import Keyplan.Settings
import Mathlib

/-!
# Writing settings by indentation

A writer for settings: every entry of a mapping and every item of a sequence starts a row, that is,
an indentation and a text (`Row`, `Value.rows`). The lines of a block are its rows again
(`Line.ofBlock_block`), because the text of a row holds no line feed, starts and ends with no blank
and hides no comment (`Line.Sound`). What stands on one row is read back by `Scalar.splitKey?_key`,
`Scalar.splitKey?_entry` and `Scalar.read_scalar`.
-/

namespace Keyplan

namespace Text

/-- A text between single quotes, with the quotes inside doubled. -/
def quoted (s : String) : List Char :=
  '\'' :: (doubleQuotes s.toList ++ ['\''])

/-- A number in decimal digits. -/
def decimal (n : Int) : List Char :=
  if n < 0 then '-' :: Nat.toDigits 10 n.natAbs else Nat.toDigits 10 n.natAbs

end Text

/-- A line to be written. -/
structure Row where
  /-- Number of spaces in front of the text. -/
  indent : Nat
  /-- The text. -/
  text : List Char
  deriving DecidableEq, Repr

namespace Row

/-- The line that is written for a row. -/
def raw (r : Row) : List Char :=
  List.replicate r.indent ' ' ++ r.text

/-- Puts the mark of an item on the first of some rows. The mark and the space behind it take the
place of two spaces. -/
def mark : List Row → List Row
  | [] => []
  | r :: rows => ⟨r.indent - 2, '-' :: ' ' :: r.text⟩ :: rows

/-- The rows as a text, each on a line of its own. -/
def block (rows : List Row) : List Char :=
  ['\n'].intercalate (rows.map raw)

end Row

/-- What stands in front of a value on its row. -/
inductive Head where
  /-- The key of an entry. -/
  | key (key : String)
  /-- The mark of an item. -/
  | mark

/-- The head in quotes and with its colon, or the dash of an item. -/
def Head.text : Head → List Char
  | .key k => Text.quoted k ++ [':']
  | .mark => ['-']

namespace Value

/-- Whether the value is written on the row of its head. -/
def isScalar : Value → Bool
  | .null => true
  | .bool _ => true
  | .int _ => true
  | .str _ => true
  | .seq vs => vs.isEmpty
  | _ => false

/-- The text of a value that is written on the row of its head. -/
def scalar : Value → List Char
  | .null => ['~']
  | .bool true => ['t', 'r', 'u', 'e']
  | .bool false => ['f', 'a', 'l', 's', 'e']
  | .int n => Text.decimal n
  | .str s => Text.quoted s
  | .seq _ => ['[', ']']
  | _ => []

mutual

/-- The rows of a value with its head. A mapping that is an item starts on the row of its mark;
other mappings and sequences start on the next row, two spaces deeper. -/
def rows (n : Nat) (head : Head) : Value → List Row
  | .map es =>
    match head with
    | .key _ => ⟨n, head.text⟩ :: entryRows (n + 2) es
    | .mark => Row.mark (entryRows (n + 2) es)
  | .seq [] => [⟨n, head.text ++ ' ' :: scalar (.seq [])⟩]
  | .seq vs => ⟨n, head.text⟩ :: itemRows (n + 2) vs
  | v => [⟨n, head.text ++ ' ' :: v.scalar⟩]

/-- The rows of the entries of a mapping. -/
def entryRows (n : Nat) : List (String × Value) → List Row
  | [] => []
  | (k, v) :: es => v.rows n (.key k) ++ entryRows n es

/-- The rows of the items of a sequence. -/
def itemRows (n : Nat) : List Value → List Row
  | [] => []
  | v :: vs => v.rows n .mark ++ itemRows n vs

end

mutual

/-- The value can be written: it holds no fraction, no pattern and no mapping without entries, its
numbers fit 64 bits, and no text or key in it holds a line feed. -/
def Writable : Value → Prop
  | .null => True
  | .bool _ => True
  | .int n => Decimal.minInt ≤ n ∧ n ≤ Decimal.maxInt
  | .float _ => False
  | .str s => '\n' ∉ s.toList
  | .pattern _ => False
  | .seq vs => WritableItems vs
  | .map es => es ≠ [] ∧ WritableEntries es

/-- All items can be written. -/
def WritableItems : List Value → Prop
  | [] => True
  | v :: vs => v.Writable ∧ WritableItems vs

/-- All entries can be written. Their keys are in order, as in every mapping. -/
def WritableEntries : List (String × Value) → Prop
  | [] => True
  | (k, v) :: es => '\n' ∉ k.toList ∧ (∀ e ∈ es, k < e.1) ∧ v.Writable ∧ WritableEntries es

end

end Value

/-! ## Characters of a row -/

namespace Text

/-- A character that is no quote is read as it stands. -/
lemma readSingle_cons_of_ne {c : Char} (hc : c ≠ '\'') (cs : List Char) :
    readSingle (c :: cs) = (readSingle cs).map fun (s, rest) => (c :: s, rest) := by
  rw [readSingle]
  · intro _ h
    exact absurd h hc
  · exact hc

/-- A text in single quotes is read back, whatever follows it except another quote. -/
lemma readSingle_doubleQuotes (s : List Char) {rest : List Char} (h : rest.head? ≠ some '\'') :
    readSingle (doubleQuotes s ++ '\'' :: rest) = some (s, rest) := by
  fun_induction doubleQuotes s with
  | case1 =>
    cases rest with
    | nil => rfl
    | cons c rest =>
      have hc : c ≠ '\'' := by simpa using h
      simp [readSingle, hc]
  | case2 cs ih => simp [readSingle, ih]
  | case3 c cs hc ih => rw [List.cons_append, readSingle_cons_of_ne hc, ih, Option.map_some]

/-- Doubling the quotes adds no other characters. -/
lemma mem_doubleQuotes {c : Char} {s : List Char} : c ∈ doubleQuotes s ↔ c ∈ s := by
  fun_induction doubleQuotes s with
  | case1 => rfl
  | case2 cs ih => simp [ih]
  | case3 d cs _ ih => simp [ih]

/-- A whole number is written with digits and a minus. -/
lemma mem_decimal {n : Int} {c : Char} (h : c ∈ decimal n) : c = '-' ∨ c.isDigit = true := by
  unfold decimal at h
  split at h
  · rcases List.mem_cons.1 h with rfl | h
    · exact .inl rfl
    · exact .inr (Nat.isDigit_of_mem_toDigits (by decide) (by decide) h)
  · exact .inr (Nat.isDigit_of_mem_toDigits (by decide) (by decide) h)

/-- A whole number is written with at least one character. -/
lemma decimal_ne_nil (n : Int) : decimal n ≠ [] := by
  unfold decimal
  split
  · simp
  · exact Nat.toDigits_ne_nil

/-- A number within the bounds is read back from its digits. -/
lemma readInt?_decimal {n : Int} (hmin : Decimal.minInt ≤ n) (hmax : n ≤ Decimal.maxInt) :
    Decimal.readInt? (decimal n) = some n := by
  have hof : Decimal.ofDigits (Nat.toDigits 10 n.natAbs) = n.natAbs := by
    rw [Decimal.ofDigits, ← Nat.ofDigitChars_eq_foldl, Nat.ofDigitChars_ten_toDigits]
  have hall : (Nat.toDigits 10 n.natAbs).all Char.isDigit = true :=
    List.all_eq_true.2 fun c hc => Nat.isDigit_of_mem_toDigits (by decide) (by decide) hc
  have hne : (Nat.toDigits 10 n.natAbs).isEmpty = false := by
    simp [Nat.toDigits_ne_nil]
  unfold decimal
  split
  · have habs : -(n.natAbs : Int) = n := by omega
    simp only [Decimal.readInt?, Decimal.sign, hne, hall, hof, habs]
    simp [hmin, hmax]
  · have habs : (n.natAbs : Int) = n := by omega
    have hsign : Decimal.sign (Nat.toDigits 10 n.natAbs) = (false, Nat.toDigits 10 n.natAbs) := by
      unfold Decimal.sign
      split
      · next cs h => simp [h] at hall
      · next cs h => simp [h] at hall
      · rfl
    simp only [Decimal.readInt?, hsign, hne, hall, hof, habs]
    simp [hmin, hmax]

/-- A digit is no blank. -/
lemma isBlank_of_isDigit {c : Char} (h : c.isDigit = true) : isBlank c = false := by
  simp only [Char.isDigit, Bool.and_eq_true, decide_eq_true_eq] at h
  have hlow : 48 ≤ c.toNat := h.1
  have hhigh : c.toNat ≤ 57 := h.2
  simp [isBlank, blankRanges, Ranges.has]
  omega

/-- Nothing is cut in front of what is no blank. -/
lemma trimLeft_cons {c : Char} (hc : isBlank c = false) (cs : List Char) :
    trimLeft (c :: cs) = c :: cs := by
  simp [trimLeft, hc]

/-- Nothing is cut behind what is no blank. -/
lemma trimRight_concat {c : Char} (hc : isBlank c = false) (cs : List Char) :
    trimRight (cs ++ [c]) = cs ++ [c] :=
  trimRight_append_cons hc cs []

/-- A text without a line break is one line. -/
lemma lines_of_newline {cs : List Char} (hne : cs ≠ []) (h : '\n' ∉ cs) : lines cs = [cs] := by
  induction cs with
  | nil => exact absurd rfl hne
  | cons c cs ih =>
    obtain ⟨hc, hcs⟩ : c ≠ '\n' ∧ '\n' ∉ cs := by simpa [eq_comm] using h
    cases cs with
    | nil => simp [lines]
    | cons d cs =>
      have hd : d ≠ '\n' := by
        rintro rfl
        exact hcs (by simp)
      rw [lines, ih (by simp) hcs]
      · exact hc
      · rintro _ - h
        exact hd (List.cons.inj h).1

/-- Up to the next line feed a text is one line, less a carriage return at its end. -/
lemma exists_lines_append {cs : List Char} (h : '\n' ∉ cs) :
    ∃ raw, (cs = raw ∨ cs = raw ++ ['\r']) ∧
      ∀ rest, lines (cs ++ '\n' :: rest) = raw :: lines rest := by
  induction cs with
  | nil => exact ⟨[], .inl rfl, fun _ => rfl⟩
  | cons c cs ih =>
    obtain ⟨hc, hcs⟩ : c ≠ '\n' ∧ '\n' ∉ cs := by simpa [eq_comm] using h
    by_cases hreturn : c = '\r' ∧ cs = []
    · obtain ⟨rfl, rfl⟩ := hreturn
      exact ⟨[], .inr rfl, fun _ => rfl⟩
    · obtain ⟨raw, hraw, hlines⟩ := ih hcs
      refine ⟨c :: raw, hraw.imp (congrArg _) (congrArg _), fun rest => ?_⟩
      rw [List.cons_append, lines, hlines]
      · exact hc
      · -- What comes behind the carriage return is a character of the line.
        rintro tail rfl htail
        cases cs with
        | nil => exact hreturn ⟨rfl, rfl⟩
        | cons d cs =>
          obtain ⟨rfl, -⟩ := List.cons_eq_cons.1 htail
          exact hcs List.mem_cons_self

/-- A line break ends the first line, if no carriage return stands before it. -/
lemma lines_append_newline {cs : List Char} {c : Char} (h : '\n' ∉ cs ++ [c]) (hc : c ≠ '\r')
    (rest : List Char) : lines (cs ++ c :: '\n' :: rest) = (cs ++ [c]) :: lines rest := by
  obtain ⟨raw, hraw, hlines⟩ := exists_lines_append h
  rcases hraw with rfl | hreturn
  · rw [← hlines, List.append_assoc, List.singleton_append]
  · exact absurd (List.append_inj' hreturn rfl).2 (by simpa using hc)

end Text

/-! ## Texts that a line keeps -/

namespace Line

/-- The reader of comments passes over the text and is outside quotes behind it. -/
def Uncut (cs : List Char) : Prop :=
  ∀ fresh rest, ∃ fresh',
    stripComment none fresh (cs ++ rest) = cs ++ stripComment none fresh' rest

/-- The text can stand on a line of its own: a reader of the line finds all of it. -/
structure Sound (cs : List Char) : Prop where
  uncut : Uncut cs
  newline : '\n' ∉ cs
  first : ∃ c rest, cs = c :: rest ∧ Text.isBlank c = false
  last : ∃ rest c, cs = rest ++ [c] ∧ Text.isBlank c = false

/-- Two texts of which nothing is cut have nothing cut one behind the other. -/
lemma Uncut.append {as bs} (ha : Uncut as) (hb : Uncut bs) : Uncut (as ++ bs) := by
  intro fresh rest
  obtain ⟨fresh₁, h₁⟩ := ha fresh (bs ++ rest)
  obtain ⟨fresh₂, h₂⟩ := hb fresh₁ rest
  refine ⟨fresh₂, ?_⟩
  rw [List.append_assoc, h₁, h₂, List.append_assoc]

/-- Of a text without quotes and hashes nothing is cut. -/
lemma uncut_of_forall {cs : List Char} (h : ∀ c ∈ cs, c ∉ ['"', '\'', '#']) : Uncut cs := by
  induction cs with
  | nil => exact fun fresh rest => ⟨fresh, rfl⟩
  | cons c cs ih =>
    intro fresh rest
    obtain ⟨hc, hcs⟩ := List.forall_mem_cons.1 h
    obtain ⟨fresh', h'⟩ := ih hcs (Text.isBlank c) rest
    refine ⟨fresh', ?_⟩
    simp only [List.mem_cons, List.not_mem_nil, or_false, not_or] at hc
    simp [stripComment, hc, h']

-- A doubled quote closes the text and opens it again, and no comment can start between the two.
/-- Between single quotes, with those inside doubled, nothing is a comment. -/
lemma stripComment_doubleQuotes (s : List Char) (fresh : Bool) (rest : List Char) :
    stripComment (some '\'') fresh (Text.doubleQuotes s ++ '\'' :: rest) =
      Text.doubleQuotes s ++ '\'' :: stripComment none false rest := by
  fun_induction Text.doubleQuotes s generalizing fresh with
  | case1 => rfl
  | case2 cs ih => simp [stripComment, ih]
  | case3 c cs hc ih =>
    have hc' : c ≠ '\'' := hc
    simp [stripComment, hc', ih]

/-- Of a quoted text nothing is cut. -/
lemma uncut_quoted (s : String) : Uncut (Text.quoted s) := by
  intro fresh rest
  refine ⟨false, ?_⟩
  have h := stripComment_doubleQuotes s.toList (Text.isBlank '\'') rest
  simp [Text.quoted, stripComment, h]

/-- A sound text has no blanks in front. -/
lemma Sound.trimLeft {cs} (h : Sound cs) : Text.trimLeft cs = cs := by
  obtain ⟨c, rest, rfl, hc⟩ := h.first
  exact Text.trimLeft_cons hc rest

/-- A sound text has no blanks around it. -/
lemma Sound.trim {cs} (h : Sound cs) : Text.trim cs = cs := by
  obtain ⟨rest, c, hcs, hc⟩ := h.last
  rw [Text.trim, hcs, Text.trimRight_concat hc, ← hcs, h.trimLeft]

/-- Two sound texts with a space between them are a sound text. -/
lemma Sound.append_space {as bs} (ha : Sound as) (hb : Sound bs) : Sound (as ++ ' ' :: bs) := by
  obtain ⟨c, rest, rfl, hc⟩ := ha.first
  obtain ⟨rest', c', rfl, hc'⟩ := hb.last
  have hspace : Uncut [' '] := uncut_of_forall (by simp)
  have hnewline : '\n' ∉ c :: rest ++ ' ' :: (rest' ++ [c']) := by
    intro hmem
    rcases List.mem_append.1 hmem with hmem | hmem
    · exact ha.newline hmem
    · exact hb.newline (by simpa using hmem)
  exact ⟨ha.uncut.append (hspace.append hb.uncut), hnewline, ⟨c, _, rfl, hc⟩,
    ⟨c :: rest ++ ' ' :: rest', c', by simp, hc'⟩⟩

/-- A text without quotes, hashes and blanks is sound. -/
lemma sound_of_forall {cs : List Char} (hne : cs ≠ [])
    (h : ∀ c ∈ cs, c ∉ ['"', '\'', '#'] ∧ Text.isBlank c = false) : Sound cs where
  uncut := uncut_of_forall fun c hc => (h c hc).1
  newline hmem := absurd (h _ hmem).2 (by decide)
  first := by
    obtain ⟨c, rest, rfl⟩ := List.exists_cons_of_ne_nil hne
    exact ⟨c, rest, rfl, (h c (by simp)).2⟩
  last := ⟨cs.dropLast, cs.getLast hne, (List.dropLast_append_getLast hne).symm,
    (h _ (List.getLast_mem hne)).2⟩

/-- A quoted text is sound, whatever stands in it. -/
lemma sound_quoted {s : String} (h : '\n' ∉ s.toList) : Sound (Text.quoted s) where
  uncut := uncut_quoted s
  newline := by simpa [Text.quoted, Text.mem_doubleQuotes] using h
  first := ⟨_, _, rfl, by decide⟩
  last := ⟨'\'' :: Text.doubleQuotes s.toList, '\'', rfl, by decide⟩

/-- A written number is sound. -/
lemma sound_decimal (n : Int) : Sound (Text.decimal n) := by
  refine sound_of_forall (Text.decimal_ne_nil n) ?_
  intro c hc
  rcases Text.mem_decimal hc with rfl | hdigit
  · decide
  · refine ⟨?_, Text.isBlank_of_isDigit hdigit⟩
    intro hmem
    simp only [List.mem_cons, List.not_mem_nil, or_false] at hmem
    rcases hmem with rfl | rfl | rfl <;> exact absurd hdigit (by decide)

/-- The mark of an item is sound. -/
lemma sound_mark : Sound Head.mark.text :=
  sound_of_forall (by simp [Head.text]) (by simp [Head.text]; decide)

/-- A written key is sound. -/
lemma sound_key {k : String} (h : '\n' ∉ k.toList) : Sound (Head.key k).text where
  uncut := (uncut_quoted k).append (uncut_of_forall (by simp))
  newline := by simpa [Head.text] using (sound_quoted h).newline
  first := ⟨_, _, rfl, by decide⟩
  last := ⟨_, ':', rfl, by decide⟩

/-- A scalar that can be written is sound as it is written. -/
lemma sound_scalar {v : Value} (hs : v.isScalar = true) (hw : v.Writable) : Sound v.scalar := by
  cases v with
  | null => exact sound_of_forall (by simp [Value.scalar]) (by simp [Value.scalar]; decide)
  | bool b =>
    cases b <;> exact sound_of_forall (by simp [Value.scalar]) (by simp [Value.scalar]; decide)
  | int n => exact sound_decimal n
  | str s => exact sound_quoted hw
  | seq vs => exact sound_of_forall (by simp [Value.scalar]) (by simp [Value.scalar]; decide)
  | _ => cases hs

/-! ## Lines of a block -/

/-- A row is read as it was written. -/
lemma ofRaw_raw {r : Row} (h : Sound r.text) (number : Nat) :
    ofRaw number r.raw = .ok (some ⟨number, r.indent, r.text⟩) := by
  have hspaces : Uncut (List.replicate r.indent ' ') :=
    uncut_of_forall fun c hc => by rw [List.eq_of_mem_replicate hc]; simp
  have hcontent : content r.raw = r.raw := by
    obtain ⟨_, hstrip⟩ := hspaces.append h.uncut true []
    obtain ⟨rest, c, htext, hc⟩ := h.last
    rw [List.append_nil] at hstrip
    rw [content, Row.raw, hstrip, stripComment, List.append_nil, htext, ← List.append_assoc,
      Text.trimRight_concat hc]
  have hblank : ∀ c ∈ List.replicate r.indent ' ', Text.isBlank c = true := by
    intro c hc
    rw [List.eq_of_mem_replicate hc]
    decide
  have hsize : Text.size (List.replicate r.indent ' ') = r.indent := by
    induction r.indent with
    | zero => rfl
    | succ n ih => rw [List.replicate_succ, Text.size_cons, ih, Nat.add_comm]; rfl
  obtain ⟨c, rest, htext, hc⟩ := h.first
  have hlead : r.raw.takeWhile Text.isBlank = List.replicate r.indent ' ' := by
    rw [Row.raw, List.takeWhile_append_of_pos hblank, htext]
    simp [hc]
  have hrest : r.raw.dropWhile Text.isBlank = r.text := by
    rw [Row.raw, List.dropWhile_append_of_pos hblank, htext]
    simp [hc]
  have hne : r.text.isEmpty = false := by simp [htext]
  simp [ofRaw, hcontent, hlead, hrest, hne, hsize]

/-- The row of a line. -/
def row (l : Line) : Row :=
  ⟨l.indent, l.text⟩

/-- The lines of sound rows are those rows again. -/
lemma ofRaws_raw {rows : List Row} (h : ∀ r ∈ rows, Sound r.text) (number : Nat) :
    ∃ lines, ofRaws number (rows.map Row.raw) = .ok lines ∧ lines.map row = rows := by
  induction rows generalizing number with
  | nil => exact ⟨[], rfl, rfl⟩
  | cons r rows ih =>
    obtain ⟨hr, hrows⟩ := List.forall_mem_cons.1 h
    obtain ⟨lines, hlines, hmap⟩ := ih hrows (number + 1)
    refine ⟨⟨number, r.indent, r.text⟩ :: lines, ?_, by simp [row, hmap]⟩
    rw [List.map_cons, ofRaws, ofRaw_raw hr number, hlines]
    rfl

/-- No sound row is an empty line. -/
lemma raw_ne_nil {r : Row} (h : Sound r.text) : r.raw ≠ [] := by
  obtain ⟨c, rest, htext, -⟩ := h.first
  simp [Row.raw, htext]

/-- A sound row is one line. -/
lemma newline_notMem_raw {r : Row} (h : Sound r.text) : '\n' ∉ r.raw := by
  intro hmem
  rcases List.mem_append.1 hmem with hmem | hmem
  · cases List.eq_of_mem_replicate hmem
  · exact h.newline hmem

/-- A sound row and a line break are the first line of a text. -/
lemma lines_raw_append {r : Row} (h : Sound r.text) (rest : List Char) :
    Text.lines (r.raw ++ '\n' :: rest) = r.raw :: Text.lines rest := by
  have hnewline := newline_notMem_raw h
  obtain ⟨front, c, htext, hc⟩ := h.last
  have hraw : r.raw = (List.replicate r.indent ' ' ++ front) ++ [c] := by
    rw [Row.raw, htext, List.append_assoc]
  have hreturn : c ≠ '\r' := by
    rintro rfl
    cases hc
  rw [hraw] at hnewline ⊢
  rw [List.append_assoc]
  exact Text.lines_append_newline hnewline hreturn rest

/-- The lines of a block are its rows, with or without a last line break. -/
lemma lines_block_append {rows : List Row} (h : ∀ r ∈ rows, Sound r.text) {tail : List Char}
    (htail : tail = [] ∨ tail = ['\n'] ∧ rows ≠ []) :
    Text.lines (Row.block rows ++ tail) = rows.map Row.raw := by
  induction rows with
  | nil =>
    rcases htail with rfl | ⟨-, hne⟩
    · rfl
    · exact absurd rfl hne
  | cons r rows ih =>
    obtain ⟨hr, hrows⟩ := List.forall_mem_cons.1 h
    cases rows with
    | nil =>
      rcases htail with rfl | ⟨rfl, -⟩
      · simpa [Row.block] using Text.lines_of_newline (raw_ne_nil hr) (newline_notMem_raw hr)
      · simpa [Row.block, Text.lines] using lines_raw_append hr []
    | cons r' rows =>
      have hblock : Row.block (r :: r' :: rows) = r.raw ++ '\n' :: Row.block (r' :: rows) := by
        simp [Row.block, List.intercalate_cons_cons]
      rw [hblock, List.append_assoc, List.cons_append, lines_raw_append hr, ih hrows]
      · rfl
      · exact htail.imp_right fun ht => ⟨ht.1, by simp⟩

/-- The lines of a written block are its rows, with or without a line feed at its end. -/
lemma ofBlock_block {rows : List Row} (h : ∀ r ∈ rows, Sound r.text) {tail : List Char}
    (htail : tail = [] ∨ tail = ['\n']) :
    ∃ lines, ofBlock (Row.block rows ++ tail) = .ok lines ∧ lines.map row = rows := by
  by_cases hcase : tail = [] ∨ tail = ['\n'] ∧ rows ≠ []
  · rw [ofBlock, lines_block_append h hcase]
    exact ofRaws_raw h 1
  · -- The line feed is the whole text.
    obtain ⟨rfl, rfl⟩ : tail = ['\n'] ∧ rows = [] := by
      rcases htail with rfl | rfl
      · exact absurd (.inl rfl) hcase
      · exact ⟨rfl, by_contra fun hne => hcase (.inr ⟨rfl, hne⟩)⟩
    exact ⟨[], rfl, rfl⟩

end Line

/-! ## Reading what stands on one row -/

namespace Scalar

/-- A text that starts with no mark of another style is a plain scalar. -/
lemma read_plain [PatternEngine] {cs : List Char} (h : Line.Sound cs)
    (hfirst : ∀ c ∈ ['!', '[', '"', '\''], cs.head? ≠ some c) (line : Nat) :
    read line cs = .ok (plain cs) := by
  obtain ⟨c, rest, rfl, -⟩ := h.first
  simp only [List.head?_cons, List.mem_cons, List.not_mem_nil, or_false, forall_eq_or_imp,
    forall_eq, ne_eq, Option.some.injEq] at hfirst
  have htag : c :: rest ≠ patternTag := by
    intro heq
    exact hfirst.1 (List.cons.inj heq).1
  have hbody : patternBody? (c :: rest) = none := by
    have : patternTag.isPrefixOf (c :: rest) = false := by
      simp [patternTag, List.isPrefixOf, Ne.symm hfirst.1]
    simp [patternBody?, this]
  simp [read, h.trim, htag, hbody, hfirst]

/-- A number within the bounds is a plain scalar of that value. -/
lemma plain_decimal {n : Int} (hmin : Decimal.minInt ≤ n) (hmax : n ≤ Decimal.maxInt) :
    plain (Text.decimal n) = .int n := by
  have hword : ∀ w : String, (∃ c ∈ w.toList, c ≠ '-' ∧ c.isDigit = false) →
      String.ofList (Text.decimal n) ≠ w := by
    rintro w ⟨c, hc, hne, hdigit⟩ rfl
    rw [String.toList_ofList] at hc
    rcases Text.mem_decimal hc with rfl | h
    · exact hne rfl
    · rw [h] at hdigit
      cases hdigit
  have hempty : String.ofList (Text.decimal n) ≠ "" := by
    intro h
    apply Text.decimal_ne_nil n
    rw [← String.toList_ofList (l := Text.decimal n), h]
    rfl
  have hnull := hword "~" ⟨'~', by simp, by decide, by decide⟩
  have hnull' := hword "null" ⟨'n', by simp, by decide, by decide⟩
  have htrue := hword "true" ⟨'t', by simp, by decide, by decide⟩
  have hfalse := hword "false" ⟨'f', by simp, by decide, by decide⟩
  simp only [plain, hempty, hnull, hnull', htrue, hfalse, or_self, if_false,
    Text.readInt?_decimal hmin hmax]

/-- A quoted text is read as that text. -/
lemma read_quoted [PatternEngine] {s : String} (h : '\n' ∉ s.toList) (line : Nat) :
    read line (Text.quoted s) = .ok (.str s) := by
  have htrim := (Line.sound_quoted h).trim
  have hread : Text.readSingle (Text.doubleQuotes s.toList ++ ['\'']) = some (s.toList, []) :=
    Text.readSingle_doubleQuotes s.toList (by simp)
  have htag : Text.quoted s ≠ patternTag := by simp [Text.quoted, patternTag]
  have hbody : patternBody? (Text.quoted s) = none := rfl
  simp only [read, htrim, htag, hbody, if_false]
  simp [Text.quoted, hread, Text.trim, Text.trimRight, Text.trimLeft]

/-- A value on the row of its head is read back. -/
lemma read_scalar [PatternEngine] {v : Value} (hs : v.isScalar = true) (hw : v.Writable)
    (line : Nat) :
    read line v.scalar = .ok v := by
  cases v with
  | null => rfl
  | bool b => cases b <;> rfl
  | int n =>
    have hfirst : ∀ c ∈ ['!', '[', '"', '\''], (Text.decimal n).head? ≠ some c := by
      intro c hc heq
      have hmem : c ∈ Text.decimal n := List.mem_of_mem_head? heq
      simp only [List.mem_cons, List.not_mem_nil, or_false] at hc
      rcases Text.mem_decimal hmem with rfl | hdigit
      · simp at hc
      · rcases hc with rfl | rfl | rfl | rfl <;> exact absurd hdigit (by decide)
    rw [Value.scalar, read_plain (Line.sound_decimal n) hfirst, plain_decimal hw.1 hw.2]
  | str s => exact read_quoted hw line
  | seq vs =>
    cases vs with
    | nil => rfl
    | cons v vs => cases hs
  | _ => cases hs

/-- A quoted key is read up to its closing quote. -/
lemma readKey?_quoted (k : String) {rest : List Char} (h : rest.head? ≠ some '\'') :
    readKey? (Text.quoted k ++ rest) = some (k.toList, rest) := by
  have := Text.readSingle_doubleQuotes k.toList h
  simpa [Text.quoted, readKey?] using this

/-- A key of plain characters is read to the end of the text. -/
lemma readKey?_of_forall {cs key rest : List Char} (h : ∀ c ∈ cs, isKeyChar c = true)
    (hread : readKey? cs = some (key, rest)) : rest = [] := by
  have hdrop : cs.dropWhile isKeyChar = [] := by simpa using h
  unfold readKey? at hread
  split at hread
  · exact absurd (h '"' (by simp)) (by decide)
  · exact absurd (h '\'' (by simp)) (by decide)
  · split at hread
    · cases hread
    · cases hread
      exact hdrop

/-- A text in which no key is followed by anything is no entry. -/
lemma splitKey?_of_readKey? {cs : List Char}
    (h : ∀ key rest, readKey? cs = some (key, rest) → rest = []) : splitKey? cs = none := by
  unfold splitKey?
  split
  · rfl
  · split
    · next hread => cases h _ _ hread
    · next hread => cases h _ _ hread
    · rfl

/-- A value on the row of its mark is not taken for an entry. -/
lemma splitKey?_scalar {v : Value} (hs : v.isScalar = true) : splitKey? v.scalar = none := by
  cases v with
  | null => rfl
  | bool b => cases b <;> rfl
  | int n =>
    apply splitKey?_of_readKey?
    intro key rest
    apply readKey?_of_forall
    intro c hc
    rcases Text.mem_decimal hc with rfl | hdigit
    · rfl
    · simp only [isKeyChar, Bool.and_eq_true, bne_iff_ne]
      refine ⟨⟨?_, ?_⟩, ?_⟩ <;> rintro rfl <;> exact absurd hdigit (by decide)
  | str s =>
    apply splitKey?_of_readKey?
    intro key rest hread
    have hquoted : readKey? (Text.quoted s ++ []) = some (s.toList, []) :=
      readKey?_quoted s (by simp)
    rw [List.append_nil] at hquoted
    cases hquoted.symm.trans hread
    rfl
  | seq vs => rfl
  | _ => cases hs

/-- A key alone is an entry without a text. -/
lemma splitKey?_key (k : String) : splitKey? (Head.key k).text = some (k, []) := by
  have hread : readKey? (Text.quoted k ++ [':']) = some (k.toList, [':']) :=
    readKey?_quoted k (by simp)
  have hfirst : ¬ ((Head.key k).text.head? = some '!' ∨ (Head.key k).text.head? = some '[') := by
    simp [Head.text, Text.quoted]
  rw [splitKey?, if_neg hfirst, Head.text, hread]
  simp

/-- A key and a text behind a space are an entry. -/
lemma splitKey?_entry (k : String) (cs : List Char) :
    splitKey? ((Head.key k).text ++ ' ' :: cs) = some (k, Text.trim cs) := by
  have hread : readKey? (Text.quoted k ++ ':' :: ' ' :: cs) = some (k.toList, ':' :: ' ' :: cs) :=
    readKey?_quoted k (by simp)
  have htext : (Head.key k).text ++ ' ' :: cs = Text.quoted k ++ ':' :: ' ' :: cs := by
    simp [Head.text]
  have hfirst : ¬ ((Text.quoted k ++ ':' :: ' ' :: cs).head? = some '!' ∨
      (Text.quoted k ++ ':' :: ' ' :: cs).head? = some '[') := by
    simp [Text.quoted]
  rw [htext, splitKey?, if_neg hfirst, hread]
  simp

end Scalar

end Keyplan
