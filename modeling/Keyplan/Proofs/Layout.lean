import Keyplan.Proofs.TrailingComments
import Keyplan.Proofs.SourceLines

/-!
# Settings do not depend on layout

The reader compares the indentation of lines with one another and never with a constant, and it uses
the number of a line for errors only. So each step of it goes along with a move of the lines, which
adds the same to every indentation and gives the lines other numbers (`Line.move`): the lemmas
`read_move`, `feed_move` and `run_move` say so for one line and one container, for one line and all
that are open, and for all lines. What a layout does to a block is such a move (`ofRaws_layout`).
The main statement is `parse_layout`.
-/

namespace Keyplan

namespace SettingsError

/-- The error with another line number. -/
def renumber (ν : Nat → Nat) : SettingsError → SettingsError
  | tabIndentation line => tabIndentation (ν line)
  | unexpectedIndent line => unexpectedIndent (ν line)
  | invalidLine line fault => invalidLine (ν line) fault
  | invalidPattern line cause => invalidPattern (ν line) cause
  | notAMapping => notAMapping

/-- Where all lines keep their numbers, so does an error. -/
lemma renumber_id : renumber id = id := by
  funext e
  cases e <;> rfl

end SettingsError

/-- A result under a change of line numbers and of values. -/
def transfer {α β : Type} (ν : Nat → Nat) (f : α → β) :
    Except SettingsError α → Except SettingsError β
  | .error e => .error (e.renumber ν)
  | .ok a => .ok (f a)

section
variable {α β : Type} {ν : Nat → Nat} {f : α → β}

/-- A result is moved as the function says. -/
@[simp] lemma transfer_ok (a : α) : transfer ν f (.ok a) = .ok (f a) :=
  rfl

/-- Where results stay, only the numbers in errors move. -/
lemma transfer_id (r : Except SettingsError α) : transfer ν id r = r.mapError (·.renumber ν) := by
  cases r <;> rfl

end

/-- The line at another place: it is `k` deeper and has another number. -/
def Line.move (k : Nat) (ν : Nat → Nat) (line : Line) : Line :=
  ⟨ν line.number, line.indent + k, line.text⟩

/-- The container `k` deeper. -/
def Container.shift (k : Nat) : Container → Container
  | .seq n items waiting => .seq (n + k) items waiting
  | .map n entries waiting => .map (n + k) entries waiting

/-- What a line does, at another place. -/
def Reading.move (k : Nat) (ν : Nat → Nat) : Reading → Reading
  | .taken top => .taken (top.map (Container.shift k))
  | .closed v line => .closed v (line.move k ν)

section
variable {k : Nat} {ν : Nat → Nat}

/-! ## One line -/

/-- A scalar is read alike on every line, but for the number in its error. -/
lemma Scalar.read_move [PatternEngine] (line : Nat) (cs : List Char) :
    Scalar.read (ν line) cs = transfer ν id (Scalar.read line cs) := by
  have hfinish : ∀ (v : Value) (rest : List Char),
      (if rest.isEmpty then .ok v
        else .error (.invalidLine (ν line) (.unexpectedText (String.ofList rest)))) =
      transfer ν id (if rest.isEmpty then .ok v
        else .error (.invalidLine line (.unexpectedText (String.ofList rest)))) := by
    intro v rest
    split <;> rfl
  simp only [read]
  split
  · rfl
  split
  · split <;> rfl
  split
  · split
    · exact hfinish _ _
    · rfl
  · split
    · exact hfinish _ _
    · rfl
  · split
    · exact hfinish _ _
    · rfl
  · rfl

namespace Line

/-- A moved line is an item if it was one. -/
@[simp] lemma isItem_move (line : Line) : (line.move k ν).isItem = line.isItem :=
  rfl

/-- The line behind the mark of an item moves along. -/
lemma itemBody_move (line : Line) : (line.move k ν).itemBody = line.itemBody.move k ν := by
  simp only [itemBody, move, Nat.add_right_comm]

end Line

namespace Container

/-- A moved container takes the same values. -/
lemma fill_shift (c : Container) (v : Value) : (c.shift k).fill v = (c.fill v).shift k := by
  cases c with
  | seq n items waiting => cases waiting <;> rfl
  | map n es waiting => cases waiting <;> rfl

/-- A moved container closes with the same value. -/
lemma close_shift (c : Container) : (c.shift k).close = c.close := by
  rw [close, close, fill_shift]
  cases c.fill .null <;> rfl

/-- A moved container opens another for a moved line as before. -/
lemma nests_move (c : Container) (line : Line) :
    (c.shift k).nests (line.move k ν) = c.nests line := by
  have hindent : (line.move k ν).indent = line.indent + k := rfl
  cases c with
  | seq n items waiting => simp [shift, nests, hindent]
  | map n es waiting =>
    have hsame : (line.indent + k == n + k) = (line.indent == n) := by
      rw [Bool.eq_iff_iff]
      simp
    simp [shift, nests, hindent, hsame]

/-- An entry is read alike from a moved line. -/
lemma readEntry_move [PatternEngine] (n : Nat) (es : Entries) (line : Line) :
    readEntry (n + k) es (line.move k ν) = transfer ν (shift k) (readEntry n es line) := by
  have htext : (line.move k ν).text = line.text := rfl
  rw [readEntry, readEntry, htext]
  cases Scalar.splitKey? line.text with
  | none => rfl
  | some key =>
    obtain ⟨key, rest⟩ := key
    have hread : Scalar.read (line.move k ν).number rest =
        transfer ν id (Scalar.read line.number rest) := Scalar.read_move _ _
    simp only [hread]
    split
    · rfl
    · cases Scalar.read line.number rest <;> rfl

/-- An item is read alike from a moved line. -/
lemma readItem_move [PatternEngine] (n : Nat) (items : List Value) (line : Line) :
    readItem (n + k) items (line.move k ν) =
      transfer ν (Reading.move k ν) (readItem n items line) := by
  have htext : (line.itemBody.move k ν).text = line.itemBody.text := rfl
  have hindent : (line.itemBody.move k ν).indent = line.itemBody.indent + k := rfl
  have hread : Scalar.read (line.move k ν).number line.itemBody.text =
      transfer ν id (Scalar.read line.number line.itemBody.text) := Scalar.read_move _ _
  simp only [readItem, Line.itemBody_move, htext, hindent, Line.isItem_move, readEntry_move, hread]
  split
  · rfl
  split
  · split
    · rfl
    · cases readEntry line.itemBody.indent [] line.itemBody <;> rfl
  · cases Scalar.read line.number line.itemBody.text <;> rfl

/-- A container that waits for nothing reads a moved line as before. -/
lemma readSettled_move [PatternEngine] (line : Line) (c : Container) :
    readSettled (line.move k ν) (c.shift k) =
      transfer ν (Reading.move k ν) (readSettled line c) := by
  have hindent : (line.move k ν).indent = line.indent + k := rfl
  cases c with
  | seq n items waiting =>
    simp only [shift, readSettled, hindent, Nat.add_right_cancel_iff, Line.isItem_move,
      readItem_move]
    split <;> rfl
  | map n es waiting =>
    simp only [shift, readSettled, hindent, Nat.add_right_cancel_iff, Nat.add_lt_add_iff_right,
      Line.isItem_move, readEntry_move]
    split
    · rfl
    split
    · rfl
    · cases readEntry n es line <;> rfl

/-- A moved line opens the same containers, moved. -/
lemma openAt_move [PatternEngine] (line : Line) :
    openAt (line.move k ν) = transfer ν (Reading.move k ν) (openAt line) := by
  have hindent : (line.move k ν).indent = line.indent + k := rfl
  simp only [openAt, hindent, Line.isItem_move, readItem_move, readEntry_move]
  split
  · rfl
  · cases readEntry line.indent [] line <;> rfl

/-- A container reads a line as it does at another place. -/
lemma read_move [PatternEngine] (line : Line) (c : Container) :
    (c.shift k).read (line.move k ν) = transfer ν (Reading.move k ν) (c.read line) := by
  rw [read, read, nests_move, openAt_move]
  split
  · cases openAt line with
    | error e => rfl
    | ok reading =>
      cases reading with
      | taken top => simp [Reading.move]
      | closed v line' => simp only [transfer_ok, Reading.move, fill_shift, readSettled_move]
  · rw [fill_shift, readSettled_move]

end Container

/-! ## All lines -/

namespace Outline
open Container

/-- A moved line starts a block as before. -/
lemma start_move [PatternEngine] (line : Line) :
    start (line.move k ν) = transfer ν (List.map (shift k)) (start line) := by
  rw [start, start, openAt_move]
  cases openAt line with
  | error e => rfl
  | ok reading => cases reading <;> rfl

/-- All open containers together read a moved line as before. -/
lemma feed_move [PatternEngine] (opened : List Container) (line : Line) (value : Option Value) :
    feed (line.move k ν) value (opened.map (shift k)) =
      transfer ν (List.map (shift k)) (feed line value opened) := by
  induction opened generalizing line value with
  | nil => rfl
  | cons c outer ih =>
    have hread : ∀ c : Container, feed (line.move k ν) none ((c :: outer).map (shift k)) =
        transfer ν (List.map (shift k)) (feed line none (c :: outer)) := by
      intro c
      rw [List.map_cons, feed, feed, read_move]
      cases c.read line with
      | error e => rfl
      | ok reading =>
        cases reading with
        | taken top => simp [Reading.move]
        | closed v line' => exact ih line' (some v)
    cases value with
    | none => exact hread c
    | some v =>
      have hfilled := hread (c.fill v)
      rw [List.map_cons, ← fill_shift] at hfilled
      exact hfilled

/-- Moved lines leave the same containers open, moved. -/
lemma run_move [PatternEngine] (lines : List Line) (opened : List Container) :
    run (opened.map (shift k)) (lines.map (Line.move k ν)) =
      transfer ν (List.map (shift k)) (run opened lines) := by
  induction lines generalizing opened with
  | nil => rfl
  | cons line lines ih =>
    rw [List.map_cons, run, run, feed_move]
    cases feed line none opened with
    | error e => rfl
    | ok next => exact ih next

/-- Moved containers close with the same value. -/
lemma finish_shift (opened : List Container) (v : Value) :
    finish v (opened.map (shift k)) = finish v opened := by
  induction opened generalizing v with
  | nil => rfl
  | cons c outer ih => rw [List.map_cons, finish, finish, fill_shift, close_shift, ih]

/-- Lines at another place write the same value. -/
theorem read?_move [PatternEngine] (lines : List Line) :
    read? (lines.map (Line.move k ν)) = transfer ν id (read? lines) := by
  cases lines with
  | nil => rfl
  | cons line lines =>
    rw [List.map_cons, read?, read?, start_move]
    cases start line with
    | error e => rfl
    | ok first =>
      simp only [transfer_ok, run_move]
      cases run first lines with
      | error e => rfl
      | ok opened => simp only [transfer_ok, finish_shift, id]

end Outline

end

/-! ## Lines of a block -/

namespace Text

/-- Nothing but blanks, or blanks and a comment. -/
def Spacer (raw : List Char) : Prop :=
  (∀ c ∈ raw, isBlank c = true) ∨
    ∃ lead text, (∀ c ∈ lead, isBlank c = true) ∧ raw = lead ++ '#' :: text

/-- The raw lines with further ones: `gaps i` stands in front of line `i`, counted from zero, and
behind the last line if that is the number of all. -/
def pad (gaps : Nat → List (List Char)) : List (List Char) → List (List Char)
  | [] => gaps 0
  | raw :: raws => gaps 0 ++ raw :: pad (fun i => gaps (i + 1)) raws

/-- The number that a line has among the further ones; it and `n` count from one. -/
def padded (gaps : Nat → List (List Char)) (n : Nat) : Nat :=
  n + ∑ i ∈ Finset.range n, (gaps i).length

/-- The text with `k` spaces in front of every line. A line starts here if `start` holds. -/
def indentLines (k : Nat) (start : Bool) : List Char → List Char
  | [] => []
  | c :: cs =>
    (if start then List.replicate k ' ' else []) ++ c :: indentLines k (c == '\n') cs

/-- Without further lines, the lines stay as they are. -/
lemma pad_nil (raws : List (List Char)) : pad (fun _ => []) raws = raws := by
  induction raws with
  | nil => rfl
  | cons raw raws ih => rw [pad, ih, List.nil_append]

/-- The lines put in front of the first one move all others along. -/
lemma padded_succ (gaps : Nat → List (List Char)) (n : Nat) :
    padded gaps (n + 1) = (gaps 0).length + 1 + padded (fun i => gaps (i + 1)) n := by
  rw [padded, padded, Finset.sum_range_succ']
  omega

/-- A line is where its new number says. -/
lemma getElem?_pad {gaps : Nat → List (List Char)} {raws : List (List Char)} {raw : List Char}
    {i : Nat} (h : raws[i]? = some raw) : (pad gaps raws)[padded gaps (i + 1) - 1]? = some raw := by
  induction raws generalizing gaps i with
  | nil => cases h
  | cons raw' raws ih =>
    rw [pad, padded_succ, List.getElem?_append_right (by omega)]
    cases i with
    | zero =>
      cases h
      simp [padded]
    | succ i =>
      have hplace : (gaps 0).length + 1 + padded (fun i => gaps (i + 1)) (i + 1) - 1 -
          (gaps 0).length = padded (fun i => gaps (i + 1)) (i + 1) - 1 + 1 := by
        rw [padded]
        omega
      rw [hplace, List.getElem?_cons_succ]
      exact ih h

/-- No line holds a line break. -/
lemma newline_notMem_lines (cs : List Char) : ∀ line ∈ lines cs, '\n' ∉ line := by
  fun_induction lines cs with
  | case1 => simp
  | case2 cs ih => simpa using ih
  | case3 cs ih => simpa using ih
  | case4 c cs hbreak _ _ _ => simpa [eq_comm] using hbreak
  | case5 c cs hbreak _ line rest hlines ih =>
    rw [hlines] at ih
    obtain ⟨hline, hrest⟩ := List.forall_mem_cons.1 ih
    exact List.forall_mem_cons.2 ⟨by simpa [eq_comm, hline] using hbreak, hrest⟩

/-- What holds of all lines, old and new, holds of all of them together. -/
lemma forall_mem_pad {P : List Char → Prop} {gaps : Nat → List (List Char)}
    {raws : List (List Char)} (hgaps : ∀ i, ∀ raw ∈ gaps i, P raw) (hraws : ∀ raw ∈ raws, P raw) :
    ∀ raw ∈ pad gaps raws, P raw := by
  induction raws generalizing gaps with
  | nil => exact hgaps 0
  | cons raw raws ih =>
    obtain ⟨hraw, hraws⟩ := List.forall_mem_cons.1 hraws
    exact List.forall_mem_append.2 ⟨hgaps 0,
      List.forall_mem_cons.2 ⟨hraw, ih (fun i => hgaps (i + 1)) hraws⟩⟩

/-- A line keeps all its characters in front of a carriage return and a line feed. -/
lemma lines_append_return {raw : List Char} (h : '\n' ∉ raw) (rest : List Char) :
    lines (raw ++ '\r' :: '\n' :: rest) = raw :: lines rest := by
  induction raw with
  | nil => rfl
  | cons c raw ih =>
    obtain ⟨hc, hraw⟩ : c ≠ '\n' ∧ '\n' ∉ raw := by simpa [eq_comm] using h
    rw [List.cons_append, lines, ih hraw]
    · exact hc
    · rintro tail - htail
      cases raw with
      | nil => cases htail
      | cons d raw =>
        obtain ⟨rfl, -⟩ := List.cons_eq_cons.1 htail
        exact hraw List.mem_cons_self

/-- Raw lines without line feeds are the lines of a text. -/
lemma exists_lines_eq {raws : List (List Char)} (h : ∀ raw ∈ raws, '\n' ∉ raw) :
    ∃ cs, lines cs = raws := by
  induction raws with
  | nil => exact ⟨[], rfl⟩
  | cons raw raws ih =>
    obtain ⟨hraw, hraws⟩ := List.forall_mem_cons.1 h
    obtain ⟨cs, hcs⟩ := ih hraws
    exact ⟨raw ++ '\r' :: '\n' :: cs, by rw [lines_append_return hraw, hcs]⟩

/-- A text that is not empty has a line. -/
lemma lines_ne_nil {cs : List Char} (h : cs ≠ []) : lines cs ≠ [] := by
  fun_cases lines cs with
  | case1 => exact absurd rfl h
  | _ => exact List.cons_ne_nil _ _

/-- Spaces in front of a text stand in front of its first line. -/
lemma lines_spaces (k : Nat) {cs line : List Char} {rest : List (List Char)}
    (h : lines cs = line :: rest) :
    lines (List.replicate k ' ' ++ cs) = (List.replicate k ' ' ++ line) :: rest := by
  induction k with
  | zero => exact h
  | succ k ih =>
    rw [List.replicate_succ, List.cons_append, lines, ih]
    · rfl
    · decide
    · rintro _ ⟨⟩

/-- To indent a text from its start on, it is enough to indent all lines but the first. -/
lemma lines_indentLines_of_start {k : Nat} {cs : List Char}
    (h : ∀ line rest, lines cs = line :: rest →
      lines (indentLines k false cs) = line :: rest.map (List.replicate k ' ' ++ ·)) :
    lines (indentLines k true cs) = (lines cs).map (List.replicate k ' ' ++ ·) := by
  cases cs with
  | nil => rfl
  | cons c cs =>
    obtain ⟨line, rest, hlines⟩ := List.exists_cons_of_ne_nil (lines_ne_nil (List.cons_ne_nil c cs))
    have hspaces := lines_spaces k (h line rest hlines)
    rw [hlines]
    exact hspaces

/-- Within a line no spaces are put in, and the lines behind it get them. -/
lemma lines_indentLines_within (k : Nat) {cs line : List Char} {rest : List (List Char)}
    (h : lines cs = line :: rest) :
    lines (indentLines k false cs) = line :: rest.map (List.replicate k ' ' ++ ·) := by
  fun_induction lines cs generalizing line rest with
  | case1 => cases h
  | case2 cs ih =>
    cases h
    have hlines := lines_indentLines_of_start fun _ _ hcs => ih hcs
    rw [← hlines]
    rfl
  | case3 cs ih =>
    cases h
    have hlines := lines_indentLines_of_start fun _ _ hcs => ih hcs
    rw [← hlines]
    rfl
  | case4 c cs hbreak _ hnil _ =>
    cases h
    have hcs : cs = [] := not_not.1 (mt lines_ne_nil (not_not.2 hnil))
    subst hcs
    have hwithin : indentLines k false [c] = [c] := rfl
    rw [hwithin]
    exact lines_of_newline (by simp) (by simpa [eq_comm] using hbreak)
  | case5 c cs hbreak hreturn line' rest' hlines ih =>
    cases h
    have hwithin : indentLines k false (c :: cs) = c :: indentLines k false cs := by
      rw [indentLines, beq_false_of_ne hbreak]
      rfl
    rw [hwithin, lines, ih hlines]
    · exact hbreak
    · -- A carriage return is still not in front of a line feed.
      intro tail hc htail
      cases cs with
      | nil => cases htail
      | cons d cs =>
        obtain ⟨rfl, -⟩ := List.cons_eq_cons.1 htail
        exact hreturn cs hc rfl

/-- The lines of an indented text are the indented lines of the text. -/
lemma lines_indentLines (k : Nat) (cs : List Char) :
    lines (indentLines k true cs) = (lines cs).map (List.replicate k ' ' ++ ·) :=
  lines_indentLines_of_start fun _ _ => lines_indentLines_within k

end Text

namespace Line
open Text

/-- Blanks in front of a text make no difference to its comment. -/
lemma stripComment_blanks {lead : List Char} (h : ∀ c ∈ lead, isBlank c = true) (cs : List Char) :
    stripComment none true (lead ++ cs) = lead ++ stripComment none true cs := by
  induction lead with
  | nil => rfl
  | cons c lead ih =>
    obtain ⟨hc, hlead⟩ := List.forall_mem_cons.1 h
    have hdouble : c ≠ '"' := by rintro rfl; cases hc
    have hsingle : c ≠ '\'' := by rintro rfl; cases hc
    have hmark : c ≠ '#' := by rintro rfl; cases hc
    rw [List.cons_append, stripComment, if_neg (by simp [hdouble, hsingle]),
      if_neg (by simp [hmark]), hc, ih hlead, List.cons_append]

/-- The lines that may be put in are those without content. -/
lemma idle_iff_spacer {raw : List Char} : Idle raw ↔ Spacer raw := by
  constructor
  · intro h
    have hlead : ∀ c ∈ raw.takeWhile isBlank, isBlank c = true := fun c => List.mem_takeWhile_imp
    have hstrip := stripComment_blanks hlead (raw.dropWhile isBlank)
    rw [List.takeWhile_append_dropWhile] at hstrip
    cases hrest : raw.dropWhile isBlank with
    | nil => exact .inl (List.dropWhile_eq_nil_iff.1 hrest)
    | cons c rest =>
      have hc : isBlank c = false := by
        have := List.head?_dropWhile_not isBlank raw
        simpa [hrest] using this
      by_cases hmark : c = '#'
      · subst hmark
        exact .inr ⟨_, rest, hlead, by rw [← hrest, List.takeWhile_append_dropWhile]⟩
      · -- Any other character is kept, and it is not blank.
        rw [hrest, stripComment_cons (by simp [hmark])] at hstrip
        have hblank := h c (by rw [hstrip]; simp)
        exact absurd (hc.symm.trans hblank) (by decide)
  · rintro (hblank | ⟨lead, text, hlead, rfl⟩)
    · have hstrip := stripComment_blanks hblank []
      rw [List.append_nil, stripComment, List.append_nil] at hstrip
      rw [Idle, hstrip]
      exact hblank
    · rw [Idle, stripComment_blanks hlead, stripComment_mark, List.append_nil]
      exact hlead

/-- Spaces are blanks. -/
lemma blank_of_mem_replicate {k : Nat} : ∀ c ∈ List.replicate k ' ', isBlank c = true := by
  intro c hc
  rw [List.eq_of_mem_replicate hc]
  rfl

/-- Spaces in front of a line stand in front of its content. -/
lemma content_spaces (k : Nat) {raw : List Char} (h : ¬ Idle raw) :
    content (List.replicate k ' ' ++ raw) = List.replicate k ' ' ++ content raw := by
  obtain ⟨c, hmem, hc⟩ : ∃ c ∈ stripComment none true raw, isBlank c = false := by
    simpa [Idle] using h
  obtain ⟨as, bs, hstrip⟩ := List.append_of_mem hmem
  rw [content, content, stripComment_blanks blank_of_mem_replicate, hstrip, ← List.append_assoc,
    trimRight_append_cons hc, trimRight_append_cons hc, List.append_assoc]

/-- A space takes one byte. -/
lemma size_replicate_space (k : Nat) : size (List.replicate k ' ') = k := by
  induction k with
  | zero => rfl
  | succ k ih =>
    have hspace : ' '.utf8Size = 1 := rfl
    rw [List.replicate_succ, size_cons, ih, hspace, Nat.add_comm]

/-- A line with spaces in front is the same line, moved. -/
lemma ofRaw_spaces (k number : Nat) (ν : Nat → Nat) (raw : List Char) :
    ofRaw (ν number) (List.replicate k ' ' ++ raw) =
      transfer ν (Option.map (move k ν)) (ofRaw number raw) := by
  by_cases h : Idle raw
  · have hspaces : Idle (List.replicate k ' ' ++ raw) := by
      rw [Idle, stripComment_blanks blank_of_mem_replicate]
      exact List.forall_mem_append.2 ⟨blank_of_mem_replicate, h⟩
    rw [ofRaw_of_idle h, ofRaw_of_idle hspaces]
    rfl
  · have hlead : (List.replicate k ' ' ++ content raw).takeWhile isBlank =
        List.replicate k ' ' ++ (content raw).takeWhile isBlank :=
      List.takeWhile_append_of_pos blank_of_mem_replicate
    have htext : (List.replicate k ' ' ++ content raw).dropWhile isBlank =
        (content raw).dropWhile isBlank := List.dropWhile_append_of_pos blank_of_mem_replicate
    have htab : (List.replicate k ' ' ++ (content raw).takeWhile isBlank).contains '\t' =
        ((content raw).takeWhile isBlank).contains '\t' := by simp
    simp only [ofRaw, content_spaces k h, hlead, htext, htab, size_append, size_replicate_space]
    split
    · rfl
    split
    · rfl
    · simp [move, Nat.add_comm]

/-- Lines without content are passed over. -/
lemma ofRaws_gap {gap : List (List Char)} (h : ∀ raw ∈ gap, Spacer raw) (number : Nat)
    (raws : List (List Char)) :
    ofRaws number (gap ++ raws) = ofRaws (number + gap.length) raws := by
  induction gap generalizing number with
  | nil => rfl
  | cons raw gap ih =>
    obtain ⟨hraw, hgap⟩ := List.forall_mem_cons.1 h
    rw [List.cons_append, ofRaws, ofRaw_of_idle (idle_iff_spacer.2 hraw), ih hgap,
      List.length_cons, Nat.add_right_comm, Nat.add_assoc]
    cases ofRaws (number + (gap.length + 1)) raws <;> rfl

/-- A layout moves the lines of a block. -/
lemma ofRaws_layout (k : Nat) {ν : Nat → Nat} {gaps : Nat → List (List Char)}
    (hgaps : ∀ i, ∀ raw ∈ gaps i, Spacer raw) {number start : Nat} {raws : List (List Char)}
    (hν : ∀ n, ν (number + n) + 1 = start + padded gaps (n + 1)) :
    ofRaws start (pad gaps (raws.map (List.replicate k ' ' ++ ·))) =
      transfer ν (List.map (move k ν)) (ofRaws number raws) := by
  induction raws generalizing gaps number start with
  | nil =>
    have hgap := ofRaws_gap (hgaps 0) start []
    rw [List.append_nil] at hgap
    exact hgap
  | cons raw raws ih =>
    have hnumber : ν number = start + (gaps 0).length := by
      have := hν 0
      rw [padded_succ] at this
      simp [padded] at this
      omega
    have hnext : ∀ n, ν (number + 1 + n) + 1 =
        start + (gaps 0).length + 1 + padded (fun i => gaps (i + 1)) (n + 1) := by
      intro n
      have := hν (n + 1)
      rw [padded_succ] at this
      rw [Nat.add_right_comm, Nat.add_assoc, this]
      omega
    rw [List.map_cons, pad, ofRaws_gap (hgaps 0), ofRaws, ofRaws, ← hnumber, ofRaw_spaces, hnumber,
      ih (fun i => hgaps (i + 1)) hnext]
    cases ofRaw number raw with
    | error e => rfl
    | ok line? =>
      cases ofRaws (number + 1) raws with
      | error e => rfl
      | ok rest => cases line? <;> rfl

end Line

namespace Settings
open Text Line

/-- The settings of a layout of a block. -/
lemma read_layout [PatternEngine] {block block' : List Char} {k : Nat}
    {gaps : Nat → List (List Char)} (hgaps : ∀ i, ∀ raw ∈ gaps i, Spacer raw)
    (hlines : lines block' = pad gaps ((lines block).map (List.replicate k ' ' ++ ·))) :
    read block' = transfer (padded gaps) id (read block) := by
  have hblock : ofBlock block' = transfer (padded gaps) (List.map (move k (padded gaps)))
      (ofBlock block) := by
    rw [ofBlock, hlines]
    exact ofRaws_layout k hgaps fun n => by rw [Nat.add_comm 1 n, Nat.add_comm 1]
  rw [read, read, hblock]
  cases ofBlock block with
  | error e => rfl
  | ok lines =>
    simp only [transfer_ok, Outline.read?_move]
    cases Outline.read? lines with
    | error e => rfl
    | ok value? =>
      cases value? with
      | none => rfl
      | some v => cases v <;> rfl

/-- Without further lines, every number stays. -/
lemma padded_nil : padded (fun _ => []) = id := by
  funext n
  simp [padded]

/-- A block whose lines all have the same spaces in front reads as before. -/
lemma read_indented [PatternEngine] {block block' : List Char} {k : Nat}
    (hlines : lines block' = (lines block).map (List.replicate k ' ' ++ ·)) :
    read block' = read block := by
  rw [← pad_nil ((lines block).map _)] at hlines
  rw [read_layout (by simp) hlines, padded_nil, transfer_id, SettingsError.renumber_id]
  cases read block <;> rfl

/-- Spaces in front of all lines change nothing, and neither do blank lines and comments that stand
on lines of their own, except that an error has the new number of the same line. Each layout of a
block is one of some text. -/
theorem parse_layout [PatternEngine] (block : String) :
    (∀ k, parse (String.ofList (indentLines k true block.toList)) = parse block) ∧
    (∀ k block', lines block'.toList = (lines block.toList).map (List.replicate k ' ' ++ ·) →
      parse block' = parse block) ∧
    (∀ gaps block', (∀ i, ∀ raw ∈ gaps i, Spacer raw) →
      lines block'.toList = pad gaps (lines block.toList) →
      parse block' = (parse block).mapError (·.renumber (padded gaps)) ∧
      ∀ i raw, (lines block.toList)[i]? = some raw →
        (lines block'.toList)[padded gaps (i + 1) - 1]? = some raw) ∧
    ∀ gaps : Nat → List (List Char), (∀ i, ∀ raw ∈ gaps i, '\n' ∉ raw) →
      ∃ block' : String, lines block'.toList = pad gaps (lines block.toList) := by
  refine ⟨fun k => ?_, fun k block' hlines => read_indented hlines,
    fun gaps block' hgaps hlines => ⟨?_, fun i raw hraw => ?_⟩, fun gaps hgaps => ?_⟩
  · rw [parse, String.toList_ofList]
    exact read_indented (lines_indentLines k _)
  · have hzero : lines block'.toList =
        pad gaps ((lines block.toList).map (List.replicate 0 ' ' ++ ·)) := by
      simpa using hlines
    rw [parse, read_layout hgaps hzero, transfer_id]
    rfl
  · rw [hlines]
    exact getElem?_pad hraw
  · obtain ⟨cs, hcs⟩ := exists_lines_eq (forall_mem_pad hgaps (newline_notMem_lines block.toList))
    exact ⟨String.ofList cs, by rwa [String.toList_ofList]⟩

/-- Lines that go in front of, between and behind three others. -/
def gapsSample : Nat → List (List Char)
  | 0 => [['#', '\''], []]
  | 1 => [[' ', '\t', '#', 'y']]
  | 3 => [['\r']]
  | _ => []

/-- All those lines are blank or comments. -/
lemma spacer_gapsSample : ∀ i, ∀ raw ∈ gapsSample i, Spacer raw ∧ '\n' ∉ raw := by
  have hmark : Spacer ['#', '\''] := .inr ⟨[], ['\''], by simp, rfl⟩
  have hblank : Spacer [] := .inl (by simp)
  have hlead : Spacer [' ', '\t', '#', 'y'] := by
    refine .inr ⟨[' ', '\t'], ['y'], ?_, rfl⟩
    exact List.forall_mem_cons.2 ⟨rfl, List.forall_mem_singleton.2 rfl⟩
  have hreturn : Spacer ['\r'] := .inl (List.forall_mem_singleton.2 rfl)
  intro i
  match i with
  | 0 => simp [gapsSample, hmark, hblank]
  | 1 => simp [gapsSample, hlead]
  | 3 => simp [gapsSample, hreturn]
  | 2 => simp [gapsSample]
  | i + 4 => simp [gapsSample]

/-- A line that is too deep, in front of one with another error. -/
theorem parse_layout_samples :
    parse "a: 1\r\n  b: 2\n'" = .error (.unexpectedIndent 2) ∧
    parse (String.ofList (indentLines 3 true "a: 1\r\n  b: 2\n'".toList)) =
      .error (.unexpectedIndent 2) ∧
    parse "   a: 1\n     b: 2\r\n   '\n" = .error (.unexpectedIndent 2) ∧
    parse "#'\n\na: 1\n \t#y\r\n  b: 2\n'\n\r" = .error (.unexpectedIndent 5) ∧
    (lines "#'\n\na: 1\n \t#y\r\n  b: 2\n'\n\r".toList)[4]? = some "  b: 2".toList ∧
    ∃ block' : String,
      lines block'.toList = pad gapsSample (lines "a: 1\r\n  b: 2\n'".toList) := by
  obtain ⟨hindent, hindented, hpadded, hexists⟩ := parse_layout "a: 1\r\n  b: 2\n'"
  have hparse : parse "a: 1\r\n  b: 2\n'" = .error (.unexpectedIndent 2) := by cbv
  obtain ⟨hmoved, hplace⟩ := hpadded gapsSample "#'\n\na: 1\n \t#y\r\n  b: 2\n'\n\r"
    (fun i raw hraw => (spacer_gapsSample i raw hraw).1) (by decide +kernel)
  refine ⟨hparse, (hindent 3).trans hparse, ?_, ?_, hplace 1 _ (by decide +kernel),
    hexists gapsSample fun i raw hraw => (spacer_gapsSample i raw hraw).2⟩
  · exact (hindented 3 _ (by decide +kernel)).trans hparse
  · rw [hmoved, hparse]
    rfl

end Settings

end Keyplan
