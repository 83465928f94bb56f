import Keyplan.Proofs.BlockStyle
import Keyplan.Proofs.CommentStart
import Keyplan.Regex.Engine

/-!
# Comments at the end of a line

A line of a block is put down as what is before it, the line and what is behind it
(`Text.IsLine`). Only the content of a line goes on from the splitting into lines
(`Line.ofBlock_congr`), so that the question is one about a single line: the comment is cut off it
again if the quotes of the line are in pairs (`Line.content_comment`), and is kept as a part of the
text if they are not (`Line.content_comment_of_not_paired`). An apostrophe in plain text counts as
a quote here, and so does a quote behind a backslash. The main statement is
`Settings.parse_trailing_comment`.
-/

namespace Keyplan

namespace Text

/-- The text `front ++ line ++ back` has `line` on a line. It may be the last one, and what ends it
may be a line feed or a carriage return and a line feed. -/
structure IsLine (front line back : List Char) : Prop where
  newline : '\n' ∉ line
  before : front = [] ∨ ∃ cs, front = cs ++ ['\n']
  behind : back = [] ∨ (∃ cs, back = '\n' :: cs) ∨ ∃ cs, back = '\r' :: '\n' :: cs

/-- The lines of a text are those up to a line break and those behind it. -/
lemma lines_append (front rest : List Char) :
    lines (front ++ '\n' :: rest) = lines (front ++ ['\n']) ++ lines rest := by
  induction hlength : front.length using Nat.strongRecOn generalizing front with
  | ind n ih =>
    subst hlength
    by_cases hmem : '\n' ∈ front
    · obtain ⟨line, front, rfl, hline⟩ := List.eq_append_cons_of_mem hmem
      obtain ⟨raw, -, hlines⟩ := exists_lines_append hline
      have hshort : front.length < (line ++ '\n' :: front).length := by
        simp
        omega
      rw [List.append_assoc, List.cons_append, hlines, List.append_assoc, List.cons_append, hlines,
        ih _ hshort front rfl, List.cons_append]
    · obtain ⟨raw, -, hlines⟩ := exists_lines_append hmem
      rw [hlines, hlines]
      rfl

end Text

namespace Line
open Text

/-! ## Content -/

/-- A carriage return at the end of a line is no content. -/
lemma content_return (cs : List Char) : content (cs ++ ['\r']) = content cs := by
  by_cases h : stripComment none true cs = cs
  · have hlast : stripComment (quoteAfter none cs) (freshAfter true cs) ['\r'] = ['\r'] := by
      rw [stripComment_cons (by simp), stripComment]
    rw [content, content, stripComment_append h, hlast, h]
    exact trimRight_append (List.forall_mem_singleton.2 rfl) cs
  · rw [content, content, stripComment_append_of_ne h]

/-- A comment behind a line is cut off if no quote of the line is open or the line has a comment of
its own. -/
lemma content_comment {line : List Char} (h : Paired line ∨ stripComment none true line ≠ line)
    (c : List Char) : content (line ++ ' ' :: '#' :: c) = content line := by
  by_cases hline : stripComment none true line = line
  · have hpaired : quoteAfter none line = none := paired_iff.1 (h.resolve_right (absurd hline))
    have hcut : stripComment none (freshAfter true line) (' ' :: '#' :: c) = [' '] := by
      rw [stripComment_cons (by simp)]
      exact congrArg _ (stripComment_mark c)
    rw [content, content, stripComment_append hline, hpaired, hcut, hline]
    exact trimRight_append (List.forall_mem_singleton.2 rfl) line
  · rw [content, content, stripComment_append_of_ne hline]

/-- A comment behind an open quote is kept. -/
lemma content_comment_of_not_paired {line : List Char} (hline : stripComment none true line = line)
    (h : ¬ Paired line) (c : List Char) :
    ∃ kept, kept <+: c ∧
      content (line ++ ' ' :: '#' :: c) = line ++ ' ' :: '#' :: kept := by
  obtain ⟨q, hq⟩ : ∃ q, quoteAfter none line = some q := by
    rw [paired_iff] at h
    exact Option.ne_none_iff_exists'.1 h
  have hquote : q = '"' ∨ q = '\'' := mem_quoteAfter (by simp) line q hq
  have hspace : ' ' ≠ q := by rcases hquote with rfl | rfl <;> decide
  have hmark : '#' ≠ q := by rcases hquote with rfl | rfl <;> decide
  have hkept : stripComment (some q) (freshAfter true line) (' ' :: '#' :: c) =
      ' ' :: '#' :: stripComment (some q) false c := by
    rw [stripComment_cons (by simp), quoteStep_some hspace, stripComment_cons (by simp),
      quoteStep_some hmark]
    rfl
  refine ⟨trimRight (stripComment (some q) false c),
    (trimRight_isPrefix _).trans (stripComment_isPrefix _ _ _), ?_⟩
  rw [content, stripComment_append hline, hq, hkept]
  have hends := trimRight_append_cons (c := '#') rfl (line ++ [' ']) (stripComment (some q) false c)
  simpa using hends

/-! ## Lines with the same content -/

/-- Of a first line only the content counts. -/
lemma ofRaws_cons_congr {raw raw' : List Char} (h : content raw = content raw') (number : Nat)
    (raws : List (List Char)) : ofRaws number (raw :: raws) = ofRaws number (raw' :: raws) := by
  have hraw : ofRaw number raw = ofRaw number raw' := by rw [ofRaw, ofRaw, h]
  rw [ofRaws, ofRaws, hraw]

/-- Lines behind the same lines read alike if they read alike alone. -/
lemma ofRaws_append_congr {raws raws' : List (List Char)}
    (h : ∀ number, ofRaws number raws = ofRaws number raws') (front : List (List Char))
    (number : Nat) : ofRaws number (front ++ raws) = ofRaws number (front ++ raws') := by
  induction front generalizing number with
  | nil => exact h number
  | cons raw front ih => rw [List.cons_append, List.cons_append, ofRaws, ofRaws, ih]

-- The empty text has no lines; an empty line would be left out.
/-- A line break or none at the end makes no difference to a line. -/
lemma ofRaws_lines {line : List Char} (h : '\n' ∉ line) (number : Nat) :
    ofRaws number (lines line) = ofRaws number [line] := by
  by_cases hne : line = []
  · subst hne
    rfl
  · rw [lines_of_newline hne h]

/-- The text up to a line break is a line with the same content. -/
lemma exists_lines_of_newline {line : List Char} (h : '\n' ∉ line) :
    ∃ raw, content raw = content line ∧
      ∀ rest, lines (line ++ '\n' :: rest) = raw :: lines rest := by
  obtain ⟨raw, hraw, hlines⟩ := exists_lines_append h
  refine ⟨raw, ?_, hlines⟩
  rcases hraw with rfl | rfl
  · rfl
  · exact (content_return raw).symm

/-- Of a line in front of others only the content counts. -/
lemma ofRaws_lines_congr {line line' : List Char} (hcontent : content line = content line')
    (h : '\n' ∉ line) (h' : '\n' ∉ line') (number : Nat) (rest : List Char) :
    ofRaws number (lines (line ++ '\n' :: rest)) =
      ofRaws number (lines (line' ++ '\n' :: rest)) := by
  obtain ⟨raw, hraw, hlines⟩ := exists_lines_of_newline h
  obtain ⟨raw', hraw', hlines'⟩ := exists_lines_of_newline h'
  rw [hlines, hlines']
  exact ofRaws_cons_congr (by rw [hraw, hraw', hcontent]) number (lines rest)

/-- Of a line of a block only its content is read. -/
theorem ofBlock_congr {front line line' back : List Char} (h : IsLine front line back)
    (h' : IsLine front line' back) (hcontent : content line = content line') :
    ofBlock (front ++ (line ++ back)) = ofBlock (front ++ (line' ++ back)) := by
  have hback : ∀ number,
      ofRaws number (lines (line ++ back)) = ofRaws number (lines (line' ++ back)) := by
    intro number
    rcases h.behind with rfl | ⟨rest, rfl⟩ | ⟨rest, rfl⟩
    · rw [List.append_nil, List.append_nil, ofRaws_lines h.newline, ofRaws_lines h'.newline]
      exact ofRaws_cons_congr hcontent number []
    · exact ofRaws_lines_congr hcontent h.newline h'.newline number rest
    · -- The carriage return is taken as a blank at the end of the line.
      have hreturn : content (line ++ ['\r']) = content (line' ++ ['\r']) := by
        rw [content_return, content_return, hcontent]
      have hlines := ofRaws_lines_congr hreturn (by simpa using h.newline)
        (by simpa using h'.newline) number rest
      rwa [List.append_assoc, List.append_assoc] at hlines
  rw [ofBlock, ofBlock]
  rcases h.before with rfl | ⟨cs, rfl⟩
  · exact hback 1
  · rw [List.append_assoc, List.append_assoc, List.singleton_append, List.singleton_append,
      lines_append, lines_append cs (line' ++ back)]
    exact ofRaws_append_congr hback _ 1

end Line

namespace Settings
open Text Line

/-- A comment that is put behind a line of a block changes nothing if the quotes of the line are in
pairs, or if the line has a comment already. Otherwise the reader takes the comment for text. -/
theorem parse_trailing_comment [PatternEngine] {front line back c : String}
    (hline : IsLine front.toList line.toList back.toList) (hc : '\n' ∉ c.toList) :
    (Paired line.toList ∨ stripComment none true line.toList ≠ line.toList →
      parse (front ++ line ++ " #" ++ c ++ back) = parse (front ++ line ++ back)) ∧
    (¬ Paired line.toList → stripComment none true line.toList = line.toList →
      ∃ kept, kept <+: c.toList ∧
        content (line ++ " #" ++ c).toList = (line ++ " #").toList ++ kept) := by
  have htext : (line ++ " #" ++ c).toList = line.toList ++ ' ' :: '#' :: c.toList := by simp
  refine ⟨fun hcut => ?_, fun hopen huncut => ?_⟩
  · have hline' : IsLine front.toList (line ++ " #" ++ c).toList back.toList := by
      refine ⟨?_, hline.before, hline.behind⟩
      rw [htext]
      simpa using ⟨hline.newline, hc⟩
    have hcontent : content (line ++ " #" ++ c).toList = content line.toList := by
      rw [htext]
      exact content_comment hcut c.toList
    have hblock := ofBlock_congr hline' hline hcontent
    have hleft : (front ++ line ++ " #" ++ c ++ back).toList =
        front.toList ++ ((line ++ " #" ++ c).toList ++ back.toList) := by simp
    have hright : (front ++ line ++ back).toList =
        front.toList ++ (line.toList ++ back.toList) := by simp
    rw [parse, parse, read, read, hleft, hright, hblock]
  · obtain ⟨kept, hkept, hcontent⟩ := content_comment_of_not_paired huncut hopen c.toList
    refine ⟨kept, hkept, ?_⟩
    rw [htext, hcontent]
    simp

/-- Behind quotes in pairs a comment may hold anything, also on a line within a block; behind an
apostrophe it stays with the line. -/
theorem parse_trailing_comment_samples :
    parse ("a:\n" ++ "  'b': [\"c #\"]" ++ " #" ++ " it's" ++ "\r\n") =
      .ok ⟨[("a", .map [("b", .seq [.str "c #"])])]⟩ ∧
    ∃ kept, kept <+: " c".toList ∧
      content ("k: don't" ++ " #" ++ " c").toList = ("k: don't" ++ " #").toList ++ kept := by
  have hinner : IsLine "a:\n".toList "  'b': [\"c #\"]".toList "\r\n".toList :=
    ⟨by decide, .inr ⟨"a:".toList, rfl⟩, .inr (.inr ⟨[], rfl⟩)⟩
  have honly : IsLine "".toList "k: don't".toList "".toList :=
    ⟨by decide, .inl rfl, .inl rfl⟩
  obtain ⟨hsame, -⟩ := parse_trailing_comment (c := " it's") hinner (by decide)
  obtain ⟨-, hkept⟩ := parse_trailing_comment (c := " c") honly (by decide)
  have hopen : ¬ Paired "k: don't".toList := by
    rw [paired_iff]
    decide
  refine ⟨?_, hkept hopen rfl⟩
  rw [hsame (.inl (paired_iff.2 rfl))]
  cbv

/-- Lines without a comment, in plain text and in double quotes, that a comment changes. -/
theorem parse_trailing_comment_kept :
    stripComment none true "k: don't".toList = "k: don't".toList ∧
    parse "k: don't" = .ok ⟨[("k", .str "don't")]⟩ ∧
    parse "k: don't # c" = .ok ⟨[("k", .str "don't # c")]⟩ ∧
    parse "k: \"a\\\"b\"" = .ok ⟨[("k", .str "a\"b")]⟩ ∧
    parse "k: \"a\\\"b\" # c" = .error (.invalidLine 1 (.unexpectedText "# c")) :=
  ⟨rfl, rfl, rfl, rfl, rfl⟩

end Settings

end Keyplan
