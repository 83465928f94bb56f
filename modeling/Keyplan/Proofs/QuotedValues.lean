import Keyplan.Proofs.BlockStyle
import Keyplan.Proofs.CommentStart
import Keyplan.Regex.Engine

/-!
# Values in double quotes

A text between double quotes is read back by the reader of values (`Text.readDouble_escape`). The
reader of comments has looked at the line before, and takes a quote of the text for its end though a
backslash stands in front. `Text.Exposed` says when a `#` of the text is then taken for a comment;
what is left of the value has no end (`Text.readDouble_of_isPrefix`). The main statement is
`parse_escape`.
-/

namespace Keyplan

namespace Text

/-- A `#` of the text stands behind a blank that is written as it is, and where no quote seems open:
the quotes before it are in pairs together with the one in front of the text. -/
def Exposed (s : List Char) : Prop :=
  ∃ front back c, s = front ++ '#' :: back ∧ Line.Paired ('"' :: front) ∧
    front.getLast? = some c ∧ isBlank c = true ∧ c ≠ '\n' ∧ c ≠ '\t'

/-- The characters that are written with a backslash, and what stands behind it. -/
def escapes : List (Char × Char) :=
  [('\\', '\\'), ('"', '"'), ('\n', 'n'), ('\t', 't')]

/-- A character is escaped by a backslash and its letter, or stands for itself. -/
lemma escape_cons_cases (c : Char) :
    (∃ d, (c, d) ∈ escapes ∧ ∀ cs, escape (c :: cs) = '\\' :: d :: escape cs) ∨
      (c ∉ escapes.map Prod.fst ∧ ∀ cs, escape (c :: cs) = c :: escape cs) := by
  by_cases h : c ∈ escapes.map Prod.fst
  · left
    simp only [escapes, List.map_cons, List.map_nil, List.mem_cons, List.not_mem_nil, or_false] at h
    rcases h with rfl | rfl | rfl | rfl
    · exact ⟨'\\', by decide, fun _ => rfl⟩
    · exact ⟨'"', by decide, fun _ => rfl⟩
    · exact ⟨'n', by decide, fun _ => rfl⟩
    · exact ⟨'t', by decide, fun _ => rfl⟩
  · right
    refine ⟨h, fun cs => ?_⟩
    simp only [escapes, List.map_cons, List.map_nil, List.mem_cons, List.not_mem_nil, or_false,
      not_or] at h
    obtain ⟨hslash, hquote, hfeed, htab⟩ := h
    rw [escape]
    · exact hslash
    · exact hquote
    · exact hfeed
    · exact htab

/-- The letter of an escape is read as its character, and it is no blank and no hash. -/
lemma escapes_spec {c d : Char} (h : (c, d) ∈ escapes) :
    unescape d = c ∧ d ≠ '#' ∧ d ≠ '\n' ∧ isBlank d = false ∧
      (isBlank c = true → c = '\n' ∨ c = '\t') := by
  simp only [escapes, List.mem_cons, Prod.mk.injEq, List.not_mem_nil, or_false] at h
  rcases h with ⟨rfl, rfl⟩ | ⟨rfl, rfl⟩ | ⟨rfl, rfl⟩ | ⟨rfl, rfl⟩ <;> decide

/-- Blanks are cut off once and for all. -/
lemma trimRight_trimRight (cs : List Char) : trimRight (trimRight cs) = trimRight cs := by
  rw [trimRight, trimRight, List.reverse_reverse, List.dropWhile_idempotent]

/-- Texts are escaped one by one. -/
lemma escape_append (as bs : List Char) : escape (as ++ bs) = escape as ++ escape bs := by
  induction as with
  | nil => rfl
  | cons c as ih =>
    rcases escape_cons_cases c with ⟨d, -, hc⟩ | ⟨-, hc⟩
    · rw [List.cons_append, hc, hc, ih, List.cons_append, List.cons_append]
    · rw [List.cons_append, hc, hc, ih, List.cons_append]

/-- An escaped text is one line. -/
lemma newline_notMem_escape (s : List Char) : '\n' ∉ escape s := by
  induction s with
  | nil => exact List.not_mem_nil
  | cons c s ih =>
    rcases escape_cons_cases c with ⟨d, hd, hc⟩ | ⟨hplain, hc⟩
    · have hne := (escapes_spec hd).2.2.1
      rw [hc]
      simp [ih, Ne.symm hne]
    · have hne : c ≠ '\n' := by
        rintro rfl
        exact hplain (by decide)
      rw [hc]
      simp [ih, Ne.symm hne]

/-! ## Reading back -/

/-- A character that is no quote and no backslash is read as it stands. -/
lemma readDouble_cons_of_ne {c : Char} (hquote : c ≠ '"') (hslash : c ≠ '\\') (cs : List Char) :
    readDouble (c :: cs) = (readDouble cs).map fun (s, rest) => (c :: s, rest) := by
  rw [readDouble]
  · exact hquote
  · exact fun h _ => hslash h
  · exact fun _ _ h _ => hslash h

/-- A character without an escape is no quote and no backslash. -/
lemma ne_of_notMem_escapes {c : Char} (h : c ∉ escapes.map Prod.fst) : c ≠ '"' ∧ c ≠ '\\' := by
  constructor <;> rintro rfl <;> exact h (by decide)

/-- A text between double quotes is read back, whatever follows it. -/
theorem readDouble_escape (s rest : List Char) :
    readDouble (escape s ++ '"' :: rest) = some (s, rest) := by
  induction s with
  | nil => rfl
  | cons c s ih =>
    rcases escape_cons_cases c with ⟨d, hd, hc⟩ | ⟨hplain, hc⟩
    · rw [hc]
      show (readDouble (escape s ++ '"' :: rest)).map _ = _
      rw [ih, ← (escapes_spec hd).1]
      rfl
    · obtain ⟨hquote, hslash⟩ := ne_of_notMem_escapes hplain
      rw [hc, List.cons_append, readDouble_cons_of_ne hquote hslash, ih]
      rfl

/-- Between its quotes a text holds no closing quote, also if it is cut off. -/
theorem readDouble_of_isPrefix {s cs : List Char} (h : cs <+: escape s) : readDouble cs = none := by
  induction s generalizing cs with
  | nil =>
    cases List.prefix_nil.1 h
    rfl
  | cons c s ih =>
    rcases escape_cons_cases c with ⟨d, -, hc⟩ | ⟨hplain, hc⟩
    · rw [hc] at h
      rcases List.prefix_cons_iff.1 h with rfl | ⟨_, rfl, htail⟩
      · rfl
      rcases List.prefix_cons_iff.1 htail with rfl | ⟨cs, rfl, hcs⟩
      · rfl
      show (readDouble cs).map _ = none
      rw [ih hcs]
      rfl
    · obtain ⟨hquote, hslash⟩ := ne_of_notMem_escapes hplain
      rw [hc] at h
      rcases List.prefix_cons_iff.1 h with rfl | ⟨cs, rfl, hcs⟩
      · rfl
      rw [readDouble_cons_of_ne hquote hslash, ih hcs]
      rfl

/-! ## Comments in a text -/

/-- A `#` between the quotes is one of the text. -/
lemma exists_of_escape_eq {s front back : List Char} (h : escape s = front ++ '#' :: back) :
    ∃ f b, s = f ++ '#' :: b ∧ front = escape f := by
  induction s generalizing front with
  | nil => cases front <;> cases h
  | cons c s ih =>
    rcases escape_cons_cases c with ⟨d, hd, hc⟩ | ⟨-, hc⟩
    · rw [hc] at h
      match front, h with
      | [], h => cases h
      | [_], h => exact absurd (List.cons.inj (List.cons.inj h).2).1 (escapes_spec hd).2.1
      | _ :: _ :: front, h =>
        obtain ⟨rfl, htail⟩ := List.cons_eq_cons.1 h
        obtain ⟨rfl, hrest⟩ := List.cons_eq_cons.1 htail
        obtain ⟨f, b, hs, hf⟩ := ih hrest
        exact ⟨c :: f, b, by rw [hs]; rfl, by rw [hc, hf]⟩
    · rw [hc] at h
      cases front with
      | nil =>
        obtain ⟨rfl, -⟩ := List.cons_eq_cons.1 h
        exact ⟨[], s, rfl, rfl⟩
      | cons _ front =>
        obtain ⟨rfl, hrest⟩ := List.cons_eq_cons.1 h
        obtain ⟨f, b, hs, hf⟩ := ih hrest
        exact ⟨c :: f, b, by rw [hs]; rfl, by rw [hc, hf]⟩

end Text

namespace Line
open Text

/-- What stands behind a backslash changes the open quote as the character itself does. -/
lemma quoteStep_escapes {quote : Option Char} (hquote : ∀ q ∈ quote, q = '"' ∨ q = '\'')
    {c d : Char} (h : (c, d) ∈ escapes) :
    quoteStep (quoteStep quote '\\') d = quoteStep quote c := by
  have hcases : quote = none ∨ quote = some '"' ∨ quote = some '\'' := by
    cases quote with
    | none => exact .inl rfl
    | some q => exact .inr ((hquote q rfl).imp (congrArg some) (congrArg some))
  simp only [escapes, List.mem_cons, Prod.mk.injEq, List.not_mem_nil, or_false] at h
  rcases hcases with rfl | rfl | rfl <;>
    rcases h with ⟨rfl, rfl⟩ | ⟨rfl, rfl⟩ | ⟨rfl, rfl⟩ | ⟨rfl, rfl⟩ <;> rfl

/-- The reader of comments follows the quotes of a text through its backslashes. -/
lemma quoteAfter_escape {quote : Option Char} (hquote : ∀ q ∈ quote, q = '"' ∨ q = '\'')
    (s : List Char) : quoteAfter quote (escape s) = quoteAfter quote s := by
  induction s generalizing quote with
  | nil => rfl
  | cons c s ih =>
    rcases escape_cons_cases c with ⟨d, hd, hc⟩ | ⟨-, hc⟩
    · rw [hc, quoteAfter_cons, quoteAfter_cons, quoteAfter_cons, quoteStep_escapes hquote hd]
      exact ih (mem_quoteStep hquote c)
    · rw [hc, quoteAfter_cons, quoteAfter_cons]
      exact ih (mem_quoteStep hquote c)

/-- A comment may start behind a text that ends with a blank. -/
lemma freshAfter_concat (fresh : Bool) (cs : List Char) (c : Char) :
    freshAfter fresh (cs ++ [c]) = isBlank c := by
  simp [freshAfter]

/-- A comment may start behind an escaped text whose last character is a blank without an escape. -/
lemma freshAfter_escape {s : List Char} :
    freshAfter false (escape s) = true ↔
      ∃ c, s.getLast? = some c ∧ isBlank c = true ∧ c ≠ '\n' ∧ c ≠ '\t' := by
  rcases List.eq_nil_or_concat s with rfl | ⟨s, c, rfl⟩
  · simp [escape, freshAfter]
  · rw [List.concat_eq_append, escape_append, List.getLast?_concat]
    rcases escape_cons_cases c with ⟨d, hd, hc⟩ | ⟨hplain, hc⟩
    · obtain ⟨-, -, -, hd, hc'⟩ := escapes_spec hd
      have hlast : escape s ++ escape [c] = (escape s ++ ['\\']) ++ [d] := by
        rw [hc]
        simp [escape]
      rw [hlast, freshAfter_concat, hd]
      constructor
      · nofun
      · rintro ⟨_, h, hblank, hfeed, htab⟩
        cases h
        exact absurd (hc' hblank) (by simp [hfeed, htab])
    · have hlast : escape [c] = [c] := hc []
      rw [hlast, freshAfter_concat]
      constructor
      · intro hblank
        refine ⟨c, rfl, hblank, ?_, ?_⟩ <;> rintro rfl <;> exact hplain (by decide)
      · rintro ⟨_, h, hblank, -, -⟩
        cases h
        exact hblank

/-- A comment starts in a text between double quotes if and only if one of its `#` is exposed. -/
lemma stripComment_escape_iff {s : List Char} :
    stripComment (some '"') false (escape s) = escape s ↔ ¬ Exposed s := by
  have hquote : ∀ q ∈ some '"', q = '"' ∨ q = '\'' := by
    rintro _ ⟨⟩
    exact .inl rfl
  have hpaired : ∀ f, quoteAfter (some '"') (escape f) = none ↔ Paired ('"' :: f) := by
    intro f
    rw [quoteAfter_escape hquote, paired_iff]
    rfl
  rw [stripComment_eq_self_iff]
  constructor
  · rintro h ⟨f, b, c, rfl, hf, hc, hblank⟩
    refine h (escape f) (escape b) ?_ ⟨(hpaired f).2 hf, freshAfter_escape.2 ⟨c, hc, hblank⟩⟩
    rw [escape_append]
    simp [escape]
  · intro h front back hescape hbare
    obtain ⟨f, b, hs, rfl⟩ := exists_of_escape_eq hescape
    obtain ⟨c, hc, hblank⟩ := freshAfter_escape.1 hbare.2
    exact h ⟨f, b, c, hs, (hpaired f).1 hbare.1, hc, hblank⟩

end Line

namespace Scalar
open Text

/-- In front of a quote nothing is cut. -/
lemma trim_quote (cs : List Char) : trim ('"' :: cs) = '"' :: trimRight cs := by
  have hcs : trimRight ('"' :: cs) = '"' :: trimRight cs := trimRight_append_cons rfl [] cs
  rw [trim, hcs, trimLeft_cons rfl]

/-- A scalar behind a double quote is read up to the closing one. -/
lemma read_quote [PatternEngine] (line : Nat) (cs : List Char) :
    read line ('"' :: cs) =
      match readDouble (trimRight cs) with
      | some (s, rest) =>
        if (trim rest).isEmpty then .ok (.str (String.ofList s))
        else .error (.invalidLine line (.unexpectedText (String.ofList (trim rest))))
      | none => .error (.invalidLine line .unterminatedDouble) := by
  have htag : ('"' :: trimRight cs) ≠ patternTag := by simp [patternTag]
  unfold read
  simp only [trim_quote]
  exact if_neg htag

/-- Blanks at the end make no difference to a quoted scalar. -/
lemma read_trimRight [PatternEngine] (line : Nat) (cs : List Char) :
    read line ('"' :: trimRight cs) = read line ('"' :: cs) := by
  rw [read_quote, read_quote, trimRight_trimRight]

/-- The reader of values reads a text between double quotes back. -/
lemma read_escape [PatternEngine] (line : Nat) (s : List Char) :
    read line ('"' :: (escape s ++ ['"'])) = .ok (.str (String.ofList s)) := by
  rw [read_quote, trimRight_concat rfl, readDouble_escape]
  rfl

/-- A quoted scalar behind its key is an entry. -/
lemma splitKey?_quote (cs : List Char) :
    splitKey? ('k' :: ':' :: ' ' :: '"' :: cs) = some ("k", '"' :: trimRight cs) := by
  have hkey : readKey? ('k' :: ':' :: ' ' :: '"' :: cs) = some (['k'], ':' :: ' ' :: '"' :: cs) :=
    rfl
  rw [splitKey?, if_neg (by simp), hkey, ← trim_quote]
  rfl

end Scalar

/-- A single line with a key and a value behind it. -/
lemma Outline.read?_entry [PatternEngine] {line : Line} {key : String} {rest : List Char}
    (hitem : line.isItem = false) (hkey : Scalar.splitKey? line.text = some (key, rest))
    (hrest : rest.isEmpty = false) :
    read? [line] = (Scalar.read line.number rest).map fun v => some (.map [(key, v)]) := by
  simp only [read?, start, Container.openAt, Container.readEntry, hitem, hkey, hrest]
  cases Scalar.read line.number rest <;> rfl

namespace Settings
open Text Line

/-- The content of the line is what is left of the quoted scalar without its comment. -/
lemma content_quote (cs : List Char) :
    content ('k' :: ':' :: ' ' :: '"' :: cs) =
      'k' :: ':' :: ' ' :: '"' :: trimRight (stripComment (some '"') false cs) := by
  have hstrip : stripComment none true ('k' :: ':' :: ' ' :: '"' :: cs) =
      ['k', ':', ' '] ++ '"' :: stripComment (some '"') false cs := by
    simp [stripComment, isBlank, blankRanges, Ranges.has]
  rw [content, hstrip, trimRight_append_cons rfl]
  rfl

/-- The settings of one line whose value opens a double quote: a comment is cut off, and what is
left is the value. -/
lemma read_quote [PatternEngine] {cs : List Char} (h : '\n' ∉ cs) :
    read ('k' :: ':' :: ' ' :: '"' :: cs) =
      (Scalar.read 1 ('"' :: stripComment (some '"') false cs)).map fun v => ⟨[("k", v)]⟩ := by
  have hlines : Text.lines ('k' :: ':' :: ' ' :: '"' :: cs) = ['k' :: ':' :: ' ' :: '"' :: cs] :=
    lines_of_newline (List.cons_ne_nil _ _) (by simpa using h)
  have hblock : Line.ofBlock ('k' :: ':' :: ' ' :: '"' :: cs) =
      .ok [⟨1, 0, 'k' :: ':' :: ' ' :: '"' :: trimRight (stripComment (some '"') false cs)⟩] := by
    rw [Line.ofBlock, hlines, ofRaws, ofRaw, content_quote]
    rfl
  rw [read, hblock]
  simp only
  rw [Outline.read?_entry rfl (Scalar.splitKey?_quote _) rfl, Scalar.read_trimRight,
    Scalar.read_trimRight]
  cases Scalar.read 1 ('"' :: stripComment (some '"') false cs) <;> rfl

/-- The reader of values reads every text between double quotes back. The settings hold it as the
value of its key if and only if no `#` of it is exposed; otherwise the line is cut off there, and
the value has no end. -/
theorem parse_escape [PatternEngine] (s : String) :
    (∀ line, Scalar.read line ('"' :: (escape s.toList ++ ['"'])) = .ok (.str s)) ∧
    (parse ("k: \"" ++ String.ofList (escape s.toList) ++ "\"") = .ok ⟨[("k", .str s)]⟩ ↔
      ¬ Exposed s.toList) ∧
    (Exposed s.toList →
      parse ("k: \"" ++ String.ofList (escape s.toList) ++ "\"") =
        .error (.invalidLine 1 .unterminatedDouble)) := by
  have hvalue : ∀ line, Scalar.read line ('"' :: (escape s.toList ++ ['"'])) = .ok (.str s) := by
    intro line
    rw [Scalar.read_escape, String.ofList_toList]
  have hparse : parse ("k: \"" ++ String.ofList (escape s.toList) ++ "\"") =
      (Scalar.read 1 ('"' :: stripComment (some '"') false (escape s.toList ++ ['"']))).map
        fun v => ⟨[("k", v)]⟩ := by
    have hnewline : '\n' ∉ escape s.toList ++ ['"'] := by
      simp [newline_notMem_escape]
    rw [← read_quote hnewline, parse]
    simp
  have hcut : Exposed s.toList →
      parse ("k: \"" ++ String.ofList (escape s.toList) ++ "\"") =
        .error (.invalidLine 1 .unterminatedDouble) := by
    intro hexposed
    have hne : stripComment (some '"') false (escape s.toList) ≠ escape s.toList :=
      fun h => stripComment_escape_iff.1 h hexposed
    have hprefix := (trimRight_isPrefix _).trans
      (stripComment_isPrefix (some '"') false (escape s.toList))
    rw [hparse, stripComment_append_of_ne hne, Scalar.read_quote, readDouble_of_isPrefix hprefix]
    rfl
  refine ⟨hvalue, ⟨?_, ?_⟩, hcut⟩
  · intro hok hexposed
    cases hok.symm.trans (hcut hexposed)
  · intro hexposed
    have hlast : ∀ quote fresh, stripComment quote fresh ['"'] = ['"'] := by
      intro quote fresh
      rw [stripComment_cons (by simp), stripComment]
    rw [hparse, stripComment_append (stripComment_escape_iff.2 hexposed), hlast, hvalue]
    rfl

/-- With two quotes before its `#` the text is read back, with one it is not. -/
theorem parse_escape_samples :
    parse ("k: \"" ++ String.ofList (escape "a \"b\" # c".toList) ++ "\"") =
      .ok ⟨[("k", .str "a \"b\" # c")]⟩ ∧
    parse ("k: \"" ++ String.ofList (escape "a \"b # c".toList) ++ "\"") =
      .error (.invalidLine 1 .unterminatedDouble) := by
  obtain ⟨-, hok, -⟩ := parse_escape "a \"b\" # c"
  obtain ⟨-, -, hcut⟩ := parse_escape "a \"b # c"
  have hpaired : Paired ('"' :: "a \"b ".toList) := paired_iff.2 rfl
  exact ⟨hok.2 (stripComment_escape_iff.1 rfl),
    hcut ⟨_, " c".toList, ' ', rfl, hpaired, rfl, rfl, by decide, by decide⟩⟩

/-- The text `" #` is not read back from between its quotes. -/
theorem parse_escape_cut :
    String.ofList (escape "\" #".toList) = "\\\" #" ∧
    parse ("k: \"" ++ String.ofList (escape "\" #".toList) ++ "\"") =
      .error (.invalidLine 1 .unterminatedDouble) :=
  ⟨rfl, rfl⟩

end Settings

end Keyplan
