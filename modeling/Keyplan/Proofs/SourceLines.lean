import Keyplan.Settings.Scalar
import Keyplan.Proofs.CommentStart
import Mathlib

/-!
# Where the lines of a block come from

A raw line is idle if nothing but blanks is left of it without its comment. The other raw lines are
the lines of a block (`ofRaws_eq_ok`): each of them starts at the byte that its indentation says and
ends before the comment (`CutFrom`), and so does what is left of a line without the mark of an item
(`CutFrom.itemBody`). What follows a key on a line is a part of it (`isInfix_of_splitKey?`). Where a
block has no lines, it is because of a tab in front of one that is not idle (`ofRaws_eq_error`).
-/

namespace Keyplan

namespace Text

/-- What is cut in front of a text stood there. -/
lemma exists_trimLeft_eq (cs : List Char) : ∃ lead, cs = lead ++ trimLeft cs :=
  ⟨cs.takeWhile isBlank, List.takeWhile_append_dropWhile.symm⟩

/-- Nothing is left behind the blanks in front if all are blanks. -/
lemma trimLeft_eq_nil_iff {cs : List Char} : trimLeft cs = [] ↔ ∀ c ∈ cs, isBlank c = true := by
  rw [trimLeft, List.dropWhile_eq_nil_iff]

/-- Nothing is left in front of the blanks at the end if all are blanks. -/
lemma trimRight_eq_nil_iff {cs : List Char} : trimRight cs = [] ↔ ∀ c ∈ cs, isBlank c = true := by
  rw [trimRight, List.reverse_eq_nil_iff, List.dropWhile_eq_nil_iff]
  simp

/-- A trimmed text stands in the text. -/
lemma trim_isInfix (cs : List Char) : trim cs <:+: cs := by
  obtain ⟨lead, hlead⟩ := exists_trimLeft_eq (trimRight cs)
  obtain ⟨tail, htail⟩ := trimRight_isPrefix cs
  exact ⟨lead, tail, by rw [trim, ← hlead, htail]⟩

/-- Reading a text in double quotes leaves the end of what was there. -/
lemma isSuffix_of_readDouble {cs s rest : List Char} (h : readDouble cs = some (s, rest)) :
    rest <:+ cs := by
  fun_induction readDouble cs generalizing s with
  | case1 => cases h
  | case2 cs =>
    cases h
    exact List.suffix_cons _ _
  | case3 => cases h
  | case4 c cs ih =>
    obtain ⟨⟨s', rest'⟩, hread, heq⟩ := Option.map_eq_some_iff.1 h
    cases heq
    exact ((ih hread).trans (List.suffix_cons _ _)).trans (List.suffix_cons _ _)
  | case5 c cs _ _ _ ih =>
    obtain ⟨⟨s', rest'⟩, hread, heq⟩ := Option.map_eq_some_iff.1 h
    cases heq
    exact (ih hread).trans (List.suffix_cons _ _)

/-- Reading a text in single quotes leaves the end of what was there. -/
lemma isSuffix_of_readSingle {cs s rest : List Char} (h : readSingle cs = some (s, rest)) :
    rest <:+ cs := by
  fun_induction readSingle cs generalizing s with
  | case1 => cases h
  | case2 cs ih =>
    obtain ⟨⟨s', rest'⟩, hread, heq⟩ := Option.map_eq_some_iff.1 h
    cases heq
    exact ((ih hread).trans (List.suffix_cons _ _)).trans (List.suffix_cons _ _)
  | case3 cs _ =>
    cases h
    exact List.suffix_cons _ _
  | case4 c cs _ _ ih =>
    obtain ⟨⟨s', rest'⟩, hread, heq⟩ := Option.map_eq_some_iff.1 h
    cases heq
    exact (ih hread).trans (List.suffix_cons _ _)

end Text

namespace Scalar
open Text

/-- Reading a key leaves the end of what was there. -/
lemma isSuffix_of_readKey? {cs key rest : List Char} (h : readKey? cs = some (key, rest)) :
    rest <:+ cs := by
  unfold readKey? at h
  split at h
  · exact (isSuffix_of_readDouble h).trans (List.suffix_cons _ _)
  · exact (isSuffix_of_readSingle h).trans (List.suffix_cons _ _)
  · split at h <;> cases h
    exact List.dropWhile_suffix _

/-- The text of a value is a part of the line with its key. -/
lemma isInfix_of_splitKey? {cs rest : List Char} {key : String}
    (h : splitKey? cs = some (key, rest)) : rest <:+: cs := by
  unfold splitKey? at h
  split at h
  · cases h
  · split at h
    · cases h
      exact List.nil_infix
    · next rest' hread =>
      cases h
      have hbehind : rest' <:+ cs := ((List.suffix_cons _ _).trans (List.suffix_cons _ _)).trans
        (isSuffix_of_readKey? hread)
      exact (trim_isInfix rest').trans hbehind.isInfix
    · cases h

end Scalar

namespace Line
open Text

/-- Nothing but blanks is left of the raw line without its comment. -/
def Idle (raw : List Char) : Prop :=
  ∀ c ∈ stripComment none true raw, isBlank c = true

/-- The line is a part of the raw line. It starts at the byte that its indentation says, so that
this byte is the first one of a character. -/
def CutFrom (raw : List Char) (line : Line) : Prop :=
  ∃ lead tail, raw = lead ++ line.text ++ tail ∧ size lead = line.indent

/-- A line is idle if its content is blank. -/
lemma idle_iff {raw : List Char} : Idle raw ↔ trimLeft (content raw) = [] := by
  rw [trimLeft_eq_nil_iff, Idle]
  constructor
  · intro h c hc
    exact h c ((trimRight_isPrefix _).subset hc)
  · intro h
    -- Behind the last character that is not blank there is none that is cut off by mistake.
    have hnil : trimRight (content raw) = [] := trimRight_eq_nil_iff.2 h
    rw [content, trimRight, trimRight, List.reverse_reverse, List.dropWhile_idempotent] at hnil
    exact trimRight_eq_nil_iff.1 hnil

/-- An idle line is none. -/
lemma ofRaw_of_idle {raw : List Char} (h : Idle raw) (number : Nat) :
    ofRaw number raw = .ok none := by
  have htext : (content raw).dropWhile isBlank = [] := idle_iff.1 h
  simp [ofRaw, htext]

/-- A line that is not idle is one, cut out of what was there, or has a tab in front. -/
lemma ofRaw_of_not_idle {raw : List Char} (h : ¬ Idle raw) (number : Nat) :
    ofRaw number raw = .error (.tabIndentation number) ∨
      ∃ line, ofRaw number raw = .ok (some line) ∧ line.number = number ∧ CutFrom raw line := by
  have htext : ((content raw).dropWhile isBlank).isEmpty = false := by
    rw [List.isEmpty_eq_false_iff]
    exact mt idle_iff.2 h
  rw [ofRaw]
  simp only [htext]
  by_cases htab : ((content raw).takeWhile isBlank).contains '\t' = true
  · left
    simp only [htab, if_true]
    rfl
  · right
    refine ⟨_, by rw [if_neg (by simp), if_neg htab], rfl, ?_⟩
    obtain ⟨tail, htail⟩ :=
      (trimRight_isPrefix _).trans (stripComment_isPrefix none true raw)
    refine ⟨(content raw).takeWhile isBlank, tail, ?_, rfl⟩
    rw [List.takeWhile_append_dropWhile]
    exact htail.symm

/-- The text of a line that was cut out stands in what it was cut from. -/
lemma CutFrom.isInfix {raw line} (h : CutFrom raw line) : line.text <:+: raw := by
  obtain ⟨lead, tail, rfl, -⟩ := h
  exact ⟨lead, tail, rfl⟩

/-- Without the mark of an item a line is still where its indentation says. -/
lemma CutFrom.itemBody {raw line} (h : CutFrom raw line) : CutFrom raw line.itemBody := by
  obtain ⟨lead, tail, rfl, hlead⟩ := h
  obtain ⟨blanks, hblanks⟩ := exists_trimLeft_eq (line.text.drop 1)
  have htext : line.text = line.text.take 1 ++ blanks ++ line.itemBody.text := by
    rw [List.append_assoc]
    exact (List.take_append_drop 1 line.text).symm.trans (congrArg _ hblanks)
  refine ⟨lead ++ (line.text.take 1 ++ blanks), tail, ?_, ?_⟩
  · rw [List.append_assoc lead (_ ++ blanks), ← htext]
  · have hsize := congrArg size htext
    rw [size_append] at hsize
    have hindent : line.itemBody.indent =
      line.indent + (size line.text - size line.itemBody.text) := rfl
    rw [size_append, hlead, hindent, hsize, Nat.add_sub_cancel_right]

/-- The lines of a block are its raw lines that are not idle. -/
lemma ofRaws_eq_ok {raws : List (List Char)} {number : Nat} {lines : List Line}
    (h : ofRaws number raws = .ok lines) :
    (∀ line ∈ lines, ∃ i raw, raws[i]? = some raw ∧ line.number = number + i ∧ ¬ Idle raw ∧
      CutFrom raw line) ∧
    ∀ i raw, raws[i]? = some raw → ¬ Idle raw → ∃ line ∈ lines, line.number = number + i := by
  induction raws generalizing number lines with
  | nil =>
    cases h
    simp
  | cons raw raws ih =>
    rw [ofRaws] at h
    cases hraw : ofRaw number raw with
    | error e => rw [hraw] at h; cases h
    | ok line? =>
      cases hrest : ofRaws (number + 1) raws with
      | error e => rw [hraw, hrest] at h; cases h
      | ok rest =>
        rw [hraw, hrest] at h
        cases h
        obtain ⟨hfrom, hto⟩ := ih hrest
        constructor
        · intro line hline
          rcases List.mem_append.1 hline with hline | hline
          · by_cases hidle : Idle raw
            · rw [ofRaw_of_idle hidle] at hraw
              cases hraw
              cases hline
            · rcases ofRaw_of_not_idle hidle number with htab | ⟨line', hok, hnumber, hcut⟩
              · cases hraw.symm.trans htab
              · cases hraw.symm.trans hok
                cases List.mem_singleton.1 hline
                exact ⟨0, raw, rfl, hnumber, hidle, hcut⟩
          · obtain ⟨i, raw', hi, hnumber, hidle, hcut⟩ := hfrom line hline
            exact ⟨i + 1, raw', hi, by omega, hidle, hcut⟩
        · rintro (_ | i) raw' hi hidle
          · cases hi
            rcases ofRaw_of_not_idle hidle number with htab | ⟨line, hok, hnumber, -⟩
            · cases hraw.symm.trans htab
            · cases hraw.symm.trans hok
              exact ⟨line, by simp, hnumber⟩
          · obtain ⟨line, hline, hnumber⟩ := hto i raw' hi hidle
            exact ⟨line, List.mem_append_right _ hline, by omega⟩

/-- Lines fail at one that is not idle, with its number. -/
lemma ofRaws_eq_error {raws : List (List Char)} {number : Nat} {e : SettingsError}
    (h : ofRaws number raws = .error e) :
    ∃ i raw, raws[i]? = some raw ∧ ¬ Idle raw ∧ e = .tabIndentation (number + i) := by
  induction raws generalizing number with
  | nil => cases h
  | cons raw raws ih =>
    rw [ofRaws] at h
    cases hraw : ofRaw number raw with
    | error e' =>
      rw [hraw] at h
      cases h
      have hidle : ¬ Idle raw := by
        intro hidle
        cases hraw.symm.trans (ofRaw_of_idle hidle number)
      rcases ofRaw_of_not_idle hidle number with htab | ⟨line, hok, -⟩
      · cases hraw.symm.trans htab
        exact ⟨0, raw, rfl, hidle, rfl⟩
      · cases hraw.symm.trans hok
    | ok line? =>
      cases hrest : ofRaws (number + 1) raws with
      | error e' =>
        rw [hraw, hrest] at h
        cases h
        obtain ⟨i, raw', hi, hidle, rfl⟩ := ih hrest
        exact ⟨i + 1, raw', hi, hidle, by rw [Nat.add_right_comm, Nat.add_assoc]⟩
      | ok rest => rw [hraw, hrest] at h; cases h

end Line

end Keyplan
