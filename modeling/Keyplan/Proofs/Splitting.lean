import Keyplan.Lexeme
import Mathlib

/-!
# Splitting a text into lexemes

What it means that a list of lexemes is the splitting of a text, said without the lexer: each lexeme
is the one that has priority before the text that follows it (`ReadBefore`, `Splits`). The lexer
finds the splitting and no text has two (`lex_eq_iff_splits`). The second half is about seams: a
splitting can be cut between any two lexemes (`Splits.of_append`), and two splittings can be joined
where the last lexeme of the first does not look at what follows it (`Splits.append_of_settled`,
`Splits.append`).
-/

namespace Keyplan.Lexeme

/-- The lexeme is the one that is read off its characters when `rest` follows them. -/
inductive ReadBefore : Lexeme → List Char → Prop where
  | closedComment {body rest} :
    ¬ ['*', '/'] <:+: body →
    ReadBefore (.blockComment body true) rest
  | openComment {body} :
    ¬ ['*', '/'] <:+: body →
    ReadBefore (.blockComment body false) []
  | lineComment {body rest} :
    '\n' ∉ body →
    rest = [] ∨ ['\n'] <+: rest →
    ReadBefore (.lineComment body) rest
  | continuation {carriage rest} :
    ReadBefore (.continuation carriage) rest
  | comma {rest} :
    ReadBefore .comma rest
  | opening {rest} :
    ReadBefore .opening rest
  | closing {rest} :
    ReadBefore .closing rest
  | blank {c rest} :
    Text.isBlank c = true →
    ReadBefore (.blank c) rest
  | other {c rest} :
    Text.isBlank c = false →
    c ∉ [',', '(', ')'] →
    (c = '/' → ¬ ['*'] <+: rest ∧ ¬ ['/'] <+: rest) →
    (c = '\\' → ¬ ['\n'] <+: rest ∧ ¬ ['\r', '\n'] <+: rest) →
    ReadBefore (.other c) rest

/-- The lexemes are the splitting of the text. -/
inductive Splits : List Char → List Lexeme → Prop where
  | nil :
    Splits [] []
  | cons {x rest xs} :
    ReadBefore x rest →
    Splits rest xs →
    Splits (x.chars ++ rest) (x :: xs)

/-- The lexemes of a splitting spell the text. -/
lemma Splits.text_eq {cs xs} (h : Splits cs xs) : text xs = cs := by
  induction h with
  | nil => rfl
  | cons _ _ ih => rw [text_cons, ih]

/-- A line feed is a blank. -/
lemma ofChar_newline : ofChar '\n' = .blank '\n' := by
  decide

/-- The lexer inside a block comment stops at the first closing mark. -/
lemma lex_block {body} (hbody : ¬ ['*', '/'] <:+: body) (seen rest : List Char) :
    lex (.block seen) (body ++ '*' :: '/' :: rest) =
      .blockComment (seen.reverse ++ body) true :: lex .code rest := by
  induction body generalizing seen with
  | nil => simp [lex]
  | cons c body ih =>
    have hrest : ¬ ['*', '/'] <:+: body := by
      intro h
      exact hbody (h.trans (List.suffix_cons c body).isInfix)
    -- neither in the body nor with the mark after it does a closing mark start at `c`
    have hopen : ∀ cs, c = '*' → body ++ '*' :: '/' :: rest = '/' :: cs → False := by
      intro cs hc hcs
      cases body with
      | nil => simp at hcs
      | cons d body =>
        obtain ⟨rfl, _⟩ := List.cons.inj hcs
        subst hc
        exact hbody ⟨[], body, rfl⟩
    rw [List.cons_append, lex.eq_9 _ _ _ hopen, ih hrest]
    simp

/-- The lexer inside a block comment that nothing closes runs to the end. -/
lemma lex_block_open {body} (hbody : ¬ ['*', '/'] <:+: body) (seen : List Char) :
    lex (.block seen) body = [.blockComment (seen.reverse ++ body) false] := by
  induction body generalizing seen with
  | nil => simp [lex]
  | cons c body ih =>
    have hrest : ¬ ['*', '/'] <:+: body := by
      intro h
      exact hbody (h.trans (List.suffix_cons c body).isInfix)
    have hopen : ∀ cs, c = '*' → body = '/' :: cs → False := by
      rintro cs rfl rfl
      exact hbody ⟨[], cs, rfl⟩
    rw [lex.eq_9 _ _ _ hopen, ih hrest]
    simp

/-- The lexer inside a line comment stops at the end of the line. -/
lemma lex_line {body} (hbody : '\n' ∉ body) (seen : List Char) {rest}
    (hrest : rest = [] ∨ ['\n'] <+: rest) :
    lex (.line seen) (body ++ rest) = .lineComment (seen.reverse ++ body) :: lex .code rest := by
  induction body generalizing seen with
  | nil =>
    rcases hrest with rfl | ⟨cs, rfl⟩
    · simp [lex]
    · simp [lex, ofChar_newline]
  | cons c body ih =>
    simp only [List.mem_cons, not_or] at hbody
    rw [List.cons_append, lex.eq_12 _ _ _ (fun h => hbody.1 h.symm), ih hbody.2]
    simp

/-- A blank is no delimiter. -/
lemma ofChar_of_isBlank {c} (h : Text.isBlank c = true) : ofChar c = .blank c := by
  have hcomma : c ≠ ',' := by rintro rfl; revert h; decide
  have hopening : c ≠ '(' := by rintro rfl; revert h; decide
  have hclosing : c ≠ ')' := by rintro rfl; revert h; decide
  simp [ofChar, hcomma, hopening, hclosing, h]

/-- The lexer takes off the lexeme that has priority. -/
lemma ReadBefore.lex_chars_append {x rest} (h : ReadBefore x rest) :
    lex .code (x.chars ++ rest) = x :: lex .code rest := by
  cases h with
  | closedComment hbody => simp [chars, lex, lex_block hbody]
  | openComment hbody => simp [chars, lex, lex_block_open hbody]
  | lineComment hbody hrest => simp [chars, lex, lex_line hbody _ hrest]
  | @continuation carriage => cases carriage <;> simp [chars, lex]
  | comma => simp [chars, lex, ofChar]
  | opening => simp [chars, lex, ofChar]
  | closing => simp [chars, lex, ofChar]
  | @blank c rest hc =>
    have hslash : c ≠ '/' := by rintro rfl; revert hc; decide
    have hback : c ≠ '\\' := by rintro rfl; revert hc; decide
    simp [chars, lex, hslash, hback, ofChar_of_isBlank hc]
  | @other c rest hc hdelim hcomment hcont =>
    have hchar : ofChar c = .other c := by simp_all [ofChar]
    show lex .code (c :: rest) = _
    rw [lex.eq_6, hchar]
    · rintro cs rfl rfl
      exact (hcomment rfl).1 ⟨cs, rfl⟩
    · rintro cs rfl rfl
      exact (hcomment rfl).2 ⟨cs, rfl⟩
    · rintro cs rfl rfl
      exact (hcont rfl).1 ⟨cs, rfl⟩
    · rintro cs rfl rfl
      exact (hcont rfl).2 ⟨cs, rfl⟩

/-- The lexer finds the splitting of a text. -/
lemma Splits.lex_eq {cs xs} (h : Splits cs xs) : lex .code cs = xs := by
  induction h with
  | nil => rfl
  | cons hx _ ih => rw [hx.lex_chars_append, ih]

/-- A comment's text ends at its first closing mark, if it has one. -/
lemma exists_closing_mark (cs : List Char) :
    ¬ ['*', '/'] <:+: cs ∨
      ∃ body rest, cs = body ++ '*' :: '/' :: rest ∧ ¬ ['*', '/'] <:+: body := by
  induction cs with
  | nil => exact .inl (by simp)
  | cons c cs ih =>
    by_cases hmark : ['*', '/'] <+: c :: cs
    · obtain ⟨rest, hrest⟩ := hmark
      exact .inr ⟨[], rest, hrest.symm, by simp⟩
    · rcases ih with hnone | ⟨body, rest, rfl, hbody⟩
      · refine .inl ?_
        rw [List.infix_cons_iff]
        exact not_or.2 ⟨hmark, hnone⟩
      · refine .inr ⟨c :: body, rest, rfl, ?_⟩
        rw [List.infix_cons_iff]
        refine not_or.2 ⟨?_, hbody⟩
        intro h
        exact hmark (h.trans ⟨'*' :: '/' :: rest, rfl⟩)

/-- A line ends before its first line feed or with the text. -/
lemma exists_line_end (cs : List Char) :
    ∃ body rest, cs = body ++ rest ∧ '\n' ∉ body ∧ (rest = [] ∨ ['\n'] <+: rest) := by
  induction cs with
  | nil => exact ⟨[], [], rfl, by simp, .inl rfl⟩
  | cons c cs ih =>
    by_cases hc : c = '\n'
    · exact ⟨[], c :: cs, rfl, by simp, .inr ⟨cs, by rw [hc]; rfl⟩⟩
    · obtain ⟨body, rest, rfl, hbody, hrest⟩ := ih
      refine ⟨c :: body, rest, rfl, ?_, hrest⟩
      simp only [List.mem_cons, not_or]
      exact ⟨fun h => hc h.symm, hbody⟩

/-- A character that starts neither a comment nor a continuation is a lexeme. -/
lemma readBefore_ofChar {c rest}
    (hcomment : c = '/' → ¬ ['*'] <+: rest ∧ ¬ ['/'] <+: rest)
    (hcont : c = '\\' → ¬ ['\n'] <+: rest ∧ ¬ ['\r', '\n'] <+: rest) :
    ReadBefore (ofChar c) rest := by
  unfold ofChar
  split
  · exact .comma
  split
  · exact .opening
  split
  · exact .closing
  split
  · next h => exact .blank h
  · next hcomma hopening hclosing hblank =>
    exact .other (by simpa using hblank) (by simp_all) hcomment hcont

/-- Every text that is not empty starts with a lexeme. -/
lemma exists_readBefore (c : Char) (cs : List Char) :
    ∃ x rest, c :: cs = x.chars ++ rest ∧ ReadBefore x rest := by
  by_cases hblock : c = '/' ∧ ['*'] <+: cs
  · obtain ⟨rfl, cs, rfl⟩ := hblock
    rcases exists_closing_mark cs with hnone | ⟨body, rest, rfl, hbody⟩
    · exact ⟨.blockComment cs false, [], by simp [chars], .openComment hnone⟩
    · exact ⟨.blockComment body true, rest, by simp [chars], .closedComment hbody⟩
  by_cases hline : c = '/' ∧ ['/'] <+: cs
  · obtain ⟨rfl, cs, rfl⟩ := hline
    obtain ⟨body, rest, rfl, hbody, hrest⟩ := exists_line_end cs
    exact ⟨.lineComment body, rest, by simp [chars], .lineComment hbody hrest⟩
  by_cases hfeed : c = '\\' ∧ ['\n'] <+: cs
  · obtain ⟨rfl, cs, rfl⟩ := hfeed
    exact ⟨.continuation false, cs, rfl, .continuation⟩
  by_cases hreturn : c = '\\' ∧ ['\r', '\n'] <+: cs
  · obtain ⟨rfl, cs, rfl⟩ := hreturn
    exact ⟨.continuation true, cs, rfl, .continuation⟩
  refine ⟨ofChar c, cs, by simp, readBefore_ofChar ?_ ?_⟩
  · intro hc
    exact ⟨fun h => hblock ⟨hc, h⟩, fun h => hline ⟨hc, h⟩⟩
  · intro hc
    exact ⟨fun h => hfeed ⟨hc, h⟩, fun h => hreturn ⟨hc, h⟩⟩

/-- A lexeme has at least one character. -/
lemma chars_ne_nil (x : Lexeme) : x.chars ≠ [] := by
  cases x with
  | blockComment body closed => cases closed <;> simp [chars]
  | continuation carriage => cases carriage <;> simp [chars]
  | _ => simp [chars]

/-- Every text has a splitting. -/
lemma splits_lex (cs : List Char) : Splits cs (lex .code cs) := by
  -- by the length, since a lexeme takes any number of characters
  induction hn : cs.length using Nat.strongRecOn generalizing cs with
  | ind n ih =>
    cases cs with
    | nil => exact .nil
    | cons c cs =>
      obtain ⟨x, rest, hcs, hx⟩ := exists_readBefore c cs
      rw [hcs, hx.lex_chars_append]
      refine .cons hx (ih rest.length ?_ rest rfl)
      have hlen := congrArg List.length hcs
      have hpos := List.length_pos_iff.2 x.chars_ne_nil
      rw [List.length_append] at hlen
      omega

/-- The lexer gives the one splitting of a text. -/
lemma lex_eq_iff_splits {cs xs} : lex .code cs = xs ↔ Splits cs xs := by
  constructor
  · rintro rfl
    exact splits_lex cs
  · exact Splits.lex_eq

/-- A splitting starts with the lexeme that has priority. -/
lemma Splits.cons_inv {cs x xs} (h : Splits cs (x :: xs)) :
    ReadBefore x (text xs) ∧ Splits (text xs) xs := by
  generalize e : x :: xs = ys at h
  cases h with
  | nil => cases e
  | cons hx hxs =>
    cases e
    rw [hxs.text_eq]
    exact ⟨hx, hxs⟩

/-- Priority does not come from what is cut off later. -/
lemma ReadBefore.of_append {x as bs} (h : ReadBefore x (as ++ bs)) : ReadBefore x as := by
  generalize e : as ++ bs = cs at h
  have cut : ∀ {front}, ¬ front <+: cs → ¬ front <+: as := by
    intro front hfront hpre
    exact hfront (e ▸ hpre.trans (List.prefix_append as bs))
  cases h with
  | closedComment hbody => exact .closedComment hbody
  | openComment hbody =>
    obtain ⟨rfl, rfl⟩ := List.append_eq_nil_iff.1 e
    exact .openComment hbody
  | lineComment hbody hrest =>
    refine .lineComment hbody ?_
    cases as with
    | nil => exact .inl rfl
    | cons a as =>
      subst e
      rcases hrest with hnil | hfeed
      · cases hnil
      · obtain ⟨rfl, _⟩ := List.cons_prefix_cons.1 hfeed
        exact .inr ⟨as, rfl⟩
  | continuation => exact .continuation
  | comma => exact .comma
  | opening => exact .opening
  | closing => exact .closing
  | blank hc => exact .blank hc
  | other hc hdelim hcomment hcont =>
    refine .other hc hdelim ?_ ?_
    · intro e
      exact ⟨cut (hcomment e).1, cut (hcomment e).2⟩
    · intro e
      exact ⟨cut (hcont e).1, cut (hcont e).2⟩

/-- A splitting can be cut between any two lexemes. -/
lemma Splits.of_append {cs xs ys} (h : Splits cs (xs ++ ys)) :
    Splits (text xs) xs ∧ Splits (text ys) ys := by
  induction xs generalizing cs with
  | nil => exact ⟨.nil, h.text_eq ▸ h⟩
  | cons x xs ih =>
    rw [List.cons_append] at h
    obtain ⟨hx, hrest⟩ := h.cons_inv
    obtain ⟨hxs, hys⟩ := ih hrest
    rw [text_append] at hx
    exact ⟨.cons hx.of_append hxs, hys⟩

/-- Lexemes that do not look ahead are the splitting of their text. -/
lemma Splits.of_forall {xs} (h : ∀ x ∈ xs, ∀ rest, ReadBefore x rest) : Splits (text xs) xs := by
  induction xs with
  | nil => exact .nil
  | cons x xs ih =>
    obtain ⟨hx, hxs⟩ := List.forall_mem_cons.1 h
    exact .cons (hx _) (ih hxs)

/-- The lexeme ends on its own account, whatever follows it. -/
def Settled : Lexeme → Prop
  | .blockComment _ closed => closed = true
  | .lineComment _ => False
  | .other c => c ≠ '/' ∧ c ≠ '\\'
  | _ => True

/-- The text may follow the lexeme without a lexeme forming across the seam. -/
structure Seam (z : Lexeme) (cs : List Char) : Prop where
  /-- The lexeme does not look ahead. -/
  settled : z.Settled
  /-- A carriage return does not become part of a continuation. -/
  carriage : z.chars = ['\r'] → ¬ ['\n'] <+: cs

/-- A settled lexeme has priority before any text. -/
lemma ReadBefore.of_settled {x as} (h : ReadBefore x as) (hx : x.Settled) (bs : List Char) :
    ReadBefore x bs := by
  cases h with
  | closedComment hbody => exact .closedComment hbody
  | openComment _ => cases hx
  | lineComment _ _ => exact hx.elim
  | continuation => exact .continuation
  | comma => exact .comma
  | opening => exact .opening
  | closing => exact .closing
  | blank hc => exact .blank hc
  | other hc hdelim _ _ =>
    exact .other hc hdelim (fun e => absurd e hx.1) (fun e => absurd e hx.2)

/-- Priority is decided by the next character, except that of a backslash before a return. -/
lemma ReadBefore.append {x as} (h : ReadBefore x as) (hne : as ≠ []) {bs}
    (hreturn : x = .other '\\' → as = ['\r'] → ¬ ['\n'] <+: bs) : ReadBefore x (as ++ bs) := by
  obtain ⟨a, as, rfl⟩ := List.exists_cons_of_ne_nil hne
  cases h with
  | closedComment hbody => exact .closedComment hbody
  | lineComment hbody hrest =>
    refine .lineComment hbody (.inr ?_)
    rcases hrest with hnil | hfeed
    · cases hnil
    · exact hfeed.trans (List.prefix_append _ _)
  | continuation => exact .continuation
  | comma => exact .comma
  | opening => exact .opening
  | closing => exact .closing
  | blank hc => exact .blank hc
  | other hc hdelim hcomment hcont =>
    have single : ∀ {d : Char}, ¬ [d] <+: a :: as → ¬ [d] <+: a :: as ++ bs := by
      intro d hd hpre
      obtain ⟨rfl, _⟩ := List.cons_prefix_cons.1 hpre
      exact hd ⟨as, rfl⟩
    refine .other hc hdelim ?_ ?_
    · intro e
      exact ⟨single (hcomment e).1, single (hcomment e).2⟩
    · intro e
      refine ⟨single (hcont e).1, ?_⟩
      intro hpre
      obtain ⟨rfl, hfeed⟩ := List.cons_prefix_cons.1 hpre
      cases as with
      | nil => exact hreturn (by rw [e]) rfl hfeed
      | cons b as =>
        obtain ⟨rfl, _⟩ := List.cons_prefix_cons.1 hfeed
        exact (hcont e).2 ⟨as, rfl⟩

/-- The splitting of a carriage return. -/
lemma Splits.eq_of_return {xs} (h : Splits ['\r'] xs) : xs = [.blank '\r'] := by
  have hreturn : Splits ['\r'] [.blank '\r'] := .cons (.blank (by decide)) .nil
  rw [← h.lex_eq, hreturn.lex_eq]

/-- Two splittings join if the last lexeme of the first one is settled and no continuation forms
across the seam. -/
lemma Splits.append_of_settled {as xs bs ys} (ha : Splits as xs) (hb : Splits bs ys)
    (hlast : ∀ z, xs.getLast? = some z → z.Settled)
    (hreturn : ∀ front, xs = front ++ [.other '\\', .blank '\r'] → ¬ ['\n'] <+: bs) :
    Splits (as ++ bs) (xs ++ ys) := by
  induction ha with
  | nil => exact hb
  | @cons x rest xs hx hxs ih =>
    rw [List.append_assoc]
    cases xs with
    | nil =>
      cases hxs
      exact .cons (hx.of_settled (hlast x rfl) _) hb
    | cons y xs =>
      refine .cons (hx.append ?_ ?_) (ih ?_ ?_)
      · intro hnil
        rw [← hxs.text_eq] at hnil
        exact y.chars_ne_nil (List.append_eq_nil_iff.1 hnil).1
      · rintro rfl rfl
        exact hreturn [] (by rw [hxs.eq_of_return]; rfl)
      · intro z hz
        exact hlast z (by rw [List.getLast?_cons_cons, hz])
      · intro front hfront
        exact hreturn (x :: front) (by rw [hfront, List.cons_append])

/-- Two splittings join where the seam allows it. -/
lemma Splits.append {as xs bs ys} (ha : Splits as xs) (hb : Splits bs ys)
    (hseam : ∀ z, xs.getLast? = some z → Seam z bs) : Splits (as ++ bs) (xs ++ ys) := by
  refine ha.append_of_settled hb (fun z hz => (hseam z hz).settled) ?_
  rintro front rfl
  exact (hseam (.blank '\r') (by simp)).carriage rfl

end Keyplan.Lexeme
