import Keyplan.Proofs.Faults

/-!
# Errors in longer texts

An error that has a place stays the same when text is added at the end, unless the first added
character goes on with a comment mark or a line end that the text left open. Every lexeme of the
text is read again, except for a comment at the end (`Splits.exists_extension`), and such a comment
is no place of an error. What a reader holds depends on the text behind it only in the sources that
it keeps for its nodes; readers that are equal up to these are `Alike`, and they advance and fail
alike (`Advances.alike`, `Fails.alike`). The main statement is `parse_error_append`.
-/

namespace Keyplan

namespace Lexeme

/-- The text may be added to any other one without making a mark of two characters at the seam. -/
def Detached (bs : List Char) : Prop :=
  ∀ c, bs.head? = some c → c ∉ ['/', '*', '\n', '\r']

/-- A detached text starts with no character that makes a mark with another. -/
lemma Detached.not_prefix {bs : List Char} (h : Detached bs) {c : Char}
    (hc : c ∈ ['/', '*', '\n', '\r']) (more : List Char) : ¬ c :: more <+: bs := by
  rintro ⟨rest, rfl⟩
  exact h c rfl hc

/-- The last lexeme of a text is read again before added text, unless it is a comment. -/
lemma ReadBefore.detached {x : Lexeme} {bs : List Char} (h : ReadBefore x []) (hb : Detached bs) :
    x.isGap = true ∨ ReadBefore x bs := by
  cases h with
  | closedComment hbody => exact .inl rfl
  | openComment _ => exact .inl rfl
  | lineComment _ _ => exact .inl rfl
  | continuation => exact .inr .continuation
  | comma => exact .inr .comma
  | opening => exact .inr .opening
  | closing => exact .inr .closing
  | blank hc => exact .inr (.blank hc)
  | other hc hdelim _ _ =>
    refine .inr (.other hc hdelim ?_ ?_)
    · intro _
      exact ⟨hb.not_prefix (by simp) _, hb.not_prefix (by simp) _⟩
    · intro _
      exact ⟨hb.not_prefix (by simp) _, hb.not_prefix (by simp) _⟩

/-- Added text changes the splitting only from a comment at the end on. -/
lemma Splits.exists_extension {cs : List Char} {xs : List Lexeme} (h : Splits cs xs)
    {bs : List Char} (hb : Detached bs) :
    ∃ front tail more, xs = front ++ tail ∧ Grammar.IsGaps tail ∧
      Splits (cs ++ bs) (front ++ more) := by
  induction h with
  | nil => exact ⟨[], [], lex .code bs, rfl, nofun, splits_lex bs⟩
  | @cons x rest xs hx hrest ih =>
    rw [List.append_assoc]
    by_cases hnil : rest = []
    · -- only the last lexeme can look at the added text
      subst hnil
      obtain rfl : xs = [] := hrest.lex_eq.symm
      rcases hx.detached hb with hgap | hx
      · exact ⟨[], [x], lex .code _, rfl, by simpa [Grammar.IsGaps] using hgap, splits_lex _⟩
      · exact ⟨[x], [], lex .code bs, rfl, nofun, .cons hx (splits_lex bs)⟩
    · obtain ⟨front, tail, more, rfl, htail, hmore⟩ := ih
      refine ⟨x :: front, tail, more, rfl, htail, .cons (hx.append hnil ?_) hmore⟩
      intro _ _
      exact hb.not_prefix (by simp) _

end Lexeme

/-- The two arguments are open in the same way. -/
inductive Pending.Alike : Pending → Pending → Prop where
  | none :
    Alike .none .none
  | word {start content since since'} :
    Alike (.word start content since) (.word start content since')
  | call {node node'} :
    Alike (.call node) (.call node')

/-- The two readers are equal up to the nodes that they have read. -/
structure Scan.Alike (s t : Scan) : Prop where
  depth : s.depth = t.depth
  pending : s.pending.Alike t.pending
  outer : s.outer.length = t.outer.length

namespace Pending

variable {p q p' : Pending} {pos : Nat}

/-- Alike pending nodes stay alike behind a gap. -/
lemma Alike.resume (h : Alike p q) : Alike p.resume q.resume := by
  cases h with
  | none => exact .none
  | word => exact .none
  | call => exact .call

/-- Alike pending nodes end together. -/
lemma Alike.exists_close (h : Alike p q) {node} (hclose : p.close pos = .ok node) :
    ∃ node', q.close pos = .ok node' := by
  cases h with
  | none => cases hclose
  | word => exact ⟨_, rfl⟩
  | call => exact ⟨_, rfl⟩

/-- Alike pending nodes grow together and stay alike. -/
lemma Alike.exists_extend (h : Alike p q) {c since} (hextend : p.extend pos c since = .ok p')
    (since' : List Lexeme) : ∃ q', q.extend pos c since' = .ok q' ∧ Alike p' q' := by
  cases h with
  | none =>
    cases hextend
    exact ⟨_, rfl, .word⟩
  | word =>
    rw [extend] at hextend
    split at hextend
    · next hpos =>
      cases hextend
      exact ⟨_, if_pos hpos, .word⟩
    · cases hextend
  | call => cases hextend

/-- What is alike to a word is a word with the same start and content. -/
lemma Alike.exists_word (h : Alike p q) {start content since} (hp : p = .word start content since) :
    ∃ since', q = .word start content since' := by
  subst hp
  cases h
  exact ⟨_, rfl⟩

/-- What is alike to nothing is nothing. -/
lemma Alike.eq_none (h : Alike p q) (hp : p = .none) : q = .none := by
  subst hp
  cases h
  rfl

/-- What is alike to a call is a call. -/
lemma Alike.exists_call (h : Alike p q) {node} (hp : p = .call node) :
    ∃ node', q = .call node' := by
  subst hp
  cases h
  exact ⟨_, rfl⟩

end Pending

namespace Scan
open Lexeme

variable {s s' t : Scan} {pos : Nat} {x : Lexeme} {rest : List Lexeme} {e : ParseError}

/-- Readers that are alike fail at the same lexemes and for the same reasons. -/
lemma Fails.alike (h : Fails s pos x e) (hst : Alike s t) : Fails t pos x e := by
  obtain ⟨hdepth, hpending, -⟩ := hst
  cases h with
  | comma hnone => exact .comma (hpending.eq_none hnone)
  | closing hnone => exact .closing (hpending.eq_none hnone)
  | nameless hnone => exact .nameless (hpending.eq_none hnone)
  | tooDeep hword hmax =>
    obtain ⟨_, hword'⟩ := hpending.exists_word hword
    exact .tooDeep hword' (hdepth ▸ hmax)
  | callAgain hcall =>
    obtain ⟨_, hcall'⟩ := hpending.exists_call hcall
    exact .callAgain hcall'
  | wordAfterCall hcall =>
    obtain ⟨_, hcall'⟩ := hpending.exists_call hcall
    exact .wordAfterCall hcall'
  | brokenWord hword hpos =>
    obtain ⟨_, hword'⟩ := hpending.exists_word hword
    exact .brokenWord hword' hpos

/-- Readers that are alike advance over the same lexemes and stay alike, whatever follows. -/
lemma Advances.alike (h : Advances s pos rest x s') (hst : Alike s t) (rest' : List Lexeme) :
    ∃ t', Advances t pos rest' x t' ∧ Alike s' t' := by
  obtain ⟨hdepth, hpending, houter⟩ := hst
  cases h with
  | gap hx => exact ⟨t, .gap hx, hdepth, hpending, houter⟩
  | continuation => exact ⟨_, .continuation, hdepth, hpending.resume, houter⟩
  | comma hclose =>
    obtain ⟨_, hclose'⟩ := hpending.exists_close hclose
    exact ⟨_, .comma hclose', hdepth, .none, houter⟩
  | closing hclose hcons =>
    obtain ⟨_, hclose'⟩ := hpending.exists_close hclose
    rw [hcons] at houter
    obtain ⟨f, outer, hcons'⟩ := List.exists_cons_of_length_eq_add_one houter.symm
    rw [hcons'] at houter
    exact ⟨_, .closing hclose' hcons', by simp [hdepth], .call, Nat.succ.inj houter⟩
  | opening hword hmax =>
    obtain ⟨_, hword'⟩ := hpending.exists_word hword
    exact ⟨_, .opening hword' (hdepth ▸ hmax), by simp [hdepth], .none, by simp [houter]⟩
  | @other c _ hextend =>
    obtain ⟨_, hextend', halike⟩ := hpending.exists_extend hextend (.other c :: rest')
    exact ⟨_, .other hextend', hdepth, halike, houter⟩

/-- Gaps alone do not make a reading fail, so its end is what is reported. -/
lemma run_gaps_eq {tail : List Lexeme} (h : Grammar.IsGaps tail) :
    s.run pos tail = .error (.unbalanced s.depth) := by
  rw [← List.append_nil tail, Grammar.run_gaps h, run]

/-- An error that has a place was found before the gaps at the end, so it is found again with other
lexemes in their place. -/
theorem run_error_extend {front tail : List Lexeme} (htail : Grammar.IsGaps tail)
    (he : e.offset?.isSome = true) (h : s.run pos (front ++ tail) = .error e) (hst : Alike s t)
    (more : List Lexeme) : t.run pos (front ++ more) = .error e := by
  induction front generalizing s t pos with
  | nil =>
    -- the gaps are left, but the end of the text has no place
    rw [List.nil_append, run_gaps_eq htail] at h
    cases h
    cases he
  | cons x front ih =>
    rw [List.cons_append, run] at h ⊢
    split at h
    · next hfail =>
      cases h
      rw [step_eq_error_iff.2 ((step_eq_error_iff.1 hfail).alike hst)]
    · cases h
    · next hmore =>
      obtain ⟨t', hadvance, halike⟩ := (step_eq_more_iff.1 hmore).alike hst (front ++ more)
      rw [step_eq_more_iff.2 hadvance]
      exact ih h halike

end Scan

/-- An argument list that cannot be read because of a place in it cannot be read with added text. -/
lemma readArguments_append_of_error {depth pos cs e} (h : readArguments depth pos cs = .error e)
    (he : e.offset?.isSome = true) {bs : List Char} (hb : Lexeme.Detached bs) :
    readArguments depth pos (cs ++ bs) = .error e := by
  obtain ⟨front, tail, more, hlex, htail, hmore⟩ := (Lexeme.splits_lex cs).exists_extension hb
  rw [readArguments, hlex] at h
  split at h
  · next hrun =>
    cases h
    have hsame : Scan.Alike { depth } { depth } := ⟨rfl, .none, rfl⟩
    rw [readArguments, hmore.lex_eq, Scan.run_error_extend htail he hrun hsame more]
  · cases h

/-- An argument list that can be read is the same with added text. -/
lemma readArguments_append_of_ok {depth pos cs nodes stop left}
    (h : readArguments depth pos cs = .ok (nodes, stop, left)) (bs : List Char) :
    readArguments depth pos (cs ++ bs) = .ok (nodes, stop, left ++ bs) := by
  obtain ⟨body, xs, rfl, rfl, hsplit, hlist⟩ := Grammar.readArguments_eq_ok_iff.1 h
  rw [List.append_assoc]
  exact hlist.readArguments hsplit (left ++ bs)

/-- A layout that is found is found with added text, and the text behind it is longer. -/
lemma Invocation.find?_append {a : String} {origin inv} (h : find? a origin = .ok (some inv))
    (b : String) :
    find? (a ++ b) origin = .ok (some inv) ∧
      Text.dropBytes inv.argsStart (a ++ b).toList =
        Text.dropBytes inv.argsStart a.toList ++ b.toList := by
  obtain ⟨head, htext, hargs, hsearch⟩ := exists_head_of_find? h
  have hsearch' := search_append_of_some hsearch b.toList
  have horigin : ¬ (a ++ b).utf8ByteSize + 1 < origin := by
    rw [find?] at h
    split at h
    · cases h
    · rw [String.utf8ByteSize_append]
      omega
  refine ⟨?_, ?_⟩
  · rw [find?, if_neg horigin, String.toList_append, hsearch']
    rfl
  · generalize Text.dropBytes inv.argsStart a.toList = rest at htext
    rw [String.toList_append, htext, ← hargs, List.append_assoc, Text.dropBytes_size]

namespace Keymap
open Invocation

variable {a : String} {layers : List (List Node)} {origin : Nat} {inv : Invocation}
  {keys : Option Nat} {e : ParseError}

/-- What is read of a text is read of it with added text. -/
lemma Reached.append (h : Reached a layers origin) (b : String) :
    Reached (a ++ b) layers origin := by
  induction h with
  | start => exact .start
  | next _ hinv hread ih =>
    obtain ⟨hinv', hdrop⟩ := find?_append hinv b
    rw [readRow] at hread
    have hread' := readArguments_append_of_ok hread b.toList
    rw [← hdrop] at hread'
    exact .next ih hinv' hread'

/-- An error that has a place is final: it stays the same whatever is added to the text, if that
does not begin with a slash, a star, a line feed or a carriage return. So only the errors without a
place may go away. -/
theorem parse_error_append [PatternEngine] {b : String}
    (hb : ∀ c, b.toList.head? = some c → c ∉ ['/', '*', '\n', '\r']) (h : parse a keys = .error e) :
    (e.offset?.isSome = true → parse (a ++ b) keys = .error e) ∧
    (parse (a ++ b) keys ≠ .error e →
      e = .missingInvocation ∨ (∃ opened, e = .unbalanced opened) ∨
      (∃ layer expected actual, e = .layerCountMismatch layer expected actual) ∨
      ∃ expected actual, e = .keyCountMismatch expected actual) := by
  have hfinal : e.offset?.isSome = true → parse (a ++ b) keys = .error e := by
    intro he
    rcases parse_error_cases h with ⟨layers, origin, inv, hreached, hinv, hread⟩ |
      rfl | ⟨_, _, _, rfl⟩ | ⟨_, _, rfl⟩
    · obtain ⟨hinv', hdrop⟩ := find?_append hinv b
      refine (hreached.append b).parse_error hinv' ?_ keys
      rw [readRow, hdrop]
      exact readArguments_append_of_error hread he hb
    · cases he
    · cases he
    · cases he
  refine ⟨hfinal, ?_⟩
  intro hchange
  cases e with
  | missingInvocation => exact .inl rfl
  | unbalanced opened => exact .inr (.inl ⟨opened, rfl⟩)
  | layerCountMismatch layer expected actual => exact .inr (.inr (.inl ⟨_, _, _, rfl⟩))
  | keyCountMismatch expected actual => exact .inr (.inr (.inr ⟨_, _, rfl⟩))
  | _ => exact absurd (hfinal rfl) hchange

/-- A slash behind a call stays an error before any text that makes no comment of it. -/
theorem parse_error_append_slash :
    parse "LAYOUT(F(é)/" none = .error (.unexpectedText 12) ∧
      parse ("LAYOUT(F(é)/" ++ ", B)") none = .error (.unexpectedText 12) := by
  have h : parse "LAYOUT(F(é)/" none = .error (.unexpectedText 12) := by cbv
  have hb : ∀ c, ", B)".toList.head? = some c → c ∉ ['/', '*', '\n', '\r'] := by
    intro c hc
    obtain rfl : ',' = c := by simpa using hc
    decide
  exact ⟨h, (parse_error_append hb h).1 rfl⟩

/-- With one more slash the same text goes on to a keymap. -/
example : (parse ("LAYOUT(F(é)/" ++ "/ end\n)") none).toOption.map (·.stop) = some 20 := by cbv

end Keymap

end Keyplan
