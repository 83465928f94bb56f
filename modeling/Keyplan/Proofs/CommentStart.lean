import Keyplan.Settings
import Mathlib

/-!
# Where a comment starts

The reader of a line looks for the first `#` behind a blank where no quote is open, and knows no
backslashes. `Line.quoteAfter` follows the quotes through a text and `Line.freshAfter` the blanks;
`stripComment_append` says that a text without a comment is passed over and leaves the reader with
these two, `exists_of_stripComment_ne` that a comment starts at a `#` behind which the rest is cut
off, and `stripComment_eq_self_iff` that nothing else is a comment. Which quote is open can be said
without the reader: none is if and only if the quotes of the text are in pairs (`paired_iff`).
-/

namespace Keyplan.Line

/-- The quote that is open behind a character; `quote` is the one that is open before it. -/
def quoteStep (quote : Option Char) (c : Char) : Option Char :=
  match quote with
  | some q => if c = q then none else some q
  | none => if c = '"' ∨ c = '\'' then some c else none

/-- The quote that is open behind a text. -/
def quoteAfter (quote : Option Char) (cs : List Char) : Option Char :=
  cs.foldl quoteStep quote

/-- Whether the character before a place is blank, where `fresh` stands for the one before the
text. -/
def freshAfter (fresh : Bool) (cs : List Char) : Bool :=
  cs.foldl (fun _ c => Text.isBlank c) fresh

/-- A `#` behind the text starts a comment. -/
def Bare (quote : Option Char) (fresh : Bool) (cs : List Char) : Prop :=
  quoteAfter quote cs = none ∧ freshAfter fresh cs = true

/-- Each quote is closed by the next one of its kind, and what is between them is not looked at. -/
inductive Paired : List Char → Prop where
  | nil :
    Paired []
  | plain {c cs} :
    c ≠ '"' →
    c ≠ '\'' →
    Paired cs →
    Paired (c :: cs)
  | quoted {q body cs} :
    q = '"' ∨ q = '\'' →
    q ∉ body →
    Paired cs →
    Paired (q :: (body ++ q :: cs))

/-! ## Quotes -/

/-- The quote that is open behind a text follows from that behind its first character. -/
lemma quoteAfter_cons (quote : Option Char) (c : Char) (cs : List Char) :
    quoteAfter quote (c :: cs) = quoteAfter (quoteStep quote c) cs :=
  rfl

/-- The quote that is open behind two texts follows from that behind the first. -/
lemma quoteAfter_append (quote : Option Char) (as bs : List Char) :
    quoteAfter quote (as ++ bs) = quoteAfter (quoteAfter quote as) bs :=
  List.foldl_append

/-- A character that is no quote opens none. -/
lemma quoteStep_none {c : Char} (hdouble : c ≠ '"') (hsingle : c ≠ '\'') :
    quoteStep none c = none := by
  simp [quoteStep, hdouble, hsingle]

/-- A quote opens itself. -/
lemma quoteStep_quote {q : Char} (h : q = '"' ∨ q = '\'') : quoteStep none q = some q :=
  if_pos h

/-- The quote that is open closes itself. -/
lemma quoteStep_self (q : Char) : quoteStep (some q) q = none :=
  if_pos rfl

/-- An open quote stays open through other characters. -/
lemma quoteStep_some {q c : Char} (h : c ≠ q) : quoteStep (some q) c = some q :=
  if_neg h

/-- What is open is a quote, behind a character too. -/
lemma mem_quoteStep {quote : Option Char} (hquote : ∀ q ∈ quote, q = '"' ∨ q = '\'') (c : Char) :
    ∀ q ∈ quoteStep quote c, q = '"' ∨ q = '\'' := by
  intro q hq
  unfold quoteStep at hq
  split at hq
  · split at hq
    · cases hq
    · exact hquote q hq
  · split at hq
    · next hc =>
      cases hq
      exact hc
    · cases hq

/-- What is open is a quote, behind a text too. -/
lemma mem_quoteAfter {quote : Option Char} (hquote : ∀ q ∈ quote, q = '"' ∨ q = '\'')
    (cs : List Char) : ∀ q ∈ quoteAfter quote cs, q = '"' ∨ q = '\'' := by
  induction cs generalizing quote with
  | nil => exact hquote
  | cons c cs ih => exact ih (mem_quoteStep hquote c)

/-- A quote stays open through a text without it. -/
lemma quoteAfter_of_notMem {q : Char} {cs : List Char} (h : q ∉ cs) :
    quoteAfter (some q) cs = some q := by
  induction cs with
  | nil => rfl
  | cons c cs ih =>
    rw [List.mem_cons, not_or] at h
    rw [quoteAfter_cons, quoteStep_some (Ne.symm h.1)]
    exact ih h.2

/-- An open quote that is closed in a text is closed at its next occurrence. -/
lemma exists_of_quoteAfter {q : Char} {cs : List Char} (h : quoteAfter (some q) cs = none) :
    ∃ body rest, cs = body ++ q :: rest ∧ q ∉ body ∧ quoteAfter none rest = none := by
  induction cs with
  | nil => cases h
  | cons c cs ih =>
    rw [quoteAfter_cons] at h
    by_cases hc : c = q
    · subst hc
      rw [quoteStep_self] at h
      exact ⟨[], cs, rfl, List.not_mem_nil, h⟩
    · rw [quoteStep_some hc] at h
      obtain ⟨body, rest, rfl, hbody, hrest⟩ := ih h
      refine ⟨c :: body, rest, rfl, ?_, hrest⟩
      rw [List.mem_cons, not_or]
      exact ⟨Ne.symm hc, hbody⟩

/-- Behind quotes in pairs none is open. -/
lemma Paired.quoteAfter {cs} (h : Paired cs) : quoteAfter none cs = none := by
  induction h with
  | nil => rfl
  | plain hdouble hsingle _ ih => rwa [quoteAfter_cons, quoteStep_none hdouble hsingle]
  | quoted hq hbody _ ih =>
    rwa [quoteAfter_cons, quoteStep_quote hq, quoteAfter_append, quoteAfter_of_notMem hbody,
      quoteAfter_cons, quoteStep_self]

/-- No quote is open behind a text if and only if its quotes are in pairs. -/
theorem paired_iff {cs : List Char} : Paired cs ↔ quoteAfter none cs = none := by
  refine ⟨Paired.quoteAfter, ?_⟩
  -- A pair takes more than its first character off the text.
  induction hlength : cs.length using Nat.strongRecOn generalizing cs with
  | ind n ih =>
    subst hlength
    intro h
    cases cs with
    | nil => exact .nil
    | cons c cs =>
      rw [quoteAfter_cons] at h
      by_cases hc : c = '"' ∨ c = '\''
      · rw [quoteStep_quote hc] at h
        obtain ⟨body, rest, rfl, hbody, hrest⟩ := exists_of_quoteAfter h
        refine .quoted hc hbody (ih rest.length ?_ rfl hrest)
        simp
        omega
      · rw [not_or] at hc
        rw [quoteStep_none hc.1 hc.2] at h
        exact .plain hc.1 hc.2 (ih cs.length (Nat.lt_succ_self _) rfl h)

/-! ## Comments -/

/-- A hash at the start is a comment. -/
lemma stripComment_mark (cs : List Char) : stripComment none true ('#' :: cs) = [] := by
  simp [stripComment]

/-- A character that starts no comment is kept. -/
lemma stripComment_cons {quote : Option Char} {fresh : Bool} {c : Char}
    (h : ¬ (quote = none ∧ fresh = true ∧ c = '#')) (cs : List Char) :
    stripComment quote fresh (c :: cs) =
      c :: stripComment (quoteStep quote c) (Text.isBlank c) cs := by
  cases quote with
  | some q => rfl
  | none =>
    have hcut : ¬ (c = '#' ∧ fresh = true) := fun hc => h ⟨rfl, hc.2, hc.1⟩
    by_cases hc : c = '"' ∨ c = '\''
    · rw [stripComment, if_pos hc, quoteStep_quote hc]
    · rw [stripComment, if_neg hc, if_neg hcut]
      rw [not_or] at hc
      rw [quoteStep_none hc.1 hc.2]

/-- A text without a comment is passed over. -/
lemma stripComment_append {quote fresh cs} (h : stripComment quote fresh cs = cs)
    (rest : List Char) :
    stripComment quote fresh (cs ++ rest) =
      cs ++ stripComment (quoteAfter quote cs) (freshAfter fresh cs) rest := by
  induction cs generalizing quote fresh with
  | nil => rfl
  | cons c cs ih =>
    have hnext : ¬ (quote = none ∧ fresh = true ∧ c = '#') := by
      rintro ⟨rfl, rfl, rfl⟩
      rw [stripComment_mark] at h
      cases h
    rw [stripComment_cons hnext] at h
    rw [List.cons_append, stripComment_cons hnext, ih (List.cons.inj h).2]
    rfl

/-- A comment starts at a `#`, and the text before it has none. -/
lemma exists_of_stripComment_ne {quote fresh cs} (h : stripComment quote fresh cs ≠ cs) :
    ∃ front back, cs = front ++ '#' :: back ∧ stripComment quote fresh front = front ∧
      Bare quote fresh front := by
  induction cs generalizing quote fresh with
  | nil => exact absurd rfl h
  | cons c cs ih =>
    by_cases hcut : quote = none ∧ fresh = true ∧ c = '#'
    · obtain ⟨rfl, rfl, rfl⟩ := hcut
      exact ⟨[], cs, rfl, rfl, rfl, rfl⟩
    · rw [stripComment_cons hcut] at h
      obtain ⟨front, back, rfl, hfront, hbare⟩ := ih fun heq => h (by rw [heq])
      refine ⟨c :: front, back, rfl, ?_, hbare⟩
      rw [stripComment_cons hcut, hfront]

/-- A hash that stands bare behind a text without a comment starts one. -/
lemma stripComment_append_mark {quote fresh front} (h : stripComment quote fresh front = front)
    (hbare : Bare quote fresh front) (back : List Char) :
    stripComment quote fresh (front ++ '#' :: back) = front := by
  rw [stripComment_append h, hbare.1, hbare.2, stripComment_mark, List.append_nil]

/-- The front of a text without a comment has none. -/
lemma stripComment_of_append {quote fresh front back}
    (h : stripComment quote fresh (front ++ back) = front ++ back) :
    stripComment quote fresh front = front := by
  by_contra hne
  obtain ⟨as, bs, rfl, has, hbare⟩ := exists_of_stripComment_ne hne
  rw [List.append_assoc, List.cons_append, stripComment_append_mark has hbare] at h
  simp at h

/-- A text is without a comment if and only if no `#` in it starts one. -/
theorem stripComment_eq_self_iff {quote fresh cs} :
    stripComment quote fresh cs = cs ↔
      ∀ front back, cs = front ++ '#' :: back → ¬ Bare quote fresh front := by
  constructor
  · rintro h front back rfl hbare
    rw [stripComment_append_mark (stripComment_of_append h) hbare] at h
    simp at h
  · intro h
    by_contra hne
    obtain ⟨front, back, hcs, -, hbare⟩ := exists_of_stripComment_ne hne
    exact h front back hcs hbare

/-- Cutting a comment leaves the front of the text. -/
lemma stripComment_isPrefix (quote : Option Char) (fresh : Bool) (cs : List Char) :
    stripComment quote fresh cs <+: cs := by
  by_cases h : stripComment quote fresh cs = cs
  · rw [h]
  · obtain ⟨front, back, rfl, hfront, hbare⟩ := exists_of_stripComment_ne h
    rw [stripComment_append_mark hfront hbare]
    exact List.prefix_append _ _

/-- What follows a comment does not matter. -/
lemma stripComment_append_of_ne {quote fresh cs} (h : stripComment quote fresh cs ≠ cs)
    (rest : List Char) : stripComment quote fresh (cs ++ rest) = stripComment quote fresh cs := by
  obtain ⟨front, back, rfl, hfront, hbare⟩ := exists_of_stripComment_ne h
  rw [List.append_assoc, List.cons_append, stripComment_append_mark hfront hbare,
    stripComment_append_mark hfront hbare]

end Keyplan.Line
