import Keyplan.Command.Actions
import Keyplan.Proofs.Reading
import Keyplan.Proofs.Spans

/-!
# Where an error points

The reader of an argument list fails at one lexeme, and each reason for it is a constructor of
`Fails`; all else that it does with a lexeme is `Advances`. What every advance keeps holds where a
reading fails (`run_error`). Two such invariants are used: the reader knows where it stands in the
text (`Placed`), and its depth counts the open parentheses (`LeavesOpen`). So an error points at a
character of the text, and the line that a report shows holds this character. The main statement is
`parse_error_points`.
-/

namespace Keyplan

namespace Scan
open Lexeme

/-- The reader cannot take the lexeme at `pos`. -/
inductive Fails (s : Scan) (pos : Nat) : Lexeme → ParseError → Prop where
  | comma :
    s.pending = .none →
    Fails s pos .comma (.missingToken (pos + 1))
  | closing :
    s.pending = .none →
    Fails s pos .closing (.missingToken (pos + 1))
  | nameless :
    s.pending = .none →
    Fails s pos .opening (.missingFunctionName (pos + 1))
  | tooDeep {start content since} :
    s.pending = .word start content since →
    maxDepth ≤ s.depth →
    Fails s pos .opening (.nestingTooDeep pos maxDepth)
  | callAgain {node} :
    s.pending = .call node →
    Fails s pos .opening (.unexpectedText pos)
  | wordAfterCall {node c} :
    s.pending = .call node →
    Fails s pos (.other c) (.unexpectedText pos)
  | brokenWord {start content since c} :
    s.pending = .word start content since →
    start + content.utf8ByteSize ≠ pos →
    Fails s pos (.other c) (.whitespaceInToken start)

/-- The reader takes the lexeme at `pos`, which `rest` follows, and the list goes on. -/
inductive Advances (s : Scan) (pos : Nat) (rest : List Lexeme) : Lexeme → Scan → Prop where
  | gap {x} :
    x.isGap = true →
    Advances s pos rest x s
  | continuation {carriage} :
    Advances s pos rest (.continuation carriage) { s with pending := s.pending.resume }
  | comma {node} :
    s.pending.close pos = .ok node →
    Advances s pos rest .comma { s with args := s.args ++ [node], pending := .none }
  | closing {node f outer} :
    s.pending.close pos = .ok node →
    s.outer = f :: outer →
    Advances s pos rest .closing
      ⟨s.depth - 1, f.args, .call (f.close (s.args ++ [node]) (pos + 1) rest), outer⟩
  | opening {start content since} :
    s.pending = .word start content since →
    s.depth < maxDepth →
    Advances s pos rest .opening
      ⟨s.depth + 1, [], .none, ⟨s.args, start, content, since⟩ :: s.outer⟩
  | other {c pending} :
    s.pending.extend pos c (.other c :: rest) = .ok pending →
    Advances s pos rest (.other c) { s with pending }

variable {s s' : Scan} {pos : Nat} {x : Lexeme} {xs rest : List Lexeme} {e : ParseError}

/-- A slot fails to end exactly if nothing stands in it. -/
lemma close_eq_error_iff {p : Pending} :
    p.close pos = .error e ↔ p = .none ∧ e = .missingToken (pos + 1) := by
  cases p <;> simp [Pending.close, eq_comm]

/-- The reader fails for no other reason. -/
lemma step_eq_error_iff : s.step pos x rest = .error e ↔ Fails s pos x e := by
  constructor
  · intro h
    cases x with
    | blockComment body closed => cases h
    | lineComment body => cases h
    | continuation carriage => cases h
    | blank c => cases h
    | comma =>
      rw [step] at h
      split at h
      · next hclose =>
        cases h
        obtain ⟨hnone, rfl⟩ := close_eq_error_iff.1 hclose
        exact .comma hnone
      · cases h
    | closing =>
      rw [step] at h
      split at h
      · next hclose =>
        cases h
        obtain ⟨hnone, rfl⟩ := close_eq_error_iff.1 hclose
        exact .closing hnone
      · cases h
      · cases h
    | opening =>
      rw [step] at h
      split at h
      · next hnone =>
        cases h
        exact .nameless hnone
      · next hcall =>
        cases h
        exact .callAgain hcall
      · next hword =>
        split at h
        · next hdepth =>
          cases h
          exact .tooDeep hword hdepth
        · cases h
    | other c =>
      rw [step] at h
      cases hpending : s.pending with
      | none => simp [hpending, Pending.extend] at h
      | call node =>
        simp only [hpending, Pending.extend, Except.error.injEq] at h
        exact h ▸ .wordAfterCall hpending
      | word start content since =>
        by_cases hpos : start + content.utf8ByteSize = pos
        · simp [hpending, Pending.extend, hpos] at h
        · simp only [hpending, Pending.extend, if_neg hpos, Except.error.injEq] at h
          exact h ▸ .brokenWord hpending hpos
  · intro h
    cases h with
    | comma hnone => simp [step, hnone, Pending.close]
    | closing hnone => simp [step, hnone, Pending.close]
    | nameless hnone => simp [step, hnone]
    | tooDeep hword hdepth => simp [step, hword, hdepth]
    | callAgain hcall => simp [step, hcall]
    | wordAfterCall hcall => simp [step, hcall, Pending.extend]
    | brokenWord hword hpos => simp [step, hword, Pending.extend, hpos]

/-- The list goes on in no other way. -/
lemma step_eq_more_iff : s.step pos x rest = .ok (.more s') ↔ Advances s pos rest x s' := by
  constructor
  · intro h
    cases x with
    | blockComment body closed =>
      cases h
      exact .gap rfl
    | lineComment body =>
      cases h
      exact .gap rfl
    | blank c =>
      cases h
      exact .gap rfl
    | continuation carriage =>
      cases h
      exact .continuation
    | comma =>
      rw [step] at h
      split at h
      · cases h
      · next hclose =>
        cases h
        exact .comma hclose
    | closing =>
      rw [step] at h
      split at h
      · cases h
      · cases h
      · next hclose houter =>
        cases h
        exact .closing hclose houter
    | opening =>
      rw [step] at h
      split at h
      · cases h
      · cases h
      · next hword =>
        split at h
        · cases h
        · next hdepth =>
          cases h
          exact .opening hword (Nat.lt_of_not_le hdepth)
    | other c =>
      rw [step] at h
      split at h
      · cases h
      · next hextend =>
        cases h
        exact .other hextend
  · intro h
    cases h with
    | gap hx => cases x <;> simp [isGap] at hx <;> rfl
    | continuation => rfl
    | comma hclose => simp [step, hclose]
    | closing hclose houter => simp [step, hclose, houter]
    | opening hword hdepth => simp [step, hword, Nat.not_le.2 hdepth]
    | other hextend => simp [step, hextend]

/-- What every advance keeps holds where a reading fails: at a lexeme, or at the end of the text. -/
theorem run_error {P : Scan → Nat → List Lexeme → Prop}
    (hstep : ∀ {s pos x rest s'}, P s pos (x :: rest) → Advances s pos rest x s' →
      P s' (pos + x.size) rest)
    (h : P s pos xs) (hrun : s.run pos xs = .error e) :
    (∃ s' pos' x rest, P s' pos' (x :: rest) ∧ Fails s' pos' x e) ∨
      ∃ s' pos', P s' pos' [] ∧ e = .unbalanced s'.depth := by
  induction xs generalizing s pos with
  | nil =>
    cases hrun
    exact .inr ⟨s, pos, h, rfl⟩
  | cons x rest ih =>
    rw [run] at hrun
    split at hrun
    · next hfail =>
      cases hrun
      exact .inl ⟨s, pos, x, rest, h, step_eq_error_iff.1 hfail⟩
    · cases hrun
    · next hmore => exact ih (hstep h (step_eq_more_iff.1 hmore)) hrun

end Scan

/-- The error is about the character `c` at `pos`. -/
inductive ParseError.Concerns : ParseError → Nat → Char → Prop where
  | missingToken {pos c} :
    c = ',' ∨ c = ')' →
    Concerns (.missingToken (pos + 1)) pos c
  | missingFunctionName {pos} :
    Concerns (.missingFunctionName (pos + 1)) pos '('
  | nestingTooDeep {pos} :
    Concerns (.nestingTooDeep pos maxDepth) pos '('
  | unexpectedText {pos c} :
    Text.isBlank c = false →
    c ∉ [',', ')'] →
    Concerns (.unexpectedText pos) pos c
  | whitespaceInToken {pos c} :
    Text.isBlank c = false →
    c ∉ [',', '(', ')'] →
    Concerns (.whitespaceInToken pos) pos c

/-- Of the parentheses of the lexemes and one more in front of them, `n` have no counterpart. -/
structure Lexeme.LeavesOpen (xs : List Lexeme) (n : Nat) : Prop where
  /-- Nothing closes the parenthesis in front. -/
  inside : ∀ front, front <+: xs → front.count .closing ≤ front.count .opening
  /-- Every closing parenthesis is the counterpart of an opening one. -/
  count : n + xs.count .closing = xs.count .opening + 1

/-- One more lexeme changes how many parentheses are open. -/
lemma Lexeme.LeavesOpen.snoc {xs : List Lexeme} {n m : Nat} {x} (h : LeavesOpen xs n) (hm : 1 ≤ m)
    (hx : m + [x].count .closing = n + [x].count .opening) : LeavesOpen (xs ++ [x]) m := by
  have hcount := h.count
  constructor
  · intro front hfront
    rcases List.prefix_concat_iff.1 hfront with rfl | hfront
    · simp only [List.count_append]
      omega
    · exact h.inside front hfront
  · simp only [List.count_append]
    omega

namespace Grammar
open Lexeme

variable {cs : List Char} {pos : Nat} {x : Lexeme} {rest : List Lexeme} {c : Char}

/-- Lexemes that stand at a place stand there one behind the other. -/
lemma StandAt.uncons (h : StandAt cs pos (x :: rest)) :
    StandAt cs pos [x] ∧ StandAt cs (pos + x.size) rest := by
  rw [← List.singleton_append] at h
  simpa using h.of_append

/-- A lexeme of one character stands in the text. -/
lemma StandAt.slice_char (h : StandAt cs pos (x :: rest)) (hx : x.chars = [c]) :
    Text.Slice cs pos (pos + c.utf8Size) [c] := by
  simpa [width, hx] using h.uncons.1.slice

/-- Where a word character stands, the text has neither a blank nor a delimiter. -/
lemma StandAt.plain (h : StandAt cs pos (.other c :: rest)) :
    Text.isBlank c = false ∧ c ∉ [',', '(', ')'] := by
  have hword : IsWord [.other c] := ⟨by simp, by simp [isOther]⟩
  exact hword.plain h.uncons.1.splits c (by simp [chars])

end Grammar

namespace Scan
open Lexeme Grammar

variable {s s' : Scan} {cs : List Char} {lo pos : Nat} {x : Lexeme} {all rest : List Lexeme}
  {e : ParseError}

/-- The reader stands at `pos` in the text, and its open word starts with a word character. Both
places are not before `lo`. -/
structure Placed (cs : List Char) (lo : Nat) (s : Scan) (pos : Nat) (xs : List Lexeme) : Prop where
  le : lo ≤ pos
  stand : StandAt cs pos xs
  word : ∀ {start content since}, s.pending = .word start content since →
    lo ≤ start ∧ ∃ c, Text.Slice cs start (start + c.utf8Size) [c] ∧
      Text.isBlank c = false ∧ c ∉ [',', '(', ')']

/-- A step past a lexeme keeps all places. -/
lemma Placed.advances (h : Placed cs lo s pos (x :: rest)) (hstep : Advances s pos rest x s') :
    Placed cs lo s' (pos + x.size) rest := by
  obtain ⟨hle, hstand, hword⟩ := h
  refine ⟨by omega, hstand.uncons.2, ?_⟩
  intro start content since hpending
  cases hstep with
  | gap _ => exact hword hpending
  | continuation =>
    cases hold : s.pending <;> simp [hold, Pending.resume] at hpending
  | comma _ => cases hpending
  | closing _ _ => cases hpending
  | opening _ _ => cases hpending
  | @other c _ hextend =>
    cases hpending
    cases hold : s.pending with
    | none =>
      rw [hold] at hextend
      cases hextend
      exact ⟨hle, c, hstand.slice_char rfl, hstand.plain⟩
    | call node =>
      rw [hold] at hextend
      cases hextend
    | word start' content' since' =>
      rw [hold, Pending.extend] at hextend
      split at hextend
      · -- the word gets longer at its end, so it starts where it did
        cases hextend
        exact hword hold
      · cases hextend

/-- An error of the reader is about a character that stands in the text. -/
lemma Fails.exists_concerns (h : Fails s pos x e) (hplaced : Placed cs lo s pos (x :: rest)) :
    ∃ p c, e.Concerns p c ∧ lo ≤ p ∧ Text.Slice cs p (p + c.utf8Size) [c] := by
  obtain ⟨hle, hstand, hword⟩ := hplaced
  cases h with
  | comma _ => exact ⟨pos, ',', .missingToken (.inl rfl), hle, hstand.slice_char rfl⟩
  | closing _ => exact ⟨pos, ')', .missingToken (.inr rfl), hle, hstand.slice_char rfl⟩
  | nameless _ => exact ⟨pos, '(', .missingFunctionName, hle, hstand.slice_char rfl⟩
  | tooDeep _ _ => exact ⟨pos, '(', .nestingTooDeep, hle, hstand.slice_char rfl⟩
  | callAgain _ =>
    have hconcerns : (ParseError.unexpectedText pos).Concerns pos '(' :=
      .unexpectedText (by decide) (by decide)
    exact ⟨pos, '(', hconcerns, hle, hstand.slice_char rfl⟩
  | @wordAfterCall node c _ =>
    obtain ⟨hblank, hdelim⟩ := hstand.plain
    exact ⟨pos, c, .unexpectedText hblank (by simp_all), hle, hstand.slice_char rfl⟩
  | brokenWord hpending _ =>
    obtain ⟨hstart, c, hslice, hblank, hdelim⟩ := hword hpending
    exact ⟨_, c, .whitespaceInToken hblank hdelim, hstart, hslice⟩

/-- The depth of the reader is the number of open parentheses of what it has passed. -/
structure Counted (all : List Lexeme) (s : Scan) (xs : List Lexeme) : Prop where
  passed : ∃ front, all = front ++ xs ∧ LeavesOpen front s.depth
  outer : s.depth = s.outer.length + 1
  le : s.depth ≤ maxDepth

/-- A step past a lexeme keeps the count of open parentheses. -/
lemma Counted.advances (h : Counted all s (x :: rest)) (hstep : Advances s pos rest x s') :
    Counted all s' rest := by
  obtain ⟨⟨front, hall, hopen⟩, houter, hle⟩ := h
  have passed : 1 ≤ s'.depth → s'.depth + [x].count .closing = s.depth + [x].count .opening →
      ∃ front, all = front ++ rest ∧ LeavesOpen front s'.depth := by
    intro hpos hcount
    exact ⟨front ++ [x], by simp [hall], hopen.snoc hpos hcount⟩
  cases hstep with
  | gap hx =>
    refine ⟨passed (by omega) ?_, houter, hle⟩
    cases x <;> simp [isGap] at hx <;> rfl
  | continuation => exact ⟨passed (by simp [houter]) (by simp), houter, hle⟩
  | comma _ => exact ⟨passed (by simp [houter]) (by simp), houter, hle⟩
  | closing _ hcons =>
    -- the list is inside another one, so at least one parenthesis stays open
    rw [hcons, List.length_cons] at houter
    refine ⟨passed ?_ ?_, ?_, ?_⟩
    · simp [houter]
    · simp [houter]
    · simp [houter]
    · simp only
      omega
  | opening _ hdepth => exact ⟨passed (by simp) (by simp), by simp [houter], hdepth⟩
  | other _ => exact ⟨passed (by simp [houter]) (by simp), houter, hle⟩

end Scan

namespace Text

/-- The place `offset` of the text, which cuts its line in two, and the lines above and below. -/
structure LineAt (cs : List Char) (offset : Nat) (above lead rest below : List Char) : Prop where
  eq : cs = above ++ lead ++ (rest ++ below)
  offset_eq : offset = size (above ++ lead)
  single : '\n' ∉ lead ++ rest
  above_end : above = [] ∨ ['\n'] <:+ above
  below_start : below = [] ∨ ['\n'] <+: below

/-- A line starts behind the last line feed or with the text. -/
lemma exists_line_start (cs : List Char) :
    ∃ above lead, cs = above ++ lead ∧ '\n' ∉ lead ∧ (above = [] ∨ ['\n'] <:+ above) := by
  obtain ⟨lead, above, hcs, hlead, habove⟩ := Lexeme.exists_line_end cs.reverse
  refine ⟨above.reverse, lead.reverse, ?_, by simpa using hlead, ?_⟩
  · rw [← List.reverse_append, ← hcs, List.reverse_reverse]
  · rw [List.reverse_eq_nil_iff, ← List.reverse_prefix, List.reverse_reverse]
    exact habove

/-- The places before and after a character that ends no line are on its line. -/
lemma exists_lineAt {cs : List Char} {pos : Nat} {c : Char} (hc : c ≠ '\n')
    (h : Slice cs pos (pos + c.utf8Size) [c]) :
    ∃ above left right below, pos = size (above ++ left) ∧
      LineAt cs pos above left (c :: right) below ∧
      LineAt cs (pos + c.utf8Size) above (left ++ [c]) right below := by
  obtain ⟨before, after, rfl, rfl, -⟩ := h
  obtain ⟨above, left, rfl, hleft, habove⟩ := exists_line_start before
  obtain ⟨right, below, rfl, hright, hbelow⟩ := Lexeme.exists_line_end after
  refine ⟨above, left, right, below, rfl, ⟨by simp, rfl, ?_, habove, hbelow⟩,
    ⟨by simp, by simp [Nat.add_assoc], ?_, habove, hbelow⟩⟩
  · simp [hleft, hright, hc.symm]
  · simp [hleft, hright, hc.symm]

/-- The rest of a line is what stands before the next line feed. -/
lemma takeWhile_line {line rest : List Char} (hline : '\n' ∉ line)
    (hrest : rest = [] ∨ ['\n'] <+: rest) : (line ++ rest).takeWhile (· != '\n') = line := by
  have hall : ∀ c ∈ line, (c != '\n') = true := by
    intro c hc
    rw [bne_iff_ne]
    rintro rfl
    exact hline hc
  rw [List.takeWhile_append_of_pos hall]
  rcases hrest with rfl | ⟨more, rfl⟩
  · simp
  · simp

end Text

namespace Report

/-- A line with its number, and a mark below the place that cuts it in two. -/
def marked (number : Nat) (lead rest : List Char) : String :=
  alignRight 5 (toString number) ++ " | " ++ String.ofList (lead ++ rest) ++ "\n" ++
    alignRight 5 "" ++ " | " ++ String.ofList (List.replicate lead.length ' ') ++ "^\n"

/-- A report shows the whole line of the place. -/
lemma excerpt_eq {text : String} {offset above lead rest below}
    (h : Text.LineAt text.toList offset above lead rest below) :
    excerpt text offset = marked (above.count '\n' + 1) lead rest := by
  obtain ⟨heq, rfl, hsingle, habove, hbelow⟩ := h
  rw [List.mem_append, not_or] at hsingle
  have hbefore : ((above ++ lead).reverse.takeWhile (· != '\n')).reverse = lead := by
    rw [List.reverse_append, Text.takeWhile_line, List.reverse_reverse]
    · simpa using hsingle.1
    · rw [List.reverse_eq_nil_iff, ← List.reverse_suffix, List.reverse_reverse]
      exact habove
  have hcount : (above ++ lead).count '\n' = above.count '\n' := by
    rw [List.count_append, List.count_eq_zero.2 hsingle.1, Nat.add_zero]
  rw [excerpt, heq, Text.takeBytes_size, Text.dropBytes_size]
  simp only [hbefore, hcount, Text.takeWhile_line hsingle.2 hbelow, marked]

end Report

namespace ParseError

variable {e : ParseError} {pos : Nat} {c : Char}

/-- The place of an error is before or after the character that it is about. -/
lemma Concerns.offset (h : e.Concerns pos c) {offset} (hoffset : e.offset? = some offset) :
    offset = pos ∨ offset = pos + c.utf8Size := by
  cases h with
  | missingToken hc =>
    cases hoffset
    rcases hc with rfl | rfl
    · exact .inr rfl
    · exact .inr rfl
  | missingFunctionName =>
    cases hoffset
    exact .inr rfl
  | nestingTooDeep =>
    cases hoffset
    exact .inl rfl
  | unexpectedText _ _ =>
    cases hoffset
    exact .inl rfl
  | whitespaceInToken _ _ =>
    cases hoffset
    exact .inl rfl

/-- No error is about the end of a line. -/
lemma Concerns.ne_newline (h : e.Concerns pos c) : c ≠ '\n' := by
  rintro rfl
  cases h with
  | missingToken hc => exact absurd hc (by decide)
  | unexpectedText hblank _ => exact absurd hblank (by decide)
  | whitespaceInToken hblank _ => exact absurd hblank (by decide)

end ParseError

namespace Keymap
open Invocation Lexeme Grammar

variable {text : String} {layers : List (List Node)} {origin stop : Nat} {inv next : Invocation}
  {keys : Option Nat} {e : ParseError}

/-- A layer that does not fit is named with both counts. -/
lemma firstMismatch?_eq_some {expected layer} (h : firstMismatch? expected layer layers = some e) :
    ∃ layer expected actual, e = .layerCountMismatch layer expected actual := by
  induction layers generalizing layer with
  | nil => cases h
  | cons row layers ih =>
    rw [firstMismatch?] at h
    split at h
    · exact ih h
    · cases h
      exact ⟨_, _, _, rfl⟩

/-- Wrong numbers of keys are reported as such. -/
lemma countError?_eq_some (h : countError? layers keys = some e) :
    (∃ layer expected actual, e = .layerCountMismatch layer expected actual) ∨
      ∃ expected actual, e = .keyCountMismatch expected actual := by
  rw [countError?.eq_def] at h
  cases hfirst : firstMismatch? ((layers.head?.map List.length).getD 0) 0 layers with
  | some e' =>
    simp only [hfirst, Option.some.injEq] at h
    exact .inl (h ▸ firstMismatch?_eq_some hfirst)
  | none =>
    simp only [hfirst] at h
    split at h
    · cases h
    · split at h
      · cases h
      · exact .inr ⟨_, _, (Option.some.inj h).symm⟩

/-- A text is no keymap because an argument list cannot be read, or it has no layout, or the numbers
of keys are wrong. -/
lemma parse_error_cases [PatternEngine] (h : parse text keys = .error e) :
    (∃ layers origin inv, Reached text layers origin ∧ find? text origin = .ok (some inv) ∧
      readRow text inv = .error e) ∨
    e = .missingInvocation ∨
    (∃ layer expected actual, e = .layerCountMismatch layer expected actual) ∨
    ∃ expected actual, e = .keyCountMismatch expected actual := by
  obtain ⟨layers, stop, hreached, hnone | ⟨inv, e', hinv, hread⟩⟩ := exists_reached text
  · refine .inr ?_
    by_cases hlayers : layers = []
    · subst hlayers
      generalize hnil : ([] : List (List Node)) = layers at hreached
      cases hreached with
      | start =>
        have hsearch : search 0 none 0 text.toList = none := by simpa [find?_zero] using hnone
        simp only [parse, hsearch, Except.error.injEq] at h
        exact .inl h.symm
      | next _ _ _ => simp at hnil
    · obtain ⟨keyword, settings, hparse⟩ := hreached.exists_parse_eq hnone hlayers keys
      rw [h] at hparse
      split at hparse
      · next hcount =>
        cases hparse
        exact .inr (countError?_eq_some hcount)
      · cases hparse
  · rw [hreached.parse_error hinv hread keys] at h
    cases h
    exact .inl ⟨layers, stop, inv, hreached, hinv, hread⟩

/-- The next layout starts behind the argument list of the one before. -/
lemma argsStart_le_of_readRow (hinv : find? text origin = .ok (some inv)) {row left}
    (hread : readRow text inv = .ok (row, stop, left))
    (hnext : find? text stop = .ok (some next)) : inv.argsStart ≤ next.argsStart := by
  obtain ⟨front, htext, hstop⟩ := exists_front_of_readRow hinv hread
  obtain ⟨body, xs, -, hbody, -⟩ := Grammar.readArguments_eq_ok_iff.1 hread
  rw [hstop, find?_of_append htext, ← hstop] at hnext
  obtain ⟨⟨_, rest⟩, hsearch, rfl⟩ := Option.map_eq_some_iff.1 (Except.ok.inj hnext)
  obtain ⟨head, -, hargs, -⟩ := exists_head_of_search hsearch
  simp only [hargs, hbody]
  omega

/-- The first layout of the text is not behind one that is reached. -/
lemma Reached.exists_first (h : Reached text layers origin)
    (hinv : find? text origin = .ok (some inv)) :
    ∃ first, find? text 0 = .ok (some first) ∧ first.argsStart ≤ inv.argsStart := by
  induction h generalizing inv with
  | start => exact ⟨inv, hinv, Nat.le_refl _⟩
  | next _ hinv' hread ih =>
    obtain ⟨first, hfirst, hle⟩ := ih hinv'
    exact ⟨first, hfirst, hle.trans (argsStart_le_of_readRow hinv' hread hinv)⟩

/-- If an argument list cannot be read, the error is about a character of the list, or the text ends
inside it. -/
lemma readRow_error (hinv : find? text origin = .ok (some inv))
    (hread : readRow text inv = .error e) :
    (∃ pos c, e.Concerns pos c ∧ inv.argsStart ≤ pos ∧
      Text.Slice text.toList pos (pos + c.utf8Size) [c]) ∨
    ∃ opened, e = .unbalanced opened ∧ 1 ≤ opened ∧ opened ≤ maxDepth ∧
      LeavesOpen (lex .code (Text.dropBytes inv.argsStart text.toList)) opened := by
  obtain ⟨head, htext, hargs, -⟩ := exists_head_of_find? hinv
  have hsplit := splits_lex (Text.dropBytes inv.argsStart text.toList)
  have hplaced : Scan.Placed text.toList inv.argsStart { depth := 1 } inv.argsStart
      (lex .code (Text.dropBytes inv.argsStart text.toList)) := by
    refine ⟨Nat.le_refl _, ⟨head, [], ?_, hargs, hsplit.text_eq.symm ▸ hsplit⟩, nofun⟩
    rw [hsplit.text_eq, List.append_nil]
    exact htext
  have hcounted : Scan.Counted (lex .code (Text.dropBytes inv.argsStart text.toList)) { depth := 1 }
      (lex .code (Text.dropBytes inv.argsStart text.toList)) := by
    refine ⟨⟨[], rfl, ?_, rfl⟩, rfl, by decide⟩
    intro front hfront
    rw [List.prefix_nil.1 hfront]
    exact Nat.le_refl _
  rw [readRow, readArguments] at hread
  split at hread
  · next hrun =>
    cases hread
    -- the places matter if a lexeme is at fault, the count if the text ends
    rcases Scan.run_error (P := fun s pos xs => Scan.Placed text.toList inv.argsStart s pos xs ∧
        Scan.Counted (lex .code (Text.dropBytes inv.argsStart text.toList)) s xs)
      (fun h hstep => ⟨h.1.advances hstep, h.2.advances hstep⟩) ⟨hplaced, hcounted⟩ hrun
      with ⟨s, pos, x, rest, ⟨hp, -⟩, hfail⟩ | ⟨s, pos, ⟨-, hc⟩, rfl⟩
    · exact .inl (hfail.exists_concerns hp)
    · obtain ⟨front, hall, hopen⟩ := hc.passed
      rw [List.append_nil] at hall
      refine .inr ⟨s.depth, rfl, ?_, hc.le, hall ▸ hopen⟩
      rw [hc.outer]
      exact Nat.le_add_left _ _
  · cases hread

/-- A character that an error is about is on the line that the report shows. -/
lemma exists_line_of_concerns {pos offset : Nat} {c : Char} (h : e.Concerns pos c)
    (hoffset : e.offset? = some offset)
    (hslice : Text.Slice text.toList pos (pos + c.utf8Size) [c]) :
    ∃ above lead rest below left right, Text.LineAt text.toList offset above lead rest below ∧
      lead ++ rest = left ++ c :: right ∧ pos = Text.size (above ++ left) ∧
      ∀ path, Report.parseError path text e = "✗ " ++ path ++ ": " ++ e.message ++ "\n" ++
        Report.marked (above.count '\n' + 1) lead rest := by
  obtain ⟨above, left, right, below, hpos, hat, hafter⟩ :=
    Text.exists_lineAt h.ne_newline hslice
  have report : ∀ {lead rest}, Text.LineAt text.toList offset above lead rest below → ∀ path,
      Report.parseError path text e = "✗ " ++ path ++ ": " ++ e.message ++ "\n" ++
        Report.marked (above.count '\n' + 1) lead rest := by
    intro lead rest hline path
    rw [← Report.excerpt_eq hline, Report.parseError, hoffset]
  rcases h.offset hoffset with rfl | rfl
  · exact ⟨above, left, c :: right, below, left, right, hat, rfl, hpos, report hat⟩
  · exact ⟨above, left ++ [c], right, below, left, right, hafter, by simp, hpos, report hafter⟩

/-- Every error that has a place points at a character of the text, and the report shows the line of
this character. The place is inside the text, between two characters, and not before the arguments
of the first layout; what `Concerns` says of the error and `c` holds of the character at `pos`; and
the lines above, the two parts of the line and the lines below make up the text. If the text ends
inside a list, the error counts the parentheses of the last layout, its own included, that are open
there outside comments. -/
theorem parse_error_points [PatternEngine] (h : parse text keys = .error e) :
    (∀ offset, e.offset? = some offset →
      offset ≤ text.utf8ByteSize ∧ (⟨offset⟩ : String.Pos.Raw).IsValid text ∧
      (∃ first, find? text 0 = .ok (some first) ∧ first.argsStart ≤ offset) ∧
      ∃ pos c, e.Concerns pos c ∧ Text.Slice text.toList pos (pos + c.utf8Size) [c] ∧
        ∃ above lead rest below left right, Text.LineAt text.toList offset above lead rest below ∧
          lead ++ rest = left ++ c :: right ∧ pos = Text.size (above ++ left) ∧
          ∀ path, Report.parseError path text e = "✗ " ++ path ++ ": " ++ e.message ++ "\n" ++
            Report.marked (above.count '\n' + 1) lead rest) ∧
    ∀ opened, e = .unbalanced opened → 1 ≤ opened ∧ opened ≤ maxDepth ∧
      ∃ layers origin inv, Reached text layers origin ∧ find? text origin = .ok (some inv) ∧
        LeavesOpen (lex .code (Text.dropBytes inv.argsStart text.toList)) opened := by
  rcases parse_error_cases h with ⟨layers, origin, inv, hreached, hinv, hread⟩ |
    rfl | ⟨_, _, _, rfl⟩ | ⟨_, _, rfl⟩
  · rcases readRow_error hinv hread with ⟨pos, c, hconcerns, hle, hslice⟩ |
      ⟨opened, rfl, hpos, hmax, hopen⟩
    · refine ⟨?_, ?_⟩
      · intro offset hoffset
        obtain ⟨first, hfirst, hfirstLe⟩ := hreached.exists_first hinv
        have hplace := hconcerns.offset hoffset
        have hvalid : (⟨offset⟩ : String.Pos.Raw).IsValid text := by
          rcases hplace with rfl | rfl
          · exact hslice.isValid.1
          · exact hslice.isValid.2
        exact ⟨hvalid.le_utf8ByteSize, hvalid, ⟨first, hfirst, by omega⟩, pos, c, hconcerns, hslice,
          exists_line_of_concerns hconcerns hoffset hslice⟩
      · rintro opened rfl
        cases hconcerns
    · refine ⟨nofun, ?_⟩
      intro opened' heq
      cases heq
      exact ⟨hpos, hmax, layers, origin, inv, hreached, hinv, hopen⟩
  · exact ⟨nofun, nofun⟩
  · exact ⟨nofun, nofun⟩
  · exact ⟨nofun, nofun⟩

/-- An error behind wide characters and a line end, and a text that ends behind a comment. -/
theorem parse_error_points_samples :
    parse "LAYOUT(é,\r\n  F(ß)ü)" none = .error (.unexpectedText 19) ∧
      (⟨19⟩ : String.Pos.Raw).IsValid "LAYOUT(é,\r\n  F(ß)ü)" ∧
      (∃ c, (ParseError.unexpectedText 19).Concerns 19 c ∧
        Text.Slice "LAYOUT(é,\r\n  F(ß)ü)".toList 19 (19 + c.utf8Size) [c]) ∧
      parse "LAYOUT(A) LAYOUT(B, F(C /* ) */" (some 7) = .error (.unbalanced 2) ∧
      ∃ layers origin inv, Reached "LAYOUT(A) LAYOUT(B, F(C /* ) */" layers origin ∧
        find? "LAYOUT(A) LAYOUT(B, F(C /* ) */" origin = .ok (some inv) ∧
        LeavesOpen (lex .code
          (Text.dropBytes inv.argsStart "LAYOUT(A) LAYOUT(B, F(C /* ) */".toList)) 2 := by
  have hplace : parse "LAYOUT(é,\r\n  F(ß)ü)" none = .error (.unexpectedText 19) := by cbv
  have hopen : parse "LAYOUT(A) LAYOUT(B, F(C /* ) */" (some 7) = .error (.unbalanced 2) := by cbv
  obtain ⟨-, hvalid, -, pos, c, hconcerns, hslice, -⟩ := (parse_error_points hplace).1 19 rfl
  have hpos : pos = 19 := by
    cases hconcerns
    rfl
  subst hpos
  exact ⟨hplace, hvalid, ⟨c, hconcerns, hslice⟩, hopen, ((parse_error_points hopen).2 2 rfl).2.2⟩

end Keymap

end Keyplan
