import Keyplan.Arguments
import Keyplan.Proofs.Splitting

/-!
# The grammar of argument lists

What an argument list is, said over lexemes and without the reader's states: slots separated by
commas up to a closing parenthesis, where a slot is a word or a call and may be led by text that a
continuation makes void (`Slot`, `Listing`). `Slot.run` and `Listing.run` say that the reader takes
every derivation, and `Open.listing_of_run` that it takes nothing else, by the relation `Open`
between the open argument of the reader and the lexemes it came from. The main statement is
`readArguments_eq_ok_iff`.
-/

namespace Keyplan

namespace Lexeme

/-- Number of bytes of consecutive lexemes. -/
def width (xs : List Lexeme) : Nat :=
  Text.size (text xs)

@[simp] theorem width_nil : width [] = 0 := rfl

@[simp] theorem width_cons (x : Lexeme) (xs : List Lexeme) :
    width (x :: xs) = x.size + width xs := by
  simp [width, size]

@[simp] theorem width_append (xs ys : List Lexeme) : width (xs ++ ys) = width xs + width ys := by
  simp [width]

@[simp] theorem size_comma : Lexeme.comma.size = 1 := rfl

@[simp] theorem size_opening : Lexeme.opening.size = 1 := rfl

@[simp] theorem size_closing : Lexeme.closing.size = 1 := rfl

/-- A lexeme takes at least one byte. -/
lemma size_pos (x : Lexeme) : 0 < x.size := by
  obtain ⟨c, cs, hcs⟩ := List.exists_cons_of_ne_nil x.chars_ne_nil
  have := c.utf8Size_pos
  rw [size, hcs, Text.size_cons]
  omega

/-- Lexemes without width are no lexemes. -/
lemma eq_nil_of_width {xs} (h : width xs = 0) : xs = [] := by
  cases xs with
  | nil => rfl
  | cons x xs =>
    have := x.size_pos
    rw [width_cons] at h
    omega

/-- Lexemes take at least one byte. -/
lemma width_pos {xs} (h : xs ≠ []) : 0 < width xs := by
  rw [Nat.pos_iff_ne_zero]
  exact fun hwidth => h (eq_nil_of_width hwidth)

/-- The text of lexemes has their width. -/
lemma utf8ByteSize_text (xs : List Lexeme) : (String.ofList (text xs)).utf8ByteSize = width xs :=
  Text.size_ofList (text xs)

/-- Whether the lexeme is a blank or a comment. -/
def isGap : Lexeme → Bool
  | .blockComment _ _ | .lineComment _ | .blank _ => true
  | _ => false

/-- Whether the lexeme is a character of a word. -/
def isOther : Lexeme → Bool
  | .other _ => true
  | _ => false

end Lexeme

namespace Grammar
open Lexeme

/-- Any number of blanks and comments. -/
def IsGaps (xs : List Lexeme) : Prop :=
  ∀ x ∈ xs, x.isGap = true

/-- One or more adjacent word characters. -/
def IsWord (xs : List Lexeme) : Prop :=
  xs ≠ [] ∧ ∀ x ∈ xs, x.isOther = true

/-- What may follow a finished call: blanks, comments and continuations. -/
def IsTail (xs : List Lexeme) : Prop :=
  ∀ x ∈ xs, x.isGap = true ∨ ∃ carriage, x = .continuation carriage

/-- What may lead a slot: blanks, comments, continuations, and words that a continuation drops. -/
inductive Lead : List Lexeme → Prop where
  | nil :
    Lead []
  | gap {x xs} :
    x.isGap = true →
    Lead xs →
    Lead (x :: xs)
  | continuation {carriage xs} :
    Lead xs →
    Lead (.continuation carriage :: xs)
  | dropped {word gaps carriage xs} :
    IsWord word →
    IsGaps gaps →
    Lead xs →
    Lead (word ++ gaps ++ .continuation carriage :: xs)

mutual

/-- The lexemes, which start at `pos` inside `depth` open parentheses, are one argument. -/
inductive Slot : Nat → Nat → List Lexeme → Node → Prop where
  | word {depth pos lead word gaps} :
    Lead lead →
    IsWord word →
    IsGaps gaps →
    Slot depth pos (lead ++ word ++ gaps)
      (.word (String.ofList (text word)) (pos + width lead)
        (pos + width lead + width word + width gaps))
  | call {depth pos lead name gaps inner args tail} :
    Lead lead →
    IsWord name →
    IsGaps gaps →
    depth < maxDepth →
    Listing (depth + 1) (pos + width lead + width name + width gaps + 1) inner args →
    IsTail tail →
    Slot depth pos (lead ++ (name ++ gaps ++ .opening :: inner) ++ tail)
      (.call (String.ofList (text name)) args (pos + width lead)
        (pos + width lead + width (name ++ gaps ++ .opening :: inner))
        (String.ofList (text (name ++ gaps ++ .opening :: inner))))

/-- The lexemes, which start at `pos` inside `depth` open parentheses, are the arguments up to the
closing parenthesis. -/
inductive Listing : Nat → Nat → List Lexeme → List Node → Prop where
  | last {depth pos xs node} :
    Slot depth pos xs node →
    Listing depth pos (xs ++ [.closing]) [node]
  | more {depth pos xs node ys nodes} :
    Slot depth pos xs node →
    Listing depth (pos + width xs + 1) ys nodes →
    Listing depth pos (xs ++ .comma :: ys) (node :: nodes)

end

end Grammar

namespace Scan
open Lexeme

/-- What the reader goes on with once the innermost list is complete. -/
def leave (depth : Nat) (args : List Node) (pos : Nat) (rest : List Lexeme) :
    List Frame → Except ParseError (List Node × Nat × List Lexeme)
  | [] => .ok (args, pos, rest)
  | f :: outer => run ⟨depth - 1, f.args, .call (f.close args pos rest), outer⟩ pos rest

variable {depth pos : Nat} {args : List Node} {pending : Pending} {outer : List Frame}
  {rest : List Lexeme}

/-- Blanks and comments change nothing. -/
lemma run_gap {s : Scan} {x} (hx : x.isGap = true) :
    run s pos (x :: rest) = run s (pos + x.size) rest := by
  cases x <;> simp [isGap] at hx <;> rfl

/-- A continuation drops an open word. -/
lemma run_continuation {s : Scan} {carriage} :
    run s pos (.continuation carriage :: rest) =
      run { s with pending := s.pending.resume } (pos + (Lexeme.continuation carriage).size) rest :=
  rfl

/-- A comma finishes an argument. -/
lemma run_comma {node} (h : pending.close pos = .ok node) :
    run ⟨depth, args, pending, outer⟩ pos (.comma :: rest) =
      run ⟨depth, args ++ [node], .none, outer⟩ (pos + 1) rest := by
  simp [run, step, h]

/-- A closing parenthesis finishes an argument and its list. -/
lemma run_closing {node} (h : pending.close pos = .ok node) :
    run ⟨depth, args, pending, outer⟩ pos (.closing :: rest) =
      leave depth (args ++ [node]) (pos + 1) rest outer := by
  cases outer with
  | nil => simp [run, step, leave, h]
  | cons f outer => simp [run, step, leave, h]

/-- An opening parenthesis after a word starts the list of a call. -/
lemma run_opening {start content since} (h : depth < maxDepth) :
    run ⟨depth, args, .word start content since, outer⟩ pos (.opening :: rest) =
      run ⟨depth + 1, [], .none, ⟨args, start, content, since⟩ :: outer⟩ (pos + 1) rest := by
  simp [run, step, Nat.not_le.2 h]

end Scan

namespace Grammar
open Lexeme

section Completeness

variable {depth pos : Nat} {args : List Node} {outer : List Frame} {rest : List Lexeme}

/-- The reader passes over blanks and comments. -/
lemma run_gaps {s : Scan} {gaps} (h : IsGaps gaps) :
    s.run pos (gaps ++ rest) = s.run (pos + width gaps) rest := by
  induction gaps generalizing pos with
  | nil => rfl
  | cons x gaps ih =>
    obtain ⟨hx, hgaps⟩ := List.forall_mem_cons.1 h
    rw [List.cons_append, Scan.run_gap hx, ih hgaps, width_cons, Nat.add_assoc]

/-- The reader passes over what follows a finished call. -/
lemma run_tail {node tail} (h : IsTail tail) :
    Scan.run ⟨depth, args, .call node, outer⟩ pos (tail ++ rest) =
      Scan.run ⟨depth, args, .call node, outer⟩ (pos + width tail) rest := by
  induction tail generalizing pos with
  | nil => rfl
  | cons x tail ih =>
    obtain ⟨hx, htail⟩ := List.forall_mem_cons.1 h
    rw [List.cons_append, width_cons, ← Nat.add_assoc, ← ih htail]
    rcases hx with hx | ⟨carriage, rfl⟩
    · exact Scan.run_gap hx
    · exact Scan.run_continuation

/-- The reader adds adjacent characters to an open word. -/
lemma run_word_more {start content since word} (h : ∀ x ∈ word, x.isOther = true)
    (hpos : start + content.utf8ByteSize = pos) :
    Scan.run ⟨depth, args, .word start content since, outer⟩ pos (word ++ rest) =
      Scan.run ⟨depth, args, .word start (content ++ String.ofList (text word)) since, outer⟩
        (pos + width word) rest := by
  induction word generalizing content pos with
  | nil => simp
  | cons x word ih =>
    obtain ⟨hx, hword⟩ := List.forall_mem_cons.1 h
    cases x with
    | other c =>
      have hpush : start + (content.push c).utf8ByteSize = pos + (other c).size := by
        simp [size, chars]
        omega
      have hcontent : content.push c ++ String.ofList (text word) =
          content ++ String.ofList (text (.other c :: word)) := by
        apply String.toList_injective
        simp [chars]
      rw [List.cons_append, Scan.run, width_cons, ← Nat.add_assoc, ← hcontent, ← ih hword hpush]
      simp [Scan.step, Pending.extend, hpos]
    | _ => cases hx

/-- The reader takes a whole word. -/
lemma run_word {word} (h : IsWord word) :
    Scan.run ⟨depth, args, .none, outer⟩ pos (word ++ rest) =
      Scan.run ⟨depth, args, .word pos (String.ofList (text word)) (word ++ rest), outer⟩
        (pos + width word) rest := by
  obtain ⟨hne, h⟩ := h
  obtain ⟨x, word, rfl⟩ := List.exists_cons_of_ne_nil hne
  obtain ⟨hx, hword⟩ := List.forall_mem_cons.1 h
  cases x with
  | other c =>
    have hpos : pos + (String.singleton c).utf8ByteSize = pos + (other c).size := by
      simp [size, chars]
    have hcontent : String.singleton c ++ String.ofList (text word) =
        String.ofList (text (.other c :: word)) := by
      apply String.toList_injective
      simp [chars]
    rw [List.cons_append, Scan.run, width_cons, ← Nat.add_assoc, ← hcontent,
      ← run_word_more hword hpos]
    rfl
  | _ => cases hx

/-- The reader is as before after what leads a slot. -/
lemma Lead.run {lead} (h : Lead lead) :
    Scan.run ⟨depth, args, .none, outer⟩ pos (lead ++ rest) =
      Scan.run ⟨depth, args, .none, outer⟩ (pos + width lead) rest := by
  induction h generalizing pos with
  | nil => rfl
  | gap hx _ ih =>
    rw [List.cons_append, Scan.run_gap hx, ih, width_cons, Nat.add_assoc]
  | continuation _ ih =>
    rw [List.cons_append, Scan.run_continuation, width_cons, ← Nat.add_assoc]
    exact ih
  | dropped hword hgaps _ ih =>
    -- the word is open until the continuation drops it
    rw [List.append_assoc, List.append_assoc, run_word hword, run_gaps hgaps, List.cons_append,
      Scan.run_continuation]
    simp only [width_append, width_cons, ← Nat.add_assoc]
    exact ih

/-- The source of a call is the text from its name to its closing parenthesis. -/
lemma close_frame {start name front} {nodes : List Node} :
    Frame.close ⟨args, start, name, front ++ rest⟩ nodes pos rest =
      .call name nodes start pos (String.ofList (text front)) := by
  simp [Frame.close]

mutual

/-- The reader takes every slot and then holds its node. -/
theorem Slot.run : ∀ {depth pos xs node}, Slot depth pos xs node → ∀ args outer rest,
    ∃ pending : Pending, pending.close (pos + width xs) = .ok node ∧
      Scan.run ⟨depth, args, .none, outer⟩ pos (xs ++ rest) =
        Scan.run ⟨depth, args, pending, outer⟩ (pos + width xs) rest
  | _, pos, _, _, @Slot.word _ _ lead word gaps hlead hword hgaps, _, _, rest => by
    refine ⟨.word (pos + width lead) (String.ofList (text word)) (word ++ (gaps ++ rest)), ?_, ?_⟩
    · simp [Pending.close, Nat.add_assoc]
    · rw [List.append_assoc, List.append_assoc, hlead.run, run_word hword, run_gaps hgaps]
      simp only [width_append, Nat.add_assoc]
  | depth, pos, _, _,
      @Slot.call _ _ lead name gaps inner nodes tail hlead hname hgaps hdepth hinner htail,
      _, _, rest => by
    refine ⟨.call _, rfl, ?_⟩
    -- the frame of the call holds the lexemes from the name on, and its source is cut out of them
    have hsince : name ++ (gaps ++ (.opening :: inner ++ (tail ++ rest))) =
        name ++ gaps ++ .opening :: inner ++ (tail ++ rest) := by simp
    simp only [List.append_assoc]
    rw [hlead.run, run_word hname, run_gaps hgaps, List.cons_append, Scan.run_opening hdepth,
      hinner.run]
    simp only [Scan.leave, List.nil_append, Nat.add_sub_cancel]
    rw [← List.cons_append, hsince, close_frame, run_tail htail]
    simp [Nat.add_assoc, Nat.add_comm 1]

/-- The reader takes every list and then goes on outside it. -/
theorem Listing.run : ∀ {depth pos xs nodes}, Listing depth pos xs nodes → ∀ args outer rest,
    Scan.run ⟨depth, args, .none, outer⟩ pos (xs ++ rest) =
      Scan.leave depth (args ++ nodes) (pos + width xs) rest outer
  | _, _, _, _, @Listing.last _ _ xs _ hslot, args, outer, rest => by
    obtain ⟨_, hclose, hrun⟩ := hslot.run args outer (.closing :: rest)
    rw [List.append_assoc, List.singleton_append, hrun, Scan.run_closing hclose]
    simp [Nat.add_assoc]
  | _, _, _, _, @Listing.more _ _ xs _ ys _ hslot hlist, args, outer, rest => by
    obtain ⟨_, hclose, hrun⟩ := hslot.run args outer (.comma :: (ys ++ rest))
    rw [List.append_assoc, List.cons_append, hrun, Scan.run_comma hclose, hlist.run]
    simp [Nat.add_assoc]

end

end Completeness

section Soundness

/-- The lexemes, which start at `pos`, made the reader hold the pending argument before `rest`. -/
inductive Open : Nat → Nat → List Lexeme → Pending → List Lexeme → Prop where
  | none {depth pos lead rest} :
    Lead lead →
    Open depth pos lead .none rest
  | word {depth pos lead word gaps rest} :
    Lead lead →
    IsWord word →
    IsGaps gaps →
    Open depth pos (lead ++ word ++ gaps)
      (.word (pos + width lead) (String.ofList (text word)) (word ++ gaps ++ rest)) rest
  | call {depth pos xs name args start stop source rest} :
    Slot depth pos xs (.call name args start stop source) →
    Open depth pos xs (.call (.call name args start stop source)) rest

variable {depth pos : Nat} {xs rest : List Lexeme} {pending : Pending} {x : Lexeme}

/-- Two leads make a lead. -/
lemma Lead.append {lead more} (h : Lead lead) (hmore : Lead more) : Lead (lead ++ more) := by
  induction h with
  | nil => exact hmore
  | gap hx _ ih => exact .gap hx ih
  | continuation _ ih => exact .continuation ih
  | dropped hword hgaps _ ih =>
    rw [List.append_assoc]
    exact .dropped hword hgaps ih

/-- A call may be followed by one more gap or continuation. -/
lemma Slot.snoc_tail {name args start stop source}
    (h : Slot depth pos xs (.call name args start stop source))
    (hx : x.isGap = true ∨ ∃ carriage, x = .continuation carriage) :
    Slot depth pos (xs ++ [x]) (.call name args start stop source) := by
  cases h with
  | call hlead hname hgaps hdepth hinner htail =>
    rw [List.append_assoc]
    refine .call hlead hname hgaps hdepth hinner ?_
    intro y hy
    rcases List.mem_append.1 hy with hy | hy
    · exact htail y hy
    · rw [List.mem_singleton.1 hy]
      exact hx

/-- A pending argument that a delimiter closes is a slot. -/
lemma Open.slot {node} (h : Open depth pos xs pending rest)
    (hclose : pending.close (pos + width xs) = .ok node) : Slot depth pos xs node := by
  cases h with
  | none _ => cases hclose
  | word hlead hword hgaps =>
    cases hclose
    simp only [width_append, ← Nat.add_assoc]
    exact .word hlead hword hgaps
  | call hslot =>
    cases hclose
    exact hslot

/-- A blank or a comment leaves the pending argument open. -/
lemma Open.gap (h : Open depth pos xs pending (x :: rest)) (hx : x.isGap = true) :
    Open depth pos (xs ++ [x]) pending rest := by
  cases h with
  | none hlead => exact .none (hlead.append (.gap hx .nil))
  | word hlead hword hgaps =>
    rename_i lead word gaps
    have hgaps' : IsGaps (gaps ++ [x]) := by
      intro y hy
      rcases List.mem_append.1 hy with hy | hy
      · exact hgaps y hy
      · rw [List.mem_singleton.1 hy]
        exact hx
    have hsince : word ++ gaps ++ x :: rest = word ++ (gaps ++ [x]) ++ rest := by simp
    rw [hsince, List.append_assoc (lead ++ word)]
    exact .word hlead hword hgaps'
  | call hslot => exact .call (hslot.snoc_tail (.inl hx))

/-- A continuation makes a pending word part of the lead. -/
lemma Open.continuation {carriage}
    (h : Open depth pos xs pending (.continuation carriage :: rest)) :
    Open depth pos (xs ++ [.continuation carriage]) pending.resume rest := by
  cases h with
  | none hlead => exact .none (hlead.append (.continuation .nil))
  | word hlead hword hgaps =>
    rw [List.append_assoc, List.append_assoc, ← List.append_assoc _ _ [_]]
    exact .none (hlead.append (.dropped hword hgaps .nil))
  | call hslot => exact .call (hslot.snoc_tail (.inr ⟨_, rfl⟩))

/-- A word character opens a word or goes on with the one that ends right before it. -/
lemma Open.other {c pending'} (h : Open depth pos xs pending (.other c :: rest))
    (hextend : pending.extend (pos + width xs) c (.other c :: rest) = .ok pending') :
    Open depth pos (xs ++ [.other c]) pending' rest := by
  cases h with
  | none hlead =>
    cases hextend
    have hword : IsWord [.other c] := ⟨by simp, by simp [isOther]⟩
    have hopen : Open depth pos (xs ++ [.other c] ++ [])
        (.word (pos + width xs) (String.ofList (text [.other c])) ([.other c] ++ [] ++ rest))
        rest := .word hlead hword nofun
    rw [List.append_nil] at hopen
    exact hopen
  | word hlead hword hgaps =>
    rename_i lead word gaps
    rw [Pending.extend] at hextend
    split at hextend
    · next hpos =>
      cases hextend
      -- the character follows the word directly, so no gap stands between them
      have hnil : gaps = [] := by
        apply eq_nil_of_width
        simp only [Text.size_ofList, width_append, ← width.eq_1] at hpos
        omega
      subst hnil
      have hword' : IsWord (word ++ [.other c]) := by
        refine ⟨by simp, ?_⟩
        intro y hy
        rcases List.mem_append.1 hy with hy | hy
        · exact hword.2 y hy
        · rw [List.mem_singleton.1 hy]
          rfl
      have hopen : Open depth pos (lead ++ (word ++ [.other c]) ++ [])
          (.word (pos + width lead) (String.ofList (text (word ++ [.other c])))
            (word ++ [.other c] ++ [] ++ rest)) rest := .word hlead hword' nofun
      have hpush : (String.ofList (text word)).push c =
          String.ofList (text (word ++ [.other c])) := by
        apply String.toList_injective
        simp [chars]
      rw [hpush]
      simpa using hopen
    · cases hextend
  | call _ => cases hextend

/-- A pending word becomes the name of a call once the list after it is read. -/
lemma Open.call_of_listing {start content since inner nodes} (args : List Node)
    (h : Open depth pos xs (.word start content since) (.opening :: (inner ++ rest)))
    (hdepth : depth < maxDepth)
    (hinner : Listing (depth + 1) (pos + width xs + 1) inner nodes) :
    Open depth pos (xs ++ .opening :: inner)
      (.call (Frame.close ⟨args, start, content, since⟩ nodes
        (pos + width (xs ++ .opening :: inner)) rest)) rest := by
  cases h with
  | word hlead hword hgaps =>
    rename_i lead word gaps
    have hfront : word ++ gaps ++ .opening :: (inner ++ rest) =
        word ++ gaps ++ .opening :: inner ++ rest := by simp
    have hstart : pos + width (lead ++ word ++ gaps) + 1 =
        pos + width lead + width word + width gaps + 1 := by simp [Nat.add_assoc]
    have hstop : pos + width (lead ++ word ++ gaps ++ .opening :: inner) =
        pos + width lead + width (word ++ gaps ++ .opening :: inner) := by simp [Nat.add_assoc]
    have hxs : lead ++ word ++ gaps ++ .opening :: inner =
        lead ++ (word ++ gaps ++ .opening :: inner) ++ [] := by simp
    rw [hstart] at hinner
    rw [hfront, close_frame, hstop, hxs]
    exact .call (.call hlead hword hgaps hdepth hinner nofun)

/-- The reader takes nothing but lists: what it reads goes on to a list, and it then leaves it. -/
lemma Open.listing_of_run {xs args outer result} (h : Open depth pos xs pending rest)
    (hrun : Scan.run ⟨depth, args, pending, outer⟩ (pos + width xs) rest = .ok result) :
    ∃ ys left nodes, rest = ys ++ left ∧ Listing depth pos (xs ++ ys) nodes ∧
      Scan.leave depth (args ++ nodes) (pos + width (xs ++ ys)) left outer = .ok result := by
  -- by the number of lexemes left, since an inner list takes any number of them
  induction hn : rest.length using Nat.strongRecOn
    generalizing depth pos xs pending rest args outer with
  | ind n ih =>
    cases rest with
    | nil => cases hrun
    | cons x rest =>
      have hlt : rest.length < n := by
        rw [← hn]
        exact Nat.lt_succ_self _
      -- most lexemes only lengthen what the open argument came from
      have more : ∀ {pending'}, Open depth pos (xs ++ [x]) pending' rest →
          Scan.run ⟨depth, args, pending', outer⟩ (pos + width xs + x.size) rest = .ok result →
          ∃ ys left nodes, x :: rest = ys ++ left ∧ Listing depth pos (xs ++ ys) nodes ∧
            Scan.leave depth (args ++ nodes) (pos + width (xs ++ ys)) left outer = .ok result := by
        intro pending' hopen hrest
        have hpos : pos + width (xs ++ [x]) = pos + width xs + x.size := by
          simp [Nat.add_assoc]
        obtain ⟨ys, left, nodes, rfl, hlist, hleave⟩ := ih _ hlt hopen (hpos ▸ hrest) rfl
        rw [List.append_assoc, List.singleton_append] at hlist hleave
        exact ⟨x :: ys, left, nodes, rfl, hlist, hleave⟩
      cases x with
      | blockComment body closed => exact more (h.gap rfl) hrun
      | lineComment body => exact more (h.gap rfl) hrun
      | blank c => exact more (h.gap rfl) hrun
      | continuation carriage => exact more h.continuation hrun
      | other c =>
        rw [Scan.run, Scan.step] at hrun
        cases hextend : pending.extend (pos + width xs) c (.other c :: rest) with
        | error e => simp [hextend] at hrun
        | ok pending' =>
          simp only [hextend] at hrun
          exact more (h.other hextend) hrun
      | comma =>
        cases hclose : pending.close (pos + width xs) with
        | error e => simp [Scan.run, Scan.step, hclose] at hrun
        | ok node =>
          have hslot := h.slot hclose
          rw [Scan.run_comma hclose] at hrun
          obtain ⟨ys, left, nodes, rfl, hlist, hleave⟩ := ih _ hlt (.none .nil) hrun rfl
          refine ⟨.comma :: ys, left, node :: nodes, rfl, .more hslot hlist, ?_⟩
          simpa [Nat.add_assoc] using hleave
      | closing =>
        cases hclose : pending.close (pos + width xs) with
        | error e => cases outer <;> simp [Scan.run, Scan.step, hclose] at hrun
        | ok node =>
          rw [Scan.run_closing hclose] at hrun
          refine ⟨[.closing], rest, [node], rfl, .last (h.slot hclose), ?_⟩
          simpa [Nat.add_assoc] using hrun
      | opening =>
        cases pending with
        | none => cases hrun
        | call _ => cases hrun
        | word start content since =>
          by_cases hdepth : depth < maxDepth
          · rw [Scan.run_opening hdepth] at hrun
            obtain ⟨inner, left, nodes, rfl, hlist, hleave⟩ := ih _ hlt
              (.none .nil : Open (depth + 1) (pos + width xs + 1) [] .none rest) hrun rfl
            have hcall := h.call_of_listing args hdepth hlist
            have hpos : pos + width xs + 1 + width inner =
                pos + width (xs ++ .opening :: inner) := by simp [Nat.add_assoc]
            simp only [Scan.leave, Nat.add_sub_cancel, List.nil_append] at hleave
            rw [hpos] at hleave
            have hleft : left.length < n := by
              rw [List.length_append] at hlt
              omega
            obtain ⟨ys, last, nodes, rfl, hlist, hleave⟩ := ih _ hleft hcall hleave rfl
            refine ⟨.opening :: inner ++ ys, last, nodes, by simp, ?_, ?_⟩
            · simpa using hlist
            · simpa using hleave
          · simp [Scan.run, Scan.step, Nat.le_of_not_lt hdepth] at hrun

end Soundness

/-- A list ends with its closing parenthesis. -/
lemma Listing.getLast? {depth pos xs nodes} (h : Listing depth pos xs nodes) :
    xs.getLast? = some .closing := by
  match h with
  | .last _ => simp
  | .more _ hlist => simp [List.getLast?_append, List.getLast?_cons, hlist.getLast?]

/-- A list has an argument. -/
lemma Listing.nodes_ne_nil {depth pos xs nodes} (h : Listing depth pos xs nodes) :
    nodes ≠ [] := by
  cases h <;> simp

/-- A text may follow a list without a lexeme forming across the seam. -/
lemma Listing.seam {depth pos xs nodes} (h : Listing depth pos xs nodes) (cs : List Char) :
    ∀ z, xs.getLast? = some z → Seam z cs := by
  intro z hz
  obtain rfl : z = .closing := by
    rw [h.getLast?] at hz
    exact (Option.some.inj hz).symm
  exact ⟨trivial, by simp [chars]⟩

/-- The lexemes that the reader leaves over follow a list of the arguments that it found. -/
theorem run_eq_ok_iff {depth pos xs nodes stop left} :
    Scan.run { depth } pos xs = .ok (nodes, stop, left) ↔
      ∃ ys, xs = ys ++ left ∧ stop = pos + width ys ∧ Listing depth pos ys nodes := by
  constructor
  · intro hrun
    obtain ⟨ys, left', nodes', rfl, hlist, hleave⟩ :=
      (Open.none .nil : Open depth pos [] .none xs).listing_of_run hrun
    cases hleave
    exact ⟨ys, rfl, rfl, hlist⟩
  · rintro ⟨ys, rfl, rfl, hlist⟩
    exact hlist.run [] [] left

/-- The reader of argument lists takes a body whose splitting is a list, whatever follows it. -/
lemma Listing.readArguments {depth pos body xs nodes} (hlist : Listing depth pos xs nodes)
    (hsplit : Splits body xs) (left : List Char) :
    readArguments depth pos (body ++ left) = .ok (nodes, pos + Text.size body, left) := by
  have hjoin := hsplit.append (splits_lex left) (hlist.seam left)
  have hrun := run_eq_ok_iff.2 ⟨xs, hjoin.lex_eq, rfl, hlist⟩
  simp [Keyplan.readArguments, hrun, width, hsplit.text_eq, (splits_lex left).text_eq]

/-- Reading arguments off a text is finding a body in front of it whose splitting is a list. -/
lemma readArguments_eq_ok_iff {depth pos cs nodes stop left} :
    readArguments depth pos cs = .ok (nodes, stop, left) ↔
      ∃ body xs, cs = body ++ left ∧ stop = pos + Text.size body ∧ Splits body xs ∧
        Listing depth pos xs nodes := by
  constructor
  · intro h
    unfold readArguments at h
    split at h
    · cases h
    · next args after xs hrun =>
      cases h
      obtain ⟨ys, hlex, rfl, hlist⟩ := run_eq_ok_iff.1 hrun
      have hsplit := lex_eq_iff_splits.1 hlex
      have htext := hsplit.text_eq
      rw [text_append] at htext
      exact ⟨text ys, ys, htext.symm, rfl, hsplit.of_append.1, hlist⟩
  · rintro ⟨body, xs, rfl, rfl, hsplit, hlist⟩
    exact hlist.readArguments hsplit left

/-- The reader of argument lists takes exactly its grammar: at `pos`, with `depth` parentheses open,
it succeeds on a text if the text starts with a body whose splitting is a list. It then gives the
arguments of the list, the position after the body and the text after it. All else is an error. -/
theorem readArguments_accepts_iff (depth pos : Nat) (cs : List Char) :
    (∀ nodes stop left, readArguments depth pos cs = .ok (nodes, stop, left) ↔
      ∃ body xs, cs = body ++ left ∧ stop = pos + Text.size body ∧ Splits body xs ∧
        Listing depth pos xs nodes) ∧
    ((¬ ∃ body left xs nodes, cs = body ++ left ∧ Splits body xs ∧ Listing depth pos xs nodes) →
      ∃ e, readArguments depth pos cs = .error e) := by
  refine ⟨fun nodes stop left => readArguments_eq_ok_iff, ?_⟩
  intro hnone
  cases hread : readArguments depth pos cs with
  | error e => exact ⟨e, rfl⟩
  | ok result =>
    obtain ⟨nodes, stop, left⟩ := result
    obtain ⟨body, xs, hcs, -, hsplit, hlist⟩ := readArguments_eq_ok_iff.1 hread
    exact absurd ⟨body, left, xs, nodes, hcs, hsplit, hlist⟩ hnone

end Grammar

end Keyplan
