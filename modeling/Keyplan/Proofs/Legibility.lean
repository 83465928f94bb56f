import Keyplan.Proofs.Spans

/-!
# Legible nodes

What a node has by having been read, whatever text it was read from: its words are read as words,
its calls have arguments, and it stands inside no more parentheses than may be open (`Legible`). The
grammar gives it to every argument (`Slot.legible`, `Listing.legible`), and every node of a keymap
has it at any depth (`parse_legible`).
-/

namespace Keyplan

namespace Grammar
open Lexeme

/-- The text is read as the characters of one word. -/
def IsWordText (s : String) : Prop :=
  ∃ word, IsWord word ∧ Splits s.toList word

/-- The node may stand inside `depth` open parentheses. -/
inductive Legible : Nat → Node → Prop where
  | word {depth content start stop} :
    IsWordText content →
    Legible depth (.word content start stop)
  | call {depth name args start stop source} :
    IsWordText name →
    depth < maxDepth →
    args ≠ [] →
    (∀ arg ∈ args, Legible (depth + 1) arg) →
    Legible depth (.call name args start stop source)

/-- The text of a word is one. -/
lemma IsWord.isWordText {word} (h : IsWord word) (hsplit : Splits (text word) word) :
    IsWordText (String.ofList (text word)) := by
  refine ⟨word, h, ?_⟩
  rw [String.toList_ofList]
  exact hsplit

/-- A node may stand inside fewer parentheses. -/
lemma Legible.mono {depth depth' n} (h : Legible depth n) (hle : depth' ≤ depth) :
    Legible depth' n := by
  induction h generalizing depth' with
  | word hcontent => exact .word hcontent
  | call hname hdepth hne _ ih =>
    refine .call hname (by omega) hne ?_
    intro arg harg
    exact ih arg harg (by omega)

/-- What stands within legible nodes is legible. -/
lemma Legible.within {depth n nodes} (hn : Node.Within n nodes)
    (h : ∀ node ∈ nodes, Legible depth node) : Legible depth n := by
  induction hn generalizing depth with
  | here hn => exact h _ hn
  | deeper _ hcall ih =>
    cases h _ hcall with
    | call _ _ _ hargs => exact (ih hargs).mono (Nat.le_succ depth)

mutual

/-- The node of a slot is legible where it stands. -/
theorem Slot.legible : ∀ {depth pos xs node}, Slot depth pos xs node → ∀ {cs}, Splits cs xs →
    Legible depth node
  | _, _, _, _, @Slot.word _ _ lead word gaps _ hword _, _, hsplit => by
    obtain ⟨hleadWord, -⟩ := hsplit.of_append
    exact .word (hword.isWordText hleadWord.of_append.2)
  | _, _, _, _, @Slot.call _ _ lead name gaps inner args tail _ hname _ hdepth hinner _, _,
      hsplit => by
    obtain ⟨hleadCall, -⟩ := hsplit.of_append
    obtain ⟨-, hcall⟩ := hleadCall.of_append
    obtain ⟨hnameGaps, hopening⟩ := hcall.of_append
    obtain ⟨-, hsplitInner⟩ := hopening.cons_inv
    exact .call (hname.isWordText hnameGaps.of_append.1) hdepth hinner.nodes_ne_nil
      (hinner.legible hsplitInner)

/-- The nodes of a list are legible where they stand. -/
theorem Listing.legible : ∀ {depth pos xs nodes}, Listing depth pos xs nodes → ∀ {cs},
    Splits cs xs → ∀ node ∈ nodes, Legible depth node
  | _, _, _, _, .last hslot, _, hsplit => by
    obtain ⟨hsplitSlot, -⟩ := hsplit.of_append
    simpa using hslot.legible hsplitSlot
  | _, _, _, _, .more hslot hlist, _, hsplit => by
    obtain ⟨hsplitSlot, hcomma⟩ := hsplit.of_append
    obtain ⟨-, hsplitRest⟩ := hcomma.cons_inv
    exact List.forall_mem_cons.2 ⟨hslot.legible hsplitSlot, hlist.legible hsplitRest⟩

end

end Grammar

namespace Keymap
open Grammar

/-- The keys of all layers are legible inside the parenthesis of their layout. -/
lemma Layers.legible {pos cs layers stop} (h : Layers pos cs layers stop) :
    ∀ layer ∈ layers, ∀ n ∈ layer, Legible 1 n := by
  induction h with
  | last hsplit hlist _ => simpa using hlist.legible hsplit
  | more hsplit hlist _ _ ih => exact List.forall_mem_cons.2 ⟨hlist.legible hsplit, ih⟩

/-- The nodes of a keymap are legible inside the parenthesis of their layout, at any depth. -/
lemma parse_legible [PatternEngine] {text keys m} (h : parse text keys = .ok m) :
    ∀ layer ∈ m.layers, ∀ n, Node.Within n layer → Legible 1 n := by
  obtain ⟨_, _, -, hlayers, -⟩ := parse_eq_ok_iff.1 h
  intro layer hlayer n hn
  exact Legible.within hn (hlayers.legible layer hlayer)

end Keymap

end Keyplan
