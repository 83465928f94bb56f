import Keyplan.Proofs.Layers

/-!
# Relocating text

A text that stands elsewhere reads the same, with other positions. `Node.mapPos` moves the positions
of a node; `Listing.relocate` and `Layers.relocate` say that argument lists and layers move with
their text. Only the map on positions from the start of the text on matters, so that one statement
covers moves in both directions.
-/

namespace Keyplan

namespace Node

mutual

/-- The node with its positions and those of its arguments moved. -/
def mapPos (f : Nat → Nat) : Node → Node
  | .word content start stop => .word content (f start) (f stop)
  | .call name args start stop source =>
    .call name (mapPosList f args) (f start) (f stop) source

/-- The nodes with all positions moved. -/
def mapPosList (f : Nat → Nat) : List Node → List Node
  | [] => []
  | n :: nodes => n.mapPos f :: mapPosList f nodes

end

/-- Nodes are moved one by one. -/
@[simp] lemma mapPosList_eq_map (f : Nat → Nat) (nodes : List Node) :
    mapPosList f nodes = nodes.map (mapPos f) := by
  induction nodes with
  | nil => rfl
  | cons n nodes ih => rw [mapPosList, ih, List.map_cons]

/-- The start of a node moves along. -/
@[simp] lemma start_mapPos (f : Nat → Nat) (n : Node) : (n.mapPos f).start = f n.start := by
  cases n <;> rfl

/-- The source text of a node stays. -/
@[simp] lemma source_mapPos (f : Nat → Nat) (n : Node) : (n.mapPos f).source = n.source := by
  cases n <;> rfl

mutual

/-- The normal spelling of a node does not tell where it stood. -/
theorem render_mapPos (f : Nat → Nat) : ∀ n : Node, (n.mapPos f).render = n.render
  | .word _ _ _ => rfl
  | .call name args start stop source => by
    rw [mapPos, render, render, renderArgs_mapPosList f args]

/-- The normal spelling of arguments does not tell where they stood. -/
theorem renderArgs_mapPosList (f : Nat → Nat) :
    ∀ nodes : List Node, renderArgs (mapPosList f nodes) = renderArgs nodes
  | [] => rfl
  | [n] => render_mapPos f n
  | n :: m :: nodes => by
    show (n.mapPos f).render ++ ", " ++ renderArgs (mapPosList f (m :: nodes)) =
      n.render ++ ", " ++ renderArgs (m :: nodes)
    rw [render_mapPos f n, renderArgs_mapPosList f (m :: nodes)]

end

end Node

namespace Grammar
open Lexeme

mutual

/-- A slot may stand elsewhere. -/
theorem Slot.relocate : ∀ {depth pos xs node}, Slot depth pos xs node → ∀ {f : Nat → Nat} {pos'},
    (∀ n, f (pos + n) = pos' + n) → Slot depth pos' xs (node.mapPos f)
  | _, pos, _, _, @Slot.word _ _ lead word gaps hlead hword hgaps, f, pos', hf => by
    have hstart : f (pos + width lead) = pos' + width lead := hf _
    have hstop : f (pos + width lead + width word + width gaps) =
        pos' + width lead + width word + width gaps := by
      simp only [Nat.add_assoc, hf]
    rw [Node.mapPos, hstart, hstop]
    exact .word hlead hword hgaps
  | depth, pos, _, _,
      @Slot.call _ _ lead name gaps inner args tail hlead hname hgaps hdepth hinner htail,
      f, pos', hf => by
    have hstart : f (pos + width lead) = pos' + width lead := hf _
    have hstop : ∀ n, f (pos + width lead + n) = pos' + width lead + n := by
      intro n
      rw [Nat.add_assoc, hf, Nat.add_assoc]
    have hargs : ∀ n, f (pos + width lead + width name + width gaps + 1 + n) =
        pos' + width lead + width name + width gaps + 1 + n := by
      intro n
      simp only [Nat.add_assoc, hf]
    rw [Node.mapPos, hstart, hstop, Node.mapPosList_eq_map]
    exact .call hlead hname hgaps hdepth (hinner.relocate hargs) htail

/-- A list of arguments may stand elsewhere. -/
theorem Listing.relocate : ∀ {depth pos xs nodes}, Listing depth pos xs nodes →
    ∀ {f : Nat → Nat} {pos'}, (∀ n, f (pos + n) = pos' + n) →
      Listing depth pos' xs (nodes.map (Node.mapPos f))
  | _, _, _, _, .last hslot, _, _, hf => .last (hslot.relocate hf)
  | _, pos, _, _, @Listing.more _ _ xs _ _ _ hslot hlist, f, pos', hf => by
    have hrest : ∀ n, f (pos + width xs + 1 + n) = pos' + width xs + 1 + n := by
      intro n
      simp only [Nat.add_assoc, hf]
    exact .more (hslot.relocate hf) (hlist.relocate hrest)

end

end Grammar

namespace Keymap
open Grammar

/-- The layers of a text may stand elsewhere. -/
theorem Layers.relocate {pos cs layers stop} (h : Layers pos cs layers stop) {f : Nat → Nat} {pos'}
    (hf : ∀ n, f (pos + n) = pos' + n) :
    Layers pos' cs (layers.map (List.map (Node.mapPos f))) (f stop) := by
  induction h generalizing pos' with
  | @last pos body xs nodes left hsplit hlist hnone =>
    have hleft : ∀ n, f (pos + Text.size body + n) = pos' + Text.size body + n := by
      intro n
      rw [Nat.add_assoc, hf, Nat.add_assoc]
    rw [hf]
    refine .last hsplit (hlist.relocate hf) ?_
    rw [Invocation.search_relocate hleft, hnone]
    rfl
  | @more pos body xs nodes left next rest layers stop hsplit hlist hnext _ ih =>
    have hleft : ∀ n, f (pos + Text.size body + n) = pos' + Text.size body + n := by
      intro n
      rw [Nat.add_assoc, hf, Nat.add_assoc]
    have hnext' := Invocation.search_relocate hleft (some ')') left
    rw [hnext] at hnext'
    exact .more hsplit (hlist.relocate hf) hnext' (ih (Invocation.move_argsStart hleft hnext))

/-- Further layers may stand elsewhere. -/
lemma Further.relocate {pos left layers stop} (h : Further pos left layers stop) {f : Nat → Nat}
    {pos'} (hf : ∀ n, f (pos + n) = pos' + n) :
    Further pos' left (layers.map (List.map (Node.mapPos f))) (f stop) := by
  have hsearch := Invocation.search_relocate hf (some ')') left
  rcases h with ⟨hnone, rfl, rfl⟩ | ⟨next, rest, hnext, hrest⟩
  · rw [hnone] at hsearch
    exact .inl ⟨hsearch, rfl, hf 0⟩
  · rw [hnext] at hsearch
    exact .inr ⟨_, rest, hsearch, hrest.relocate (Invocation.move_argsStart hf hnext)⟩

end Keymap

end Keyplan
