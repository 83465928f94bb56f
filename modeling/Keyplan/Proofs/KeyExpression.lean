import Keyplan.Proofs.Relocation

/-!
# Key expressions in their slots

A slot falls into its lead, the text of its node and what follows that text (`Slot.exists_core`).
What a text stands for does not depend on the slot around it: the core of a slot may stand in any
other slot (`Core.slot`), and a text that is a key expression by itself has such a core
(`IsKeyExpression.exists_core`).
-/

namespace Keyplan

namespace Node

/-- Whether the node is a call. -/
def isCall : Node → Bool
  | .word _ _ _ => false
  | .call _ _ _ _ _ => true

/-- The node moved to `start`. A word gets a new place `stop` of its delimiter; the end of a call
moves with its text. -/
def placeAt (start stop : Nat) : Node → Node
  | .word content _ _ => .word content start stop
  | .call name args first last source =>
    (Node.call name args first last source).mapPos fun p => p - first + start

/-- A placed node starts where it was placed. -/
@[simp] lemma start_placeAt (start stop : Nat) (n : Node) :
    (n.placeAt start stop).start = start := by
  cases n <;> simp [placeAt, Node.start, mapPos]

/-- A placed node keeps its source text. -/
@[simp] lemma source_placeAt (start stop : Nat) (n : Node) :
    (n.placeAt start stop).source = n.source := by
  cases n <;> simp [placeAt, source, mapPos]

/-- A placed node is shown as before. -/
@[simp] lemma render_placeAt (start stop : Nat) (n : Node) :
    (n.placeAt start stop).render = n.render := by
  cases n with
  | word content first last => rfl
  | call name args first last source => exact render_mapPos _ _

end Node

/-- The text is a key expression: alone in a layout it reads as the one node `n`, whose source is
all of it, and it does not end with a character that could start a comment or a continuation. -/
structure IsKeyExpression [PatternEngine] (value : String) (n : Node) : Prop where
  /-- The text alone in a layout is the only key of the only layer. -/
  parse_eq : ∃ m, Keymap.parse ("KEYMAP(" ++ value ++ ")") none = .ok m ∧ m.layers = [[n]]
  /-- Nothing stands around the key. -/
  source_eq : n.source = value
  /-- No comment starts at the end. -/
  no_slash : value.toList.getLast? ≠ some '/'
  /-- No continuation starts at the end. -/
  no_backslash : value.toList.getLast? ≠ some '\\'

namespace Grammar
open Lexeme

/-- The lexemes are the text of the node, and may stand in any slot. A word cannot stand before a
continuation, since that would drop it. -/
structure Core (depth : Nat) (n : Node) (core : List Lexeme) : Prop where
  /-- The lexemes spell the source of the node. -/
  text_eq : text core = n.source.toList
  /-- A word character comes first. -/
  head : ∃ c more, core = .other c :: more
  /-- A word character or a closing parenthesis comes last. -/
  last : ∀ z, core.getLast? = some z → z = .closing ∨ ∃ c, z = .other c
  /-- The lexemes between a lead and what may follow them are a slot. -/
  slot : ∀ {pos lead after}, Lead lead → IsTail after → n.isCall = true ∨ IsGaps after →
    Slot depth pos (lead ++ core ++ after)
      (n.placeAt (pos + width lead) (pos + width (lead ++ core ++ after)))

/-- A word starts with a word character. -/
lemma IsWord.head {word} (h : IsWord word) : ∃ c more, word = .other c :: more := by
  obtain ⟨hne, h⟩ := h
  obtain ⟨x, more, rfl⟩ := List.exists_cons_of_ne_nil hne
  have hx := h x (by simp)
  cases x with
  | other c => exact ⟨c, more, rfl⟩
  | _ => cases hx

/-- Gaps may follow a call. -/
lemma IsGaps.tail {gaps} (h : IsGaps gaps) : IsTail gaps :=
  fun x hx => .inl (h x hx)

/-- A word is the core of its node. -/
lemma IsWord.core {depth word} (h : IsWord word) (start stop : Nat) :
    Core depth (.word (String.ofList (text word)) start stop) word where
  text_eq := by simp [Node.source]
  head := h.head
  last z hz := by
    have hother := h.2 z (List.mem_of_getLast? hz)
    cases z with
    | other c => exact .inr ⟨c, rfl⟩
    | _ => cases hother
  slot := by
    intro pos lead after hlead _ hgaps
    have hstop : pos + width (lead ++ word ++ after) =
        pos + width lead + width word + width after := by simp [Nat.add_assoc]
    rw [Node.placeAt, hstop]
    exact .word hlead h (hgaps.resolve_left (by simp [Node.isCall]))

/-- The text of a call is the core of its node. -/
lemma Listing.core {depth start name gaps inner args} (hname : IsWord name) (hgaps : IsGaps gaps)
    (hdepth : depth < maxDepth)
    (hinner : Listing (depth + 1) (start + width name + width gaps + 1) inner args) :
    Core depth (.call (String.ofList (text name)) args start
      (start + width (name ++ gaps ++ .opening :: inner))
      (String.ofList (text (name ++ gaps ++ .opening :: inner))))
      (name ++ gaps ++ .opening :: inner) where
  text_eq := by simp [Node.source]
  head := by
    obtain ⟨c, more, rfl⟩ := hname.head
    exact ⟨c, _, rfl⟩
  last z hz := by
    rw [List.getLast?_append, List.getLast?_cons, hinner.getLast?] at hz
    exact .inl (Option.some.inj hz).symm
  slot := by
    intro pos lead after hlead hafter _
    -- name and arguments move by the same distance
    have hmove : ∀ n, start + n - start + (pos + width lead) = pos + width lead + n := by
      intro n
      omega
    have hargs : ∀ n, start + width name + width gaps + 1 + n - start + (pos + width lead) =
        pos + width lead + width name + width gaps + 1 + n := by
      intro n
      omega
    have hstart : start - start + (pos + width lead) = pos + width lead := hmove 0
    rw [Node.placeAt, Node.mapPos, hmove, hstart, Node.mapPosList_eq_map]
    exact .call hlead hname hgaps hdepth (hinner.relocate hargs) hafter

/-- A slot falls into its lead, a core of its node and what may follow that. -/
lemma Slot.exists_core {depth pos xs n} (h : Slot depth pos xs n) :
    ∃ lead core after, xs = lead ++ core ++ after ∧ Lead lead ∧ Core depth n core ∧ IsTail after ∧
      (n.isCall = true ∨ IsGaps after) ∧ n.start = pos + width lead ∧
      (n.isCall = false → n.stop = pos + width xs) := by
  cases h with
  | word hlead hword hgaps =>
    refine ⟨_, _, _, rfl, hlead, hword.core _ _, hgaps.tail, .inr hgaps, rfl, ?_⟩
    intro _
    simp [Node.stop, Nat.add_assoc]
  | call hlead hname hgaps hdepth hinner htail =>
    refine ⟨_, _, _, rfl, hlead, hinner.core hname hgaps hdepth, htail, .inl rfl, rfl, ?_⟩
    intro hword
    cases hword

/-- A core is as long as the source of its node. -/
lemma Core.width_eq {depth n core} (h : Core depth n core) :
    width core = n.source.utf8ByteSize := by
  rw [width, h.text_eq, Text.size_toList]

end Grammar

namespace IsKeyExpression
open Grammar Lexeme

variable {value : String} {n : Node}

/-- A text with one layer of one key is one slot up to the parenthesis. -/
lemma exists_slot [PatternEngine] (h : IsKeyExpression value n) :
    ∃ xs left, value.toList ++ [')'] = text xs ++ ')' :: left ∧ Splits (text xs) xs ∧
      Slot 1 7 xs n := by
  obtain ⟨⟨m, hparse, hlayers⟩, -⟩ := h
  obtain ⟨first, rest, hfirst, hread, -⟩ := Keymap.parse_eq_ok_iff.1 hparse
  have htext : ("KEYMAP(" ++ value ++ ")").toList =
      "KEYMAP".toList ++ '(' :: (value.toList ++ [')']) := by simp
  have hkeyword : Invocation.IsKeyword "KEYMAP".toList :=
    ⟨"KEYMAP".toList, [], .inl rfl, rfl, .inl rfl⟩
  rw [htext, Invocation.search_keyword hkeyword rfl] at hfirst
  cases hfirst
  rw [hlayers] at hread
  have hpos : 0 + Text.size "KEYMAP".toList + 1 = 7 := rfl
  rw [hpos] at hread
  generalize value.toList ++ [')'] = cs, m.stop = stop at hread
  cases hread with
  | more _ _ _ hrest => exact absurd rfl hrest.ne_nil
  | last hsplit hlist hnone =>
    rename_i left
    cases hlist with
    | more _ hrest => exact absurd rfl hrest.nodes_ne_nil
    | last hslot =>
      rename_i xs
      have htext := hsplit.text_eq
      rw [text_append] at htext
      exact ⟨xs, left, by simp [← htext, chars], hsplit.of_append.1, hslot⟩

/-- A key expression is spelled by a core of its node. -/
lemma exists_core [PatternEngine] (h : IsKeyExpression value n) :
    ∃ core, Splits value.toList core ∧ Core 1 n core := by
  obtain ⟨xs, left, hxs, hsplit, hslot⟩ := h.exists_slot
  obtain ⟨lead, core, after, rfl, -, hcore, -⟩ := hslot.exists_core
  -- the source is all of the text, so nothing is left for a lead or for what follows
  have hsize : Text.size value.toList = width core := by
    rw [hcore.width_eq, h.source_eq, Text.size_toList]
  have hwidth := congrArg Text.size hxs
  simp only [text_append, Text.size_append, Text.size_cons, Text.size_nil, hsize] at hwidth
  rw [← width, ← width, ← width] at hwidth
  have hlead : lead = [] := eq_nil_of_width (by omega)
  have hafter : after = [] := eq_nil_of_width (by omega)
  subst hlead hafter
  have hvalue : text core = value.toList := by
    rw [hcore.text_eq, h.source_eq]
  rw [List.nil_append, List.append_nil, hvalue] at hsplit
  exact ⟨core, hsplit, hcore⟩

/-- A key expression in a slot may be followed by any text that does not change how it ends. -/
lemma seam [PatternEngine] (h : IsKeyExpression value n) {core} (hsplit : Splits value.toList core)
    (hcore : Core 1 n core) (cs : List Char) : ∀ z, core.getLast? = some z → Seam z cs := by
  intro z hz
  rcases hcore.last z hz with rfl | ⟨c, rfl⟩
  · exact ⟨trivial, by simp [chars]⟩
  · obtain ⟨front, rfl⟩ := List.getLast?_eq_some_iff.1 hz
    have hlast : value.toList.getLast? = some c := by
      rw [← hsplit.text_eq]
      simp [chars]
    refine ⟨⟨?_, ?_⟩, ?_⟩
    · rintro rfl
      exact h.no_slash hlast
    · rintro rfl
      exact h.no_backslash hlast
    · intro hreturn
      cases hreturn
      obtain ⟨hread, -⟩ := hsplit.of_append.2.cons_inv
      cases hread with
      | other hblank => exact absurd hblank (by decide)

end IsKeyExpression

end Keyplan
