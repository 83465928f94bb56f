import Keyplan.Proofs.KeyExpression
import Keyplan.Proofs.Legibility

/-!
# The normal spelling

The normal spelling of a node leaves out blanks, comments and continuations and puts its own
separators between the words. Nothing that can be read is read differently in it: a word stands
before a delimiter as it stood in its text (`Splits.append_delimiter`), the arguments of a call are
the arguments of its spelling (`exists_listing_render`), and so every legible node is spelled by a
core of a node of the same shape (`Legible.exists_spelling`). The main statement is
`parse_render_shape`.
-/

namespace Keyplan

namespace Node

/-- What a key expression says, apart from its place and its spelling. -/
inductive Shape where
  /-- A word. -/
  | word (content : String)
  /-- A call. -/
  | call (name : String) (args : List Shape)
  deriving Repr, BEq, Inhabited

mutual

/-- The shape of a node. -/
def shape : Node → Shape
  | .word content _ _ => .word content
  | .call name args _ _ _ => .call name (shapes args)

/-- The shapes of nodes. -/
def shapes : List Node → List Shape
  | [] => []
  | n :: nodes => n.shape :: shapes nodes

end

/-- The shapes of nodes are the shape of each. -/
@[simp] lemma shapes_eq_map (nodes : List Node) : shapes nodes = nodes.map shape := by
  induction nodes with
  | nil => rfl
  | cons n nodes ih => rw [shapes, ih, List.map_cons]

mutual

/-- A node that stands elsewhere has the same shape. -/
theorem shape_mapPos (f : Nat → Nat) : ∀ n : Node, (n.mapPos f).shape = n.shape
  | .word _ _ _ => rfl
  | .call name args start stop source => by
    rw [mapPos, shape, shape, shapes_mapPosList f args]

/-- Nodes that stand elsewhere have the same shapes. -/
theorem shapes_mapPosList (f : Nat → Nat) :
    ∀ nodes : List Node, shapes (mapPosList f nodes) = shapes nodes
  | [] => rfl
  | n :: nodes => by
    rw [mapPosList, shapes, shapes, shape_mapPos f n, shapes_mapPosList f nodes]

end

/-- Placing a node leaves its shape. -/
@[simp] lemma shape_placeAt (start stop : Nat) (n : Node) :
    (n.placeAt start stop).shape = n.shape := by
  cases n with
  | word content first last => rfl
  | call name args first last source => exact shape_mapPos _ _

mutual

/-- The normal spelling depends on the shape only. -/
theorem render_eq_of_shape : ∀ {a b : Node}, a.shape = b.shape → a.render = b.render
  | .word _ _ _, .word _ _ _, h => by
    cases h
    rfl
  | .call name args _ _ _, .call name' args' _ _ _, h => by
    obtain ⟨rfl, hargs⟩ := Shape.call.inj h
    rw [render, render, renderArgs_eq_of_shapes hargs]
  | .word _ _ _, .call _ _ _ _ _, h => by cases h
  | .call _ _ _ _ _, .word _ _ _, h => by cases h

/-- The normal spelling of arguments depends on their shapes only. -/
theorem renderArgs_eq_of_shapes :
    ∀ {as bs : List Node}, shapes as = shapes bs → renderArgs as = renderArgs bs
  | [], [], _ => rfl
  | [a], [b], h => render_eq_of_shape (List.cons.inj h).1
  | a :: a' :: as, b :: b' :: bs, h => by
    obtain ⟨hhead, htail⟩ := List.cons.inj h
    show a.render ++ ", " ++ renderArgs (a' :: as) = b.render ++ ", " ++ renderArgs (b' :: bs)
    rw [render_eq_of_shape hhead, renderArgs_eq_of_shapes htail]
  | [], _ :: _, h => by cases h
  | _ :: _, [], h => by cases h
  | [_], _ :: _ :: _, h => by cases (List.cons.inj h).2
  | _ :: _ :: _, [_], h => by cases (List.cons.inj h).2

end

end Node

namespace Lexeme

/-- Lexemes that do not look ahead may stand before any text. -/
lemma Splits.append_of_forall {xs bs ys} (h : ∀ x ∈ xs, ∀ rest, ReadBefore x rest)
    (hb : Splits bs ys) : Splits (text xs ++ bs) (xs ++ ys) := by
  induction xs with
  | nil => exact hb
  | cons x xs ih =>
    obtain ⟨hx, hxs⟩ := List.forall_mem_cons.1 h
    rw [text_cons, List.append_assoc]
    exact .cons (hx _) (ih hxs)

/-- No comment and no continuation starts with a word character and a delimiter. -/
lemma ReadBefore.before_delimiter {x cs d} (h : ReadBefore x cs) (hx : x.isOther = true)
    (hd : d ∈ [',', '(', ')']) (bs : List Char) : ReadBefore x (d :: bs) := by
  have hne : ∀ {c front}, c ∉ [',', '(', ')'] → ¬ c :: front <+: d :: bs := by
    intro c front hc hpre
    obtain ⟨rfl, -⟩ := List.cons_prefix_cons.1 hpre
    exact hc hd
  cases h with
  | other hblank hdelim _ _ =>
    refine .other hblank hdelim ?_ ?_
    · intro _
      exact ⟨hne (by decide), hne (by decide)⟩
    · intro _
      exact ⟨hne (by decide), hne (by decide)⟩
  | _ => cases hx

/-- A word may stand before a delimiter. -/
lemma Splits.append_delimiter {as xs d bs ys} (ha : Splits as xs)
    (hxs : ∀ x ∈ xs, x.isOther = true) (hd : d ∈ [',', '(', ')']) (hb : Splits (d :: bs) ys) :
    Splits (as ++ d :: bs) (xs ++ ys) := by
  induction ha with
  | nil => exact hb
  | @cons x rest xs hx _ ih =>
    obtain ⟨hother, hxs⟩ := List.forall_mem_cons.1 hxs
    rw [List.append_assoc, List.cons_append]
    refine .cons ?_ (ih hxs)
    -- only the last character stands next to the delimiter
    by_cases hrest : rest = []
    · subst hrest
      exact hx.before_delimiter hother hd bs
    · refine hx.append hrest ?_
      intro _ _ hfeed
      obtain ⟨rfl, -⟩ := List.cons_prefix_cons.1 hfeed
      exact absurd hd (by decide)

end Lexeme

namespace Grammar
open Lexeme

/-- The lexemes are the normal spelling of `n`: a core of the node `y` of the same shape, before
which any delimiter may stand. -/
structure Spelling (depth : Nat) (n y : Node) (core : List Lexeme) : Prop where
  /-- The lexemes may stand in any slot. -/
  isCore : Core depth y core
  /-- The node that they are says the same. -/
  shape_eq : y.shape = n.shape
  /-- They spell the normal spelling. -/
  source_eq : y.source = n.render
  /-- They are read as they are before a delimiter. -/
  splits : ∀ {d bs ys}, d ∈ [',', '(', ')'] → Splits (d :: bs) ys →
    Splits (n.render.toList ++ d :: bs) (core ++ ys)

/-- A spelling is a slot behind any lead. -/
lemma Spelling.slot {depth n y core lead} (h : Spelling depth n y core) (hlead : Lead lead)
    (pos : Nat) : ∃ node, Slot depth pos (lead ++ core) node ∧ node.shape = n.shape ∧
      node.source = n.render := by
  have hslot : Slot depth pos (lead ++ core ++ []) _ := h.isCore.slot hlead nofun (.inr nofun)
  rw [List.append_nil] at hslot
  exact ⟨_, hslot, by rw [Node.shape_placeAt, h.shape_eq],
    by rw [Node.source_placeAt, h.source_eq]⟩

/-- Arguments that have spellings are the arguments of their normal spelling. -/
lemma exists_listing_render {depth args} (hne : args ≠ [])
    (hargs : ∀ arg ∈ args, ∃ y core, Spelling depth arg y core) {lead} (hlead : Lead lead)
    (hread : ∀ x ∈ lead, ∀ rest, ReadBefore x rest) (pos : Nat) :
    ∃ xs nodes, Splits (text lead ++ ((Node.renderArgs args).toList ++ [')'])) xs ∧
      Listing depth pos xs nodes ∧ nodes.map Node.shape = args.map Node.shape := by
  -- the lead is general, since every argument but the first one stands behind a blank
  induction args generalizing lead pos with
  | nil => exact absurd rfl hne
  | cons arg args ih =>
    obtain ⟨⟨y, core, hspell⟩, hmore⟩ := List.forall_mem_cons.1 hargs
    obtain ⟨node, hslot, hshape, -⟩ := hspell.slot hlead pos
    cases args with
    | nil =>
      have hclosing : Splits [')'] [.closing] := .cons .closing .nil
      refine ⟨lead ++ core ++ [.closing], [node], ?_, .last hslot, by simp [hshape]⟩
      rw [List.append_assoc]
      exact .append_of_forall hread (hspell.splits (by decide) hclosing)
    | cons next args =>
      have hblank : ∀ x ∈ [Lexeme.blank ' '], ∀ rest, ReadBefore x rest := by
        simpa using fun rest => ReadBefore.blank (by decide)
      obtain ⟨xs, nodes, hsplit, hlist, hshapes⟩ := ih (by simp) hmore (.gap rfl .nil) hblank
        (pos + width (lead ++ core) + 1)
      have hcomma := Splits.cons .comma hsplit
      refine ⟨lead ++ core ++ .comma :: xs, node :: nodes, ?_, .more hslot hlist,
        by simp [hshape, hshapes]⟩
      have hrender : (Node.renderArgs (arg :: next :: args)).toList ++ [')'] =
          arg.render.toList ++ ',' ::
            (text [.blank ' '] ++ ((Node.renderArgs (next :: args)).toList ++ [')'])) := by
        simp [Node.renderArgs, chars]
      rw [hrender, List.append_assoc]
      exact .append_of_forall hread (hspell.splits (by decide) hcomma)

/-- Every legible node has a spelling. -/
theorem Legible.exists_spelling {depth n} (h : Legible depth n) :
    ∃ y core, Spelling depth n y core := by
  induction h with
  | @word depth content start stop hcontent =>
    obtain ⟨word, hword, hsplit⟩ := hcontent
    have htext : String.ofList (text word) = content := by
      rw [hsplit.text_eq, String.ofList_toList]
    refine ⟨_, word, hword.core 0 0, ?_, ?_, ?_⟩
    · rw [htext]
      rfl
    · rw [htext]
      rfl
    · intro d bs ys hd hb
      exact hsplit.append_delimiter hword.2 hd hb
  | @call depth name args start stop source hname hdepth hne _ ih =>
    obtain ⟨word, hword, hsplit⟩ := hname
    have htext : String.ofList (text word) = name := by
      rw [hsplit.text_eq, String.ofList_toList]
    obtain ⟨inner, nodes, hinner, hlist, hshapes⟩ :=
      exists_listing_render hne ih .nil nofun (0 + width word + width [] + 1)
    rw [text_nil, List.nil_append] at hinner
    -- the name stands before its parenthesis, and the list ends on its own account
    have hcall : ∀ {bs ys}, Splits bs ys →
        Splits ((Node.call name args start stop source).render.toList ++ bs)
          (word ++ [] ++ .opening :: inner ++ ys) := by
      intro bs ys hb
      have hopening := Splits.cons .opening (hinner.append hb (hlist.seam bs))
      have hfront := hsplit.append_delimiter hword.2 (by decide) hopening
      simpa [Node.render] using hfront
    have hrender : String.ofList (text (word ++ [] ++ .opening :: inner)) =
        (Node.call name args start stop source).render := by
      apply String.toList_injective
      simpa using (hcall .nil).text_eq
    refine ⟨_, word ++ [] ++ .opening :: inner, hlist.core hword nofun hdepth, ?_, hrender, ?_⟩
    · rw [Node.shape, Node.shape, htext, Node.shapes_eq_map, Node.shapes_eq_map, hshapes]
    · intro d bs ys _ hb
      exact hcall hb

end Grammar

namespace Keymap
open Grammar Lexeme

/-- A legible node is the only key of the layout of its normal spelling. -/
lemma parse_render_of_legible [PatternEngine] {n} (h : Legible 1 n) :
    ∃ m y, parse ("KEYMAP(" ++ n.render ++ ")") (some 1) = .ok m ∧ m.layers = [[y]] ∧
      y.shape = n.shape ∧ y.source = n.render := by
  obtain ⟨_, core, hspell⟩ := h.exists_spelling
  obtain ⟨y, hslot, hshape, hsource⟩ :=
    hspell.slot .nil (0 + Text.size "KEYMAP".toList + 1)
  have hkeyword : Invocation.IsKeyword "KEYMAP".toList :=
    ⟨"KEYMAP".toList, [], .inl rfl, rfl, .inl rfl⟩
  have hbefore : Invocation.startsAfter none = true := rfl
  have hfirst := Invocation.search_keyword hkeyword hbefore 0 (n.render.toList ++ [')'] ++ [])
  have htext : "KEYMAP".toList ++ '(' :: (n.render.toList ++ [')'] ++ []) =
      ("KEYMAP(" ++ n.render ++ ")").toList := by simp
  rw [htext] at hfirst
  have hclosing : Splits [')'] [.closing] := .cons .closing .nil
  have hlayers : Layers _ (n.render.toList ++ [')'] ++ []) [[y]] _ :=
    .last (hspell.splits (by decide) hclosing) (.last hslot) rfl
  refine ⟨⟨_, [[y]], _, _⟩, y, parse_eq_ok_iff.2 ⟨_, _, hfirst, hlayers, rfl, rfl, ?_, ?_⟩, rfl,
    hshape, hsource⟩
  · simp [keyCount]
  · simp [keyCount]

/-- The normal spelling of every node of a keymap, at any depth, reads as that node: alone in a
layout it is the only key of the only layer, it says the same as the node, it has the same normal
spelling, and its source is that spelling. -/
theorem parse_render_shape [PatternEngine] {text keys m} (h : parse text keys = .ok m) {layer x}
    (hlayer : layer ∈ m.layers) (hx : Node.Within x layer) :
    ∃ m' y, parse ("KEYMAP(" ++ x.render ++ ")") (some 1) = .ok m' ∧ m'.layers = [[y]] ∧
      y.shape = x.shape ∧ y.render = x.render ∧ y.source = x.render := by
  obtain ⟨m', y, hm', hlayers, hshape, hsource⟩ :=
    parse_render_of_legible (parse_legible h layer hlayer x hx)
  exact ⟨m', y, hm', hlayers, hshape, Node.render_eq_of_shape hshape, hsource⟩

/-- A call between a comment and a continuation, with words that end where a comment or a
continuation could start. -/
theorem parse_render_shape_marks :
    parse "LAYOUT(X \\\n F /* ( */ (é/ , \\ ))" none = .ok ⟨"LAYOUT",
      [[.call "F" [.word "é/" 23 27, .word "\\" 29 31] 12 32 "F /* ( */ (é/ , \\ )"]], 33, {}⟩ ∧
    ∃ m' y, parse "KEYMAP(F(é/, \\))" (some 1) = .ok m' ∧ m'.layers = [[y]] ∧
      y.source = "F(é/, \\)" := by
  have h : parse "LAYOUT(X \\\n F /* ( */ (é/ , \\ ))" none = .ok ⟨"LAYOUT",
      [[.call "F" [.word "é/" 23 27, .word "\\" 29 31] 12 32 "F /* ( */ (é/ , \\ )"]], 33, {}⟩ := by
    cbv
  obtain ⟨m', y, hm', hlayers, -, -, hsource⟩ :=
    parse_render_shape h (List.mem_singleton.2 rfl) (.here (List.mem_singleton.2 rfl))
  exact ⟨h, m', y, hm', hlayers, hsource⟩

end Keymap

end Keyplan
