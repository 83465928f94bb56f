import Keyplan.Proofs.SetKey

/-!
# What a validated edit keeps

The outcome of an edit is read again, but its numbers of layers and keys are compared with nothing.
So a value may close the list of its key, open another one or hide one in a comment, and the outcome
is reported as valid with other numbers (`setKey_changes_counts`). The numbers are kept if the value
stays inside the slot of its key: its parentheses are balanced with no comma outside them, and what
follows it is read as if it stood alone (`Contained`). The proof needs no key expression: a list can
be cut at its outermost delimiters in one way only (`eq_of_nesting`), so a text that can be read
again has the value's slot where the old one was (`Front.slot_of_listing`). Key expressions are
contained, and so are values with comments around them (`contained_of_isKeyExpression`,
`contained_of_settled`). The main statement is `setKey_keeps_counts`.
-/

namespace Keyplan

namespace Lexeme

/-- Number of parentheses open after the lexeme, if `depth` are open before it. There is none after
a delimiter of the list that the lexeme stands in. -/
def nest : Lexeme → Nat → Option Nat
  | .opening, depth => some (depth + 1)
  | .closing, depth + 1 => some depth
  | .closing, 0 => none
  | .comma, 0 => none
  | _, depth => some depth

/-- Number of parentheses open after lexemes, if `depth` are open before them. There is none if one
of them is a delimiter of the list that they stand in. -/
def nesting (depth : Nat) : List Lexeme → Option Nat
  | [] => some depth
  | x :: xs => (x.nest depth).bind fun inner => nesting inner xs

/-- Nesting goes on from one text to the next. -/
lemma nesting_append (depth : Nat) (xs ys : List Lexeme) :
    nesting depth (xs ++ ys) = (nesting depth xs).bind fun inner => nesting inner ys := by
  induction xs generalizing depth with
  | nil => rfl
  | cons x xs ih =>
    rw [List.cons_append, nesting, nesting, Option.bind_assoc]
    simp only [ih]

/-- Lexemes that are no delimiters change nothing. -/
lemma nesting_of_forall {xs} (h : ∀ x ∈ xs, ∀ depth, x.nest depth = some depth) (depth : Nat) :
    nesting depth xs = some depth := by
  induction xs with
  | nil => rfl
  | cons x xs ih =>
    obtain ⟨hx, hxs⟩ := List.forall_mem_cons.1 h
    rw [nesting, hx, Option.bind_some, ih hxs]

/-- A gap nests nothing. -/
lemma nest_of_isGap {x : Lexeme} (h : x.isGap = true) (depth : Nat) :
    x.nest depth = some depth := by
  cases x <;> first | rfl | cases h

/-- A character of a word nests nothing. -/
lemma nest_of_isOther {x : Lexeme} (h : x.isOther = true) (depth : Nat) :
    x.nest depth = some depth := by
  cases x <;> first | rfl | cases h

/-- Balanced lexemes end where a delimiter of the list follows. -/
lemma nesting_delimiter {xs more : List Lexeme} {d : Lexeme} (h : nesting 0 xs = some 0)
    (hd : d = .comma ∨ d = .closing) : nesting 0 (xs ++ d :: more) = none := by
  rw [nesting_append, h, Option.bind_some, nesting]
  rcases hd with rfl | rfl <;> rfl

/-- The first delimiter outside parentheses ends the same lexemes in the same text. -/
lemma eq_of_nesting {xs ys us ws : List Lexeme} {d e : Lexeme}
    (hxs : nesting 0 xs = some 0) (hys : nesting 0 ys = some 0)
    (hd : d = .comma ∨ d = .closing) (he : e = .comma ∨ e = .closing)
    (heq : xs ++ d :: us = ys ++ e :: ws) : xs = ys ∧ d :: us = e :: ws := by
  -- the longer of the two would go over the delimiter behind the shorter one
  rcases List.append_eq_append_iff.1 heq with ⟨more, hmore, htail⟩ | ⟨more, hmore, htail⟩
  · cases more with
    | nil => exact ⟨by simpa using hmore.symm, htail⟩
    | cons z more =>
      obtain ⟨rfl, -⟩ := List.cons.inj htail
      rw [hmore, nesting_delimiter hxs hd] at hys
      cases hys
  · cases more with
    | nil => exact ⟨by simpa using hmore, htail.symm⟩
    | cons z more =>
      obtain ⟨rfl, -⟩ := List.cons.inj htail
      rw [hmore, nesting_delimiter hys he] at hxs
      cases hxs

/-- The lexemes of a text are as long as the text. -/
lemma width_lex (cs : List Char) : width (lex .code cs) = Text.size cs := by
  rw [width, (splits_lex cs).text_eq]

/-- What stands before a word character may stand before any text, unless it ends with one itself or
a continuation could start in it. -/
lemma Splits.front_append {cs} {front core : List Lexeme} (h : Splits cs (front ++ core))
    (hcore : ∃ c more, core = .other c :: more)
    (hfront : ∀ z, front.getLast? = some z → z.isOther = false)
    (hreturn : ∀ as : List Lexeme, front ≠ as ++ [Lexeme.other '\\', .blank '\r'])
    (bs : List Char) :
    lex .code (text front ++ bs) = front ++ lex .code bs := by
  obtain ⟨c, more, rfl⟩ := hcore
  refine Splits.lex_eq (h.of_append.1.append_of_settled (splits_lex bs) ?_ ?_)
  · intro z hz
    obtain ⟨as, rfl⟩ := List.getLast?_eq_some_iff.1 hz
    rw [List.append_assoc] at h
    exact h.of_append.2.settled (hfront z hz)
  · intro as has
    exact absurd has (hreturn as)

end Lexeme

namespace Grammar
open Lexeme

/-- Gaps nest nothing. -/
lemma IsGaps.nesting {gaps} (h : IsGaps gaps) (depth : Nat) :
    Lexeme.nesting depth gaps = some depth :=
  nesting_of_forall (fun x hx => nest_of_isGap (h x hx)) depth

/-- A word nests nothing. -/
lemma IsWord.nesting {word} (h : IsWord word) (depth : Nat) :
    Lexeme.nesting depth word = some depth :=
  nesting_of_forall (fun x hx => nest_of_isOther (h.2 x hx)) depth

/-- What may follow a finished call nests nothing. -/
lemma IsTail.nesting {tail} (h : IsTail tail) (depth : Nat) :
    Lexeme.nesting depth tail = some depth := by
  refine nesting_of_forall ?_ depth
  intro x hx depth
  rcases h x hx with hgap | ⟨carriage, rfl⟩
  · exact nest_of_isGap hgap depth
  · rfl

/-- What may lead a slot nests nothing. -/
lemma Lead.nesting {lead} (h : Lead lead) (depth : Nat) :
    Lexeme.nesting depth lead = some depth := by
  induction h with
  | nil => rfl
  | gap hx _ ih => rw [Lexeme.nesting, nest_of_isGap hx, Option.bind_some, ih]
  | continuation _ ih => exact ih
  | dropped hword hgaps _ ih =>
    rw [nesting_append, nesting_append, hword.nesting, Option.bind_some, hgaps.nesting,
      Option.bind_some]
    exact ih

mutual

/-- A slot has no delimiter of its list. -/
theorem Slot.nesting : ∀ {depth pos xs node}, Slot depth pos xs node → ∀ outer,
    Lexeme.nesting outer xs = some outer
  | _, _, _, _, @Slot.word _ _ lead word gaps hlead hword hgaps, outer => by
    simp only [nesting_append, hlead.nesting, hword.nesting, hgaps.nesting, Option.bind_some]
  | _, _, _, _, @Slot.call _ _ lead name gaps inner args tail hlead hname hgaps _ hinner htail,
      outer => by
    have hopening : Lexeme.nesting outer (.opening :: inner) = some outer := hinner.nesting outer
    simp only [nesting_append, hlead.nesting, hname.nesting, hgaps.nesting, hopening,
      htail.nesting, Option.bind_some]

/-- A list closes the parenthesis that it stands in. -/
theorem Listing.nesting : ∀ {depth pos xs nodes}, Listing depth pos xs nodes → ∀ outer,
    Lexeme.nesting (outer + 1) xs = some outer
  | _, _, _, _, .last hslot, outer => by
    rw [nesting_append, hslot.nesting]
    rfl
  | _, _, _, _, .more hslot hlist, outer => by
    rw [nesting_append, hslot.nesting]
    exact hlist.nesting outer

end

/-- Behind a lead, no word character stands before a last blank. -/
lemma Lead.ne_append {lead} (h : Lead lead) (c d : Char) :
    ∀ front : List Lexeme, lead ≠ front ++ [Lexeme.other c, .blank d] := by
  induction h with
  | nil => simp
  | @gap x xs hx _ ih =>
    intro front heq
    cases front with
    | nil =>
      obtain ⟨rfl, -⟩ := List.cons.inj heq
      cases hx
    | cons y front => exact ih front (List.cons.inj heq).2
  | continuation _ ih =>
    intro front heq
    cases front with
    | nil => cases (List.cons.inj heq).1
    | cons y front => exact ih front (List.cons.inj heq).2
  | @dropped word gaps carriage xs _ _ _ ih =>
    intro front heq
    rcases List.append_eq_append_iff.1 heq with ⟨more, -, htail⟩ | ⟨more, -, htail⟩
    · cases more with
      | nil => cases (List.cons.inj htail).1
      | cons y more => exact ih more (List.cons.inj htail).2
    · have hmem : Lexeme.continuation carriage ∈ [Lexeme.other c, .blank d] := by
        rw [htail]
        simp
      simp at hmem

/-- The same behind arguments and a lead. -/
lemma Front.ne_append {depth pos front A lead} (hfront : Front depth pos front A)
    (hlead : Lead lead) (c d : Char) :
    ∀ as : List Lexeme, front ++ lead ≠ as ++ [Lexeme.other c, .blank d] := by
  intro as heq
  rcases List.append_eq_append_iff.1 heq with ⟨more, -, htail⟩ | ⟨more, hmore, htail⟩
  · exact hlead.ne_append c d more htail
  · cases hlast : more.getLast? with
    | none =>
      rw [List.getLast?_eq_none_iff.1 hlast] at htail
      exact hlead.ne_append c d [] htail.symm
    | some z =>
      have hz : z = .comma := by
        refine hfront.eq_comma z ?_
        rw [hmore, List.getLast?_append, hlast]
        rfl
      have hmem : z ∈ [Lexeme.other c, .blank d] := by
        rw [htail]
        exact List.mem_append_left _ (List.mem_of_getLast? hlast)
      rw [hz] at hmem
      simp at hmem

/-- Arguments and a lead before a word character are read the same before any text. -/
lemma Front.lex_append {depth pos front A lead cs core} (hfront : Front depth pos front A)
    (hlead : Lead lead) (hsplit : Splits cs (front ++ lead ++ core))
    (hcore : ∃ c more, core = .other c :: more) (bs : List Char) :
    lex .code (text (front ++ lead) ++ bs) = front ++ lead ++ lex .code bs := by
  have hother : ∀ z, front.getLast? = some z → z.isOther = false := by
    intro z hz
    rw [hfront.eq_comma z hz]
    rfl
  exact hsplit.front_append hcore (hlead.isOther_of_append hother) (hfront.ne_append hlead _ _) bs

/-- Where a text can be read again, what stands between the delimiters of an argument is a slot. -/
lemma Front.slot_of_listing {depth pos front A} (hfront : Front depth pos front A)
    {xs nodes d} {ys after more : List Lexeme} (hlist : Listing depth pos xs nodes)
    (hys : Lexeme.nesting 0 ys = some 0) (hd : d = .comma ∨ d = .closing)
    (heq : xs ++ more = front ++ ys ++ d :: after) :
    ∃ node, Slot depth (pos + width front) ys node := by
  induction hfront generalizing xs nodes with
  | nil =>
    cases hlist with
    | @last _ _ slot node hslot =>
      have hsplit : slot ++ .closing :: more = ys ++ d :: after := by simpa using heq
      obtain ⟨rfl, -⟩ := eq_of_nesting (hslot.nesting 0) hys (.inr rfl) hd hsplit
      exact ⟨node, hslot⟩
    | @more _ _ slot node rest nodes hslot _ =>
      have hsplit : slot ++ .comma :: (rest ++ more) = ys ++ d :: after := by simpa using heq
      obtain ⟨rfl, -⟩ := eq_of_nesting (hslot.nesting 0) hys (.inl rfl) hd hsplit
      exact ⟨node, hslot⟩
  | @cons pos first _ front A hfirst _ ih =>
    have hpos : pos + width (first ++ .comma :: front) = pos + width first + 1 + width front := by
      simp [Nat.add_assoc]
    rw [hpos]
    cases hlist with
    | @last _ _ slot node hslot =>
      have hsplit : slot ++ .closing :: more = first ++ .comma :: (front ++ ys ++ d :: after) := by
        simpa using heq
      obtain ⟨-, htail⟩ :=
        eq_of_nesting (hslot.nesting 0) (hfirst.nesting 0) (.inr rfl) (.inl rfl) hsplit
      cases (List.cons.inj htail).1
    | @more _ _ slot node rest nodes hslot hrest =>
      have hsplit : slot ++ .comma :: (rest ++ more) =
          first ++ .comma :: (front ++ ys ++ d :: after) := by simpa using heq
      obtain ⟨rfl, htail⟩ :=
        eq_of_nesting (hslot.nesting 0) (hfirst.nesting 0) (.inl rfl) (.inl rfl) hsplit
      exact ih hrest (List.cons.inj htail).2

/-- The value stays inside the slot that it is put into. -/
structure Contained (value : List Char) : Prop where
  /-- What follows the value is read as if it stood alone. -/
  lex_append : ∀ cs, lex .code (value ++ cs) = lex .code value ++ lex .code cs
  /-- Parentheses are balanced, and no comma stands outside them. -/
  balanced : Lexeme.nesting 0 (lex .code value) = some 0

/-- A value is contained if its last lexeme does not look ahead and is no carriage return. -/
lemma contained_of_settled {value} {front : List Lexeme} {z : Lexeme}
    (hlex : lex .code value = front ++ [z]) (hsettled : z.Settled) (hreturn : z ≠ .blank '\r')
    (hbalanced : Lexeme.nesting 0 (lex .code value) = some 0) : Contained value := by
  refine ⟨?_, hbalanced⟩
  intro cs
  refine ((splits_lex value).append_of_settled (splits_lex cs) ?_ ?_).lex_eq
  · intro last hlast
    rw [hlex, List.getLast?_concat] at hlast
    cases hlast
    exact hsettled
  · intro as has
    have hsame : front ++ [z] = (as ++ [Lexeme.other '\\']) ++ [Lexeme.blank '\r'] := by
      rw [← hlex, has]
      simp
    exact absurd (List.append_inj_right' hsame rfl) (by simpa using hreturn)

/-- Key expressions are contained. -/
theorem contained_of_isKeyExpression [PatternEngine] {value n} (h : IsKeyExpression value n) :
    Contained value.toList := by
  obtain ⟨core, hsplit, hcore⟩ := h.exists_core
  refine ⟨?_, ?_⟩
  · intro cs
    rw [hsplit.lex_eq]
    exact (hsplit.append (splits_lex cs) (h.seam hsplit hcore cs)).lex_eq
  · have hslot : Slot 1 0 ([] ++ core ++ []) _ := hcore.slot .nil nofun (.inr nofun)
    rw [hsplit.lex_eq]
    simpa using hslot.nesting 0

/-- If the source of an argument is replaced by a contained value and the text can be read again,
the list has one argument in the place of the old one; those before it stay, and those after it
move. -/
lemma Listing.replace_contained {pos body xs A old B} (hlist : Listing 1 pos xs (A ++ old :: B))
    (hsplit : Splits body xs) :
    ∃ before after, body = before ++ old.source.toList ++ after ∧
      old.start = pos + Text.size before ∧
      ∀ {value left xs' nodes' more}, Contained value → Listing 1 pos xs' nodes' →
        lex .code (before ++ value ++ after ++ left) = xs' ++ more →
        ∃ ys node, Splits (before ++ value ++ after) ys ∧
          ∀ {f : Nat → Nat}, (∀ k, f (old.sourceEnd + k) = old.start + Text.size value + k) →
            Listing 1 pos ys (A ++ node :: B.map (Node.mapPos f)) := by
  obtain ⟨front, slot, back, rfl, hfront, hslot, hback⟩ := hlist.exists_front
  obtain ⟨lead, core, rest, rfl, hlead, hcore, htail, -, hstart, -⟩ := hslot.exists_core
  have hend : old.sourceEnd = pos + width front + width lead + width core := by
    rw [Node.sourceEnd, hstart, hcore.width_eq]
  refine ⟨text (front ++ lead), text (rest ++ back), ?_, ?_, ?_⟩
  · rw [← hsplit.text_eq, ← hcore.text_eq]
    simp
  · rw [hstart, ← width, width_append, Nat.add_assoc]
  intro value left xs' nodes' more hvalue hlist' hlex
  -- nothing of the value is read together with what stands around it
  have hedited : ∀ left, lex .code (text (front ++ lead) ++ value ++ text (rest ++ back) ++ left) =
      front ++ (lead ++ lex .code value ++ rest) ++ (back ++ lex .code left) := by
    intro left
    have hjoin := hsplit.append (splits_lex left) (hlist.seam left)
    have hcut : Splits (body ++ left)
        (front ++ lead ++ core ++ (rest ++ back ++ lex .code left)) := by simpa using hjoin
    have hrest := hcut.of_append.2.lex_eq
    rw [text_append, (splits_lex left).text_eq] at hrest
    have hlead' := hfront.lex_append hlead hcut.of_append.1 hcore.head
      (value ++ (text (rest ++ back) ++ left))
    rw [List.append_assoc, List.append_assoc, hlead', hvalue.lex_append, hrest]
    simp
  have hbalanced : Lexeme.nesting 0 (lead ++ lex .code value ++ rest) = some 0 := by
    simp only [nesting_append, hlead.nesting, hvalue.balanced, htail.nesting, Option.bind_some]
  obtain ⟨d, back', hd, hback'⟩ :
      ∃ d back', (d = Lexeme.comma ∨ d = .closing) ∧ back = d :: back' := by
    cases hback with
    | last => exact ⟨_, _, .inr rfl, rfl⟩
    | more _ => exact ⟨_, _, .inl rfl, rfl⟩
  have heq : xs' ++ more =
      front ++ (lead ++ lex .code value ++ rest) ++ d :: (back' ++ lex .code left) := by
    rw [← hlex, hedited, hback']
    rfl
  obtain ⟨node, hnew⟩ := hfront.slot_of_listing hlist' hbalanced hd heq
  refine ⟨front ++ (lead ++ lex .code value ++ rest) ++ back, node, ?_, ?_⟩
  · have hbody := hedited []
    simp only [List.append_nil, lex] at hbody
    exact lex_eq_iff_splits.1 hbody
  · intro f hf
    refine hfront.listing hnew (hback.relocate ?_)
    intro k
    have hmove := hf (width rest + k)
    rw [hend, hstart] at hmove
    simp only [width_append, width_lex, ← Nat.add_assoc] at hmove ⊢
    exact hmove

end Grammar

namespace Keymap
open Grammar Lexeme

/-- If the source of a key is replaced and the text can be read again, the layers before that of the
key stay, and there is a layer in its place. If the value is contained, there is one key in the
place of the old one, and all after it moves. -/
theorem Layers.replace_contained {pos cs L A old B M stop}
    (h : Layers pos cs (L ++ (A ++ old :: B) :: M) stop) :
    ∃ before after, cs = before ++ old.source.toList ++ after ∧
      old.start = pos + Text.size before ∧
      ∀ {value layers' stop'}, Layers pos (before ++ value ++ after) layers' stop' →
        (∃ nodes more, layers' = L ++ nodes :: more) ∧
        (Contained value → ∃ node, ∀ {f : Nat → Nat},
          (∀ k, f (old.sourceEnd + k) = old.start + Text.size value + k) →
          layers' = L ++ (A ++ node :: B.map (Node.mapPos f)) ::
            M.map (List.map (Node.mapPos f))) := by
  obtain ⟨front, rest, rfl, hlayer, hfront⟩ := h.exists_layer
  obtain ⟨body, xs, _, left, _, rfl, hlayers, hsplit, hlist, hfurther⟩ := hlayer.exists_further
  obtain ⟨rfl, rfl⟩ := List.cons.inj hlayers
  obtain ⟨before, after, hbody, hstart, hnew⟩ := hlist.replace_contained hsplit
  refine ⟨front ++ before, after ++ left, by simp [hbody], ?_, ?_⟩
  · rw [hstart, Text.size_append, Nat.add_assoc]
  intro value layers' stop' hlayers'
  have hcs : front ++ before ++ value ++ (after ++ left) =
      front ++ (before ++ value ++ after ++ left) := by simp
  rw [hcs] at hlayers'
  obtain ⟨more, rfl, hmore⟩ := hfront.1 hlayers'
  obtain ⟨body', xs', nodes', left', more', hbody', rfl, hsplit', hlist', -⟩ := hmore.exists_further
  refine ⟨⟨nodes', more', rfl⟩, ?_⟩
  intro hvalue
  have hlex : lex .code (before ++ value ++ after ++ left) = xs' ++ lex .code left' := by
    rw [hbody']
    exact (hsplit'.append (splits_lex left') (hlist'.seam left')).lex_eq
  obtain ⟨ys, node, hsplitNew, hlistNew⟩ := hnew hvalue hlist' hlex
  refine ⟨node, ?_⟩
  intro f hf
  have hleft : ∀ k, f (pos + Text.size front + Text.size body + k) =
      pos + Text.size front + Text.size (before ++ value ++ after) + k := by
    intro k
    have hafter := hf (Text.size after + k)
    rw [Node.sourceEnd, hstart] at hafter
    simp only [hbody, Text.size_append, Text.size_toList, ← Nat.add_assoc] at hafter ⊢
    exact hafter
  have hlayersNew := (hfurther.relocate hleft).layers hsplitNew (hlistNew hf)
  rw [(hmore.unique hlayersNew).1]

end Keymap

namespace Edit
open Keymap Grammar

/-- An edit that is reported as a valid change has replaced the source of a key, and its outcome is
a keymap. -/
lemma exists_of_changed [PatternEngine] {text layer key value keys}
    (hchanged : (setKey text layer key value keys).changed = true)
    (hvalid : (setKey text layer key value keys).validation = none) :
    ∃ m old m', parse text keys = .ok m ∧ m.key? layer key = some old ∧
      (setKey text layer key value keys).text = splice text old.start old.sourceEnd value ∧
      parse (splice text old.start old.sourceEnd value) none = .ok m' := by
  cases hm : parse text keys with
  | error e => simp [setKey, unchanged, hm] at hchanged
  | ok m =>
    cases hold : m.key? layer key with
    | none => simp [setKey, unchanged, hm, hold] at hchanged
    | some old =>
      cases hparse : parse (splice text old.start old.sourceEnd value) none with
      | error e => simp [setKey, hm, hold, hparse] at hvalid
      | ok m' => exact ⟨m, old, m', rfl, hold, by simp [setKey, hm, hold], hparse⟩

/-- An edit that is reported as a valid change keeps keyword, settings and the layers before that of
the key, has a layer in its place, and keeps the number of keys if there is a layer before it. If
the value is contained, there are as many layers as before, each with as many keys. -/
theorem setKey_keeps_counts [PatternEngine] {text layer key value keys}
    (hchanged : (setKey text layer key value keys).changed = true)
    (hvalid : (setKey text layer key value keys).validation = none) :
    ∃ m m', parse text keys = .ok m ∧ parse (setKey text layer key value keys).text none = .ok m' ∧
      m'.keyword = m.keyword ∧ m'.settings = m.settings ∧
      m'.layers.take layer = m.layers.take layer ∧ layer < m'.layers.length ∧
      (0 < layer → m'.keyCount = m.keyCount) ∧
      (Contained value.toList → m'.layers.map List.length = m.layers.map List.length) := by
  obtain ⟨m, old, m', hm, hold, htextNew, hm'⟩ := exists_of_changed hchanged hvalid
  obtain ⟨L, A, B, M, hlayers, rfl, -⟩ := exists_of_key? hold
  obtain ⟨head, rest, htext, hread, hhead⟩ := exists_head_of_parse hm
  rw [hlayers] at hread
  obtain ⟨before, after, rfl, hstart, hnew⟩ := hread.replace_contained
  obtain ⟨hread', hkeyword, hsettings⟩ := hhead (toList_splice_source htext hstart value) hm'
  obtain ⟨⟨nodes, more, hlayers'⟩, hcontained⟩ := hnew hread'
  rw [htextNew]
  refine ⟨m, m', hm, hm', hkeyword, hsettings, ?_, ?_, ?_, ?_⟩
  · rw [hlayers, hlayers', List.take_left, List.take_left]
  · simp [hlayers']
  · intro hpos
    obtain ⟨first, L, rfl⟩ := List.exists_cons_of_length_pos hpos
    rw [keyCount, keyCount, hlayers, hlayers']
    rfl
  · intro hvalue
    obtain ⟨node, hnode⟩ := hcontained hvalue
    have hmove : ∀ k, move old value (old.sourceEnd + k) =
        old.start + Text.size value.toList + k := by
      simpa only [Text.size_toList] using move_sourceEnd old value
    rw [hlayers, hnode hmove]
    simp [Function.comp_def]

/-- A value with a comma in a comment, which is no key expression, is contained. -/
theorem setKey_keeps_counts_comment :
    setKey "LAYOUT(A, C)\nLAYOUT(D, E)" 0 0 "B /* , */" none =
        ⟨"LAYOUT(B /* , */, C)\nLAYOUT(D, E)", true, none⟩ ∧
      Contained "B /* , */".toList ∧
      ∃ m m', parse "LAYOUT(A, C)\nLAYOUT(D, E)" none = .ok m ∧
        parse "LAYOUT(B /* , */, C)\nLAYOUT(D, E)" none = .ok m' ∧
        m'.layers.map List.length = m.layers.map List.length := by
  have hedit : setKey "LAYOUT(A, C)\nLAYOUT(D, E)" 0 0 "B /* , */" none =
      ⟨"LAYOUT(B /* , */, C)\nLAYOUT(D, E)", true, none⟩ := by cbv
  have hlex : Lexeme.lex .code "B /* , */".toList =
      [Lexeme.other 'B', .blank ' '] ++ [Lexeme.blockComment [' ', ',', ' '] true] := by cbv
  have hvalue : Contained "B /* , */".toList := contained_of_settled hlex rfl (by simp) (by cbv)
  obtain ⟨m, m', hm, hm', -, -, -, -, -, hcounts⟩ :=
    setKey_keeps_counts (congrArg Edit.changed hedit) (congrArg Edit.validation hedit)
  rw [hedit] at hm'
  exact ⟨hedit, hvalue, m, m', hm, hm', hcounts hvalue⟩

/-- Values that reach out of the slot of their key and pass: one adds a key, one adds a layer, and
one hides a layer in a comment. -/
theorem setKey_changes_counts :
    (setKey "LAYOUT(A)" 0 0 "A, B" (some 1) = ⟨"LAYOUT(A, B)", true, none⟩ ∧
      parse "LAYOUT(A)" (some 1) = .ok ⟨"LAYOUT", [[.word "A" 7 8]], 9, {}⟩ ∧
      parse "LAYOUT(A, B)" none =
        .ok ⟨"LAYOUT", [[.word "A" 7 8, .word "B" 10 11]], 12, {}⟩) ∧
    (setKey "LAYOUT(A)" 0 0 "B) LAYOUT(C" none = ⟨"LAYOUT(B) LAYOUT(C)", true, none⟩ ∧
      parse "LAYOUT(A)" none = .ok ⟨"LAYOUT", [[.word "A" 7 8]], 9, {}⟩ ∧
      parse "LAYOUT(B) LAYOUT(C)" none =
        .ok ⟨"LAYOUT", [[.word "B" 7 8], [.word "C" 17 18]], 19, {}⟩) ∧
    (setKey "KEYMAP(A) KEYMAP(B /* x */)" 0 0 "A /*" none =
        ⟨"KEYMAP(A /*) KEYMAP(B /* x */)", true, none⟩ ∧
      parse "KEYMAP(A) KEYMAP(B /* x */)" none =
        .ok ⟨"KEYMAP", [[.word "A" 7 8], [.word "B" 17 26]], 27, {}⟩ ∧
      parse "KEYMAP(A /*) KEYMAP(B /* x */)" none =
        .ok ⟨"KEYMAP", [[.word "A" 7 29]], 30, {}⟩) := by
  refine ⟨⟨?_, ?_, ?_⟩, ⟨?_, ?_, ?_⟩, ⟨?_, ?_, ?_⟩⟩ <;> cbv

end Edit

end Keyplan
