import Keyplan.Proofs.Spans

/-!
# Adding a layer

A new layer is written behind the last layout. Nothing of its text in front of the keyword can be
taken for another layout (`search_append_of_ne`), its keys are read as transparent words
(`exists_listing_transparent`), and the layers before it stay where they are
(`Layers.exists_end`). The main statement is `parse_addLayer`.
-/

namespace Keyplan

namespace Grammar
open Lexeme

/-- The nodes of a new layer whose first key stands at `pos`. -/
def transparentRow (pos : Nat) : Nat → List Node
  | 0 => []
  | keys + 1 => .word transparentKeycode pos (pos + 7) :: transparentRow (pos + 9) keys

/-- A transparent row has as many keys as are asked for. -/
@[simp] lemma length_transparentRow (pos keys : Nat) : (transparentRow pos keys).length = keys := by
  induction keys generalizing pos with
  | zero => rfl
  | succ keys ih => simp [transparentRow, ih]

/-- All keys of a new layer are transparent words. -/
lemma exists_word_of_mem_transparentRow {pos keys n} (h : n ∈ transparentRow pos keys) :
    ∃ start stop, n = .word transparentKeycode start stop := by
  induction keys generalizing pos with
  | zero => cases h
  | succ keys ih =>
    rw [transparentRow] at h
    rcases List.mem_cons.1 h with rfl | h
    · exact ⟨_, _, rfl⟩
    · exact ih h

/-- All its keys are shown as transparent. -/
@[simp] lemma render_transparentRow (pos keys : Nat) :
    (transparentRow pos keys).map Node.render = List.replicate keys transparentKeycode := by
  induction keys generalizing pos with
  | zero => rfl
  | succ keys ih => simp [transparentRow, Node.render, ih, List.replicate_succ]

/-- The lexemes of a transparent key. -/
def transparentWord : List Lexeme :=
  transparentKeycode.toList.map .other

/-- A transparent key is written as its keycode. -/
@[simp] lemma text_transparentWord : text transparentWord = transparentKeycode.toList := by
  decide

/-- It takes seven bytes. -/
@[simp] lemma width_transparentWord : width transparentWord = 7 := by
  decide

/-- A transparent key is a word. -/
lemma isWord_transparentWord : IsWord transparentWord := by
  refine ⟨by decide, ?_⟩
  intro x hx
  obtain ⟨c, -, rfl⟩ := List.mem_map.1 hx
  rfl

/-- No character of a transparent key looks ahead. -/
lemma readBefore_transparentWord : ∀ x ∈ transparentWord, ∀ rest, ReadBefore x rest := by
  intro x hx rest
  obtain ⟨c, hc, rfl⟩ := List.mem_map.1 hx
  have hplain : (transparentKeycode.toList.all fun c =>
      Text.isBlank c = false ∧ c ∉ [',', '(', ')'] ∧ c ≠ '/' ∧ c ≠ '\\') = true := by decide
  obtain ⟨hblank, hdelim, hslash, hback⟩ := of_decide_eq_true (List.all_eq_true.1 hplain c hc)
  exact .other hblank hdelim (fun h => absurd h hslash) (fun h => absurd h hback)

/-- A transparent key is a slot behind any lead. -/
lemma Lead.slot_transparent {lead} (h : Lead lead) (pos : Nat) :
    Slot 1 pos (lead ++ transparentWord)
      (.word transparentKeycode (pos + width lead) (pos + width lead + 7)) := by
  have hslot : Slot 1 pos (lead ++ transparentWord ++ []) _ :=
    .word h isWord_transparentWord (by simp [IsGaps])
  rw [text_transparentWord, String.ofList_toList, width_transparentWord, List.append_nil] at hslot
  exact hslot

/-- The text of the keys of a new layer, with the parenthesis after them. -/
def transparentBody (keys : Nat) : List Char :=
  (", ".intercalate (List.replicate keys transparentKeycode)).toList ++ [')']

/-- The text of the keys of a new layer is an argument list behind any lead. -/
lemma Lead.exists_listing_transparent {lead} (h : Lead lead)
    (hread : ∀ x ∈ lead, ∀ rest, ReadBefore x rest) (keys pos : Nat) :
    ∃ xs, text xs = text lead ++ transparentBody (keys + 1) ∧
      (∀ x ∈ xs, ∀ rest, ReadBefore x rest) ∧
      Listing 1 pos xs (transparentRow (pos + width lead) (keys + 1)) := by
  -- the lead is general, since every key but the first one stands behind a blank
  induction keys generalizing lead pos with
  | zero =>
    have hclosing : ∀ x ∈ [Lexeme.closing], ∀ rest, ReadBefore x rest := by
      simpa using fun rest => ReadBefore.closing
    refine ⟨lead ++ transparentWord ++ [.closing], ?_, ?_, .last (h.slot_transparent pos)⟩
    · simp [chars, transparentBody]
    · rw [List.append_assoc]
      exact List.forall_mem_append.2 ⟨hread, List.forall_mem_append.2
        ⟨readBefore_transparentWord, hclosing⟩⟩
  | succ keys ih =>
    have hblank : ∀ x ∈ [Lexeme.blank ' '], ∀ rest, ReadBefore x rest := by
      simpa using fun rest => ReadBefore.blank (by decide)
    obtain ⟨xs, hxs, hreadRest, hlist⟩ :=
      ih (.gap rfl .nil) hblank (pos + width (lead ++ transparentWord) + 1)
    have hrow : pos + width (lead ++ transparentWord) + 1 + width [.blank ' '] =
        pos + width lead + 9 := by
      have hspace : width [.blank ' '] = 1 := by decide
      rw [width_append, width_transparentWord, hspace]
      omega
    rw [hrow] at hlist
    have hcomma : ∀ x ∈ Lexeme.comma :: xs, ∀ rest, ReadBefore x rest :=
      List.forall_mem_cons.2 ⟨fun _ => .comma, hreadRest⟩
    refine ⟨lead ++ transparentWord ++ .comma :: xs, ?_, ?_, .more (h.slot_transparent pos) hlist⟩
    · rw [transparentBody, List.replicate_succ, String.intercalate_cons_of_ne_nil (by simp)]
      simp [hxs, chars, transparentBody]
    · rw [List.append_assoc]
      exact List.forall_mem_append.2 ⟨hread, List.forall_mem_append.2
        ⟨readBefore_transparentWord, hcomma⟩⟩

/-- The text of the keys of a new layer is an argument list. -/
lemma exists_listing_transparentBody {keys} (h : 0 < keys) (pos : Nat) :
    ∃ xs, Splits (transparentBody keys) xs ∧ Listing 1 pos xs (transparentRow pos keys) := by
  obtain ⟨xs, hxs, hread, hlist⟩ := Lead.nil.exists_listing_transparent nofun (keys - 1) pos
  rw [Nat.sub_add_cancel h] at hxs hlist
  rw [text_nil, List.nil_append] at hxs
  exact ⟨xs, hxs ▸ .of_forall hread, hlist⟩

end Grammar

namespace Edit
open Grammar Keymap Lexeme

/-- The text of a new layer in front of its keyword, less the last blank. -/
def layerLead (index : Nat) : List Char :=
  ",\n [".toList ++ (toString index).toList ++ "] =".toList

/-- The text of a new layer is its lead, its keyword and its keys. -/
lemma toList_layerText (index : Nat) (keyword : String) (keys : Nat) :
    (layerText index keyword keys).toList =
      layerLead index ++ ' ' :: (keyword.toList ++ '(' :: transparentBody keys) := by
  simp [layerText, layerLead, transparentBody]

/-- No keyword starts in the lead of a new layer. -/
lemma ne_of_mem_layerLead (index : Nat) :
    ∀ c ∈ layerLead index ++ [' '], c ≠ 'K' ∧ c ≠ 'L' := by
  have hmarks : (",\n [] = ".toList.all fun c => c ≠ 'K' ∧ c ≠ 'L') = true := by decide
  intro c hc
  by_cases hindex : c ∈ Nat.toDigits 10 index
  · have hdigit : c.isDigit = true :=
      Nat.isDigit_of_mem_toDigits (by decide) (by decide) hindex
    refine ⟨?_, ?_⟩
    · rintro rfl
      cases hdigit
    · rintro rfl
      cases hdigit
  · refine of_decide_eq_true (List.all_eq_true.1 hmarks c ?_)
    simpa [layerLead, hindex] using hc

/-- Behind the last layout, the text of a new layer is one further layer. -/
lemma exists_further_layerText {stop after}
    (hnone : Invocation.search 0 (some ')') stop after = none) {keyword : String}
    (hkeyword : Invocation.IsKeyword keyword.toList) (index : Nat) {keys} (hkeys : 0 < keys) :
    ∃ pos, Further stop ((layerText index keyword keys).toList ++ after) [transparentRow pos keys]
      (stop + (layerText index keyword keys).utf8ByteSize) := by
  let start := stop + Text.size (layerLead index ++ [' '])
  let argsStart := start + Text.size keyword.toList + 1
  have hnext : Invocation.search 0 (some ')') stop
      ((layerText index keyword keys).toList ++ after) =
      some (⟨keyword, start, argsStart⟩, transparentBody keys ++ after) := by
    rw [toList_layerText]
    simp only [List.append_assoc, List.cons_append]
    rw [Invocation.search_append_of_ne (ne_of_mem_layerLead index),
      Invocation.search_keyword hkeyword (by decide), String.ofList_toList]
  have hsize : stop + (layerText index keyword keys).utf8ByteSize =
      argsStart + Text.size (transparentBody keys) := by
    have hparen : Char.utf8Size '(' = 1 := rfl
    rw [← Text.size_toList, toList_layerText]
    simp only [argsStart, start, Text.size_append, Text.size_cons, Text.size_nil, hparen]
    omega
  obtain ⟨xs, hsplit, hlist⟩ := exists_listing_transparentBody hkeys argsStart
  refine ⟨argsStart, .inr ⟨_, _, hnext, ?_⟩⟩
  rw [hsize]
  refine .last hsplit hlist ?_
  -- the text behind the last layout has moved
  rw [← hsize, Invocation.search_relocate (f := (· + _)) (fun n => Nat.add_right_comm stop n _),
    hnone]
  rfl

/-- A text with a layer added is the text with the new layer put in behind the last layout. -/
lemma toList_addLayer [PatternEngine] {text m before after} (h : parse text none = .ok m)
    (htext : text.toList = before ++ after) (hbefore : Text.size before = m.stop)
    (keyword : String) :
    (addLayer text keyword).toList =
      before ++ (layerText m.layers.length keyword m.keyCount).toList ++ after := by
  have htext' : text.toList = before ++ [] ++ after := by simp [htext]
  have hstop : m.stop = m.stop + Text.size [] := rfl
  simp only [addLayer, h]
  rw [splice_eq htext' hbefore hstop]
  simp

/-- A text with a layer added is a keymap with one more layer. It has as many transparent keys as
the others have keys; the layers before it are kept. -/
theorem exists_parse_addLayer [PatternEngine] {text m} (h : parse text none = .ok m)
    {keyword : String} (hkeyword : Invocation.IsKeyword keyword.toList) :
    ∃ m' pos, parse (addLayer text keyword) none = .ok m' ∧ m'.keyword = m.keyword ∧
      m'.settings = m.settings ∧ m'.keyCount = m.keyCount ∧
      m'.layers = m.layers ++ [transparentRow pos m.keyCount] ∧
      m'.stop = m.stop + (layerText m.layers.length keyword m.keyCount).utf8ByteSize := by
  obtain ⟨head, rest, htext, hread, hparse⟩ := exists_head h
  obtain ⟨before, after, rfl, hstop, hnone, hadd⟩ := hread.exists_end
  obtain ⟨pos, hfurther⟩ :=
    exists_further_layerText hnone hkeyword m.layers.length (keyCount_pos h)
  have hedited : (addLayer text keyword).toList =
      head ++ (before ++ ')' ::
        ((layerText m.layers.length keyword m.keyCount).toList ++ after)) := by
    have htext' : text.toList = head ++ (before ++ [')']) ++ after := by simp [htext]
    have hbefore : Text.size (head ++ (before ++ [')'])) = m.stop := by
      rw [hstop, Text.size_append]
    rw [toList_addLayer h htext' hbefore]
    simp
  have hcount : ∀ layer ∈ m.layers ++ [transparentRow pos m.keyCount],
      layer.length = m.keyCount := by
    refine List.forall_mem_append.2 ⟨length_eq_keyCount h, ?_⟩
    simp
  obtain ⟨hm', hkeys⟩ := hparse hedited (hadd hfurther) hcount
  exact ⟨_, pos, hm', rfl, rfl, hkeys, rfl, rfl⟩

/-- Adding a layer to a keymap gives a keymap for the same number of keys that has one layer more,
whatever keyword is given; the keyword of the keymap itself is one. The layers so far are kept with
all their positions, the new one has transparent keys only, and keyword and settings stay. The text
up to the end of the last layout is kept, and so is the text behind it, which now stands behind the
new layer. -/
theorem parse_addLayer [PatternEngine] {text m} (h : parse text none = .ok m) :
    Invocation.IsKeyword m.keyword.toList ∧
    ∀ keyword : String, Invocation.IsKeyword keyword.toList →
      ∃ m' row before new after, parse (addLayer text keyword) (some m.keyCount) = .ok m' ∧
        m'.layers = m.layers ++ [row] ∧ row.length = m.keyCount ∧
        (∀ n ∈ row, ∃ start stop, n = .word transparentKeycode start stop) ∧
        m'.keyword = m.keyword ∧ m'.settings = m.settings ∧
        text.toList = before ++ after ∧ Text.size before = m.stop ∧
        (addLayer text keyword).toList = before ++ new ++ after ∧
        Text.size (before ++ new) = m'.stop := by
  refine ⟨isKeyword_keyword h, ?_⟩
  intro keyword hkeyword
  obtain ⟨m', pos, hm', hsameKeyword, hsettings, hkeys, hlayers, hstop⟩ :=
    exists_parse_addLayer h hkeyword
  obtain ⟨front, after, htext, hend, -⟩ := parse_exists_closing h
  have htext' : text.toList = front ++ [')'] ++ after := by simp [htext]
  have hparse := parse_some_keyCount hm'
  rw [hkeys] at hparse
  refine ⟨m', _, front ++ [')'], _, after, hparse, hlayers, length_transparentRow _ _, ?_,
    hsameKeyword, hsettings, htext', hend.symm, toList_addLayer h htext' hend.symm keyword, ?_⟩
  · intro n hn
    exact exists_word_of_mem_transparentRow hn
  · rw [Text.size_append, Text.size_toList, ← hend, hstop]

/-- A layer with a variant of the keyword goes behind a layout that text follows. -/
theorem parse_addLayer_variant :
    parse "[0] = LAYOUT(é, LT(1, B)), // end\n" none = .ok ⟨"LAYOUT",
      [[.word "é" 13 15, .call "LT" [.word "1" 20 21, .word "B" 23 24] 17 25 "LT(1, B)"]], 26,
        {}⟩ ∧
    ∃ m' row, parse (addLayer "[0] = LAYOUT(é, LT(1, B)), // end\n" "KEYMAP_x") (some 2) = .ok m' ∧
      m'.layers = [[.word "é" 13 15,
        .call "LT" [.word "1" 20 21, .word "B" 23 24] 17 25 "LT(1, B)"], row] ∧
      row.length = 2 := by
  have h : parse "[0] = LAYOUT(é, LT(1, B)), // end\n" none = .ok ⟨"LAYOUT",
      [[.word "é" 13 15, .call "LT" [.word "1" 20 21, .word "B" 23 24] 17 25 "LT(1, B)"]], 26,
        {}⟩ := by cbv
  have hkeyword : Invocation.IsKeyword "KEYMAP_x".toList :=
    ⟨"KEYMAP".toList, ['_', 'x'], .inl rfl, rfl,
      .inr ⟨['x'], by decide, rfl, List.all_eq_true.1 (by decide)⟩⟩
  obtain ⟨m', row, -, -, -, hm', hlayers, hrow, -⟩ := (parse_addLayer h).2 "KEYMAP_x" hkeyword
  exact ⟨h, m', row, hm', hlayers, hrow⟩

end Edit

end Keyplan
