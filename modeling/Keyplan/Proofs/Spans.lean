import Keyplan.Edit
import Keyplan.Proofs.Layers
import Keyplan.Regex.Engine

/-!
# The spans of nodes

The positions of a node are exact: they cut the node's own text out of the text that was read
(`Node.SpanExact`), siblings do not touch and stand in order, and the arguments of a call lie
between its name and its end. All of it is one property of a list of nodes (`Spanned`), proved along
the grammar (`Slot.spanned`, `Listing.spanned`) and carried through the layers (`Layers.spanned`).
The main statement is `parse_spans_exact`.
-/

namespace Keyplan

namespace Text

/-- The characters of `part` are those of the text from byte `start` to byte `stop`. -/
def Slice (cs : List Char) (start stop : Nat) (part : List Char) : Prop :=
  ∃ before after, cs = before ++ part ++ after ∧ size before = start ∧ stop = start + size part

/-- A text of blanks and complete comments. -/
inductive Gap : List Char → Prop where
  | nil :
    Gap []
  | blank {c cs} :
    isBlank c = true →
    Gap cs →
    Gap (c :: cs)
  | blockComment {body cs} :
    ¬ ['*', '/'] <:+: body →
    Gap cs →
    Gap ('/' :: '*' :: (body ++ '*' :: '/' :: cs))
  | lineComment {body cs} :
    '\n' ∉ body →
    Gap ('\n' :: cs) →
    Gap ('/' :: '/' :: (body ++ '\n' :: cs))

/-- The two ends of a slice are positions between characters. -/
lemma Slice.isValid {text : String} {start stop part} (h : Slice text.toList start stop part) :
    (⟨start⟩ : String.Pos.Raw).IsValid text ∧ (⟨stop⟩ : String.Pos.Raw).IsValid text := by
  obtain ⟨before, after, heq, rfl, rfl⟩ := h
  have htext : text = String.ofList before ++ String.ofList part ++ String.ofList after := by
    apply String.toList_injective
    simp [heq]
  rw [htext]
  refine ⟨String.Pos.Raw.isValid_iff_exists_append.2 ⟨String.ofList before, _,
    String.append_assoc, ?_⟩, String.Pos.Raw.isValid_iff_exists_append.2 ⟨_, _, rfl, ?_⟩⟩
  · rw [String.Pos.Raw.ext_iff, String.byteIdx_rawEndPos, size_ofList]
  · rw [String.Pos.Raw.ext_iff, String.byteIdx_rawEndPos, String.utf8ByteSize_append, size_ofList,
      size_ofList]

end Text

namespace Node
open Text

/-- The node is one of the nodes or stands inside one of them, at any depth. -/
inductive Within : Node → List Node → Prop where
  | here {n nodes} :
    n ∈ nodes →
    Within n nodes
  | deeper {n name args start stop source nodes} :
    Within n args →
    .call name args start stop source ∈ nodes →
    Within n nodes

/-- What the positions of a word say about the text. -/
structure WordSpan (cs : List Char) (content : String) (start stop : Nat) : Prop where
  /-- There is a word. -/
  ne_empty : content ≠ ""
  /-- The word has no blank and no delimiter. -/
  plain : ∀ c ∈ content.toList, isBlank c = false ∧ c ∉ [',', '(', ')']
  /-- The word stands at its start. -/
  slice : Slice cs start (start + content.utf8ByteSize) content.toList
  /-- Blanks and comments fill the place up to the delimiter. -/
  gap : ∃ gap, Gap gap ∧ Slice cs (start + content.utf8ByteSize) stop gap
  /-- A delimiter stands at the end. -/
  delimiter : Slice cs stop (stop + 1) [','] ∨ Slice cs stop (stop + 1) [')']

/-- What the positions of a call say about the text. -/
structure CallSpan (cs : List Char) (name : String) (args : List Node) (start stop : Nat)
    (source : String) : Prop where
  /-- The source of the call stands between its positions. -/
  slice : Slice cs start stop source.toList
  /-- The source begins with the name. -/
  name_prefix : name.toList <+: source.toList
  /-- The source ends with a parenthesis. -/
  closing_suffix : [')'] <:+ source.toList
  /-- There is an argument. -/
  args_ne_nil : args ≠ []
  /-- The arguments stand behind the name and before the end. -/
  inside : ∀ arg ∈ args, start + name.utf8ByteSize < arg.start ∧ arg.stop < stop
  /-- The arguments do not touch and stand in order. -/
  ordered : args.Pairwise fun a b => a.stop < b.start

/-- The positions of the node cut its own text out of the text. -/
def SpanExact (cs : List Char) : Node → Prop
  | .word content start stop => WordSpan cs content start stop
  | .call name args start stop source => CallSpan cs name args start stop source

/-- The nodes stand between two positions of the text, in order, all with exact spans. -/
structure Spanned (cs : List Char) (lo hi : Nat) (nodes : List Node) : Prop where
  /-- Every node at any depth has an exact span. -/
  exact : ∀ n, Within n nodes → SpanExact cs n
  /-- Every node at any depth stands between the positions. -/
  bounds : ∀ n, Within n nodes → lo ≤ n.start ∧ n.start < n.stop ∧ n.stop < hi
  /-- The nodes do not touch and stand in order. -/
  ordered : nodes.Pairwise fun a b => a.stop < b.start

/-- A node stands within a longer list if it stands within the first one or the others. -/
lemma within_cons {n node nodes} (h : Within n (node :: nodes)) :
    Within n [node] ∨ Within n nodes := by
  cases h with
  | here hn =>
    rcases List.mem_cons.1 hn with rfl | hn
    · exact .inl (.here (by simp))
    · exact .inr (.here hn)
  | deeper hn hcall =>
    rcases List.mem_cons.1 hcall with rfl | hcall
    · exact .inl (.deeper hn (List.mem_singleton.2 rfl))
    · exact .inr (.deeper hn hcall)

/-- Nothing but the word stands within a word. -/
lemma within_word {n content start stop} (h : Within n [.word content start stop]) :
    n = .word content start stop := by
  cases h with
  | here hn => exact List.mem_singleton.1 hn
  | deeper _ hcall => cases List.mem_singleton.1 hcall

/-- Within a call stand the call and what stands within its arguments. -/
lemma within_call {n name args start stop source}
    (h : Within n [.call name args start stop source]) :
    n = .call name args start stop source ∨ Within n args := by
  cases h with
  | here hn => exact .inl (List.mem_singleton.1 hn)
  | deeper hn hcall =>
    cases List.mem_singleton.1 hcall
    exact .inr hn

/-- Nodes that follow a node. -/
lemma Spanned.cons {cs lo mid hi node nodes} (hnode : Spanned cs lo mid [node])
    (hnodes : Spanned cs mid hi nodes) (hlo : lo ≤ mid) (hhi : mid ≤ hi) :
    Spanned cs lo hi (node :: nodes) where
  exact n hn := (within_cons hn).elim (hnode.exact n) (hnodes.exact n)
  bounds n hn := by
    rcases within_cons hn with hn | hn
    · have := hnode.bounds n hn
      omega
    · have := hnodes.bounds n hn
      omega
  ordered := by
    refine List.pairwise_cons.2 ⟨?_, hnodes.ordered⟩
    intro n hn
    have := hnode.bounds node (.here (by simp))
    have := hnodes.bounds n (.here hn)
    omega

end Node

namespace Grammar
open Lexeme

/-- The lexemes stand at `pos` in the text and are its splitting there. -/
def StandAt (cs : List Char) (pos : Nat) (xs : List Lexeme) : Prop :=
  ∃ before after, cs = before ++ text xs ++ after ∧ Text.size before = pos ∧ Splits (text xs) xs

/-- The text of lexemes is the slice at which they stand. -/
lemma StandAt.slice {cs pos xs} (h : StandAt cs pos xs) :
    Text.Slice cs pos (pos + width xs) (text xs) := by
  obtain ⟨before, after, heq, hpos, -⟩ := h
  exact ⟨before, after, heq, hpos, rfl⟩

/-- Where lexemes stand, they are the splitting of their text. -/
lemma StandAt.splits {cs pos xs} (h : StandAt cs pos xs) : Splits (text xs) xs := by
  obtain ⟨_, _, _, _, hsplit⟩ := h
  exact hsplit

/-- Parts of lexemes stand one after the other. -/
lemma StandAt.of_append {cs pos xs ys} (h : StandAt cs pos (xs ++ ys)) :
    StandAt cs pos xs ∧ StandAt cs (pos + width xs) ys := by
  obtain ⟨before, after, heq, hpos, hsplit⟩ := h
  obtain ⟨hxs, hys⟩ := hsplit.of_append
  refine ⟨⟨before, text ys ++ after, ?_, hpos, hxs⟩, ⟨before ++ text xs, after, ?_, ?_, hys⟩⟩
  · simp [heq]
  · simp [heq]
  · rw [Text.size_append, hpos, width]

/-- Gaps before a delimiter are blanks and complete comments. -/
lemma IsGaps.gap {gaps delim} (h : IsGaps gaps) (hdelim : delim = .comma ∨ delim = .closing)
    {cs} (hsplit : Splits cs (gaps ++ [delim])) : Text.Gap (text gaps) := by
  induction gaps generalizing cs with
  | nil => exact .nil
  | cons x gaps ih =>
    obtain ⟨hx, hgaps⟩ := List.forall_mem_cons.1 h
    rw [List.cons_append] at hsplit
    obtain ⟨hread, hrest⟩ := hsplit.cons_inv
    have hgap := ih hgaps hrest
    have hne : text (gaps ++ [delim]) ≠ [] := by
      rw [text_append]
      exact List.append_ne_nil_of_right_ne_nil _ (by rcases hdelim with rfl | rfl <;> simp [chars])
    generalize hafter : text (gaps ++ [delim]) = after at hread hne
    cases hread with
    | closedComment hbody => simpa [chars] using Text.Gap.blockComment hbody hgap
    | openComment _ => exact absurd rfl hne
    | lineComment hbody hfeed =>
      rcases hfeed with hnil | ⟨rest, hfeed⟩
      · exact absurd hnil hne
      · -- the line feed is a gap, since no delimiter is one
        cases hgaps' : text gaps with
        | nil =>
          rw [text_append, hgaps', ← hfeed] at hafter
          rcases hdelim with rfl | rfl <;> simp [chars] at hafter
        | cons c cs =>
          rw [text_append, hgaps', ← hfeed] at hafter
          obtain ⟨rfl, -⟩ := List.cons.inj hafter
          rw [hgaps'] at hgap
          simpa [chars, hgaps'] using Text.Gap.lineComment hbody hgap
    | blank hc => exact .blank hc hgap
    | _ => cases hx

/-- The characters of a word are neither blanks nor delimiters. -/
lemma IsWord.plain {word} (h : IsWord word) {cs} (hsplit : Splits cs word) :
    ∀ c ∈ text word, Text.isBlank c = false ∧ c ∉ [',', '(', ')'] := by
  obtain ⟨-, h⟩ := h
  induction word generalizing cs with
  | nil => simp
  | cons x word ih =>
    obtain ⟨hx, hword⟩ := List.forall_mem_cons.1 h
    obtain ⟨hread, hrest⟩ := hsplit.cons_inv
    intro c hc
    rw [text_cons] at hc
    rcases List.mem_append.1 hc with hc | hc
    · generalize text word = rest at hread
      cases hread with
      | other hblank hdelim _ _ =>
        rw [List.mem_singleton.1 hc]
        exact ⟨hblank, hdelim⟩
      | _ => cases hx
    · exact ih hrest hword c hc

mutual

/-- The node of a slot has an exact span, and so have the nodes inside it. -/
theorem Slot.spanned : ∀ {depth pos xs node}, Slot depth pos xs node → ∀ {cs delim},
    delim = .comma ∨ delim = .closing → StandAt cs pos (xs ++ [delim]) →
    Node.Spanned cs pos (pos + width xs + 1) [node]
  | _, pos, _, _, @Slot.word _ _ lead word gaps hlead hword hgaps, cs, delim, hdelim, hstand => by
    simp only [List.append_assoc] at hstand
    obtain ⟨hstandLead, hstand⟩ := hstand.of_append
    obtain ⟨hstandWord, hstandEnd⟩ := hstand.of_append
    obtain ⟨hstandGaps, hstandDelim⟩ := hstandEnd.of_append
    have hpos := width_pos hword.1
    have hspan : Node.WordSpan cs (String.ofList (text word)) (pos + width lead)
        (pos + width lead + width word + width gaps) := by
      constructor
      · intro hempty
        have hsize := congrArg String.utf8ByteSize hempty
        rw [utf8ByteSize_text, String.utf8ByteSize_empty] at hsize
        omega
      · rw [String.toList_ofList]
        exact hword.plain hstandWord.splits
      · rw [utf8ByteSize_text, String.toList_ofList]
        exact hstandWord.slice
      · rw [utf8ByteSize_text]
        exact ⟨text gaps, hgaps.gap hdelim hstandEnd.splits, hstandGaps.slice⟩
      · rcases hdelim with rfl | rfl
        · exact .inl hstandDelim.slice
        · exact .inr hstandDelim.slice
    refine ⟨?_, ?_, List.pairwise_singleton _ _⟩
    · intro n hn
      rw [Node.within_word hn]
      exact hspan
    · intro n hn
      rw [Node.within_word hn]
      simp only [Node.start, Node.stop, width_append]
      omega
  | depth, pos, _, _,
      @Slot.call _ _ lead name gaps inner nodes tail hlead hname hgaps hdepth hinner htail,
      cs, delim, hdelim, hstand => by
    have hcore : lead ++ (name ++ gaps ++ .opening :: inner) ++ tail ++ [delim] =
        lead ++ ((name ++ gaps ++ [.opening]) ++ inner ++ (tail ++ [delim])) := by simp
    rw [hcore] at hstand
    obtain ⟨-, hstand⟩ := hstand.of_append
    obtain ⟨hstandCall, -⟩ := hstand.of_append
    obtain ⟨-, hstandInner⟩ := hstandCall.of_append
    have hinnerPos : pos + width lead + width (name ++ gaps ++ [.opening]) =
        pos + width lead + width name + width gaps + 1 := by simp [Nat.add_assoc]
    rw [hinnerPos] at hstandInner
    have hargs := hinner.spanned hstandInner
    have hsource : name ++ gaps ++ [.opening] ++ inner = name ++ gaps ++ .opening :: inner := by
      simp
    rw [hsource] at hstandCall
    have hspan : Node.CallSpan cs (String.ofList (text name)) nodes (pos + width lead)
        (pos + width lead + width (name ++ gaps ++ .opening :: inner))
        (String.ofList (text (name ++ gaps ++ .opening :: inner))) := by
      constructor
      · rw [String.toList_ofList]
        exact hstandCall.slice
      · simp
      · obtain ⟨front, rfl⟩ := List.getLast?_eq_some_iff.1 hinner.getLast?
        exact ⟨text (name ++ gaps ++ .opening :: front), by simp [chars]⟩
      · exact hinner.nodes_ne_nil
      · intro arg harg
        have hbounds := hargs.bounds arg (.here harg)
        simp only [utf8ByteSize_text, width_append, width_cons, size_opening]
        omega
      · exact hargs.ordered
    refine ⟨?_, ?_, List.pairwise_singleton _ _⟩
    · intro n hn
      rcases Node.within_call hn with rfl | hn
      · exact hspan
      · exact hargs.exact n hn
    · intro n hn
      rcases Node.within_call hn with rfl | hn
      · simp only [Node.start, Node.stop, width_append, width_cons, size_opening]
        omega
      · have hbounds := hargs.bounds n hn
        simp only [width_append, width_cons, size_opening]
        omega

/-- The nodes of a list have exact spans and stand in order. -/
theorem Listing.spanned : ∀ {depth pos xs nodes}, Listing depth pos xs nodes → ∀ {cs},
    StandAt cs pos xs → Node.Spanned cs pos (pos + width xs) nodes
  | _, pos, _, _, @Listing.last _ _ xs _ hslot, cs, hstand => by
    have h := hslot.spanned (.inr rfl) hstand
    simpa [Nat.add_assoc] using h
  | _, pos, _, _, @Listing.more _ _ xs _ ys _ hslot hlist, cs, hstand => by
    have hcomma : xs ++ .comma :: ys = xs ++ [.comma] ++ ys := by simp
    rw [hcomma] at hstand ⊢
    obtain ⟨hxs, hys⟩ := hstand.of_append
    have hwidth : pos + width (xs ++ [.comma]) = pos + width xs + 1 := by simp [Nat.add_assoc]
    rw [hwidth] at hys
    have hnode := hslot.spanned (.inl rfl) hxs
    have hnodes := hlist.spanned hys
    rw [width_append, ← Nat.add_assoc, hwidth]
    exact hnode.cons hnodes (by omega) (by omega)

end

end Grammar

namespace Node

/-- A node with an exact span stands with its source in the text. -/
lemma SpanExact.slice {cs n} (h : SpanExact cs n) :
    Text.Slice cs n.start n.sourceEnd n.source.toList := by
  cases n with
  | word content start stop => exact WordSpan.slice h
  | call name args start stop source =>
    have hslice := CallSpan.slice h
    obtain ⟨before, after, heq, hstart, hstop⟩ := hslice
    refine ⟨before, after, heq, hstart, ?_⟩
    rw [sourceEnd, Text.size_toList]

/-- A node with an exact span ends between characters. -/
lemma SpanExact.isValid_stop {text : String} {n} (h : SpanExact text.toList n) :
    (⟨n.stop⟩ : String.Pos.Raw).IsValid text := by
  cases n with
  | word content start stop =>
    obtain ⟨gap, -, hslice⟩ := WordSpan.gap h
    exact hslice.isValid.2
  | call name args start stop source => exact (CallSpan.slice h).isValid.2

/-- The positions between which nodes stand may be further apart. -/
lemma Spanned.mono {cs lo hi lo' hi' nodes} (h : Spanned cs lo hi nodes) (hlo : lo' ≤ lo)
    (hhi : hi ≤ hi') : Spanned cs lo' hi' nodes where
  exact := h.exact
  bounds n hn := by
    have := h.bounds n hn
    omega
  ordered := h.ordered

end Node

namespace Keymap
open Grammar Lexeme

/-- The layers stand one after the other between two positions of the text. -/
structure LayersSpanned (cs : List Char) (lo hi : Nat) (layers : List (List Node)) : Prop where
  /-- The nodes of each layer stand between the positions. -/
  spanned : ∀ layer ∈ layers, Node.Spanned cs lo hi layer
  /-- All nodes of a layer stand before those of a later one. -/
  ordered : layers.Pairwise fun as bs =>
    ∀ a, Node.Within a as → ∀ b, Node.Within b bs → a.stop < b.start

/-- The layers of a text stand one after the other, up to the last parenthesis. -/
theorem Layers.spanned {pos cs layers stop} (h : Layers pos cs layers stop) {all before : List Char}
    (hall : all = before ++ cs) (hpos : Text.size before = pos) :
    LayersSpanned all pos stop layers := by
  -- the whole text stays, and what is read moves from `cs` to `before`
  induction h generalizing before with
  | @last pos body xs nodes left hsplit hlist hnone =>
    have hstand : StandAt all pos xs := by
      refine ⟨before, left, ?_, hpos, hsplit.text_eq ▸ hsplit⟩
      rw [hall, hsplit.text_eq, List.append_assoc]
    have hspan := hlist.spanned hstand
    rw [width, hsplit.text_eq] at hspan
    exact ⟨by simpa using hspan, List.pairwise_singleton _ _⟩
  | @more pos body xs nodes left next rest layers stop hsplit hlist hnext hrest ih =>
    have hstand : StandAt all pos xs := by
      refine ⟨before, left, ?_, hpos, hsplit.text_eq ▸ hsplit⟩
      rw [hall, hsplit.text_eq, List.append_assoc]
    have hspan := hlist.spanned hstand
    rw [width, hsplit.text_eq] at hspan
    obtain ⟨front, hleft, -, hstart, hargs⟩ := Invocation.search_eq_some hnext
    have hbefore : all = before ++ body ++ front ++ next.keyword.toList ++ ['('] ++ rest := by
      simp [hall, hleft]
    have hargsStart : Text.size (before ++ body ++ front ++ next.keyword.toList ++ ['(']) =
        next.argsStart := by
      rw [hargs, hstart, ← hpos]
      simp [Nat.add_assoc]
      rfl
    have hlayers := ih hbefore hargsStart
    obtain ⟨_, _, _, hstop, _⟩ := hrest.exists_end
    refine ⟨?_, List.pairwise_cons.2 ⟨?_, hlayers.ordered⟩⟩
    · intro layer hlayer
      rcases List.mem_cons.1 hlayer with rfl | hlayer
      · exact hspan.mono (Nat.le_refl _) (by omega)
      · exact (hlayers.spanned layer hlayer).mono (by omega) (Nat.le_refl _)
    · intro bs hbs a ha b hb
      have := hspan.bounds a ha
      have := (hlayers.spanned bs hbs).bounds b hb
      omega

/-- The layers of a keymap stand one after the other in its text. -/
lemma parse_spanned [PatternEngine] {text keys m} (h : parse text keys = .ok m) :
    ∃ lo, LayersSpanned text.toList lo m.stop m.layers := by
  obtain ⟨head, rest, htext, hlayers, -⟩ := exists_head h
  exact ⟨Text.size head, hlayers.spanned htext rfl⟩

/-- A keymap ends with a parenthesis, after which there is no layout. -/
lemma parse_exists_closing [PatternEngine] {text keys m} (h : parse text keys = .ok m) :
    ∃ front after, text.toList = front ++ ')' :: after ∧ m.stop = Text.size (front ++ [')']) ∧
      Invocation.search 0 (some ')') m.stop after = none := by
  obtain ⟨head, rest, htext, hlayers, -⟩ := exists_head h
  obtain ⟨front, after, rfl, hstop, hnone, -⟩ := hlayers.exists_end
  refine ⟨head ++ front, after, by simp [htext], ?_, hnone⟩
  rw [hstop, List.append_assoc, ← Text.size_append]

/-- A key of a keymap is a node of one of its layers. -/
lemma exists_mem_of_key? {m : Keymap} {layer key n} (h : m.key? layer key = some n) :
    ∃ nodes ∈ m.layers, n ∈ nodes := by
  obtain ⟨nodes, hnodes, hn⟩ := Option.bind_eq_some_iff.1 h
  exact ⟨nodes, List.mem_of_getElem? hnodes, List.mem_of_getElem? hn⟩

/-- A key of a keymap stands with its source in the text. -/
lemma parse_slice_source [PatternEngine] {text keys m} (h : parse text keys = .ok m) {layer key n}
    (hkey : m.key? layer key = some n) :
    Text.Slice text.toList n.start n.sourceEnd n.source.toList := by
  obtain ⟨lo, hspanned⟩ := parse_spanned h
  obtain ⟨nodes, hnodes, hn⟩ := exists_mem_of_key? hkey
  exact ((hspanned.spanned nodes hnodes).exact n (.here hn)).slice

end Keymap

namespace Edit

/-- A splice replaces the part between its positions. -/
lemma splice_eq {text : String} {start stop before part after}
    (htext : text.toList = before ++ part ++ after) (hstart : Text.size before = start)
    (hstop : stop = start + Text.size part) (value : String) :
    splice text start stop value = String.ofList (before ++ value.toList ++ after) := by
  have htake : Text.takeBytes start text.toList = before := by
    rw [htext, ← hstart, List.append_assoc]
    exact Text.takeBytes_size _ _
  have hdrop : Text.dropBytes stop text.toList = after := by
    rw [htext, hstop, ← hstart, ← Text.size_append]
    exact Text.dropBytes_size _ _
  rw [splice, htake, hdrop]

/-- Replacing a key by its own source changes nothing. -/
lemma setKeyText_source [PatternEngine] {text keys m} (h : Keymap.parse text keys = .ok m)
    {layer key n}
    (hkey : m.key? layer key = some n) : setKeyText text layer key n.source keys = text := by
  obtain ⟨before, after, htext, hstart, hstop⟩ := Keymap.parse_slice_source h hkey
  simp only [setKeyText, setKey, h, hkey]
  rw [splice_eq htext hstart hstop, ← htext, String.ofList_toList]

end Edit

namespace Keymap

/-- The positions of a keymap are exact. Every node at any depth of every layer cuts its own text
out of the text, at positions between characters and before the keymap's end; siblings and layers do
not touch and stand in order; the keymap ends with a parenthesis after which no layout is found; and
replacing a key by its own source gives the text back. -/
theorem parse_spans_exact [PatternEngine] {text keys m} (h : parse text keys = .ok m) :
    (∀ layer ∈ m.layers, (layer.Pairwise fun a b => a.stop < b.start) ∧
      ∀ n, Node.Within n layer → n.SpanExact text.toList ∧ n.start < n.stop ∧ n.stop < m.stop ∧
        (⟨n.start⟩ : String.Pos.Raw).IsValid text ∧ (⟨n.stop⟩ : String.Pos.Raw).IsValid text) ∧
    (m.layers.Pairwise fun as bs =>
      ∀ a, Node.Within a as → ∀ b, Node.Within b bs → a.stop < b.start) ∧
    Text.Slice text.toList (m.stop - 1) m.stop [')'] ∧
    Invocation.find? text m.stop = .ok none ∧
    ∀ layer key n, m.key? layer key = some n →
      Edit.setKeyText text layer key n.source keys = text := by
  obtain ⟨lo, hspanned⟩ := parse_spanned h
  obtain ⟨front, after, htext, hstop, hnone⟩ := parse_exists_closing h
  refine ⟨?_, hspanned.ordered, ?_, ?_, ?_⟩
  · intro layer hlayer
    have hlayerSpanned := hspanned.spanned layer hlayer
    refine ⟨hlayerSpanned.ordered, ?_⟩
    intro n hn
    have hexact := hlayerSpanned.exact n hn
    have hbounds := hlayerSpanned.bounds n hn
    exact ⟨hexact, hbounds.2.1, hbounds.2.2, hexact.slice.isValid.1, hexact.isValid_stop⟩
  · refine ⟨front, after, by simp [htext], ?_, ?_⟩
    · simp [hstop]
      rfl
    · simp [hstop]
      rfl
  · have hbeyond : ¬ text.utf8ByteSize + 1 < m.stop := by
      rw [← Text.size_toList, htext, hstop]
      simp only [Text.size_append, Text.size_cons, Text.size_nil]
      omega
    rw [Invocation.find?, if_neg hbeyond, htext]
    rw [Invocation.search_of_origin (by rw [hstop, Nat.zero_add]), hnone]
    rfl
  · intro layer key n hkey
    exact Edit.setKeyText_source h hkey

/-- The spans of a text with a wide character and with a parenthesis in a comment. -/
theorem parse_spans_exact_comment :
    parse "LAYOUT(é, F(B /* ) */, C)\n) LAYOUT(X, Y)" none =
      .ok ⟨"LAYOUT", [[.word "é" 7 9,
        .call "F" [.word "B" 13 22, .word "C" 24 25] 11 26 "F(B /* ) */, C)"],
        [.word "X" 36 37, .word "Y" 39 40]], 41, {}⟩ ∧
      Node.SpanExact "LAYOUT(é, F(B /* ) */, C)\n) LAYOUT(X, Y)".toList (.word "B" 13 22) ∧
      Invocation.find? "LAYOUT(é, F(B /* ) */, C)\n) LAYOUT(X, Y)" 41 = .ok none := by
  have h : parse "LAYOUT(é, F(B /* ) */, C)\n) LAYOUT(X, Y)" none =
      .ok ⟨"LAYOUT", [[.word "é" 7 9,
        .call "F" [.word "B" 13 22, .word "C" 24 25] 11 26 "F(B /* ) */, C)"],
        [.word "X" 36 37, .word "Y" 39 40]], 41, {}⟩ := by cbv
  obtain ⟨hnodes, -, -, hfind, -⟩ := parse_spans_exact h
  have hwithin := (hnodes _ (List.mem_cons_self ..)).2 (.word "B" 13 22)
    (.deeper (.here (List.mem_cons_self ..)) (List.mem_cons_of_mem _ (List.mem_cons_self ..)))
  exact ⟨h, hwithin.1, hfind⟩

end Keymap

end Keyplan
