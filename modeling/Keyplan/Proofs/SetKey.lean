import Keyplan.Proofs.KeyExpression
import Keyplan.Proofs.Spans

/-!
# Replacing one key

Replacing the source of a key by a key expression changes one cell of the parsed grid and nothing
else. The proof follows the text from the inside out: one slot of a splitting (`Splits.replace`),
one argument of a list (`Listing.replace`), one body (`Listing.replace_source`) and one layer among
others (`Layers.replace_source`). What stands before the key reads as before, and what stands after
it reads the same at moved positions. The main statement is `setKey_of_isKeyExpression`.
-/

namespace Keyplan

namespace Node

/-- Where a call ends depends on its text only. -/
lemma placeAt_of_isCall {n : Node} (h : n.isCall = true) (start stop stop' : Nat) :
    n.placeAt start stop = n.placeAt start stop' := by
  cases n with
  | word content first last => cases h
  | call name args first last source => rfl

end Node

namespace Lexeme

/-- If neither a lexeme nor the last one after it is a word character, no text up to there ends with
one. -/
lemma isOther_of_getLast? (as : List Lexeme) {x xs} (hx : x.isOther = false)
    (hxs : ∀ z, xs.getLast? = some z → z.isOther = false) :
    ∀ z, (as ++ x :: xs).getLast? = some z → z.isOther = false := by
  intro z hz
  rw [List.getLast?_append, List.getLast?_cons] at hz
  cases hlast : xs.getLast? with
  | none =>
    rw [hlast] at hz
    cases hz
    exact hx
  | some y =>
    rw [hlast] at hz
    cases hz
    exact hxs y hlast

/-- What stands before a word character and is none does not look ahead. -/
lemma Splits.settled {cs z c more} (h : Splits cs (z :: .other c :: more))
    (hz : z.isOther = false) : z.Settled := by
  obtain ⟨hread, hrest⟩ := h.cons_inv
  obtain ⟨hother, -⟩ := hrest.cons_inv
  have hne : c ≠ '\n' := by
    cases hother with
    | other hblank =>
      rintro rfl
      exact absurd hblank (by decide)
  cases hread with
  | lineComment _ hfeed =>
    rcases hfeed with hnil | hfeed
    · cases hnil
    · exact absurd (List.cons_prefix_cons.1 hfeed).1.symm hne
  | other => cases hz
  | closedComment _ => rfl
  | _ => trivial

/-- The middle of a splitting may be replaced if the old and the new one begin with a word
character, nothing in front of them is one, and the new one may stand before the rest. -/
lemma Splits.replace {cs front core back value core'} (h : Splits cs (front ++ core ++ back))
    (hfront : ∀ z, front.getLast? = some z → z.isOther = false)
    (hcore : ∃ c more, core = .other c :: more) (hvalue : Splits value core')
    (hcore' : ∃ c more, core' = .other c :: more)
    (hseam : ∀ z, core'.getLast? = some z → Seam z (text back)) :
    Splits (text front ++ (value ++ text back)) (front ++ (core' ++ back)) := by
  obtain ⟨c, more, rfl⟩ := hcore
  obtain ⟨c', more', rfl⟩ := hcore'
  obtain ⟨hfrontCore, hback⟩ := h.of_append
  refine hfrontCore.of_append.1.append (hvalue.append hback hseam) ?_
  intro z hz
  refine ⟨?_, ?_⟩
  · obtain ⟨front', rfl⟩ := List.getLast?_eq_some_iff.1 hz
    rw [List.append_assoc] at hfrontCore
    exact hfrontCore.of_append.2.settled (hfront z hz)
  · intro _ hfeed
    -- the new middle begins with a word character and not with a line feed
    obtain ⟨hother, -⟩ := hvalue.cons_inv
    have hchars := hvalue.text_eq
    rw [text_cons] at hchars
    rw [← hchars] at hfeed
    obtain ⟨rfl, -⟩ := List.cons_prefix_cons.1 hfeed
    cases hother with
    | other hblank => exact absurd hblank (by decide)

end Lexeme

namespace Grammar
open Lexeme

/-- A lead does not end with a word character. -/
lemma Lead.isOther_of_getLast? {lead} (h : Lead lead) :
    ∀ z, lead.getLast? = some z → z.isOther = false := by
  induction h with
  | nil => nofun
  | @gap x xs hx _ ih =>
    have hother : x.isOther = false := by cases x <;> simp_all [isGap, isOther]
    exact Lexeme.isOther_of_getLast? [] hother ih
  | continuation _ ih => exact Lexeme.isOther_of_getLast? [] rfl ih
  | dropped _ _ _ ih => exact Lexeme.isOther_of_getLast? _ rfl ih

/-- A lead behind what does not end with a word character does not end with one. -/
lemma Lead.isOther_of_append {front lead} (h : Lead lead)
    (hfront : ∀ z, front.getLast? = some z → z.isOther = false) :
    ∀ z, (front ++ lead).getLast? = some z → z.isOther = false := by
  intro z hz
  rw [List.getLast?_append] at hz
  cases hlast : lead.getLast? with
  | none =>
    rw [hlast, Option.none_or] at hz
    exact hfront z hz
  | some y =>
    rw [hlast] at hz
    cases hz
    exact h.isOther_of_getLast? _ hlast

/-- The lexemes are arguments of a list, each with the comma behind it. -/
inductive Front (depth : Nat) : Nat → List Lexeme → List Node → Prop where
  | nil {pos} :
    Front depth pos [] []
  | cons {pos xs node ys nodes} :
    Slot depth pos xs node →
    Front depth (pos + width xs + 1) ys nodes →
    Front depth pos (xs ++ .comma :: ys) (node :: nodes)

/-- The lexemes are what follows an argument of a list: its closing parenthesis, or a comma and
further arguments. -/
inductive Back (depth : Nat) : Nat → List Lexeme → List Node → Prop where
  | last {pos} :
    Back depth pos [.closing] []
  | more {pos xs nodes} :
    Listing depth (pos + 1) xs nodes →
    Back depth pos (.comma :: xs) nodes

/-- An argument of a list stands between those before it and those behind it. -/
lemma Listing.exists_front {depth pos xs A old B} (h : Listing depth pos xs (A ++ old :: B)) :
    ∃ front slot back, xs = front ++ slot ++ back ∧ Front depth pos front A ∧
      Slot depth (pos + width front) slot old ∧
      Back depth (pos + width front + width slot) back B := by
  induction A generalizing pos xs with
  | nil =>
    cases h with
    | last hslot => exact ⟨[], _, _, by simp, .nil, hslot, .last⟩
    | more hslot hlist => exact ⟨[], _, _, by simp, .nil, hslot, .more hlist⟩
  | cons a A ih =>
    generalize hnodes : a :: A ++ old :: B = nodes at h
    cases h with
    | last _ => simp at hnodes
    | more hslot hlist =>
      rename_i first node ys nodes
      obtain ⟨rfl, rfl⟩ := List.cons.inj hnodes
      obtain ⟨front, slot, back, rfl, hfront, hold, hback⟩ := ih hlist
      have hpos : pos + width first + 1 + width front = pos + width (first ++ .comma :: front) := by
        simp [Nat.add_assoc]
      rw [hpos] at hold hback
      exact ⟨first ++ .comma :: front, slot, back, by simp, .cons hslot hfront, hold, hback⟩

/-- An argument between others makes a list. -/
lemma Front.listing {depth pos front A slot n back B} (hfront : Front depth pos front A)
    (hslot : Slot depth (pos + width front) slot n)
    (hback : Back depth (pos + width front + width slot) back B) :
    Listing depth pos (front ++ slot ++ back) (A ++ n :: B) := by
  induction hfront with
  | nil =>
    cases hback with
    | last => exact .last hslot
    | more hlist => exact .more hslot hlist
  | @cons pos first node front nodes hfirst _ ih =>
    have hpos : pos + width (first ++ .comma :: front) = pos + width first + 1 + width front := by
      simp [Nat.add_assoc]
    rw [hpos] at hslot hback
    simpa using Listing.more hfirst (ih hslot hback)

/-- Arguments end with a comma. -/
lemma Front.eq_comma {depth pos front A} (h : Front depth pos front A) :
    ∀ z, front.getLast? = some z → z = .comma := by
  induction h with
  | nil => nofun
  | @cons pos first node front nodes _ _ ih =>
    intro z hz
    rw [List.getLast?_append, List.getLast?_cons] at hz
    cases hlast : front.getLast? with
    | none =>
      rw [hlast] at hz
      exact (Option.some.inj hz).symm
    | some y =>
      rw [hlast] at hz
      exact ih z (hlast.trans hz)

/-- What follows an argument may stand elsewhere. -/
lemma Back.relocate {depth pos back B} (h : Back depth pos back B) {f : Nat → Nat} {pos'}
    (hf : ∀ n, f (pos + n) = pos' + n) : Back depth pos' back (B.map (Node.mapPos f)) := by
  cases h with
  | last => exact .last
  | more hlist =>
    refine .more (hlist.relocate ?_)
    intro n
    rw [Nat.add_assoc, hf, Nat.add_assoc]

/-- One argument of a list may be replaced; those after it move. -/
lemma Listing.replace {depth pos xs A old B} (h : Listing depth pos xs (A ++ old :: B)) :
    ∃ front slot back, xs = front ++ slot ++ back ∧ Slot depth (pos + width front) slot old ∧
      (∀ z, front.getLast? = some z → z.isOther = false) ∧
      ∀ {ys node} {f : Nat → Nat}, Slot depth (pos + width front) ys node →
        (∀ n, f (pos + width front + width slot + n) = pos + width front + width ys + n) →
        Listing depth pos (front ++ ys ++ back) (A ++ node :: B.map (Node.mapPos f)) := by
  obtain ⟨front, slot, back, rfl, hfront, hslot, hback⟩ := h.exists_front
  refine ⟨front, slot, back, rfl, hslot, ?_, ?_⟩
  · intro z hz
    rw [hfront.eq_comma z hz]
    rfl
  · intro ys node f hnew hf
    exact hfront.listing hnew (hback.relocate hf)

/-- The source of an argument may be replaced by a key expression, unless a word would come to stand
where only a call may. -/
lemma Listing.replace_source [PatternEngine] {pos body xs A old B value n}
    (hlist : Listing 1 pos xs (A ++ old :: B)) (hsplit : Splits body xs)
    (hvalue : IsKeyExpression value n) (hkind : old.isCall = false ∨ n.isCall = true) :
    ∃ before after, body = before ++ old.source.toList ++ after ∧
      old.start = pos + Text.size before ∧
      ∀ {f : Nat → Nat}, (∀ k, f (old.sourceEnd + k) = old.start + value.utf8ByteSize + k) →
        ∃ xs', Splits (before ++ value.toList ++ after) xs' ∧
          Listing 1 pos xs' (A ++ n.placeAt old.start (f old.stop) :: B.map (Node.mapPos f)) := by
  obtain ⟨front, slot, back, rfl, hslot, hfront, hreplace⟩ := hlist.replace
  obtain ⟨lead, core, rest, rfl, hlead, hcore, htail, hgaps, hstart, hstop⟩ := hslot.exists_core
  obtain ⟨core', hsplit', hcore'⟩ := hvalue.exists_core
  have hwidth : width core' = value.utf8ByteSize := by rw [hcore'.width_eq, hvalue.source_eq]
  have hend : old.sourceEnd = pos + width front + width lead + width core := by
    rw [Node.sourceEnd, hstart, hcore.width_eq]
  refine ⟨text (front ++ lead), text (rest ++ back), ?_, ?_, ?_⟩
  · rw [← hsplit.text_eq, ← hcore.text_eq]
    simp
  · rw [hstart, ← width, width_append, Nat.add_assoc]
  intro f hf
  rw [hend, hstart, ← hwidth] at hf
  -- behind a call there may be a continuation, which would drop a word in its place
  have hgaps' : n.isCall = true ∨ IsGaps rest := by
    rcases hkind with hword | hcall
    · exact .inr (hgaps.resolve_left (by simp [hword]))
    · exact .inl hcall
  have hnew : Slot 1 (pos + width front) (lead ++ core' ++ rest) _ :=
    hcore'.slot hlead htail hgaps'
  have hplace : n.placeAt (pos + width front + width lead)
      (pos + width front + width (lead ++ core' ++ rest)) = n.placeAt old.start (f old.stop) := by
    rw [hstart]
    rcases hkind with hword | hcall
    · have hrest := hf (width rest)
      rw [hstop hword]
      simp only [width_append, ← Nat.add_assoc] at hrest ⊢
      rw [hrest]
    · exact Node.placeAt_of_isCall hcall _ _ _
  rw [hplace] at hnew
  have hmove : ∀ k, f (pos + width front + width (lead ++ core ++ rest) + k) =
      pos + width front + width (lead ++ core' ++ rest) + k := by
    intro k
    have hrest := hf (width rest + k)
    simp only [width_append, ← Nat.add_assoc] at hrest ⊢
    exact hrest
  refine ⟨front ++ (lead ++ core' ++ rest) ++ back, ?_, hreplace hnew hmove⟩
  have hsplit'' : Splits body (front ++ lead ++ core ++ (rest ++ back)) := by
    simpa using hsplit
  have hseam := hvalue.seam hsplit' hcore' (text (rest ++ back))
  simpa using hsplit''.replace (hlead.isOther_of_append hfront) hcore.head hsplit' hcore'.head hseam

end Grammar

namespace Keymap
open Grammar Lexeme

/-- The source of a key of one layer may be replaced by a key expression; all after it moves. -/
theorem Layers.replace_source [PatternEngine] {pos cs L A old B M stop value n}
    (h : Layers pos cs (L ++ (A ++ old :: B) :: M) stop) (hvalue : IsKeyExpression value n)
    (hkind : old.isCall = false ∨ n.isCall = true) :
    ∃ before after, cs = before ++ old.source.toList ++ after ∧
      old.start = pos + Text.size before ∧
      ∀ {f : Nat → Nat}, (∀ k, f (old.sourceEnd + k) = old.start + value.utf8ByteSize + k) →
        Layers pos (before ++ value.toList ++ after)
          (L ++ (A ++ n.placeAt old.start (f old.stop) :: B.map (Node.mapPos f)) ::
            M.map (List.map (Node.mapPos f))) (f stop) := by
  obtain ⟨front, rest, rfl, hlayer, hfront⟩ := h.exists_layer
  obtain ⟨body, xs, _, left, _, rfl, hlayers, hsplit, hlist, hfurther⟩ := hlayer.exists_further
  obtain ⟨rfl, rfl⟩ := List.cons.inj hlayers
  obtain ⟨before, after, hbody, hstart, hnew⟩ := hlist.replace_source hsplit hvalue hkind
  refine ⟨front ++ before, after ++ left, by simp [hbody], ?_, ?_⟩
  · rw [hstart, Text.size_append, Nat.add_assoc]
  intro f hf
  obtain ⟨xs', hsplit', hlist'⟩ := hnew hf
  have hleft : ∀ k, f (pos + Text.size front + Text.size body + k) =
      pos + Text.size front + Text.size (before ++ value.toList ++ after) + k := by
    intro k
    have hafter := hf (Text.size after + k)
    rw [Node.sourceEnd, hstart] at hafter
    simp only [hbody, Text.size_append, Text.size_toList, ← Nat.add_assoc] at hafter ⊢
    exact hafter
  have hlayers' := (hfurther.relocate hleft).layers hsplit' hlist'
  simpa using hfront.2 ⟨_, rfl, hlayers'⟩

/-- An element stands behind as many elements as its index says. -/
lemma exists_append_of_getElem? {α : Type} {as : List α} {i a} (h : as[i]? = some a) :
    ∃ front back : List α, as = front ++ a :: back ∧ front.length = i := by
  obtain ⟨hi, ha⟩ := List.getElem?_eq_some_iff.1 h
  refine ⟨as.take i, as.drop (i + 1), ?_, List.length_take_of_le (Nat.le_of_lt hi)⟩
  rw [← ha, ← List.drop_eq_getElem_cons hi, List.take_append_drop]

/-- A key stands among the keys of its layer, and the layer among the layers. -/
lemma exists_of_key? {m : Keymap} {layer key n} (h : m.key? layer key = some n) :
    ∃ L A B M, m.layers = L ++ (A ++ n :: B) :: M ∧ L.length = layer ∧ A.length = key := by
  obtain ⟨nodes, hnodes, hn⟩ := Option.bind_eq_some_iff.1 h
  obtain ⟨L, M, hlayers, hL⟩ := exists_append_of_getElem? hnodes
  obtain ⟨A, B, rfl, hA⟩ := exists_append_of_getElem? hn
  exact ⟨L, A, B, M, hlayers, hL, hA⟩

end Keymap

namespace Edit
open Keymap

/-- Where a position behind a node comes to stand once the value replaces its source. -/
def move (old : Node) (value : String) (pos : Nat) : Nat :=
  pos + value.utf8ByteSize - old.source.utf8ByteSize

/-- What stands behind the source of a node comes to stand behind the value. -/
lemma move_sourceEnd (old : Node) (value : String) (k : Nat) :
    move old value (old.sourceEnd + k) = old.start + value.utf8ByteSize + k := by
  rw [move, Node.sourceEnd]
  omega

/-- Replacing the source of a node leaves what stands before and behind it. -/
lemma toList_splice_source {text : String} {head before after : List Char} {old : Node}
    (htext : text.toList = head ++ (before ++ old.source.toList ++ after))
    (hstart : old.start = Text.size head + Text.size before) (value : String) :
    (splice text old.start old.sourceEnd value).toList =
      head ++ (before ++ value.toList ++ after) := by
  have htext' : text.toList = head ++ before ++ old.source.toList ++ after := by simp [htext]
  have hbefore : Text.size (head ++ before) = old.start := by rw [hstart, Text.size_append]
  have hsourceEnd : old.sourceEnd = old.start + Text.size old.source.toList := by
    rw [Text.size_toList, Node.sourceEnd]
  rw [splice_eq htext' hbefore hsourceEnd]
  simp

/-- A text whose key is replaced is a keymap with one cell changed: the new key takes the place of
the old one, the nodes before it stay, and those after it move. -/
theorem exists_parse_splice [PatternEngine] {text keys m} (h : parse text keys = .ok m)
    {L A old B M} (hlayers : m.layers = L ++ (A ++ old :: B) :: M) {value n}
    (hvalue : IsKeyExpression value n) (hkind : old.isCall = false ∨ n.isCall = true) :
    ∃ m', parse (splice text old.start old.sourceEnd value) keys = .ok m' ∧
      m'.keyword = m.keyword ∧ m'.settings = m.settings ∧ m'.keyCount = m.keyCount ∧
      m'.layers = L ++ (A ++ n.placeAt old.start (move old value old.stop) ::
        B.map (Node.mapPos (move old value))) :: M.map (List.map (Node.mapPos (move old value))) ∧
      m'.stop = move old value m.stop := by
  obtain ⟨head, rest, htext, hread, hparse⟩ := exists_head h
  have hcount := length_eq_keyCount h
  rw [hlayers] at hread hcount
  obtain ⟨before, after, rfl, hstart, hnew⟩ := hread.replace_source hvalue hkind
  have hedited := toList_splice_source htext hstart value
  have hcount' : ∀ layer ∈ L ++ (A ++ n.placeAt old.start (move old value old.stop) ::
      B.map (Node.mapPos (move old value))) :: M.map (List.map (Node.mapPos (move old value))),
      layer.length = m.keyCount := by
    simpa [or_imp, forall_and] using hcount
  obtain ⟨hm', hkeys⟩ := hparse hedited (hnew (move_sourceEnd old value)) hcount'
  exact ⟨_, hm', rfl, rfl, hkeys, rfl, rfl⟩

/-- Replacing an existing key by a key expression changes one cell of the parsed grid and nothing
else, unless a word would replace a call. The edit is reported as a change that leaves a keymap,
also for the keyboard of the text. Keyword, settings and numbers of layers and keys are kept; the
new key stands where the old one stood, with the value as its source and, if it is a word, the moved
delimiter as its end; the nodes before it are kept, and all positions after it move by the
difference of the two sources. -/
theorem setKey_of_isKeyExpression [PatternEngine] {text keys m layer key old value n}
    (h : parse text keys = .ok m) (hkey : m.key? layer key = some old)
    (hvalue : IsKeyExpression value n) (hkind : old.isCall = false ∨ n.isCall = true) :
    (setKey text layer key value keys).changed = true ∧
    (setKey text layer key value keys).validation = none ∧
    ∃ m' new L A B M, parse (setKey text layer key value keys).text keys = .ok m' ∧
      m'.keyword = m.keyword ∧ m'.settings = m.settings ∧
      m'.layers.length = m.layers.length ∧ m'.keyCount = m.keyCount ∧
      m.layers = L ++ (A ++ old :: B) :: M ∧ L.length = layer ∧ A.length = key ∧
      m'.layers = L ++ (A ++ new :: B.map (Node.mapPos (move old value))) ::
        M.map (List.map (Node.mapPos (move old value))) ∧
      m'.stop = move old value m.stop ∧
      new = n.placeAt old.start (move old value old.stop) ∧ new.source = value := by
  obtain ⟨L, A, B, M, hlayers, hL, hA⟩ := exists_of_key? hkey
  obtain ⟨m', hm', hkeyword, hsettings, hkeyCount, hlayers', hstop⟩ :=
    exists_parse_splice h hlayers hvalue hkind
  have hedit : setKey text layer key value keys =
      ⟨splice text old.start old.sourceEnd value, true, none⟩ := by
    simp [setKey, h, hkey, parse_none hm']
  rw [hedit]
  refine ⟨rfl, rfl, m', _, L, A, B, M, hm', hkeyword, hsettings, ?_, hkeyCount, hlayers, hL, hA,
    hlayers', hstop, rfl, ?_⟩
  · rw [hlayers, hlayers']
    simp
  · rw [Node.source_placeAt, hvalue.source_eq]

/-- A word before a comment gives way to a longer call. -/
theorem setKey_word_by_call :
    IsKeyExpression "LT(1, é)"
        (.call "LT" [.word "1" 10 11, .word "é" 13 15] 7 16 "LT(1, é)") ∧
      parse "LAYOUT(A /* , */, B)\nLAYOUT(C, D)" (some 2) = .ok
        ⟨"LAYOUT", [[.word "A" 7 16, .word "B" 18 19], [.word "C" 28 29, .word "D" 31 32]],
          33, {}⟩ ∧
      (setKey "LAYOUT(A /* , */, B)\nLAYOUT(C, D)" 0 0 "LT(1, é)" (some 2)).validation = none := by
  have hvalue : IsKeyExpression "LT(1, é)"
      (.call "LT" [.word "1" 10 11, .word "é" 13 15] 7 16 "LT(1, é)") :=
    ⟨⟨_, by cbv, rfl⟩, rfl, by decide, by decide⟩
  have h : parse "LAYOUT(A /* , */, B)\nLAYOUT(C, D)" (some 2) = .ok
      ⟨"LAYOUT", [[.word "A" 7 16, .word "B" 18 19], [.word "C" 28 29, .word "D" 31 32]],
        33, {}⟩ := by cbv
  have hkey : Keymap.key? ⟨"LAYOUT", [[.word "A" 7 16, .word "B" 18 19],
      [.word "C" 28 29, .word "D" 31 32]], 33, {}⟩ 0 0 = some (.word "A" 7 16) := rfl
  exact ⟨hvalue, h, (setKey_of_isKeyExpression h hkey hvalue (.inl rfl)).2.1⟩

end Edit

end Keyplan
