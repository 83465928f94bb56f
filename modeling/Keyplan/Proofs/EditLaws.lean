import Keyplan.Proofs.SetKey

/-!
# Laws of single edits

Keys are edited like cells that do not depend on each other: edits of two keys commute, the later of
two edits of one key wins, and the old source undoes an edit. An edit reads the text that the edit
before it has left, where the keys behind the edited one have moved. So the proofs first say where
keys stand (`Precedes`, `sourceEnd_lt_start`) and what a further edit finds
(`exists_parse_setKeyText`); the texts are then compared part by part (`Slice.exists_parts`,
`setKeyText_eq`). The main statement is `setKeyText_comm_override_undo`.
-/

namespace Keyplan

namespace Text

/-- A text of no bytes is empty. -/
lemma eq_nil_of_size {cs : List Char} (h : size cs = 0) : cs = [] := by
  cases cs with
  | nil => rfl
  | cons c cs =>
    have := c.utf8Size_pos
    rw [size_cons] at h
    omega

/-- Two slices, the first of which ends before the second one, cut a text into five parts. -/
lemma Slice.exists_parts {cs start stop start' stop' part part'} (h : Slice cs start stop part)
    (h' : Slice cs start' stop' part') (hle : stop ≤ start') :
    ∃ before mid after, cs = before ++ part ++ mid ++ part' ++ after ∧ size before = start ∧
      size (before ++ part ++ mid) = start' := by
  obtain ⟨before, rest, hcs, hstart, hstop⟩ := h
  obtain ⟨before', after, hcs', hstart', -⟩ := h'
  have hsize : size (before ++ part) ≤ size before' := by
    rw [size_append]
    omega
  -- what stands before the second slice begins with the first one
  obtain ⟨mid, rfl⟩ : ∃ mid, before' = before ++ part ++ mid := by
    rw [hcs, List.append_assoc before'] at hcs'
    rcases List.append_eq_append_iff.1 hcs' with ⟨mid, hmid, -⟩ | ⟨mid, hmid, -⟩
    · exact ⟨mid, hmid⟩
    · rw [hmid, size_append] at hsize
      have hnil : mid = [] := eq_nil_of_size (by omega)
      subst hnil
      exact ⟨[], by simpa using hmid.symm⟩
  exact ⟨before, mid, after, hcs', hstart, hstart'⟩

end Text

namespace Node

/-- A moved node is a call if it was one. -/
@[simp] lemma isCall_mapPos (f : Nat → Nat) (n : Node) : (n.mapPos f).isCall = n.isCall := by
  cases n <;> rfl

/-- The source of a node with an exact span ends no later than the node. -/
lemma SpanExact.sourceEnd_le_stop {cs n} (h : SpanExact cs n) : n.sourceEnd ≤ n.stop := by
  cases n with
  | word content start stop =>
    obtain ⟨gap, -, _, _, -, -, hstop⟩ := WordSpan.gap h
    rw [sourceEnd, Node.stop, hstop]
    exact Nat.le_add_right _ _
  | call name args start stop source =>
    obtain ⟨_, _, -, -, hstop⟩ := CallSpan.slice h
    rw [sourceEnd, Node.stop, hstop, Text.size_toList]
    exact Nat.le_refl _

end Node

namespace Keymap

/-- The first place comes before the second one: on an earlier layer, or earlier on its layer. -/
def Precedes (a b : Nat × Nat) : Prop :=
  a.1 < b.1 ∨ a.1 = b.1 ∧ a.2 < b.2

/-- Of two places one comes before the other. -/
lemma precedes_or_precedes {a b : Nat × Nat} (h : a ≠ b) : Precedes a b ∨ Precedes b a := by
  have hne : a.1 ≠ b.1 ∨ a.2 ≠ b.2 := by
    rw [← not_and_or]
    exact fun heq => h (Prod.ext heq.1 heq.2)
  simp only [Precedes]
  omega

/-- The keys of a keymap stand in the text in the order of their places. -/
lemma sourceEnd_lt_start [PatternEngine] {text keys m} (h : parse text keys = .ok m)
    {a b : Nat × Nat} {x y}
    (ha : m.key? a.1 a.2 = some x) (hb : m.key? b.1 b.2 = some y) (hab : Precedes a b) :
    x.sourceEnd < y.start := by
  obtain ⟨lo, hspanned⟩ := parse_spanned h
  obtain ⟨row, hrow, hx⟩ := Option.bind_eq_some_iff.1 ha
  obtain ⟨row', hrow', hy⟩ := Option.bind_eq_some_iff.1 hb
  have hlayer := hspanned.spanned row (List.mem_of_getElem? hrow)
  have hxrow := List.mem_of_getElem? hx
  have hle := (hlayer.exact x (.here hxrow)).sourceEnd_le_stop
  suffices hlt : x.stop < y.start by omega
  rcases hab with hlt | ⟨heq, hlt⟩
  · obtain ⟨hi, rfl⟩ := List.getElem?_eq_some_iff.1 hrow
    obtain ⟨hj, rfl⟩ := List.getElem?_eq_some_iff.1 hrow'
    exact List.pairwise_iff_getElem.1 hspanned.ordered _ _ hi hj hlt x (.here hxrow) y
      (.here (List.mem_of_getElem? hy))
  · rw [heq, hrow'] at hrow
    cases hrow
    obtain ⟨hi, rfl⟩ := List.getElem?_eq_some_iff.1 hx
    obtain ⟨hj, rfl⟩ := List.getElem?_eq_some_iff.1 hy
    exact List.pairwise_iff_getElem.1 hlayer.ordered _ _ hi hj hlt

/-- An element behind another one is found by what it is further on. -/
lemma getElem?_append_cons {α : Type} (front back : List α) (a : α) (i : Nat) :
    (front ++ a :: back)[front.length + i + 1]? = back[i]? := by
  have hi : front.length + i + 1 - front.length = i + 1 := by omega
  rw [List.getElem?_append_right (by omega), hi, List.getElem?_cons_succ]

section Replaced

variable {m m' : Keymap} {L M : List (List Node)} {A B : List Node} {old new : Node}
  {f : Nat → Nat}

/-- What stands before a replaced key is found as before. -/
lemma key?_of_precedes (hm : m.layers = L ++ (A ++ old :: B) :: M)
    (hm' : m'.layers = L ++ (A ++ new :: B.map (Node.mapPos f)) ::
      M.map (List.map (Node.mapPos f)))
    {layer key} (h : Precedes (layer, key) (L.length, A.length)) :
    m'.key? layer key = m.key? layer key := by
  rw [key?, key?, hm, hm']
  rcases h with hlayer | ⟨hlayer, hkey⟩
  · rw [List.getElem?_append_left hlayer, List.getElem?_append_left hlayer]
  · obtain rfl : layer = L.length := hlayer
    have hkey : key < A.length := hkey
    simp [List.getElem?_append_left hkey]

/-- What stands behind a replaced key is found at moved positions. -/
lemma key?_of_precedes_right (hm : m.layers = L ++ (A ++ old :: B) :: M)
    (hm' : m'.layers = L ++ (A ++ new :: B.map (Node.mapPos f)) ::
      M.map (List.map (Node.mapPos f)))
    {layer key} (h : Precedes (L.length, A.length) (layer, key)) :
    m'.key? layer key = (m.key? layer key).map (Node.mapPos f) := by
  rw [key?, key?, hm, hm']
  rcases h with hlayer | ⟨hlayer, hkey⟩
  · obtain ⟨i, rfl⟩ := Nat.exists_eq_add_of_lt hlayer
    simp only [getElem?_append_cons, List.getElem?_map]
    cases M[i]? with
    | none => rfl
    | some row => simp
  · obtain rfl : L.length = layer := hlayer
    obtain ⟨i, rfl⟩ := Nat.exists_eq_add_of_lt hkey
    simp [getElem?_append_cons]

end Replaced

end Keymap

namespace Edit
open Keymap

/-- An edit of a key leaves what stands before and behind the source of the key. -/
lemma setKeyText_eq [PatternEngine] {text keys m} (h : parse text keys = .ok m) {layer key n}
    (hkey : m.key? layer key = some n) {before after}
    (htext : text.toList = before ++ n.source.toList ++ after)
    (hstart : Text.size before = n.start) (value : String) :
    setKeyText text layer key value keys = String.ofList (before ++ value.toList ++ after) := by
  simp only [setKeyText, setKey, h, hkey]
  exact splice_eq htext hstart (by rw [Node.sourceEnd, Text.size_toList]) value

/-- What a further edit finds: a keymap with the value as the source of the edited key, the keys
before it as they were, and those behind it at moved positions. -/
lemma exists_parse_setKeyText [PatternEngine] {text keys m} (h : parse text keys = .ok m)
    {layer key old} (hkey : m.key? layer key = some old) {value n}
    (hvalue : IsKeyExpression value n) (hkind : old.isCall = false ∨ n.isCall = true) :
    ∃ m' new, parse (setKeyText text layer key value keys) keys = .ok m' ∧
      m'.key? layer key = some new ∧ new.start = old.start ∧ new.source = value ∧
      (∀ l k, Precedes (l, k) (layer, key) → m'.key? l k = m.key? l k) ∧
      ∀ l k, Precedes (layer, key) (l, k) →
        m'.key? l k = (m.key? l k).map (Node.mapPos (move old value)) := by
  obtain ⟨L, A, B, M, hlayers, rfl, rfl⟩ := exists_of_key? hkey
  obtain ⟨m', hm', -, -, -, hlayers', -⟩ := exists_parse_splice h hlayers hvalue hkind
  have hedit : setKeyText text L.length A.length value keys =
      splice text old.start old.sourceEnd value := by simp [setKeyText, setKey, h, hkey]
  rw [← hedit] at hm'
  refine ⟨m', n.placeAt old.start (move old value old.stop), hm', ?_, Node.start_placeAt _ _ _,
    ?_, fun l k => key?_of_precedes hlayers hlayers',
    fun l k => key?_of_precedes_right hlayers hlayers'⟩
  · simp [key?, hlayers']
  · rw [Node.source_placeAt, hvalue.source_eq]

/-- The later of two edits of one key wins. -/
lemma setKeyText_override [PatternEngine] {text keys m} (h : parse text keys = .ok m)
    {layer key old}
    (hkey : m.key? layer key = some old) {value n} (hvalue : IsKeyExpression value n)
    (hkind : old.isCall = false ∨ n.isCall = true) (value' : String) :
    setKeyText (setKeyText text layer key value keys) layer key value' keys =
      setKeyText text layer key value' keys := by
  obtain ⟨before, after, htext, hstart, -⟩ := parse_slice_source h hkey
  obtain ⟨m', new, hm', hnew, hnewStart, hnewSource, -⟩ :=
    exists_parse_setKeyText h hkey hvalue hkind
  have hedited := setKeyText_eq h hkey htext hstart value
  have hbefore : Text.size before = new.start := by rw [hnewStart, hstart]
  have htext' : (setKeyText text layer key value keys).toList =
      before ++ new.source.toList ++ after := by rw [hedited, hnewSource, String.toList_ofList]
  rw [setKeyText_eq hm' hnew htext' hbefore, setKeyText_eq h hkey htext hstart]

/-- Edits of two keys replace the two sources, whichever of them comes first. -/
lemma setKeyText_setKeyText [PatternEngine] {text keys m} (h : parse text keys = .ok m)
    {a b : Nat × Nat} {x y} (ha : m.key? a.1 a.2 = some x) (hb : m.key? b.1 b.2 = some y)
    (hab : Precedes a b) {v w n k} (hv : IsKeyExpression v n) (hw : IsKeyExpression w k)
    (hvkind : x.isCall = false ∨ n.isCall = true) (hwkind : y.isCall = false ∨ k.isCall = true) :
    setKeyText (setKeyText text a.1 a.2 v keys) b.1 b.2 w keys =
      setKeyText (setKeyText text b.1 b.2 w keys) a.1 a.2 v keys := by
  obtain ⟨before, mid, after, htext, hx, hy⟩ := (parse_slice_source h ha).exists_parts
    (parse_slice_source h hb) (Nat.le_of_lt (sourceEnd_lt_start h ha hb hab))
  obtain ⟨m₁, -, hm₁, -, -, -, -, hbehind⟩ := exists_parse_setKeyText h ha hv hvkind
  obtain ⟨m₂, -, hm₂, -, -, -, hfront, -⟩ := exists_parse_setKeyText h hb hw hwkind
  have hb₁ : m₁.key? b.1 b.2 = some (y.mapPos (move x v)) := by
    rw [hbehind b.1 b.2 hab, hb]
    rfl
  have ha₂ : m₂.key? a.1 a.2 = some x := by rw [hfront a.1 a.2 hab, ha]
  have htextx : text.toList = before ++ x.source.toList ++ (mid ++ y.source.toList ++ after) := by
    simpa using htext
  have hedit₁ := setKeyText_eq h ha htextx hx v
  have hedit₂ := setKeyText_eq h hb htext hy w
  -- the second key has moved by the difference of the two sources in front of it
  have hy₁ : Text.size (before ++ v.toList ++ mid) = (y.mapPos (move x v)).start := by
    rw [Node.start_mapPos, move, ← hy]
    simp only [Text.size_append, Text.size_toList]
    omega
  have htext₁ : (setKeyText text a.1 a.2 v keys).toList =
      before ++ v.toList ++ mid ++ (y.mapPos (move x v)).source.toList ++ after := by simp [hedit₁]
  have htext₂ : (setKeyText text b.1 b.2 w keys).toList =
      before ++ x.source.toList ++ (mid ++ w.toList ++ after) := by simp [hedit₂]
  rw [setKeyText_eq hm₁ hb₁ htext₁ hy₁, setKeyText_eq hm₂ ha₂ htext₂ hx]
  simp

/-- After edits of two keys both values stand in the keymap. -/
lemma exists_parse_setKeyText_twice [PatternEngine] {text keys m} (h : parse text keys = .ok m)
    {a b : Nat × Nat} {x y} (ha : m.key? a.1 a.2 = some x) (hb : m.key? b.1 b.2 = some y)
    (hne : a ≠ b) {v w n k} (hv : IsKeyExpression v n) (hw : IsKeyExpression w k)
    (hvkind : x.isCall = false ∨ n.isCall = true) (hwkind : y.isCall = false ∨ k.isCall = true) :
    ∃ m', parse (setKeyText (setKeyText text a.1 a.2 v keys) b.1 b.2 w keys) keys = .ok m' ∧
      (m'.key? a.1 a.2).map Node.source = some v ∧ (m'.key? b.1 b.2).map Node.source = some w := by
  obtain ⟨m₁, new, hm₁, hnew, -, hsource, hfront, hbehind⟩ := exists_parse_setKeyText h ha hv hvkind
  obtain ⟨y', hb₁, hcall⟩ : ∃ y', m₁.key? b.1 b.2 = some y' ∧ y'.isCall = y.isCall := by
    rcases precedes_or_precedes hne with hab | hba
    · exact ⟨_, by rw [hbehind b.1 b.2 hab, hb]; rfl, Node.isCall_mapPos _ y⟩
    · exact ⟨y, by rw [hfront b.1 b.2 hba, hb], rfl⟩
  obtain ⟨m', new', hm', hnew', -, hsource', hfront', hbehind'⟩ :=
    exists_parse_setKeyText hm₁ hb₁ hw (by rwa [hcall])
  refine ⟨m', hm', ?_, by rw [hnew', Option.map_some, hsource']⟩
  rcases precedes_or_precedes hne with hab | hba
  · rw [hfront' a.1 a.2 hab, hnew, Option.map_some, hsource]
  · rw [hbehind' a.1 a.2 hba, hnew, Option.map_some, Option.map_some, Node.source_mapPos, hsource]

/-- Edits of single keys by key expressions that do not put a word in the place of a call. Edits of
two different keys commute byte for byte, and both values then stand in the keymap; the later of two
edits of one key wins, whatever its value is; and the old source undoes an edit. -/
theorem setKeyText_comm_override_undo [PatternEngine] {text keys m} (h : parse text keys = .ok m)
    {a b : Nat × Nat} {x y} (ha : m.key? a.1 a.2 = some x) (hb : m.key? b.1 b.2 = some y)
    {v w n k} (hv : IsKeyExpression v n) (hw : IsKeyExpression w k)
    (hvkind : x.isCall = false ∨ n.isCall = true) (hwkind : y.isCall = false ∨ k.isCall = true) :
    (a ≠ b →
      setKeyText (setKeyText text a.1 a.2 v keys) b.1 b.2 w keys =
        setKeyText (setKeyText text b.1 b.2 w keys) a.1 a.2 v keys ∧
      ∃ m', parse (setKeyText (setKeyText text a.1 a.2 v keys) b.1 b.2 w keys) keys = .ok m' ∧
        (m'.key? a.1 a.2).map Node.source = some v ∧
        (m'.key? b.1 b.2).map Node.source = some w) ∧
    (∀ u, setKeyText (setKeyText text a.1 a.2 v keys) a.1 a.2 u keys =
      setKeyText text a.1 a.2 u keys) ∧
    setKeyText (setKeyText text a.1 a.2 v keys) a.1 a.2 x.source keys = text := by
  refine ⟨?_, fun u => setKeyText_override h ha hv hvkind u, ?_⟩
  · intro hne
    refine ⟨?_, exists_parse_setKeyText_twice h ha hb hne hv hw hvkind hwkind⟩
    rcases precedes_or_precedes hne with hab | hba
    · exact setKeyText_setKeyText h ha hb hab hv hw hvkind hwkind
    · exact (setKeyText_setKeyText h hb ha hba hw hv hwkind hvkind).symm
  · rw [setKeyText_override h ha hv hvkind]
    exact setKeyText_source h ha

/-- A call on the second layer and a word on the first one, which stands before a comment. -/
theorem setKeyText_comm_override_undo_layers :
    parse "KEYMAP(A /* , */, B)\nKEYMAP(C, F(D) \\\n)" (some 2) = .ok ⟨"KEYMAP",
      [[.word "A" 7 16, .word "B" 18 19],
        [.word "C" 28 29, .call "F" [.word "D" 33 34] 31 35 "F(D)"]], 39, {}⟩ ∧
    setKeyText (setKeyText "KEYMAP(A /* , */, B)\nKEYMAP(C, F(D) \\\n)" 1 1 "MO(1)" (some 2))
        0 0 "é" (some 2) =
      setKeyText (setKeyText "KEYMAP(A /* , */, B)\nKEYMAP(C, F(D) \\\n)" 0 0 "é" (some 2))
        1 1 "MO(1)" (some 2) ∧
    setKeyText (setKeyText "KEYMAP(A /* , */, B)\nKEYMAP(C, F(D) \\\n)" 1 1 "MO(1)" (some 2))
        1 1 "F(D)" (some 2) = "KEYMAP(A /* , */, B)\nKEYMAP(C, F(D) \\\n)" := by
  have h : parse "KEYMAP(A /* , */, B)\nKEYMAP(C, F(D) \\\n)" (some 2) = .ok ⟨"KEYMAP",
      [[.word "A" 7 16, .word "B" 18 19],
        [.word "C" 28 29, .call "F" [.word "D" 33 34] 31 35 "F(D)"]], 39, {}⟩ := by cbv
  have hv : IsKeyExpression "MO(1)" (.call "MO" [.word "1" 10 11] 7 12 "MO(1)") :=
    ⟨⟨_, by cbv, rfl⟩, rfl, by decide, by decide⟩
  have hw : IsKeyExpression "é" (.word "é" 7 9) := ⟨⟨_, by cbv, rfl⟩, rfl, by decide, by decide⟩
  obtain ⟨hcomm, -, hundo⟩ := setKeyText_comm_override_undo h (a := (1, 1)) (b := (0, 0)) rfl rfl
    hv hw (.inr rfl) (.inl rfl)
  exact ⟨h, (hcomm (by decide)).1, hundo⟩

end Edit

end Keyplan
