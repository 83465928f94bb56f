import Keyplan.Proofs.Layers
import Keyplan.Regex.Engine

/-!
# How a reading goes

A keymap is read layout by layout: the first one is searched for from the start of the text, each
other one from the end of the argument list before it. `Reached` says which argument lists were read
on the way to a position, in terms of the whole text, and `readRow_cases` what follows a list. Every
reading comes to an end (`exists_reached`): no further layout is found, or the arguments of the next
one cannot be read. In the second case that error is the outcome (`Reached.parse_error`), in the
first one only the numbers of keys are left to compare (`Reached.exists_parse_eq`). The main
statement is `parse_shape`.
-/

namespace Keyplan

namespace Invocation

/-- What is found ends a head of the text, and its arguments follow. -/
lemma exists_head_of_find? {text : String} {origin inv} (h : find? text origin = .ok (some inv)) :
    ∃ head, text.toList = head ++ Text.dropBytes inv.argsStart text.toList ∧
      Text.size head = inv.argsStart ∧
      search origin none 0 text.toList =
        some (inv, Text.dropBytes inv.argsStart text.toList) := by
  rw [find?] at h
  split at h
  · cases h
  · obtain ⟨⟨inv, rest⟩, hsearch, rfl⟩ := Option.map_eq_some_iff.1 (Except.ok.inj h)
    obtain ⟨head, htext, hargs, -⟩ := exists_head_of_search hsearch
    rw [Nat.zero_add] at hargs
    have hrest : Text.dropBytes inv.argsStart text.toList = rest := by
      rw [htext, hargs, Text.dropBytes_size]
    rw [hrest]
    exact ⟨head, htext, hargs.symm, hsearch⟩

/-- A search from just behind a character goes on with the text behind it. -/
lemma find?_of_append {text : String} {front after : List Char} {c : Char}
    (htext : text.toList = front ++ c :: after) :
    find? text (Text.size (front ++ [c])) =
      .ok ((search 0 (some c) (Text.size (front ++ [c])) after).map Prod.fst) := by
  have hle : ¬ text.utf8ByteSize + 1 < Text.size (front ++ [c]) := by
    rw [← Text.size_toList, htext]
    simp only [Text.size_append, Text.size_cons, Text.size_nil]
    omega
  rw [find?, if_neg hle, htext, search_of_origin (Nat.zero_add _).symm]

end Invocation

namespace Keymap
open Invocation

/-- Reads the argument list of a layout of the text. -/
def readRow (text : String) (inv : Invocation) :
    Except ParseError (List Node × Nat × List Char) :=
  readArguments 1 inv.argsStart (Text.dropBytes inv.argsStart text.toList)

/-- The layouts of the text were searched for and read one after the other: the first one from the
start, each other one from the end of the list before it. Their argument lists are these layers, and
the last list ends at `stop`. -/
inductive Reached (text : String) : List (List Node) → Nat → Prop where
  | start :
    Reached text [] 0
  | next {layers origin inv keys stop left} :
    Reached text layers origin →
    find? text origin = .ok (some inv) →
    readRow text inv = .ok (keys, stop, left) →
    Reached text (layers ++ [keys]) stop

variable {text : String} {layers : List (List Node)} {origin stop : Nat} {inv : Invocation}

/-- An argument list ends with a parenthesis of the text. -/
lemma exists_front_of_readRow (hinv : find? text origin = .ok (some inv)) {keys left}
    (hread : readRow text inv = .ok (keys, stop, left)) :
    ∃ front, text.toList = front ++ ')' :: left ∧ stop = Text.size (front ++ [')']) := by
  obtain ⟨head, htext, hargs, -⟩ := exists_head_of_find? hinv
  obtain ⟨body, xs, hbody, rfl, hsplit, hlist⟩ := Grammar.readArguments_eq_ok_iff.1 hread
  obtain ⟨front, rfl⟩ := List.getLast?_eq_some_iff.1 hlist.getLast?
  obtain rfl : body = Lexeme.text front ++ [')'] := by
    rw [← hsplit.text_eq]
    simp [Lexeme.chars]
  refine ⟨head ++ Lexeme.text front, ?_, ?_⟩
  · rw [htext, hbody]
    simp
  · rw [← hargs, ← Text.size_append, List.append_assoc]

/-- Behind an argument list there is no further layout, or the reader goes on with the next one,
which has less text behind it. -/
lemma readRow_cases (hinv : find? text origin = .ok (some inv)) {keys left}
    (hread : readRow text inv = .ok (keys, stop, left)) :
    (find? text stop = .ok none ∧
      readLayers inv.argsStart (Text.dropBytes inv.argsStart text.toList) = .ok ([keys], stop)) ∨
    ∃ next, find? text stop = .ok (some next) ∧
      (Text.dropBytes next.argsStart text.toList).length <
        (Text.dropBytes inv.argsStart text.toList).length ∧
      readLayers inv.argsStart (Text.dropBytes inv.argsStart text.toList) =
        (readLayers next.argsStart (Text.dropBytes next.argsStart text.toList)).map
          fun read => (keys :: read.1, read.2) := by
  obtain ⟨front, htext, hstop⟩ := exists_front_of_readRow hinv hread
  have hfind := find?_of_append htext
  rw [← hstop] at hfind
  rw [hfind, readLayers_eq]
  cases hsearch : search 0 (some ')') stop left with
  | none =>
    refine .inl ⟨rfl, ?_⟩
    rw [readRow] at hread
    simp only [hread, hsearch]
  | some found =>
    obtain ⟨next, rest⟩ := found
    -- what stands behind the layout that is found in the rest stands there in the whole text
    have hrest : Text.dropBytes next.argsStart text.toList = rest := by
      obtain ⟨head, rfl, hargs, -⟩ := exists_head_of_search hsearch
      have hwhole : text.toList = front ++ [')'] ++ head ++ rest := by simp [htext]
      rw [hwhole, hargs, hstop, ← Text.size_append, Text.dropBytes_size]
    refine .inr ⟨next, rfl, ?_, ?_⟩
    · have hle := length_le_of_readArguments hread
      have hlt := length_lt_of_search hsearch
      rw [hrest]
      omega
    · rw [readRow] at hread
      simp only [hread, hsearch, hrest]
      cases readLayers next.argsStart rest with
      | error e => rfl
      | ok read => rfl

/-- The reader of layers goes from the first layout to each layout that is reached. -/
lemma Reached.readLayers_eq (h : Reached text layers origin)
    (hinv : find? text origin = .ok (some inv)) :
    ∃ first rest, search 0 none 0 text.toList = some (first, rest) ∧
      readLayers first.argsStart rest =
        (readLayers inv.argsStart (Text.dropBytes inv.argsStart text.toList)).map
          fun read => (layers ++ read.1, read.2) := by
  induction h generalizing inv with
  | start =>
    obtain ⟨head, -, -, hsearch⟩ := exists_head_of_find? hinv
    refine ⟨inv, _, hsearch, ?_⟩
    cases readLayers inv.argsStart (Text.dropBytes inv.argsStart text.toList) with
    | error e => rfl
    | ok read => rfl
  | @next layers origin inv' keys stop left _ hinv' hread ih =>
    obtain ⟨first, rest, hfirst, hlayers⟩ := ih hinv'
    refine ⟨first, rest, hfirst, ?_⟩
    rcases readRow_cases hinv' hread with ⟨hnone, -⟩ | ⟨next, hnext, -, hgo⟩
    · cases hnone.symm.trans hinv
    · cases hnext.symm.trans hinv
      rw [hlayers, hgo]
      cases readLayers inv.argsStart (Text.dropBytes inv.argsStart text.toList) with
      | error e => rfl
      | ok read => simp [Except.map]

/-- If the arguments of a layout that is reached cannot be read, nothing else matters. -/
lemma Reached.parse_error [PatternEngine] (h : Reached text layers origin)
    (hinv : find? text origin = .ok (some inv)) {e} (hread : readRow text inv = .error e)
    (keys : Option Nat) : parse text keys = .error e := by
  obtain ⟨first, rest, hfirst, hlayers⟩ := h.readLayers_eq hinv
  have hfail : readLayers inv.argsStart (Text.dropBytes inv.argsStart text.toList) = .error e := by
    rw [readRow] at hread
    rw [Keymap.readLayers_eq, hread]
  rw [hfail] at hlayers
  simp only [parse, hfirst, hlayers]
  rfl

/-- If no further layout is found, the layers that were read are a keymap unless their numbers of
keys are wrong. -/
lemma Reached.exists_parse_eq [PatternEngine] (h : Reached text layers stop)
    (hnone : find? text stop = .ok none) (hne : layers ≠ []) (keys : Option Nat) :
    ∃ keyword settings, parse text keys =
      match countError? layers keys with
      | some e => .error e
      | none => .ok ⟨keyword, layers, stop, settings⟩ := by
  cases h with
  | start => exact absurd rfl hne
  | @next layers origin inv row _ left hreached hinv hread =>
    obtain ⟨first, rest, hfirst, hlayers⟩ := hreached.readLayers_eq hinv
    rcases readRow_cases hinv hread with ⟨-, hlast⟩ | ⟨next, hnext, -⟩
    · rw [hlast] at hlayers
      refine ⟨first.keyword, Settings.ofPreamble (Text.takeBytes first.start text.toList), ?_⟩
      cases hcount : countError? (layers ++ [row]) keys with
      | some e => simp only [parse, hfirst, hlayers, Except.map, hcount]
      | none => simp only [parse, hfirst, hlayers, Except.map, hcount]
    · cases hnone.symm.trans hnext

/-- A reading that has reached a layout comes to an end. -/
lemma Reached.exists_end (h : Reached text layers origin)
    (hinv : find? text origin = .ok (some inv)) :
    ∃ layers stop, Reached text layers stop ∧ (find? text stop = .ok none ∨
      ∃ inv e, find? text stop = .ok (some inv) ∧ readRow text inv = .error e) := by
  -- by the length of the text behind the layout, which gets shorter with every list
  induction hn : (Text.dropBytes inv.argsStart text.toList).length using Nat.strongRecOn
    generalizing layers origin inv with
  | ind n ih =>
    cases hread : readRow text inv with
    | error e => exact ⟨layers, origin, h, .inr ⟨inv, e, hinv, hread⟩⟩
    | ok read =>
      obtain ⟨keys, stop, left⟩ := read
      have hreached := h.next hinv hread
      rcases readRow_cases hinv hread with ⟨hnone, -⟩ | ⟨next, hnext, hlt, -⟩
      · exact ⟨_, stop, hreached, .inl hnone⟩
      · exact ih _ (hn ▸ hlt) hreached hnext rfl

/-- Every reading comes to an end: no further layout is found, or the arguments of the next one
cannot be read. -/
lemma exists_reached (text : String) :
    ∃ layers stop, Reached text layers stop ∧ (find? text stop = .ok none ∨
      ∃ inv e, find? text stop = .ok (some inv) ∧ readRow text inv = .error e) := by
  cases hfirst : (search 0 none 0 text.toList).map Prod.fst with
  | none => exact ⟨[], 0, .start, .inl (by rw [find?_zero, hfirst])⟩
  | some inv => exact Reached.start.exists_end (by rw [find?_zero, hfirst])

/-- All layers have the expected number of keys, or there is a first one that has not. -/
lemma forall_length_or_exists_first (expected : Nat) (layers : List (List Node)) :
    (∀ row ∈ layers, row.length = expected) ∨
      ∃ front row back, layers = front ++ row :: back ∧ row.length ≠ expected ∧
        ∀ row' ∈ front, row'.length = expected := by
  induction layers with
  | nil => exact .inl nofun
  | cons row layers ih =>
    by_cases hrow : row.length = expected
    · rcases ih with hall | ⟨front, bad, back, rfl, hbad, hfront⟩
      · exact .inl (List.forall_mem_cons.2 ⟨hrow, hall⟩)
      · exact .inr ⟨row :: front, bad, back, rfl, hbad, List.forall_mem_cons.2 ⟨hrow, hfront⟩⟩
    · exact .inr ⟨[], row, layers, rfl, hrow, nofun⟩

/-- The first layer with another number of keys is reported, whatever the keyboard has. -/
lemma countError?_of_mismatch {first : List Node} {rest front back row}
    (hlayers : first :: rest = front ++ row :: back) (hrow : row.length ≠ first.length)
    (hfront : ∀ row' ∈ front, row'.length = first.length) (keys : Option Nat) :
    countError? (first :: rest) keys =
      some (.layerCountMismatch front.length first.length row.length) := by
  have hexpected : ((first :: rest).head?.map List.length).getD 0 = first.length := rfl
  have hmismatch : firstMismatch? first.length 0 (first :: rest) =
      some (.layerCountMismatch front.length first.length row.length) := by
    rw [hlayers, firstMismatch?_append hfront, firstMismatch?, if_neg hrow, Nat.zero_add]
  simp only [countError?, hexpected, hmismatch]

/-- Without such a layer only the number of keys of the keyboard can be wrong. -/
lemma countError?_of_forall {first : List Node} {rest}
    (hall : ∀ row ∈ first :: rest, row.length = first.length) {n : Nat} (hn : n ≠ first.length) :
    countError? (first :: rest) (some n) = some (.keyCountMismatch n first.length) := by
  have hexpected : ((first :: rest).head?.map List.length).getD 0 = first.length := rfl
  simp only [countError?, hexpected, firstMismatch?_eq_none_iff.2 hall, if_neg hn]

/-- A keymap has a key at a place if it has the layer and each layer has as many keys. -/
lemma key?_isSome_iff {m : Keymap} (h : ∀ row ∈ m.layers, row.length = m.keyCount)
    (layer key : Nat) :
    (m.key? layer key).isSome = true ↔ layer < m.layers.length ∧ key < m.keyCount := by
  rw [key?]
  cases hrow : m.layers[layer]? with
  | none =>
    have hle := List.getElem?_eq_none_iff.1 hrow
    simp [Nat.not_lt.2 hle]
  | some row =>
    obtain ⟨hlt, -⟩ := List.getElem?_eq_some_iff.1 hrow
    simp [hlt, h row (List.mem_of_getElem? hrow)]

section Counts

variable {first : List Node} {rest : List (List Node)} {keys : Option Nat}

/-- Lists that could all be read are a keymap exactly if their numbers of keys are right. -/
lemma Reached.exists_parse_iff [PatternEngine] (h : Reached text (first :: rest) stop)
    (hnone : find? text stop = .ok none) :
    (∃ m, parse text keys = .ok m) ↔ (∀ row ∈ first :: rest, row.length = first.length) ∧
      (keys = none ∨ keys = some first.length) := by
  obtain ⟨keyword, settings, hparse⟩ := h.exists_parse_eq hnone (by simp) keys
  have hcount : countError? (first :: rest) keys = none ↔
      (∀ row ∈ first :: rest, row.length = first.length) ∧
        ∀ n, keys = some n → n = first.length := countError?_eq_none_iff
  have hkeys : (∀ n, keys = some n → n = first.length) ↔
      keys = none ∨ keys = some first.length := by
    cases keys <;> simp
  rw [← hkeys, ← hcount, hparse]
  cases countError? (first :: rest) keys with
  | some e => simp
  | none => simp

/-- The layers of a keymap are the lists that were read, and its places are theirs. -/
lemma Reached.of_parse [PatternEngine] (h : Reached text (first :: rest) stop)
    (hnone : find? text stop = .ok none) {m} (hm : parse text keys = .ok m) :
    m.layers = first :: rest ∧ (∀ row ∈ m.layers, row ≠ []) ∧ m.keyCount = first.length ∧
      ∀ layer key, (m.key? layer key).isSome = true ↔
        layer < m.layers.length ∧ key < m.keyCount := by
  obtain ⟨keyword, settings, hparse⟩ := h.exists_parse_eq hnone (by simp) keys
  have hlayers : m.layers = first :: rest := by
    rw [hm] at hparse
    split at hparse
    · cases hparse
    · cases hparse
      rfl
  have hcount := length_eq_keyCount hm
  refine ⟨hlayers, ?_, by rw [keyCount, hlayers]; rfl, key?_isSome_iff hcount⟩
  intro row hrow
  have hpos := keyCount_pos hm
  rw [← hcount row hrow] at hpos
  exact List.length_pos_iff.1 hpos

/-- The first list with another number of keys is reported, and before the keyboard's number. -/
lemma Reached.exists_parse_mismatch [PatternEngine] (h : Reached text (first :: rest) stop)
    (hnone : find? text stop = .ok none) (hbad : ∃ row ∈ first :: rest, row.length ≠ first.length) :
    ∃ i row, (first :: rest)[i]? = some row ∧ row.length ≠ first.length ∧
      (∀ j row', j < i → (first :: rest)[j]? = some row' → row'.length = first.length) ∧
      parse text keys = .error (.layerCountMismatch i first.length row.length) := by
  obtain ⟨keyword, settings, hparse⟩ := h.exists_parse_eq hnone (by simp) keys
  rcases forall_length_or_exists_first first.length (first :: rest) with
    hall | ⟨front, row, back, hlayers, hrow, hfront⟩
  · obtain ⟨row, hmem, hrow⟩ := hbad
    exact absurd (hall row hmem) hrow
  · refine ⟨front.length, row, by simp [hlayers], hrow, ?_, ?_⟩
    · intro j row' hj hrow'
      rw [hlayers, List.getElem?_append_left hj] at hrow'
      exact hfront row' (List.mem_of_getElem? hrow')
    · rw [hparse, countError?_of_mismatch hlayers hrow hfront keys]

/-- If no list has another number of keys, the keyboard's number may be wrong. -/
lemma Reached.parse_keyCountMismatch [PatternEngine] (h : Reached text (first :: rest) stop)
    (hnone : find? text stop = .ok none)
    (hall : ∀ row ∈ first :: rest, row.length = first.length) {n} (hn : n ≠ first.length) :
    parse text (some n) = .error (.keyCountMismatch n first.length) := by
  obtain ⟨keyword, settings, hparse⟩ := h.exists_parse_eq hnone (by simp) (some n)
  rw [hparse, countError?_of_forall hall hn]

end Counts

/-- The shape of a keymap, and which of several faults of a text is reported.
If the argument lists of all layouts can be read, they are a keymap exactly if all have as many keys
as the first one and as the keyboard. They are then its layers, none is empty, and the keymap has a
key at each of their places and at no other one. If a list has another number of keys than the first
one, the least such list is reported, whatever the keyboard has; if none has, the keyboard's number.
If a list cannot be read, the error of the first such list is reported, whatever the numbers are. A
text without layouts is reported as such, and every text is of one of these kinds. -/
theorem parse_shape [PatternEngine] (text : String) (keys : Option Nat) :
    (∀ first rest stop, Reached text (first :: rest) stop → find? text stop = .ok none →
      ((∃ m, parse text keys = .ok m) ↔ (∀ row ∈ first :: rest, row.length = first.length) ∧
        (keys = none ∨ keys = some first.length)) ∧
      (∀ m, parse text keys = .ok m →
        m.layers = first :: rest ∧ (∀ row ∈ m.layers, row ≠ []) ∧ m.keyCount = first.length ∧
        ∀ layer key, (m.key? layer key).isSome = true ↔
          layer < m.layers.length ∧ key < m.keyCount) ∧
      ((∃ row ∈ first :: rest, row.length ≠ first.length) →
        ∃ i row, (first :: rest)[i]? = some row ∧ row.length ≠ first.length ∧
          (∀ j row', j < i → (first :: rest)[j]? = some row' → row'.length = first.length) ∧
          parse text keys = .error (.layerCountMismatch i first.length row.length)) ∧
      ((∀ row ∈ first :: rest, row.length = first.length) → ∀ n, keys = some n →
        n ≠ first.length → parse text keys = .error (.keyCountMismatch n first.length))) ∧
    (∀ layers origin inv e, Reached text layers origin → find? text origin = .ok (some inv) →
      readRow text inv = .error e → parse text keys = .error e) ∧
    (find? text 0 = .ok none → parse text keys = .error .missingInvocation) ∧
    ∃ layers stop, Reached text layers stop ∧ (find? text stop = .ok none ∨
      ∃ inv e, find? text stop = .ok (some inv) ∧ readRow text inv = .error e) := by
  refine ⟨?_, ?_, ?_, exists_reached text⟩
  · intro first rest stop hreached hnone
    refine ⟨hreached.exists_parse_iff hnone, fun m hm => hreached.of_parse hnone hm,
      hreached.exists_parse_mismatch hnone, ?_⟩
    rintro hall n rfl hn
    exact hreached.parse_keyCountMismatch hnone hall hn
  · intro layers origin inv e hreached hinv hread
    exact hreached.parse_error hinv hread keys
  · intro hnone
    have hsearch : search 0 none 0 text.toList = none := by simpa [find?_zero] using hnone
    simp only [parse, hsearch]

/-- A call that is named like a layout opens no layer. A list with another number of keys is
reported although the keyboard has yet another one. -/
theorem parse_shape_mismatch :
    Reached "LAYOUT(A, KEYMAP(B))LAYOUT(C)" [[.word "A" 7 8,
        .call "KEYMAP" [.word "B" 17 18] 10 19 "KEYMAP(B)"], [.word "C" 27 28]] 29 ∧
      find? "LAYOUT(A, KEYMAP(B))LAYOUT(C)" 29 = .ok none ∧
      parse "LAYOUT(A, KEYMAP(B))LAYOUT(C)" (some 3) = .error (.layerCountMismatch 1 2 1) := by
  have hfirst : find? "LAYOUT(A, KEYMAP(B))LAYOUT(C)" 0 = .ok (some ⟨"LAYOUT", 0, 7⟩) := by
    decide +kernel
  have hsecond : find? "LAYOUT(A, KEYMAP(B))LAYOUT(C)" 20 = .ok (some ⟨"LAYOUT", 20, 27⟩) := by
    decide +kernel
  have hnone : find? "LAYOUT(A, KEYMAP(B))LAYOUT(C)" 29 = .ok none := by decide +kernel
  have hreached : Reached "LAYOUT(A, KEYMAP(B))LAYOUT(C)" [[.word "A" 7 8,
      .call "KEYMAP" [.word "B" 17 18] 10 19 "KEYMAP(B)"], [.word "C" 27 28]] 29 :=
    .next (.next .start hfirst (by cbv)) hsecond (by cbv)
  obtain ⟨-, -, hmismatch, -⟩ :=
    (parse_shape "LAYOUT(A, KEYMAP(B))LAYOUT(C)" (some 3)).1 _ _ _ hreached hnone
  obtain ⟨i, row, hrow, hlength, -, hparse⟩ :=
    hmismatch ⟨[.word "C" 27 28], List.mem_cons_of_mem _ (List.mem_cons_self ..), by decide⟩
  refine ⟨hreached, hnone, ?_⟩
  cases i with
  | zero =>
    cases hrow
    exact absurd rfl hlength
  | succ i =>
    cases i with
    | zero =>
      cases hrow
      exact hparse
    | succ i => cases hrow

end Keymap

end Keyplan
