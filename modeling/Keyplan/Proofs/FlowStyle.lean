import Keyplan.Proofs.QuotedValues
import Keyplan.Proofs.Descent

/-!
# Sequences in brackets and on lines

A sequence may stand in brackets on the line of its key, or with each item on a line of its own.
The two ways are read by different readers, and what they have in common is the text of one item
(`Flat`): it is read back between brackets, whatever comma or bracket follows it
(`Flat.flowItem?_text`), and it is read back behind the mark of an item, where it is not taken for
an entry (`Flat.splitKey?_text`, `Flat.read_text`). The main statement is
`parse_flow_eq_parse_items`.
-/

namespace Keyplan

/-- A value that can be an item both in brackets and on a line, as it is written. -/
inductive Flat where
  /-- A tilde. -/
  | null
  /-- A truth value. -/
  | bool (b : Bool)
  /-- A number of 64 bits in decimal digits. -/
  | int (n : Int) (h : Decimal.minInt ≤ n ∧ n ≤ Decimal.maxInt)
  /-- A text in single quotes. -/
  | quoted (s : String) (h : '\n' ∉ s.toList)
  /-- A word without quotes. It may have the signs of a number. -/
  | word (cs : List Char) (hne : cs ≠ []) (h : ∀ c ∈ cs, c.isAlphanum = true ∨ c ∈ ['_', '-', '+'])

namespace Flat
open Text

/-- The value that is written. A word may look like a number or like another value. -/
def value : Flat → Value
  | null => .null
  | bool b => .bool b
  | int n _ => .int n
  | quoted s _ => .str s
  | word cs _ _ => Scalar.plain cs

/-- The text of the value. -/
def text : Flat → List Char
  | word cs _ _ => cs
  | x => x.value.scalar

/-- A text of letters, digits and a few signs that mean nothing to the readers. -/
def Bare (cs : List Char) : Prop :=
  cs ≠ [] ∧ ∀ c ∈ cs, c.isAlphanum = true ∨ c ∈ ['_', '-', '+', '~']

/-- A value is written bare or between quotes. -/
lemma bare_or_quoted (x : Flat) : (Bare x.text ∧ Scalar.plain x.text = x.value) ∨
    ∃ s, '\n' ∉ s.toList ∧ x.text = Text.quoted s ∧ x.value = .str s := by
  cases x with
  | null => exact .inl ⟨⟨List.cons_ne_nil _ _, by simp [text, value, Value.scalar]⟩, rfl⟩
  | bool b =>
    cases b <;>
      exact .inl ⟨⟨List.cons_ne_nil _ _, by simp [text, value, Value.scalar]⟩, rfl⟩
  | int n h =>
    refine .inl ⟨⟨decimal_ne_nil n, fun c hc => ?_⟩, Scalar.plain_decimal h.1 h.2⟩
    rcases mem_decimal hc with rfl | hdigit
    · exact .inr (by simp)
    · exact .inl (by simp [Char.isAlphanum, hdigit])
  | quoted s h => exact .inr ⟨s, h, rfl, rfl⟩
  | word cs hne h =>
    refine .inl ⟨⟨hne, fun c hc => (h c hc).imp_right fun hsign => ?_⟩, rfl⟩
    exact List.mem_append_left ['~'] hsign

/-- No letter and no digit is a blank. -/
lemma isBlank_of_isAlphanum {c : Char} (h : c.isAlphanum = true) : isBlank c = false := by
  have hrange : ((65 ≤ c.toNat ∧ c.toNat ≤ 90) ∨ (97 ≤ c.toNat ∧ c.toNat ≤ 122)) ∨
      (48 ≤ c.toNat ∧ c.toNat ≤ 57) := by
    simpa [Char.isAlphanum, Char.isAlpha, Char.isUpper, Char.isLower, Char.isDigit,
      UInt32.le_iff_toNat_le] using h
  simp [isBlank, blankRanges, Ranges.has]
  omega

/-- A bare text has no character in it that means something to a reader. -/
lemma Bare.of_mem {cs : List Char} (h : Bare cs) {c : Char} (hc : c ∈ cs) :
    isBlank c = false ∧ c ∉ ['"', '\'', '#', ':', ',', ']', '!', '['] := by
  rcases h.2 c hc with halnum | hsign
  · refine ⟨isBlank_of_isAlphanum halnum, fun hmem => ?_⟩
    simp only [List.mem_cons, List.not_mem_nil, or_false] at hmem
    rcases hmem with rfl | rfl | rfl | rfl | rfl | rfl | rfl | rfl <;> cases halnum
  · simp only [List.mem_cons, List.not_mem_nil, or_false] at hsign
    rcases hsign with rfl | rfl | rfl | rfl <;> exact ⟨rfl, by decide⟩

/-! ## One item -/

/-- A bare text is sound. -/
lemma Bare.sound {cs : List Char} (h : Bare cs) : Line.Sound cs := by
  refine Line.sound_of_forall h.1 fun c hc => ⟨fun hmem => (h.of_mem hc).2 ?_, (h.of_mem hc).1⟩
  simp only [List.mem_cons, List.not_mem_nil, or_false] at hmem ⊢
  tauto

/-- Every value of the list is written soundly. -/
lemma sound_text (x : Flat) : Line.Sound x.text := by
  rcases x.bare_or_quoted with ⟨hbare, -⟩ | ⟨s, hs, htext, -⟩
  · exact hbare.sound
  · rw [htext]
    exact Line.sound_quoted hs

/-- No value of the list reads as an entry. -/
lemma splitKey?_text (x : Flat) : Scalar.splitKey? x.text = none := by
  rcases x.bare_or_quoted with ⟨hbare, -⟩ | ⟨s, -, htext, -⟩
  · apply Scalar.splitKey?_of_readKey?
    intro key rest
    apply Scalar.readKey?_of_forall
    intro c hc
    have hsigns := (hbare.of_mem hc).2
    simp only [List.mem_cons, List.not_mem_nil, or_false, not_or] at hsigns
    simp [Scalar.isKeyChar, hsigns]
  · rw [htext]
    exact Scalar.splitKey?_scalar (v := .str s) rfl

/-- The text is read back as the value of a line. -/
lemma read_text [PatternEngine] (x : Flat) (line : Nat) :
    Scalar.read line x.text = .ok x.value := by
  rcases x.bare_or_quoted with ⟨hbare, hplain⟩ | ⟨s, hs, htext, hvalue⟩
  · rw [Scalar.read_plain hbare.sound, hplain]
    intro c hc heq
    have hsigns := (hbare.of_mem (List.mem_of_mem_head? heq)).2
    simp only [List.mem_cons, List.not_mem_nil, or_false] at hc hsigns
    tauto
  · rw [htext, hvalue, Scalar.read_quoted hs]

/-- A bare text is read up to what ends an item. -/
lemma plainItem?_bare {cs : List Char} (h : Bare cs) {d : Char} (hd : d = ',' ∨ d = ']')
    (tail : List Char) :
    Scalar.plainItem? (cs ++ d :: tail) = some (Scalar.plain cs, d :: tail) := by
  have hflow : ∀ c ∈ cs, Scalar.isFlowChar c = true := by
    intro c hc
    have hsigns := (h.of_mem hc).2
    simp only [List.mem_cons, List.not_mem_nil, or_false, not_or] at hsigns
    simp [Scalar.isFlowChar, hsigns]
  have hstop : ¬ Scalar.isFlowChar d = true := by
    rcases hd with rfl | rfl <;> decide
  have htake : (cs ++ d :: tail).takeWhile Scalar.isFlowChar = cs := by
    rw [List.takeWhile_append_of_pos hflow, List.takeWhile_cons_of_neg hstop, List.append_nil]
  have hrest : (cs ++ d :: tail).dropWhile Scalar.isFlowChar = d :: tail := by
    rw [List.dropWhile_append_of_pos hflow, List.dropWhile_cons_of_neg hstop]
  obtain ⟨c, cs, rfl⟩ := List.exists_cons_of_ne_nil h.1
  rw [Scalar.plainItem?, htake, hrest]
  exact congrArg (fun item => some (Scalar.plain item, d :: tail)) h.sound.trim

/-- What starts with no quote and no blank is a plain item. -/
lemma flowItem?_of_ne {c : Char} (hblank : isBlank c = false) (hdouble : c ≠ '"')
    (hsingle : c ≠ '\'') (cs : List Char) : Scalar.flowItem? (c :: cs) =
      (Scalar.plainItem? (c :: cs)).map fun (v, rest) => (v, Scalar.dropSpaces rest) := by
  have hspace : c ≠ ' ' := by rintro rfl; cases hblank
  have htab : c ≠ '\t' := by rintro rfl; cases hblank
  have hdrop : Scalar.dropSpaces (c :: cs) = c :: cs := by
    simp [Scalar.dropSpaces, hspace, htab]
  simp [Scalar.flowItem?, hdrop, hdouble, hsingle]

/-- The text is read back between brackets. -/
lemma flowItem?_text (x : Flat) {d : Char} (hd : d = ',' ∨ d = ']') (tail : List Char) :
    Scalar.flowItem? (x.text ++ d :: tail) = some (x.value, d :: tail) := by
  have hdrop : Scalar.dropSpaces (d :: tail) = d :: tail := by
    rcases hd with rfl | rfl <;> rfl
  rcases x.bare_or_quoted with ⟨hbare, hplain⟩ | ⟨s, hs, htext, hvalue⟩
  · obtain ⟨c, cs, hcs⟩ := List.exists_cons_of_ne_nil hbare.1
    obtain ⟨hblank, hsigns⟩ := hbare.of_mem (c := c) (by simp [hcs])
    simp only [List.mem_cons, List.not_mem_nil, or_false, not_or] at hsigns
    have hitem := plainItem?_bare hbare hd tail
    rw [hcs, List.cons_append] at hitem ⊢
    rw [flowItem?_of_ne hblank hsigns.1 hsigns.2.1, hitem, ← hcs, hplain]
    simp only [Option.map_some, hdrop]
  · have hread : Text.readSingle (Text.doubleQuotes s.toList ++ '\'' :: d :: tail) =
        some (s.toList, d :: tail) := by
      refine Text.readSingle_doubleQuotes s.toList ?_
      rcases hd with rfl | rfl <;> simp
    have hopen : x.text ++ d :: tail =
        '\'' :: (Text.doubleQuotes s.toList ++ '\'' :: d :: tail) := by
      simp [htext, Text.quoted]
    have hquote : ∀ cs, Scalar.dropSpaces ('\'' :: cs) = '\'' :: cs := fun _ => rfl
    rw [hopen, hvalue]
    simp [Scalar.flowItem?, hquote, hread, hdrop]

/-- A space in front of an item makes no difference. -/
lemma flowItem?_space (cs : List Char) : Scalar.flowItem? (' ' :: cs) = Scalar.flowItem? cs :=
  rfl

/-! ## All items -/

/-- The items in brackets behind the first one. -/
def behind (xs : List Flat) : List Char :=
  xs.flatMap fun x => ',' :: ' ' :: x.text

/-- Behind an item stands a comma or the closing bracket. -/
lemma exists_stop (xs : List Flat) : ∃ d tail, (d = ',' ∨ d = ']') ∧
    behind xs ++ [']'] = d :: tail := by
  cases xs with
  | nil => exact ⟨']', [], .inr rfl, rfl⟩
  | cons x xs => exact ⟨',', _, .inl rfl, rfl⟩

/-- All items behind the first one are read up to the closing bracket. -/
lemma flowItems_behind (xs : List Flat) :
    Scalar.flowItems (behind xs ++ [']']) = (xs.map value, [']']) := by
  induction xs with
  | nil =>
    rw [Scalar.flowItems]
    · rfl
    · rintro rest ⟨⟩
  | cons x xs ih =>
    obtain ⟨d, tail, hd, htail⟩ := exists_stop xs
    have hitem : Scalar.flowItem? (' ' :: (x.text ++ (behind xs ++ [']']))) =
        some (x.value, behind xs ++ [']']) := by
      rw [flowItem?_space, htail, x.flowItem?_text hd]
    have hopen : behind (x :: xs) ++ [']'] = ',' :: ' ' :: (x.text ++ (behind xs ++ [']'])) := by
      simp [behind]
    rw [hopen, Scalar.flowItems]
    split
    · next hread =>
      cases hread.symm.trans hitem
      rw [ih]
      rfl
    · next hread => cases hread.symm.trans hitem

/-- The sequence in brackets. -/
def flow : List Flat → List Char
  | [] => ['[', ']']
  | x :: xs => '[' :: (x.text ++ (behind xs ++ [']']))

/-- All items between the brackets are read. -/
lemma flow?_items {xs : List Flat} (x : Flat) :
    Scalar.flow? (x.text ++ (behind xs ++ [']'])) = some ((x :: xs).map value, []) := by
  obtain ⟨d, tail, hd, htail⟩ := exists_stop xs
  have hitem : Scalar.flowItem? (x.text ++ (behind xs ++ [']'])) =
      some (x.value, behind xs ++ [']']) := by
    rw [htail, x.flowItem?_text hd]
  simp [Scalar.flow?, hitem, flowItems_behind, Scalar.dropSpaces]

/-- Of the items behind the first one nothing is cut. -/
lemma uncut_behind (xs : List Flat) : Line.Uncut (behind xs) := by
  induction xs with
  | nil => exact Line.uncut_of_forall (by simp [behind])
  | cons x xs ih =>
    have hsign : Line.Uncut [',', ' '] := Line.uncut_of_forall (by simp)
    exact hsign.append (x.sound_text.uncut.append ih)

/-- The items behind the first one stand on one line. -/
lemma newline_notMem_behind (xs : List Flat) : '\n' ∉ behind xs := by
  simp only [behind, List.mem_flatMap, List.mem_cons, not_exists, not_and]
  rintro x - (h | h | h)
  · cases h
  · cases h
  · exact x.sound_text.newline h

/-- A list between brackets is sound. -/
lemma sound_flow (xs : List Flat) : Line.Sound (flow xs) := by
  cases xs with
  | nil => exact Line.sound_scalar (v := .seq []) rfl trivial
  | cons x xs =>
    have hopen : Line.Uncut ['['] := Line.uncut_of_forall (by simp)
    have hclose : Line.Uncut [']'] := Line.uncut_of_forall (by simp)
    have hx := x.sound_text.newline
    have hxs := newline_notMem_behind xs
    exact ⟨hopen.append (x.sound_text.uncut.append ((uncut_behind xs).append hclose)),
      by simp [flow, hx, hxs], ⟨'[', _, rfl, rfl⟩,
      ⟨'[' :: (x.text ++ behind xs), ']', by simp [flow], rfl⟩⟩

/-- The sequence in brackets is read back. -/
lemma read_flow [PatternEngine] {xs : List Flat} (hne : xs ≠ []) (line : Nat) :
    Scalar.read line (flow xs) = .ok (.seq (xs.map value)) := by
  obtain ⟨x, xs, rfl⟩ := List.exists_cons_of_ne_nil hne
  have htrim := (sound_flow (x :: xs)).trim
  have htag : flow (x :: xs) ≠ Scalar.patternTag := by simp [flow, Scalar.patternTag]
  have hbody : Scalar.patternBody? (flow (x :: xs)) = none := rfl
  simp only [Scalar.read, htrim, htag, hbody, if_false]
  simp [flow, flow?_items, Text.trim, Text.trimRight, Text.trimLeft]

/-! ## Items on lines -/

/-- The row of an item. -/
def itemRow (x : Flat) : Row :=
  ⟨2, '-' :: ' ' :: x.text⟩

/-- The rows of a key and of items below it. -/
def rows (xs : List Flat) : List Row :=
  ⟨0, ['k', ':']⟩ :: xs.map itemRow

/-- The key of the list is sound. -/
lemma sound_keyMark : Line.Sound ['k', ':'] :=
  ⟨Line.uncut_of_forall (by simp), by simp, ⟨'k', [':'], rfl, rfl⟩, ⟨['k'], ':', rfl, rfl⟩⟩

/-- The list in rows is sound. -/
lemma sound_rows (xs : List Flat) : ∀ r ∈ rows xs, Line.Sound r.text := by
  refine List.forall_mem_cons.2 ⟨sound_keyMark, fun r hr => ?_⟩
  obtain ⟨x, -, rfl⟩ := List.mem_map.1 hr
  exact Line.sound_mark.append_space x.sound_text

open Descent in
/-- The items are read one by one. -/
lemma reads_items [PatternEngine] (xs : List Flat) {lines : List Line}
    (hlines : lines.map Line.row = xs.map itemRow) (done : List Value) :
    Reads (.items 2 done) lines (.ok (.seq (done ++ xs.map value), [])) := by
  induction xs generalizing lines done with
  | nil =>
    cases List.map_eq_nil_iff.1 hlines
    rw [List.map_nil, List.append_nil]
    exact .items_end (by simp [ItemNext])
  | cons x xs ih =>
    obtain ⟨num, ls, rfl, hls⟩ := Outline.exists_line hlines
    have hbody : Line.itemBody ⟨num, 2, '-' :: ' ' :: x.text⟩ = ⟨num, 4, x.text⟩ :=
      Outline.itemBody_item x.sound_text num 2
    have hne : x.text ≠ [] := by
      obtain ⟨c, rest, htext, -⟩ := x.sound_text.first
      simp [htext]
    have hnext : ItemNext 2 (⟨num, 2, '-' :: ' ' :: x.text⟩ :: ls) := ⟨_, rfl, rfl, rfl⟩
    have hkey : Scalar.splitKey? (Line.itemBody ⟨num, 2, '-' :: ' ' :: x.text⟩).text = none := by
      rw [hbody]
      exact x.splitKey?_text
    have hitem : Reads (.item 2) (⟨num, 2, '-' :: ' ' :: x.text⟩ :: ls)
        ((Scalar.read num x.text).map fun v => (v, ls)) := by
      simpa only [hbody] using Reads.item_scalar (by rwa [hbody]) hkey
    rw [x.read_text] at hitem
    have hrest := ih hls (done ++ [x.value])
    rw [List.append_assoc] at hrest
    exact .items_next hnext hitem hrest

end Flat

namespace Settings
open Flat Descent

/-- A key with a sequence in brackets. -/
def flowBlock (xs : List Flat) : String :=
  "k: [" ++ ", ".intercalate (xs.map fun x => String.ofList x.text) ++ "]"

/-- A key with the items of a sequence on the lines below it. -/
def itemBlock (xs : List Flat) : String :=
  "\n".intercalate ("k:" :: xs.map fun x => "  - " ++ String.ofList x.text)

/-- Items with commas between them are the first one and those behind it. -/
lemma intercalate_items (x : Flat) (xs : List Flat) :
    [',', ' '].intercalate ((x :: xs).map text) = x.text ++ behind xs := by
  induction xs generalizing x with
  | nil => simp [behind]
  | cons y xs ih =>
    rw [List.map_cons, List.map_cons, List.intercalate_cons_cons, ← List.map_cons, ih]
    simp [behind]

/-- The block with the list between brackets is its key and the list. -/
lemma toList_flowBlock {xs : List Flat} (hne : xs ≠ []) :
    (flowBlock xs).toList = 'k' :: ':' :: ' ' :: flow xs := by
  obtain ⟨x, xs, rfl⟩ := List.exists_cons_of_ne_nil hne
  have htexts : ((x :: xs).map fun x => String.ofList x.text).map String.toList =
      (x :: xs).map text := by
    rw [List.map_map]
    exact List.map_congr_left fun x _ => String.toList_ofList
  have hopen : "k: [".toList = ['k', ':', ' ', '['] := rfl
  have hcomma : ", ".toList = [',', ' '] := rfl
  rw [flowBlock, String.toList_append, String.toList_append, String.toList_intercalate, htexts,
    hcomma, intercalate_items, hopen]
  simp [flow]

/-- The block with the list in items is its rows. -/
lemma toList_itemBlock (xs : List Flat) : (itemBlock xs).toList = Row.block (rows xs) := by
  have htexts : (xs.map fun x => "  - " ++ String.ofList x.text).map String.toList =
      (xs.map itemRow).map Row.raw := by
    rw [List.map_map, List.map_map]
    refine List.map_congr_left fun x _ => ?_
    simp [Row.raw, itemRow, List.replicate]
  have hkey : Row.raw ⟨0, ['k', ':']⟩ = "k:".toList := rfl
  have hbreak : "\n".toList = ['\n'] := rfl
  rw [itemBlock, String.toList_intercalate, List.map_cons, htexts, Row.block, rows, List.map_cons,
    hkey, hbreak]

/-- A sequence in brackets is the value of its key. -/
lemma read_flowBlock [PatternEngine] {xs : List Flat} (hne : xs ≠ []) :
    read ('k' :: ':' :: ' ' :: flow xs) = .ok ⟨[("k", .seq (xs.map value))]⟩ := by
  have hsound : Line.Sound ('k' :: ':' :: ' ' :: flow xs) :=
    sound_keyMark.append_space (sound_flow xs)
  have hrow : ∀ r ∈ [(⟨0, 'k' :: ':' :: ' ' :: flow xs⟩ : Row)], Line.Sound r.text := by
    simpa using hsound
  obtain ⟨lines, hlines, hrows⟩ := Line.ofBlock_block hrow (.inl rfl)
  obtain ⟨num, ls, rfl, hls⟩ := Outline.exists_line hrows
  cases List.map_eq_nil_iff.1 hls
  have hblock : Row.block [⟨0, 'k' :: ':' :: ' ' :: flow xs⟩] ++ [] =
      'k' :: ':' :: ' ' :: flow xs := by
    simp [Row.block, Row.raw]
  rw [hblock] at hlines
  have hkey : Scalar.splitKey? ('k' :: ':' :: ' ' :: flow xs) = some ("k", flow xs) := by
    have hread : Scalar.readKey? ('k' :: ':' :: ' ' :: flow xs) =
        some (['k'], ':' :: ' ' :: flow xs) := rfl
    rw [Scalar.splitKey?, if_neg (by simp), hread]
    exact congrArg (fun rest => some ("k", rest)) (sound_flow xs).trim
  have hrest : (flow xs).isEmpty = false := by
    cases xs <;> rfl
  have hvalue : Outline.read? [⟨num, 0, 'k' :: ':' :: ' ' :: flow xs⟩] =
      .ok (some (.map [("k", .seq (xs.map value))])) := by
    rw [Outline.read?_entry rfl hkey hrest, read_flow hne]
    rfl
  rw [read, hlines]
  simp only [hvalue]

/-- Items on lines below a key are its value. -/
lemma read_itemBlock [PatternEngine] {xs : List Flat} (hne : xs ≠ []) {tail : List Char}
    (htail : tail = [] ∨ tail = ['\n']) :
    read (Row.block (rows xs) ++ tail) = .ok ⟨[("k", .seq (xs.map value))]⟩ := by
  obtain ⟨x, xs, rfl⟩ := List.exists_cons_of_ne_nil hne
  obtain ⟨lines, hlines, hrows⟩ := Line.ofBlock_block (sound_rows (x :: xs)) htail
  obtain ⟨num, ls, rfl, hls⟩ := Outline.exists_line hrows
  have hitems := reads_items (x :: xs) hls []
  obtain ⟨num', ls', rfl, -⟩ := Outline.exists_line hls
  -- The items are deeper than the key, and its value.
  have hvalue : Reads .value (⟨num', 2, '-' :: ' ' :: x.text⟩ :: ls')
      (.ok (.seq ((x :: xs).map value), [])) := .value_items rfl hitems
  have hkey : Scalar.splitKey? ['k', ':'] = some ("k", []) := rfl
  have hentry : Reads (.entry 0) (⟨num, 0, ['k', ':']⟩ :: ⟨num', 2, '-' :: ' ' :: x.text⟩ :: ls')
      (.ok (.seq ((x :: xs).map value), [])) :=
    .entry_nested hkey (by simp [ItemNext]) (.nested_value (by simp [Outline.Shallow]) hvalue)
  have hentries : Reads (.entries 0 [])
      (⟨num, 0, ['k', ':']⟩ :: ⟨num', 2, '-' :: ' ' :: x.text⟩ :: ls')
      (.ok (.map [("k", .seq ((x :: xs).map value))], [])) :=
    .entries_next ⟨_, rfl, rfl, rfl⟩ hkey hentry
      (.entries_end (by simp [Outline.Shallow]) (by simp [EntryNext]))
  exact descends_iff.1 (.mapping hlines (.value_entries rfl hentries))

/-- A sequence in brackets and the same items on lines are read as one value. -/
theorem parse_flow_eq_parse_items [PatternEngine] {xs : List Flat} (hne : xs ≠ []) :
    parse (flowBlock xs) = .ok ⟨[("k", .seq (xs.map value))]⟩ ∧
    parse (itemBlock xs) = .ok ⟨[("k", .seq (xs.map value))]⟩ ∧
    parse (itemBlock xs ++ "\n") = .ok ⟨[("k", .seq (xs.map value))]⟩ := by
  refine ⟨?_, ?_, ?_⟩
  · rw [parse, toList_flowBlock hne]
    exact read_flowBlock hne
  · have hread := read_itemBlock hne (.inl rfl)
    rwa [List.append_nil, ← toList_itemBlock] at hread
  · have hread := read_itemBlock hne (.inr rfl)
    rw [← toList_itemBlock] at hread
    rw [parse, String.toList_append]
    exact hread

/-- Signs of either notation in a text, and words that look like other values. -/
def flatSample : List Flat :=
  [.quoted "a, 'b'] # - c: \"d" (by decide), .int (-9223372036854775808) (by decide),
    .bool true, .null, .word ['n', 'u', 'l', 'l'] (by simp) (by simp),
    .word ['+', '0', '7'] (by simp) (by simp), .word ['0', '7', '_', 'x'] (by simp) (by simp)]

/-- Texts, numbers, truth values and nothing, in both notations. -/
theorem parse_flow_eq_parse_items_sample :
    flatSample ≠ [] ∧
    parse "k: ['a, ''b''] # - c: \"d', -9223372036854775808, true, ~, null, +07, 07_x]" =
      .ok ⟨[("k", .seq [.str "a, 'b'] # - c: \"d", .int (-9223372036854775808), .bool true, .null,
        .null, .int 7, .str "07_x"])]⟩ ∧
    parse ("k:\n  - 'a, ''b''] # - c: \"d'\n  - -9223372036854775808\n  - true\n  - ~\n" ++
      "  - null\n  - +07\n  - 07_x\n") =
      .ok ⟨[("k", .seq [.str "a, 'b'] # - c: \"d", .int (-9223372036854775808), .bool true, .null,
        .null, .int 7, .str "07_x"])]⟩ := by
  have hne : flatSample ≠ [] := List.cons_ne_nil _ _
  have hflow : flowBlock flatSample =
      "k: ['a, ''b''] # - c: \"d', -9223372036854775808, true, ~, null, +07, 07_x]" := by
    decide +kernel
  have hitems : itemBlock flatSample ++ "\n" =
      "k:\n  - 'a, ''b''] # - c: \"d'\n  - -9223372036854775808\n  - true\n  - ~\n" ++
        "  - null\n  - +07\n  - 07_x\n" := by decide +kernel
  have hvalues : flatSample.map value = [.str "a, 'b'] # - c: \"d", .int (-9223372036854775808),
      .bool true, .null, .null, .int 7, .str "07_x"] := by cbv
  obtain ⟨hparse, -, hparse'⟩ := parse_flow_eq_parse_items hne
  rw [hflow, hvalues] at hparse
  rw [hitems, hvalues] at hparse'
  exact ⟨hne, hparse, hparse'⟩

end Settings

end Keyplan
