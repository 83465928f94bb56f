import Keyplan.Proofs.Descent

/-!
# What a block is read to

What a descent leaves are lines that it was given, some of them without the mark of an item, and an
error is about one of those (`Reads.origin`). A mapping is empty only where such a line is an item
once more (`- - a: b`); that line is then left behind, deeper than all that is open, so that no
whole value comes of it (`Reads.fills`). The main statement is `parse_total`.
-/

namespace Keyplan

namespace Value

/-- The value is the other one or stands inside it, at any depth. -/
inductive Within : Value → Value → Prop where
  | here {v} :
    Within v v
  | item {v w items} :
    w ∈ items →
    Within v w →
    Within v (.seq items)
  | entry {v k w entries} :
    (k, w) ∈ entries →
    Within v w →
    Within v (.map entries)

/-- No mapping in the value is empty. -/
def Full (v : Value) : Prop :=
  ∀ entries, Within (.map entries) v → entries ≠ []

/-- What holds no other values is full. -/
lemma full_of_leaf {v : Value} (hseq : v.seq? = none) (hmap : v.map? = none) : v.Full := by
  rintro entries (_ | _ | _)
  · cases hmap
  · cases hseq
  · cases hmap

/-- A sequence of full values is full. -/
lemma full_seq {items : List Value} (h : ∀ v ∈ items, v.Full) : (Value.seq items).Full := by
  rintro entries (_ | ⟨hmem, hwithin⟩)
  exact h _ hmem entries hwithin

/-- A mapping that has entries, all of them full, is full. -/
lemma full_map {es : Entries} (hne : es ≠ []) (h : ∀ e ∈ es, e.2.Full) : (Value.map es).Full := by
  rintro entries (_ | _ | ⟨hmem, hwithin⟩)
  · exact hne
  · exact h _ hmem entries hwithin

end Value

namespace Entries

/-- A mapping has an entry once one is put into it. -/
lemma insert_ne_nil (k : String) (v : Value) (es : Entries) : es.insert k v ≠ [] := by
  cases es with
  | nil => exact List.cons_ne_nil _ _
  | cons e es =>
    rw [insert]
    split_ifs <;> exact List.cons_ne_nil _ _

/-- What holds of a value and of all entries holds of all with that value among them. -/
lemma forall_mem_insert {P : Value → Prop} {k : String} {v : Value} {es : Entries} (hv : P v)
    (hes : ∀ e ∈ es, P e.2) : ∀ e ∈ es.insert k v, P e.2 := by
  induction es with
  | nil => simpa [insert] using hv
  | cons e es ih =>
    obtain ⟨he, hes⟩ := List.forall_mem_cons.1 hes
    rw [insert]
    split_ifs with hlt heq
    · exact List.forall_mem_cons.2 ⟨hv, List.forall_mem_cons.2 ⟨he, hes⟩⟩
    · exact List.forall_mem_cons.2 ⟨hv, hes⟩
    · exact List.forall_mem_cons.2 ⟨he, ih hes⟩

end Entries

namespace Scalar
open Value

/-- A plain scalar is full. -/
lemma full_plain (cs : List Char) : (plain cs).Full := by
  simp only [plain]
  generalize (if cs.any Char.isDigit then Decimal.readFraction? cs else none) = fraction?
  split_ifs with hnull htrue hfalse
  · exact full_of_leaf rfl rfl
  · exact full_of_leaf rfl rfl
  · exact full_of_leaf rfl rfl
  · cases Decimal.readInt? cs with
    | some n => exact full_of_leaf rfl rfl
    | none => cases fraction? <;> exact full_of_leaf rfl rfl

/-- A plain item is full. -/
lemma full_of_plainItem? {cs rest : List Char} {v : Value}
    (h : plainItem? cs = some (v, rest)) : v.Full := by
  unfold plainItem? at h
  split at h
  · cases h
  · cases h
    exact full_plain _

/-- An item between brackets is full. -/
lemma full_of_flowItem? {cs rest : List Char} {v : Value}
    (h : flowItem? cs = some (v, rest)) : v.Full := by
  obtain ⟨⟨v', rest'⟩, hitem, heq⟩ := Option.map_eq_some_iff.1 h
  cases heq
  split at hitem
  · split at hitem
    · cases hitem
      exact full_of_leaf rfl rfl
    · exact full_of_plainItem? hitem
  · split at hitem
    · cases hitem
      exact full_of_leaf rfl rfl
    · exact full_of_plainItem? hitem
  · exact full_of_plainItem? hitem

/-- All items between brackets are full. -/
lemma full_of_mem_flowItems (cs : List Char) : ∀ v ∈ (flowItems cs).1, v.Full := by
  fun_induction flowItems cs with
  | case1 rest v rest' hitem vs left hitems ih =>
    rw [hitems] at ih
    exact List.forall_mem_cons.2 ⟨full_of_flowItem? hitem, ih⟩
  | case2 => simp
  | case3 => simp

/-- A list between brackets is full. -/
lemma full_of_flow? {cs rest : List Char} {items : List Value}
    (h : flow? cs = some (items, rest)) : (Value.seq items).Full := by
  apply full_seq
  unfold flow? at h
  cases hitem : flowItem? cs with
  | none =>
    simp only [hitem] at h
    split at h <;> cases h
    simp
  | some item =>
    obtain ⟨v, rest'⟩ := item
    simp only [hitem] at h
    split at h <;> cases h
    exact List.forall_mem_cons.2 ⟨full_of_flowItem? hitem, full_of_mem_flowItems rest'⟩

/-- An error is about the line, and a value has no empty mapping. -/
def Sound (line : Nat) : Except SettingsError Value → Prop
  | .ok v => v.Full
  | .error e => e.line? = some line

/-- A scalar that is read is full, or the error is one of its line. -/
lemma sound_read [PatternEngine] (line : Nat) (cs : List Char) : Sound line (read line cs) := by
  have hfinish : ∀ (v : Value) (rest : List Char), v.Full →
      Sound line (if rest.isEmpty then .ok v
        else .error (.invalidLine line (.unexpectedText (String.ofList rest)))) := by
    intro v rest hv
    split
    · exact hv
    · rfl
  simp only [read]
  split
  · rfl
  split
  · split
    · exact full_of_leaf rfl rfl
    · rfl
  split
  · split
    · next hflow => exact hfinish _ _ (full_of_flow? hflow)
    · rfl
  · split
    · exact hfinish _ _ (full_of_leaf rfl rfl)
    · rfl
  · split
    · exact hfinish _ _ (full_of_leaf rfl rfl)
    · rfl
  · exact full_plain _

end Scalar

namespace Descent
open Outline Value

/-- The lines that are left are of a kind, and so is the line that an error is about. -/
def Result.From (P : Line → Prop) : Result → Prop
  | .ok (_, rest) => ∀ line ∈ rest, P line
  | .error e => ∃ line, P line ∧ e.line? = some line.number

/-- What a scalar on a line gives is of that line, and the other lines stay. -/
lemma from_read [PatternEngine] {P : Line → Prop} {line : Line} (hline : P line) (text : List Char)
    {lines : List Line} (hlines : ∀ line ∈ lines, P line) :
    Result.From P ((Scalar.read line.number text).map fun v => (v, lines)) := by
  have hsound := Scalar.sound_read line.number text
  cases hread : Scalar.read line.number text with
  | error e =>
    rw [hread] at hsound
    exact ⟨line, hline, hsound⟩
  | ok v => exact hlines

/-- A task leaves lines that it was given, and its errors are about such lines, where a line may
have lost marks of items. -/
theorem Reads.origin [PatternEngine] {P : Line → Prop} (hbody : ∀ line, P line → P line.itemBody)
    {t lines r} (h : Reads t lines r) : (∀ line ∈ lines, P line) → Result.From P r := by
  induction h with
  | value_items _ _ ih => exact ih
  | value_entries _ _ ih => exact ih
  | items_end _ => exact id
  | items_next _ _ _ ihitem ih => exact fun hlines => ih (ihitem hlines)
  | items_fail _ _ ihitem => exact ihitem
  | item_nested _ _ ih => exact fun hlines => ih (List.forall_mem_cons.1 hlines).2
  | item_entries _ _ ih =>
    intro hlines
    obtain ⟨hline, hlines⟩ := List.forall_mem_cons.1 hlines
    exact ih (List.forall_mem_cons.2 ⟨hbody _ hline, hlines⟩)
  | item_scalar _ _ =>
    intro hlines
    obtain ⟨hline, hlines⟩ := List.forall_mem_cons.1 hlines
    exact from_read hline _ hlines
  | entries_end _ _ => exact id
  | entries_deeper _ => exact fun hlines => ⟨_, (List.forall_mem_cons.1 hlines).1, rfl⟩
  | entries_keyless _ _ => exact fun hlines => ⟨_, (List.forall_mem_cons.1 hlines).1, rfl⟩
  | entries_next _ _ _ _ ihentry ih => exact fun hlines => ih (ihentry hlines)
  | entries_fail _ _ _ ihentry => exact ihentry
  | entry_items _ _ _ ih => exact fun hlines => ih (List.forall_mem_cons.1 hlines).2
  | entry_nested _ _ _ ih => exact fun hlines => ih (List.forall_mem_cons.1 hlines).2
  | entry_scalar _ _ =>
    intro hlines
    obtain ⟨hline, hlines⟩ := List.forall_mem_cons.1 hlines
    exact from_read hline _ hlines
  | nested_value _ _ ih => exact ih
  | nested_none _ => exact id

/-! ## Mappings have entries -/

/-- If the task ends, no mapping in its value is empty, or a deeper line is left that nothing open
will take. -/
def Task.Fills (lines : List Line) (r : Result) : Task → Prop
  | .value => ∀ line ∈ lines.head?, ∀ v rest, r = .ok (v, rest) →
    v.Full ∨ ¬ Shallow line.indent rest
  | .items n done => (∀ v ∈ done, v.Full) ∨ ¬ Shallow n lines → ∀ v rest, r = .ok (v, rest) →
    v.Full ∨ ¬ Shallow n rest
  | .item n => ItemNext n lines → ∀ v rest, r = .ok (v, rest) → v.Full ∨ ¬ Shallow n rest
  | .entries n done => (∀ e ∈ done, e.2.Full) → ∀ v rest, r = .ok (v, rest) →
    (done ≠ [] ∨ EntryNext n lines → v.Full) ∧ (¬ EntryNext n lines → rest = lines)
  | .entry n => ∀ v rest, r = .ok (v, rest) → v.Full ∨ ¬ Shallow n rest
  | .nested n => ∀ v rest, r = .ok (v, rest) → v.Full ∨ ¬ Shallow n rest

/-- A scalar that is read is full. -/
lemma full_of_read [PatternEngine] {line : Nat} {text : List Char} {v : Value}
    {lines rest : List Line}
    (h : (Scalar.read line text).map (fun v => (v, lines)) = .ok (v, rest)) : v.Full := by
  have hsound := Scalar.sound_read line text
  cases hread : Scalar.read line text with
  | error e => rw [hread] at h; cases h
  | ok v =>
    rw [hread] at h hsound
    cases h
    exact hsound

/-- A line that is an item of a sequence is no deeper than the sequence. -/
lemma shallow_of_itemNext {n lines} (h : ItemNext n lines) : Shallow n lines := by
  obtain ⟨line, rest, rfl, hindent, -⟩ := exists_of_itemNext h
  rintro _ ⟨⟩
  exact hindent.le

/-- Behind a deeper line a mapping does not end. -/
lemma Reads.shallow_of_entries [PatternEngine] {n done lines v rest}
    (h : Reads (.entries n done) lines (.ok (v, rest))) : Shallow n lines := by
  cases h with
  | entries_end hshallow _ => exact hshallow
  | entries_next hnext _ _ _ =>
    obtain ⟨_, ⟨⟩, hindent, -⟩ := hnext
    rintro _ ⟨⟩
    exact hindent.le

/-- Every reading gives full values. -/
theorem Reads.fills [PatternEngine] {t lines r} (h : Reads t lines r) : t.Fills lines r := by
  induction h with
  | value_items _ _ ih =>
    rintro line ⟨⟩
    exact ih (.inl (by simp))
  | value_entries hitem _ ih =>
    rintro line ⟨⟩ v rest hr
    exact .inl ((ih (by simp) v rest hr).1 (.inr ⟨_, rfl, rfl, hitem⟩))
  | items_end _ =>
    rintro hdone v rest ⟨⟩
    exact hdone.imp_left full_seq
  | items_next hnext _ _ ihitem ih =>
    intro hdone
    have hdone := hdone.resolve_right (not_not_intro (shallow_of_itemNext hnext))
    refine ih ((ihitem hnext _ _ rfl).imp_left fun hv => ?_)
    simpa [or_imp, forall_and] using And.intro hdone hv
  | items_fail => nofun
  | item_nested _ _ ih => exact fun _ => ih
  | @item_entries n line lines r hkey _ ih =>
    rintro ⟨_, ⟨⟩, hindent, -⟩ v rest hr
    obtain ⟨hfull, hrest⟩ := ih (by simp) v rest hr
    by_cases hnext : EntryNext line.itemBody.indent (line.itemBody :: lines)
    · exact .inl (hfull (.inr hnext))
    · -- The line is an item once more, and stays behind as it is.
      right
      rw [hrest hnext]
      intro hshallow
      have hlt := indent_lt_itemBody (ne_nil_of_splitKey? hkey)
      exact absurd (hshallow _ rfl) (by omega)
  | item_scalar _ _ => exact fun _ v rest hr => .inl (full_of_read hr)
  | entries_end _ hnext =>
    rintro hdone v rest ⟨⟩
    refine ⟨fun hne => ?_, fun _ => rfl⟩
    exact full_map (hne.resolve_right hnext) hdone
  | entries_deeper => nofun
  | entries_keyless => nofun
  | entries_next hnext _ _ hentries ihentry ih =>
    rintro hdone v rest rfl
    have hv := (ihentry _ _ rfl).resolve_right (not_not_intro hentries.shallow_of_entries)
    obtain ⟨hfull, -⟩ := ih (Entries.forall_mem_insert hv hdone) v rest rfl
    exact ⟨fun _ => hfull (.inl (Entries.insert_ne_nil _ _ _)), fun h => absurd hnext h⟩
  | entries_fail => nofun
  | entry_items _ _ _ ih => exact ih (.inl (by simp))
  | entry_nested _ _ _ ih => exact ih
  | entry_scalar _ _ => exact fun v rest hr => .inl (full_of_read hr)
  | @nested_value n lines r hdeeper _ ih =>
    intro v rest hr
    obtain ⟨line, hline, hlt⟩ : ∃ line ∈ lines.head?, n < line.indent := by
      simpa [Shallow] using hdeeper
    refine (ih line hline v rest hr).imp_right fun hleft hshallow => hleft ?_
    exact hshallow.mono hlt.le
  | nested_none _ =>
    rintro v rest ⟨⟩
    exact .inl (full_of_leaf rfl rfl)

end Descent

namespace Settings
open Descent

/-- The raw line with the number is in the block and holds more than blanks and a comment. -/
def Numbers (block : List Char) (n : Nat) : Prop :=
  1 ≤ n ∧ n ≤ (Text.lines block).length ∧
    ∃ raw, (Text.lines block)[n - 1]? = some raw ∧ ¬ Line.Idle raw

/-- The number of a line with content is that of a line of the block. -/
lemma numbers_of_getElem? {block raw : List Char} {i : Nat}
    (hraw : (Text.lines block)[i]? = some raw) (hidle : ¬ Line.Idle raw) :
    Numbers block (1 + i) := by
  obtain ⟨hlt, -⟩ := List.getElem?_eq_some_iff.1 hraw
  exact ⟨by omega, by omega, raw, by rwa [Nat.add_sub_cancel_left], hidle⟩

/-- All lines that are read have numbers of lines of the block. -/
lemma numbers_of_ofBlock {block lines} (h : Line.ofBlock block = .ok lines) :
    ∀ line ∈ lines, Numbers block line.number := by
  intro line hline
  obtain ⟨i, raw, hraw, hnumber, hidle, -⟩ := (Line.ofRaws_eq_ok h).1 line hline
  rw [hnumber]
  exact numbers_of_getElem? hraw hidle

/-- An error with a number is about a line of the block. -/
lemma numbers_of_descends [PatternEngine] {block e n} (h : Descends block (.error e))
    (hn : e.line? = some n) :
    Numbers block n := by
  have horigin : ∀ {lines r}, Line.ofBlock block = .ok lines → Reads .value lines r →
      Result.From (fun line => Numbers block line.number) r :=
    fun hlines hreads => hreads.origin (fun _ => id) (numbers_of_ofBlock hlines)
  cases h with
  | unreadable hlines =>
    obtain ⟨i, raw, hraw, hidle, rfl⟩ := Line.ofRaws_eq_error hlines
    cases hn
    exact numbers_of_getElem? hraw hidle
  | fail hlines hreads =>
    obtain ⟨line, hline, hnumber⟩ := horigin hlines hreads
    cases hnumber.symm.trans hn
    exact hline
  | leftover hlines hreads =>
    cases hn
    exact (List.forall_mem_cons.1 (horigin hlines hreads)).1
  | other => cases hn

/-- Every block is read to an end, by a descent that looks at no line that is not there and cuts a
line in front of a character only. Settings come of all lines that are not idle and have no empty
mapping in them, and an error points at a line that is not idle. -/
theorem parse_total [PatternEngine] (block : String) :
    (∀ r, Descends block.toList r ↔ parse block = r) ∧
    (∀ lines, Line.ofBlock block.toList = .ok lines → ∀ line ∈ lines,
      ∃ raw, (Text.lines block.toList)[line.number - 1]? = some raw ∧
        ∀ k, Line.CutFrom raw (Line.itemBody^[k] line) ∧
          ∀ key text, Scalar.splitKey? (Line.itemBody^[k] line).text = some (key, text) →
            text <:+: raw) ∧
    (∀ s, parse block = .ok s → ∃ lines, Line.ofBlock block.toList = .ok lines ∧
      (∀ i raw, (Text.lines block.toList)[i]? = some raw → ¬ Line.Idle raw →
        ∃ line ∈ lines, line.number = i + 1) ∧
      (lines = [] ∧ s.entries = [] ∨
        Reads .value lines (.ok (.map s.entries, [])) ∧ (Value.map s.entries).Full)) ∧
    ∀ e n, parse block = .error e → e.line? = some n → Numbers block.toList n := by
  refine ⟨fun r => descends_iff, fun lines hlines line hline => ?_, fun s hparse => ?_,
    fun e n hparse hn => numbers_of_descends (descends_iff.2 hparse) hn⟩
  · obtain ⟨i, raw, hraw, hnumber, -, hcut⟩ := (Line.ofRaws_eq_ok hlines).1 line hline
    have hcuts : ∀ k, Line.CutFrom raw (Line.itemBody^[k] line) := by
      intro k
      induction k with
      | zero => exact hcut
      | succ k ih =>
        rw [Function.iterate_succ_apply']
        exact ih.itemBody
    exact ⟨raw, by rwa [hnumber, Nat.add_sub_cancel_left], fun k => ⟨hcuts k,
      fun key text hkey => (Scalar.isInfix_of_splitKey? hkey).trans (hcuts k).isInfix⟩⟩
  · have hall : ∀ {lines}, Line.ofBlock block.toList = .ok lines → ∀ i raw,
        (Text.lines block.toList)[i]? = some raw → ¬ Line.Idle raw →
        ∃ line ∈ lines, line.number = i + 1 := by
      intro lines hlines i raw hraw hidle
      obtain ⟨line, hline, hnumber⟩ := (Line.ofRaws_eq_ok hlines).2 i raw hraw hidle
      exact ⟨line, hline, hnumber.trans (Nat.add_comm 1 i)⟩
    cases descends_iff.2 hparse with
    | empty hlines => exact ⟨[], hlines, hall hlines, .inl ⟨rfl, rfl⟩⟩
    | @mapping lines entries hlines hreads =>
      refine ⟨lines, hlines, hall hlines, .inr ⟨hreads, ?_⟩⟩
      obtain ⟨line, rest, rfl⟩ := List.exists_cons_of_ne_nil hreads.ne_nil
      refine (hreads.fills line rfl _ _ rfl).resolve_right (not_not_intro ?_)
      simp [Outline.Shallow]

/-- A sequence under its key, and an item that is an item once more. -/
theorem parse_total_samples :
    parse "a:\n- x: 1 # one\n\n- ~" = .ok ⟨[("a", .seq [.map [("x", .int 1)], .null])]⟩ ∧
    (Value.map [("a", .seq [.map [("x", .int 1)], .null])]).Full ∧
    parse "k:\n  # c\n  - - a: b" = .error (.unexpectedIndent 3) ∧
    Numbers "k:\n  # c\n  - - a: b".toList 3 := by
  have hok : parse "a:\n- x: 1 # one\n\n- ~" =
      .ok ⟨[("a", .seq [.map [("x", .int 1)], .null])]⟩ := by cbv
  have herror : parse "k:\n  # c\n  - - a: b" = .error (.unexpectedIndent 3) := by cbv
  obtain ⟨-, -, hread, -⟩ := parse_total "a:\n- x: 1 # one\n\n- ~"
  obtain ⟨-, -, -, hfailed⟩ := parse_total "k:\n  # c\n  - - a: b"
  refine ⟨hok, ?_, herror, hfailed _ 3 herror rfl⟩
  obtain ⟨lines, -, -, ⟨-, hnil⟩ | ⟨-, hfull⟩⟩ := hread _ hok
  · cases hnil
  · exact hfull

end Settings

end Keyplan
