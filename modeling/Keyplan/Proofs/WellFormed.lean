import Keyplan.Keyboard
import Keyplan.Proofs.Traversal

/-!
# Well-formed meanings

What a cap shows is kept beside what the key does, so the two could differ. `Meaning.WellFormed`
says that they agree, that modifiers are not missing where there should be some, and that a keycode
has its usual spelling. Words have well-formed meanings since the usual spelling of a word is its
own usual spelling (`canonical_canonical`), and every function of a keyboard keeps them well formed
(`wellFormed_apply`). The main statement is `value_wellFormed`.
-/

namespace Keyplan

namespace Modifier

/-- A part of a mask stands for at least one modifier. -/
lemma ofMaskPart?_ne_nil {part ms} (h : ofMaskPart? part = some ms) : ms ≠ [] := by
  unfold ofMaskPart? at h
  split at h <;> cases h <;> decide

/-- A mask has modifiers. -/
lemma ofMask?_ne_nil {mask ms} (h : ofMask? mask = some ms) : ms ≠ [] := by
  rw [ofMask?] at h
  cases hparts : Text.splitBy '|' mask.toList with
  | nil => exact absurd hparts (Text.splitBy_ne_nil _ _)
  | cons part parts =>
    rw [hparts, ofMaskParts?] at h
    split at h
    · next hpart _ =>
      obtain rfl := Option.some.inj h
      exact List.append_ne_nil_of_left_ne_nil (ofMaskPart?_ne_nil hpart) _
    · cases h

/-- The keycode that does nothing is no modifier key. -/
lemma ofKeycode?_noKeycode : ofKeycode? noKeycode = none := by
  decide

end Modifier

/-- A modifier makes a chord of a keycode that is no modifier key. -/
lemma Meaning.modify_keycode {name m} (h : Modifier.ofKeycode? name = none) :
    modify m (.keycode name) = .chord (.of name [m]) := by
  rw [modify, h]

namespace Vocabulary

/-- What a table has for a word is a row of it. -/
lemma mem_of_find? {table word v} (h : find? table word = some v) : (word, v) ∈ table := by
  obtain ⟨⟨spelling, usual⟩, hrow, rfl⟩ := Option.map_eq_some_iff.1 h
  obtain rfl : spelling = word := by simpa using List.find?_some hrow
  exact List.mem_of_find?_eq_some hrow

/-- The spelling of a word is the word itself, or stands in one of the two tables. -/
lemma canonical_eq_or_mem (word : String) :
    canonical word = word ∨ ∃ row ∈ aliases ++ symbolNames, row.2 = canonical word := by
  rw [canonical]
  cases hname : find? symbolNames ((find? aliases word).getD word) with
  | some name => exact .inr ⟨_, List.mem_append_right _ (mem_of_find? hname), rfl⟩
  | none =>
    cases halias : find? aliases word with
    | some usual => exact .inr ⟨_, List.mem_append_left _ (mem_of_find? halias), rfl⟩
    | none => exact .inl rfl

/-- The word that a row leads to is its own usual spelling. -/
lemma canonical_of_mem {row} (h : row ∈ aliases ++ symbolNames) : canonical row.2 = row.2 := by
  revert row
  decide +kernel

/-- The usual spelling of a word has itself as its usual spelling. -/
lemma canonical_canonical (word : String) : canonical (canonical word) = canonical word := by
  rcases canonical_eq_or_mem word with h | ⟨row, hrow, h⟩
  · rw [h, h]
  · rw [← h, canonical_of_mem hrow]

/-- The key that sends a symbol with shift is no modifier, and its keycode stands for itself. -/
lemma of_mem_shiftedSymbols {word base} (h : (word, base) ∈ shiftedSymbols) :
    Modifier.ofKeycode? base = none ∧ meaning base = .keycode base := by
  have hall : ∀ row ∈ shiftedSymbols,
      Modifier.ofKeycode? row.2 = none ∧ meaning row.2 = .keycode row.2 := by
    decide +kernel
  exact hall _ h

/-- A word is a symbol that a key sends with shift, or stands for its usual spelling. -/
lemma meaning_cases (word : String) :
    (∃ base, Modifier.ofKeycode? base = none ∧ meaning base = .keycode base ∧
      meaning word = .chord (.of base [.leftShift])) ∨
    (meaning word = .keycode (canonical word) ∧
      meaning (canonical word) = .keycode (canonical word)) := by
  cases hbase : find? shiftedSymbols (canonical word) with
  | some base =>
    obtain ⟨hkey, hself⟩ := of_mem_shiftedSymbols (mem_of_find? hbase)
    refine .inl ⟨base, hkey, hself, ?_⟩
    unfold meaning
    simp only [hbase, Meaning.modify_keycode hkey]
  | none =>
    refine .inr ⟨?_, ?_⟩
    · unfold meaning
      simp only [hbase]
    · unfold meaning
      simp only [canonical_canonical, hbase]

end Vocabulary

namespace Meaning

/-- What the cap shows agrees with what the key does, modifiers are not missing, and a plain keycode
has its usual spelling. -/
def WellFormed : Meaning → Prop
  | .keycode name => Vocabulary.meaning name = .keycode name
  | .chord c =>
    c.mods ≠ [] ∧ Modifier.ofKeycode? c.keycode = none ∧ c = .of c.keycode c.mods
  | .modTap c =>
    c.mods ≠ [] ∧ c.keycode ≠ noKeycode ∧ Modifier.ofKeycode? c.keycode = none ∧
      c.text = modTapMark ++ Modifier.shortText c.mods ∧
      c.hint = .split (keyLabel c.keycode) c.text
  | .layerTap layer key hint => hint = .split (keyLabel key) (layerTapGlyph ++ layer)
  | .onLayer action layer hint => hint = .middle (action.glyph ++ layer)
  | .oneShotModifier mods hint =>
    mods ≠ [] ∧ hint = .middle (oneShotGlyph ++ Modifier.shortText mods)
  | .error _ => True

/-- A chord of modifiers and a key that is none is well formed. -/
lemma wellFormed_of {keycode mods} (hmods : mods ≠ [])
    (hkey : Modifier.ofKeycode? keycode = none) : WellFormed (.chord (.of keycode mods)) :=
  ⟨hmods, hkey, rfl⟩

/-- A modifier keeps a meaning well formed. -/
lemma WellFormed.modify {v} (h : WellFormed v) (m : Modifier) : (v.modify m).WellFormed := by
  cases v with
  | keycode name =>
    rw [Meaning.modify]
    split
    · exact wellFormed_of (List.cons_ne_nil _ _) Modifier.ofKeycode?_noKeycode
    · next hkey => exact wellFormed_of (List.cons_ne_nil _ _) hkey
  | chord c =>
    obtain ⟨-, hkey, -⟩ := h
    exact wellFormed_of (List.append_ne_nil_of_right_ne_nil _ (List.cons_ne_nil _ _)) hkey
  | _ => trivial

/-- Modifiers keep a meaning well formed. -/
lemma WellFormed.modifyAll {v} (h : WellFormed v) (ms : List Modifier) :
    (v.modifyAll ms).WellFormed := by
  unfold Meaning.modifyAll
  induction ms generalizing v with
  | nil => exact h
  | cons m ms ih => exact ih (h.modify m)

/-- Tapping keeps a meaning well formed. -/
lemma WellFormed.tap {v} (h : WellFormed v) : v.tap.WellFormed := by
  cases v with
  | chord c =>
    rw [Meaning.tap]
    split
    · exact h
    · next hne =>
      obtain ⟨hmods, hkey, -⟩ := h
      exact ⟨hmods, hne, hkey, rfl, rfl⟩
  | _ => trivial

/-- A key that holds a layer is well formed. -/
lemma wellFormed_tapLayer (layer key : Meaning) : (layer.tapLayer key).WellFormed := by
  cases layer with
  | keycode _ =>
    cases key with
    | keycode _ => rfl
    | _ => trivial
  | _ => trivial

/-- An action on a layer is well formed. -/
lemma wellFormed_actOn (action : LayerAction) (layer : Meaning) :
    (actOn action layer).WellFormed := by
  cases layer with
  | keycode _ => rfl
  | _ => trivial

/-- A mask is found in a keycode, and what is found instead of one is an error. -/
lemma maskOf_cases (action : String) (v : Meaning) :
    (∃ ms, ms ≠ [] ∧ v.maskOf action = .ok ms) ∨
      ∃ message, v.maskOf action = .error (.error message) := by
  cases v with
  | keycode mask =>
    rw [maskOf]
    split
    · next ms hms => exact .inl ⟨ms, Modifier.ofMask?_ne_nil hms, rfl⟩
    · exact .inr ⟨_, rfl⟩
  | _ => exact .inr ⟨_, rfl⟩

/-- A modifier for one key is well formed. -/
lemma wellFormed_oneShot (mask : Meaning) : mask.oneShot.WellFormed := by
  rw [oneShot]
  rcases maskOf_cases "OSM" mask with ⟨ms, hms, hmask⟩ | ⟨message, hmask⟩
  · rw [hmask]
    exact ⟨hms, rfl⟩
  · rw [hmask]
    trivial

/-- A mask over a key keeps it well formed. -/
lemma WellFormed.tapMask {key} (h : WellFormed key) (mask : Meaning) :
    (mask.tapMask key).WellFormed := by
  rw [Meaning.tapMask]
  rcases maskOf_cases "MT" mask with ⟨ms, -, hmask⟩ | ⟨message, hmask⟩
  · rw [hmask]
    exact (h.modifyAll ms).tap
  · rw [hmask]
    trivial

end Meaning

namespace Keyboard
open Meaning

/-- Every function keeps meanings well formed, also when it has the wrong number of arguments. -/
lemma wellFormed_apply (f : KeyFunction) (name : String) {args}
    (h : ∀ v ∈ args, WellFormed v) : (f.apply name args).WellFormed := by
  unfold KeyFunction.apply
  split
  · exact (h _ (List.mem_singleton.2 rfl)).modifyAll _
  · exact ((h _ (List.mem_singleton.2 rfl)).modifyAll _).tap
  · exact wellFormed_actOn _ _
  · exact wellFormed_oneShot _
  · exact wellFormed_tapLayer _ _
  · exact (h _ (List.mem_cons_of_mem _ (List.mem_singleton.2 rfl))).tapMask _
  · trivial

/-- Every word has a well-formed meaning. -/
lemma wellFormed_meaning (word : String) : (Vocabulary.meaning word).WellFormed := by
  rcases Vocabulary.meaning_cases word with ⟨base, hkey, -, h⟩ | ⟨h, hself⟩
  · rw [h]
    exact wellFormed_of (List.cons_ne_nil _ _) hkey
  · rw [h]
    exact hself

/-- An answer is that of the function of the name. -/
lemma exists_of_answer? {name args v} (h : executor.answer? name args = some v) :
    ∃ f, function? name = some f ∧ v = f.apply name args := by
  unfold Executor.answer? executor at h
  cases hf : function? name with
  | none => simp [hf] at h
  | some f => exact ⟨f, rfl, by simpa [hf] using h.symm⟩

/-- Words are well formed, and so is what functions make of well-formed values. -/
lemma keeps_wellFormed : executor.Keeps WellFormed where
  word := wellFormed_meaning
  answer := by
    intro name args v hargs hv
    obtain ⟨f, -, rfl⟩ := exists_of_answer? hv
    exact wellFormed_apply f name hargs

/-- Every meaning of a key expression is well formed. -/
theorem value_wellFormed {n v} (h : executor.value? n = some v) : v.WellFormed :=
  keeps_wellFormed.value? h

/-- The modifiers of a mask are shown in the usual order on a key that has its usual spelling. -/
theorem value_wellFormed_mask :
    executor.value? (.call "MT" [.word "MOD_LSFT|MOD_LCTL" 3 20, .word "KC_ESCAPE" 22 31] 0 32
      "MT(MOD_LSFT|MOD_LCTL, KC_ESCAPE)") =
      some (.modTap ⟨"KC_ESC", [.leftShift, .leftCtrl], "•Ctl+Sft", .split "ESC" "•Ctl+Sft"⟩) ∧
    WellFormed
      (.modTap ⟨"KC_ESC", [.leftShift, .leftCtrl], "•Ctl+Sft", .split "ESC" "•Ctl+Sft"⟩) := by
  have h : executor.value? (.call "MT" [.word "MOD_LSFT|MOD_LCTL" 3 20,
      .word "KC_ESCAPE" 22 31] 0 32 "MT(MOD_LSFT|MOD_LCTL, KC_ESCAPE)") =
      some (.modTap (.tap (.of "KC_ESC" [.leftShift, .leftCtrl]))) := rfl
  have htap : Chord.tap (.of "KC_ESC" [.leftShift, .leftCtrl]) =
      ⟨"KC_ESC", [.leftShift, .leftCtrl], "•Ctl+Sft", .split "ESC" "•Ctl+Sft"⟩ := by cbv
  rw [htap] at h
  exact ⟨h, value_wellFormed h⟩

end Keyboard

end Keyplan
