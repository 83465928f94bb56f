import Keyplan.Proofs.ModifierChains

/-!
# Masks of modifiers

A mask is read part by part, so the mask of two texts with a bar between them has the modifiers of
the one and then those of the other (`Modifier.ofMask?_append`), and modifiers that are written as
parts of a mask are read back in their order (`Modifier.ofMask?_parts`). No mask is a word of the
vocabulary (`Vocabulary.meaning_of_mask`). A function that applies modifiers while a key is held
therefore does what `MT` does with a mask of these modifiers; `masks_agree` puts this together.
-/

namespace Keyplan

namespace Modifier

/-- The parts of a mask are read one behind the other. -/
lemma ofMaskParts?_append (as bs : List (List Char)) :
    ofMaskParts? (as ++ bs) =
      (ofMaskParts? as).bind fun ms => (ofMaskParts? bs).map fun rest => ms ++ rest := by
  induction as with
  | nil => simp [ofMaskParts?]
  | cons part as ih =>
    rw [List.cons_append, ofMaskParts?, ofMaskParts?, ih]
    cases ofMaskPart? (String.ofList (Text.trim part)) with
    | none => rfl
    | some ms =>
      cases ofMaskParts? as with
      | none => rfl
      | some more => cases ofMaskParts? bs <;> simp

/-- A bar between two masks puts their modifiers one behind the other. -/
lemma ofMask?_append (a b : String) :
    ofMask? (a ++ "|" ++ b) = (ofMask? a).bind fun as => (ofMask? b).map fun bs => as ++ bs := by
  have hchars : (a ++ "|" ++ b).toList = a.toList ++ '|' :: b.toList := by simp
  rw [ofMask?, hchars, Text.splitBy_append, ofMaskParts?_append]
  rfl

/-- A modifier as it is written in a mask: `MOD_` and the name of its function, with blanks around
them. -/
structure MaskPart where
  lead : String
  modifier : Modifier
  trail : String
  lead_blank : ∀ c ∈ lead.toList, Text.isBlank c = true
  trail_blank : ∀ c ∈ trail.toList, Text.isBlank c = true

/-- The part as a text. -/
def MaskPart.text (p : MaskPart) : String :=
  p.lead ++ ("MOD_" ++ p.modifier.functionName) ++ p.trail

/-- The name of a modifier in a mask begins and ends with no blank and holds no bar. -/
lemma maskName_spec (m : Modifier) :
    ofMaskPart? ("MOD_" ++ m.functionName) = some [m] ∧ '|' ∉ ("MOD_" ++ m.functionName).toList ∧
      Text.trim ("MOD_" ++ m.functionName).toList = ("MOD_" ++ m.functionName).toList := by
  cases m <;> decide +kernel

/-- A single part is a mask of its modifier. -/
lemma ofMask?_part (p : MaskPart) : ofMask? p.text = some [p.modifier] := by
  obtain ⟨hname, hbar, htrim⟩ := maskName_spec p.modifier
  have hblank : ∀ cs : List Char, (∀ c ∈ cs, Text.isBlank c = true) → '|' ∉ cs :=
    fun cs h hmem => absurd (h _ hmem) (by decide)
  have hnotMem : '|' ∉ p.text.toList := by
    simp only [MaskPart.text, String.toList_append, List.mem_append, not_or] at hbar ⊢
    exact ⟨⟨hblank _ p.lead_blank, hbar⟩, hblank _ p.trail_blank⟩
  have hpart : Text.trim p.text.toList = ("MOD_" ++ p.modifier.functionName).toList := by
    have hfirst : ("MOD_" ++ p.modifier.functionName).toList =
        'M' :: ("OD_" ++ p.modifier.functionName).toList := by simp
    rw [MaskPart.text, String.toList_append, String.toList_append, hfirst,
      Text.trim_append p.lead_blank p.trail_blank rfl, ← hfirst, htrim]
  rw [ofMask?, Text.splitBy_of_notMem hnotMem, ofMaskParts?, ofMaskParts?, hpart,
    String.ofList_toList, hname]
  rfl

/-- Modifiers that are written as parts of a mask are read back. -/
lemma ofMask?_parts {parts : List MaskPart} (h : parts ≠ []) :
    ofMask? ("|".intercalate (parts.map MaskPart.text)) = some (parts.map MaskPart.modifier) := by
  induction parts with
  | nil => exact absurd rfl h
  | cons p parts ih =>
    cases parts with
    | nil => simpa using ofMask?_part p
    | cons q parts =>
      rw [List.map_cons, List.map_cons, String.intercalate_cons_cons, ofMask?_append, ofMask?_part,
        ← List.map_cons, ih (List.cons_ne_nil q parts)]
      rfl

end Modifier

namespace Vocabulary

/-- No word of the tables is a mask. -/
lemma ofMask?_of_mem {row} (h : row ∈ aliases ++ symbolNames ++ shiftedSymbols) :
    Modifier.ofMask? row.1 = none := by
  revert row
  decide +kernel

/-- A mask is in no table of words. -/
lemma find?_of_mask {table word ms} (htable : table ⊆ aliases ++ symbolNames ++ shiftedSymbols)
    (h : Modifier.ofMask? word = some ms) : find? table word = none := by
  rw [find?, Option.map_eq_none_iff, List.find?_eq_none]
  intro row hrow hword
  have hnone := ofMask?_of_mem (htable hrow)
  rw [eq_of_beq hword, h] at hnone
  cases hnone

/-- A mask stands for itself. -/
lemma meaning_of_mask {word ms} (h : Modifier.ofMask? word = some ms) :
    meaning word = .keycode word := by
  have haliases : find? aliases word = none :=
    find?_of_mask (fun _ hrow => List.mem_append_left _ (List.mem_append_left _ hrow)) h
  have hnames : find? symbolNames word = none :=
    find?_of_mask (fun _ hrow => List.mem_append_left _ (List.mem_append_right _ hrow)) h
  have hsymbols : find? shiftedSymbols word = none :=
    find?_of_mask (fun _ hrow => List.mem_append_right _ hrow) h
  have hcanonical : canonical word = word := by
    rw [canonical, haliases]
    show (find? symbolNames word).getD word = word
    rw [hnames]
    rfl
  unfold meaning
  simp only [hcanonical, hsymbols]

end Vocabulary

namespace Keyboard
open Modifier

/-- A mask puts its modifiers on a key and makes it a tap. -/
lemma tapMask_keycode {mask mods} (h : ofMask? mask = some mods) (v : Meaning) :
    Meaning.tapMask (.keycode mask) v = (v.modifyAll mods).tap := by
  simp only [Meaning.tapMask, Meaning.maskOf, h]

/-- A function that applies modifiers while the key is held, and `MT` with a mask of them. Both give
the same meaning, or fail as their argument does. -/
lemma evaluate_of_modTap {name mods mask} (hf : function? name = some (.modTap mods))
    (hmask : ofMask? mask = some mods) (x : Node) (start stop : Nat) (source : String)
    (start' stop' : Nat) (source' : String) (lo hi : Nat) :
    executor.evaluate (.call name [x] start stop source) =
      executor.evaluate (.call "MT" [.word mask lo hi, x] start' stop' source') := by
  have hzero : 0 < maxDepth := by decide
  have hmt : function? "MT" = some .modTapMask := by decide +kernel
  have hword : (executor.traceAt 1 (.word mask lo hi)).result = .ok (.keycode mask) := by
    rw [← Vocabulary.meaning_of_mask hmask]
    rfl
  show (executor.traceAt 0 _).result = (executor.traceAt 0 _).result
  rw [Executor.result_traceAt_singleton _ hzero, Executor.result_traceAt_call _ hzero,
    Executor.result_traceArgs_cons, hword, Executor.result_traceArgs_cons]
  cases (executor.traceAt (0 + 1) x).result with
  | error e => rfl
  | ok v =>
    show (executor.dispatch name start [v]).result =
      (executor.dispatch "MT" start' [.keycode mask, v]).result
    rw [result_dispatch hf, result_dispatch hmt]
    show Except.ok (v.modifyAll mods).tap = .ok (Meaning.tapMask (.keycode mask) v)
    rw [tapMask_keycode hmask]

/-- An alias of a tap function has the modifiers of the function that it stands for. -/
lemma exists_of_mem_tapAliases {row} (h : row ∈ tapAliases) :
    ∃ target ∈ modifierFunctions, target.1 = row.2 ∧
      function? row.1 = some (.modTap target.2) := by
  revert row
  decide +kernel

/-- Masks and the functions that apply modifiers while a key is held. A bar between two texts joins
their modifiers, and there are none if one of the two is no mask. Modifiers that are written as
parts of a mask, with blanks around them or not, are read back in their order. The form with `_T` of
a modifier function has the meaning of `MT` with any mask of its modifiers, whatever the argument,
and fails as that does; so do the further names of these forms. -/
theorem masks_agree :
    (∀ a b, ofMask? (a ++ "|" ++ b) =
      (ofMask? a).bind fun as => (ofMask? b).map fun bs => as ++ bs) ∧
    (∀ parts : List MaskPart, parts ≠ [] →
      ofMask? ("|".intercalate (parts.map MaskPart.text)) = some (parts.map MaskPart.modifier)) ∧
    (∀ row ∈ modifierFunctions, ∀ mask, ofMask? mask = some row.2 →
      ∀ x start stop source start' stop' source' lo hi,
        executor.evaluate (.call (row.1 ++ "_T") [x] start stop source) =
          executor.evaluate (.call "MT" [.word mask lo hi, x] start' stop' source')) ∧
    ∀ row ∈ tapAliases, ∃ target ∈ modifierFunctions, target.1 = row.2 ∧
      ∀ mask, ofMask? mask = some target.2 → ∀ x start stop source start' stop' source' lo hi,
        executor.evaluate (.call row.1 [x] start stop source) =
          executor.evaluate (.call "MT" [.word mask lo hi, x] start' stop' source') := by
  refine ⟨ofMask?_append, fun _ => ofMask?_parts, ?_, ?_⟩
  · intro row hrow mask hmask
    exact evaluate_of_modTap (function?_of_mem hrow).2 hmask
  · intro row hrow
    obtain ⟨target, htarget, hname, hf⟩ := exists_of_mem_tapAliases hrow
    exact ⟨target, htarget, hname, fun mask hmask => evaluate_of_modTap hf hmask⟩

/-- `LCA_T(MO(1))` is the error that `MT( MOD_LCTL |MOD_LALT, MO(1))` is, and `ALL_T(F(A))` fails as
`MT(MOD_HYPR, F(A))` does. -/
theorem masks_agree_samples :
    ofMask? " MOD_LCTL |MOD_LALT" = some [.leftCtrl, .leftAlt] ∧
    executor.evaluate (.call "LCA_T" [.call "MO" [.word "1" 9 10] 6 11 "MO(1)"] 0 12
        "LCA_T(MO(1))") =
      executor.evaluate (.call "MT" [.word " MOD_LCTL |MOD_LALT" 3 22,
        .call "MO" [.word "1" 9 10] 6 11 "MO(1)"] 0 30 "MT( MOD_LCTL |MOD_LALT, MO(1))") ∧
    executor.evaluate (.call "LCA_T" [.call "MO" [.word "1" 9 10] 6 11 "MO(1)"] 0 12
        "LCA_T(MO(1))") =
      .ok (.error "LCTL cannot be applied to a momentary layer") ∧
    executor.evaluate (.call "MT" [.word "MOD_HYPR" 3 11, .call "F" [.word "A" 8 9] 6 10 "F(A)"]
        0 18 "MT(MOD_HYPR, F(A))") = .error (.unknownFunction "F" 6) := by
  obtain ⟨-, hparts, hrows, haliases⟩ := masks_agree
  have hspace : ∀ c ∈ " ".toList, Text.isBlank c = true := List.forall_mem_singleton.2 rfl
  have hmask : ofMask? " MOD_LCTL |MOD_LALT" = some [.leftCtrl, .leftAlt] :=
    hparts [⟨" ", .leftCtrl, " ", hspace, hspace⟩, ⟨"", .leftAlt, "", nofun, nofun⟩]
      (List.cons_ne_nil _ _)
  have hhyper : ∀ row ∈ modifierFunctions, row.1 = "HYPR" → ofMask? "MOD_HYPR" = some row.2 := by
    decide +kernel
  refine ⟨hmask, hrows ("LCA", [.leftCtrl, .leftAlt]) (by decide) _ hmask _ _ _ _ _ _ _ _ _,
    by decide +kernel, ?_⟩
  obtain ⟨target, htarget, hname, hagree⟩ := haliases ("ALL_T", "HYPR") (by decide)
  rw [← hagree "MOD_HYPR" (hhyper target htarget hname) _ 0 11 "ALL_T(F(A))"]
  rfl

end Keyboard

end Keyplan
