import Keyplan.Proofs.ModifierChains
import Keyplan.Proofs.Spans

/-!
# Errors are handed on

A function of a keyboard that gets an error gives an error (`isError_apply`), whichever of its
arguments that is and however many there are; with one argument it is the same error
(`apply_error`). An error within an expression is therefore an error of the whole, and calls with
one argument around it change nothing of it. The main statement is `value_error`.
-/

namespace Keyplan

namespace Meaning

/-- A meaning that is an error has a message. -/
lemma exists_of_isError {v : Meaning} (h : v.isError = true) : ∃ message, v = .error message := by
  cases v with
  | error message => exact ⟨message, rfl⟩
  | _ => cases h

/-- Modifiers leave an error as it is. -/
lemma modifyAll_error (message : String) (ms : List Modifier) :
    modifyAll ms (.error message) = .error message := by
  induction ms with
  | nil => rfl
  | cons m ms ih => exact ih

-- If both are errors the one of the layer is handed on, so nothing is said about the message.
/-- A layer or a key that is an error makes the whole one. -/
lemma isError_tapLayer {layer key : Meaning} (h : layer.isError = true ∨ key.isError = true) :
    (layer.tapLayer key).isError = true := by
  rcases h with h | h
  · obtain ⟨message, rfl⟩ := exists_of_isError h
    rfl
  · obtain ⟨message, rfl⟩ := exists_of_isError h
    cases layer <;> rfl

/-- A mask or a key that is an error makes the whole one. -/
lemma isError_tapMask {mask key : Meaning} (h : mask.isError = true ∨ key.isError = true) :
    (mask.tapMask key).isError = true := by
  rcases h with h | h
  · obtain ⟨message, rfl⟩ := exists_of_isError h
    rfl
  · obtain ⟨message, rfl⟩ := exists_of_isError h
    rw [tapMask]
    rcases maskOf_cases "MT" mask with ⟨ms, -, hmask⟩ | ⟨message', hmask⟩
    · rw [hmask]
      show (tap (modifyAll ms (.error message))).isError = true
      rw [modifyAll_error]
      rfl
    · rw [hmask]
      rfl

end Meaning

namespace KeyFunction
open Meaning

/-- A function of one argument hands an error on as it is. -/
lemma apply_error {f : KeyFunction} (h : f.arity = 1) (name message : String) :
    f.apply name [.error message] = .error message := by
  cases f with
  | modify mods => exact modifyAll_error message mods
  | modTap mods =>
    show tap (modifyAll mods (.error message)) = .error message
    rw [modifyAll_error]
    rfl
  | onLayer action => rfl
  | oneShotModifier => rfl
  | layerTap => cases h
  | modTapMask => cases h

/-- A function that gets an error gives one, also when it has the wrong number of arguments. -/
lemma isError_apply (f : KeyFunction) (name : String) {args : List Meaning}
    (h : ∃ v ∈ args, v.isError = true) : (f.apply name args).isError = true := by
  have hsingle : f.arity = 1 → ∀ v, args = [v] → (f.apply name [v]).isError = true := by
    rintro harity v rfl
    obtain ⟨w, hw, herror⟩ := h
    cases List.mem_singleton.1 hw
    obtain ⟨message, rfl⟩ := exists_of_isError herror
    rw [apply_error harity]
    rfl
  have hpair : ∀ {a b}, args = [a, b] → a.isError = true ∨ b.isError = true := by
    rintro a b rfl
    simpa using h
  unfold apply
  split
  · exact hsingle rfl _ rfl
  · exact hsingle rfl _ rfl
  · exact hsingle rfl _ rfl
  · exact hsingle rfl _ rfl
  · exact isError_tapLayer (hpair rfl)
  · exact isError_tapMask (hpair rfl)
  · rfl

end KeyFunction

/-- Where all nodes have values, each has one of them. -/
lemma Executor.exists_fold?_of_mem {α : Type} {x : Executor α} {nodes values n}
    (h : x.foldArgs? nodes = some values) (hn : n ∈ nodes) : ∃ v ∈ values, x.fold? n = some v := by
  induction nodes generalizing values with
  | nil => cases hn
  | cons node nodes ih =>
    rw [foldArgs?] at h
    obtain ⟨v, hv, h⟩ := Option.bind_eq_some_iff.1 h
    obtain ⟨vs, hvs, h⟩ := Option.bind_eq_some_iff.1 h
    obtain rfl := Option.some.inj h
    rcases List.mem_cons.1 hn with rfl | hn
    · exact ⟨v, List.mem_cons_self, hv⟩
    · obtain ⟨w, hw, hfold⟩ := ih hvs hn
      exact ⟨w, List.mem_cons_of_mem _ hw, hfold⟩

namespace Keyboard
open Node

/-- An error within nodes is an error of one of them. -/
lemma exists_isError_of_within {m nodes values w} (h : Within m nodes)
    (hvalues : executor.foldArgs? nodes = some values) (hm : executor.fold? m = some w)
    (hw : w.isError = true) : ∃ v ∈ values, v.isError = true := by
  induction h generalizing values with
  | here hmem =>
    obtain ⟨v, hv, hfold⟩ := Executor.exists_fold?_of_mem hvalues hmem
    cases hm.symm.trans hfold
    exact ⟨w, hv, hw⟩
  | deeper _ hcall ih =>
    obtain ⟨v, hv, hfold⟩ := Executor.exists_fold?_of_mem hvalues hcall
    rw [Executor.fold?] at hfold
    obtain ⟨inner, hinner, hanswer⟩ := Option.bind_eq_some_iff.1 hfold
    obtain ⟨f, -, rfl⟩ := exists_of_answer? hanswer
    exact ⟨_, hv, f.isError_apply _ (ih hinner)⟩

/-- Functions of one argument around a node hand its error on. -/
lemma fold?_of_wrapped_error {names n m message} (h : Wrapped names n m)
    (hnames : ∀ name ∈ names, ∃ f, function? name = some f ∧ f.arity = 1)
    (hn : executor.fold? n = some (.error message)) :
    executor.fold? m = some (.error message) := by
  induction h with
  | nil => exact hn
  | @cons name names n m start stop source h ih =>
    obtain ⟨⟨f, hf, harity⟩, hnames⟩ := List.forall_mem_cons.1 hnames
    have hanswer : executor.answer? name [.error message] = some (.error message) := by
      simp [Executor.answer?, executor, hf, KeyFunction.apply_error harity]
    apply ih hnames
    rw [Executor.fold?, Executor.foldArgs?, hn]
    exact hanswer

/-- An expression with an error in it has an error for its meaning, wherever the error stands. If
only calls of functions with one argument are around it, it is the same error. -/
theorem value_error {n v} (h : executor.value? n = some v) :
    (∀ m w, Within m [n] → executor.value? m = some w → w.isError = true → v.isError = true) ∧
    ∀ names m message, Wrapped names m n →
      (∀ name ∈ names, ∃ f, function? name = some f ∧ f.arity = 1) →
      executor.value? m = some (.error message) → v = .error message := by
  have hfold : ∀ {m w}, executor.value? m = some w → executor.fold? m = some w :=
    fun hm => Executor.fold?_of_evaluate (Executor.value?_eq_some_iff.1 hm)
  refine ⟨?_, ?_⟩
  · intro m w hwithin hm hw
    have hargs : executor.foldArgs? [n] = some [v] := by
      simp [Executor.foldArgs?, hfold h]
    obtain ⟨u, hu, herror⟩ := exists_isError_of_within hwithin hargs (hfold hm) hw
    cases List.mem_singleton.1 hu
    exact herror
  · intro names m message hwrapped hnames hm
    have hn := fold?_of_wrapped_error hwrapped hnames (hfold hm)
    exact Option.some.inj ((hfold h).symm.trans hn)

/-- The layer of `LT(MO(2), KC_A)` is no name of a layer. -/
def mislayered : Node :=
  .call "LT" [.call "MO" [.word "2" 6 7] 3 8 "MO(2)", .word "KC_A" 10 14] 0 15 "LT(MO(2), KC_A)"

/-- The error is that of `LSFT_T(OSL(LT(MO(2), KC_A)))`, and `MT(MOD_LALT, LT(MO(2), KC_A))` is an
error too. -/
theorem value_error_mislayered :
    executor.value? mislayered = some (.error "LT needs a layer name, got a momentary layer") ∧
    executor.value? (mislayered.wrap ["OSL", "LSFT_T"]) =
      some (.error "LT needs a layer name, got a momentary layer") ∧
    (executor.value? (.call "MT" [.word "MOD_LALT" 0 0, mislayered] 0 0 "")).map
      Meaning.isError = some true := by
  have hinner : executor.value? mislayered =
      some (.error "LT needs a layer name, got a momentary layer") := by decide +kernel
  refine ⟨hinner, ?_, ?_⟩
  · obtain ⟨v, hv⟩ := Option.isSome_iff_exists.1
      (show (executor.value? (mislayered.wrap ["OSL", "LSFT_T"])).isSome = true from rfl)
    have hnames : ∀ name ∈ ["OSL", "LSFT_T"], ∃ f, function? name = some f ∧ f.arity = 1 :=
      List.forall_mem_cons.2 ⟨⟨.onLayer .oneShot, by decide +kernel, rfl⟩,
        List.forall_mem_singleton.2 ⟨.modTap [.leftShift], by decide +kernel, rfl⟩⟩
    rw [hv, (value_error hv).2 _ _ _ (wrapped_wrap _ _) hnames hinner]
  · obtain ⟨v, hv⟩ := Option.isSome_iff_exists.1
      (show (executor.value? (.call "MT" [.word "MOD_LALT" 0 0, mislayered] 0 0 "")).isSome = true
        from rfl)
    have hwithin : Within mislayered [.call "MT" [.word "MOD_LALT" 0 0, mislayered] 0 0 ""] :=
      .deeper (.here (List.mem_cons_of_mem _ List.mem_cons_self)) List.mem_cons_self
    rw [hv, Option.map_some, (value_error hv).1 _ _ hwithin hinner rfl]

end Keyboard

end Keyplan
