import Keyplan.Proofs.WellFormed

/-!
# Modifiers around a word

Calls with one argument around a node (`Node.Wrapped`) are evaluated from the inside out. A modifier
that is applied to a keycode or to a chord puts itself behind the modifiers that are there already
(`modify_of_stem?`), so modifier functions around a word put their modifiers one behind the other on
what the word stands for (`value_modifiers`). What a cap shows depends on the modifiers only up to
their order (`shortText_of_perm`, `hint_of_perm`), and so not on the order of the functions
(`value_of_perm`).
-/

namespace Keyplan

namespace Node

/-- The second node is the first one inside calls with one argument each. Their names are given from
the inside out. -/
inductive Wrapped : List String → Node → Node → Prop where
  | nil {n} : Wrapped [] n n
  | cons {name names n m start stop source} :
    Wrapped names (.call name [n] start stop source) m →
    Wrapped (name :: names) n m

/-- Of the calls around a node some are around it, and the others around these. -/
lemma Wrapped.exists_of_append {as bs n m} (h : Wrapped (as ++ bs) n m) :
    ∃ k, Wrapped as n k ∧ Wrapped bs k m := by
  induction as generalizing n with
  | nil => exact ⟨n, .nil, h⟩
  | cons name as ih =>
    cases h with
    | cons h =>
      obtain ⟨k, hk, hm⟩ := ih h
      exact ⟨k, .cons hk, hm⟩

/-- The node inside calls with one argument each, which have no place in a text. -/
def wrap (n : Node) : List String → Node
  | [] => n
  | name :: names => wrap (.call name [n] 0 0 "") names

/-- Wrapping calls around a node gives that node in those calls. -/
lemma wrapped_wrap (names : List String) (n : Node) : Wrapped names n (n.wrap names) := by
  induction names generalizing n with
  | nil => exact .nil
  | cons name names ih => exact .cons (ih _)

end Node

namespace Executor

variable {α : Type} {x : Executor α}

/-- A call with one argument has what its function makes of that argument. -/
lemma result_traceAt_singleton (x : Executor α) {depth : Nat} (h : depth < maxDepth)
    (name : String) (n : Node) (start stop : Nat) (source : String) :
    (x.traceAt depth (.call name [n] start stop source)).result =
      (x.traceAt (depth + 1) n).result.bind fun v => (x.dispatch name start [v]).result := by
  rw [result_traceAt_call x h, result_traceArgs_cons, traceArgs]
  cases (x.traceAt (depth + 1) n).result <;> rfl

/-- A failure inside calls with one argument is the failure of all of them. -/
lemma result_of_wrapped_error {names n m depth e} (h : Node.Wrapped names n m)
    (hdepth : depth + names.length ≤ maxDepth)
    (he : (x.traceAt (depth + names.length) n).result = .error e) :
    (x.traceAt depth m).result = .error e := by
  induction h with
  | nil => exact he
  | @cons name names n m start stop source _ ih =>
    rw [List.length_cons] at hdepth
    have hinner : (x.traceAt (depth + names.length + 1) n).result = .error e := he
    apply ih (by omega)
    rw [result_traceAt_singleton x (by omega), hinner]
    rfl

/-- More calls around a node than may be inside one another are too deep. -/
lemma exists_tooDeep {names n m depth} (h : Node.Wrapped names n m) (hdepth : depth ≤ maxDepth)
    (hlength : maxDepth < depth + names.length) :
    ∃ start, (x.traceAt depth m).result = .error (.nestingTooDeep start maxDepth) := by
  induction h with
  | nil => exact absurd hlength (Nat.not_lt.2 hdepth)
  | @cons name names n m start stop source h ih =>
    rw [List.length_cons] at hlength
    rcases Nat.lt_or_ge maxDepth (depth + names.length) with hlt | hle
    · exact ih hlt
    · -- This is the call that is one too many.
      have heq : depth + names.length = maxDepth := by omega
      refine ⟨start, result_of_wrapped_error h hle ?_⟩
      rw [heq, traceAt, if_pos (Nat.le_refl _)]

end Executor

namespace Modifier

/-- The place of a modifier is where it stands. -/
lemma all_rank (m : Modifier) : all[m.rank]? = some m := by
  cases m <;> rfl

/-- No two modifiers have the same rank. -/
lemma eq_of_rank_eq {a b : Modifier} (h : a.rank = b.rank) : a = b := by
  have hplace := all_rank a
  rw [h, all_rank] at hplace
  exact (Option.some.inj hplace).symm

/-- Sorted modifiers stand in the order of their ranks. -/
lemma pairwise_sort (ms : List Modifier) : (sort ms).Pairwise fun a b => a.rank ≤ b.rank := by
  have htrans : ∀ a b c : Modifier, decide (a.rank ≤ b.rank) = true →
      decide (b.rank ≤ c.rank) = true → decide (a.rank ≤ c.rank) = true := by
    simp only [decide_eq_true_eq]
    exact fun _ _ _ => Nat.le_trans
  have htotal : ∀ a b : Modifier,
      (decide (a.rank ≤ b.rank) || decide (b.rank ≤ a.rank)) = true := by
    simp only [Bool.or_eq_true, decide_eq_true_eq]
    exact fun _ _ => Nat.le_total _ _
  simpa only [sort, decide_eq_true_eq] using List.pairwise_mergeSort htrans htotal ms

/-- Modifiers are shown in one order, however they are given. -/
lemma sort_of_perm {as bs : List Modifier} (h : as.Perm bs) : sort as = sort bs := by
  refine List.Perm.eq_of_pairwise ?_ (pairwise_sort as) (pairwise_sort bs) ?_
  · intro a b _ _ hle hge
    exact eq_of_rank_eq (Nat.le_antisymm hle hge)
  · exact ((List.mergeSort_perm as _).trans h).trans (List.mergeSort_perm bs _).symm

/-- The text of modifiers does not depend on their order. -/
lemma shortText_of_perm {as bs : List Modifier} (h : as.Perm bs) : shortText as = shortText bs := by
  rw [shortText, shortText, sort_of_perm h, h.length_eq]

end Modifier

namespace Chord

/-- Several modifiers, and none, have a short text. -/
lemma textOf_of_length {key : String} {mods : List Modifier} (h : mods.length ≠ 1) :
    textOf key mods = Modifier.shortText mods := by
  unfold textOf
  split
  · exact absurd rfl h
  · rfl

/-- The text of modifiers on a keycode does not depend on their order. -/
lemma textOf_of_perm {key : String} {as bs : List Modifier} (h : as.Perm bs) :
    textOf key as = textOf key bs := by
  by_cases hlength : as.length = 1
  · -- A single modifier has one order.
    obtain ⟨m, rfl⟩ := List.length_eq_one_iff.1 hlength
    rw [List.singleton_perm.1 h]
  · have hlength' : bs.length ≠ 1 := fun h' => hlength (h.length_eq.trans h')
    rw [textOf_of_length hlength, textOf_of_length hlength', Modifier.shortText_of_perm h]

/-- What the cap shows does not depend on the order of the modifiers. -/
lemma hint_of_perm {key : String} {as bs : List Modifier} (h : as.Perm bs) :
    (of key as).hint = (of key bs).hint := by
  simp only [of, textOf_of_perm h]

end Chord

namespace Meaning

/-- What modifiers are applied to: a keycode, and the modifiers on it. The keycode of a modifier is
that modifier on no keycode. -/
def stem? : Meaning → Option (String × List Modifier)
  | .keycode name =>
    match Modifier.ofKeycode? name with
    | some m => some (noKeycode, [m])
    | none => some (name, [])
  | .chord c => some (c.keycode, c.mods)
  | _ => none

/-- A modifier goes behind those that are there. -/
lemma modify_of_stem? {v : Meaning} {key mods} (h : v.stem? = some (key, mods)) (m : Modifier) :
    v.modify m = .chord (.of key (mods ++ [m])) := by
  cases v with
  | keycode name =>
    cases hkey : Modifier.ofKeycode? name with
    | some inner =>
      simp only [stem?, hkey] at h
      cases h
      simp only [modify, hkey]
      rfl
    | none =>
      simp only [stem?, hkey] at h
      cases h
      exact modify_keycode hkey
  | chord c => cases h; rfl
  | _ => cases h

/-- Modifiers on a chord go behind those that it has. -/
lemma modifyAll_chord (key : String) (mods ms : List Modifier) :
    modifyAll ms (.chord (.of key mods)) = .chord (.of key (mods ++ ms)) := by
  unfold modifyAll
  induction ms generalizing mods with
  | nil => rw [List.append_nil]; rfl
  | cons m ms ih =>
    have hstem : stem? (.chord (.of key mods)) = some (key, mods) := rfl
    rw [List.foldl_cons, modify_of_stem? hstem, ih, List.append_assoc]
    rfl

/-- Modifiers go behind those that are there, in their order. -/
lemma modifyAll_of_stem? {v : Meaning} {key mods ms} (h : v.stem? = some (key, mods))
    (hms : ms ≠ []) : v.modifyAll ms = .chord (.of key (mods ++ ms)) := by
  cases ms with
  | nil => exact absurd rfl hms
  | cons m ms =>
    calc v.modifyAll (m :: ms) = (v.modify m).modifyAll ms := rfl
      _ = .chord (.of key (mods ++ [m] ++ ms)) := by
        rw [modify_of_stem? h, modifyAll_chord]
      _ = .chord (.of key (mods ++ m :: ms)) := by simp

/-- Modifiers are put on a meaning one behind the other. -/
lemma modifyAll_append (v : Meaning) (as bs : List Modifier) :
    v.modifyAll (as ++ bs) = (v.modifyAll as).modifyAll bs :=
  List.foldl_append

end Meaning

/-- Modifiers can be applied to every word. -/
lemma Vocabulary.exists_stem? (word : String) :
    ∃ key mods, (meaning word).stem? = some (key, mods) := by
  rcases meaning_cases word with ⟨base, -, -, h⟩ | ⟨h, -⟩
  · exact ⟨base, [.leftShift], by rw [h]; rfl⟩
  · rw [h, Meaning.stem?]
    split
    · exact ⟨_, _, rfl⟩
    · exact ⟨_, _, rfl⟩

namespace Keyboard
open Node Meaning

/-- A row of the table of modifier functions gives two functions, one of them for a tap. -/
lemma function?_of_mem {row} (h : row ∈ modifierFunctions) :
    function? row.1 = some (.modify row.2) ∧
      function? (row.1 ++ "_T") = some (.modTap row.2) := by
  revert row
  decide +kernel

/-- Every modifier function has at least one modifier. -/
lemma ne_nil_of_mem {row} (h : row ∈ modifierFunctions) : row.2 ≠ [] := by
  revert row
  decide

/-- A known function gives what it makes of its arguments. -/
lemma result_dispatch {name f} (hf : function? name = some f) (start : Nat)
    (args : List Meaning) :
    (executor.dispatch name start args).result = .ok (f.apply name args) := by
  have hfunction : executor.function? name = some (f.apply name) := by
    simp [executor, hf]
  simp [Executor.dispatch, hfunction]

/-- A call with one argument has the meaning that the function gives it. -/
lemma result_call {depth n v name f} (hdepth : depth < maxDepth)
    (hv : (executor.traceAt (depth + 1) n).result = .ok v) (hf : function? name = some f)
    (start stop : Nat) (source : String) :
    (executor.traceAt depth (.call name [n] start stop source)).result =
      .ok (f.apply name [v]) := by
  rw [Executor.result_traceAt_singleton _ hdepth, hv]
  exact result_dispatch hf start [v]

/-- Modifier functions around a node apply their modifiers one after the other. -/
lemma result_of_wrapped {rows : List (String × List Modifier)} {n m depth v}
    (hrows : ∀ row ∈ rows, row ∈ modifierFunctions) (h : Wrapped (rows.map Prod.fst) n m)
    (hdepth : depth + rows.length ≤ maxDepth)
    (hv : (executor.traceAt (depth + rows.length) n).result = .ok v) :
    (executor.traceAt depth m).result = .ok (v.modifyAll (rows.flatMap Prod.snd)) := by
  induction rows generalizing n v with
  | nil => cases h; exact hv
  | cons row rows ih =>
    obtain ⟨hrow, hrows⟩ := List.forall_mem_cons.1 hrows
    rw [List.length_cons] at hdepth
    cases h with
    | @cons _ _ _ _ start stop source h =>
      have hinner : (executor.traceAt (depth + rows.length + 1) n).result = .ok v := hv
      have hcall := result_call (by omega) hinner (function?_of_mem hrow).1 start stop source
      rw [ih hrows h (by omega) hcall, List.flatMap_cons, modifyAll_append]
      rfl

/-- A chain of modifier functions has at least one modifier. -/
lemma flatMap_ne_nil {rows} (hrows : ∀ row ∈ rows, row ∈ modifierFunctions) (hne : rows ≠ []) :
    rows.flatMap Prod.snd ≠ [] := by
  cases rows with
  | nil => exact absurd rfl hne
  | cons row rows =>
    rw [List.flatMap_cons]
    exact List.append_ne_nil_of_left_ne_nil (ne_nil_of_mem (hrows row List.mem_cons_self)) _

/-- Modifier functions around a word have the meaning of a chord. -/
lemma value?_of_wrapped {rows word start stop m key mods}
    (hrows : ∀ row ∈ rows, row ∈ modifierFunctions) (hne : rows ≠ [])
    (hlength : rows.length ≤ maxDepth) (h : Wrapped (rows.map Prod.fst) (.word word start stop) m)
    (hstem : (Vocabulary.meaning word).stem? = some (key, mods)) :
    executor.value? m = some (.chord (.of key (mods ++ rows.flatMap Prod.snd))) := by
  have hword : (executor.traceAt (0 + rows.length) (.word word start stop)).result =
      .ok (Vocabulary.meaning word) := rfl
  have hresult := result_of_wrapped hrows h (by omega) hword
  rw [modifyAll_of_stem? hstem (flatMap_ne_nil hrows hne)] at hresult
  exact Executor.value?_eq_some_iff.2 hresult

/-- The form of a modifier function that applies its modifiers while the key is held makes the chord
of the modifier function act so. -/
lemma value?_of_wrapped_tap {front last word start stop m key mods}
    (hrows : ∀ row ∈ front ++ [last], row ∈ modifierFunctions)
    (hlength : (front ++ [last]).length ≤ maxDepth)
    (h : Wrapped (front.map Prod.fst ++ [last.1 ++ "_T"]) (.word word start stop) m)
    (hstem : (Vocabulary.meaning word).stem? = some (key, mods)) :
    executor.value? m =
      some (tap (.chord (.of key (mods ++ (front ++ [last]).flatMap Prod.snd)))) := by
  obtain ⟨hfront, hlast⟩ := List.forall_mem_append.1 hrows
  obtain ⟨hlast, -⟩ := List.forall_mem_cons.1 hlast
  obtain ⟨k, hk, hm⟩ := h.exists_of_append
  rw [List.length_append, List.length_singleton] at hlength
  have hword : (executor.traceAt (1 + front.length) (.word word start stop)).result =
      .ok (Vocabulary.meaning word) := rfl
  have hinner := result_of_wrapped hfront hk (by omega) hword
  cases hm with
  | @cons _ _ _ _ start stop source hm =>
    cases hm
    have hcall := result_call (by omega) hinner (function?_of_mem hlast).2 start stop source
    have happly : (KeyFunction.modTap last.2).apply (last.1 ++ "_T")
        [(Vocabulary.meaning word).modifyAll (front.flatMap Prod.snd)] =
        tap ((Vocabulary.meaning word).modifyAll ((front ++ [last]).flatMap Prod.snd)) := by
      rw [List.flatMap_append, modifyAll_append, List.flatMap_singleton]
      rfl
    rw [happly, modifyAll_of_stem? hstem (flatMap_ne_nil hrows (by simp))] at hcall
    exact Executor.value?_eq_some_iff.2 hcall

/-- Modifier functions around a word put their modifiers, from the inside out, behind those that the
word has. If the outermost one has its form with `_T`, the key acts as these modifiers while it is
held and sends the same keycode; without a keycode the meaning is the same chord. -/
theorem value_modifiers {front last word start stop m start' stop' tapped}
    (hrows : ∀ row ∈ front ++ [last], row ∈ modifierFunctions)
    (hlength : (front ++ [last]).length ≤ maxDepth)
    (h : Wrapped ((front ++ [last]).map Prod.fst) (.word word start stop) m)
    (htapped : Wrapped (front.map Prod.fst ++ [last.1 ++ "_T"]) (.word word start' stop') tapped) :
    ∃ key base mods, (Vocabulary.meaning word).stem? = some (key, base) ∧
      mods = base ++ (front ++ [last]).flatMap Prod.snd ∧
      executor.value? m = some (.chord (.of key mods)) ∧
      (key ≠ noKeycode → executor.value? tapped = some (.modTap ⟨key, mods,
        modTapMark ++ Modifier.shortText mods,
        .split (keyLabel key) (modTapMark ++ Modifier.shortText mods)⟩)) ∧
      (key = noKeycode → executor.value? tapped = some (.chord (.of key mods))) := by
  obtain ⟨key, base, hstem⟩ := Vocabulary.exists_stem? word
  have htap := value?_of_wrapped_tap hrows hlength htapped hstem
  refine ⟨key, base, _, hstem, rfl, value?_of_wrapped hrows (by simp) hlength h hstem, ?_, ?_⟩
  · intro hne
    rw [htap]
    exact congrArg some (if_neg hne)
  · intro heq
    rw [htap]
    exact congrArg some (if_pos heq)

/-- The symbol brings its shift with it, and the outer function has three modifiers. -/
theorem value_modifiers_symbol :
    executor.value? ((Node.word "KC_TILDE" 0 8).wrap ["LCTL", "LCAG"]) =
      some (.chord (.of "KC_GRV" [.leftShift, .leftCtrl, .leftCtrl, .leftAlt, .leftGui])) ∧
    executor.value? ((Node.word "KC_TILDE" 0 8).wrap ["LCTL", "LCAG_T"]) =
      some (.modTap ⟨"KC_GRV", [.leftShift, .leftCtrl, .leftCtrl, .leftAlt, .leftGui],
        "•C+C+S+A+W", .split "GRV" "•C+C+S+A+W"⟩) := by
  have hrows : ∀ row ∈ [("LCTL", [Modifier.leftCtrl])] ++
      [("LCAG", [.leftCtrl, .leftAlt, .leftGui])], row ∈ modifierFunctions := by decide
  obtain ⟨key, base, mods, hstem, hmods, hchord, htap, -⟩ := value_modifiers hrows (by decide)
    (wrapped_wrap ["LCTL", "LCAG"] (.word "KC_TILDE" 0 8))
    (wrapped_wrap ["LCTL", "LCAG_T"] (.word "KC_TILDE" 0 8))
  have hsymbol : (Vocabulary.meaning "KC_TILDE").stem? = some ("KC_GRV", [.leftShift]) := rfl
  cases hsymbol.symm.trans hstem
  have htext : Modifier.shortText [.leftShift, .leftCtrl, .leftCtrl, .leftAlt, .leftGui] =
      "C+C+S+A+W" := by cbv
  subst hmods
  refine ⟨hchord, ?_⟩
  rw [htap (by decide)]
  simp only [List.flatMap_cons, List.flatMap_nil, List.cons_append, List.nil_append, htext]
  rfl

/-- What a cap shows does not depend on the order of modifier functions around a word. If there are
some, and no more than may be inside one another, both orders give chords with one keycode, one text
and one hint, whose modifiers are the same up to order; with more, both are too deep. The text of
modifiers never depends on their order. -/
theorem value_of_perm {rows rows' word start stop m start' stop' m'}
    (hrows : ∀ row ∈ rows, row ∈ modifierFunctions) (hperm : rows.Perm rows')
    (h : Wrapped (rows.map Prod.fst) (.word word start stop) m)
    (h' : Wrapped (rows'.map Prod.fst) (.word word start' stop') m') :
    (rows ≠ [] → rows.length ≤ maxDepth → ∃ c c', executor.value? m = some (.chord c) ∧
      executor.value? m' = some (.chord c') ∧ c.keycode = c'.keycode ∧ c.text = c'.text ∧
      c.hint = c'.hint ∧ c.mods.Perm c'.mods) ∧
    (maxDepth < rows.length → ∃ offset offset',
      executor.evaluate m = .error (.nestingTooDeep offset maxDepth) ∧
      executor.evaluate m' = .error (.nestingTooDeep offset' maxDepth)) ∧
    ∀ as bs : List Modifier, as.Perm bs → Modifier.shortText as = Modifier.shortText bs := by
  refine ⟨?_, ?_, fun _ _ => Modifier.shortText_of_perm⟩
  · intro hne hlength
    obtain ⟨key, base, hstem⟩ := Vocabulary.exists_stem? word
    have hrows' : ∀ row ∈ rows', row ∈ modifierFunctions :=
      fun row hrow => hrows row (hperm.mem_iff.2 hrow)
    have hne' : rows' ≠ [] := fun hnil => hne (List.perm_nil.1 (hnil ▸ hperm))
    have hlength' : rows'.length ≤ maxDepth := by rwa [← hperm.length_eq]
    have hmods : (base ++ rows.flatMap Prod.snd).Perm (base ++ rows'.flatMap Prod.snd) :=
      (hperm.flatMap_right _).append_left base
    exact ⟨_, _, value?_of_wrapped hrows hne hlength h hstem,
      value?_of_wrapped hrows' hne' hlength' h' hstem, rfl, Chord.textOf_of_perm hmods,
      Chord.hint_of_perm hmods, hmods⟩
  · intro hlength
    obtain ⟨offset, hdeep⟩ := Executor.exists_tooDeep (x := executor) h (Nat.zero_le _)
      (by simpa using hlength)
    obtain ⟨offset', hdeep'⟩ := Executor.exists_tooDeep (x := executor) h' (Nat.zero_le _)
      (by simpa [← hperm.length_eq] using hlength)
    exact ⟨offset, offset', hdeep, hdeep'⟩

/-- Two functions in both orders: the modifiers are in different orders, and the caps show the
same. -/
theorem value_of_perm_swapped :
    executor.value? ((Node.word "KC_A" 0 4).wrap ["LGUI", "LSA"]) =
      some (.chord (.of "KC_A" [.leftGui, .leftShift, .leftAlt])) ∧
    executor.value? ((Node.word "KC_A" 0 4).wrap ["LSA", "LGUI"]) =
      some (.chord (.of "KC_A" [.leftShift, .leftAlt, .leftGui])) ∧
    (Chord.of "KC_A" [.leftGui, .leftShift, .leftAlt]).text =
      (Chord.of "KC_A" [.leftShift, .leftAlt, .leftGui]).text ∧
    (Chord.of "KC_A" [.leftGui, .leftShift, .leftAlt]).hint =
      (Chord.of "KC_A" [.leftShift, .leftAlt, .leftGui]).hint := by
  have hrows : ∀ row ∈ [("LGUI", [Modifier.leftGui]), ("LSA", [.leftShift, .leftAlt])],
      row ∈ modifierFunctions := by decide
  obtain ⟨c, c', hc, hc', -, htext, hhint, -⟩ := (value_of_perm hrows (.swap _ _ [])
    (wrapped_wrap ["LGUI", "LSA"] (.word "KC_A" 0 4))
    (wrapped_wrap ["LSA", "LGUI"] (.word "KC_A" 0 4))).1 (List.cons_ne_nil _ _) (by decide)
  have hm : executor.value? ((Node.word "KC_A" 0 4).wrap ["LGUI", "LSA"]) =
      some (.chord (.of "KC_A" [.leftGui, .leftShift, .leftAlt])) := rfl
  have hm' : executor.value? ((Node.word "KC_A" 0 4).wrap ["LSA", "LGUI"]) =
      some (.chord (.of "KC_A" [.leftShift, .leftAlt, .leftGui])) := rfl
  cases hm.symm.trans hc
  cases hm'.symm.trans hc'
  exact ⟨hm, hm', htext, hhint⟩

/-- One modifier function more than may be inside one another gives no chord. -/
theorem value_wrap_tooDeep :
    (∀ row ∈ List.replicate 65 ("LSFT", [Modifier.leftShift]), row ∈ modifierFunctions) ∧
    Wrapped (List.replicate 65 "LSFT") (.word "KC_A" 0 4)
      ((Node.word "KC_A" 0 4).wrap (List.replicate 65 "LSFT")) ∧
    executor.evaluate ((Node.word "KC_A" 0 4).wrap (List.replicate 65 "LSFT")) =
      .error (.nestingTooDeep 0 64) ∧
    executor.value? ((Node.word "KC_A" 0 4).wrap (List.replicate 65 "LSFT")) = none := by
  refine ⟨?_, wrapped_wrap _ _, rfl, rfl⟩
  intro row hrow
  rw [List.eq_of_mem_replicate hrow]
  decide

end Keyboard

end Keyplan
