import Keyplan.Proofs.WellFormed

/-!
# Spellings of words

A word may be replaced by its usual spelling wherever it stands. The two tables of spellings are
chained and looked up once, so this rests on what their rows have in common: what both words of each
row share, a word shares with its usual spelling (`Vocabulary.apply_canonical`). In whatever calls
words stand, others of the same value can take their places (`evaluate_mapWords`), the two words of
a row among them (`evaluate_mapWords_row`). The main statement is `evaluate_canonical`.
-/

namespace Keyplan

namespace Node

mutual

/-- The expression with other words in the same places. -/
def mapWords (f : String → String) : Node → Node
  | .word content start stop => .word (f content) start stop
  | .call name args start stop source => .call name (mapWordsArgs f args) start stop source

/-- Arguments with other words in the same places. -/
def mapWordsArgs (f : String → String) : List Node → List Node
  | [] => []
  | arg :: args => arg.mapWords f :: mapWordsArgs f args

end

end Node

namespace Executor

variable {α : Type} {x : Executor α} {f : String → String}

mutual

/-- Words of the same value make no difference to a node, be it too deep or not. -/
theorem result_traceAt_mapWords (h : ∀ word, x.word (f word) = x.word word) :
    ∀ (n : Node) (depth : Nat),
      (x.traceAt depth (n.mapWords f)).result = (x.traceAt depth n).result
  | .word content _ _, _ => by
    rw [Node.mapWords, traceAt, traceAt, h]
  | .call name args start stop source, depth => by
    rw [Node.mapWords]
    rcases Nat.lt_or_ge depth maxDepth with hdepth | hdepth
    · rw [result_traceAt_call x hdepth, result_traceAt_call x hdepth,
        result_traceArgs_mapWords h args]
    · rw [traceAt, if_pos hdepth, traceAt, if_pos hdepth]

/-- Words of the same value make no difference to arguments. -/
theorem result_traceArgs_mapWords (h : ∀ word, x.word (f word) = x.word word) :
    ∀ (args : List Node) (depth : Nat),
      (x.traceArgs depth (Node.mapWordsArgs f args)).result = (x.traceArgs depth args).result
  | [], _ => by
    rw [Node.mapWordsArgs]
  | arg :: args, depth => by
    rw [Node.mapWordsArgs, result_traceArgs_cons, result_traceArgs_cons,
      result_traceAt_mapWords h arg, result_traceArgs_mapWords h args]

end

/-- An expression has the same value, or fails in the same way, with words of the same value. -/
lemma evaluate_mapWords (h : ∀ word, x.word (f word) = x.word word) (n : Node) :
    x.evaluate (n.mapWords f) = x.evaluate n :=
  result_traceAt_mapWords h n 0

end Executor

namespace Vocabulary

/-- What both words of each row of a table share, a word shares with what the table has for it. -/
lemma apply_getD_find? {α : Type} {g : String → α} {table : List (String × String)}
    (h : ∀ row ∈ table, g row.2 = g row.1) (word : String) :
    g ((find? table word).getD word) = g word := by
  cases hfind : find? table word with
  | none => rfl
  | some v => exact h (word, v) (mem_of_find? hfind)

/-- What both words of each row of the two tables of spellings share, a word shares with its usual
spelling. -/
lemma apply_canonical {α : Type} {g : String → α}
    (h : ∀ row ∈ aliases ++ symbolNames, g row.2 = g row.1) (word : String) :
    g (canonical word) = g word := by
  obtain ⟨haliases, hnames⟩ := List.forall_mem_append.1 h
  rw [canonical, apply_getD_find? hnames, apply_getD_find? haliases]

/-- The usual spelling of a word has the meaning of the word. -/
lemma meaning_canonical (word : String) : meaning (canonical word) = meaning word := by
  unfold meaning
  simp only [canonical_canonical]

/-- The usual spelling of a modifier key is the same modifier key. No other word becomes one. -/
lemma ofKeycode?_canonical (word : String) :
    Modifier.ofKeycode? (canonical word) = Modifier.ofKeycode? word := by
  refine apply_canonical ?_ word
  decide +kernel

/-- A word means a keycode that stands for itself, as it is or with shift. -/
lemma exists_keycode_meaning (word : String) :
    ∃ key, meaning key = .keycode key ∧
      (meaning word = .keycode key ∨ meaning word = .chord (.of key [.leftShift])) := by
  rcases meaning_cases word with ⟨base, -, hself, h⟩ | ⟨h, hself⟩
  · exact ⟨base, hself, .inr h⟩
  · exact ⟨canonical word, hself, .inl h⟩

/-- Both words of a row of the tables have one usual spelling. -/
lemma canonical_row : ∀ row ∈ aliases ++ symbolNames, canonical row.2 = canonical row.1 := by
  decide +kernel

/-- Both words of a row of the tables have one meaning. -/
lemma meaning_row {row : String × String} (h : row ∈ aliases ++ symbolNames) :
    meaning row.2 = meaning row.1 := by
  rw [← meaning_canonical row.2, canonical_row row h, meaning_canonical]

end Vocabulary

namespace Keyboard
open Vocabulary

/-- An expression keeps its value, or its error, when the two words of a row of the tables change
places in it, for any rows. -/
lemma evaluate_mapWords_row {f : String → String}
    (h : ∀ word, f word = word ∨ (word, f word) ∈ aliases ++ symbolNames ∨
      (f word, word) ∈ aliases ++ symbolNames) (n : Node) :
    executor.evaluate (n.mapWords f) = executor.evaluate n := by
  refine Executor.evaluate_mapWords (fun word => ?_) n
  change meaning (f word) = meaning word
  rcases h word with hsame | hrow | hrow
  · rw [hsame]
  · have hmeaning := meaning_row hrow
    exact hmeaning
  · have hmeaning := meaning_row hrow
    exact hmeaning.symm

/-- The usual spelling of a word can stand for the word everywhere. It is its own usual spelling, it
has the same meaning, it is the same modifier key, and the keycode that the word means stands for
itself. An expression keeps its value, or its error, when all its words get their usual spelling; so
two expressions that differ in spellings only have the same value or the same error. -/
theorem evaluate_canonical :
    (∀ word, canonical (canonical word) = canonical word ∧
      meaning (canonical word) = meaning word ∧
      (∃ key, meaning key = .keycode key ∧
        (meaning word = .keycode key ∨ meaning word = .chord (.of key [.leftShift]))) ∧
      Modifier.ofKeycode? word = Modifier.ofKeycode? (canonical word)) ∧
    (∀ n : Node, executor.evaluate (n.mapWords canonical) = executor.evaluate n) ∧
    ∀ m n : Node, m.mapWords canonical = n.mapWords canonical →
      executor.evaluate m = executor.evaluate n := by
  have hsame : ∀ n : Node, executor.evaluate (n.mapWords canonical) = executor.evaluate n :=
    Executor.evaluate_mapWords meaning_canonical
  refine ⟨?_, hsame, ?_⟩
  · intro word
    exact ⟨canonical_canonical word, meaning_canonical word, exists_keycode_meaning word,
      (ofKeycode?_canonical word).symm⟩
  · intro m n h
    calc executor.evaluate m = executor.evaluate (m.mapWords canonical) := (hsame m).symm
      _ = executor.evaluate (n.mapWords canonical) := by rw [h]
      _ = executor.evaluate n := hsame n

/-- A key under a modifier, a modifier key under another, and a symbol behind an unknown function,
in two spellings. -/
theorem evaluate_canonical_spellings :
    executor.evaluate (.call "LCTL" [.word "KC_ESCAPE" 5 14] 0 15 "LCTL(KC_ESCAPE)") =
      executor.evaluate (.call "LCTL" [.word "KC_ESC" 5 14] 0 15 "LCTL(KC_ESCAPE)") ∧
    executor.evaluate (.call "LCTL" [.word "KC_ESCAPE" 5 14] 0 15 "LCTL(KC_ESCAPE)") =
      .ok (.chord (.of "KC_ESC" [.leftCtrl])) ∧
    executor.evaluate (.call "LALT" [.word "KC_LSHIFT" 5 14] 0 15 "LALT(KC_LSHIFT)") =
      executor.evaluate (.call "LALT" [.word "KC_LSFT" 5 14] 0 15 "LALT(KC_LSHIFT)") ∧
    executor.evaluate (.call "LT" [.word "1" 3 4, .call "F" [.word "KC_GT" 8 13] 6 14 "F(KC_GT)"]
        0 15 "LT(1, F(KC_GT))") =
      executor.evaluate (.call "LT" [.word "1" 3 4,
        .call "F" [.word "KC_RIGHT_ANGLE_BRACKET" 8 13] 6 14 "F(KC_GT)"] 0 15 "LT(1, F(KC_GT))") ∧
    executor.evaluate (.call "LT" [.word "1" 3 4, .call "F" [.word "KC_GT" 8 13] 6 14 "F(KC_GT)"]
        0 15 "LT(1, F(KC_GT))") = .error (.unknownFunction "F" 6) := by
  obtain ⟨-, -, hsame⟩ := evaluate_canonical
  have hescape : canonical "KC_ESCAPE" = canonical "KC_ESC" := by decide +kernel
  have hshift : canonical "KC_LSHIFT" = canonical "KC_LSFT" := by decide +kernel
  have hangle : canonical "KC_GT" = canonical "KC_RIGHT_ANGLE_BRACKET" := by decide +kernel
  refine ⟨hsame _ _ ?_, by decide +kernel, hsame _ _ ?_, hsame _ _ ?_, by decide +kernel⟩
  · simp only [Node.mapWords, Node.mapWordsArgs, hescape]
  · simp only [Node.mapWords, Node.mapWordsArgs, hshift]
  · simp only [Node.mapWords, Node.mapWordsArgs, hangle]

end Keyboard

end Keyplan
