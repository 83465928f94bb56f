import Keyplan.Edit
import Keyplan.Proofs.Relocation
import Keyplan.Regex.Engine

/-!
# What stands in front of a keymap

A text reads the same behind any other text that a search walks over, at moved positions. This holds
of failures as well, so it is said of the readers themselves: at moved positions the reader of an
argument list takes the same step (`Scan.step_add`) and makes the same run (`Scan.run_add`), and the
reader of layers finds the same layers or the same error (`readLayers_add`). `parse_of_passed` puts
these behind a text that is `Passed`, and `setKeyText_of_passed` says that an edit then leaves that
text alone. The main statement is `parse_preamble`.
-/

namespace Keyplan

namespace ParseError

/-- The error with the place that it points at moved. Numbers of layers, keys and parentheses
stay. -/
def mapPos (f : Nat → Nat) : ParseError → ParseError
  | .missingToken offset => .missingToken (f offset)
  | .whitespaceInToken offset => .whitespaceInToken (f offset)
  | .missingFunctionName offset => .missingFunctionName (f offset)
  | .unexpectedText offset => .unexpectedText (f offset)
  | .nestingTooDeep offset limit => .nestingTooDeep (f offset) limit
  | e => e

/-- The place of an error moves along. -/
@[simp] lemma offset?_mapPos (f : Nat → Nat) (e : ParseError) :
    (e.mapPos f).offset? = e.offset?.map f := by
  cases e <;> rfl

/-- The outcome of a reader with its error moved and its result changed. -/
def mapOutcome {α β : Type} (f : Nat → Nat) (g : α → β) :
    Except ParseError α → Except ParseError β
  | .error e => .error (e.mapPos f)
  | .ok a => .ok (g a)

end ParseError

open ParseError (mapOutcome)

namespace Pending

/-- The open argument with its positions moved. -/
def mapPos (f : Nat → Nat) : Pending → Pending
  | .none => .none
  | .word start content since => .word (f start) content since
  | .call node => .call (node.mapPos f)

/-- Behind a text that was put in front, a pending node ends in the same way. -/
lemma close_add (d pos : Nat) (p : Pending) :
    (p.mapPos (· + d)).close (pos + d) =
      mapOutcome (· + d) (Node.mapPos (· + d)) (p.close pos) := by
  cases p with
  | none => simp [mapPos, close, mapOutcome, ParseError.mapPos, Nat.add_right_comm]
  | word start content since => rfl
  | call node => rfl

/-- Behind a text that was put in front, a pending node grows in the same way. -/
lemma extend_add (d pos : Nat) (c : Char) (since : List Lexeme) (p : Pending) :
    (p.mapPos (· + d)).extend (pos + d) c since =
      mapOutcome (· + d) (mapPos (· + d)) (p.extend pos c since) := by
  cases p with
  | none => rfl
  | word start content first =>
    -- whether the character follows the word directly is a matter of distances only
    have hdirect : start + d + content.utf8ByteSize = pos + d ↔
        start + content.utf8ByteSize = pos := by omega
    simp only [mapPos, extend, hdirect]
    split
    · rfl
    · rfl
  | call node => rfl

end Pending

/-- The open call with its positions moved. -/
def Frame.mapPos (f : Nat → Nat) (frame : Frame) : Frame :=
  { frame with args := frame.args.map (Node.mapPos f), start := f frame.start }

namespace Scan

/-- What the reader has seen, with all positions moved. -/
def mapPos (f : Nat → Nat) (s : Scan) : Scan :=
  ⟨s.depth, s.args.map (Node.mapPos f), s.pending.mapPos f, s.outer.map (Frame.mapPos f)⟩

/-- The outcome of one lexeme with all positions moved. -/
def Step.mapPos (f : Nat → Nat) : Step → Step
  | .more s => .more (s.mapPos f)
  | .done args => .done (args.map (Node.mapPos f))

/-- At moved positions the reader takes the same step. -/
lemma step_add (d : Nat) (s : Scan) (pos : Nat) (x : Lexeme) (rest : List Lexeme) :
    (s.mapPos (· + d)).step (pos + d) x rest =
      mapOutcome (· + d) (Step.mapPos (· + d)) (s.step pos x rest) := by
  obtain ⟨depth, args, pending, outer⟩ := s
  cases x with
  | blockComment body closed => rfl
  | lineComment body => rfl
  | blank c => rfl
  | continuation carriage => cases pending <;> rfl
  | comma =>
    simp only [step, mapPos, Pending.close_add]
    cases pending.close pos with
    | error e => rfl
    | ok node => simp [mapOutcome, Step.mapPos, mapPos, Pending.mapPos]
  | closing =>
    simp only [step, mapPos, Pending.close_add]
    cases pending.close pos with
    | error e => rfl
    | ok node =>
      cases outer with
      | nil => simp [mapOutcome, Step.mapPos]
      | cons frame outer =>
        -- the call that ends here is cut out of the same lexemes
        simp [mapOutcome, Step.mapPos, mapPos, Pending.mapPos, Frame.close, Frame.mapPos,
          Node.mapPos, Nat.add_right_comm]
  | opening =>
    cases pending with
    | none => simp [step, mapPos, Pending.mapPos, mapOutcome, ParseError.mapPos, Nat.add_right_comm]
    | call node => rfl
    | word start content since =>
      by_cases hdepth : maxDepth ≤ depth
      · simp only [step, mapPos, Pending.mapPos, hdepth, if_true]
        rfl
      · simp only [step, mapPos, Pending.mapPos, hdepth, if_false]
        rfl
  | other c =>
    simp only [step, mapPos, Pending.extend_add]
    cases pending.extend pos c (.other c :: rest) with
    | error e => rfl
    | ok pending => rfl

/-- At moved positions the reader makes the same run. -/
theorem run_add (d : Nat) (s : Scan) (pos : Nat) (xs : List Lexeme) :
    (s.mapPos (· + d)).run (pos + d) xs = mapOutcome (· + d)
      (fun read => (read.1.map (Node.mapPos (· + d)), read.2.1 + d, read.2.2)) (s.run pos xs) := by
  induction xs generalizing s pos with
  | nil => rfl
  | cons x rest ih =>
    rw [run, run, step_add]
    cases s.step pos x rest with
    | error e => rfl
    | ok next =>
      cases next with
      | done args => simp [mapOutcome, Step.mapPos, Nat.add_right_comm]
      | more s' =>
        simp only [mapOutcome, Step.mapPos]
        rw [Nat.add_right_comm]
        exact ih s' _

end Scan

/-- An argument list that stands elsewhere is read the same, also where it cannot be read. -/
lemma readArguments_add (d depth pos : Nat) (cs : List Char) :
    readArguments depth (pos + d) cs = mapOutcome (· + d)
      (fun read => (read.1.map (Node.mapPos (· + d)), read.2.1 + d, read.2.2))
      (readArguments depth pos cs) := by
  -- a reader that has seen nothing has no positions to move
  have hrun : Scan.run { depth } (pos + d) (Lexeme.lex .code cs) = _ :=
    Scan.run_add d { depth } pos _
  rw [readArguments, readArguments, hrun]
  cases Scan.run { depth } pos (Lexeme.lex .code cs) with
  | error e => rfl
  | ok read => rfl

namespace Keymap

/-- Layers that stand elsewhere are read the same, also where they cannot be read. -/
theorem readLayers_add (d pos : Nat) (cs : List Char) :
    readLayers (pos + d) cs = mapOutcome (· + d)
      (fun read => (read.1.map (List.map (Node.mapPos (· + d))), read.2 + d))
      (readLayers pos cs) := by
  fun_induction readLayers pos cs with
  | case1 pos cs e hargs =>
    rw [readLayers_eq, readArguments_add, hargs]
    rfl
  | case2 pos cs keys stop left hargs hnone =>
    rw [readLayers_eq, readArguments_add, hargs]
    simp only [mapOutcome]
    rw [Invocation.search_add, hnone]
    rfl
  | case3 pos cs keys stop left hargs next rest hnext e hrest ih =>
    rw [readLayers_eq, readArguments_add, hargs]
    simp only [mapOutcome]
    rw [Invocation.search_add, hnext]
    simp only [Option.map_some]
    rw [ih, hrest]
    rfl
  | case4 pos cs keys stop left hargs next rest hnext layers last hrest ih =>
    rw [readLayers_eq, readArguments_add, hargs]
    simp only [mapOutcome]
    rw [Invocation.search_add, hnext]
    simp only [Option.map_some]
    rw [ih, hrest]
    rfl

/-- Moving all nodes leaves the layer that does not fit. -/
lemma firstMismatch?_map (f : Nat → Nat) (g : Node → Node) (expected index : Nat)
    (layers : List (List Node)) :
    firstMismatch? expected index (layers.map (List.map g)) =
      (firstMismatch? expected index layers).map (ParseError.mapPos f) := by
  induction layers generalizing index with
  | nil => rfl
  | cons keys layers ih =>
    rw [List.map_cons, firstMismatch?, firstMismatch?, List.length_map]
    split
    · exact ih _
    · rfl

/-- What is wrong with the numbers of keys does not depend on where the keys stand. -/
lemma countError?_map (f : Nat → Nat) (g : Node → Node) (layers : List (List Node))
    (keys : Option Nat) :
    countError? (layers.map (List.map g)) keys =
      (countError? layers keys).map (ParseError.mapPos f) := by
  have hexpected : ((layers.map (List.map g)).head?.map List.length).getD 0 =
      (layers.head?.map List.length).getD 0 := by
    cases layers <;> simp
  simp only [countError?, hexpected, firstMismatch?_map f]
  cases firstMismatch? ((layers.head?.map List.length).getD 0) 0 layers with
  | some e => rfl
  | none =>
    cases keys with
    | none => rfl
    | some n =>
      simp only [Option.map_none]
      split
      · rfl
      · rfl

/-- The keymap `d` bytes further on, with the settings that are read there. -/
def moved (d : Nat) (settings : Settings) (m : Keymap) : Keymap :=
  ⟨m.keyword, m.layers.map (List.map (Node.mapPos (· + d))), m.stop + d, settings⟩

/-- A moved keymap has the same keys, moved. -/
@[simp] lemma key?_moved (d : Nat) (settings : Settings) (m : Keymap) (layer key : Nat) :
    (m.moved d settings).key? layer key = (m.key? layer key).map (Node.mapPos (· + d)) := by
  simp only [key?, moved, List.getElem?_map]
  cases m.layers[layer]? with
  | none => rfl
  | some keys => simp

/-- A text behind one that a search walks over is read as if it stood alone, at moved positions.
Only the settings may come from the text in front. -/
theorem parse_of_passed [PatternEngine] {p : String} (hp : Invocation.Passed p.toList) (t : String)
    (keys : Option Nat) :
    ∃ settings, parse (p ++ t) keys =
      mapOutcome (· + p.utf8ByteSize) (moved p.utf8ByteSize settings) (parse t keys) := by
  have hsearch := Invocation.search_add p.utf8ByteSize none 0 t.toList
  rw [← Text.size_toList, ← hp, ← String.toList_append, Text.size_toList] at hsearch
  cases hfirst : Invocation.search 0 none 0 t.toList with
  | none =>
    rw [hfirst] at hsearch
    refine ⟨{}, ?_⟩
    simp only [parse, hfirst, hsearch]
    rfl
  | some found =>
    obtain ⟨first, rest⟩ := found
    rw [hfirst] at hsearch
    refine ⟨Settings.ofPreamble (Text.takeBytes (first.start + p.utf8ByteSize) (p ++ t).toList), ?_⟩
    simp only [parse, hfirst, hsearch, Option.map_some, readLayers_add]
    cases readLayers first.argsStart rest with
    | error e => rfl
    | ok read =>
      obtain ⟨layers, stop⟩ := read
      simp only [mapOutcome, countError?_map (· + p.utf8ByteSize)]
      cases countError? layers keys with
      | some e => rfl
      | none => rfl

/-- A text in front that has no layout does not matter. Joined to it by a line feed, a text is a
keymap if it is one alone: with the same keyword, and with the same layers at moved positions. If it
is none, the error is the same, with the same numbers and at the moved place if it has one. -/
theorem parse_preamble [PatternEngine] {p : String} (hp : Invocation.find? p 0 = .ok none)
    (t : String) (keys : Option Nat) :
    ((∃ m', parse (p ++ "\n" ++ t) keys = .ok m') ↔ ∃ m, parse t keys = .ok m) ∧
    (∀ m, parse t keys = .ok m → ∃ settings, parse (p ++ "\n" ++ t) keys =
      .ok ⟨m.keyword, m.layers.map (List.map (Node.mapPos (· + (p.utf8ByteSize + 1)))),
        m.stop + (p.utf8ByteSize + 1), settings⟩) ∧
    ∀ e, parse t keys = .error e →
      parse (p ++ "\n" ++ t) keys = .error (e.mapPos (· + (p.utf8ByteSize + 1))) ∧
      (e.mapPos (· + (p.utf8ByteSize + 1))).offset? =
        e.offset?.map (· + (p.utf8ByteSize + 1)) := by
  have hnone : Invocation.search 0 none 0 p.toList = none := by
    simpa [Invocation.find?_zero] using hp
  have hpassed : Invocation.Passed (p ++ "\n").toList := by
    rw [String.toList_append]
    exact Invocation.passed_of_search hnone (by decide) (by decide)
  have hsize : (p ++ "\n").utf8ByteSize = p.utf8ByteSize + 1 := by
    rw [String.utf8ByteSize_append]
    rfl
  obtain ⟨settings, hparse⟩ := parse_of_passed hpassed t keys
  rw [hsize] at hparse
  rw [hparse]
  cases parse t keys with
  | error e => simp [mapOutcome]
  | ok m => simp [mapOutcome, moved]

/-- A settings block that cannot be read, an open parenthesis and the start of a keyword move the
layers of a text behind them, or the place of its error. -/
theorem parse_preamble_broken :
    Invocation.find? "/*---\na: [b\n---*/ f(é LAYOUT" 0 = .ok none ∧
    (parse "(A) KEYMAP(B)" (some 1) = .ok ⟨"KEYMAP", [[.word "B" 11 12]], 13, {}⟩ ∧
      ∃ settings, parse ("/*---\na: [b\n---*/ f(é LAYOUT" ++ "\n" ++ "(A) KEYMAP(B)") (some 1) =
        .ok ⟨"KEYMAP", [[.word "B" 41 42]], 43, settings⟩) ∧
    (parse "KEYMAP(A, B C)" (some 1) = .error (.whitespaceInToken 10) ∧
      parse ("/*---\na: [b\n---*/ f(é LAYOUT" ++ "\n" ++ "KEYMAP(A, B C)") (some 1) =
        .error (.whitespaceInToken 40)) := by
  have hp : Invocation.find? "/*---\na: [b\n---*/ f(é LAYOUT" 0 = .ok none := by decide +kernel
  have h : parse "(A) KEYMAP(B)" (some 1) =
      .ok ⟨"KEYMAP", [[.word "B" 11 12]], 13, {}⟩ := by cbv
  have he : parse "KEYMAP(A, B C)" (some 1) = .error (.whitespaceInToken 10) := by cbv
  exact ⟨hp, ⟨h, (parse_preamble hp _ _).2.1 _ h⟩, he, ((parse_preamble hp _ _).2.2 _ he).1⟩

end Keymap

namespace Text

/-- The front of two texts that reaches into the second has all of the first. -/
lemma takeBytes_add_size (n : Nat) (as bs : List Char) :
    takeBytes (n + size as) (as ++ bs) = as ++ takeBytes n bs := by
  induction as with
  | nil => rfl
  | cons a as ih =>
    have hle : a.utf8Size ≤ n + (a.utf8Size + size as) := by omega
    have hsub : n + (a.utf8Size + size as) - a.utf8Size = n + size as := by omega
    rw [List.cons_append, takeBytes, size_cons, if_pos hle, hsub, ih, List.cons_append]

/-- What is left of two texts behind the front of the second is left of the second. -/
lemma dropBytes_add_size (n : Nat) (as bs : List Char) :
    dropBytes (n + size as) (as ++ bs) = dropBytes n bs := by
  have hsame := takeBytes_append_dropBytes (n + size as) (as ++ bs)
  rw [takeBytes_add_size, List.append_assoc, List.append_cancel_left_eq] at hsame
  exact List.append_cancel_left (hsame.trans (takeBytes_append_dropBytes n bs).symm)

end Text

namespace Edit
open Keymap

/-- A change behind a text that was put in front leaves that text. -/
lemma splice_add (p t : String) (start stop : Nat) (value : String) :
    splice (p ++ t) (start + p.utf8ByteSize) (stop + p.utf8ByteSize) value =
      p ++ splice t start stop value := by
  apply String.toList_injective
  simp only [splice, String.toList_append, String.toList_ofList, ← Text.size_toList,
    Text.takeBytes_add_size, Text.dropBytes_add_size, List.append_assoc]

/-- An edit of a text behind one that a search walks over is the edit of the text alone. -/
theorem setKeyText_of_passed [PatternEngine] {p : String} (hp : Invocation.Passed p.toList)
    (t : String) (layer key : Nat) (value : String) (keys : Option Nat) :
    setKeyText (p ++ t) layer key value keys = p ++ setKeyText t layer key value keys := by
  obtain ⟨settings, hparse⟩ := parse_of_passed hp t keys
  cases hm : parse t keys with
  | error e => simp [setKeyText, setKey, unchanged, hparse, hm, mapOutcome]
  | ok m =>
    cases hkey : m.key? layer key with
    | none => simp [setKeyText, setKey, unchanged, hparse, hm, mapOutcome, hkey]
    | some node =>
      have hend : (node.mapPos (· + p.utf8ByteSize)).sourceEnd =
          node.sourceEnd + p.utf8ByteSize := by
        simp [Node.sourceEnd, Nat.add_right_comm]
      simp only [setKeyText, setKey, hparse, hm, mapOutcome, key?_moved, hkey, Option.map_some,
        Node.start_mapPos, hend]
      exact splice_add p t node.start node.sourceEnd value

end Edit

end Keyplan
