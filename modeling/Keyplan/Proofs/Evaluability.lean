import Keyplan.Keyboard
import Keyplan.Proofs.Legibility
import Keyplan.Proofs.Traversal

/-!
# Evaluating what was read

A node that was read stands inside one parenthesis more than inside calls, so evaluation never finds
it too deep. What is left to fail is a call whose name has no function. `Executor.Explained` says of
a result which of a list of calls it failed at, if at any; results that are computed one after the
other are explained by their calls one after the other (`Explained.bind`), and so the result of a
legible node is explained by its calls in the order of their values (`Explained.traceAt`). The main
statement is `evaluate_key`.
-/

namespace Keyplan

namespace Node

mutual

/-- The calls of a node with their places, in the order in which they get values: first those of the
arguments from left to right, then the call itself. -/
def calls : Node → List (String × Nat)
  | .word _ _ _ => []
  | .call name args start _ _ => callsArgs args ++ [(name, start)]

/-- The calls of arguments from left to right. -/
def callsArgs : List Node → List (String × Nat)
  | [] => []
  | arg :: args => arg.calls ++ callsArgs args

end

/-- A node that stands within some nodes stands within more. -/
lemma Within.mono {n as bs} (h : Within n as) (hsub : as ⊆ bs) : Within n bs := by
  cases h with
  | here hn => exact .here (hsub hn)
  | deeper hn hcall => exact .deeper hn (hsub hcall)

/-- The calls of a node are among those of the nodes within which it stands. -/
lemma Within.calls_subset {n nodes} (h : Within n nodes) : n.calls ⊆ callsArgs nodes := by
  have hmem : ∀ {n nodes}, n ∈ nodes → n.calls ⊆ callsArgs nodes := by
    intro n nodes hn
    induction nodes with
    | nil => cases hn
    | cons node nodes ih =>
      rcases List.mem_cons.1 hn with rfl | hn
      · exact List.subset_append_left _ _
      · exact List.subset_append_of_subset_right _ (ih hn)
  induction h with
  | here hn => exact hmem hn
  | deeper _ hcall ih =>
    have hargs := hmem hcall
    rw [calls] at hargs
    exact List.Subset.trans ih (List.Subset.trans (List.subset_append_left _ _) hargs)

mutual

/-- Every call of a node stands within it. -/
theorem exists_within_of_mem_calls : ∀ {n : Node} {name start}, (name, start) ∈ n.calls →
    ∃ args stop source, Within (.call name args start stop source) [n]
  | .word _ _ _, _, _, h => by cases h
  | .call name args start stop source, _, _, h => by
    rcases List.mem_append.1 h with h | h
    · obtain ⟨args', stop', source', hwithin⟩ := exists_within_of_mem_callsArgs h
      exact ⟨args', stop', source', .deeper hwithin (List.mem_singleton.2 rfl)⟩
    · cases List.mem_singleton.1 h
      exact ⟨args, stop, source, .here (List.mem_singleton.2 rfl)⟩

/-- Every call of arguments stands within them. -/
theorem exists_within_of_mem_callsArgs : ∀ {nodes : List Node} {name start},
    (name, start) ∈ callsArgs nodes →
    ∃ args stop source, Within (.call name args start stop source) nodes
  | [], _, _, h => by cases h
  | n :: nodes, _, _, h => by
    rcases List.mem_append.1 h with h | h
    · obtain ⟨args, stop, source, hwithin⟩ := exists_within_of_mem_calls h
      exact ⟨args, stop, source, hwithin.mono (by simp)⟩
    · obtain ⟨args, stop, source, hwithin⟩ := exists_within_of_mem_callsArgs h
      exact ⟨args, stop, source, hwithin.mono (List.subset_cons_self _ _)⟩

end

/-- The calls of a node are the calls that stand within it. -/
lemma mem_calls_iff {n : Node} {name start} :
    (name, start) ∈ n.calls ↔
      ∃ args stop source, Within (.call name args start stop source) [n] := by
  constructor
  · exact exists_within_of_mem_calls
  · rintro ⟨args, stop, source, hwithin⟩
    have hcalls := hwithin.calls_subset (List.mem_append_right _ (List.mem_singleton.2 rfl))
    simpa [callsArgs] using hcalls

end Node

namespace Executor
open Grammar

variable {α β γ : Type} {x : Executor α}

/-- Whether the name of a call has no function. -/
def lacks (x : Executor α) (call : String × Nat) : Bool :=
  (x.function? call.1).isNone

/-- The calls explain the result: a failure is that of a call whose name has no function. Without a
fallback it is the first such call, and with no such call there is a value. -/
structure Explained (x : Executor α) (calls : List (String × Nat)) (r : Except EvalError β) :
    Prop where
  /-- A failure is that of a call whose name has no function. -/
  error : ∀ {e}, r = .error e → ∃ call ∈ calls, x.lacks call = true ∧
    e = .unknownFunction call.1 call.2 ∧ (x.fallback? = none → calls.find? x.lacks = some call)
  /-- Without a fallback, a value needs functions for all calls. -/
  ok : ∀ {v}, r = .ok v → x.fallback? = none → calls.find? x.lacks = none

/-- A value that needs no call. -/
lemma Explained.pure (v : β) : Explained x [] (.ok v) :=
  ⟨nofun, fun _ _ => rfl⟩

/-- Results that are computed one after the other are explained by their calls in that order. -/
lemma Explained.bind {as bs} {r : Except EvalError β} {f : β → Except EvalError γ}
    (h : Explained x as r) (hf : ∀ v, Explained x bs (f v)) :
    Explained x (as ++ bs) (r.bind f) := by
  cases r with
  | error e =>
    refine ⟨?_, nofun⟩
    intro e' he
    obtain rfl : e = e' := Except.error.inj he
    obtain ⟨call, hcall, hlacks, he, hfirst⟩ := h.error rfl
    refine ⟨call, List.mem_append_left _ hcall, hlacks, he, ?_⟩
    intro hnone
    rw [List.find?_append, hfirst hnone]
    rfl
  | ok v =>
    refine ⟨?_, ?_⟩
    · intro e he
      obtain ⟨call, hcall, hlacks, he, hfirst⟩ := (hf v).error he
      refine ⟨call, List.mem_append_right _ hcall, hlacks, he, ?_⟩
      intro hnone
      rw [List.find?_append, h.ok rfl hnone, hfirst hnone]
      rfl
    · intro w hw hnone
      rw [List.find?_append, h.ok rfl hnone, (hf v).ok hw hnone]
      rfl

/-- Applying a function is explained by its call. -/
lemma Explained.dispatch (name : String) (start : Nat) (args : List α) :
    Explained x [(name, start)] (x.dispatch name start args).result := by
  unfold Executor.dispatch
  split
  · next f hf =>
    refine ⟨nofun, ?_⟩
    intro _ _ _
    simp [lacks, hf]
  · next hf =>
    have hlacks : x.lacks (name, start) = true := by simp [lacks, hf]
    have herror : ∀ {e : EvalError}, e = .unknownFunction name start →
        ∃ call ∈ [(name, start)], x.lacks call = true ∧ e = .unknownFunction call.1 call.2 ∧
          (x.fallback? = none → [(name, start)].find? x.lacks = some call) := by
      intro e he
      refine ⟨(name, start), List.mem_singleton.2 rfl, hlacks, he, ?_⟩
      intro _
      rw [List.find?_cons_of_pos hlacks]
    split
    · refine ⟨?_, nofun⟩
      intro e he
      exact herror (Except.error.inj he).symm
    · next f hfallback =>
      split
      · refine ⟨nofun, ?_⟩
        intro _ _ hnone
        rw [hfallback] at hnone
        cases hnone
      · refine ⟨?_, nofun⟩
        intro e he
        exact herror (Except.error.inj he).symm

/-- The results of arguments are explained by their calls from left to right. -/
lemma Explained.traceArgs {depth args}
    (h : ∀ arg ∈ args, Explained x arg.calls (x.traceAt depth arg).result) :
    Explained x (Node.callsArgs args) (x.traceArgs depth args).result := by
  induction args with
  | nil => exact .pure []
  | cons arg args ih =>
    obtain ⟨harg, hargs⟩ := List.forall_mem_cons.1 h
    rw [result_traceArgs_cons, Node.callsArgs]
    refine harg.bind ?_
    intro v
    have hrest := (ih hargs).bind fun vs => Explained.pure (v :: vs)
    rw [List.append_nil] at hrest
    exact hrest

/-- The result of a legible node inside fewer calls than parentheses is explained by its calls. -/
theorem Explained.traceAt {limit n} (h : Legible limit n) {depth} (hdepth : depth < limit) :
    Explained x n.calls (x.traceAt depth n).result := by
  induction h generalizing depth with
  | word _ => exact .pure _
  | call _ hlimit _ _ ih =>
    rw [result_traceAt_call x (Nat.lt_trans hdepth hlimit), Node.calls]
    refine .bind (.traceArgs ?_) fun values => .dispatch _ _ values
    intro arg harg
    exact ih arg harg (Nat.add_lt_add_right hdepth 1)

end Executor

namespace Keyboard

/-- A name has a function if it is one of the names of functions. -/
lemma function?_eq_none_iff {name} : function? name = none ↔ name ∉ functionNames := by
  rw [function?, Option.map_eq_none_iff, List.find?_eq_none, functionNames, List.mem_mergeSort,
    List.mem_map]
  constructor
  · rintro h ⟨row, hrow, rfl⟩
    exact h row hrow (beq_self_eq_true _)
  · intro h row hrow hname
    exact h ⟨row, hrow, eq_of_beq hname⟩

/-- The keyboard lacks the names that are none of its functions. -/
lemma lacks_executor : executor.lacks = fun call => decide (call.1 ∉ functionNames) := by
  funext call
  rw [Bool.eq_iff_iff, decide_eq_true_iff, ← function?_eq_none_iff]
  simp [Executor.lacks, executor]

end Keyboard

namespace Keymap
open Grammar

/-- The calls within a key stand in the text with their names. -/
lemma slice_of_mem_calls [PatternEngine] {text keys m} (h : parse text keys = .ok m)
    {layer key x name start} (hx : m.key? layer key = some x) (hcall : (name, start) ∈ x.calls) :
    Text.Slice text.toList start (start + name.utf8ByteSize) name.toList := by
  obtain ⟨lo, hspanned⟩ := parse_spanned h
  obtain ⟨nodes, hnodes, hmem⟩ := exists_mem_of_key? hx
  obtain ⟨args, stop, source, hwithin⟩ := Node.mem_calls_iff.1 hcall
  have hspan := (hspanned.spanned nodes hnodes).exact _ (hwithin.mono (by simpa using hmem))
  obtain ⟨before, after, htext, hstart, -⟩ := Node.CallSpan.slice hspan
  obtain ⟨more, hmore⟩ := Node.CallSpan.name_prefix hspan
  refine ⟨before, more ++ after, ?_, hstart, by rw [Text.size_toList]⟩
  rw [htext, ← hmore]
  simp

/-- Evaluation of a key of a keymap never finds it nested too deep, whatever the executor. With the
functions of a keyboard it fails if and only if some call in the key has a name that is none of
theirs. It then names the first such call, arguments before the call around them and from left to
right, and the text at the place given begins with that name. -/
theorem evaluate_key [PatternEngine] {text keys m} (h : parse text keys = .ok m) {layer key x}
    (hx : m.key? layer key = some x) :
    (∀ {α : Type} (executor : Executor α) (offset limit : Nat),
      executor.evaluate x ≠ .error (.nestingTooDeep offset limit)) ∧
    ((∃ e, Keyboard.executor.evaluate x = .error e) ↔
      ∃ name args start stop source, Node.Within (.call name args start stop source) [x] ∧
        name ∉ Keyboard.functionNames) ∧
    ∀ e, Keyboard.executor.evaluate x = .error e →
      ∃ name start, x.calls.find? (fun call => call.1 ∉ Keyboard.functionNames) =
          some (name, start) ∧
        e = .unknownFunction name start ∧
        Text.Slice text.toList start (start + name.utf8ByteSize) name.toList := by
  obtain ⟨nodes, hnodes, hmem⟩ := exists_mem_of_key? hx
  have hlegible := parse_legible h nodes hnodes x (.here hmem)
  have hfind : ∀ e, Keyboard.executor.evaluate x = .error e →
      ∃ name start, x.calls.find? (fun call => call.1 ∉ Keyboard.functionNames) =
        some (name, start) ∧ e = .unknownFunction name start := by
    intro e he
    obtain ⟨⟨name, start⟩, -, -, herror, hfirst⟩ :=
      (Executor.Explained.traceAt hlegible Nat.one_pos).error he
    rw [Keyboard.lacks_executor] at hfirst
    exact ⟨name, start, hfirst rfl, herror⟩
  refine ⟨?_, ⟨?_, ?_⟩, ?_⟩
  · intro α executor offset limit he
    obtain ⟨_, -, -, herror, -⟩ := (Executor.Explained.traceAt hlegible Nat.one_pos).error he
    cases herror
  · rintro ⟨e, he⟩
    obtain ⟨name, start, hfirst, -⟩ := hfind e he
    obtain ⟨args, stop, source, hwithin⟩ :=
      Node.mem_calls_iff.1 (List.mem_of_find?_eq_some hfirst)
    exact ⟨name, args, start, stop, source, hwithin, by simpa using List.find?_some hfirst⟩
  · rintro ⟨name, args, start, stop, source, hwithin, hname⟩
    cases hresult : Keyboard.executor.evaluate x with
    | error e => exact ⟨e, rfl⟩
    | ok v =>
      have hnone := (Executor.Explained.traceAt hlegible Nat.one_pos).ok hresult rfl
      rw [Keyboard.lacks_executor, List.find?_eq_none] at hnone
      have hcall := Node.mem_calls_iff.2 ⟨args, stop, source, hwithin⟩
      exact absurd (by simpa using hname) (hnone _ hcall)
  · intro e he
    obtain ⟨name, start, hfirst, herror⟩ := hfind e he
    exact ⟨name, start, hfirst, herror,
      slice_of_mem_calls h hx (List.mem_of_find?_eq_some hfirst)⟩

/-- Of two unknown functions inside a known one, the inner one is named. -/
theorem evaluate_key_inner :
    parse "LAYOUT(é, LT(1, F(H(B))))" none = .ok ⟨"LAYOUT", [[.word "é" 7 9,
      .call "LT" [.word "1" 14 15, .call "F" [.call "H" [.word "B" 21 22] 19 23 "H(B)"] 17 24
        "F(H(B))"] 11 25 "LT(1, F(H(B)))"]], 26, {}⟩ ∧
    Keyboard.executor.evaluate (.call "LT" [.word "1" 14 15,
      .call "F" [.call "H" [.word "B" 21 22] 19 23 "H(B)"] 17 24 "F(H(B))"] 11 25
        "LT(1, F(H(B)))") = .error (.unknownFunction "H" 19) ∧
    Text.Slice "LAYOUT(é, LT(1, F(H(B))))".toList 19 20 "H".toList := by
  have h : parse "LAYOUT(é, LT(1, F(H(B))))" none = .ok ⟨"LAYOUT", [[.word "é" 7 9,
      .call "LT" [.word "1" 14 15, .call "F" [.call "H" [.word "B" 21 22] 19 23 "H(B)"] 17 24
        "F(H(B))"] 11 25 "LT(1, F(H(B)))"]], 26, {}⟩ := by cbv
  have hname : "H" ∉ Keyboard.functionNames := Keyboard.function?_eq_none_iff.1 (by decide)
  have hkey : Keymap.key? ⟨"LAYOUT", [[.word "é" 7 9,
      .call "LT" [.word "1" 14 15, .call "F" [.call "H" [.word "B" 21 22] 19 23 "H(B)"] 17 24
        "F(H(B))"] 11 25 "LT(1, F(H(B)))"]], 26, {}⟩ 0 1 = some _ := rfl
  obtain ⟨-, hfails, hfirst⟩ := evaluate_key h hkey
  obtain ⟨e, he⟩ := hfails.2 ⟨"H", _, 19, _, _, .deeper (.deeper (.here (List.mem_singleton.2 rfl))
    (List.mem_cons_of_mem _ (List.mem_singleton.2 rfl))) (List.mem_singleton.2 rfl), hname⟩
  obtain ⟨name, start, hfind, rfl, hslice⟩ := hfirst e he
  have hinner : ([("H", 19), ("F", 17), ("LT", 11)].find? fun call =>
      call.1 ∉ Keyboard.functionNames) = some ("H", 19) :=
    List.find?_cons_of_pos (by simpa using hname)
  cases hinner.symm.trans hfind
  exact ⟨h, he, hslice⟩

end Keymap

end Keyplan
