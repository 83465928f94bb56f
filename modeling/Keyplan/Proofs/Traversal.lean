import Keyplan.Evaluation
import Mathlib

/-!
# The walk through an expression

Evaluation is a walk through the expression, depth first and from left to right. The walk enters
calls on its way down and leaves words and calls on its way up (`Node.visits`); `Executor.Passes`
says when a visit is in order and what it asks of the executor, `Executor.Fails` when it ends the
walk, and `Executor.Walks` puts the visits together. Results that are computed one after the other
walk through their visits one after the other (`Follows.bind`), and so the result of a node walks
through the visits of the node (`follows_traceAt`). The main statement is `trace_walks`.
-/

namespace Keyplan

/-- A stop of the walk through an expression. -/
inductive Visit where
  /-- The walk comes to a call that stands inside `depth` others. -/
  | enter (depth start : Nat)
  /-- The walk is through with a word, or with a call whose arguments are behind it. -/
  | leave (n : Node)

/-- The node that a visit leaves. -/
def Visit.left? : Visit → Option Node
  | .enter _ _ => none
  | .leave n => some n

namespace Node

mutual

/-- The visits of a node inside `depth` calls. -/
def visits (depth : Nat) : Node → List Visit
  | .word content start stop => [.leave (.word content start stop)]
  | .call name args start stop source =>
    .enter depth start ::
      (visitsArgs (depth + 1) args ++ [.leave (.call name args start stop source)])

/-- The visits of arguments from left to right. -/
def visitsArgs (depth : Nat) : List Node → List Visit
  | [] => []
  | arg :: args => arg.visits depth ++ visitsArgs depth args

end

mutual

/-- The words and calls of a node in post-order: arguments from left to right before their call. -/
def postorder : Node → List Node
  | .word content start stop => [.word content start stop]
  | .call name args start stop source =>
    postorderArgs args ++ [.call name args start stop source]

/-- The words and calls of arguments in post-order. -/
def postorderArgs : List Node → List Node
  | [] => []
  | arg :: args => arg.postorder ++ postorderArgs args

end

mutual

/-- The walk leaves the words and calls of a node in post-order. -/
theorem filterMap_visits (depth : Nat) : ∀ n : Node,
    (n.visits depth).filterMap Visit.left? = n.postorder
  | .word _ _ _ => rfl
  | .call _ args _ _ _ => by
    rw [visits, postorder, List.filterMap_cons_none rfl, List.filterMap_append,
      filterMap_visitsArgs (depth + 1) args]
    rfl

/-- The walk leaves the words and calls of arguments in post-order. -/
theorem filterMap_visitsArgs (depth : Nat) : ∀ args : List Node,
    (visitsArgs depth args).filterMap Visit.left? = postorderArgs args
  | [] => rfl
  | arg :: args => by
    rw [visitsArgs, postorderArgs, List.filterMap_append, filterMap_visits depth arg,
      filterMap_visitsArgs depth args]

end

end Node

namespace Traced

variable {α β γ : Type}

/-- A result and then one that depends on its value; a failure ends both. -/
def bind (t : Traced α β) (f : β → Traced α γ) : Traced α γ :=
  match t.result with
  | .error e => ⟨t.events, .error e⟩
  | .ok v => ⟨t.events ++ (f v).events, (f v).result⟩

/-- What follows a result follows from it alone. -/
lemma result_bind (t : Traced α β) (f : β → Traced α γ) :
    (t.bind f).result = t.result.bind fun v => (f v).result := by
  obtain ⟨events, result⟩ := t
  cases result <;> rfl

end Traced

namespace Executor

variable {α β γ : Type} {x : Executor α}

/-- Arguments get values from left to right, up to the first failure. -/
lemma traceArgs_cons (x : Executor α) (depth : Nat) (arg : Node) (args : List Node) :
    x.traceArgs depth (arg :: args) = (x.traceAt depth arg).bind fun v =>
      (x.traceArgs depth args).bind fun vs => ⟨[], .ok (v :: vs)⟩ := by
  rw [traceArgs]
  obtain ⟨events, result⟩ := x.traceAt depth arg
  obtain ⟨more, rest⟩ := x.traceArgs depth args
  cases result with
  | error e => rfl
  | ok v => cases rest <;> simp [Traced.bind]

/-- A call that is not too deep gets a value after its arguments. -/
lemma traceAt_call (x : Executor α) {depth : Nat} (h : depth < maxDepth) (name : String)
    (args : List Node) (start stop : Nat) (source : String) :
    x.traceAt depth (.call name args start stop source) =
      (x.traceArgs (depth + 1) args).bind (x.dispatch name start) := by
  rw [traceAt, if_neg (Nat.not_le.2 h)]
  obtain ⟨events, result⟩ := x.traceArgs (depth + 1) args
  cases result <;> rfl

/-- The first argument is evaluated before the others. -/
lemma result_traceArgs_cons (x : Executor α) (depth : Nat) (arg : Node) (args : List Node) :
    (x.traceArgs depth (arg :: args)).result = (x.traceAt depth arg).result.bind fun v =>
      (x.traceArgs depth args).result.bind fun vs => .ok (v :: vs) := by
  simp only [traceArgs_cons, Traced.result_bind]

/-- The arguments of a call are evaluated before the call. -/
lemma result_traceAt_call (x : Executor α) {depth : Nat} (h : depth < maxDepth) (name : String)
    (args : List Node) (start stop : Nat) (source : String) :
    (x.traceAt depth (.call name args start stop source)).result =
      (x.traceArgs (depth + 1) args).result.bind fun values =>
        (x.dispatch name start values).result := by
  rw [traceAt_call x h, Traced.result_bind]

/-- The value that the function of a name gives, or else the fallback. -/
def answer? (x : Executor α) (name : String) (args : List α) : Option α :=
  match x.function? name with
  | some f => some (f args)
  | none => x.fallback?.bind fun f => f name args

mutual

/-- The fold of a node with the words and functions of the executor, if all its calls are answered.
It knows no limit of depth. -/
def fold? (x : Executor α) : Node → Option α
  | .word content _ _ => some (x.word content)
  | .call name args _ _ _ => (x.foldArgs? args).bind (x.answer? name)

/-- The folds of arguments. -/
def foldArgs? (x : Executor α) : List Node → Option (List α)
  | [] => some []
  | arg :: args => (x.fold? arg).bind fun v => (x.foldArgs? args).bind fun vs => some (v :: vs)

end

/-- Words have the property, and answers to arguments that have it have it. -/
structure Keeps (x : Executor α) (P : α → Prop) : Prop where
  word : ∀ content, P (x.word content)
  answer : ∀ {name args v}, (∀ arg ∈ args, P arg) → x.answer? name args = some v → P v

mutual

/-- What an executor keeps holds of every value of a node. -/
theorem Keeps.fold? {P : α → Prop} (h : x.Keeps P) : ∀ (n : Node) {v}, x.fold? n = some v → P v
  | .word content _ _, v, hv => by
    rw [Executor.fold?] at hv
    obtain rfl := Option.some.inj hv
    exact h.word content
  | .call name args _ _ _, v, hv => by
    rw [Executor.fold?] at hv
    obtain ⟨values, hvalues, hv⟩ := Option.bind_eq_some_iff.1 hv
    exact h.answer (h.foldArgs? args hvalues) hv

/-- What an executor keeps holds of all values of arguments. -/
theorem Keeps.foldArgs? {P : α → Prop} (h : x.Keeps P) : ∀ (args : List Node) {values},
    x.foldArgs? args = some values → ∀ v ∈ values, P v
  | [], values, hvalues => by
    rw [Executor.foldArgs?] at hvalues
    obtain rfl := Option.some.inj hvalues
    exact fun v hv => absurd hv List.not_mem_nil
  | arg :: args, values, hvalues => by
    rw [Executor.foldArgs?] at hvalues
    obtain ⟨v, hv, hvalues⟩ := Option.bind_eq_some_iff.1 hvalues
    obtain ⟨vs, hvs, hvalues⟩ := Option.bind_eq_some_iff.1 hvalues
    obtain rfl := Option.some.inj hvalues
    exact List.forall_mem_cons.2 ⟨h.fold? arg hv, h.foldArgs? args hvs⟩

end

/-- The executor is asked once for the value of the node, and gives it. The arguments of a call have
values before that, and the fallback is asked only if the name has no function. -/
inductive Gives (x : Executor α) : Node → Event α → α → Prop where
  | word {content start stop} :
    Gives x (.word content start stop) (.word content) (x.word content)
  | call {name args start stop source values f} :
    x.foldArgs? args = some values →
    x.function? name = some f →
    Gives x (.call name args start stop source) (.call name values) (f values)
  | fallback {name args start stop source values f v} :
    x.foldArgs? args = some values →
    x.function? name = none →
    x.fallback? = some f →
    f name values = some v →
    Gives x (.call name args start stop source) (.fallback name values) v

/-- The visit is in order, and these are the calls of the executor in it. -/
inductive Passes (x : Executor α) : Visit → List (Event α) → Prop where
  | enter {depth start} :
    depth < maxDepth →
    Passes x (.enter depth start) []
  | leave {n event v} :
    x.Gives n event v →
    Passes x (.leave n) [event]

/-- The visit fails for this reason, after these calls of the executor. -/
inductive Fails (x : Executor α) : Visit → List (Event α) → EvalError → Prop where
  | deep {depth start} :
    maxDepth ≤ depth →
    Fails x (.enter depth start) [] (.nestingTooDeep start maxDepth)
  | absent {name args start stop source values} :
    x.foldArgs? args = some values →
    x.function? name = none →
    x.fallback? = none →
    Fails x (.leave (.call name args start stop source)) [] (.unknownFunction name start)
  | declined {name args start stop source values f} :
    x.foldArgs? args = some values →
    x.function? name = none →
    x.fallback? = some f →
    f name values = none →
    Fails x (.leave (.call name args start stop source)) [.fallback name values]
      (.unknownFunction name start)

/-- The walk through visits makes these calls of the executor. It ends behind the last visit, or at
the first one that fails. -/
inductive Walks (x : Executor α) : List Visit → List (Event α) → Option EvalError → Prop where
  | done :
    Walks x [] [] none
  | pass {visit visits now later failure?} :
    x.Passes visit now →
    Walks x visits later failure? →
    Walks x (visit :: visits) (now ++ later) failure?
  | fail {visit visits now e} :
    x.Fails visit now e →
    Walks x (visit :: visits) now (some e)

/-- A visit passes in one way only. -/
lemma Passes.unique {visit now now'} (h : x.Passes visit now) (h' : x.Passes visit now') :
    now = now' := by
  cases h with
  | enter _ => cases h'; rfl
  | leave hgives =>
    cases h' with
    | leave hgives' => cases hgives <;> cases hgives' <;> simp_all

/-- A visit that passes does not fail. -/
lemma Passes.not_fails {visit now now' e} (h : x.Passes visit now) : ¬ x.Fails visit now' e := by
  intro hfails
  cases h with
  | enter hdepth =>
    cases hfails with
    | deep hdeep => omega
  | leave hgives => cases hfails <;> cases hgives <;> simp_all

/-- A visit fails in one way only. -/
lemma Fails.unique {visit now now' e e'} (h : x.Fails visit now e) (h' : x.Fails visit now' e') :
    now = now' ∧ e = e' := by
  cases h <;> cases h' <;> simp_all

/-- There is one walk through visits. -/
lemma Walks.unique {visits events events' failure? failure?'} (h : x.Walks visits events failure?)
    (h' : x.Walks visits events' failure?') : events = events' ∧ failure? = failure?' := by
  induction h generalizing events' with
  | done => cases h'; exact ⟨rfl, rfl⟩
  | pass hpasses _ ih =>
    cases h' with
    | pass hpasses' hwalks =>
      obtain ⟨rfl, hfailure⟩ := ih hwalks
      exact ⟨by rw [hpasses.unique hpasses'], hfailure⟩
    | fail hfails => exact absurd hfails hpasses.not_fails
  | fail hfails =>
    cases h' with
    | pass hpasses _ => exact absurd hfails hpasses.not_fails
    | fail hfails' =>
      obtain ⟨rfl, rfl⟩ := hfails.unique hfails'
      exact ⟨rfl, rfl⟩

/-- A walk goes on where one without failure has ended. -/
lemma Walks.append {as bs events more failure?} (h : x.Walks as events none)
    (h' : x.Walks bs more failure?) : x.Walks (as ++ bs) (events ++ more) failure? := by
  -- The end of the first walk is fixed, and the induction needs it to be any.
  generalize hnone : none = none? at h
  induction h with
  | done => exact h'
  | pass hpasses _ ih =>
    rw [List.append_assoc]
    exact .pass hpasses (ih hnone)
  | fail _ => cases hnone

/-- A walk that has failed sees no later visit. -/
lemma Walks.append_of_some {as events e} (h : x.Walks as events (some e)) (bs : List Visit) :
    x.Walks (as ++ bs) events (some e) := by
  generalize hsome : some e = failure? at h ⊢
  induction h with
  | done => cases hsome
  | pass hpasses _ ih => exact .pass hpasses (ih hsome)
  | fail hfails => exact .fail hfails

/-- A walk without failure asks the executor once for each node that it leaves. -/
lemma Walks.forall₂_gives {visits events} (h : x.Walks visits events none) :
    List.Forall₂ (fun n event => ∃ v, x.Gives n event v) (visits.filterMap Visit.left?) events := by
  generalize hnone : none = failure? at h
  induction h with
  | done => exact .nil
  | pass hpasses _ ih =>
    cases hpasses with
    | enter _ => exact ih hnone
    | leave hgives => exact .cons ⟨_, hgives⟩ (ih hnone)
  | fail _ => cases hnone

/-- The result walks through the visits, and its value is the expected one. -/
inductive Follows (x : Executor α) : List Visit → Option β → Traced α β → Prop where
  | failed {visits expected? events e} :
    x.Walks visits events (some e) →
    Follows x visits expected? ⟨events, .error e⟩
  | done {visits events v} :
    x.Walks visits events none →
    Follows x visits (some v) ⟨events, .ok v⟩

/-- What follows visits walks through them, and fails as the walk does. -/
lemma Follows.walks {visits} {r : Option β} {t : Traced α β} (h : x.Follows visits r t) :
    x.Walks visits t.events (match t.result with | .error e => some e | .ok _ => none) := by
  cases h with
  | failed hwalks => exact hwalks
  | done hwalks => exact hwalks

/-- A trace with a result has the result that it follows. -/
lemma Follows.eq_some {visits} {r : Option β} {t : Traced α β} {v} (h : x.Follows visits r t)
    (hv : t.result = .ok v) : r = some v := by
  cases h with
  | failed _ => cases hv
  | done _ => cases hv; rfl

/-- Results that are computed one after the other follow their visits in that order. -/
lemma Follows.bind {as bs} {r : Option β} {t : Traced α β} {f : β → Option γ} {g : β → Traced α γ}
    (h : x.Follows as r t) (hnext : ∀ v, r = some v → x.Follows bs (f v) (g v)) :
    x.Follows (as ++ bs) (r.bind f) (t.bind g) := by
  cases h with
  | failed hwalks => exact .failed (hwalks.append_of_some bs)
  | @done events v hwalks =>
    have hv := hnext v rfl
    rw [Option.bind_some]
    show x.Follows (as ++ bs) (f v) ⟨events ++ (g v).events, (g v).result⟩
    generalize f v = r, g v = t at hv ⊢
    cases hv with
    | failed hwalks' => exact .failed (hwalks.append hwalks')
    | done hwalks' => exact .done (hwalks.append hwalks')

/-- Applying a function follows the visit that leaves its call. -/
lemma follows_dispatch {args values} (h : x.foldArgs? args = some values) (name : String)
    (start stop : Nat) (source : String) :
    x.Follows [.leave (.call name args start stop source)] (x.answer? name values)
      (x.dispatch name start values) := by
  unfold dispatch answer?
  cases hfunction : x.function? name with
  | some f => exact .done (.pass (.leave (.call h hfunction)) .done)
  | none =>
    cases hfallback : x.fallback? with
    | none => exact .failed (.fail (.absent h hfunction hfallback))
    | some f =>
      simp only [Option.bind_some]
      cases hvalue : f name values with
      | none => exact .failed (.fail (.declined h hfunction hfallback hvalue))
      | some v => exact .done (.pass (.leave (.fallback h hfunction hfallback hvalue)) .done)

mutual

/-- The result of a node follows the visits of the node, and its value is the fold of the node. -/
theorem follows_traceAt (x : Executor α) : ∀ (n : Node) (depth : Nat),
    x.Follows (n.visits depth) (x.fold? n) (x.traceAt depth n)
  | .word _ _ _, _ => by
    rw [traceAt, Node.visits, fold?]
    exact .done (.pass (.leave .word) .done)
  | .call name args start stop source, depth => by
    rw [Node.visits, fold?]
    rcases Nat.lt_or_ge depth maxDepth with hdepth | hdepth
    · -- Down into the call, through its arguments, and up out of it.
      rw [traceAt_call x hdepth]
      have hargs := (follows_traceArgs x args (depth + 1)).bind fun _ hvalues =>
        follows_dispatch hvalues name start stop source
      have henter : x.Follows [.enter depth start] (some ()) ⟨[], .ok ()⟩ :=
        .done (.pass (.enter hdepth) .done)
      exact henter.bind fun _ _ => hargs
    · rw [traceAt, if_pos hdepth]
      exact .failed (.fail (.deep hdepth))

/-- The results of arguments follow the visits of the arguments. -/
theorem follows_traceArgs (x : Executor α) : ∀ (args : List Node) (depth : Nat),
    x.Follows (Node.visitsArgs depth args) (x.foldArgs? args) (x.traceArgs depth args)
  | [], _ => by
    rw [traceArgs, Node.visitsArgs, foldArgs?]
    exact .done .done
  | arg :: args, depth => by
    rw [traceArgs_cons, Node.visitsArgs, foldArgs?]
    refine (follows_traceAt x arg depth).bind ?_
    intro v _
    have hcons : ∀ vs, x.Follows [] (some (v :: vs)) ⟨[], .ok (v :: vs)⟩ :=
      fun _ => .done .done
    have hrest := (follows_traceArgs x args depth).bind fun vs _ => hcons vs
    rw [List.append_nil] at hrest
    exact hrest

end

/-- A value is the fold of the node. -/
lemma fold?_of_evaluate {n v} (h : x.evaluate n = .ok v) : x.fold? n = some v :=
  (follows_traceAt x n 0).eq_some h

/-- The trace of a node walks along its visits. -/
lemma walks_trace (x : Executor α) (n : Node) :
    x.Walks (n.visits 0) (x.trace n).events
      (match x.evaluate n with | .error e => some e | .ok _ => none) :=
  (follows_traceAt x n 0).walks

/-- A node has a value if its evaluation succeeds with it. -/
lemma value?_eq_some_iff {n v} : x.value? n = some v ↔ x.evaluate n = .ok v := by
  rw [value?]
  cases x.evaluate n <;> simp

/-- A node has no value if its evaluation fails. -/
lemma value?_eq_none_iff {n} : x.value? n = none ↔ ∃ e, x.evaluate n = .error e := by
  rw [value?]
  cases x.evaluate n <;> simp

/-- What words have and answers keep, every value has. -/
theorem Keeps.value? {P : α → Prop} (h : x.Keeps P) {n v} (hv : x.value? n = some v) : P v :=
  h.fold? n (fold?_of_evaluate (value?_eq_some_iff.1 hv))

/-- Evaluation calls the executor as the walk through the node does, and there is no other walk. It
fails with the failure that ends the walk, after which nothing is called. If none does, the executor
was asked once for every word and call, in post-order, and the value is the fold of the node. The
value is absent if and only if evaluation fails. -/
theorem trace_walks (x : Executor α) (n : Node) :
    (∀ e, x.evaluate n = .error e ↔ x.Walks (n.visits 0) (x.trace n).events (some e)) ∧
    (∀ v, x.evaluate n = .ok v ↔
      x.Walks (n.visits 0) (x.trace n).events none ∧ x.fold? n = some v) ∧
    (∀ events failure?, x.Walks (n.visits 0) events failure? → events = (x.trace n).events) ∧
    (x.Walks (n.visits 0) (x.trace n).events none →
      List.Forall₂ (fun m event => ∃ w, x.Gives m event w) n.postorder (x.trace n).events) ∧
    (∀ v, x.value? n = some v ↔ x.evaluate n = .ok v) ∧
    (x.value? n = none ↔ ∃ e, x.evaluate n = .error e) := by
  have hwalks := walks_trace x n
  refine ⟨?_, ?_, ?_, ?_, fun _ => value?_eq_some_iff, value?_eq_none_iff⟩
  · intro e
    constructor
    · intro he
      rwa [he] at hwalks
    · intro hfails
      have hfailure := (hwalks.unique hfails).2
      split at hfailure
      · next he => rw [he, Option.some.inj hfailure]
      · cases hfailure
  · intro v
    constructor
    · intro hv
      rw [hv] at hwalks
      exact ⟨hwalks, fold?_of_evaluate hv⟩
    · rintro ⟨hdone, hfold⟩
      have hfailure := (hwalks.unique hdone).2
      split at hfailure
      · cases hfailure
      · next w hw =>
        rw [fold?_of_evaluate hw] at hfold
        rw [hw, Option.some.inj hfold]
  · intro events failure? h
    exact (h.unique hwalks).1
  · intro hdone
    rw [← Node.filterMap_visits 0]
    exact hdone.forall₂_gives

/-- Words stand for themselves, `F` joins its arguments, and of other names only `G` is taken. -/
def sample : Executor (List String) :=
  ((ofWords fun w => [w]).withFunction "F" List.flatten).withFallback fun name args =>
    if name = "G" then some ("?" :: args.flatten) else none

/-- In `F(a, H(G(b)), c)` the call of `H` is declined after that of `G` was taken, and `c` is never
come to; in `F(a, G(b))` all calls are in post-order. -/
theorem trace_walks_sample :
    sample.evaluate (.call "F" [.word "a" 2 3, .call "H" [.call "G" [.word "b" 9 10] 7 11 "G(b)"]
        5 12 "H(G(b))", .word "c" 14 15] 0 16 "F(a, H(G(b)), c)") =
      .error (.unknownFunction "H" 5) ∧
    sample.Walks [.enter 0 0, .leave (.word "a" 2 3), .enter 1 5, .enter 2 7,
        .leave (.word "b" 9 10), .leave (.call "G" [.word "b" 9 10] 7 11 "G(b)"),
        .leave (.call "H" [.call "G" [.word "b" 9 10] 7 11 "G(b)"] 5 12 "H(G(b))"),
        .leave (.word "c" 14 15), .leave (.call "F" [.word "a" 2 3,
          .call "H" [.call "G" [.word "b" 9 10] 7 11 "G(b)"] 5 12 "H(G(b))", .word "c" 14 15]
          0 16 "F(a, H(G(b)), c)")]
      [.word "a", .word "b", .fallback "G" [["b"]], .fallback "H" [["?", "b"]]]
      (some (.unknownFunction "H" 5)) ∧
    sample.value? (.call "F" [.word "a" 2 3, .call "G" [.word "b" 7 8] 5 9 "G(b)"] 0 10
        "F(a, G(b))") = some ["a", "?", "b"] ∧
    List.Forall₂ (fun m event => ∃ w, sample.Gives m event w)
      [.word "a" 2 3, .word "b" 7 8, .call "G" [.word "b" 7 8] 5 9 "G(b)",
        .call "F" [.word "a" 2 3, .call "G" [.word "b" 7 8] 5 9 "G(b)"] 0 10 "F(a, G(b))"]
      [.word "a", .word "b", .fallback "G" [["b"]], .call "F" [["a"], ["?", "b"]]] := by
  have hdeclined : sample.evaluate (.call "F" [.word "a" 2 3,
      .call "H" [.call "G" [.word "b" 9 10] 7 11 "G(b)"] 5 12 "H(G(b))", .word "c" 14 15] 0 16
      "F(a, H(G(b)), c)") = .error (.unknownFunction "H" 5) := rfl
  have hvalue : sample.evaluate (.call "F" [.word "a" 2 3, .call "G" [.word "b" 7 8] 5 9 "G(b)"]
      0 10 "F(a, G(b))") = .ok ["a", "?", "b"] := rfl
  obtain ⟨hfails, -⟩ := trace_walks sample (.call "F" [.word "a" 2 3,
    .call "H" [.call "G" [.word "b" 9 10] 7 11 "G(b)"] 5 12 "H(G(b))", .word "c" 14 15] 0 16
    "F(a, H(G(b)), c)")
  obtain ⟨-, hok, -, hpostorder, hsome, -⟩ := trace_walks sample
    (.call "F" [.word "a" 2 3, .call "G" [.word "b" 7 8] 5 9 "G(b)"] 0 10 "F(a, G(b))")
  exact ⟨hdeclined, (hfails _).1 hdeclined, (hsome _).2 hvalue, hpostorder ((hok _).1 hvalue).1⟩

end Executor

end Keyplan
