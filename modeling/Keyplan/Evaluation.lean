import Keyplan.Arguments

/-!
# Evaluation of key expressions

An `Executor` gives values to words and functions. Evaluation goes through an expression depth
first and from left to right, stops at the first failure, and notes every call of the executor.
-/

namespace Keyplan

/-- What words and functions stand for. -/
structure Executor (α : Type) where
  /-- The value of a word. -/
  word : String → α
  /-- The function of a name. -/
  function? : String → Option (List α → α)
  /-- The value of a call whose name has no function; it may decline. -/
  fallback? : Option (String → List α → Option α) := none

/-- Why an expression has no value. -/
inductive EvalError where
  /-- A name has no function, and nothing else takes the call. -/
  | unknownFunction (name : String) (offset : Nat)
  /-- A call stands inside too many others. -/
  | nestingTooDeep (offset limit : Nat)
  deriving DecidableEq, Repr

/-- The error in words. -/
def EvalError.message : EvalError → String
  | .unknownFunction name offset => s!"Unknown function '{name}' at offset {offset}"
  | .nestingTooDeep offset limit =>
    s!"Expression nested deeper than {limit} levels at offset {offset}"

/-- A call of the executor. -/
inductive Event (α : Type) where
  /-- A word was given a value. -/
  | word (content : String)
  /-- A function was applied. -/
  | call (name : String) (args : List α)
  /-- The fallback was asked. -/
  | fallback (name : String) (args : List α)
  deriving DecidableEq, Repr

/-- A result together with the calls that led to it, in order. -/
structure Traced (α β : Type) where
  /-- The calls of the executor. -/
  events : List (Event α)
  /-- The result. -/
  result : Except EvalError β

namespace Executor

variable {α : Type}

/-- The executor that knows words only. -/
def ofWords (word : String → α) : Executor α where
  word
  function? _ := none

/-- The executor with a function under a name; it replaces an earlier one of that name. -/
def withFunction (x : Executor α) (name : String) (f : List α → α) : Executor α :=
  { x with function? := fun other => if other = name then some f else x.function? other }

/-- The executor with a fallback; it replaces an earlier one. -/
def withFallback (x : Executor α) (f : String → List α → Option α) : Executor α :=
  { x with fallback? := some f }

/-- Applies the function of a name, or else the fallback; `offset` is where the call stands. -/
def dispatch (x : Executor α) (name : String) (offset : Nat) (args : List α) : Traced α α :=
  match x.function? name with
  | some f => ⟨[.call name args], .ok (f args)⟩
  | none =>
    match x.fallback? with
    | none => ⟨[], .error (.unknownFunction name offset)⟩
    | some f =>
      match f name args with
      | some v => ⟨[.fallback name args], .ok v⟩
      | none => ⟨[.fallback name args], .error (.unknownFunction name offset)⟩

mutual

/-- Evaluates an expression inside `depth` calls. -/
def traceAt (x : Executor α) (depth : Nat) : Node → Traced α α
  | .word content _ _ => ⟨[.word content], .ok (x.word content)⟩
  | .call name args start _ _ =>
    if maxDepth ≤ depth then ⟨[], .error (.nestingTooDeep start maxDepth)⟩
    else
      match x.traceArgs (depth + 1) args with
      | ⟨events, .error e⟩ => ⟨events, .error e⟩
      | ⟨events, .ok values⟩ =>
        let last := x.dispatch name start values
        ⟨events ++ last.events, last.result⟩

/-- Evaluates arguments from left to right. -/
def traceArgs (x : Executor α) (depth : Nat) : List Node → Traced α (List α)
  | [] => ⟨[], .ok []⟩
  | arg :: args =>
    match x.traceAt depth arg with
    | ⟨events, .error e⟩ => ⟨events, .error e⟩
    | ⟨events, .ok v⟩ =>
      match x.traceArgs depth args with
      | ⟨more, .error e⟩ => ⟨events ++ more, .error e⟩
      | ⟨more, .ok vs⟩ => ⟨events ++ more, .ok (v :: vs)⟩

end

/-- Evaluates an expression and notes the calls of the executor. -/
def trace (x : Executor α) (node : Node) : Traced α α :=
  x.traceAt 0 node

/-- Evaluates an expression, or says why it has no value. -/
def evaluate (x : Executor α) (node : Node) : Except EvalError α :=
  (x.trace node).result

/-- The value of an expression, if it has one. -/
def value? (x : Executor α) (node : Node) : Option α :=
  match x.evaluate node with
  | .ok v => some v
  | .error _ => none

end Executor

end Keyplan
