import Keyplan.Lexeme
import Keyplan.Node
import Keyplan.ParseError

/-!
# Argument lists

Reads the arguments between two parentheses. The reader takes one lexeme at a time; what it has
seen is a `Scan`: the finished arguments, the argument that is still open, and the calls around it.
-/

namespace Keyplan

/-- Most parentheses that may be open at once, the layout's own included. -/
def maxDepth : Nat := 64

/-- The argument that no delimiter has closed yet. -/
inductive Pending where
  /-- Nothing but gaps. -/
  | none
  /-- A word from `start` on; `since` are the lexemes from its first character on. -/
  | word (start : Nat) (content : String) (since : List Lexeme)
  /-- A finished call. -/
  | call (node : Node)

namespace Pending

/-- Closes the argument at the delimiter at `pos`. -/
def close (pos : Nat) : Pending → Except ParseError Node
  | .none => .error (.missingToken (pos + 1))
  | .word start content _ => .ok (.word content start pos)
  | .call node => .ok node

/-- A continuation makes the reader forget an open word. -/
def resume : Pending → Pending
  | .word _ _ _ => .none
  | p => p

/-- Adds the character at `pos`; `since` are the lexemes from it on. -/
def extend (pos : Nat) (c : Char) (since : List Lexeme) : Pending → Except ParseError Pending
  | .none => .ok (.word pos (String.singleton c) since)
  | .word start content first =>
    if start + content.utf8ByteSize = pos then .ok (.word start (content.push c) first)
    else .error (.whitespaceInToken start)
  | .call _ => .error (.unexpectedText pos)

end Pending

/-- A call whose arguments are being read. -/
structure Frame where
  /-- The arguments in front of the call. -/
  args : List Node
  /-- Where the name starts. -/
  start : Nat
  /-- The name. -/
  name : String
  /-- The lexemes from the name on. -/
  since : List Lexeme

/-- The call that a frame becomes when its list closes just before `stop` and `rest` follows. -/
def Frame.close (f : Frame) (args : List Node) (stop : Nat) (rest : List Lexeme) : Node :=
  let source := Lexeme.text (f.since.take (f.since.length - rest.length))
  .call f.name args f.start stop (String.ofList source)

/-- What the reader of an argument list has seen. -/
structure Scan where
  /-- Number of open parentheses. -/
  depth : Nat
  /-- The finished arguments of the innermost list. -/
  args : List Node := []
  /-- The open argument of the innermost list. -/
  pending : Pending := .none
  /-- The calls around the innermost list, innermost first. -/
  outer : List Frame := []

namespace Scan

/-- The outcome of one lexeme. -/
inductive Step where
  /-- The list goes on. -/
  | more (s : Scan)
  /-- The outermost list is complete. -/
  | done (args : List Node)

/-- Reads the lexeme `x` at `pos`, which `rest` follows. -/
def step (s : Scan) (pos : Nat) (x : Lexeme) (rest : List Lexeme) : Except ParseError Step :=
  match x with
  | .blockComment _ _ | .lineComment _ | .blank _ => .ok (.more s)
  | .continuation _ => .ok (.more { s with pending := s.pending.resume })
  | .comma =>
    match s.pending.close pos with
    | .error e => .error e
    | .ok node => .ok (.more { s with args := s.args ++ [node], pending := .none })
  | .closing =>
    match s.pending.close pos, s.outer with
    | .error e, _ => .error e
    | .ok node, [] => .ok (.done (s.args ++ [node]))
    | .ok node, f :: outer =>
      let call := f.close (s.args ++ [node]) (pos + 1) rest
      .ok (.more ⟨s.depth - 1, f.args, .call call, outer⟩)
  | .opening =>
    match s.pending with
    | .none => .error (.missingFunctionName (pos + 1))
    | .call _ => .error (.unexpectedText pos)
    | .word start content since =>
      if maxDepth ≤ s.depth then .error (.nestingTooDeep pos maxDepth)
      else .ok (.more ⟨s.depth + 1, [], .none, ⟨s.args, start, content, since⟩ :: s.outer⟩)
  | .other c =>
    match s.pending.extend pos c (x :: rest) with
    | .error e => .error e
    | .ok pending => .ok (.more { s with pending })

/-- Reads lexemes from `pos` on until the outermost list closes. The result holds the arguments,
the position after the closing parenthesis and the lexemes that follow it. -/
def run (s : Scan) (pos : Nat) : List Lexeme → Except ParseError (List Node × Nat × List Lexeme)
  | [] => .error (.unbalanced s.depth)
  | x :: rest =>
    match s.step pos x rest with
    | .error e => .error e
    | .ok (.done args) => .ok (args, pos + x.size, rest)
    | .ok (.more s') => run s' (pos + x.size) rest

/-- What `run` leaves over is the end of what it was given. -/
theorem suffix_of_run {s : Scan} {pos : Nat} {xs : List Lexeme} {args : List Node} {stop : Nat}
    {left : List Lexeme} (h : s.run pos xs = .ok (args, stop, left)) : left <:+ xs := by
  induction xs generalizing s pos with
  | nil => simp [run] at h
  | cons x rest ih =>
    rw [run] at h
    split at h
    · cases h
    · cases h
      exact List.suffix_cons x left
    · exact (ih h).trans (List.suffix_cons x rest)

end Scan

/-- Reads the arguments from just after a parenthesis at `pos`, with `depth` parentheses open. The
result holds the arguments, the position after the closing parenthesis and the text that follows. -/
def readArguments (depth pos : Nat) (cs : List Char) :
    Except ParseError (List Node × Nat × List Char) :=
  match Scan.run { depth } pos (Lexeme.lex .code cs) with
  | .error e => .error e
  | .ok (args, stop, left) => .ok (args, stop, Lexeme.text left)

/-- The text after an argument list is no longer than the text it was read from. -/
theorem length_le_of_readArguments {depth pos : Nat} {cs : List Char} {args : List Node}
    {stop : Nat} {left : List Char} (h : readArguments depth pos cs = .ok (args, stop, left)) :
    left.length ≤ cs.length := by
  unfold readArguments at h
  split at h
  · cases h
  · next args' stop' xs hrun =>
    cases h
    obtain ⟨front, hfront⟩ := Scan.suffix_of_run hrun
    have htext := Lexeme.text_lex .code cs
    rw [← hfront, Lexeme.text_append] at htext
    have := congrArg List.length htext
    simp [Lexeme.Mode.held] at this
    omega

end Keyplan
