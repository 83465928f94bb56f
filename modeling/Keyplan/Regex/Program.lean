import Keyplan.Regex.Simple
import Keyplan.Text.Bytes
import Keyplan.Text.Octets
import Std.Data.HashMap

/-!
# The size of compiled expressions

A regular expression is compiled to a program that reads octets, once to run forward and once to
run backward, and an expression whose program would be too large is refused. This module measures
the programs without keeping them. A program is a list of states; a state has room for itself, for
each of its arcs, which read an octet, and for each of its links, which do not.

States that read the octets of a set are shared where two of them would be alike. What has been
built is remembered in a table with a fixed number of places, where a new entry takes the place of
an old one, so a program may still hold two states that are alike.
-/

namespace Keyplan.Regex

/-- How far a program has grown. -/
structure Program where
  /-- The number of states. -/
  states : Nat := 0
  /-- The room that they take, in bytes. -/
  bytes : Nat := 0
  deriving DecidableEq, Repr

/-- The way in which a program runs over a text. -/
inductive Direction where
  /-- From the start to the end. -/
  | forward
  /-- From the end to the start. -/
  | backward
  deriving DecidableEq, Repr

/-- The states that read a set, while they are built. -/
structure Sharing where
  /-- The program so far. -/
  program : Program
  /-- The number of places to remember states in. -/
  places : Nat
  /-- For each place the description of a state, and its number. -/
  known : Std.HashMap Nat (List Nat × Nat) := {}

namespace Program

/-- Bytes of a state. -/
def stateBytes : Nat := 32

/-- Bytes of an arc. -/
def arcBytes : Nat := 8

/-- Bytes of a link. -/
def linkBytes : Nat := 4

/-- The most bytes that a program may take. -/
def maxBytes : Nat := 10 * 1024 * 1024

/-- The program with `n` more states. -/
def add (n : Nat) (p : Program) : Program :=
  ⟨p.states + n, p.bytes + n * stateBytes⟩

/-- The program with a state that has `n` arcs. -/
def addArcs (n : Nat) (p : Program) : Program :=
  ⟨p.states + 1, p.bytes + stateBytes + n * arcBytes⟩

/-- The program with `n` more links. -/
def link (n : Nat) (p : Program) : Program :=
  { p with bytes := p.bytes + n * linkBytes }

/-- Lets the program grow `n` times, or until it is too large. -/
def grow (more : Program → Program) : Nat → Program → Program
  | 0, p => p
  | n + 1, p => if p.bytes ≤ maxBytes then grow more n (more p) else p

end Program

namespace Sharing

/-- The place in which a state is remembered. -/
def place (s : Sharing) (key : List Nat) : Nat :=
  let hash : UInt64 := key.foldl (fun h n => (h ^^^ n.toUInt64) * 1099511628211)
    14695981039346656037
  hash.toNat % s.places

/-- The state of a description: the one that is remembered, or else a new one with `n` arcs. -/
def state (s : Sharing) (key : List Nat) (n : Nat) : Nat × Sharing :=
  let place := s.place key
  match (s.known[place]?).filter (·.1 = key) with
  | some (_, number) => (number, s)
  | none =>
    let number := s.program.states
    let program := s.program.addArcs n
    (number, { s with program, known := s.known.insert place (key, number) })

/-- The octets that may come next at one point of a path: ranges that lead on to finished states,
and one range whose states are not finished yet. -/
structure Step where
  /-- Each finished range with the state that it leads to, last first. -/
  arcs : List (Nat × Nat × Nat) := []
  /-- The range that is not finished. -/
  last : Nat × Nat

/-- Finishes the steps of a path, the deepest first, and gives the state of the first step. -/
def finish (goal : Nat) : List Step → Sharing → Nat × Sharing
  | [], s => (goal, s)
  | step :: steps, s =>
    let (next, s) := finish goal steps s
    let arcs := (step.last.1, step.last.2, next) :: step.arcs
    s.state (arcs.reverse.flatMap fun a => [a.1, a.2.1, a.2.2]) arcs.length

/-- The path after another sequence of ranges. What the two have in common stays open. -/
def extend (goal : Nat) : List Step → List (Nat × Nat) → Sharing → List Step × Sharing
  | step :: steps, r :: rs, s =>
    if step.last = r then
      let (steps, s) := extend goal steps rs s
      (step :: steps, s)
    else
      let (next, s) := finish goal steps s
      let arcs := (step.last.1, step.last.2, next) :: step.arcs
      ({ arcs, last := r } :: rs.map fun r => { last := r }, s)
  | _, rs, s => (rs.map fun r => { last := r }, s)

/-- Places for the states of a set that is read forward. -/
def forwardPlaces : Nat := 10000

/-- Places for the states of a set that is read backward. -/
def backwardPlaces : Nat := 1000

/-- The program with the states that read a set forward; states that end alike are shared. -/
def readForward (set : CharSet) (p : Program) : Program :=
  let goal := p.states
  let start : List Step × Sharing := ([], { program := p.add 1, places := forwardPlaces })
  let (path, s) := (set.flatMap fun r => Text.octetRanges r.1 r.2).foldl
    (fun (path, s) rs => extend goal path rs s) start
  (finish goal path s).2.program

/-- The program with the states that read a set backward; states that end alike are shared. -/
def readBackward (set : CharSet) (p : Program) : Program :=
  let goal := p.states + 1
  let start : Sharing := { program := p.add 2, places := backwardPlaces }
  ((set.flatMap fun r => Text.octetRanges r.1 r.2).foldl (fun s rs =>
    let (_, s) := rs.foldl (fun (next, s) r => s.state [next, r.1, r.2] 0) (goal, s)
    { s with program := s.program.link 1 }) start).program

end Sharing

namespace Program

/-- The program with the states that read a character of a set. -/
def addSet (d : Direction) (set : CharSet) (p : Program) : Program :=
  if set.all (·.2 < 0x80) then (p.add 1).addArcs set.length
  else
    match d with
    | .forward => Sharing.readForward set p
    | .backward => Sharing.readBackward set p

/-- Cuts a list at each empty list in it. Empty lists in front count as one. -/
def chunks : List (List Nat) → List (List (List Nat))
  | ts =>
    let body := ts.dropWhile List.isEmpty
    let cut := body.foldr (fun t cs =>
      match t, cs with
      | [], cs => [] :: cs
      | t, c :: cs => (t :: c) :: cs
      | t, [] => [[t]]) [[]]
    if body.length = ts.length then cut else [] :: cut

/-- The program with the states that read one of several sequences of octets, where sequences that
start alike share states; `n` bounds their length. -/
def addTexts : Nat → List (List Nat) → Program → Program
  | 0, _, p => p
  | n + 1, ts, p =>
    let cut := chunks ts
    let p := cut.foldl (fun p chunk =>
      let heads := (chunk.filterMap List.head?).eraseDups
      let p := heads.foldl (fun p b =>
        let rest := chunk.filterMap fun t => if t.head? = some b then some t.tail else none
        if rest.all List.isEmpty then p else addTexts n rest p) p
      match heads.length with
      | 0 => p
      | 1 => (p.add 1).link 1
      | k => (p.addArcs k).link 1) p
    (p.add 1).link (cut.length - 1)

/-- The program with the states of a repetition, where `more` adds those of one round. -/
def addRounds (consumes : Bool) (least : Nat) (most : Option Nat) (more : Program → Program)
    (p : Program) : Program :=
  match least, most with
  | 0, some 1 => ((more (p.add 1)).add 1).link 2
  | 0, none => if consumes then (more (p.add 1)).link 2 else ((more p).add 3).link 4
  | least, none => ((grow more least p).add 1).link 2
  | least, some most =>
    let p := if least = 0 then p.add 1 else grow more least p
    if least < most then grow (fun p => (more (p.add 1)).link 2) (most - least) (p.add 1) else p

end Program

/-- The texts of the alternatives, if all of them are literals. -/
def literals? : Regex → Option (List (List Char))
  | .alt r s =>
    match r, literals? s with
    | .literal cs, some rest => some (cs :: rest)
    | _, _ => none
  | .literal cs => some [cs]
  | _ => none

/-- Where an expression stands among alternatives. -/
inductive Rank where
  /-- First, or no alternative at all. -/
  | first
  /-- Second. -/
  | second
  /-- Third or later. -/
  | later

/-- The program after an alternative; the second brings the states that tie alternatives up. -/
def Rank.tie : Rank → Program → Program
  | .first, p => p
  | .second, p => (p.add 2).link 2
  | .later, p => p.link 1

/-- The program with the states of an expression. -/
def compile (d : Direction) : Regex → Rank → Program → Program
  | .empty, rank, p => rank.tie (p.add 1)
  | .literal cs, rank, p => rank.tie (p.add (Text.size cs))
  | .chars s, rank, p => rank.tie (p.addSet d s)
  | .anchor _, rank, p => rank.tie (p.add 1)
  | .group _ r, rank, p =>
    match d with
    | .forward => rank.tie ((compile d r .first (p.add 1)).add 1)
    | .backward => rank.tie (compile d r .first p)
  | .seq r s, rank, p =>
    match d with
    | .forward => rank.tie (compile d s .first (compile d r .first p))
    | .backward => rank.tie (compile d r .first (compile d s .first p))
  | .alt r s, rank, p =>
    match rank, literals? (.alt r s) with
    | .first, some texts =>
      let texts := texts.map Text.octetsOf
      let texts := if d = .backward then texts.map List.reverse else texts
      Program.addTexts ((texts.map List.length).foldl max 0 + 1) texts (p.add 1)
    | .first, none => compile d s .second (compile d r .first p)
    | rank, _ => compile d s .later (rank.tie (compile d r .first p))
  | .rep r least most _, rank, p =>
    rank.tie (p.addRounds r.consumes least most (compile d r .first))

/-- Whether every match starts at the start of the text. -/
def isHeld : Regex → Bool
  | .anchor a => a = .textStart
  | .group _ r => r.isHeld
  | .seq r s => r.isHeld || (r.isBlank && s.isHeld)
  | .alt r s => r.isHeld && s.isHeld
  | .rep r least _ _ => 0 < least && r.isHeld
  | _ => false

/-- Whether every match ends at the end of the text. -/
def isHeldBack : Regex → Bool
  | .anchor a => a = .textEnd
  | .group _ r => r.isHeldBack
  | .seq r s => s.isHeldBack || (s.isBlank && r.isHeldBack)
  | .alt r s => r.isHeldBack && s.isHeldBack
  | .rep r least _ _ => 0 < least && r.isHeldBack
  | _ => false

/-- The program of an expression. Unless a match is held at the end where it starts, there are
states that pass over octets first. -/
def program (d : Direction) (r : Regex) : Program :=
  let held := match d with
    | .forward => r.isHeld
    | .backward => r.isHeldBack
  let start : Program := if held then Program.add 1 {} else ((Program.add 2 {}).addArcs 1).link 2
  match d with
  | .forward => (compile d r .first (start.add 1)).add 2
  | .backward => (compile d r .first start).add 1

/-- Whether the programs of an expression are small enough. -/
def isSmall (r : Regex) : Bool :=
  (r.program .forward).bytes ≤ Program.maxBytes && (r.program .backward).bytes ≤ Program.maxBytes

end Keyplan.Regex
