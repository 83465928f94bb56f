import Keyplan.Text.Bytes
import Keyplan.Text.Word

/-!
# Layout invocations

A layer is written as a call of `KEYMAP`, `LAYOUT` or one of their variants such as
`LAYOUT_ortho_4x12`. The call counts wherever its keyword does not continue a word.
-/

namespace Keyplan

/-- The head of a layout: its keyword and its opening parenthesis. -/
structure Invocation where
  /-- The keyword, variant included. -/
  keyword : String
  /-- Where the keyword starts. -/
  start : Nat
  /-- The position just after the opening parenthesis. -/
  argsStart : Nat
  deriving DecidableEq, Repr

namespace Invocation

/-- Reads one of the two basic keywords. -/
def base? : List Char → Option (List Char × List Char)
  | 'K' :: 'E' :: 'Y' :: 'M' :: 'A' :: 'P' :: cs => some (['K', 'E', 'Y', 'M', 'A', 'P'], cs)
  | 'L' :: 'A' :: 'Y' :: 'O' :: 'U' :: 'T' :: cs => some (['L', 'A', 'Y', 'O', 'U', 'T'], cs)
  | _ => none

/-- Reads a variant: an underscore and at least one word character, or nothing. -/
def variant : List Char → List Char × List Char
  | '_' :: cs =>
    match cs.takeWhile Text.isWord with
    | [] => ([], '_' :: cs)
    | c :: word => ('_' :: c :: word, cs.dropWhile Text.isWord)
  | cs => ([], cs)

/-- Reads a keyword and its opening parenthesis. The result holds the keyword and what follows
the parenthesis. -/
def head? (cs : List Char) : Option (List Char × List Char) :=
  match base? cs with
  | none => none
  | some (base, afterBase) =>
    match variant afterBase with
    | (suffix, '(' :: rest) => some (base ++ suffix, rest)
    | _ => none

/-- The keyword and its parenthesis are what `head?` takes off the text. -/
theorem eq_of_head? {cs keyword rest : List Char} (h : head? cs = some (keyword, rest)) :
    cs = keyword ++ '(' :: rest := by
  have hvariant : ∀ cs : List Char, (variant cs).1 ++ (variant cs).2 = cs := by
    intro cs
    unfold variant
    split
    · next cs =>
      split
      · rfl
      · next c word hword => simp [← hword, List.takeWhile_append_dropWhile]
    · rfl
  have hbase : ∀ {cs base rest : List Char}, base? cs = some (base, rest) → cs = base ++ rest := by
    intro cs base rest h
    unfold base? at h
    split at h <;> cases h <;> rfl
  unfold head? at h
  split at h
  · cases h
  · next base afterBase hb =>
    split at h
    · next suffix rest' hv =>
      cases h
      have := hvariant afterBase
      rw [hv] at this
      rw [hbase hb, ← this]
      simp
    · cases h

/-- Whether a keyword may start after the given character. -/
def startsAfter : Option Char → Bool
  | none => true
  | some c => !Text.isWord c

/-- Searches `cs`, which stands at `pos` after the character `before`, for the first invocation
that starts at `origin` or later. The result holds the invocation and the text of its arguments. -/
def search (origin : Nat) (before : Option Char) (pos : Nat) :
    List Char → Option (Invocation × List Char)
  | [] => none
  | c :: cs =>
    match (if origin ≤ pos ∧ startsAfter before then head? (c :: cs) else none) with
    | some (keyword, rest) =>
      some (⟨String.ofList keyword, pos, pos + Text.size keyword + 1⟩, rest)
    | none => search origin (some c) (pos + c.utf8Size) cs

/-- The arguments that a search finds are shorter than the text searched. -/
theorem length_lt_of_search {origin pos : Nat} {before : Option Char} {cs rest : List Char}
    {inv : Invocation} (h : search origin before pos cs = some (inv, rest)) :
    rest.length < cs.length := by
  induction cs generalizing before pos with
  | nil => cases h
  | cons c cs ih =>
    rw [search] at h
    split at h
    · next keyword rest' hhead =>
      cases h
      split at hhead
      · rw [eq_of_head? hhead]
        simp
        omega
      · cases hhead
    · have := ih h
      simp
      omega

/-- A search was asked to start beyond the text. -/
inductive SearchError where
  /-- The start is more than one position past the end. -/
  | startBeyondEnd
  deriving DecidableEq, Repr

/-- The first invocation of a text that starts at `origin` or later. The start may be at most one
position past the end of the text, where there is nothing to find. -/
def find? (text : String) (origin : Nat) : Except SearchError (Option Invocation) :=
  if text.utf8ByteSize + 1 < origin then .error .startBeyondEnd
  else .ok ((search origin none 0 text.toList).map Prod.fst)

end Invocation

end Keyplan
