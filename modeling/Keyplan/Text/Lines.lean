/-!
# Lines and parts of a text

Splitting a text into lines, and finding a piece of text in it.
-/

namespace Keyplan.Text

/-- The lines of a text. A line ends at a line feed, or at a carriage return and a line feed; what
follows the last line end is a line unless it is empty. -/
def lines : List Char → List (List Char)
  | [] => []
  | '\n' :: cs => [] :: lines cs
  | '\r' :: '\n' :: cs => [] :: lines cs
  | c :: cs =>
    match lines cs with
    | [] => [[c]]
    | line :: rest => (c :: line) :: rest

/-- The text before and the text after the first occurrence of `piece`. -/
def cut? (piece : List Char) : List Char → Option (List Char × List Char)
  | [] => if piece = [] then some ([], []) else none
  | c :: cs =>
    if piece.isPrefixOf (c :: cs) then some ([], (c :: cs).drop piece.length)
    else (cut? piece cs).map fun (before, after) => (c :: before, after)

end Keyplan.Text
