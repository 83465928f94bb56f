import Keyplan.Text.Ranges

/-!
# Blank characters

The 25 characters with the `White_Space` property, and cutting them off the ends of a text.
-/

namespace Keyplan.Text

/-- The blank characters. -/
def blankRanges : Ranges :=
  [(0x9, 0xD), (0x20, 0x20), (0x85, 0x85), (0xA0, 0xA0), (0x1680, 0x1680), (0x2000, 0x200A),
    (0x2028, 0x2029), (0x202F, 0x202F), (0x205F, 0x205F), (0x3000, 0x3000)]

/-- Whether a character is blank. -/
def isBlank (c : Char) : Bool :=
  blankRanges.has c.toNat

/-- The text without the blanks at its start. -/
def trimLeft (cs : List Char) : List Char :=
  cs.dropWhile isBlank

/-- The text without the blanks at its end. -/
def trimRight (cs : List Char) : List Char :=
  (cs.reverse.dropWhile isBlank).reverse

/-- The text without the blanks at its two ends. -/
def trim (cs : List Char) : List Char :=
  trimLeft (trimRight cs)

/-- Blanks in front of a text are cut. -/
theorem trimLeft_append {as : List Char} (h : ∀ c ∈ as, isBlank c = true) (bs : List Char) :
    trimLeft (as ++ bs) = trimLeft bs :=
  List.dropWhile_append_of_pos h

/-- Blanks behind a text are cut. -/
theorem trimRight_append {bs : List Char} (h : ∀ c ∈ bs, isBlank c = true) (as : List Char) :
    trimRight (as ++ bs) = trimRight as := by
  have hrev : ∀ c ∈ bs.reverse, isBlank c = true := fun c hc => h c (List.mem_reverse.1 hc)
  rw [trimRight, trimRight, List.reverse_append, List.dropWhile_append_of_pos hrev]

/-- Blanks are cut off the end only behind the last character that is not blank. -/
theorem trimRight_append_cons {c : Char} (hc : isBlank c = false) (as bs : List Char) :
    trimRight (as ++ c :: bs) = as ++ c :: trimRight bs := by
  rw [trimRight, trimRight, List.reverse_append, List.reverse_cons, List.append_assoc,
    List.dropWhile_append]
  split
  · next hblank =>
    rw [List.isEmpty_iff] at hblank
    simp [hblank, hc]
  · simp

/-- Cutting blanks at the end leaves the front of the text. -/
theorem trimRight_isPrefix (cs : List Char) : trimRight cs <+: cs := by
  have h : trimRight cs <+: cs.reverse.reverse := List.reverse_prefix.2 (List.dropWhile_suffix _)
  rwa [List.reverse_reverse] at h

/-- Blanks around a text do not matter. -/
theorem trim_append {lead trail : List Char} {c : Char} (hlead : ∀ c ∈ lead, isBlank c = true)
    (htrail : ∀ c ∈ trail, isBlank c = true) (hc : isBlank c = false) (cs : List Char) :
    trim (lead ++ c :: cs ++ trail) = trim (c :: cs) := by
  have hcs : trimRight (c :: cs) = c :: trimRight cs := trimRight_append_cons hc [] cs
  rw [trim, trim, trimRight_append htrail, trimRight_append_cons hc, trimLeft_append hlead, hcs]

end Keyplan.Text
