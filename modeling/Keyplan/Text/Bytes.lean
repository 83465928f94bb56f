/-!
# Texts measured in bytes

Positions in a text count the bytes of its UTF-8 form. This module measures a text and cuts it at
such a position.
-/

namespace Keyplan.Text

/-- Number of bytes that characters take in UTF-8. -/
def size : List Char → Nat
  | [] => 0
  | c :: cs => c.utf8Size + size cs

@[simp] theorem size_nil : size [] = 0 := rfl

@[simp] theorem size_cons (c : Char) (cs : List Char) : size (c :: cs) = c.utf8Size + size cs :=
  rfl

/-- Texts are as long as they are together. -/
@[simp] theorem size_append (as bs : List Char) : size (as ++ bs) = size as + size bs := by
  induction as with
  | nil => simp
  | cons a as ih => simp [ih, Nat.add_assoc]

/-- Measuring a string and measuring its characters give the same number. -/
theorem size_ofList (cs : List Char) : (String.ofList cs).utf8ByteSize = size cs := by
  induction cs with
  | nil => rfl
  | cons c cs ih =>
    have split : String.ofList (c :: cs) = String.singleton c ++ String.ofList cs := by
      apply String.toList_injective
      simp
    rw [split, String.utf8ByteSize_append, ih, size_cons]
    simp

/-- The characters of a string have its size. -/
@[simp] theorem size_toList (s : String) : size s.toList = s.utf8ByteSize := by
  rw [← size_ofList, String.ofList_toList]

/-- The characters that lie before a byte position. -/
def takeBytes : Nat → List Char → List Char
  | _, [] => []
  | n, c :: cs => if c.utf8Size ≤ n then c :: takeBytes (n - c.utf8Size) cs else []

/-- The characters from a byte position on. -/
def dropBytes : Nat → List Char → List Char
  | _, [] => []
  | n, c :: cs => if c.utf8Size ≤ n then dropBytes (n - c.utf8Size) cs else c :: cs

/-- A position cuts the text without loss. -/
theorem takeBytes_append_dropBytes (n : Nat) (cs : List Char) :
    takeBytes n cs ++ dropBytes n cs = cs := by
  induction cs generalizing n with
  | nil => rfl
  | cons c cs ih =>
    by_cases h : c.utf8Size ≤ n
    · simp [takeBytes, dropBytes, h, ih]
    · simp [takeBytes, dropBytes, h]

/-- The size of a part is the position at which the part ends. -/
theorem takeBytes_size (as bs : List Char) : takeBytes (size as) (as ++ bs) = as := by
  induction as with
  | nil =>
    cases bs with
    | nil => rfl
    | cons b bs => simp [takeBytes, Nat.not_le.2 b.utf8Size_pos]
  | cons a as ih => simp [takeBytes, ih]

/-- The size of a part is the position at which the rest starts. -/
theorem dropBytes_size (as bs : List Char) : dropBytes (size as) (as ++ bs) = bs := by
  have h := takeBytes_append_dropBytes (size as) (as ++ bs)
  rw [takeBytes_size] at h
  exact List.append_cancel_left h

end Keyplan.Text
