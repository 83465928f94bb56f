import Keyplan.Invocation
import Mathlib

/-!
# Searching for layouts

The keywords of layouts (`Invocation.IsKeyword`), and what a search depends on: it finds the same
layout whatever follows the layout's parenthesis (`search_append`, `exists_head_of_search`), at
whatever position the text stands (`search_relocate`), it does not matter whether the text in front
of the origin is walked over or cut off (`search_of_origin`), and characters that begin no keyword
are walked over (`search_append_of_ne`). A text without layouts is walked over up to a character
that no head reaches over (`search_append_of_none`); with that character it is `Passed`.
-/

namespace Keyplan.Invocation

/-- The text is a basic keyword, or one of its variants. -/
def IsKeyword (keyword : List Char) : Prop :=
  ∃ base suffix, (base = "KEYMAP".toList ∨ base = "LAYOUT".toList) ∧ keyword = base ++ suffix ∧
    (suffix = [] ∨ ∃ word, word ≠ [] ∧ suffix = '_' :: word ∧ ∀ c ∈ word, Text.isWord c = true)

/-- A parenthesis belongs to no word. -/
lemma isWord_opening : Text.isWord '(' = false := by
  decide

/-- Every character of a keyword belongs to a word. -/
lemma IsKeyword.isWord {keyword} (h : IsKeyword keyword) : ∀ c ∈ keyword, Text.isWord c = true := by
  obtain ⟨base, suffix, hbase, rfl, hsuffix⟩ := h
  have hbaseWord : ∀ c ∈ base, Text.isWord c = true := by
    rcases hbase with rfl | rfl
    · exact List.all_eq_true.1 (by decide)
    · exact List.all_eq_true.1 (by decide)
  intro c hc
  rcases List.mem_append.1 hc with hc | hc
  · exact hbaseWord c hc
  · rcases hsuffix with rfl | ⟨word, -, rfl, hword⟩
    · cases hc
    · rcases List.mem_cons.1 hc with rfl | hc
      · decide
      · exact hword c hc

/-- A variant stops at a parenthesis. -/
lemma variant_append {suffix}
    (h : suffix = [] ∨
      ∃ word, word ≠ [] ∧ suffix = '_' :: word ∧ ∀ c ∈ word, Text.isWord c = true)
    (rest : List Char) : variant (suffix ++ '(' :: rest) = (suffix, '(' :: rest) := by
  rcases h with rfl | ⟨word, hne, rfl, hword⟩
  · rfl
  · have htake : (word ++ '(' :: rest).takeWhile Text.isWord = word := by
      rw [List.takeWhile_append_of_pos hword, List.takeWhile_cons_of_neg (by simp [isWord_opening]),
        List.append_nil]
    have hdrop : (word ++ '(' :: rest).dropWhile Text.isWord = '(' :: rest := by
      rw [List.dropWhile_append_of_pos hword, List.dropWhile_cons_of_neg (by simp [isWord_opening])]
    obtain ⟨c, word, rfl⟩ := List.exists_cons_of_ne_nil hne
    rw [List.cons_append, variant, htake, hdrop]

/-- What `variant` takes off is nothing, or an underscore and a word. -/
lemma variant_fst (cs : List Char) :
    (variant cs).1 = [] ∨
      ∃ word, word ≠ [] ∧ (variant cs).1 = '_' :: word ∧ ∀ c ∈ word, Text.isWord c = true := by
  unfold variant
  split
  · next cs =>
    split
    · exact .inl rfl
    · next c word hword =>
      refine .inr ⟨c :: word, by simp, rfl, ?_⟩
      rw [← hword]
      intro d hd
      exact List.all_eq_true.1 List.all_takeWhile d hd
  · exact .inl rfl

/-- A layout's head is a keyword and a parenthesis. -/
lemma head?_eq_some_iff {cs keyword rest} :
    head? cs = some (keyword, rest) ↔ cs = keyword ++ '(' :: rest ∧ IsKeyword keyword := by
  constructor
  · intro h
    refine ⟨eq_of_head? h, ?_⟩
    unfold head? at h
    split at h
    · cases h
    · next base afterBase hbase =>
      have hvariant := variant_fst afterBase
      split at h
      · next suffix rest' hsuffix =>
        cases h
        rw [hsuffix] at hvariant
        refine ⟨base, suffix, ?_, rfl, hvariant⟩
        unfold base? at hbase
        split at hbase <;> cases hbase
        · exact .inl rfl
        · exact .inr rfl
      · cases h
  · rintro ⟨rfl, base, suffix, hbase, rfl, hsuffix⟩
    rcases hbase with rfl | rfl
    · simp [head?, base?, variant_append hsuffix]
    · simp [head?, base?, variant_append hsuffix]

/-- A layout's head does not depend on what follows its parenthesis. -/
lemma head?_append {cs as keyword rest}
    (h : head? (cs ++ '(' :: as) = some (keyword, rest)) (bs : List Char) :
    ∃ rest', head? (cs ++ '(' :: bs) = some (keyword, rest') := by
  obtain ⟨heq, hkeyword⟩ := head?_eq_some_iff.1 h
  -- the parenthesis after `cs` is none of the keyword's characters
  obtain ⟨more, rfl⟩ : keyword <+: cs := by
    rcases List.append_eq_append_iff.1 heq with ⟨more, rfl, hmore⟩ | ⟨more, rfl, -⟩
    · cases more with
      | nil => exact ⟨[], by simp⟩
      | cons c more =>
        obtain ⟨rfl, -⟩ := List.cons.inj hmore
        have := hkeyword.isWord '(' (by simp)
        rw [isWord_opening] at this
        cases this
    · exact ⟨more, rfl⟩
  cases more with
  | nil => exact ⟨bs, head?_eq_some_iff.2 ⟨by simp, hkeyword⟩⟩
  | cons c more =>
    rw [List.append_assoc] at heq
    obtain ⟨rfl, -⟩ := List.cons.inj (List.append_cancel_left heq)
    exact ⟨more ++ '(' :: bs, head?_eq_some_iff.2 ⟨by simp, hkeyword⟩⟩

/-- What a search finds stands in the text, and its positions are those of its parts. -/
lemma search_eq_some {origin pos before cs inv rest}
    (h : search origin before pos cs = some (inv, rest)) :
    ∃ front, cs = front ++ inv.keyword.toList ++ '(' :: rest ∧ IsKeyword inv.keyword.toList ∧
      inv.start = pos + Text.size front ∧
      inv.argsStart = inv.start + Text.size inv.keyword.toList + 1 := by
  induction cs generalizing before pos with
  | nil => cases h
  | cons c cs ih =>
    rw [search] at h
    split at h
    · next keyword rest' hhead =>
      cases h
      split at hhead
      · obtain ⟨hcs, hkeyword⟩ := head?_eq_some_iff.1 hhead
        exact ⟨[], by simpa using hcs, by simpa using hkeyword, rfl, by simp⟩
      · cases hhead
    · obtain ⟨front, rfl, hkeyword, hstart, hargs⟩ := ih h
      exact ⟨c :: front, rfl, hkeyword, by rw [hstart, Text.size_cons, Nat.add_assoc], hargs⟩

/-- A search does not look beyond the parenthesis of the layout that it finds. -/
lemma search_append {origin pos before as bs inv}
    (h : search origin before pos (as ++ bs) = some (inv, bs)) (cs : List Char) :
    search origin before pos (as ++ cs) = some (inv, cs) := by
  induction as generalizing before pos with
  | nil =>
    have := length_lt_of_search h
    simp at this
  | cons c as ih =>
    rw [List.cons_append, search] at h ⊢
    split at h
    · next keyword rest hhead =>
      cases h
      split at hhead
      · next hstart =>
        obtain ⟨heq, hkeyword⟩ := head?_eq_some_iff.1 hhead
        have hfront : c :: as = keyword ++ ['('] := by
          refine List.append_cancel_right (?_ : c :: as ++ bs = keyword ++ ['('] ++ bs)
          simpa using heq
        have hhead' : head? (c :: (as ++ cs)) = some (keyword, cs) := by
          refine head?_eq_some_iff.2 ⟨?_, hkeyword⟩
          rw [← List.cons_append, hfront]
          simp
        rw [if_pos hstart, hhead']
      · cases hhead
    · next hnone =>
      obtain ⟨front, heq, -⟩ := search_eq_some h
      obtain ⟨before', hopening⟩ : ∃ before', as = before' ++ ['('] := by
        refine ⟨front ++ inv.keyword.toList, ?_⟩
        refine List.append_cancel_right
          (?_ : as ++ bs = front ++ inv.keyword.toList ++ ['('] ++ bs)
        simpa using heq
      split
      · next keyword rest hhead =>
        split at hhead
        · next hstart =>
          -- a head that reaches into what is replaced has its parenthesis in front of that
          rw [if_pos hstart] at hnone
          rw [hopening, List.append_assoc, ← List.cons_append] at hhead hnone
          obtain ⟨rest', hhead'⟩ := head?_append hhead bs
          rw [List.singleton_append, hhead'] at hnone
          cases hnone
        · cases hhead
      · exact ih h

/-- What is found ends a head of the text, and it is found with any text behind that head. -/
lemma exists_head_of_search {origin pos before cs inv rest}
    (h : search origin before pos cs = some (inv, rest)) :
    ∃ head, cs = head ++ rest ∧ inv.argsStart = pos + Text.size head ∧
      ∀ rest', search origin before pos (head ++ rest') = some (inv, rest') := by
  obtain ⟨front, rfl, -, hstart, hargs⟩ := search_eq_some h
  refine ⟨front ++ inv.keyword.toList ++ ['('], by simp, ?_, ?_⟩
  · have hparen : Char.utf8Size '(' = 1 := rfl
    rw [hargs, hstart]
    simp only [Text.size_append, Text.size_cons, Text.size_nil, hparen, Nat.add_assoc, Nat.add_zero]
  · have hfound : search origin before pos (front ++ inv.keyword.toList ++ ['('] ++ rest) =
        some (inv, rest) := by simpa using h
    exact search_append hfound

/-- A search finds the same in a text that stands elsewhere. -/
lemma search_relocate {f : Nat → Nat} {pos pos' : Nat} (hf : ∀ n, f (pos + n) = pos' + n)
    (before : Option Char) (cs : List Char) :
    search 0 before pos' cs = (search 0 before pos cs).map fun found =>
      (⟨found.1.keyword, f found.1.start, f found.1.argsStart⟩, found.2) := by
  induction cs generalizing before pos pos' with
  | nil => rfl
  | cons c cs ih =>
    have hf' : ∀ n, f (pos + c.utf8Size + n) = pos' + c.utf8Size + n := by
      intro n
      rw [Nat.add_assoc, hf, Nat.add_assoc]
    have hpos : f pos = pos' := hf 0
    have hargs : ∀ n, f (pos + n + 1) = pos' + n + 1 := fun n => hf (n + 1)
    rw [search, search]
    simp only [Nat.zero_le, true_and]
    split
    · simp [hpos, hargs]
    · exact ih hf' _

/-- A search finds the same in a text that stands further on. -/
lemma search_add (d : Nat) (before : Option Char) (pos : Nat) (cs : List Char) :
    search 0 before (pos + d) cs = (search 0 before pos cs).map fun found =>
      (⟨found.1.keyword, found.1.start + d, found.1.argsStart + d⟩, found.2) :=
  search_relocate (f := (· + d)) (fun n => Nat.add_right_comm pos n d) before cs

/-- A map that moves a text moves what follows a layout in it. -/
lemma move_argsStart {f : Nat → Nat} {pos pos' : Nat} (hf : ∀ n, f (pos + n) = pos' + n)
    {before cs inv rest} (h : search 0 before pos cs = some (inv, rest)) (n : Nat) :
    f (inv.argsStart + n) = f inv.argsStart + n := by
  obtain ⟨front, -, -, hstart, hargs⟩ := search_eq_some h
  rw [hargs, hstart]
  simp only [Nat.add_assoc, hf]

/-- An origin that the text has passed makes no difference. -/
lemma search_of_le {origin pos} (h : origin ≤ pos) (before : Option Char) (cs : List Char) :
    search origin before pos cs = search 0 before pos cs := by
  induction cs generalizing before pos with
  | nil => rfl
  | cons c cs ih =>
    rw [search, search]
    simp only [h, Nat.zero_le, true_and]
    split
    · rfl
    · exact ih (Nat.le_trans h (Nat.le_add_right _ _)) _

/-- A search from an origin is a search of the text from there on, after the character before. -/
lemma search_of_origin {origin pos : Nat} {as : List Char} {c : Char}
    (h : origin = pos + Text.size (as ++ [c])) (before : Option Char) (bs : List Char) :
    search origin before pos (as ++ c :: bs) = search 0 (some c) origin bs := by
  induction as generalizing before pos with
  | nil =>
    have hpos : pos + c.utf8Size = origin := by simp [h]
    have hlt : ¬ origin ≤ pos := by
      have := c.utf8Size_pos
      omega
    rw [List.nil_append, search]
    simp only [hlt, false_and, if_false, hpos]
    exact search_of_le (Nat.le_refl _) _ _
  | cons d as ih =>
    have hrest : origin = pos + d.utf8Size + Text.size (as ++ [c]) := by
      rw [h, List.cons_append, Text.size_cons, Nat.add_assoc]
    have hlt : ¬ origin ≤ pos := by
      have := d.utf8Size_pos
      omega
    rw [List.cons_append, search]
    simp only [hlt, false_and, if_false]
    exact ih hrest _

/-- A search finds a keyword that stands in front. -/
lemma search_keyword {keyword before} (h : IsKeyword keyword) (hbefore : startsAfter before = true)
    (pos : Nat) (rest : List Char) :
    search 0 before pos (keyword ++ '(' :: rest) =
      some (⟨String.ofList keyword, pos, pos + Text.size keyword + 1⟩, rest) := by
  have hhead : head? (keyword ++ '(' :: rest) = some (keyword, rest) :=
    head?_eq_some_iff.2 ⟨rfl, h⟩
  obtain ⟨c, cs, hcs⟩ : ∃ c cs, keyword ++ '(' :: rest = c :: cs :=
    List.exists_cons_of_ne_nil (by simp)
  rw [hcs] at hhead ⊢
  rw [search, if_pos ⟨Nat.zero_le _, hbefore⟩, hhead]

/-- A keyword begins with one of two letters. -/
lemma head?_eq_none {c : Char} (hK : c ≠ 'K') (hL : c ≠ 'L') (cs : List Char) :
    head? (c :: cs) = none := by
  cases h : head? (c :: cs) with
  | none => rfl
  | some found =>
    obtain ⟨keyword, rest⟩ := found
    obtain ⟨heq, base, suffix, hbase, rfl, -⟩ := head?_eq_some_iff.1 h
    rcases hbase with rfl | rfl
    · exact absurd (List.cons.inj heq).1 hK
    · exact absurd (List.cons.inj heq).1 hL

/-- A search walks over characters that begin no keyword. -/
lemma search_append_of_ne {as : List Char} {c : Char} (h : ∀ d ∈ as ++ [c], d ≠ 'K' ∧ d ≠ 'L')
    (before : Option Char) (pos : Nat) (bs : List Char) :
    search 0 before pos (as ++ c :: bs) = search 0 (some c) (pos + Text.size (as ++ [c])) bs := by
  induction as generalizing before pos with
  | nil =>
    obtain ⟨hK, hL⟩ := h c (by simp)
    rw [List.nil_append, search, head?_eq_none hK hL, ite_self]
    simp
  | cons a as ih =>
    obtain ⟨hK, hL⟩ := h a (by simp)
    have hrest : ∀ d ∈ as ++ [c], d ≠ 'K' ∧ d ≠ 'L' := fun d hd => h d (List.mem_cons_of_mem a hd)
    rw [List.cons_append, search, head?_eq_none hK hL, ite_self]
    simp only [ih hrest, List.cons_append, Text.size_cons, Nat.add_assoc]

/-- A search asks only whether a keyword may start after the character before the text. -/
lemma search_of_startsAfter {before before'} (h : startsAfter before = startsAfter before')
    (origin pos : Nat) (cs : List Char) :
    search origin before pos cs = search origin before' pos cs := by
  cases cs with
  | nil => rfl
  | cons c cs => rw [search, search, h]

/-- What is found is found in a longer text. -/
lemma search_append_of_some {origin pos before cs inv rest}
    (h : search origin before pos cs = some (inv, rest)) (more : List Char) :
    search origin before pos (cs ++ more) = some (inv, rest ++ more) := by
  obtain ⟨head, rfl, -, hfound⟩ := exists_head_of_search h
  rw [List.append_assoc]
  exact hfound (rest ++ more)

/-- A layout's head does not reach over a character that is neither part of a word nor a
parenthesis. -/
lemma head?_of_append {as bs keyword rest} {c : Char} (hword : Text.isWord c = false)
    (hopening : c ≠ '(') (h : head? (as ++ c :: bs) = some (keyword, rest)) :
    ∃ rest', head? as = some (keyword, rest') := by
  obtain ⟨heq, hkeyword⟩ := head?_eq_some_iff.1 h
  have hmem : c ∉ keyword ++ ['('] := by
    rw [List.mem_append, List.mem_singleton]
    rintro (hc | hc)
    · rw [hkeyword.isWord c hc] at hword
      cases hword
    · exact hopening hc
  have heq' : as ++ c :: bs = keyword ++ ['('] ++ rest := by simpa using heq
  rcases List.append_eq_append_iff.1 heq' with ⟨more, hmore, htail⟩ | ⟨more, rfl, -⟩
  · cases more with
    | nil => exact ⟨[], head?_eq_some_iff.2 ⟨by simpa using hmore.symm, hkeyword⟩⟩
    | cons d more =>
      obtain ⟨rfl, -⟩ := List.cons.inj htail
      exact absurd (hmore ▸ List.mem_append_right as (List.mem_cons_self ..)) hmem
  · exact ⟨more, head?_eq_some_iff.2 ⟨by simp, hkeyword⟩⟩

/-- A search walks over a text without layouts up to a character that no head reaches over. Behind
it any keyword may start. -/
lemma search_append_of_none {as before pos} {c : Char} (h : search 0 before pos as = none)
    (hword : Text.isWord c = false) (hopening : c ≠ '(') (bs : List Char) :
    search 0 before pos (as ++ c :: bs) = search 0 none (pos + Text.size (as ++ [c])) bs := by
  induction as generalizing before pos with
  | nil =>
    have hK : c ≠ 'K' := by
      rintro rfl
      revert hword
      decide
    have hL : c ≠ 'L' := by
      rintro rfl
      revert hword
      decide
    have hstarts : startsAfter (some c) = startsAfter none := by simp [startsAfter, hword]
    rw [List.nil_append, search, head?_eq_none hK hL, ite_self]
    simpa using search_of_startsAfter hstarts 0 (pos + c.utf8Size) bs
  | cons a as ih =>
    rw [search] at h
    split at h
    · cases h
    · next hnone =>
      rw [List.cons_append, search]
      split
      · next keyword rest hhead =>
        split at hhead
        · next hstart =>
          rw [← List.cons_append] at hhead
          obtain ⟨rest', hhead'⟩ := head?_of_append hword hopening hhead
          rw [if_pos hstart, hhead'] at hnone
          cases hnone
        · cases hhead
      · simp only [ih h, List.cons_append, Text.size_cons, Nat.add_assoc]

/-- A search walks over the text, and what follows is searched as if it stood alone. -/
def Passed (cs : List Char) : Prop :=
  ∀ pos rest, search 0 none pos (cs ++ rest) = search 0 none (pos + Text.size cs) rest

/-- Texts that are walked over one by one are walked over together. -/
lemma Passed.append {as bs} (ha : Passed as) (hb : Passed bs) : Passed (as ++ bs) := by
  intro pos rest
  rw [List.append_assoc, ha, hb, Text.size_append, Nat.add_assoc]

/-- A text without layouts is walked over with the character behind it, unless that goes on with a
word or is a parenthesis. -/
lemma passed_of_search {as} {c : Char} (h : search 0 none 0 as = none)
    (hword : Text.isWord c = false) (hopening : c ≠ '(') : Passed (as ++ [c]) := by
  intro pos rest
  have hnone : search 0 none pos as = none := by
    rw [← Nat.zero_add pos, search_add, h]
    rfl
  rw [List.append_assoc, List.singleton_append]
  exact search_append_of_none hnone hword hopening rest

/-- Asking for the first layout of a text is searching all of it. -/
lemma find?_zero (text : String) :
    find? text 0 = .ok ((search 0 none 0 text.toList).map Prod.fst) := by
  simp [find?]

end Keyplan.Invocation
