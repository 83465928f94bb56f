import Keyplan.Proofs.QuotedValues

/-!
# Readers of quoted texts

Where a quoted text ends, said without its reader (`Closes`): a double quote closes the text if an
even number of backslashes stands in front of it, a single quote if an even number of single quotes
does and none follows. Both readers stop at the first quote that closes the text, decode what stands
in front of it, and fail if there is none (`reads_readDouble`, `reads_readSingle`). They take one or
two characters for one, and behind these the same quotes close the rest (`ReadsToQuote.append`). The
main statement is `quoted_readers`.
-/

namespace Keyplan

namespace Text

/-- Reads a quoted text from its opening quote on; `read` is its reader from behind that quote. -/
def quotedBy? (quote : Char) (read : List Char → Option (List Char × List Char)) :
    List Char → Option (List Char × List Char)
  | [] => none
  | c :: cs => if c = quote then read cs else none

/-- Reads a double-quoted text from its opening quote on. -/
def doubleQuoted? : List Char → Option (List Char × List Char) :=
  quotedBy? '"' readDouble

/-- Reads a single-quoted text from its opening quote on. -/
def singleQuoted? : List Char → Option (List Char × List Char) :=
  quotedBy? '\'' readSingle

/-- What the body of a double-quoted text stands for. -/
def unescapeAll : List Char → List Char
  | [] => []
  | '\\' :: c :: cs => unescape c :: unescapeAll cs
  | c :: cs => c :: unescapeAll cs

/-- What the body of a single-quoted text stands for. -/
def halveQuotes : List Char → List Char
  | [] => []
  | '\'' :: '\'' :: cs => '\'' :: halveQuotes cs
  | c :: cs => c :: halveQuotes cs

/-- How many times in a row the character stands at the end of the text. -/
def trailing (c : Char) (cs : List Char) : Nat :=
  (cs.reverse.takeWhile (· == c)).length

/-- The text is a body, a quote that closes it, and a rest. A mark makes the character behind it a
part of the body; where quotes are their own marks, it is the second one of two. -/
def Closes (quote mark : Char) (cs body rest : List Char) : Prop :=
  cs = body ++ quote :: rest ∧ Even (trailing mark body) ∧
    (mark = quote → rest.head? ≠ some quote)

/-- The text is a body, the first quote that closes it, and a rest. -/
def ClosesFirst (quote mark : Char) (cs body rest : List Char) : Prop :=
  Closes quote mark cs body rest ∧
    ∀ body' rest', Closes quote mark cs body' rest' → body.length ≤ body'.length

/-! ## Characters in a row -/

/-- The characters at the end of two texts reach into the first if the second has no other. -/
lemma trailing_append (c : Char) (as bs : List Char) :
    trailing c (as ++ bs) =
      if trailing c bs = bs.length then bs.length + trailing c as else trailing c bs := by
  unfold trailing
  rw [List.reverse_append, List.takeWhile_append, List.length_reverse]
  split_ifs
  · rw [List.length_append, List.length_reverse]
  · rfl

/-- Another character in front changes nothing. -/
lemma trailing_cons_of_ne {c d : Char} (h : d ≠ c) (cs : List Char) :
    trailing c (d :: cs) = trailing c cs := by
  have hd : trailing c [d] = 0 := by simp [trailing, h]
  rw [← List.singleton_append, trailing_append, hd]
  split
  · next hcs => rw [hcs, Nat.add_zero]
  · rfl

/-- The character and any other one in front change nothing about the number being even. -/
lemma even_trailing_pair (c d : Char) (cs : List Char) :
    Even (trailing c (c :: d :: cs)) ↔ Even (trailing c cs) := by
  have hpair : Even (trailing c [c, d]) := by
    by_cases h : d = c
    · subst h
      simp [trailing]
    · simp [trailing, h]
  have happend : c :: d :: cs = [c, d] ++ cs := rfl
  rw [happend, trailing_append]
  split
  · next hcs =>
    rw [hcs, Nat.even_add]
    exact iff_of_eq (by simp [hpair])
  · exact Iff.rfl

/-- Behind another character the same quotes close the text. -/
lemma closes_cons_iff {quote mark c : Char} (hquote : c ≠ quote) (hmark : c ≠ mark)
    (cs body rest : List Char) :
    Closes quote mark ([c] ++ cs) body rest ↔
      ∃ inner, body = [c] ++ inner ∧ Closes quote mark cs inner rest := by
  constructor
  · rintro ⟨hcs, heven, hrest⟩
    cases body with
    | nil => exact absurd (List.cons.inj hcs).1 hquote
    | cons d body =>
      obtain ⟨rfl, htail⟩ := List.cons_eq_cons.1 hcs
      rw [trailing_cons_of_ne hmark] at heven
      exact ⟨body, rfl, htail, heven, hrest⟩
  · rintro ⟨inner, rfl, rfl, heven, hrest⟩
    refine ⟨rfl, ?_, hrest⟩
    rwa [List.singleton_append, trailing_cons_of_ne hmark]

/-- Behind a mark and the character that it takes the same quotes close the text. -/
lemma closes_pair_iff {quote mark c : Char} (h : mark = quote → c = quote)
    (cs body rest : List Char) :
    Closes quote mark ([mark, c] ++ cs) body rest ↔
      ∃ inner, body = [mark, c] ++ inner ∧ Closes quote mark cs inner rest := by
  constructor
  · rintro ⟨hcs, heven, hrest⟩
    match body, hcs with
    | [], hcs =>
      obtain ⟨hmark, rfl⟩ := List.cons_eq_cons.1 hcs
      exact absurd (congrArg some (h hmark)) (hrest hmark)
    | [d], hcs =>
      obtain ⟨rfl, -⟩ := List.cons_eq_cons.1 hcs
      simp [trailing] at heven
    | d :: e :: inner, hcs =>
      obtain ⟨rfl, htail⟩ := List.cons_eq_cons.1 hcs
      obtain ⟨rfl, hinner⟩ := List.cons_eq_cons.1 htail
      exact ⟨inner, rfl, hinner, (even_trailing_pair _ _ _).1 heven, hrest⟩
  · rintro ⟨inner, rfl, rfl, heven, hrest⟩
    exact ⟨rfl, (even_trailing_pair _ _ _).2 heven, hrest⟩

/-! ## Readers -/

section Readers

variable {quote mark : Char} {decode : List Char → List Char}
  {read : List Char → Option (List Char × List Char)} {cs : List Char}

/-- The reader decodes the text up to the first quote that closes it, or fails as there is none. -/
def ReadsToQuote (quote mark : Char) (decode : List Char → List Char)
    (read : List Char → Option (List Char × List Char)) (cs : List Char) : Prop :=
  (∃ body rest, ClosesFirst quote mark cs body rest ∧ read cs = some (decode body, rest)) ∨
    (read cs = none ∧ ∀ body rest, ¬ Closes quote mark cs body rest)

/-- A reader goes on behind characters that it takes for one, if the same quotes close the text. -/
lemma ReadsToQuote.append {front : List Char} {c : Char}
    (h : ReadsToQuote quote mark decode read cs)
    (hcloses : ∀ body rest, Closes quote mark (front ++ cs) body rest ↔
      ∃ inner, body = front ++ inner ∧ Closes quote mark cs inner rest)
    (hdecode : ∀ body, decode (front ++ body) = c :: decode body)
    (hread : read (front ++ cs) = (read cs).map fun (s, rest) => (c :: s, rest)) :
    ReadsToQuote quote mark decode read (front ++ cs) := by
  rcases h with ⟨body, rest, ⟨hbody, hfirst⟩, hsome⟩ | ⟨hnone, hno⟩
  · refine .inl ⟨front ++ body, rest, ⟨(hcloses _ _).2 ⟨body, rfl, hbody⟩, ?_⟩, ?_⟩
    · intro body' rest' hbody'
      obtain ⟨inner, rfl, hinner⟩ := (hcloses _ _).1 hbody'
      rw [List.length_append, List.length_append]
      exact Nat.add_le_add_left (hfirst inner rest' hinner) _
    · rw [hread, hsome, hdecode]
      rfl
  · refine .inr ⟨by rw [hread, hnone]; rfl, ?_⟩
    intro body rest hbody
    obtain ⟨inner, -, hinner⟩ := (hcloses _ _).1 hbody
    exact hno inner rest hinner

/-- What is read is what the body in front of the first closing quote stands for. -/
lemma ReadsToQuote.eq_some_iff {s rest : List Char} (h : ReadsToQuote quote mark decode read cs) :
    read cs = some (s, rest) ↔
      ∃ body, ClosesFirst quote mark cs body rest ∧ decode body = s := by
  rcases h with ⟨body, rest', hfirst, hsome⟩ | ⟨hnone, hno⟩
  · rw [hsome]
    constructor
    · intro heq
      obtain ⟨rfl, rfl⟩ := Prod.mk.inj (Option.some.inj heq)
      exact ⟨body, hfirst, rfl⟩
    · rintro ⟨body', hfirst', rfl⟩
      -- of two first quotes none is behind the other
      have hlength := Nat.le_antisymm (hfirst.2 _ _ hfirst'.1) (hfirst'.2 _ _ hfirst.1)
      obtain ⟨rfl, htail⟩ := List.append_inj (hfirst.1.1.symm.trans hfirst'.1.1) hlength
      rw [(List.cons.inj htail).2]
  · refine iff_of_false (by simp [hnone]) ?_
    rintro ⟨body, hfirst, -⟩
    exact hno body rest hfirst.1

/-- Reading fails if no quote closes the text. -/
lemma ReadsToQuote.eq_none_iff (h : ReadsToQuote quote mark decode read cs) :
    read cs = none ↔ ∀ body rest, ¬ Closes quote mark cs body rest := by
  rcases h with ⟨body, rest, hfirst, hsome⟩ | ⟨hnone, hno⟩
  · exact iff_of_false (by simp [hsome]) fun hno => hno body rest hfirst.1
  · exact iff_of_true hnone hno

/-- What is read from the opening quote on has the two quotes around its body. -/
lemma quotedBy?_eq_some_iff {s rest : List Char}
    (h : ∀ cs, ReadsToQuote quote mark decode read cs) :
    quotedBy? quote read cs = some (s, rest) ↔
      ∃ body, cs = quote :: (body ++ quote :: rest) ∧
        ClosesFirst quote mark (body ++ quote :: rest) body rest ∧ decode body = s := by
  constructor
  · intro hread
    cases cs with
    | nil => cases hread
    | cons c cs =>
      rw [quotedBy?] at hread
      split at hread
      · next hc =>
        obtain ⟨body, hfirst, hbody⟩ := (h cs).eq_some_iff.1 hread
        obtain rfl := hfirst.1.1
        exact ⟨body, by rw [hc], hfirst, hbody⟩
      · cases hread
  · rintro ⟨body, rfl, hfirst, hbody⟩
    rw [quotedBy?, if_pos rfl]
    exact (h _).eq_some_iff.2 ⟨body, hfirst, hbody⟩

/-- Reading from the opening quote on fails if there is none, or no quote behind it closes the
text. -/
lemma quotedBy?_eq_none_iff (h : ∀ cs, ReadsToQuote quote mark decode read cs) :
    quotedBy? quote read cs = none ↔
      ∀ tail body rest, cs = quote :: tail → ¬ Closes quote mark tail body rest := by
  cases cs with
  | nil => exact iff_of_true rfl nofun
  | cons c cs =>
    rw [quotedBy?]
    split
    · next hc =>
      rw [(h cs).eq_none_iff]
      constructor
      · intro hno tail body rest hcs
        rw [← (List.cons.inj hcs).2]
        exact hno body rest
      · intro hno body rest
        exact hno cs body rest (by rw [hc])
    · next hc => exact iff_of_true rfl fun _ _ _ hcs => absurd (List.cons.inj hcs).1 hc

/-- There is nothing to read in an empty text. -/
lemma not_closes_nil (body rest : List Char) : ¬ Closes quote mark [] body rest := by
  rintro ⟨hcs, -⟩
  simp at hcs

/-- A quote in front closes the text, unless it is the mark of a second one. -/
lemma closesFirst_nil (h : mark = quote → cs.head? ≠ some quote) :
    ClosesFirst quote mark (quote :: cs) [] cs :=
  ⟨⟨rfl, Even.zero, h⟩, fun _ _ _ => Nat.zero_le _⟩

end Readers

/-- The reader of double-quoted texts stops at the first quote that closes the text. -/
lemma reads_readDouble (cs : List Char) : ReadsToQuote '"' '\\' unescapeAll readDouble cs := by
  fun_induction readDouble cs with
  | case1 => exact .inr ⟨rfl, not_closes_nil⟩
  | case2 cs => exact .inl ⟨[], cs, closesFirst_nil (absurd · (by decide)), rfl⟩
  | case3 =>
    refine .inr ⟨rfl, ?_⟩
    rintro body rest ⟨hcs, -⟩
    cases body <;> simp at hcs
  | case4 c cs ih =>
    exact ih.append (closes_pair_iff (absurd · (by decide)) cs) (fun _ => rfl) rfl
  | case5 c cs hquote hlast hescape ih =>
    have hslash : c ≠ '\\' := by
      intro hc
      cases cs with
      | nil => exact hlast hc rfl
      | cons d cs => exact hescape d cs hc rfl
    refine ih.append (closes_cons_iff hquote hslash cs) ?_ (readDouble_cons_of_ne hquote hslash cs)
    intro body
    rw [List.singleton_append, unescapeAll]
    exact fun _ _ h _ => hslash h

/-- The reader of single-quoted texts stops at the first quote that closes the text. -/
lemma reads_readSingle (cs : List Char) : ReadsToQuote '\'' '\'' halveQuotes readSingle cs := by
  fun_induction readSingle cs with
  | case1 => exact .inr ⟨rfl, not_closes_nil⟩
  | case2 cs ih => exact ih.append (closes_pair_iff (fun _ => rfl) cs) (fun _ => rfl) rfl
  | case3 cs hnext =>
    have hread : readSingle ('\'' :: cs) = some ([], cs) := by
      rw [readSingle]
      exact hnext
    refine .inl ⟨[], cs, closesFirst_nil ?_, hread⟩
    intro _ hcs
    obtain ⟨tail, rfl⟩ := List.head?_eq_some_iff.1 hcs
    exact hnext tail rfl
  | case4 c cs _ hquote ih =>
    refine ih.append (closes_cons_iff hquote hquote cs) ?_ (readSingle_cons_of_ne hquote cs)
    intro body
    rw [List.singleton_append, halveQuotes]
    exact fun _ h _ => hquote h

/-- A key is a text in double quotes or in single ones, or else goes up to a colon or a quote. -/
lemma readKey?_eq (cs : List Char) :
    Scalar.readKey? cs = ((doubleQuoted? cs).or (singleQuoted? cs)).or
      (match cs.takeWhile Scalar.isKeyChar with
        | [] => none
        | key => some (trimRight key, cs.dropWhile Scalar.isKeyChar)) := by
  unfold Scalar.readKey?
  split
  · next cs => simp [doubleQuoted?, singleQuoted?, quotedBy?, Scalar.isKeyChar]
  · next cs => simp [doubleQuoted?, singleQuoted?, quotedBy?, Scalar.isKeyChar]
  · next hdouble hsingle =>
    cases cs with
    | nil => rfl
    | cons c cs =>
      have hnotDouble : c ≠ '"' := fun h => hdouble cs (by rw [h])
      have hnotSingle : c ≠ '\'' := fun h => hsingle cs (by rw [h])
      rw [doubleQuoted?, singleQuoted?, quotedBy?, quotedBy?, if_neg hnotDouble, if_neg hnotSingle]
      rfl

/-- Both readers of quoted texts read back what is written, whatever follows the closing quote,
except another single quote behind a single one. What they read is a body between its opening quote
and the first one that closes it, decoded, and what follows; they fail if there is no opening quote
or none behind it that closes the text. Keys are read by them. -/
theorem quoted_readers :
    (∀ s rest, doubleQuoted? ('"' :: (escape s ++ '"' :: rest)) = some (s, rest)) ∧
    (∀ s rest, rest.head? ≠ some '\'' →
      singleQuoted? ('\'' :: (doubleQuotes s ++ '\'' :: rest)) = some (s, rest)) ∧
    (∀ cs s rest, doubleQuoted? cs = some (s, rest) ↔
      ∃ body, cs = '"' :: (body ++ '"' :: rest) ∧
        ClosesFirst '"' '\\' (body ++ '"' :: rest) body rest ∧ unescapeAll body = s) ∧
    (∀ cs s rest, singleQuoted? cs = some (s, rest) ↔
      ∃ body, cs = '\'' :: (body ++ '\'' :: rest) ∧
        ClosesFirst '\'' '\'' (body ++ '\'' :: rest) body rest ∧ halveQuotes body = s) ∧
    (∀ cs, doubleQuoted? cs = none ↔
      ∀ tail body rest, cs = '"' :: tail → ¬ Closes '"' '\\' tail body rest) ∧
    (∀ cs, singleQuoted? cs = none ↔
      ∀ tail body rest, cs = '\'' :: tail → ¬ Closes '\'' '\'' tail body rest) ∧
    ∀ cs, Scalar.readKey? cs = ((doubleQuoted? cs).or (singleQuoted? cs)).or
      (match cs.takeWhile Scalar.isKeyChar with
        | [] => none
        | key => some (trimRight key, cs.dropWhile Scalar.isKeyChar)) :=
  ⟨readDouble_escape, fun s _ h => readSingle_doubleQuotes s h,
    fun _ _ _ => quotedBy?_eq_some_iff reads_readDouble,
    fun _ _ _ => quotedBy?_eq_some_iff reads_readSingle,
    fun _ => quotedBy?_eq_none_iff reads_readDouble,
    fun _ => quotedBy?_eq_none_iff reads_readSingle, readKey?_eq⟩

/-- A text in single quotes is followed by one in double quotes that has a quote in it. Two quotes
in a row close nothing. -/
theorem quoted_readers_samples :
    singleQuoted? "'it''s', \"a\\\"b\" # c".toList =
      some ("it's".toList, ", \"a\\\"b\" # c".toList) ∧
    doubleQuoted? "\"a\\\"b\" # c".toList = some ("a\"b".toList, " # c".toList) ∧
    ∀ body rest, ¬ Closes '\'' '\'' "it''s".toList body rest := by
  obtain ⟨hdouble, hsingle, -, -, -, hnone, -⟩ := quoted_readers
  exact ⟨hsingle "it's".toList _ (by decide), hdouble "a\"b".toList " # c".toList,
    fun body rest => (hnone "'it''s".toList).1 rfl _ body rest rfl⟩

end Text

end Keyplan
