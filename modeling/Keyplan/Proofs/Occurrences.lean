import Keyplan.Proofs.Reading
import Keyplan.Proofs.Spans

/-!
# Where layouts stand

What a search finds, said without the search: `StandsIn` says of a layout that it stands in a text.
A search walks over one character after the other, and what stands in the rest of the text then
stands in all of it (`occurs_cons_iff`); so it finds the first layout from its origin on
(`search_cases`), and only the place of that layout matters, not the origin (`find?_of_le`). Layouts
that are found one after the other are `Found`. They stand in order and do not overlap
(`Found.ordered`), and each takes seven bytes at least, so there are only so many of them
(`Found.length_le`). The main statement is `find?_leftmost`.
-/

namespace Keyplan

namespace Invocation
open Text

/-- The layout stands in the text: its keyword, which goes on with no word in front of it, and its
parenthesis. -/
def StandsIn (inv : Invocation) (text : String) : Prop :=
  ∃ front rest, text.toList = front ++ inv.keyword.toList ++ '(' :: rest ∧
    IsKeyword inv.keyword.toList ∧ (∀ c, front.getLast? = some c → isWord c = false) ∧
    inv.start = size front ∧ inv.argsStart = inv.start + size inv.keyword.toList + 1

/-- The layout stands in `cs`, which stands at `pos` after the character `before`, and `rest`
follows its parenthesis. -/
def Occurs (before : Option Char) (pos : Nat) (cs : List Char) (inv : Invocation)
    (rest : List Char) : Prop :=
  ∃ front, cs = front ++ inv.keyword.toList ++ '(' :: rest ∧ IsKeyword inv.keyword.toList ∧
    startsAfter (front.getLast?.or before) = true ∧ inv.start = pos + size front ∧
    inv.argsStart = inv.start + size inv.keyword.toList + 1

variable {before : Option Char} {pos origin : Nat} {cs rest : List Char} {inv : Invocation}

/-- A word starts behind anything but another character of a word. -/
lemma startsAfter_iff : startsAfter before = true ↔ ∀ c, before = some c → isWord c = false := by
  cases before <;> simp [startsAfter]

/-- An invocation stands in a text if it occurs there from the start on. -/
lemma standsIn_iff {text : String} :
    inv.StandsIn text ↔ ∃ rest, Occurs none 0 text.toList inv rest := by
  simp only [StandsIn, Occurs, Option.or_none, startsAfter_iff, Nat.zero_add]
  exact exists_comm

/-- What occurs from a place on starts there or behind it. -/
lemma Occurs.le_start (h : Occurs before pos cs inv rest) : pos ≤ inv.start := by
  obtain ⟨front, -, -, -, hstart, -⟩ := h
  omega

/-- The character in front of a text moves on with the text. -/
lemma getLast?_cons_or (c : Char) (front : List Char) (before : Option Char) :
    (c :: front).getLast?.or before = front.getLast?.or (some c) := by
  rw [List.getLast?_cons, Option.some_or, Option.or_some]

/-- A layout stands at the start of a text or behind the first character. -/
lemma occurs_cons_iff {c : Char} :
    Occurs before pos (c :: cs) inv rest ↔
      (startsAfter before = true ∧ head? (c :: cs) = some (inv.keyword.toList, rest) ∧
        inv.start = pos ∧ inv.argsStart = pos + size inv.keyword.toList + 1) ∨
      Occurs (some c) (pos + c.utf8Size) cs inv rest := by
  constructor
  · rintro ⟨front, hcs, hkeyword, hbefore, hstart, hargs⟩
    cases front with
    | nil =>
      obtain rfl : inv.start = pos := hstart
      exact .inl ⟨hbefore, head?_eq_some_iff.2 ⟨hcs, hkeyword⟩, rfl, hargs⟩
    | cons d front =>
      rw [List.cons_append, List.cons_append] at hcs
      obtain ⟨rfl, htail⟩ := List.cons.inj hcs
      rw [getLast?_cons_or] at hbefore
      exact .inr ⟨front, htail, hkeyword, hbefore, by rw [hstart, size_cons, Nat.add_assoc], hargs⟩
  · rintro (⟨hbefore, hhead, hstart, hargs⟩ | ⟨front, rfl, hkeyword, hbefore, hstart, hargs⟩)
    · obtain ⟨hcs, hkeyword⟩ := head?_eq_some_iff.1 hhead
      exact ⟨[], hcs, hkeyword, hbefore, hstart, by rw [hstart, hargs]⟩
    · rw [← getLast?_cons_or] at hbefore
      exact ⟨c :: front, rfl, hkeyword, hbefore, by rw [hstart, size_cons, Nat.add_assoc], hargs⟩

/-- At one place there is one layout. -/
lemma Occurs.unique {inv' rest'} (h : Occurs before pos cs inv rest)
    (h' : Occurs before pos cs inv' rest') (hstart : inv.start = inv'.start) :
    inv = inv' ∧ rest = rest' := by
  obtain ⟨front, hcs, hkeyword, -, hpos, hargs⟩ := h
  obtain ⟨front', hcs', hkeyword', -, hpos', hargs'⟩ := h'
  rw [List.append_assoc] at hcs hcs'
  have hsize : size front = size front' := by omega
  have htail : inv'.keyword.toList ++ '(' :: rest' = inv.keyword.toList ++ '(' :: rest := by
    rw [← dropBytes_size front' (inv'.keyword.toList ++ '(' :: rest'), ← hcs', hcs, ← hsize,
      dropBytes_size]
  have hhead := head?_eq_some_iff.2 ⟨htail, hkeyword⟩
  rw [head?_eq_some_iff.2 ⟨rfl, hkeyword'⟩] at hhead
  obtain ⟨hword, hrest⟩ := Prod.mk.inj (Option.some.inj hhead)
  obtain ⟨keyword, start, argsStart⟩ := inv
  obtain ⟨keyword', start', argsStart'⟩ := inv'
  obtain rfl : keyword' = keyword := String.toList_injective hword
  simp only at hstart hargs hargs'
  subst hstart
  exact ⟨by rw [hargs, hargs'], hrest.symm⟩

/-- A search finds the first layout that starts at its origin or later, if there is one. -/
lemma search_cases (origin : Nat) (before : Option Char) (pos : Nat) (cs : List Char) :
    (∃ inv rest, search origin before pos cs = some (inv, rest) ∧ Occurs before pos cs inv rest ∧
      origin ≤ inv.start ∧
      ∀ other rest', Occurs before pos cs other rest' → origin ≤ other.start →
        inv.start ≤ other.start) ∨
    (search origin before pos cs = none ∧
      ∀ inv rest, Occurs before pos cs inv rest → inv.start < origin) := by
  induction cs generalizing before pos with
  | nil =>
    refine .inr ⟨rfl, ?_⟩
    rintro inv rest ⟨front, hcs, -⟩
    simp at hcs
  | cons c cs ih =>
    rw [search]
    split
    · next keyword rest hhead =>
      split at hhead
      · next hcond =>
        refine .inl ⟨_, rest, rfl, ?_, hcond.1, fun _ _ hother _ => hother.le_start⟩
        refine occurs_cons_iff.2 (.inl ⟨hcond.2, ?_, rfl, ?_⟩)
        · rw [hhead, String.toList_ofList]
        · rw [String.toList_ofList]
      · cases hhead
    · next hnone =>
      -- what stands at the start of the text stands before the origin
      have hcons : ∀ inv rest, Occurs before pos (c :: cs) inv rest →
          inv.start < origin ∨ Occurs (some c) (pos + c.utf8Size) cs inv rest := by
        intro inv rest h
        rcases occurs_cons_iff.1 h with ⟨hbefore, hhead, hstart, -⟩ | h
        · rcases Nat.lt_or_ge pos origin with hlt | hge
          · exact .inl (hstart ▸ hlt)
          · rw [if_pos ⟨hge, hbefore⟩, hhead] at hnone
            cases hnone
        · exact .inr h
      rcases ih (some c) (pos + c.utf8Size) with ⟨inv, rest, hsearch, h, hle, hleast⟩ | ⟨hsearch, h⟩
      · refine .inl ⟨inv, rest, hsearch, occurs_cons_iff.2 (.inr h), hle, ?_⟩
        intro other rest' hother horigin
        rcases hcons other rest' hother with hlt | hother
        · omega
        · exact hleast other rest' hother horigin
      · refine .inr ⟨hsearch, ?_⟩
        intro inv rest hinv
        rcases hcons inv rest hinv with hlt | hinv
        · exact hlt
        · exact h inv rest hinv

variable {text : String}

/-- A keyword has at least six bytes. -/
lemma IsKeyword.le_size {keyword} (h : IsKeyword keyword) : 6 ≤ size keyword := by
  obtain ⟨base, suffix, hbase, rfl, -⟩ := h
  have hsize : size base = 6 := by
    rcases hbase with rfl | rfl <;> rfl
  rw [size_append]
  omega

/-- A layout takes the six bytes of a basic keyword and its parenthesis at least, and stands within
the text. -/
lemma StandsIn.bounds (h : inv.StandsIn text) :
    inv.start + 7 ≤ inv.argsStart ∧ inv.argsStart ≤ text.utf8ByteSize := by
  obtain ⟨front, rest, htext, hkeyword, -, hstart, hargs⟩ := h
  have hparen : Char.utf8Size '(' = 1 := rfl
  have hsize := hkeyword.le_size
  refine ⟨by omega, ?_⟩
  rw [← size_toList, htext, size_append, size_append, size_cons, hparen]
  omega

/-- The positions of a layout cut its keyword and its parenthesis out of the text. -/
lemma StandsIn.slices (h : inv.StandsIn text) :
    Slice text.toList inv.start (inv.argsStart - 1) inv.keyword.toList ∧
      Slice text.toList (inv.argsStart - 1) inv.argsStart ['('] := by
  obtain ⟨front, rest, htext, -, -, hstart, hargs⟩ := h
  have hparen : size ['('] = 1 := rfl
  refine ⟨⟨front, '(' :: rest, htext, hstart.symm, by omega⟩,
    ⟨front ++ inv.keyword.toList, rest, by simpa using htext, ?_, ?_⟩⟩
  · rw [size_append]
    omega
  · omega

/-- What is found is the first layout of the text from the origin on. -/
lemma find?_eq_some_iff :
    find? text origin = .ok (some inv) ↔ inv.StandsIn text ∧ origin ≤ inv.start ∧
      ∀ other : Invocation, other.StandsIn text → origin ≤ other.start →
        inv.start ≤ other.start := by
  constructor
  · intro h
    rw [find?] at h
    split at h
    · cases h
    obtain ⟨⟨inv, rest⟩, hsearch, rfl⟩ := Option.map_eq_some_iff.1 (Except.ok.inj h)
    rcases search_cases origin none 0 text.toList with
      ⟨inv', rest', hsearch', hoccurs, hle, hleast⟩ | ⟨hnone, -⟩
    · cases hsearch.symm.trans hsearch'
      refine ⟨standsIn_iff.2 ⟨rest, hoccurs⟩, hle, ?_⟩
      intro other hother horigin
      obtain ⟨rest', hother⟩ := standsIn_iff.1 hother
      exact hleast other rest' hother horigin
    · cases hsearch.symm.trans hnone
  · rintro ⟨hstands, hle, hleast⟩
    have hbeyond : ¬ text.utf8ByteSize + 1 < origin := by
      have := hstands.bounds
      omega
    obtain ⟨rest, hoccurs⟩ := standsIn_iff.1 hstands
    rw [find?, if_neg hbeyond]
    rcases search_cases origin none 0 text.toList with
      ⟨inv', rest', hsearch, hoccurs', hle', hleast'⟩ | ⟨-, hnone⟩
    · have hge := hleast inv' (standsIn_iff.2 ⟨rest', hoccurs'⟩) hle'
      have hstart := Nat.le_antisymm hge (hleast' inv rest hoccurs hle)
      obtain ⟨rfl, -⟩ := hoccurs.unique hoccurs' hstart
      rw [hsearch]
      rfl
    · exact absurd (hnone inv rest hoccurs) (Nat.not_lt.2 hle)

/-- Nothing is found if all layouts of the text start before the origin. -/
lemma find?_eq_none_iff :
    find? text origin = .ok none ↔ origin ≤ text.utf8ByteSize + 1 ∧
      ∀ inv : Invocation, inv.StandsIn text → inv.start < origin := by
  rw [find?]
  split
  · next hbeyond =>
    constructor
    · intro h
      cases h
    · exact fun h => absurd hbeyond (Nat.not_lt.2 h.1)
  · next hwithin =>
    rw [Except.ok.injEq, Option.map_eq_none_iff, and_iff_right (Nat.not_lt.1 hwithin)]
    rcases search_cases origin none 0 text.toList with
      ⟨inv, rest, hsearch, hoccurs, hle, -⟩ | ⟨hnone, hall⟩
    · constructor
      · intro hnone
        cases hsearch.symm.trans hnone
      · intro hall
        exact absurd (hall inv (standsIn_iff.2 ⟨rest, hoccurs⟩)) (Nat.not_lt.2 hle)
    · refine iff_of_true hnone ?_
      intro inv hinv
      obtain ⟨rest, hinv⟩ := standsIn_iff.1 hinv
      exact hall inv rest hinv

/-- A search that starts later finds the same layout, as long as it does not start behind it. -/
lemma find?_of_le {origin' : Nat} (h : find? text origin = .ok (some inv)) (hle : origin ≤ origin')
    (hstart : origin' ≤ inv.start) : find? text origin' = .ok (some inv) := by
  obtain ⟨hstands, -, hleast⟩ := find?_eq_some_iff.1 h
  exact find?_eq_some_iff.2
    ⟨hstands, hstart, fun other hother hother' => hleast other hother (hle.trans hother')⟩

/-- These layouts are found one after the other. The first search starts at `origin`, each other one
where the arguments of the layout before it start, or later; the next one is to start at `stop`. -/
inductive Found (text : String) (origin : Nat) : List Invocation → Nat → Prop where
  | start :
    Found text origin [] origin
  | next {invs stop inv stop'} :
    Found text origin invs stop →
    find? text stop = .ok (some inv) →
    inv.argsStart ≤ stop' →
    Found text origin (invs ++ [inv]) stop'

variable {invs : List Invocation} {stop : Nat}

/-- The layouts that are found stand between the origin and the start of the next search. -/
lemma Found.bounds (h : Found text origin invs stop) :
    origin ≤ stop ∧ ∀ inv ∈ invs, inv.StandsIn text ∧ origin ≤ inv.start ∧
      inv.argsStart ≤ stop := by
  induction h with
  | start => exact ⟨Nat.le_refl _, nofun⟩
  | @next invs stop inv stop' _ hfind hargs ih =>
    obtain ⟨hle, hinvs⟩ := ih
    obtain ⟨hstands, hstop, -⟩ := find?_eq_some_iff.1 hfind
    have hbounds := hstands.bounds
    refine ⟨by omega, ?_⟩
    intro inv' hinv'
    rcases List.mem_append.1 hinv' with hinv' | hinv'
    · obtain ⟨hstands', hstart', hargs'⟩ := hinvs inv' hinv'
      exact ⟨hstands', hstart', by omega⟩
    · obtain rfl := List.mem_singleton.1 hinv'
      exact ⟨hstands, by omega, hargs⟩

/-- Layouts that are found one after the other stand in order and do not overlap. -/
lemma Found.ordered (h : Found text origin invs stop) :
    invs.Pairwise fun a b => a.start < b.start ∧ a.argsStart ≤ b.start := by
  induction h with
  | start => exact .nil
  | @next invs stop inv stop' hfound hfind hargs ih =>
    refine List.pairwise_append.2 ⟨ih, List.pairwise_singleton _ _, ?_⟩
    intro a ha b hb
    obtain rfl := List.mem_singleton.1 hb
    obtain ⟨hstands, -, hstop⟩ := hfound.bounds.2 a ha
    obtain ⟨-, hstart, -⟩ := find?_eq_some_iff.1 hfind
    have hbounds := hstands.bounds
    exact ⟨by omega, by omega⟩

/-- There are not more layouts than there is place for from the origin on. -/
lemma Found.length_le (h : Found text origin invs stop) :
    origin + 7 * invs.length ≤ stop ∧
      (invs ≠ [] → origin + 7 * invs.length ≤ text.utf8ByteSize) := by
  induction h with
  | start => exact ⟨Nat.le_refl _, fun h => absurd rfl h⟩
  | @next invs stop inv stop' _ hfind hargs ih =>
    obtain ⟨hstands, hstart, -⟩ := find?_eq_some_iff.1 hfind
    have hbounds := hstands.bounds
    rw [List.length_append, List.length_singleton]
    exact ⟨by omega, fun _ => by omega⟩

end Invocation

namespace Keymap
open Invocation

variable {text : String} {layers : List (List Node)} {stop : Nat}

/-- The layouts whose argument lists are read are found one after the other. -/
lemma Reached.exists_found (h : Reached text layers stop) :
    ∃ invs, Found text 0 invs stop ∧ invs.length = layers.length := by
  induction h with
  | start => exact ⟨[], .start, rfl⟩
  | @next layers origin inv keys stop left _ hinv hread ih =>
    obtain ⟨invs, hfound, hlength⟩ := ih
    obtain ⟨body, xs, -, hstop, -⟩ := Grammar.readArguments_eq_ok_iff.1 hread
    have hargs : inv.argsStart ≤ stop := by omega
    exact ⟨invs ++ [inv], hfound.next hinv hargs, by simp [hlength]⟩

/-- The layers of a keymap are reached at its end, behind which there is no further layout. -/
lemma reached_of_parse [PatternEngine] {keys m} (h : parse text keys = .ok m) :
    Reached text m.layers m.stop ∧ find? text m.stop = .ok none := by
  obtain ⟨layers, stop, hreached, hnone | ⟨inv, e, hinv, hread⟩⟩ := exists_reached text
  · by_cases hne : layers = []
    · subst hne
      obtain rfl : stop = 0 := by
        generalize hnil : ([] : List (List Node)) = layers at hreached
        cases hreached with
        | start => rfl
        | next => simp at hnil
      have hsearch : search 0 none 0 text.toList = none := by simpa [find?_zero] using hnone
      simp only [parse, hsearch] at h
      cases h
    · obtain ⟨keyword, settings, hparse⟩ := hreached.exists_parse_eq hnone hne keys
      rw [h] at hparse
      split at hparse
      · cases hparse
      · cases hparse
        exact ⟨hreached, hnone⟩
  · cases h.symm.trans (hreached.parse_error hinv hread keys)

end Keymap

namespace Invocation
open Text Keymap

/-- A search finds the first layout that stands in the text at its origin or later, and nothing if
there is none; the origin may also be inside a character. The positions that are found cut the
keyword and its parenthesis out of the text. The layout is the same for all origins up to its start.
Layouts that are found one after the other stand in order and do not overlap, so there is place for
only so many of them. The layouts of a keymap are found like that, up to its end, behind which there
is none; and every reading of a text comes to an end. -/
theorem find?_leftmost [PatternEngine] (text : String) (origin : Nat) :
    (∀ inv : Invocation, find? text origin = .ok (some inv) ↔
      inv.StandsIn text ∧ origin ≤ inv.start ∧
        ∀ other : Invocation, other.StandsIn text → origin ≤ other.start →
          inv.start ≤ other.start) ∧
    (find? text origin = .ok none ↔ origin ≤ text.utf8ByteSize + 1 ∧
      ∀ inv : Invocation, inv.StandsIn text → inv.start < origin) ∧
    (∀ inv : Invocation, inv.StandsIn text →
      Slice text.toList inv.start (inv.argsStart - 1) inv.keyword.toList ∧
        Slice text.toList (inv.argsStart - 1) inv.argsStart ['(']) ∧
    (∀ inv origin', find? text origin = .ok (some inv) → origin ≤ origin' → origin' ≤ inv.start →
      find? text origin' = .ok (some inv)) ∧
    (∀ invs stop, Found text origin invs stop →
      (invs.Pairwise fun a b => a.start < b.start ∧ a.argsStart ≤ b.start) ∧
      (∀ inv ∈ invs, origin ≤ inv.start ∧ inv.start < inv.argsStart ∧ inv.argsStart ≤ stop) ∧
      (invs ≠ [] → origin + 7 * invs.length ≤ text.utf8ByteSize)) ∧
    (∀ keys m, parse text keys = .ok m → find? text m.stop = .ok none ∧
      ∃ invs, Found text 0 invs m.stop ∧ invs.length = m.layers.length) ∧
    ∃ layers stop invs, Reached text layers stop ∧ Found text 0 invs stop ∧
      invs.length = layers.length ∧ (find? text stop = .ok none ∨
        ∃ inv e, find? text stop = .ok (some inv) ∧ readRow text inv = .error e) := by
  refine ⟨fun _ => find?_eq_some_iff, find?_eq_none_iff, fun _ => StandsIn.slices,
    fun _ _ => find?_of_le, ?_, ?_, ?_⟩
  · intro invs stop hfound
    refine ⟨hfound.ordered, ?_, hfound.length_le.2⟩
    intro inv hinv
    obtain ⟨hstands, hstart, hargs⟩ := hfound.bounds.2 inv hinv
    have hbounds := hstands.bounds
    exact ⟨hstart, by omega, hargs⟩
  · intro keys m hm
    obtain ⟨hreached, hnone⟩ := reached_of_parse hm
    exact ⟨hnone, hreached.exists_found⟩
  · obtain ⟨layers, stop, hreached, hend⟩ := exists_reached text
    obtain ⟨invs, hfound, hlength⟩ := hreached.exists_found
    exact ⟨layers, stop, invs, hreached, hfound, hlength, hend⟩

/-- A search that starts inside the first character passes over a keyword that goes on with a word,
and the keyword within the first variant is none of its own. -/
theorem find?_leftmost_variants :
    find? "é XLAYOUT( KEYMAP_LAYOUT(A) LAYOUT_é(B)" 1 = .ok (some ⟨"KEYMAP_LAYOUT", 12, 26⟩) ∧
    find? "é XLAYOUT( KEYMAP_LAYOUT(A) LAYOUT_é(B)" 12 = .ok (some ⟨"KEYMAP_LAYOUT", 12, 26⟩) ∧
    (∀ other : Invocation, other.StandsIn "é XLAYOUT( KEYMAP_LAYOUT(A) LAYOUT_é(B)" →
      1 ≤ other.start → 12 ≤ other.start) ∧
    Found "é XLAYOUT( KEYMAP_LAYOUT(A) LAYOUT_é(B)" 1
      [⟨"KEYMAP_LAYOUT", 12, 26⟩, ⟨"LAYOUT_é", 29, 39⟩] 41 ∧
    1 + 7 * [(⟨"KEYMAP_LAYOUT", 12, 26⟩ : Invocation), ⟨"LAYOUT_é", 29, 39⟩].length ≤
      "é XLAYOUT( KEYMAP_LAYOUT(A) LAYOUT_é(B)".utf8ByteSize := by
  have hfirst : find? "é XLAYOUT( KEYMAP_LAYOUT(A) LAYOUT_é(B)" 1 =
      .ok (some ⟨"KEYMAP_LAYOUT", 12, 26⟩) := by decide +kernel
  have hsecond : find? "é XLAYOUT( KEYMAP_LAYOUT(A) LAYOUT_é(B)" 28 =
      .ok (some ⟨"LAYOUT_é", 29, 39⟩) := by decide +kernel
  have hfound : Found "é XLAYOUT( KEYMAP_LAYOUT(A) LAYOUT_é(B)" 1
      [⟨"KEYMAP_LAYOUT", 12, 26⟩, ⟨"LAYOUT_é", 29, 39⟩] 41 :=
    .next (.next .start hfirst (by decide)) hsecond (by decide)
  obtain ⟨hiff, -, -, hlater, hchain, -⟩ :=
    find?_leftmost "é XLAYOUT( KEYMAP_LAYOUT(A) LAYOUT_é(B)" 1
  obtain ⟨-, -, hleast⟩ := (hiff _).1 hfirst
  exact ⟨hfirst, hlater _ 12 hfirst (by decide) (by decide), hleast, hfound,
    (hchain _ _ hfound).2.2 (by simp)⟩

end Invocation

end Keyplan
