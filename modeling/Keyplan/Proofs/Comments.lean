import Keyplan.Proofs.Preamble

/-!
# Comments in front of a keymap

Comments are skipped inside argument lists only. Layouts are searched for in the text as it stands,
so a layout inside a comment is a layer like any other (`parse_layer_in_comment`). A comment is
inert if its body has no layout: the marks around the body are no part of a head, so the search
walks over the whole comment (`IsComment.passed`). A layout in the body is found in the comment
(`IsComment.search_of_some`). The main statement is `parse_comment`.
-/

namespace Keyplan

/-- The text `c` is a comment with a line feed behind it. -/
inductive IsComment (c body : String) : Prop where
  | block :
    c = "/*" ++ body ++ "*/\n" →
    ¬ ['*', '/'] <:+: body.toList →
    IsComment c body
  | line :
    c = "//" ++ body ++ "\n" →
    '\n' ∉ body.toList →
    IsComment c body

namespace IsComment
open Invocation

/-- A search walks over a comment whose body has no layout. -/
lemma passed {c body} (h : IsComment c body) (hbody : search 0 none 0 body.toList = none) :
    Passed c.toList := by
  -- each part ends with a mark or a line feed, which no head reaches over
  cases h with
  | block hc _ =>
    subst hc
    have hopen : Passed (['/'] ++ ['*']) := passed_of_search rfl (by decide) (by decide)
    have hinner : Passed (body.toList ++ ['*']) := passed_of_search hbody (by decide) (by decide)
    have hclose : Passed (['/'] ++ ['\n']) := passed_of_search rfl (by decide) (by decide)
    simpa using (hopen.append hinner).append hclose
  | line hc _ =>
    subst hc
    have hopen : Passed (['/'] ++ ['/']) := passed_of_search rfl (by decide) (by decide)
    have hinner : Passed (body.toList ++ ['\n']) := passed_of_search hbody (by decide) (by decide)
    simpa using hopen.append hinner

/-- The body of a comment stands behind two characters that a search walks over. -/
lemma exists_marks {c body} (h : IsComment c body) :
    ∃ front back, c.toList = front ++ (body.toList ++ back) ∧ Passed front ∧
      Text.size front = 2 := by
  cases h with
  | block hc _ =>
    exact ⟨['/'] ++ ['*'], "*/\n".toList, by simp [hc],
      passed_of_search rfl (by decide) (by decide), rfl⟩
  | line hc _ =>
    exact ⟨['/'] ++ ['/'], "\n".toList, by simp [hc],
      passed_of_search rfl (by decide) (by decide), rfl⟩

/-- A search of a text behind a comment finds the first layout of the comment. -/
lemma search_of_some {c body inv rest} (h : IsComment c body)
    (hbody : search 0 none 0 body.toList = some (inv, rest)) (t : String) :
    ∃ rest', search 0 none 0 (c ++ t).toList =
      some (⟨inv.keyword, inv.start + 2, inv.argsStart + 2⟩, rest') := by
  obtain ⟨front, back, hc, hfront, hsize⟩ := h.exists_marks
  have hmoved := search_add 2 none 0 body.toList
  rw [hbody] at hmoved
  have htext : (c ++ t).toList = front ++ (body.toList ++ (back ++ t.toList)) := by simp [hc]
  rw [htext, hfront, hsize]
  exact ⟨_, search_append_of_some hmoved _⟩

end IsComment

namespace Keymap
open Invocation

/-- The first layer of a keymap is the argument list behind the first layout of its text. -/
lemma exists_row_of_search [PatternEngine] {text keys m first rest} (h : parse text keys = .ok m)
    (hfirst : search 0 none 0 text.toList = some (first, rest)) :
    m.keyword = first.keyword ∧ ∃ row more stop left, m.layers = row :: more ∧
      readArguments 1 first.argsStart (Text.dropBytes first.argsStart text.toList) =
        .ok (row, stop, left) := by
  obtain ⟨_, _, hfirst', hlayers, hkeyword, -⟩ := parse_eq_ok_iff.1 h
  cases hfirst.symm.trans hfirst'
  obtain ⟨body, xs, row, left, more, rfl, hmore, hsplit, hlist, -⟩ := hlayers.exists_further
  obtain ⟨head, htext, hargs, -⟩ := exists_head_of_search hfirst
  have hdrop : Text.dropBytes first.argsStart text.toList = body ++ left := by
    rw [htext, hargs, Nat.zero_add, Text.dropBytes_size]
  have hread := hlist.readArguments hsplit left
  rw [← hdrop] at hread
  exact ⟨hkeyword, row, more, _, left, hmore, hread⟩

/-- A comment in front of a keymap is inert if its body has no layout: the layers are the same at
moved positions, and edits of the keymap leave the comment alone. If its body has one, that is the
first layout of the text; whatever is then read has its keyword, and the first layer is read from
inside the comment on. -/
theorem parse_comment [PatternEngine] {c body t : String} {keys m} (hc : IsComment c body)
    (h : parse t keys = .ok m) :
    (find? body 0 = .ok none →
      (∃ settings, parse (c ++ t) keys = .ok ⟨m.keyword,
        m.layers.map (List.map (Node.mapPos (· + c.utf8ByteSize))), m.stop + c.utf8ByteSize,
        settings⟩) ∧
      ∀ layer key value, Edit.setKeyText (c ++ t) layer key value keys =
        c ++ Edit.setKeyText t layer key value keys) ∧
    ∀ inv, find? body 0 = .ok (some inv) →
      find? (c ++ t) 0 = .ok (some ⟨inv.keyword, inv.start + 2, inv.argsStart + 2⟩) ∧
      ∀ m', parse (c ++ t) keys = .ok m' → m'.keyword = inv.keyword ∧
        ∃ row more stop left, m'.layers = row :: more ∧
          readArguments 1 (inv.argsStart + 2)
            (Text.dropBytes (inv.argsStart + 2) (c ++ t).toList) = .ok (row, stop, left) := by
  refine ⟨?_, ?_⟩
  · intro hnone
    have hpassed := hc.passed (by simpa [find?_zero] using hnone)
    refine ⟨?_, fun layer key value => Edit.setKeyText_of_passed hpassed t layer key value keys⟩
    obtain ⟨settings, hparse⟩ := parse_of_passed hpassed t keys
    rw [h] at hparse
    exact ⟨settings, hparse⟩
  · intro inv hsome
    rw [find?_zero] at hsome
    obtain ⟨⟨_, rest⟩, hbody, rfl⟩ := Option.map_eq_some_iff.1 (Except.ok.inj hsome)
    obtain ⟨rest', hfound⟩ := hc.search_of_some hbody t
    refine ⟨by rw [find?_zero, hfound]; rfl, ?_⟩
    intro m' hm'
    exact exists_row_of_search hm' hfound

/-- A comment with a keyword and a parenthesis that do not touch, and one with a layout. -/
theorem parse_comment_samples :
    IsComment "/* LAYOUT (é, */\n" " LAYOUT (é, " ∧ IsComment "// LAYOUT(A)\n" " LAYOUT(A)" ∧
    parse "KEYMAP(B)" none = .ok ⟨"KEYMAP", [[.word "B" 7 8]], 9, {}⟩ ∧
    (∃ settings, parse ("/* LAYOUT (é, */\n" ++ "KEYMAP(B)") none =
      .ok ⟨"KEYMAP", [[.word "B" 25 26]], 27, settings⟩) ∧
    find? ("// LAYOUT(A)\n" ++ "KEYMAP(B)") 0 = .ok (some ⟨"LAYOUT", 3, 10⟩) := by
  have hblock : IsComment "/* LAYOUT (é, */\n" " LAYOUT (é, " := .block (by decide) (by decide)
  have hline : IsComment "// LAYOUT(A)\n" " LAYOUT(A)" := .line (by decide) (by decide)
  have h : parse "KEYMAP(B)" none = .ok ⟨"KEYMAP", [[.word "B" 7 8]], 9, {}⟩ := by cbv
  have hnone : find? " LAYOUT (é, " 0 = .ok none := by decide +kernel
  have hsome : find? " LAYOUT(A)" 0 = .ok (some ⟨"LAYOUT", 1, 8⟩) := by decide +kernel
  exact ⟨hblock, hline, h, ((parse_comment hblock h).1 hnone).1,
    ((parse_comment hline h).2 _ hsome).1⟩

/-- A layout in a block comment becomes the first layer, which an edit of that layer then changes,
and one in a line comment makes a keymap unreadable by its number of keys. -/
theorem parse_layer_in_comment :
    parse "KEYMAP(B)" none = .ok ⟨"KEYMAP", [[.word "B" 7 8]], 9, {}⟩ ∧
    (IsComment "/* KEYMAP(A) */\n" " KEYMAP(A) " ∧
      parse ("/* KEYMAP(A) */\n" ++ "KEYMAP(B)") none =
        .ok ⟨"KEYMAP", [[.word "A" 10 11], [.word "B" 23 24]], 25, {}⟩ ∧
      Edit.setKeyText ("/* KEYMAP(A) */\n" ++ "KEYMAP(B)") 0 0 "C" none =
        "/* KEYMAP(C) */\nKEYMAP(B)") ∧
    (IsComment "// KEYMAP(A, A)\n" " KEYMAP(A, A)" ∧
      parse ("// KEYMAP(A, A)\n" ++ "KEYMAP(B)") none = .error (.layerCountMismatch 1 2 1)) := by
  refine ⟨by cbv, ⟨.block (by decide) (by decide), by cbv, by cbv⟩,
    .line (by decide) (by decide), by cbv⟩

end Keymap

end Keyplan
