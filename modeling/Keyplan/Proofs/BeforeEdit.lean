import Keyplan.Proofs.Revalidation

/-!
# What stands before an edit

The value of an edit is any text, so nothing is known about what is read behind its key. What stands
before the key is read as before all the same: the lexemes up to the key do not look at what follows
them (`Front.lex_append`), the reader of the list then holds the keys before it and nothing else
(`Front.run`), and the layers before that of the key end in front of it (`Layers.exists_layer`). So
whatever can be read again begins in the same way (`Layers.keeps_front`). The main statement is
`setKey_keeps_front`.
-/

namespace Keyplan

namespace Grammar
open Lexeme

/-- The reader takes arguments with the commas behind them, and then nothing is open. -/
lemma Front.run {depth pos front A} (h : Front depth pos front A) (args : List Node)
    (outer : List Frame) (rest : List Lexeme) :
    Scan.run ⟨depth, args, .none, outer⟩ pos (front ++ rest) =
      Scan.run ⟨depth, args ++ A, .none, outer⟩ (pos + width front) rest := by
  induction h generalizing args with
  | nil => simp
  | @cons pos xs node ys nodes hslot _ ih =>
    obtain ⟨_, hclose, hrun⟩ := hslot.run args outer (.comma :: (ys ++ rest))
    rw [List.append_assoc, List.cons_append, hrun, Scan.run_comma hclose, ih]
    simp [Nat.add_assoc]

/-- A list that begins with arguments and their commas has these arguments and one more. -/
lemma Front.exists_of_listing {depth pos front A} (hfront : Front depth pos front A) {xs nodes}
    {rest more : List Lexeme} (hlist : Listing depth pos xs nodes)
    (heq : xs ++ more = front ++ rest) : ∃ node new, nodes = A ++ node :: new := by
  have hrun := hlist.run [] [] more
  rw [heq, hfront.run] at hrun
  -- what the reader takes from here on is a list by itself
  obtain ⟨ys, left, nodes', -, hlist', hleave⟩ :=
    (Open.none .nil : Open depth (pos + width front) [] .none rest).listing_of_run hrun
  obtain ⟨node, new, rfl⟩ := List.exists_cons_of_ne_nil hlist'.nodes_ne_nil
  obtain ⟨hnodes, -⟩ := Prod.mk.inj (Except.ok.inj hleave)
  exact ⟨node, new, by simpa using hnodes.symm⟩

/-- The arguments before an argument are read the same, whatever follows in its place. -/
lemma Listing.keeps_front {pos body xs A old B} (hlist : Listing 1 pos xs (A ++ old :: B))
    (hsplit : Splits body xs) :
    ∃ before after, body = before ++ old.source.toList ++ after ∧
      old.start = pos + Text.size before ∧
      ∀ {cs xs' nodes' more}, Listing 1 pos xs' nodes' → lex .code (before ++ cs) = xs' ++ more →
        ∃ node new, nodes' = A ++ node :: new := by
  obtain ⟨front, slot, back, rfl, hfront, hslot, -⟩ := hlist.exists_front
  obtain ⟨lead, core, rest, rfl, hlead, hcore, -, -, hstart, -⟩ := hslot.exists_core
  refine ⟨text (front ++ lead), text (rest ++ back), ?_, ?_, ?_⟩
  · rw [← hsplit.text_eq, ← hcore.text_eq]
    simp
  · rw [hstart, ← width, width_append, Nat.add_assoc]
  intro cs xs' nodes' more hlist' hlex
  have hcut : Splits body (front ++ lead ++ core ++ (rest ++ back)) := by simpa using hsplit
  rw [hfront.lex_append hlead hcut.of_append.1 hcore.head, List.append_assoc] at hlex
  exact hfront.exists_of_listing hlist' hlex.symm

end Grammar

namespace Keymap
open Grammar Lexeme

/-- The layers and keys before a key are read the same, whatever follows in its place. -/
theorem Layers.keeps_front {pos cs L A old B M stop}
    (h : Layers pos cs (L ++ (A ++ old :: B) :: M) stop) :
    ∃ before after, cs = before ++ old.source.toList ++ after ∧
      old.start = pos + Text.size before ∧
      ∀ {rest layers' stop'}, Layers pos (before ++ rest) layers' stop' →
        ∃ node new more, layers' = L ++ (A ++ node :: new) :: more := by
  obtain ⟨front, rest, rfl, hlayer, hfront⟩ := h.exists_layer
  obtain ⟨body, xs, _, left, _, rfl, hlayers, hsplit, hlist, -⟩ := hlayer.exists_further
  obtain ⟨rfl, rfl⟩ := List.cons.inj hlayers
  obtain ⟨before, after, rfl, hstart, hnew⟩ := hlist.keeps_front hsplit
  refine ⟨front ++ before, after ++ left, by simp, ?_, ?_⟩
  · rw [hstart, Text.size_append, Nat.add_assoc]
  intro cs layers' stop' hlayers'
  rw [List.append_assoc] at hlayers'
  obtain ⟨_, rfl, hlayer'⟩ := hfront.1 hlayers'
  obtain ⟨body', xs', _, left', more, hcs, rfl, hsplit', hlist', -⟩ := hlayer'.exists_further
  have hlex : lex .code (before ++ cs) = xs' ++ lex .code left' := by
    rw [hcs]
    exact (hsplit'.append (splits_lex left') (hlist'.seam left')).lex_eq
  obtain ⟨node, new, rfl⟩ := hnew hlist' hlex
  exact ⟨node, new, more, rfl⟩

end Keymap

namespace Edit
open Keymap

/-- An edit of an existing key never disturbs what stands before the key, whatever the value is. If
the outcome can be read again, it has the same keyword and settings, the same layers before that of
the key and, in its layer, the same keys before it, all with their positions; and there is a layer
and a key in the place of the old ones. -/
theorem setKey_keeps_front [PatternEngine] {text keys m layer key old value}
    (h : parse text keys = .ok m) (hkey : m.key? layer key = some old)
    (hvalid : (setKey text layer key value keys).validation = none) :
    ∃ m' row row', parse (setKey text layer key value keys).text none = .ok m' ∧
      layer + 1 ≤ m'.layers.length ∧ m'.keyword = m.keyword ∧ m'.settings = m.settings ∧
      m'.layers.take layer = m.layers.take layer ∧
      m.layers[layer]? = some row ∧ m'.layers[layer]? = some row' ∧
      row'.take key = row.take key ∧ key < row'.length := by
  obtain ⟨L, A, B, M, hlayers, rfl, rfl⟩ := exists_of_key? hkey
  obtain ⟨head, rest, htext, hread, hhead⟩ := exists_head_of_parse h
  rw [hlayers] at hread
  obtain ⟨before, after, rfl, hstart, hnew⟩ := hread.keeps_front
  have hedited := toList_splice_source htext hstart value
  have hedit : (setKey text L.length A.length value keys).text =
      splice text old.start old.sourceEnd value := by simp [setKey, h, hkey]
  cases hm' : parse (splice text old.start old.sourceEnd value) none with
  | error e => simp [setKey, h, hkey, hm'] at hvalid
  | ok m' =>
    obtain ⟨hread', hkeyword, hsettings⟩ := hhead hedited hm'
    rw [List.append_assoc] at hread'
    obtain ⟨node, new, more, hlayers'⟩ := hnew hread'
    rw [hedit]
    refine ⟨m', A ++ old :: B, A ++ node :: new, hm', ?_, hkeyword, hsettings, ?_, ?_, ?_, ?_, ?_⟩
    · simp [hlayers']
    · rw [hlayers, hlayers', List.take_left, List.take_left]
    · simp [hlayers]
    · simp [hlayers']
    · rw [List.take_left, List.take_left]
    · simp

/-- A value that closes the list of its key and opens another one leaves the key before it, which
stands behind a comment. -/
theorem setKey_keeps_front_closing :
    parse "KEYMAP(A, B)\nKEYMAP(/* , */ C, D)" (some 2) = .ok ⟨"KEYMAP",
      [[.word "A" 7 8, .word "B" 10 11], [.word "C" 28 29, .word "D" 31 32]], 33, {}⟩ ∧
    setKey "KEYMAP(A, B)\nKEYMAP(/* , */ C, D)" 1 1 "E) LAYOUT(F, G" (some 2) =
      ⟨"KEYMAP(A, B)\nKEYMAP(/* , */ C, E) LAYOUT(F, G)", true, none⟩ ∧
    ∃ m' row, parse "KEYMAP(A, B)\nKEYMAP(/* , */ C, E) LAYOUT(F, G)" none = .ok m' ∧
      m'.keyword = "KEYMAP" ∧ m'.layers.take 1 = [[.word "A" 7 8, .word "B" 10 11]] ∧
      m'.layers[1]? = some row ∧ row.take 1 = [.word "C" 28 29] := by
  have h : parse "KEYMAP(A, B)\nKEYMAP(/* , */ C, D)" (some 2) = .ok ⟨"KEYMAP",
      [[.word "A" 7 8, .word "B" 10 11], [.word "C" 28 29, .word "D" 31 32]], 33, {}⟩ := by cbv
  have hkey : Keymap.key? ⟨"KEYMAP", [[.word "A" 7 8, .word "B" 10 11],
      [.word "C" 28 29, .word "D" 31 32]], 33, {}⟩ 1 1 = some (.word "D" 31 32) := rfl
  have hedit : setKey "KEYMAP(A, B)\nKEYMAP(/* , */ C, D)" 1 1 "E) LAYOUT(F, G" (some 2) =
      ⟨"KEYMAP(A, B)\nKEYMAP(/* , */ C, E) LAYOUT(F, G)", true, none⟩ := by cbv
  obtain ⟨m', row, row', hm', -, hkeyword, -, hlayers, hrow, hrow', hkeys, -⟩ :=
    setKey_keeps_front h hkey (congrArg Edit.validation hedit)
  rw [hedit] at hm'
  cases hrow
  exact ⟨h, hedit, m', row', hm', hkeyword, hlayers, hrow', hkeys⟩

end Edit

end Keyplan
