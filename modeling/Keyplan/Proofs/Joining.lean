import Keyplan.Proofs.Relocation
import Keyplan.Regex.Engine

/-!
# Joining two keymaps

Two keymaps with a line feed between them have the layers of both: nothing behind the last layout of
the first one can be read together with the second one, since no head of a layout reaches over the
line feed (`search_append_of_none`). `exists_layers_join` says this of the layers, and
`countError?_append` that only the numbers of keys can then be wrong. The main statement is
`parse_join`.
-/

namespace Keyplan.Keymap

/-- Behind layers that have the same number of keys, only further layers can have a wrong one. -/
lemma countError?_append {expected as} (hne : as ≠ []) (h : ∀ keys ∈ as, keys.length = expected)
    (bs : List (List Node)) :
    countError? (as ++ bs) none = firstMismatch? expected as.length bs := by
  obtain ⟨keys, as, rfl⟩ := List.exists_cons_of_ne_nil hne
  have hexpected : (((keys :: as) ++ bs).head?.map List.length).getD 0 = expected :=
    h keys (List.mem_cons_self ..)
  simp only [countError?, hexpected, firstMismatch?_append h, Nat.zero_add]
  cases firstMismatch? expected (keys :: as).length bs with
  | none => rfl
  | some e => rfl

/-- Two keymaps joined by a line feed begin with the first layout of the first one and have the
layers of both, those of the second one at moved positions. -/
lemma exists_layers_join [PatternEngine] {t₁ t₂ : String} {keys₁ keys₂ m₁ m₂}
    (h₁ : parse t₁ keys₁ = .ok m₁) (h₂ : parse t₂ keys₂ = .ok m₂) :
    ∃ first rest, Invocation.search 0 none 0 (t₁ ++ "\n" ++ t₂).toList = some (first, rest) ∧
      first.keyword = m₁.keyword ∧
      Settings.ofPreamble (Text.takeBytes first.start (t₁ ++ "\n" ++ t₂).toList) = m₁.settings ∧
      Layers first.argsStart rest
        (m₁.layers ++ m₂.layers.map (List.map (Node.mapPos (· + (t₁.utf8ByteSize + 1)))))
        (m₂.stop + (t₁.utf8ByteSize + 1)) := by
  obtain ⟨head, rest, first, htext, hlayers, hargs, hkeyword, hsame⟩ := exists_first h₁
  obtain ⟨front, after, rfl, hstop, hnone, hadd⟩ := hlayers.exists_end
  obtain ⟨first₂, rest₂, hfirst₂, hlayers₂, -⟩ := parse_eq_ok_iff.1 h₂
  have hjoined : (t₁ ++ "\n" ++ t₂).toList =
      head ++ (front ++ ')' :: (after ++ '\n' :: t₂.toList)) := by simp [htext]
  have hseam : m₁.stop + Text.size (after ++ ['\n']) = 0 + (t₁.utf8ByteSize + 1) := by
    have hfeed : Char.utf8Size '\n' = 1 := rfl
    rw [hstop, ← Text.size_toList, htext]
    simp only [Text.size_append, Text.size_cons, Text.size_nil, hfeed]
    omega
  -- the search for a further layer goes on to the first layout of the second text
  have hnext := Invocation.search_append_of_none hnone (c := '\n') (by decide) (by decide) t₂.toList
  rw [hseam, Invocation.search_add, hfirst₂] at hnext
  have hmoved := hlayers₂.relocate (f := (· + (t₁.utf8ByteSize + 1)))
    fun n => Nat.add_right_comm _ n _
  obtain ⟨hfirst, hsettings⟩ := hsame (front ++ ')' :: (after ++ '\n' :: t₂.toList))
  rw [← hjoined] at hfirst hsettings
  refine ⟨first, _, hfirst, hkeyword, hsettings, ?_⟩
  rw [hargs]
  exact hadd (.inr ⟨_, _, hnext, hmoved⟩)

/-- Two keymaps joined by a line feed are a keymap if they have the same number of keys: with the
keyword and the settings of the first one, its layers and then those of the second one at moved
positions. If the numbers differ, the first layer of the second one is reported. -/
theorem parse_join [PatternEngine] {t₁ t₂ : String} {m₁ m₂} (h₁ : parse t₁ none = .ok m₁)
    (h₂ : parse t₂ none = .ok m₂) :
    (m₁.keyCount = m₂.keyCount → parse (t₁ ++ "\n" ++ t₂) none = .ok ⟨m₁.keyword,
      m₁.layers ++ m₂.layers.map (List.map (Node.mapPos (· + (t₁.utf8ByteSize + 1)))),
      m₂.stop + (t₁.utf8ByteSize + 1), m₁.settings⟩) ∧
    (m₁.keyCount ≠ m₂.keyCount → parse (t₁ ++ "\n" ++ t₂) none =
      .error (.layerCountMismatch m₁.layers.length m₁.keyCount m₂.keyCount)) := by
  obtain ⟨first, rest, hfirst, hkeyword, hsettings, hlayers⟩ := exists_layers_join h₁ h₂
  have hread := readLayers_eq_ok_iff.2 hlayers
  have hcount := countError?_append (layers_ne_nil h₁) (length_eq_keyCount h₁)
    (m₂.layers.map (List.map (Node.mapPos (· + (t₁.utf8ByteSize + 1)))))
  refine ⟨?_, ?_⟩
  · intro hkeys
    have hsame : firstMismatch? m₁.keyCount m₁.layers.length
        (m₂.layers.map (List.map (Node.mapPos (· + (t₁.utf8ByteSize + 1))))) = none := by
      refine firstMismatch?_eq_none_iff.2 ?_
      simpa [hkeys] using length_eq_keyCount h₂
    simp only [parse, hfirst, hread, hcount, hsame, hkeyword, hsettings]
  · intro hkeys
    obtain ⟨keys, more, hmore⟩ := List.exists_cons_of_ne_nil (layers_ne_nil h₂)
    have hlength : keys.length = m₂.keyCount := length_eq_keyCount h₂ keys (by simp [hmore])
    simp only [parse, hfirst, hread, hcount]
    rw [hmore, List.map_cons, firstMismatch?, List.length_map, hlength, if_neg hkeys.symm]

/-- A keyword at the end of a text and a parenthesis at the start of the next one make no layout
together. -/
theorem parse_join_seam :
    parse "LAYOUT(A, é) // KEYMAP" none =
      .ok ⟨"LAYOUT", [[.word "A" 7 8, .word "é" 10 12]], 13, {}⟩ ∧
    (parse "(x) LAYOUT_b(C, F(D))" none = .ok ⟨"LAYOUT_b",
        [[.word "C" 13 14, .call "F" [.word "D" 18 19] 16 20 "F(D)"]], 21, {}⟩ ∧
      parse ("LAYOUT(A, é) // KEYMAP" ++ "\n" ++ "(x) LAYOUT_b(C, F(D))") none = .ok ⟨"LAYOUT",
        [[.word "A" 7 8, .word "é" 10 12],
          [.word "C" 37 38, .call "F" [.word "D" 42 43] 40 44 "F(D)"]], 45, {}⟩) ∧
    (parse "KEYMAP(C)" none = .ok ⟨"KEYMAP", [[.word "C" 7 8]], 9, {}⟩ ∧
      parse ("LAYOUT(A, é) // KEYMAP" ++ "\n" ++ "KEYMAP(C)") none =
        .error (.layerCountMismatch 1 2 1)) := by
  have h₁ : parse "LAYOUT(A, é) // KEYMAP" none =
      .ok ⟨"LAYOUT", [[.word "A" 7 8, .word "é" 10 12]], 13, {}⟩ := by cbv
  have h₂ : parse "(x) LAYOUT_b(C, F(D))" none = .ok ⟨"LAYOUT_b",
      [[.word "C" 13 14, .call "F" [.word "D" 18 19] 16 20 "F(D)"]], 21, {}⟩ := by cbv
  have h₃ : parse "KEYMAP(C)" none = .ok ⟨"KEYMAP", [[.word "C" 7 8]], 9, {}⟩ := by cbv
  exact ⟨h₁, ⟨h₂, (parse_join h₁ h₂).1 rfl⟩, h₃, (parse_join h₁ h₃).2 (by decide)⟩

end Keyplan.Keymap
