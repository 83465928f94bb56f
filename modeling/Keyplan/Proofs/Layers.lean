import Keyplan.Keymap
import Keyplan.Proofs.Grammar
import Keyplan.Proofs.Search

/-!
# The layers of a text

What a keymap is, said without the reader: the argument lists of the layouts of a text, each found
by a search from where the one before it ends (`Keymap.Layers`). A text has one list of layers
(`Layers.unique`), and `parse_eq_ok_iff` takes the reader of keymaps apart into its search, its
layers and its counts. `exists_head` and `Layers.exists_end` say where other layers may take the
place of those of a text, or follow them, and `Layers.exists_layer` that what stands in front of a
layer is read the same whatever follows.
-/

namespace Keyplan.Keymap
open Grammar Lexeme

/-- The text, which follows the parenthesis of a layout at `pos`, has these layers up to `stop`. -/
inductive Layers : Nat → List Char → List (List Node) → Nat → Prop where
  | last {pos body xs nodes left} :
    Splits body xs →
    Listing 1 pos xs nodes →
    Invocation.search 0 (some ')') (pos + Text.size body) left = none →
    Layers pos (body ++ left) [nodes] (pos + Text.size body)
  | more {pos body xs nodes left next rest layers stop} :
    Splits body xs →
    Listing 1 pos xs nodes →
    Invocation.search 0 (some ')') (pos + Text.size body) left = some (next, rest) →
    Layers next.argsStart rest layers stop →
    Layers pos (body ++ left) (nodes :: layers) stop

/-- There is at least one layer. -/
lemma Layers.ne_nil {pos cs layers stop} (h : Layers pos cs layers stop) : layers ≠ [] := by
  cases h <;> simp

/-- Every layer has a key. -/
lemma Layers.forall_ne_nil {pos cs layers stop} (h : Layers pos cs layers stop) :
    ∀ layer ∈ layers, layer ≠ [] := by
  induction h with
  | last _ hlist _ => simpa using hlist.nodes_ne_nil
  | more _ hlist _ _ ih => exact List.forall_mem_cons.2 ⟨hlist.nodes_ne_nil, ih⟩

/-- After a layout that ends at `pos`, the text has these further layers up to `stop`. -/
def Further (pos : Nat) (left : List Char) (layers : List (List Node)) (stop : Nat) : Prop :=
  (Invocation.search 0 (some ')') pos left = none ∧ layers = [] ∧ stop = pos) ∨
    ∃ next rest, Invocation.search 0 (some ')') pos left = some (next, rest) ∧
      Layers next.argsStart rest layers stop

/-- A body and what further layers follow it. -/
lemma Further.layers {pos body xs nodes left layers stop} (hsplit : Splits body xs)
    (hlist : Listing 1 pos xs nodes) (h : Further (pos + Text.size body) left layers stop) :
    Layers pos (body ++ left) (nodes :: layers) stop := by
  rcases h with ⟨hnone, rfl, rfl⟩ | ⟨next, rest, hnext, hrest⟩
  · exact .last hsplit hlist hnone
  · exact .more hsplit hlist hnext hrest

/-- The layers of a text are the first one and further ones. -/
lemma Layers.exists_further {pos cs layers stop} (h : Layers pos cs layers stop) :
    ∃ body xs nodes left more, cs = body ++ left ∧ layers = nodes :: more ∧ Splits body xs ∧
      Listing 1 pos xs nodes ∧ Further (pos + Text.size body) left more stop := by
  cases h with
  | last hsplit hlist hnone =>
    exact ⟨_, _, _, _, [], rfl, rfl, hsplit, hlist, .inl ⟨hnone, rfl, rfl⟩⟩
  | more hsplit hlist hnext hrest =>
    exact ⟨_, _, _, _, _, rfl, rfl, hsplit, hlist, .inr ⟨_, _, hnext, hrest⟩⟩

/-- The layers of a text end with a parenthesis, after which there is no layout. Further layers may
follow it. -/
theorem Layers.exists_end {pos cs layers stop} (h : Layers pos cs layers stop) :
    ∃ front after, cs = front ++ ')' :: after ∧ stop = pos + Text.size (front ++ [')']) ∧
      Invocation.search 0 (some ')') stop after = none ∧
      ∀ {after' more stop'}, Further stop after' more stop' →
        Layers pos (front ++ ')' :: after') (layers ++ more) stop' := by
  induction h with
  | @last pos body xs nodes left hsplit hlist hnone =>
    obtain ⟨front, rfl⟩ := List.getLast?_eq_some_iff.1 hlist.getLast?
    obtain rfl : body = text front ++ [')'] := by
      rw [← hsplit.text_eq]
      simp [chars]
    refine ⟨text front, left, by simp, rfl, hnone, ?_⟩
    intro after' more stop' hfurther
    simpa using hfurther.layers hsplit hlist
  | @more pos body xs nodes left next rest layers stop hsplit hlist hnext _ ih =>
    obtain ⟨front, after, rfl, hstop, hnone, hadd⟩ := ih
    obtain ⟨head, rfl, hargs, hfound⟩ := Invocation.exists_head_of_search hnext
    refine ⟨body ++ (head ++ front), after, by simp, ?_, hnone, ?_⟩
    · rw [hstop, hargs]
      simp only [Text.size_append, Nat.add_assoc]
    · intro after' more stop' hfurther
      -- the next layout is found before what is added
      have hlayers := Layers.more hsplit hlist (hfound (front ++ ')' :: after')) (hadd hfurther)
      simpa using hlayers

/-- The equation of the reader of layers, without the facts that its recursion needs. -/
lemma readLayers_eq (pos : Nat) (cs : List Char) :
    readLayers pos cs =
      match readArguments 1 pos cs with
      | .error e => .error e
      | .ok (keys, stop, left) =>
        match Invocation.search 0 (some ')') stop left with
        | none => .ok ([keys], stop)
        | some (next, rest) =>
          match readLayers next.argsStart rest with
          | .error e => .error e
          | .ok (layers, last) => .ok (keys :: layers, last) := by
  rw [readLayers]
  split
  · next hargs => rw [hargs]
  · next hargs =>
    rw [hargs]
    split
    · next hnone => simp only [hnone]
    · next next rest hnext =>
      cases hrest : readLayers next.argsStart rest with
      | error e => simp only [hnext, hrest]
      | ok read =>
        obtain ⟨layers, last⟩ := read
        simp only [hnext, hrest]

/-- The reader of layers finds the layers of the text. -/
lemma readLayers_eq_ok_iff {pos cs layers stop} :
    readLayers pos cs = .ok (layers, stop) ↔ Layers pos cs layers stop := by
  constructor
  · intro h
    -- by the length of the text, since the next layout may start anywhere in what is left
    induction hn : cs.length using Nat.strongRecOn generalizing pos cs layers with
    | ind n ih =>
      rw [readLayers_eq] at h
      split at h
      · cases h
      · next keys after left hargs =>
        obtain ⟨body, xs, rfl, rfl, hsplit, hlist⟩ := readArguments_eq_ok_iff.1 hargs
        split at h
        · next hnone =>
          cases h
          exact .last hsplit hlist hnone
        · next next rest hnext =>
          split at h
          · cases h
          · next layers last hrest =>
            cases h
            have hlt : rest.length < n := by
              have := Invocation.length_lt_of_search hnext
              rw [← hn, List.length_append]
              omega
            exact .more hsplit hlist hnext (ih _ hlt hrest rfl)
  · intro h
    induction h with
    | @last pos body xs nodes left hsplit hlist hnone =>
      simp only [readLayers_eq, hlist.readArguments hsplit left, hnone]
    | @more pos body xs nodes left next rest layers stop hsplit hlist hnext _ ih =>
      rw [readLayers_eq]
      simp only [hlist.readArguments hsplit left, hnext, ih]

/-- A text has its layers only. -/
lemma Layers.unique {pos cs layers layers' stop stop'} (h : Layers pos cs layers stop)
    (h' : Layers pos cs layers' stop') : layers = layers' ∧ stop = stop' := by
  have hread := (readLayers_eq_ok_iff.2 h).symm.trans (readLayers_eq_ok_iff.2 h')
  exact Prod.mk.inj (Except.ok.inj hread)

/-- A body that is an argument list is the first layer. -/
lemma Layers.further_of_listing {pos body xs nodes left layers stop}
    (h : Layers pos (body ++ left) layers stop) (hsplit : Splits body xs)
    (hlist : Listing 1 pos xs nodes) :
    ∃ more, layers = nodes :: more ∧ Further (pos + Text.size body) left more stop := by
  obtain ⟨body', xs', nodes', left', more, hcs, rfl, hsplit', hlist', hfurther⟩ := h.exists_further
  have hread := hlist'.readArguments hsplit' left'
  rw [← hcs, hlist.readArguments hsplit left] at hread
  obtain ⟨rfl, hrest⟩ := Prod.mk.inj (Except.ok.inj hread)
  obtain ⟨hpos, rfl⟩ := Prod.mk.inj hrest
  rw [hpos]
  exact ⟨more, rfl, hfurther⟩

/-- A layer stands behind a part of the text that has the layers before it, whatever follows that
part. -/
lemma Layers.exists_layer {pos cs L nodes M stop} (h : Layers pos cs (L ++ nodes :: M) stop) :
    ∃ front rest, cs = front ++ rest ∧ Layers (pos + Text.size front) rest (nodes :: M) stop ∧
      ∀ {rest' layers stop'}, Layers pos (front ++ rest') layers stop' ↔
        ∃ more, layers = L ++ more ∧ Layers (pos + Text.size front) rest' more stop' := by
  induction L generalizing pos cs with
  | nil => exact ⟨[], cs, rfl, h, by simp⟩
  | cons layer L ih =>
    obtain ⟨body, xs, _, left, _, rfl, hlayers, hsplit, hlist, hfurther⟩ := h.exists_further
    obtain ⟨rfl, rfl⟩ := List.cons.inj hlayers
    rcases hfurther with ⟨-, hnil, -⟩ | ⟨next, rest, hnext, hrest⟩
    · simp at hnil
    obtain ⟨front, rest, rfl, hlayer, hfront⟩ := ih hrest
    obtain ⟨head, rfl, hargs, hfound⟩ := Invocation.exists_head_of_search hnext
    have hpos : next.argsStart + Text.size front = pos + Text.size (body ++ (head ++ front)) := by
      rw [hargs]
      simp only [Text.size_append, Nat.add_assoc]
    rw [hpos] at hlayer hfront
    refine ⟨body ++ (head ++ front), rest, by simp, hlayer, ?_⟩
    -- the first layer and the next layout stand in front, so they are found whatever follows
    intro rest' layers stop'
    have hcs : body ++ (head ++ front) ++ rest' = body ++ (head ++ (front ++ rest')) := by simp
    rw [hcs]
    constructor
    · intro hlayers'
      obtain ⟨_, rfl, hfurther'⟩ := hlayers'.further_of_listing hsplit hlist
      rcases hfurther' with ⟨hnone, -⟩ | ⟨_, _, hsearch, hrest'⟩
      · cases hnone.symm.trans (hfound _)
      cases hsearch.symm.trans (hfound _)
      obtain ⟨more, rfl, hmore⟩ := hfront.1 hrest'
      exact ⟨more, rfl, hmore⟩
    · rintro ⟨more, rfl, hmore⟩
      exact .more hsplit hlist (hfound _) (hfront.2 ⟨more, rfl, hmore⟩)

/-- No layer mismatches if all have the expected number of keys. -/
lemma firstMismatch?_eq_none_iff {expected index layers} :
    firstMismatch? expected index layers = none ↔
      ∀ keys ∈ layers, keys.length = expected := by
  induction layers generalizing index with
  | nil => simp [firstMismatch?]
  | cons keys layers ih =>
    rw [firstMismatch?, List.forall_mem_cons]
    split
    · next h => rw [ih, and_iff_right h]
    · next h => simp [h]

/-- Layers that fit are passed over. -/
lemma firstMismatch?_append {expected as} (h : ∀ keys ∈ as, keys.length = expected) (index : Nat)
    (bs : List (List Node)) :
    firstMismatch? expected index (as ++ bs) = firstMismatch? expected (index + as.length) bs := by
  induction as generalizing index with
  | nil => rfl
  | cons keys as ih =>
    obtain ⟨hkeys, has⟩ := List.forall_mem_cons.1 h
    have hindex : index + 1 + as.length = index + (keys :: as).length := by
      rw [List.length_cons]
      omega
    rw [List.cons_append, firstMismatch?, if_pos hkeys, ih has, hindex]

/-- The numbers of keys are right if all layers have as many as the first one and the keyboard. -/
lemma countError?_eq_none_iff {layers keys} :
    countError? layers keys = none ↔
      (∀ layer ∈ layers, layer.length = (layers.head?.map List.length).getD 0) ∧
        ∀ n, keys = some n → n = (layers.head?.map List.length).getD 0 := by
  generalize hexpected : (layers.head?.map List.length).getD 0 = expected
  rw [countError?.eq_def, hexpected, ← @firstMismatch?_eq_none_iff expected 0 layers]
  cases hfirst : firstMismatch? expected 0 layers with
  | some e => simp [hfirst]
  | none => cases keys <;> simp [hfirst]

/-- A text is a keymap if it has a layout, its argument lists can be read, and their numbers of
keys are right. -/
lemma parse_eq_ok_iff [PatternEngine] {text keys m} :
    parse text keys = .ok m ↔
      ∃ first rest, Invocation.search 0 none 0 text.toList = some (first, rest) ∧
        Layers first.argsStart rest m.layers m.stop ∧ m.keyword = first.keyword ∧
        m.settings = Settings.ofPreamble (Text.takeBytes first.start text.toList) ∧
        (∀ layer ∈ m.layers, layer.length = m.keyCount) ∧ ∀ n, keys = some n → n = m.keyCount := by
  constructor
  · intro h
    unfold parse at h
    split at h
    · cases h
    · next first rest hfirst =>
      split at h
      · cases h
      · next layers stop hlayers =>
        split at h
        · cases h
        · next hcount =>
          cases h
          exact ⟨first, rest, hfirst, readLayers_eq_ok_iff.1 hlayers, rfl, rfl,
            countError?_eq_none_iff.1 hcount⟩
  · rintro ⟨first, rest, hfirst, hlayers, hkeyword, hsettings, hcount⟩
    obtain ⟨keyword, layers, stop, settings⟩ := m
    have hcount' : countError? layers keys = none := countError?_eq_none_iff.2 hcount
    subst hkeyword hsettings
    simp [parse, hfirst, readLayers_eq_ok_iff.2 hlayers, hcount']

/-- A keymap is one too for a keyboard whose number of keys is not known. -/
lemma parse_none [PatternEngine] {text keys m} (h : parse text keys = .ok m) :
    parse text none = .ok m := by
  obtain ⟨first, rest, hfirst, hlayers, hkeyword, hsettings, hcount, -⟩ := parse_eq_ok_iff.1 h
  exact parse_eq_ok_iff.2 ⟨first, rest, hfirst, hlayers, hkeyword, hsettings, hcount, nofun⟩

/-- A keymap is one too for a keyboard with as many keys. -/
lemma parse_some_keyCount [PatternEngine] {text keys m} (h : parse text keys = .ok m) :
    parse text (some m.keyCount) = .ok m := by
  obtain ⟨first, rest, hfirst, hlayers, hkeyword, hsettings, hcount, -⟩ := parse_eq_ok_iff.1 h
  refine parse_eq_ok_iff.2 ⟨first, rest, hfirst, hlayers, hkeyword, hsettings, hcount, ?_⟩
  intro n hn
  exact (Option.some.inj hn).symm

/-- The keyword of a keymap is one. -/
lemma isKeyword_keyword [PatternEngine] {text keys m} (h : parse text keys = .ok m) :
    Invocation.IsKeyword m.keyword.toList := by
  obtain ⟨first, rest, hfirst, -, hkeyword, -⟩ := parse_eq_ok_iff.1 h
  obtain ⟨-, -, hfirstKeyword, -⟩ := Invocation.search_eq_some hfirst
  rw [hkeyword]
  exact hfirstKeyword

/-- All layers of a keymap have as many keys as the keymap says. -/
lemma length_eq_keyCount [PatternEngine] {text keys m} (h : parse text keys = .ok m) :
    ∀ layer ∈ m.layers, layer.length = m.keyCount := by
  obtain ⟨_, _, -, -, -, -, hcount, -⟩ := parse_eq_ok_iff.1 h
  exact hcount

/-- A keymap has layers. -/
lemma layers_ne_nil [PatternEngine] {text keys m} (h : parse text keys = .ok m) :
    m.layers ≠ [] := by
  obtain ⟨_, _, -, hlayers, -⟩ := parse_eq_ok_iff.1 h
  exact hlayers.ne_nil

/-- A keymap has keys. -/
lemma keyCount_pos [PatternEngine] {text keys m} (h : parse text keys = .ok m) :
    0 < m.keyCount := by
  obtain ⟨first, rest, -, hlayers, -⟩ := parse_eq_ok_iff.1 h
  obtain ⟨layer, more, hmore⟩ := List.exists_cons_of_ne_nil hlayers.ne_nil
  have hlayer := hlayers.forall_ne_nil layer (by simp [hmore])
  rw [keyCount, hmore]
  exact List.length_pos_iff.2 hlayer

/-- If all layers have the same number of keys, it is the number of keys of the keymap. -/
lemma keyCount_eq {m : Keymap} {n} (hne : m.layers ≠ [])
    (h : ∀ layer ∈ m.layers, layer.length = n) : m.keyCount = n := by
  obtain ⟨layer, more, hmore⟩ := List.exists_cons_of_ne_nil hne
  rw [keyCount, hmore]
  exact h layer (by simp [hmore])

/-- A keymap is a head up to the parenthesis of its first layout, and layers. Any text behind the
same head has the same first layout, with the keyword and the settings of the keymap. -/
lemma exists_first [PatternEngine] {text keys m} (h : parse text keys = .ok m) :
    ∃ head rest first, text.toList = head ++ rest ∧ Layers (Text.size head) rest m.layers m.stop ∧
      first.argsStart = Text.size head ∧ first.keyword = m.keyword ∧
      ∀ rest', Invocation.search 0 none 0 (head ++ rest') = some (first, rest') ∧
        Settings.ofPreamble (Text.takeBytes first.start (head ++ rest')) = m.settings := by
  obtain ⟨first, rest, hfirst, hlayers, hkeyword, hsettings, -⟩ := parse_eq_ok_iff.1 h
  obtain ⟨front, htext, -, hstart, hargs⟩ := Invocation.search_eq_some hfirst
  have hfront : Text.size front = first.start := by rw [hstart, Nat.zero_add]
  have hhead : Text.size (front ++ first.keyword.toList ++ ['(']) = first.argsStart := by
    have hparen : Char.utf8Size '(' = 1 := rfl
    simp only [hargs, Text.size_append, Text.size_cons, Text.size_nil, hparen, hfront, Nat.add_zero]
  refine ⟨front ++ first.keyword.toList ++ ['('], rest, first, by simp [htext], ?_, hhead.symm,
    hkeyword.symm, ?_⟩
  · rw [hhead]
    exact hlayers
  intro rest'
  refine ⟨?_, ?_⟩
  · apply Invocation.search_append
    rw [← hfirst, htext]
    simp
  · rw [hsettings, htext, ← hfront]
    simp only [List.append_assoc, Text.takeBytes_size]

/-- A keymap is a head up to the parenthesis of its first layout, and layers. Other layers of as
many keys behind the same head are a keymap with the same keyword and settings. -/
lemma exists_head [PatternEngine] {text keys m} (h : parse text keys = .ok m) :
    ∃ head rest, text.toList = head ++ rest ∧ Layers (Text.size head) rest m.layers m.stop ∧
      ∀ {text' : String} {rest' layers stop}, text'.toList = head ++ rest' →
        Layers (Text.size head) rest' layers stop →
        (∀ layer ∈ layers, layer.length = m.keyCount) →
        parse text' keys = .ok ⟨m.keyword, layers, stop, m.settings⟩ ∧
          keyCount ⟨m.keyword, layers, stop, m.settings⟩ = m.keyCount := by
  obtain ⟨_, _, -, -, -, -, -, hkeys⟩ := parse_eq_ok_iff.1 h
  obtain ⟨head, rest, first, htext, hlayers, hargs, hkeyword, hsame⟩ := exists_first h
  refine ⟨head, rest, htext, hlayers, ?_⟩
  intro text' rest' layers stop htext' hlayers' hcount
  obtain ⟨hfirst, hsettings⟩ := hsame rest'
  rw [← htext'] at hfirst hsettings
  rw [← hargs] at hlayers'
  have hcount' : keyCount ⟨m.keyword, layers, stop, m.settings⟩ = m.keyCount :=
    keyCount_eq hlayers'.ne_nil hcount
  refine ⟨parse_eq_ok_iff.2 ⟨first, rest', hfirst, hlayers', hkeyword.symm, hsettings.symm, ?_, ?_⟩,
    hcount'⟩
  · rw [hcount']
    exact hcount
  · rw [hcount']
    exact hkeys

/-- A keymap is a head up to the parenthesis of its first layout, and layers. Another keymap with
the same head has its layers in the same place, and the same keyword and settings. -/
lemma exists_head_of_parse [PatternEngine] {text keys m} (h : parse text keys = .ok m) :
    ∃ head rest, text.toList = head ++ rest ∧ Layers (Text.size head) rest m.layers m.stop ∧
      ∀ {text' : String} {keys' m' rest'}, text'.toList = head ++ rest' →
        parse text' keys' = .ok m' → Layers (Text.size head) rest' m'.layers m'.stop ∧
          m'.keyword = m.keyword ∧ m'.settings = m.settings := by
  obtain ⟨head, rest, first, htext, hlayers, hargs, hkeyword, hsame⟩ := exists_first h
  refine ⟨head, rest, htext, hlayers, ?_⟩
  intro text' keys' m' rest' htext' h'
  obtain ⟨first', _, hfirst', hlayers', hkeyword', hsettings', -⟩ := parse_eq_ok_iff.1 h'
  obtain ⟨hfirst, hsettings⟩ := hsame rest'
  rw [htext', hfirst] at hfirst'
  cases hfirst'
  rw [hargs] at hlayers'
  rw [htext', hsettings] at hsettings'
  exact ⟨hlayers', hkeyword'.trans hkeyword, hsettings'⟩

end Keyplan.Keymap
