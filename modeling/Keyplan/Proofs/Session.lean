import Keyplan.Proofs.AddLayer
import Keyplan.Proofs.SetKey

/-!
# Editing sessions

A session takes one edit after the other, each on the text that the edits before it have left. What
it does to the text is seen on a grid of displayed keys (`Grid`), which knows nothing of texts: a
step of the session is a step on the grid (`Step.exists_run`), and so is every run
(`Allowed.exists_run`). The main statement is `run_refines`.
-/

namespace Keyplan

/-- A grid of displayed keys. All its rows have the same width. -/
@[ext] structure Grid where
  /-- Number of cells of each row. -/
  width : Nat
  /-- The cells of each row. -/
  rows : List (List String)
  /-- Every row has that many cells. -/
  length_eq : ∀ row ∈ rows, row.length = width
  deriving DecidableEq, Repr

namespace Grid

/-- The image of an element is modified where the element stands. -/
lemma modify_map_append_cons {α β : Type} (g : α → β) (front back : List α) (a : α) (f : β → β) :
    ((front ++ a :: back).map g).modify front.length f =
      front.map g ++ f (g a) :: back.map g := by
  induction front with
  | nil => rfl
  | cons b front ih => simpa using ih

/-- Replaces the cell at a place. Nothing changes if there is none. -/
def setCell (g : Grid) (row column : Nat) (cell : String) : Grid where
  width := g.width
  rows := g.rows.modify row (·.set column cell)
  length_eq := by
    intro cells hcells
    obtain ⟨i, hi, rfl⟩ := List.getElem_of_mem hcells
    have hwidth := g.length_eq (g.rows.get ⟨i, by simpa using hi⟩) (List.get_mem _ _)
    rw [List.getElem_modify]
    split
    · simpa using hwidth
    · exact hwidth

/-- Adds a row of transparent keys. -/
def addRow (g : Grid) : Grid where
  width := g.width
  rows := g.rows ++ [List.replicate g.width transparentKeycode]
  length_eq := by
    refine List.forall_mem_append.2 ⟨g.length_eq, ?_⟩
    simp

end Grid

namespace Keymap

/-- The displayed keys of a keymap. -/
def grid [PatternEngine] {text m} (h : parse text none = .ok m) : Grid where
  width := m.keyCount
  rows := m.layers.map (List.map Node.render)
  length_eq := by
    simpa using length_eq_keyCount h

end Keymap

namespace Session

/-- One edit. -/
inductive Step where
  /-- Adds a layer with the given keyword. -/
  | addLayer (keyword : String)
  /-- Replaces one key. -/
  | setKey (layer key : Nat) (value : String)
  deriving DecidableEq, Repr

/-- How a value is displayed: as the key that it is alone in a layout. -/
def display [PatternEngine] (value : String) : String :=
  match Keymap.parse ("KEYMAP(" ++ value ++ ")") none with
  | .ok ⟨_, [[n]], _, _⟩ => n.render
  | _ => value

namespace Step

/-- The text after the edit. -/
def run [PatternEngine] (text : String) : Step → String
  | .addLayer keyword => Edit.addLayer text keyword
  | .setKey layer key value => Edit.setKeyText text layer key value none

/-- The grid after the edit. -/
def apply [PatternEngine] (g : Grid) : Step → Grid
  | .addLayer _ => g.addRow
  | .setKey layer key value => g.setCell layer key (display value)

/-- The edit is one that a session on the text may take: the keyword is one, and the value is a key
expression that does not put a word in the place of a call. -/
def Allowed [PatternEngine] (text : String) : Step → Prop
  | .addLayer keyword => Invocation.IsKeyword keyword.toList
  | .setKey layer key value => ∃ n, IsKeyExpression value n ∧
    ∀ m old, Keymap.parse text none = .ok m → m.key? layer key = some old →
      old.isCall = false ∨ n.isCall = true

/-- Whether the edit adds a layer. -/
def addsLayer : Step → Bool
  | .addLayer _ => true
  | .setKey _ _ _ => false

end Step

/-- The text after edits. -/
def run [PatternEngine] (text : String) (steps : List Step) : String :=
  steps.foldl Step.run text

/-- The grid after edits. -/
def apply [PatternEngine] (g : Grid) (steps : List Step) : Grid :=
  steps.foldl Step.apply g

/-- Each edit is allowed on the text that the edits before it leave. -/
def Allowed [PatternEngine] (text : String) : List Step → Prop
  | [] => True
  | step :: steps => step.Allowed text ∧ Allowed (step.run text) steps

/-- A key expression is displayed as its node. -/
lemma display_eq [PatternEngine] {value n} (h : IsKeyExpression value n) :
    display value = n.render := by
  obtain ⟨⟨m, hparse, hlayers⟩, -⟩ := h
  obtain ⟨keyword, layers, stop, settings⟩ := m
  cases hlayers
  simp [display, hparse]

/-- Adding a layer adds a row. -/
lemma exists_run_addLayer [PatternEngine] {text m} (h : Keymap.parse text none = .ok m)
    {keyword : String} (hkeyword : Invocation.IsKeyword keyword.toList) :
    ∃ m', ∃ h' : Keymap.parse (Edit.addLayer text keyword) none = .ok m',
      Keymap.grid h' = (Keymap.grid h).addRow := by
  obtain ⟨m', pos, hm', -, -, hkeys, hlayers, -⟩ := Edit.exists_parse_addLayer h hkeyword
  refine ⟨m', hm', Grid.ext hkeys ?_⟩
  simp [Keymap.grid, Grid.addRow, hlayers]

/-- Replacing an existing key replaces a cell. -/
lemma exists_run_setKey [PatternEngine] {text m} (h : Keymap.parse text none = .ok m)
    {layer key old} (hold : m.key? layer key = some old) {value n}
    (hvalue : IsKeyExpression value n) (hkind : old.isCall = false ∨ n.isCall = true) :
    ∃ m', ∃ h' : Keymap.parse (Edit.setKeyText text layer key value none) none = .ok m',
      Keymap.grid h' = (Keymap.grid h).setCell layer key n.render := by
  obtain ⟨L, A, B, M, hlayers, rfl, rfl⟩ := Keymap.exists_of_key? hold
  obtain ⟨m', hm', -, -, hkeys, hlayers', -⟩ := Edit.exists_parse_splice h hlayers hvalue hkind
  have hedit : Edit.setKeyText text L.length A.length value none =
      Edit.splice text old.start old.sourceEnd value := by
    simp [Edit.setKeyText, Edit.setKey, h, hold]
  rw [← hedit] at hm'
  refine ⟨m', hm', Grid.ext hkeys ?_⟩
  show m'.layers.map (List.map Node.render) =
    (m.layers.map (List.map Node.render)).modify L.length (·.set A.length n.render)
  have hrow : ((A ++ old :: B).map Node.render).set A.length n.render =
      A.map Node.render ++ n.render :: B.map Node.render := by
    simp
  rw [hlayers, hlayers', Grid.modify_map_append_cons, hrow]
  simp [Node.render_mapPos]

/-- Replacing a key that does not exist changes nothing. -/
lemma setCell_of_key?_eq_none [PatternEngine] {text m} (h : Keymap.parse text none = .ok m)
    {layer key} (hnone : m.key? layer key = none) (cell : String) :
    (Keymap.grid h).setCell layer key cell = Keymap.grid h := by
  refine Grid.ext rfl ?_
  show (m.layers.map (List.map Node.render)).modify layer (·.set key cell) =
    m.layers.map (List.map Node.render)
  cases hnodes : m.layers[layer]? with
  | none =>
    apply List.modify_eq_self
    rw [List.length_map]
    exact List.getElem?_eq_none_iff.1 hnodes
  | some nodes =>
    have hkey : nodes[key]? = none := by
      rw [Keymap.key?, hnodes] at hnone
      exact hnone
    obtain ⟨L, M, hlayers, rfl⟩ := Keymap.exists_append_of_getElem? hnodes
    have hrow : (nodes.map Node.render).set key cell = nodes.map Node.render := by
      apply List.set_eq_of_length_le
      rw [List.length_map]
      exact List.getElem?_eq_none_iff.1 hkey
    rw [hlayers, Grid.modify_map_append_cons, hrow]
    simp

/-- An allowed edit does to the grid what it should. -/
lemma Step.exists_run [PatternEngine] {text m step} (h : Keymap.parse text none = .ok m)
    (hstep : Step.Allowed text step) :
    ∃ m', ∃ h' : Keymap.parse (step.run text) none = .ok m',
      Keymap.grid h' = step.apply (Keymap.grid h) := by
  cases step with
  | addLayer keyword => exact exists_run_addLayer h hstep
  | setKey layer key value =>
    obtain ⟨n, hvalue, hkind⟩ := hstep
    show ∃ m', ∃ h' : Keymap.parse (Edit.setKeyText text layer key value none) none = .ok m',
      Keymap.grid h' = (Keymap.grid h).setCell layer key (display value)
    rw [display_eq hvalue]
    cases hold : m.key? layer key with
    | some old => exact exists_run_setKey h hold hvalue (hkind m old h hold)
    | none =>
      have hedit : Edit.setKeyText text layer key value none = text := by
        simp [Edit.setKeyText, Edit.setKey, Edit.unchanged, h, hold]
      rw [hedit, setCell_of_key?_eq_none h hold]
      exact ⟨m, h, rfl⟩

/-- Allowed edits do to the grid what they should. -/
lemma Allowed.exists_run [PatternEngine] {text m steps} (h : Keymap.parse text none = .ok m)
    (hsteps : Allowed text steps) :
    ∃ m', ∃ h' : Keymap.parse (run text steps) none = .ok m',
      Keymap.grid h' = apply (Keymap.grid h) steps := by
  induction steps generalizing text m with
  | nil => exact ⟨m, h, rfl⟩
  | cons step steps ih =>
    obtain ⟨hstep, hrest⟩ := hsteps
    obtain ⟨m₁, h₁, hgrid₁⟩ := Step.exists_run h hstep
    obtain ⟨m', h', hgrid'⟩ := ih h₁ hrest
    rw [hgrid₁] at hgrid'
    exact ⟨m', h', hgrid'⟩

/-- A session may stop early. -/
lemma Allowed.take [PatternEngine] {text steps} (h : Allowed text steps) (i : Nat) :
    Allowed text (steps.take i) := by
  induction steps generalizing text i with
  | nil => simpa using h
  | cons step steps ih =>
    cases i with
    | zero => trivial
    | succ i => exact ⟨h.1, ih h.2 i⟩

/-- Edits never change the width of the grid. -/
lemma width_apply [PatternEngine] (g : Grid) (steps : List Step) :
    (apply g steps).width = g.width := by
  induction steps generalizing g with
  | nil => rfl
  | cons step steps ih =>
    rw [apply, List.foldl_cons, ← apply, ih]
    cases step <;> rfl

/-- The grid has one row more for each edit that adds a layer. -/
lemma length_rows_apply [PatternEngine] (g : Grid) (steps : List Step) :
    (apply g steps).rows.length = g.rows.length + steps.countP Step.addsLayer := by
  induction steps generalizing g with
  | nil => rfl
  | cons step steps ih =>
    rw [apply, List.foldl_cons, ← apply, ih, List.countP_cons]
    cases step with
    | addLayer keyword =>
      simp [Step.apply, Grid.addRow, Step.addsLayer]
      omega
    | setKey layer key value => simp [Step.apply, Grid.setCell, Step.addsLayer]

/-- A session on the text of a keymap is one on its grid. After each of the edits the text is a
keymap, and its displayed keys are what the edits so far make of the displayed keys at the start.
All layers keep the width of the first keymap, and there is one layer more for each one added. -/
theorem run_refines [PatternEngine] {text m steps} (h : Keymap.parse text none = .ok m)
    (hsteps : Allowed text steps) (i : Nat) :
    ∃ m', ∃ h' : Keymap.parse (run text (steps.take i)) none = .ok m',
      Keymap.grid h' = apply (Keymap.grid h) (steps.take i) ∧
      (∀ layer ∈ m'.layers, layer.length = m.keyCount) ∧
      m'.layers.length = m.layers.length + (steps.take i).countP Step.addsLayer := by
  obtain ⟨m', h', hgrid⟩ := (hsteps.take i).exists_run h
  have hwidth : m'.keyCount = m.keyCount := by
    have := congrArg Grid.width hgrid
    rwa [width_apply] at this
  have hheight : m'.layers.length = m.layers.length + (steps.take i).countP Step.addsLayer := by
    have := congrArg (fun g => g.rows.length) hgrid
    simpa [length_rows_apply, Keymap.grid] using this
  refine ⟨m', h', hgrid, ?_, hheight⟩
  rw [← hwidth]
  exact Keymap.length_eq_keyCount h'

/-- A word is replaced, a layer is added, and one of its keys and a key that does not exist are
replaced. -/
theorem run_refines_mixed :
    Keymap.parse "LAYOUT(A, B)" none = .ok ⟨"LAYOUT", [[.word "A" 7 8, .word "B" 10 11]], 12, {}⟩ ∧
    Allowed "LAYOUT(A, B)" [.setKey 0 0 "é", .addLayer "KEYMAP_x", .setKey 1 1 "MO(1)",
      .setKey 1 2 "MO(1)"] ∧
    ∃ m', Keymap.parse (run "LAYOUT(A, B)" [.setKey 0 0 "é", .addLayer "KEYMAP_x",
        .setKey 1 1 "MO(1)", .setKey 1 2 "MO(1)"]) none = .ok m' ∧
      m'.layers.map (List.map Node.render) = [["é", "B"], ["KC_TRNS", "MO(1)"]] := by
  have h : Keymap.parse "LAYOUT(A, B)" none =
      .ok ⟨"LAYOUT", [[.word "A" 7 8, .word "B" 10 11]], 12, {}⟩ := by cbv
  have hword : IsKeyExpression "é" (.word "é" 7 9) := ⟨⟨_, by cbv, rfl⟩, rfl, by decide, by decide⟩
  have hcall : IsKeyExpression "MO(1)" (.call "MO" [.word "1" 10 11] 7 12 "MO(1)") :=
    ⟨⟨_, by cbv, rfl⟩, rfl, by decide, by decide⟩
  have hfirst : ∀ m old, Keymap.parse "LAYOUT(A, B)" none = .ok m → m.key? 0 0 = some old →
      old.isCall = false ∨ Node.isCall (.word "é" 7 9) = true := by
    intro m old hm hold
    cases h.symm.trans hm
    cases hold
    exact .inl rfl
  have hkeyword : Invocation.IsKeyword "KEYMAP_x".toList :=
    ⟨"KEYMAP".toList, ['_', 'x'], .inl rfl, rfl,
      .inr ⟨['x'], by decide, rfl, List.all_eq_true.1 (by decide)⟩⟩
  have hsteps : Allowed "LAYOUT(A, B)" [.setKey 0 0 "é", .addLayer "KEYMAP_x", .setKey 1 1 "MO(1)",
      .setKey 1 2 "MO(1)"] :=
    ⟨⟨_, hword, hfirst⟩, hkeyword, ⟨_, hcall, fun _ _ _ _ => .inr rfl⟩,
      ⟨_, hcall, fun _ _ _ _ => .inr rfl⟩, trivial⟩
  obtain ⟨m', h', hgrid, -⟩ := run_refines h hsteps 4
  refine ⟨h, hsteps, m', h', (congrArg Grid.rows hgrid).trans ?_⟩
  have hdisplay := display_eq hword
  have hdisplay' := display_eq hcall
  simp [apply, Step.apply, hdisplay, hdisplay', Grid.addRow, Grid.setCell, Keymap.grid, Node.render,
    Node.renderArgs, transparentKeycode, Keymap.keyCount]

end Session

end Keyplan
