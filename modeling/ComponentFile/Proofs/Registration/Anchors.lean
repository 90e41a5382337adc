import Mathlib.Tactic
import ComponentFile.Proofs.Document.Blocks
import ComponentFile.Proofs.Script.Placement
import ComponentFile.Registration.Register

/-!
Where the insertions of a registration go.

* `Insertion.At s t edit`: the edit is put between `s` and `t`.
* `fillEmpty_at`: a block of blanks is filled at the end of its content.
* `importInsertion_place`: an import goes to the beginning of a line of the content, behind another
  one that ends on the last line, or to the front of content on one line.
* `registerIn_setup_cases`: what a registration does to a script setup.
-/

namespace ComponentFile

open Text Script

/-- The insertion is put between `s` and `t` when these two make up the text. -/
def Insertion.At (s t : Text) (edit : Insertion) : Prop :=
  (s ++ t).offset edit.line edit.column = s.bytes

lemma Insertion.placed_at (s t inserted : Text) :
    (Insertion.placed (Position.origin.after s) inserted).At s t :=
  offset_after s t

/-- A batch of one insertion. -/
lemma applyInsertions_singleton {s t : Text} {edit : Insertion} (h : edit.At s t) :
    applyInsertions (s ++ t) [edit] = s ++ (edit.text ++ t) := by
  have hone : applyInsertions (s ++ t) [edit]
      = (s ++ t).insertAt ((s ++ t).offset edit.line edit.column) edit.text := rfl
  rw [hone, h, insertAt_append, List.append_assoc]

/-- An insertion into the content of a script. -/
lemma ScriptAt.applyInsertions_eq {text p rest a b closeTag : Text} {tag : Markup.OpenTag}
    {found : List Markup.Element} (h : ScriptAt text p tag ⟨a ++ b, closeTag⟩ rest found)
    {edit : Insertion} (hedit : edit.At (p ++ tag.text ++ a) (b ++ (closeTag ++ rest))) :
    applyInsertions text [edit]
      = p ++ (tag.text ++ (a ++ (edit.text ++ b) ++ (closeTag ++ rest))) := by
  have htext : text = p ++ tag.text ++ a ++ (b ++ (closeTag ++ rest)) := by
    rw [h.text_eq]
    simp
  rw [htext, applyInsertions_singleton hedit]
  simp

namespace Registration

lemma fillEmpty_at {text before after : Text} {block : Block}
    (h : Block.Sits text before after block)
    (body : Text) : (fillEmpty block body).At (before ++ block.content) after := by
  rw [fillEmpty, h.stop_eq]
  exact Insertion.placed_at _ _ _

/-- The body is set apart by line feeds. -/
lemma fillEmpty_text (block : Block) (body : Text) :
    ∃ feeds, (∀ c ∈ feeds, c = '\n') ∧ (fillEmpty block body).text = feeds ++ body ++ ['\n'] := by
  rw [fillEmpty]
  split
  · exact ⟨['\n'], by simp, rfl⟩
  · exact ⟨[], by simp, rfl⟩

/-! ### Imports -/

/-- The last import is the statement of a node. -/
lemma exists_of_lastImport? {site : Site} {tree : Script.Tree} {last : Statement}
    (h : lastImport? (statementsOf site tree) = some last) :
    ∃ child ∈ tree.children, child.ImportsModule ∧ last.span = site.span child := by
  have hmem : last ∈ statementsOf site tree := List.mem_reverse.mp (List.mem_of_find?_eq_some h)
  obtain ⟨child, hchild, hkind, hspan⟩ := mem_statementsOf hmem
  have himport : last.asImport?.isSome = true :=
    List.find?_some (p := fun s : Statement => s.asImport?.isSome) h
  rw [Statement.asImport?, hkind] at himport
  split at himport
  case h_1 declaration hclass => exact ⟨child, hchild, importsModule_of_classify hclass, hspan⟩
  case h_2 => simp at himport

/-- The text of an import, by the place between `a` and `b` in the content of a script. -/
inductive ImportPlace (component : Component) (tree : Script.Tree) (a b : Text) : Text → Prop where
  | lineStart (hlast : a.getLast? = some '\n') (feeds : Text) (hfeeds : ∀ c ∈ feeds, c = '\n') :
      ImportPlace component tree a b (Source.importStatement component ++ feeds)
  | behindImport (child : Script.Tree) (hchild : child ∈ tree.children)
      (himport : child.ImportsModule) (hstop : child.stop = a.bytes) :
      ImportPlace component tree a b ('\n' :: Source.importStatement component)
  | front (ha : a = []) :
      ImportPlace component tree a b ('\n' :: Source.importStatement component ++ ['\n'])

/-- The import is set apart by line feeds. -/
lemma ImportPlace.text_eq {component : Component} {tree : Script.Tree} {a b inserted : Text}
    (h : ImportPlace component tree a b inserted) :
    ∃ pre post, (∀ c ∈ pre, c = '\n') ∧ (∀ c ∈ post, c = '\n')
      ∧ inserted = pre ++ Source.importStatement component ++ post := by
  cases h with
  | lineStart _ feeds hfeeds => exact ⟨[], feeds, by simp, hfeeds, rfl⟩
  | behindImport => exact ⟨['\n'], [], by simp, by simp, by simp⟩
  | front => exact ⟨['\n'], ['\n'], by simp, by simp, by simp⟩

/-- Where the import of a component goes. -/
lemma importInsertion_place {text before after : Text} {block : Block}
    (h : Block.Sits text before after block) {tree : Script.Tree}
    (himports : ∀ child ∈ tree.children, child.ImportsModule →
      block.content.IsBoundary child.stop) (component : Component) :
    ∃ a b, block.content = a ++ b
      ∧ (importInsertion block (statementsOf ⟨block.content, block.contentSpan.start⟩ tree)
          component).At (before ++ a) (b ++ after)
      ∧ ImportPlace component tree a b
          (importInsertion block (statementsOf ⟨block.content, block.contentSpan.start⟩ tree)
            component).text := by
  rw [importInsertion]
  split
  case h_1 last hlast =>
    obtain ⟨child, hchild, himport, hspan⟩ := exists_of_lastImport? hlast
    obtain ⟨a, b, hcontent, hstop⟩ := himports child hchild himport
    have hpos : last.span.stop = Position.origin.after (before ++ a) := by
      rw [hspan, Site.span, h.start_eq, hcontent, ← hstop]
      exact Site.position_append before a b
    split
    case isTrue hline =>
      -- the line of the last import ends inside the content
      rw [h.stop_eq, hpos, hcontent, ← List.append_assoc] at hline
      obtain ⟨m, m', rfl, hoffset⟩ := offset_next_line hline after
      refine ⟨a ++ m ++ ['\n'], m', by simp [hcontent], ?_, .lineStart (by simp) _ (by simp)⟩
      have htext : before ++ (a ++ m ++ ['\n']) ++ (m' ++ after)
          = before ++ a ++ (m ++ '\n' :: m') ++ after := by simp
      have hbytes : before ++ (a ++ m ++ ['\n']) = before ++ a ++ m ++ ['\n'] := by simp
      rw [Insertion.At, htext, hbytes, ← hoffset, hpos]
    case isFalse =>
      refine ⟨a, b, hcontent, ?_, .behindImport child hchild himport hstop.symm⟩
      rw [hpos]
      exact Insertion.placed_at _ _ _
  case h_2 =>
    split
    case isTrue =>
      refine ⟨[], block.content, rfl, ?_, .front rfl⟩
      rw [h.start_eq, List.append_nil]
      exact Insertion.placed_at _ _ _
    case isFalse hlines =>
      have hline : (Position.origin.after before).line
          < (Position.origin.after (before ++ block.content)).line := by
        rw [Span.isSingleLine, h.start_eq, h.stop_eq, decide_eq_true_eq] at hlines
        have hle := Position.line_le_after (Position.origin.after before) block.content
        rw [← Position.after_append] at hle
        omega
      obtain ⟨m, m', hcontent, hoffset⟩ := offset_next_line hline after
      refine ⟨m ++ ['\n'], m', by simp [hcontent], ?_, .lineStart (by simp) _ (by simp)⟩
      have htext : before ++ (m ++ ['\n']) ++ (m' ++ after) = before ++ block.content ++ after := by
        simp [hcontent]
      have hbytes : before ++ (m ++ ['\n']) = before ++ m ++ ['\n'] := by simp
      rw [Insertion.At, htext, hbytes, ← hoffset, h.start_eq]

/-- The statements of a script that is well formed. -/
lemma outline_eq_ok {syntaxTree : Text → Script.Tree} {block : Block} {statements : List Statement}
    (h : (ScriptBlock.ofBlock syntaxTree block).outline = .ok statements) :
    statements
      = statementsOf ⟨block.content, block.contentSpan.start⟩ (syntaxTree block.content) := by
  have houtline : outlineOf ⟨block.content, block.contentSpan.start⟩ (syntaxTree block.content)
      = .ok statements := h
  rw [outlineOf] at houtline
  split at houtline
  · cases houtline
  · exact (Except.ok.inj houtline).symm

/-- An import is put in unless the module is mentioned. -/
lemma ensureImport_eq_ok {syntaxTree : Text → Script.Tree} {block : Block} {component : Component}
    {edit : Option Insertion}
    (h : ensureImport (ScriptBlock.ofBlock syntaxTree block) component = .ok edit) :
    edit = none ∨ edit = some (importInsertion block
      (statementsOf ⟨block.content, block.contentSpan.start⟩ (syntaxTree block.content))
        component) := by
  rw [ensureImport] at h
  split at h
  case isTrue => exact .inl (Except.ok.inj h).symm
  case isFalse =>
    split at h
    case h_1 statements hstatements =>
      rw [← outline_eq_ok hstatements]
      exact .inr (Except.ok.inj h).symm
    case h_2 => cases h

/-- A script setup without content is filled with the import; any other one gets the import that it
needs. -/
lemma registerIn_setup_cases {text : Text} {document : Document} {setup : ScriptBlock}
    {component : Component} {settings : Settings} {edits : List Insertion}
    (hsetup : document.scriptSetup = some setup)
    (h : registerIn text document component settings = .ok edits) :
    setup.isEmpty = true ∧ edits = [fillEmpty setup.toBlock (Source.importStatement component)]
      ∨ setup.isEmpty = false
        ∧ ∃ edit, ensureImport setup component = .ok edit ∧ edits = edit.toList := by
  rw [registerIn, hsetup] at h
  dsimp only at h
  split at h
  case isTrue hempty => exact .inl ⟨hempty, (Except.ok.inj h).symm⟩
  case isFalse hcontent =>
    cases hensure : ensureImport setup component with
    | error error =>
        rw [hensure] at h
        cases h
    | ok edit =>
        rw [hensure] at h
        exact .inr ⟨Bool.eq_false_iff.mpr hcontent, edit, rfl, (Except.ok.inj h).symm⟩

end Registration

end ComponentFile
