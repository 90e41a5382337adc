import Mathlib.Tactic
import ComponentFile.Proofs.Registration.Confinement
import ComponentFile.Proofs.Script.Nesting

/-!
When an import is put into the middle of a statement.

The import of a component goes below a line that is found by its number alone, or to one of two
points that lie between statements. So all depends on what begins on that line.

* `exists_import_mem`: an import that the chosen script lacks is one of the edits.
* `lineAbove? block statements`: the line below which the import goes, where it is found so: the
  line on which the last import ends, or else that of the opening tag.
* `Statement.Overruns line`: a statement begins on the line and goes on below it.
* `splits_lineStart_iff` compares offsets by lines and columns, and `import_splits_iff` does so for
  the four places of an import.
* `register_import_splits_iff` is the statement for all documents: a statement is split exactly if
  it overruns that line. Imports are kept out of the middle of statements on every other layout.
-/

namespace ComponentFile

open Text Script

namespace Registration

/-! ### New imports -/

/-- A module is imported exactly if it is not mentioned. -/
lemma ensureImport_cases {script : ScriptBlock} {component : Component} {edit : Option Insertion}
    (h : ensureImport script component = .ok edit) :
    mentions script component = true ∧ edit = none
      ∨ mentions script component = false ∧ ∃ statements, script.outline = .ok statements
        ∧ edit = some (importInsertion script.toBlock statements component) := by
  rw [ensureImport] at h
  split at h
  case isTrue hmentions => exact .inl ⟨hmentions, (Except.ok.inj h).symm⟩
  case isFalse hnew =>
    split at h
    case h_1 statements hstatements =>
      exact .inr ⟨Bool.not_eq_true _ ▸ hnew, statements, hstatements, (Except.ok.inj h).symm⟩
    case h_2 => cases h

/-- A module that is not mentioned is imported. -/
lemma ensureImport_of_new {script : ScriptBlock} {component : Component} {edit : Option Insertion}
    (h : ensureImport script component = .ok edit) (hnew : mentions script component = false) :
    ∃ statements, script.outline = .ok statements
      ∧ edit = some (importInsertion script.toBlock statements component) := by
  rcases ensureImport_cases h with ⟨hmentions, -⟩ | ⟨-, himport⟩
  · rw [hnew] at hmentions
    cases hmentions
  · exact himport

/-- The import of a module that a script with content does not mention is one of the edits. -/
lemma exists_import_mem {syntaxTree : Text → Script.Tree} {text : Text} {component : Component}
    {settings : Settings} {edits : List Insertion} {script : ScriptBlock}
    (h : registerBy syntaxTree text component settings = .ok edits)
    (hscript : chosen? (Document.parseBy syntaxTree text) = some script)
    (hcontent : script.isEmpty = false) (hnew : mentions script component = false) :
    ∃ statements, script.outline = .ok statements
      ∧ importInsertion script.toBlock statements component ∈ edits := by
  cases plan_of_registerBy h hscript with
  | fill hempty body hbody =>
      rw [hcontent] at hempty
      cases hempty
  | setup _ imported hensure =>
      obtain ⟨statements, houtline, rfl⟩ := ensureImport_of_new hensure hnew
      exact ⟨statements, houtline, by simp⟩
  | entry _ _ _ imported hensure =>
      obtain ⟨statements, houtline, rfl⟩ := ensureImport_of_new hensure hnew
      exact ⟨statements, houtline, by simp⟩
  | append _ _ _ imported hensure =>
      obtain ⟨statements, houtline, rfl⟩ := ensureImport_of_new hensure hnew
      exact ⟨statements, houtline, by simp⟩

/-! ### Lines that are overrun -/

/-- The line below which the import of a component goes, where it is found by its number: that on
which the last import ends, or else that of the opening tag. -/
def lineAbove? (block : Block) (statements : List Statement) : Option Nat :=
  match lastImport? statements with
  | some last =>
    if last.span.stop.line < block.contentSpan.stop.line then some last.span.stop.line else none
  | none =>
    if block.contentSpan.isSingleLine then none else some block.contentSpan.start.line

end Registration

/-- The statement begins on a line and goes on past the beginning of the next one. -/
def Script.Statement.Overruns (statement : Statement) (line : Nat) : Prop :=
  statement.span.start.line = line ∧ toLex (line + 1, 0) < statement.span.stop.lineColumn

instance (statement : Statement) (line : Nat) : Decidable (statement.Overruns line) :=
  inferInstanceAs (Decidable (_ ∧ _))

namespace Registration

/-- A point stands before the beginning of a line exactly if it is on an earlier one. -/
lemma lineColumn_lt_lineStart {p : Position} {line : Nat} :
    p.lineColumn < toLex (line, 0) ↔ p.line < line := by
  rw [Position.lineColumn, Prod.Lex.toLex_lt_toLex]
  simp

/-- The beginning of a line is in the middle of a statement that begins no earlier than on the line
above exactly if the statement overruns that line. -/
lemma splits_lineStart_iff {text : Text} {line place : Nat} {statement : Statement}
    (hplace : text.HasPoint ⟨line + 1, 0, place⟩) (hstart : text.HasPoint statement.span.start)
    (hstop : text.HasPoint statement.span.stop)
    (hfloor : place < statement.span.stop.offset → line ≤ statement.span.start.line) :
    statement.span.start.offset < place ∧ place < statement.span.stop.offset
      ↔ statement.Overruns line := by
  have hbefore : statement.span.start.offset < place ↔ statement.span.start.line < line + 1 :=
    (hstart.lt_iff hplace).trans lineColumn_lt_lineStart
  have hbehind : place < statement.span.stop.offset
      ↔ toLex (line + 1, 0) < statement.span.stop.lineColumn := hplace.lt_iff hstop
  rw [Statement.Overruns, ← hbehind, hbefore]
  constructor
  · rintro ⟨hlt, hin⟩
    have := hfloor hin
    exact ⟨by omega, hin⟩
  · rintro ⟨rfl, hin⟩
    exact ⟨by omega, hin⟩

section Script

variable {text before after : Text} {block : Block} (hsits : Block.Sits text before after block)
  {tree : Script.Tree} (hlaid : tree.Laid block.content) {statement : Statement}
  (hstatement : statement ∈ statementsOf ⟨block.content, block.contentSpan.start⟩ tree)

include hsits in
/-- The ends of the content of a script are points of the text. -/
lemma contentSpan_hasPoint :
    text.HasPoint block.contentSpan.start ∧ text.HasPoint block.contentSpan.stop :=
  ⟨⟨_, _, hsits.text_eq, hsits.start_eq⟩,
    ⟨before ++ block.content, after, by rw [hsits.text_eq, List.append_assoc], hsits.stop_eq⟩⟩

include hsits hlaid hstatement in
/-- A statement begins and ends at points of the text, inside the content of its script. -/
lemma statement_hasPoint :
    text.HasPoint statement.span.start ∧ text.HasPoint statement.span.stop
      ∧ statement.span.Inside block.contentSpan := by
  obtain ⟨child, hchild, -, hspan⟩ := mem_statementsOf hstatement
  have hcontent : block.contentSpan
      = ⟨Position.origin.after before, Position.origin.after (before ++ block.content)⟩ := by
    rw [← hsits.start_eq, ← hsits.stop_eq]
  let site : Site := ⟨block.content, Position.origin.after before⟩
  have hchildLaid : child.Laid site.content := hlaid.child hchild
  rw [hsits.text_eq, hspan, hsits.start_eq, hcontent]
  exact ⟨hchildLaid.isPoint.1.hasPoint, hchildLaid.isPoint.2.hasPoint,
    (hlaid.child hchild).inside_content⟩

include hlaid hstatement in
/-- Of two statements, one stands before the other. -/
lemma statement_before_or {other : Statement}
    (hother : other ∈ statementsOf ⟨block.content, block.contentSpan.start⟩ tree) :
    statement = other ∨ statement.span.Before other.span ∨ other.span.Before statement.span := by
  have hordered : (statementsOf ⟨block.content, block.contentSpan.start⟩ tree).Pairwise
      fun a b => a.span.Before b.span := statementsOf_before hlaid
  -- a relation that holds of all ordered pairs, and of all pairs by symmetry
  let beside : Statement → Statement → Prop := fun a b =>
    a.span.Before b.span ∨ b.span.Before a.span
  have : Std.Symm beside := ⟨fun a b h => h.symm⟩
  have hbeside : (statementsOf ⟨block.content, block.contentSpan.start⟩ tree).Pairwise beside :=
    hordered.imp .inl
  by_cases hsame : statement = other
  · exact .inl hsame
  · exact .inr (hbeside.forall hstatement hother hsame)

/-! ### The four places of an import -/

include hsits hlaid hstatement in
/-- **An import splits a statement exactly if the statement overruns the line above it.** -/
lemma import_splits_iff (component : Component) :
    let statements := statementsOf ⟨block.content, block.contentSpan.start⟩ tree
    let edit := importInsertion block statements component
    statement.span.start.offset < text.offset edit.line edit.column
        ∧ text.offset edit.line edit.column < statement.span.stop.offset
      ↔ ∃ line, lineAbove? block statements = some line ∧ statement.Overruns line := by
  intro statements edit
  obtain ⟨hstart, hstop, hinside⟩ := statement_hasPoint hsits hlaid hstatement
  obtain ⟨hfirst, hend⟩ := contentSpan_hasPoint hsits
  rw [show edit = importInsertion block statements component from rfl, importInsertion, lineAbove?]
  cases hlast : lastImport? statements with
  | some last =>
      have hmem : last ∈ statements := List.mem_reverse.mp (List.mem_of_find?_eq_some hlast)
      obtain ⟨-, hlastStop, hlastInside⟩ := statement_hasPoint hsits hlaid hmem
      have hbeside := statement_before_or hlaid hstatement hmem
      dsimp only
      split
      case isTrue hline =>
        have hplace : text.HasPoint
            ⟨last.span.stop.line + 1, 0, text.offset (last.span.stop.line + 1) 0⟩ :=
          hasPoint_lineStart ((Nat.succ_le_of_lt hline).trans hend.line_le)
        rw [splits_lineStart_iff hplace hstart hstop ?_]
        · simp
        · -- what ends behind the place begins behind the last import
          intro hbehind
          have hlastBefore : last.span.stop.offset < text.offset (last.span.stop.line + 1) 0 :=
            (hlastStop.lt_iff hplace).mpr (lineColumn_lt_lineStart.mpr (Nat.lt_succ_self _))
          have hordered := hlastInside.ordered
          rcases hbeside with rfl | hbefore | hafter
          · omega
          · rw [Span.Before] at hbefore
            omega
          · exact hlastStop.line_mono hstart hafter
      case isFalse =>
        rw [Insertion.placed, hlastStop.offset_eq]
        have hordered := hlastInside.ordered
        simp only [reduceCtorEq, false_and, exists_false, iff_false, not_and]
        intro hbefore
        rcases hbeside with rfl | hbefore' | hafter
        · omega
        · rw [Span.Before] at hbefore'
          omega
        · rw [Span.Before] at hafter
          omega
  | none =>
      have hlow := hinside.start_le
      dsimp only
      split
      case isTrue =>
        rw [Insertion.placed, hfirst.offset_eq]
        simp only [reduceCtorEq, false_and, exists_false, iff_false, not_and]
        intro hbefore
        omega
      case isFalse hlines =>
        have hline : block.contentSpan.start.line < block.contentSpan.stop.line := by
          rw [Span.isSingleLine, decide_eq_true_eq] at hlines
          have hle := hfirst.line_mono hend (hlow.trans (hinside.ordered.trans hinside.stop_le))
          omega
        have hplace := hasPoint_lineStart ((Nat.succ_le_of_lt hline).trans hend.line_le)
        rw [splits_lineStart_iff hplace hstart hstop fun _ => hfirst.line_mono hstart hlow]
        simp

end Script

/-- **An import is put into the middle of a statement exactly if the statement overruns the line
above it.** That is the line on which the last import ends, or without imports that of the opening
tag, and there is none where the import goes behind the last import or to the front of content on
one line. The edit is that of a script with content that does not mention the module. -/
theorem register_import_splits_iff (syntaxTree : Text → Script.Tree) (text : Text)
    (component : Component) (settings : Settings) {edits : List Insertion} {script : ScriptBlock}
    (hrun : registerBy syntaxTree text component settings = .ok edits)
    (hscript : chosen? (Document.parseBy syntaxTree text) = some script)
    (hlaid : (syntaxTree script.content).Laid script.content)
    (hcontent : script.isEmpty = false) (hnew : mentions script component = false) :
    ∃ statements, script.outline = .ok statements
      ∧ importInsertion script.toBlock statements component ∈ edits
      ∧ ∀ s ∈ statements,
        let edit := importInsertion script.toBlock statements component
        s.span.start.offset < text.offset edit.line edit.column
            ∧ text.offset edit.line edit.column < s.span.stop.offset
          ↔ ∃ line, lineAbove? script.toBlock statements = some line ∧ s.Overruns line := by
  obtain ⟨statements, houtline, hedit⟩ := exists_import_mem hrun hscript hcontent hnew
  obtain ⟨block, before, after, rfl, hsits⟩ := exists_of_chosen? hscript
  refine ⟨statements, houtline, hedit, fun s hs => ?_⟩
  obtain rfl := outline_eq_ok houtline
  exact import_splits_iff hsits hlaid hs component

/-- `register_import_splits_iff` where a statement begins on the line of the last import, behind it:
the new import lands between the braces of the statement. -/
theorem register_import_splits_iff_sharedLine :
    let text : Text :=
      "<script setup>\nimport a from 'a'; const b = \x7b\n  c: 1,\n\x7d\n</script>".toList
    let component : Component := ⟨"Foo".toList, "@/Foo.vue".toList⟩
    register text component {} = .ok [⟨2, 0, "import Foo from '@/Foo.vue'\n".toList⟩]
      ∧ ∃ script statements, chosen? (Document.parse text) = some script
        ∧ script.outline = .ok statements
        ∧ ∃ s ∈ statements, s.span.start.offset < text.offset 2 0
          ∧ text.offset 2 0 < s.span.stop.offset := by
  intro text component
  have hrun :
      register text component {} = .ok [⟨2, 0, "import Foo from '@/Foo.vue'\n".toList⟩] := by
    decide +kernel
  obtain ⟨script, hscript, hlaid, hcontent, hnew, hline, s, hs, hover⟩ :
      ∃ script ∈ chosen? (Document.parse text),
        (Script.parse script.content).isLaid script.content = true ∧ script.isEmpty = false
        ∧ mentions script component = false ∧ lineAbove? script.toBlock script.statements = some 1
        ∧ ∃ s ∈ script.statements, s.Overruns 1 := by decide +kernel
  obtain ⟨statements, houtline, hedit, hsplits⟩ := register_import_splits_iff Script.parse text
    component {} hrun hscript (laid_of_isLaid _ hlaid) hcontent hnew
  have hstatements : script.statements = statements := by rw [ScriptBlock.statements, houtline]
  rw [hstatements] at hline hs
  obtain hplace := List.mem_singleton.mp hedit
  have hsplit := (hsplits s hs).mpr ⟨1, hline, hover⟩
  rw [hplace] at hsplit
  exact ⟨hrun, script, statements, hscript, houtline, s, hs, hsplit⟩

end Registration

end ComponentFile
