import Mathlib.Tactic
import ComponentFile.Proofs.Registration.Frame
import ComponentFile.Proofs.Server.Mirror
import ComponentFile.Proofs.Text.Coordinates

/-!
A registration is not taken for typing when the client reports it.

The change that is reported has the line of the insertion in the old text, and the template has its
lines in the new one.

* `Insertion.At.line_eq`: the line of an insertion is that of the place where it is put.
* `Aside text edits`: nothing is put into the text, or one insertion beside its template. Such edits
  are found to be no typing (`Aside.detect?_eq_none`), wherever the template stands.
* `aside_of_setup`, `aside_of_newScriptBlock`: registrations put their edits there.
* `register_unnoticed` is the statement for all documents with a script setup or without scripts,
  and for the sessions in which the change arrives.
-/

namespace ComponentFile

open Text Markup

/-! ### Lines -/

namespace Text

/-- Later boundaries are on later lines. -/
lemma position_line_monotoneOn (text : Text) :
    MonotoneOn (fun o => (text.position o).line) {o | text.IsBoundary o} := by
  intro o ho o' ho' hle
  exact Prod.Lex.monotone_fst _ _ ((position_strictMonoOn text).monotoneOn ho ho' hle)

lemma position_line_append (s t : Text) : ((s ++ t).position s.bytes).line = s.count '\n' := by
  rw [position_append, Position.after_line]
  exact Nat.zero_add _

end Text

/-- The line of an insertion is that of the place where it is put, unless it is put at the end of
the text, which any line past the last one means as well. -/
lemma Insertion.At.line_eq {s t : Text} {edit : Insertion} (h : edit.At s t) (ht : t ≠ []) :
    edit.line = s.count '\n' := by
  have hline : edit.line ≤ (s ++ t).count '\n' := by
    by_contra hpast
    have hend := offset_of_count_lt (s ++ t) (not_le.mp hpast) edit.column
    rw [h, bytes_append] at hend
    exact ht (bytes_eq_zero.mp (by omega))
  obtain ⟨before, l, after, hat⟩ := exists_lineAt hline
  obtain ⟨a, b, -, hpoint, -⟩ := hat.position_eq edit.column
  rw [h] at hpoint
  rw [← position_line_append s t, hpoint]

/-! ### Changes -/

/-- An insertion as the client reports it. -/
def Insertion.toChange (edit : Insertion) : Change :=
  ⟨some (⟨edit.line, edit.column⟩, ⟨edit.line, edit.column⟩), edit.text⟩

lemma Insertion.toChange_apply (edit : Insertion) (text : Text) :
    edit.toChange.apply text = applyInsertions text [edit] := by
  have hone : applyInsertions text [edit]
      = text.insertAt (text.offset edit.line edit.column) edit.text := rfl
  rw [hone, Change.apply, Insertion.toChange, insertAt]
  simp only [max_self]

/-- A change on the line of a place beside an element is not between the tags of the element. -/
lemma isTemplateChange_eq_false {s t : Text} {e : Element} (he : e ∈ scan (s ++ t))
    (hbeside : e.stop ≤ s.bytes ∨ s.bytes ≤ e.start) :
    Placement.isTemplateChange (s.count '\n') (s.count '\n') (.ofElement (s ++ t) e) = false := by
  have hbounds := (sound_of_mem_scan he).boundaries
  have hplace : (s ++ t).IsBoundary s.bytes := ⟨s, t, rfl, rfl⟩
  rw [Placement.isTemplateChange, ← position_line_append s t, Bool.and_eq_false_iff,
    decide_eq_false_iff_not, decide_eq_false_iff_not, not_lt, not_lt]
  rcases hbeside with hbefore | hbehind
  · exact .inr (position_line_monotoneOn _ (hbounds _ (by simp)) hplace hbefore)
  · exact .inl (position_line_monotoneOn _ hplace (hbounds _ (by simp)) hbehind)

/-- Changes that are all outside the template are no typing. -/
lemma detectIn?_eq_none {template : Block} {changes : List Detection.TypedText}
    (h : ∀ c ∈ changes, Placement.isTemplateChange c.firstLine c.lastLine template = false)
    (components : List Component) : Detection.detectIn? template changes components = none := by
  have hnone : changes.filter
      (fun c => Placement.isTemplateChange c.firstLine c.lastLine template) = [] :=
    List.filter_eq_nil_iff.mpr fun c hc => by simp [h c hc]
  simp [Detection.detectIn?, hnone]

/-! ### Insertions beside the template -/

/-- Nothing is put into the text, or one insertion beside every template of the new text. -/
inductive Aside (text : Text) : List Insertion → Prop where
  | nothing : Aside text []
  | beside {s t : Text} {edit : Insertion} (htext : text = s ++ t) (hat : edit.At s t)
      (hline : edit.line = s.count '\n')
      (hbeside : ∀ e ∈ scan (s ++ (edit.text ++ t)), e.isNamed "template" = true →
        e.stop ≤ s.bytes ∨ s.bytes ≤ e.start) : Aside text [edit]

namespace Aside

variable {text : Text} {edits : List Insertion}

/-- The changes leave the text of the insertions. -/
lemma foldl_apply (h : Aside text edits) :
    (edits.map Insertion.toChange).foldl (fun text change => change.apply text) text
      = applyInsertions text edits := by
  cases h with
  | nothing => rfl
  | @beside s t edit => exact edit.toChange_apply text

/-- **What is put beside the template is no typing.** -/
lemma detect?_eq_none (h : Aside text edits) (components : List Component) :
    Detection.detect? (applyInsertions text edits)
      ((edits.map Insertion.toChange).filterMap Detection.TypedText.ofChange?) components
      = none := by
  rw [Detection.detect?, Option.bind_eq_bind, Option.bind_eq_none_iff]
  intro template htemplate
  refine detectIn?_eq_none ?_ components
  cases h with
  | nothing => simp
  | @beside s t edit htext hat hline hbeside =>
      rw [htext, applyInsertions_singleton hat] at htemplate
      obtain ⟨e, hfind, rfl⟩ := Option.map_eq_some_iff.mp htemplate
      have hmem := List.mem_of_find?_eq_some hfind
      have hnamed : e.isNamed "template" = true :=
        List.find?_some (p := fun e : Element => e.isNamed "template") hfind
      intro c hc
      obtain rfl : c = ⟨edit.line, edit.line, edit.text⟩ := List.mem_singleton.mp hc
      rw [hline]
      exact isTemplateChange_eq_false hmem (hbeside e hmem hnamed)

end Aside

/-- Where scripts are displaced, everything else is on one side of the place. -/
lemma Markup.Displaced.beside {text text' : Text} {n k : Nat} {before x x' after : List Element}
    (h : Displaced text text' n k before x x' after) (hx' : ∀ e ∈ x', e.isNamed "script" = true)
    {e : Element} (he : e ∈ scan text') (hnamed : e.isNamed "template" = true) :
    e.stop ≤ n ∨ n ≤ e.start := by
  rw [h.scan_eq', List.mem_append, List.mem_append] at he
  rcases he with hbefore | hscript | hbehind
  · exact .inl (h.before_stop e hbefore).le
  · exact absurd (Document.isNamed_unique hnamed (hx' e hscript)) (by decide)
  · obtain ⟨old, hold, rfl⟩ := List.mem_map.mp hbehind
    exact .inr ((h.after_start old hold).trans (Nat.le_add_left _ k))

namespace Registration

/-- A run that finds a script setup puts its edit beside the template. -/
lemma aside_of_setup {syntaxTree : Text → Script.Tree} {text : Text} {block : Block}
    (hblock : (Document.scripts text (scan text)).find? (·.has "setup") = some block)
    (htree : (syntaxTree block.content).ImportsEnd block.content)
    {component : Component} (hplain : component.IsPlain) {settings : Settings}
    {edits : List Insertion} (hrun : registerBy syntaxTree text component settings = .ok edits) :
    Aside text edits := by
  obtain ⟨p, tag, ⟨content, closeTag⟩, rest, found, hat, rfl, hscript, -, -⟩ :=
    Document.exists_scriptAt hblock
  have hdocument : (Document.parseBy syntaxTree text).scriptSetup
      = some (.ofBlock syntaxTree (.ofElement text (.build p.bytes tag ⟨content, closeTag⟩))) := by
    simp only [Document.parseBy, hblock, Option.map_some]
  cases setupEdits_of_registerBy htree hat hdocument hrun with
  | nothing => exact .nothing
  | @line edit a b pre post hab hedit hseam himport hpre hpost =>
      obtain rfl : content = a ++ b := hab
      have hline : Inert edit.text := himport ▸ inert_import hplain hpre hpost
      have hbehind : b ++ (closeTag ++ rest) ≠ [] := by
        obtain ⟨t, rfl⟩ : ∃ t, closeTag = '<' :: t := hat.closeTag_cons
        simp
      have htext' : p ++ (tag.text ++ (a ++ (edit.text ++ b) ++ (closeTag ++ rest)))
          = p ++ tag.text ++ a ++ (edit.text ++ (b ++ (closeTag ++ rest))) := by simp
      refine .beside (by rw [hat.text_eq]; simp) hedit (hedit.line_eq hbehind) ?_
      rw [← htext']
      refine fun e he hnamed => (displaced_line hat hseam hline).beside ?_ he hnamed
      intro e' he'
      rw [List.mem_singleton.mp he']
      exact (Bool.and_eq_true_iff.mp hscript).1

/-- A run that finds no script puts its edit in front of everything. -/
lemma aside_of_newScriptBlock {syntaxTree : Text → Script.Tree} {text : Text}
    (hsetup : (Document.parseBy syntaxTree text).scriptSetup = none)
    (hscript : (Document.parseBy syntaxTree text).script = none)
    {component : Component} {settings : Settings}
    {edits : List Insertion} (hrun : registerBy syntaxTree text component settings = .ok edits) :
    Aside text edits := by
  rw [registerBy, registerIn, hsetup, hscript] at hrun
  obtain rfl : [⟨0, 0, Source.newScriptBlock component settings⟩] = edits := Except.ok.inj hrun
  have hat : (⟨0, 0, Source.newScriptBlock component settings⟩ : Insertion).At [] text :=
    Insertion.placed_at [] text _
  exact .beside rfl hat rfl fun e _ _ => .inr (Nat.zero_le e.start)

/-- **Registration does not feed on its own edits.** No component is detected in the changes by
which a client reports them, whatever components there are. So a session that takes the report into
its documents sends nothing, and there is no second registration. -/
theorem register_unnoticed (syntaxTree : Text → Script.Tree) (text : Text)
    (htree : ∀ setup, (Document.parseBy syntaxTree text).scriptSetup = some setup →
      (syntaxTree setup.content).ImportsEnd setup.content)
    {component : Component} (hplain : component.IsPlain) (settings : Settings)
    (hscripts : (Document.parseBy syntaxTree text).scriptSetup.isSome = true
      ∨ (Document.parseBy syntaxTree text).scriptSetup = none
        ∧ (Document.parseBy syntaxTree text).script = none)
    {edits : List Insertion} (hrun : registerBy syntaxTree text component settings = .ok edits) :
    (∀ components, Detection.detect? (applyInsertions text edits)
        ((edits.map Insertion.toChange).filterMap Detection.TypedText.ofChange?) components = none)
      ∧ ∀ (session : Server.Session) (uri : Text) (answer : Json)
        (incoming : Server.Session.Incoming), session.phase = .running →
        session.documents.get? uri = some text →
        incoming.notification? = some (.didChange uri (edits.map Insertion.toChange)) →
        session.receive answer incoming
          = ({ session with documents := session.documents.put uri (applyInsertions text edits) },
            .handled [] none) := by
  have haside : Aside text edits := by
    rcases hscripts with hsome | ⟨hnone, hscript⟩
    · obtain ⟨setup, hsetup⟩ := Option.isSome_iff_exists.mp hsome
      obtain ⟨block, hblock, rfl⟩ := Option.map_eq_some_iff.mp hsetup
      exact aside_of_setup hblock (htree _ hsetup) hplain hrun
    · exact aside_of_newScriptBlock hnone hscript hrun
  refine ⟨haside.detect?_eq_none, ?_⟩
  intro session uri answer incoming hrunning hopen hread
  have hchange : session.documents.change uri (edits.map Insertion.toChange)
      = (session.documents.put uri (applyInsertions text edits),
        some (applyInsertions text edits)) := by
    rw [Store.change, hopen]
    simp only [haside.foldl_apply]
  rw [Server.Session.receive_notification hrunning answer hread (by simp), Server.Session.heed,
    hchange]
  simp only [Server.Session.registerTyped, haside.detect?_eq_none]

/-- `register_unnoticed` where the script setup begins on the last line of a template and another
template begins on its last line, and the change arrives as a message. The same text a line above
would be typing. -/
theorem register_unnoticed_sharedLines :
    let text : Text := "<template>\n<B/>\n</template><script setup>".toList ++ commentedImport
      ++ "</script><template>\nB\n</template>".toList
    let component : Component := ⟨"B".toList, "@/B.vue".toList⟩
    let edits : List Insertion := [⟨2, 65, "\nimport B from '@/B.vue'".toList⟩]
    let uri : Text := "file:///a.vue"
    let caret : Json := .record [("line", .nat 2), ("character", .nat 65)]
    let didChange : Server.Session.Incoming := ⟨"textDocument/didChange", some (.record
      [("textDocument", .record [("uri", .string uri), ("version", .nat 2)]),
        ("contentChanges", .array [.record [("range", .record [("start", caret), ("end", caret)]),
          ("text", .str "\nimport B from '@/B.vue'")]])]), false⟩
    let session : Server.Session := { phase := .running, documents := ⟨[(uri, text)]⟩ }
    let new := applyInsertions text edits
    registerBy commentedImportTree text component {} = .ok edits
      ∧ Detection.detect? new [⟨1, 1, "\nimport B from '@/B.vue'".toList⟩] [component]
        = some component
      ∧ Detection.detect? new
        ((edits.map Insertion.toChange).filterMap Detection.TypedText.ofChange?) [component] = none
      ∧ session.receive .null didChange
        = ({ session with documents := session.documents.put uri new }, .handled [] none) := by
  intro text component edits uri caret didChange session new
  have hplain : component.IsPlain := ⟨by decide, by decide⟩
  have hrun : registerBy commentedImportTree text component {} = .ok edits := by decide +kernel
  have hsetup : (Document.parseBy commentedImportTree text).scriptSetup.isSome = true := by
    decide +kernel
  obtain ⟨hnone, hreceive⟩ := register_unnoticed commentedImportTree text
    (fun setup _ => commentedImportTree_importsEnd setup.content) hplain {} (.inl hsetup) hrun
  exact ⟨hrun, by decide +kernel, hnone _,
    hreceive session uri .null didChange rfl (by decide +kernel) rfl⟩

end Registration

end ComponentFile
