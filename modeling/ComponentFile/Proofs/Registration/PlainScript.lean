import Mathlib.Tactic
import ComponentFile.Proofs.Registration.Frame
import ComponentFile.Proofs.Script.Written

/-!
Registering a component again after a run that wrote a whole plain script.

* `register_of_written`: where the plain script is what a run writes, a second run does nothing.
* `fill_scriptAt`: a script of blanks that is filled is found again, with its new content.
* `register_script_again` is the statement for documents without scripts and for plain scripts of
  blanks.
-/

namespace ComponentFile

open Text Markup Script

namespace Registration

/-! ### A script that was written -/

section Written

variable {content name : Text} {statements : List Script.Tree} {component : Component}

/-- The default export is found behind the imports. -/
lemma defaultExport?_of_isScript (h : IsScript content name statements) (origin : Position)
    (n : Nat) : ∃ statement declaration options,
      defaultExport? (statementsOf ⟨content, origin⟩ (.node .program .plain 0 n statements))
        = some (statement, declaration)
      ∧ declaration.options? = some options ∧ ListsComponent options name := by
  obtain ⟨imports, exported, rfl, himports, hexported⟩ := h
  obtain ⟨declaration, options, hclassify, hoptions, hlists⟩ := hexported.lists origin
  set made : Script.Tree → Statement := fun child =>
    ⟨classify ⟨content, origin⟩ child, Site.span ⟨content, origin⟩ child⟩ with hmade
  have hnone : defaultExport? ((imports.filter (!isBareName ·)).map made) = none := by
    refine List.findSome?_eq_none_iff.mpr fun statement hstatement => ?_
    obtain ⟨child, hchild, rfl⟩ := List.mem_map.mp hstatement
    have hkind := (himports child (List.mem_of_mem_filter hchild)).1
    rw [Option.map_eq_none_iff]
    simp only [hmade, Statement.asExport?, classify, hkind]
    cases importOf? ⟨content, origin⟩ child <;> rfl
  have hsome : defaultExport? [made exported] = some (made exported, declaration) := by
    simp only [hmade, defaultExport?, List.findSome?_cons, Statement.asExport?, hclassify,
      Option.map_some]
  have hlist : statementsOf ⟨content, origin⟩ (.node .program .plain 0 n (imports ++ [exported]))
      = (imports.filter (!isBareName ·)).map made ++ [made exported] := by
    have hbare : isBareName exported = false := by simp [isBareName, hexported.kind]
    simp [statementsOf, Tree.children, hbare, hmade]
  refine ⟨made exported, declaration, options, ?_, hoptions, hlists⟩
  rw [hlist, defaultExport?, List.findSome?_append]
  exact (congrArg (Option.or · _) hnone).trans hsome

/-- Nothing is left to list where the options list the component. -/
lemma listInExport?_eq_none {options : ObjectLiteral} (h : ListsComponent options component.name)
    {declaration : Declaration} (hoptions : declaration.options? = some options) (text : Text)
    (statement : Statement) : listInExport? text statement declaration component = none := by
  obtain ⟨property, components, hproperty, hvalue, hlists⟩ := h
  simp only [listInExport?, hoptions, hproperty, hvalue, hlists, if_true]

/-- **A second run does nothing** where the plain script is what a run writes. -/
lemma register_of_written {text b : Text} {block : Block} {settings : Settings} (typed : Bool)
    (hsetup : (Document.parseBy Script.parse text).scriptSetup = none)
    (hscript : (Document.parseBy Script.parse text).script = some (.ofBlock Script.parse block))
    (hcomponent : Readable component) (hb : ∀ c ∈ b, isGapBlank c = true)
    (hcontent : block.content
      = b ++ (Source.scriptContent component settings typed ++ ['\n'])) :
    register text component settings = .ok [] := by
  obtain ⟨statements, hwritten, hprogram⟩ :=
    program_written hb hcomponent settings typed hcontent
  obtain ⟨statement, declaration, options, hexport, hoptions, hlists⟩ :=
    defaultExport?_of_isScript hwritten block.contentSpan.start block.content.bytes
  have houtline : (ScriptBlock.ofBlock Script.parse block).outline
      = .ok (statementsOf ⟨block.content, block.contentSpan.start⟩
        (.node .program .plain 0 block.content.bytes statements)) := by
    rw [ScriptBlock.ofBlock, Script.parse, hprogram]
    simp only [outlineOf, hwritten.hasFault, Bool.false_eq_true, if_false]
  obtain ⟨u, v, himport⟩ : ∃ u v, (ScriptBlock.ofBlock Script.parse block).content
      = u ++ (Source.importStatement component ++ v) := by
    refine ⟨b ++ (if typed then Source.typeHelperImport ++ ['\n'] else []), "\n\n".toList
      ++ Source.defaultExport component settings typed ++ ['\n'], hcontent.trans ?_⟩
    unfold Source.scriptContent
    simp only [List.append_assoc]
  have hensure : ensureImport (.ofBlock Script.parse block) component = .ok none := by
    rw [ensureImport, mentions_of_import himport, if_pos rfl]
  have hrun : registerInScript text (.ofBlock Script.parse block) component settings = .ok [] := by
    simp only [registerInScript, houtline, hensure, bind, Except.bind, hexport,
      listInExport?_eq_none hlists hoptions]
    rfl
  rw [register, registerBy, registerIn, hsetup, hscript]
  dsimp only
  rw [not_isEmpty_of_import himport, if_neg (by simp), hrun]

end Written

/-! ### A script that was filled -/

section Filled

variable {text text' p rest closeTag content : Text} {tag : OpenTag} {closing closing' : Closing}
  {found : List Element} {component : Component}

lemma isPlain_defaultExport (hname : Markup.IsPlain component.name) (settings : Settings)
    (typed : Bool) : Markup.IsPlain (Source.defaultExport component settings typed) := by
  have hoption : Markup.IsPlain (Source.componentsOption component) := by
    unfold Source.componentsOption
    exact isPlain_append (isPlain_append (by decide) hname) (by decide)
  have hoptions : Markup.IsPlain (Source.options component settings) := by
    unfold Source.options
    split
    · exact isPlain_append (isPlain_append hoption (by decide)) (by decide)
    · exact hoption
  unfold Source.defaultExport
  split
  · exact isPlain_append (isPlain_append (by decide) hoptions) (by decide)
  · exact isPlain_append (isPlain_append (by decide) hoptions) (by decide)

/-- The import of the typed wrapper is an inert line. -/
lemma inert_typeHelperImport {feeds : Text} (hfeeds : ∀ c ∈ feeds, c = '\n') :
    Inert (feeds ++ Source.typeHelperImport ++ ['\n']) := by
  have himport : Source.typeHelperImport
      = Source.importStatement ⟨"\x7b defineComponent \x7d".toList, "vue".toList⟩ := by decide
  rw [himport]
  exact inert_import ⟨by decide, by decide⟩ hfeeds (by simp)

/-- The import of a component and a default export make up an inert line. -/
lemma inert_script (hplain : component.IsPlain) (settings : Settings) (typed : Bool) {feeds : Text}
    (hfeeds : ∀ c ∈ feeds, c = '\n') : Inert (feeds ++ Source.importStatement component
      ++ ("\n\n".toList ++ Source.defaultExport component settings typed ++ ['\n'])) := by
  refine inert_of_import hplain (isPlain_feeds hfeeds) ?_ ?_
  · have hexport := isPlain_defaultExport hplain.1 settings typed
    exact isPlain_append (isPlain_append (by decide) hexport) (by decide)
  · intro c hc
    rw [List.getLast?_concat] at hc
    obtain rfl : '\n' = c := Option.some.inj hc
    decide

/-- A line put behind the content of a script. -/
lemma graft_end (hat : ScriptAt text p tag ⟨content, closeTag⟩ rest found) {line : Text}
    (hseam : Seam (tag.text ++ content) line (closeTag ++ rest)) (hline : Inert line) :
    ScriptAt (p ++ (tag.text ++ (content ++ line ++ (closeTag ++ rest)))) p tag
      ⟨content ++ line, closeTag⟩ rest found := by
  rw [← List.append_nil content] at hat
  have hgraft := hat.graft hseam hline
  rwa [List.append_nil] at hgraft

/-- **A script of blanks that is filled** is found again, with its new content. -/
lemma fill_scriptAt (hat : ScriptAt text p tag ⟨content, closeTag⟩ rest found)
    (hblank : ∀ c ∈ content, isBlank c = true) (hplain : component.IsPlain) (settings : Settings)
    (typed : Bool) {feeds : Text} (hfeeds : ∀ c ∈ feeds, c = '\n') : ∃ text',
      ScriptAt text' p tag
        ⟨content ++ (feeds ++ Source.scriptContent component settings typed ++ ['\n']), closeTag⟩
        rest found := by
  have hseam : ∀ line, Seam (tag.text ++ content) line (closeTag ++ rest) := fun line =>
    seam_of_blank hat.getLast?_tag hblank
  cases typed with
  | false =>
      have hcontent : feeds ++ Source.scriptContent component settings false ++ ['\n']
          = feeds ++ Source.importStatement component
            ++ ("\n\n".toList ++ Source.defaultExport component settings false ++ ['\n']) := by
        unfold Source.scriptContent
        simp
      rw [hcontent]
      exact ⟨_, graft_end hat (hseam _) (inert_script hplain settings false hfeeds)⟩
  | true =>
      have hhelper := graft_end hat (hseam _) (inert_typeHelperImport hfeeds)
      have hlast : (tag.text ++ (content ++ (feeds ++ Source.typeHelperImport ++ ['\n']))).getLast?
          = some '\n' := by
        simp
      have hscript : Inert ([] ++ Source.importStatement component
          ++ ("\n\n".toList ++ Source.defaultExport component settings true ++ ['\n'])) :=
        inert_script hplain settings true (by simp)
      have hcontent : content ++ (feeds ++ Source.scriptContent component settings true ++ ['\n'])
          = content ++ (feeds ++ Source.typeHelperImport ++ ['\n'])
            ++ ([] ++ Source.importStatement component
              ++ ("\n\n".toList ++ Source.defaultExport component settings true ++ ['\n'])) := by
        unfold Source.scriptContent
        simp
      rw [hcontent]
      exact ⟨_, graft_end hhelper (seam_of_last hlast (by decide)) hscript⟩

/-- What the scripts of a text are does not depend on the content of one of them. -/
lemma find?_isScriptOf_eq_none (hat : ScriptAt text p tag closing rest found)
    (hat' : ScriptAt text' p tag closing' rest found) {setup : Bool}
    (h : (scan text).find? (Document.isScriptOf setup) = none) :
    (scan text').find? (Document.isScriptOf setup) = none := by
  have hshift : ∀ n, scanFrom n 0 rest = (scanFrom 0 0 rest).map (Element.shift n) := fun n => by
    rw [← scanFrom_shift, Nat.add_zero]
  rw [List.find?_eq_none, hat.scan_eq, hshift] at h
  rw [List.find?_eq_none, hat'.scan_eq, hshift]
  simp only [List.forall_mem_append, List.forall_mem_cons, List.forall_mem_map] at h ⊢
  exact h

/-- A second run where the plain script was empty before the first one. -/
lemma register_filled_again {block : Block}
    (hblock : (Document.scripts text (scan text)).find? (!·.has "setup") = some block)
    (hsetup : (scan text).find? (Document.isScriptOf true) = none)
    (hblank : ∀ c ∈ block.content, isBlank c = true ∧ isGapBlank c = true)
    (hplain : component.IsPlain) (hcomponent : Readable component) (settings : Settings)
    (typed : Bool) :
    register (applyInsertions text
      [fillEmpty block (Source.scriptContent component settings typed)]) component settings
        = .ok [] := by
  obtain ⟨p, tag, ⟨content, closeTag⟩, rest, found, hat, rfl, hscript, htest, hbefore⟩ :=
    Document.exists_scriptAt hblock
  obtain ⟨feeds, hfeeds, htext⟩ := fillEmpty_text
    (.ofElement text (.build p.bytes tag ⟨content, closeTag⟩))
    (Source.scriptContent component settings typed)
  obtain ⟨text', hat'⟩ := fill_scriptAt hat (fun c hc => (hblank c hc).1) hplain settings typed
    hfeeds
  have happlied : applyInsertions text
      [fillEmpty (.ofElement text (.build p.bytes tag ⟨content, closeTag⟩))
        (Source.scriptContent component settings typed)] = text' := by
    have hedit := fillEmpty_at hat.sits (Source.scriptContent component settings typed)
    rw [← List.append_nil content] at hat
    rw [hat.applyInsertions_eq hedit, htext, List.append_nil, hat'.text_eq]
  have hsetup' : (Document.parseBy Script.parse text').scriptSetup = none := by
    rw [(Document.script_parseBy Script.parse text').2, find?_isScriptOf_eq_none hat hat' hsetup,
      Option.map_none]
  have hscript' : (Document.parseBy Script.parse text').script
      = some (.ofBlock Script.parse (.ofElement text' (.build p.bytes tag ⟨content
        ++ (feeds ++ Source.scriptContent component settings typed ++ ['\n']), closeTag⟩))) := by
    rw [Document.parseBy,
      Document.find?_scripts (!·.has "setup") hat'.scan_eq hscript htest hbefore, Option.map_some]
  have hgap : ∀ c ∈ content ++ feeds, isGapBlank c = true := by
    intro c hc
    rcases List.mem_append.mp hc with hc | hc
    · exact (hblank c hc).2
    · rw [hfeeds c hc]
      decide
  rw [happlied]
  refine register_of_written typed hsetup' hscript' hcomponent hgap ?_
  simp [Block.ofElement, Element.build]

/-- A second run where the first one wrote a new plain script. -/
lemma register_newScript_again (hplain : component.IsPlain) (hcomponent : Readable component)
    {settings : Settings} (hprefers : settings.prefersScriptSetup = false)
    (hnone : ∀ setup, (scan text).find? (Document.isScriptOf setup) = none) :
    register (Source.newScriptBlock component settings ++ text) component settings = .ok [] := by
  obtain ⟨e, hsort, hcontent, -, -, hdisplaced⟩ := displaced_newScriptBlock hplain settings text
  rw [hprefers] at hsort
  obtain ⟨hsetup, hscript⟩ := scripts_newScriptBlock Script.parse hsort hdisplaced hnone
  rw [if_neg (by simp)] at hsetup hscript
  have hgap : ∀ c ∈ ['\n'], isGapBlank c = true := by decide
  refine register_of_written (settings.preprocessors.script = some .ts) hsetup hscript hcomponent
    hgap (hcontent.trans ?_)
  simp [Source.newBody, Source.newContent, hprefers]

end Filled

/-! ### Idempotence -/

/-- **Registration is idempotent where it writes a whole plain script**: into a document without
scripts, or into a plain script of blanks. -/
theorem register_script_again (text : Text) (settings : Settings) {component : Component}
    (hplain : component.IsPlain) (hcomponent : Readable component)
    (hsetup : (Document.parse text).scriptSetup = none)
    (hscript : (Document.parse text).script = none ∧ settings.prefersScriptSetup = false
      ∨ ∃ script, (Document.parse text).script = some script ∧ script.isEmpty = true
        ∧ ∀ c ∈ script.content, isGapBlank c = true) :
    ∃ edits, edits ≠ [] ∧ register text component settings = .ok edits
      ∧ register (applyInsertions text edits) component settings = .ok [] := by
  obtain ⟨hplainScript, hsetupScript⟩ := Document.script_parseBy Script.parse text
  have hnoSetup : (scan text).find? (Document.isScriptOf true) = none := by
    rw [Document.parse, hsetupScript] at hsetup
    exact Option.map_eq_none_iff.mp hsetup
  rcases hscript with ⟨hnone, hprefers⟩ | ⟨script, hsome, hempty, hgap⟩
  · -- a new script is put in front
    have hnoPlain : (scan text).find? (Document.isScriptOf false) = none := by
      rw [Document.parse, hplainScript] at hnone
      exact Option.map_eq_none_iff.mp hnone
    refine ⟨[⟨0, 0, Source.newScriptBlock component settings⟩], by simp, ?_, ?_⟩
    · rw [register, registerBy, registerIn, ← Document.parse, hsetup, hnone]
    · have hat : (⟨0, 0, Source.newScriptBlock component settings⟩ : Insertion).At [] text :=
        Insertion.placed_at [] text _
      have happlied := applyInsertions_singleton hat
      rw [List.nil_append, List.nil_append] at happlied
      rw [happlied]
      exact register_newScript_again hplain hcomponent hprefers fun setup => by
        cases setup <;> assumption
  · -- the plain script is filled
    obtain ⟨block, hblock, rfl⟩ := Option.map_eq_some_iff.mp hsome
    refine ⟨_, by simp, ?_, register_filled_again hblock hnoSetup ?_ hplain hcomponent settings
      (ScriptBlock.ofBlock Script.parse block).isTyped⟩
    · rw [register, registerBy, registerIn, ← Document.parse, hsetup, hsome]
      dsimp only
      rw [if_pos hempty]
      rfl
    · intro c hc
      exact ⟨List.all_eq_true.mp hempty c hc, hgap c hc⟩

/-- `register_script_again` where a typed script of blanks stands behind templates that are never
closed. -/
theorem register_script_again_halfTyped :
    let text : Text :=
      "<template>é<template>\n<script lang=\"ts\"> \t</script><style>é</style>".toList
    let component : Component := ⟨"FooBar".toList, "@/parts/FooBar.vue".toList⟩
    let edits : List Insertion :=
      [⟨1, 20, '\n' :: Source.scriptContent component {} true ++ ['\n']⟩]
    register text component {} = .ok edits
      ∧ register (applyInsertions text edits) component {} = .ok [] := by
  intro text component edits
  have hplain : component.IsPlain := ⟨by decide, by decide⟩
  have hcomponent : Readable component := ⟨by decide, by decide, by simp [component, IsQuotable]⟩
  have hsetup : (Document.parse text).scriptSetup = none := by
    rw [← Option.isNone_iff_eq_none]
    decide +kernel
  have hcontent : (Document.parse text).script.map (·.content) = some " \t".toList := by
    decide +kernel
  obtain ⟨script, hsome, hscript⟩ := Option.map_eq_some_iff.mp hcontent
  obtain ⟨edits', -, hrun, hagain⟩ := register_script_again text {} hplain hcomponent hsetup
    (.inr ⟨script, hsome, by rw [Block.isEmpty, hscript]; decide, by rw [hscript]; decide⟩)
  have hedits : register text component {} = .ok edits := by decide +kernel
  obtain rfl : edits' = edits := Except.ok.inj (hrun.symm.trans hedits)
  exact ⟨hrun, hagain⟩

end Registration

end ComponentFile
