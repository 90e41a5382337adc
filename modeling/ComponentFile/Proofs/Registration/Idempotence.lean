import Mathlib.Tactic
import ComponentFile.Proofs.Registration.Anchors
import ComponentFile.Proofs.Registration.NewScript

/-!
Registering a component twice in a document with a script setup changes nothing the second time.

The second run scans the edited document anew. `ScriptAt.graft` says what it finds: the import is an
inert line (`inert_import`) and each of its places is a seam (`seam_of_place`, `seam_of_blank`), so
the script setup is found again, with the import in its content. Content that holds the import
mentions the module (`mentions_of_import`), and then there is nothing to do.

* `SetupEdits` says once what a run can put into a script setup, and `setupEdits_of_registerBy` that
  there is nothing else.
* `register_setup_again` is the statement for all documents whose script setup is there already, or
  is written by the first run.
-/

namespace ComponentFile

open Text Markup Script

/-- Neither the name nor the module path of a component holds brackets or quotes. -/
def Component.IsPlain (component : Component) : Prop :=
  Markup.IsPlain component.name ∧ Markup.IsPlain component.source

namespace Registration

/-! ### The line that is put in -/

lemma isPlain_append {s t : Text} (hs : Markup.IsPlain s) (ht : Markup.IsPlain t) :
    Markup.IsPlain (s ++ t) := by
  intro c hc
  rcases List.mem_append.mp hc with hc | hc
  · exact hs c hc
  · exact ht c hc

lemma isPlain_feeds {s : Text} (h : ∀ c ∈ s, c = '\n') : Markup.IsPlain s := by
  intro c hc
  rw [h c hc]
  decide

/-- The words of an import around the name of the component. -/
lemma isPlain_words : Markup.IsPlain "import ".toList ∧ Markup.IsPlain " from ".toList := by
  decide

/-- An import between plain texts is an inert line. -/
lemma inert_of_import {component : Component} (h : component.IsPlain) {pre post : Text}
    (hpre : Markup.IsPlain pre) (hpost : Markup.IsPlain post)
    (hlast : ∀ c, post.getLast? = some c → c ≠ '-' ∧ c ≠ '/') :
    Inert (pre ++ Source.importStatement component ++ post) := by
  obtain ⟨hname, hsource⟩ := h
  have hparts : pre ++ Source.importStatement component ++ post
      = pre ++ ("import ".toList ++ component.name ++ " from ".toList)
        ++ '\'' :: (component.source ++ '\'' :: post) := by
    have hopen : " from '".toList = " from ".toList ++ ['\''] := by simp
    have hclose : "'".toList = ['\''] := by simp
    unfold Source.importStatement
    rw [hopen, hclose]
    simp only [List.append_assoc, List.cons_append, List.nil_append]
  constructor
  · exact ⟨_, component.source, post, hparts, isPlain_append hpre
      (isPlain_append (isPlain_append isPlain_words.1 hname) isPlain_words.2), hsource, hpost⟩
  · intro c hc
    rw [hparts, List.getLast?_append_of_ne_nil _ (by simp), ← List.cons_append,
      List.getLast?_append_of_ne_nil _ (by simp)] at hc
    cases post with
    | nil =>
        obtain rfl : '\'' = c := Option.some.inj hc
        decide
    | cons d post =>
        rw [List.getLast?_cons_cons] at hc
        exact hlast c hc

/-- An import between line feeds is an inert line. -/
lemma inert_import {component : Component} (h : component.IsPlain) {pre post : Text}
    (hpre : ∀ c ∈ pre, c = '\n') (hpost : ∀ c ∈ post, c = '\n') :
    Inert (pre ++ Source.importStatement component ++ post) := by
  refine inert_of_import h (isPlain_feeds hpre) (isPlain_feeds hpost) fun c hc => ?_
  rw [hpost c (List.mem_of_getLast? hc)]
  decide

/-! ### The places where it is put -/

lemma toNat_of_isNameChar {c : Char} (h : Markup.isNameChar c = true) :
    33 ≤ c.toNat ∧ c.toNat ≤ 122 := by
  simp only [Markup.isNameChar, Bool.or_eq_true, decide_eq_true_eq] at h
  rcases h with (((h | rfl) | rfl) | rfl) | rfl
  · -- capital letters, small letters and digits
    have hranges : (decide (65 ≤ c.val ∧ c.val ≤ 90)
        || decide (97 ≤ c.val) && decide (c.val ≤ 122)
        || decide (48 ≤ c.val) && decide (c.val ≤ 57)) = true := h
    simp only [Bool.or_eq_true, Bool.and_eq_true, decide_eq_true_eq, UInt32.le_iff_toNat_le,
      UInt32.reduceToNat] at hranges
    have hc : c.toNat = c.val.toNat := rfl
    omega
  all_goals decide

/-- No mark and no name goes on behind a blank. -/
lemma not_glues_of_isBlank {c : Char} (h : isBlank c = true) : ¬ Glues c := by
  rintro (hname | rfl | rfl)
  · obtain ⟨hlow, hhigh⟩ := toNat_of_isNameChar hname
    simp only [isBlank, blankRanges, List.any_cons, List.any_nil, Bool.or_false, Bool.or_eq_true,
      Bool.and_eq_true, decide_eq_true_eq] at h
    omega
  · exact absurd h (by decide)
  · exact absurd h (by decide)

lemma seam_of_last {s line y : Text} {c : Char} (h : s.getLast? = some c)
    (hc : c = '>' ∨ c = '\'' ∨ c = '"' ∨ c = '\x7d' ∨ c = ';' ∨ c = '/' ∨ c = '\n') :
    Seam s line y := by
  refine .behind c h ?_
  rintro (hname | rfl | rfl)
  · rcases hc with rfl | rfl | rfl | rfl | rfl | rfl | rfl <;> exact absurd hname (by decide)
  · simp at hc
  · simp at hc

/-- Behind a tag and blanks there is a seam. -/
lemma seam_of_blank {s a line y : Text} (hs : s.getLast? = some '>')
    (ha : ∀ c ∈ a, isBlank c = true) :
    Seam (s ++ a) line y := by
  by_cases hnil : a = []
  · subst hnil
    exact seam_of_last (by rw [List.append_nil, hs]) (.inl rfl)
  · obtain ⟨c, hc⟩ : ∃ c, a.getLast? = some c := ⟨_, List.getLast?_eq_getLast_of_ne_nil hnil⟩
    exact .behind c (by rw [List.getLast?_append_of_ne_nil s hnil, hc])
      (not_glues_of_isBlank (ha c (List.mem_of_getLast? hc)))

lemma getLast?_of_suffix {s t : Text} {c : Char} (h : t <:+ s) (ht : t.getLast? = some c) :
    s.getLast? = some c := by
  obtain ⟨a, rfl⟩ := h
  rw [List.getLast?_append_of_ne_nil a (by rintro rfl; simp at ht), ht]

/-- Every place of an import is a seam. -/
lemma seam_of_place {component : Component} {tree : Script.Tree} {s a b inserted tag rest : Text}
    (hs : s.getLast? = some '>') (htag : ∃ t, tag = '<' :: t) (htree : tree.ImportsEnd (a ++ b))
    (h : ImportPlace component tree a b inserted) :
    Seam (s ++ a) inserted (b ++ (tag ++ rest)) := by
  cases h with
  | lineStart hlast feeds hfeeds =>
      exact seam_of_last (getLast?_of_suffix (List.suffix_append s a) hlast) (by decide)
  | front ha =>
      subst ha
      exact seam_of_last (by rw [List.append_nil, hs]) (.inl rfl)
  | behindImport child hchild himport hstop =>
      obtain ⟨a', b', hab, hstop', hend⟩ := htree child hchild himport
      obtain ⟨rfl, rfl⟩ := append_inj_of_bytes hab (by rw [← hstop, hstop'])
      cases hend with
      | mark c hlast hc =>
          refine seam_of_last (getLast?_of_suffix (List.suffix_append s a) hlast) ?_
          tauto
      | comment hlast =>
          refine seam_of_last (c := '/') (getLast?_of_suffix (List.suffix_append s a)
            (getLast?_of_suffix hlast (by simp))) (by decide)
      | lineComment hrest =>
          refine .newLine ?_ ⟨_, rfl⟩ ?_
          · intro hnil
            simp [(List.append_eq_nil_iff.mp hnil).1] at hs
          · rcases hrest with rfl | ⟨c, t, rfl, hc⟩
            · obtain ⟨t, rfl⟩ := htag
              exact ⟨'<', t ++ rest, rfl, .inl rfl⟩
            · refine ⟨c, t ++ (tag ++ rest), rfl, .inr ?_⟩
              rcases hc with rfl | rfl <;> decide

/-! ### The second run -/

/-- Content that holds the import of a component mentions its module. -/
lemma mentions_of_import {component : Component} {script : ScriptBlock} {u v : Text}
    (h : script.content = u ++ (Source.importStatement component ++ v)) :
    mentions script component = true := by
  obtain ⟨w, hw⟩ : ∃ w, component.source = w ++ component.bareSource := by
    rw [Component.bareSource]
    split
    · exact ⟨component.source.take Component.sourceAlias.length, (List.take_append_drop _ _).symm⟩
    · exact ⟨[], rfl⟩
  have hcontent : script.content
      = (u ++ "import ".toList ++ component.name ++ " from '".toList ++ w)
        ++ (component.bareSource ++ ("'".toList ++ v)) := by
    rw [h]
    unfold Source.importStatement
    rw [hw]
    simp only [List.append_assoc]
  have hfound := splitAt?_ne_none component.bareSource
    (u ++ "import ".toList ++ component.name ++ " from '".toList ++ w) ("'".toList ++ v)
  rw [mentions, Text.contains, hcontent]
  exact Option.isSome_iff_ne_none.mpr hfound

lemma not_isEmpty_of_import {component : Component} {script : ScriptBlock} {u v : Text}
    (h : script.content = u ++ (Source.importStatement component ++ v)) :
    script.isEmpty = false := by
  have hmem : '\'' ∈ script.content := by
    rw [h]
    refine List.mem_append_right u (List.mem_append_left v ?_)
    unfold Source.importStatement
    exact List.mem_append_right _ (by decide)
  rw [Block.isEmpty, isAllBlank, Bool.eq_false_iff]
  intro hall
  exact absurd (List.all_eq_true.mp hall _ hmem) (by decide)

/-- There is nothing to do where the script setup holds the import. -/
lemma registerBy_of_import {syntaxTree : Text → Script.Tree} {text u v : Text} {block : Block}
    {component : Component} (settings : Settings)
    (hsetup : (Document.parseBy syntaxTree text).scriptSetup
      = some (ScriptBlock.ofBlock syntaxTree block))
    (hcontent : block.content = u ++ (Source.importStatement component ++ v)) :
    registerBy syntaxTree text component settings = .ok [] := by
  have hcontent' : (ScriptBlock.ofBlock syntaxTree block).content
      = u ++ (Source.importStatement component ++ v) := hcontent
  rw [registerBy, registerIn, hsetup]
  simp only [not_isEmpty_of_import hcontent', ensureImport, mentions_of_import hcontent', if_true]
  rfl

/-- An import that was put at a seam of the script setup is found by the second run. -/
lemma registerBy_of_seam (syntaxTree : Text → Script.Tree) {text p rest : Text} {tag : OpenTag}
    {closing : Closing} {found : List Element} {component : Component} (settings : Settings)
    (hplain : component.IsPlain) (hat : ScriptAt text p tag closing rest found)
    (hscript : (Element.build p.bytes tag closing).isScript = true)
    (hsetup : (Block.ofElement text (.build p.bytes tag closing)).has "setup" = true)
    (hbefore : ∀ e ∈ found, e.isScript = true → (Block.ofElement text e).has "setup" = false)
    {edit : Insertion} {a b pre post : Text} (hab : closing.content = a ++ b)
    (hedit : edit.At (p ++ tag.text ++ a) (b ++ (closing.tag ++ rest)))
    (hseam : Seam (tag.text ++ a) edit.text (b ++ (closing.tag ++ rest)))
    (himport : edit.text = pre ++ Source.importStatement component ++ post)
    (hpre : ∀ c ∈ pre, c = '\n') (hpost : ∀ c ∈ post, c = '\n') :
    registerBy syntaxTree (applyInsertions text [edit]) component settings = .ok [] := by
  obtain ⟨content, closeTag⟩ := closing
  obtain rfl : content = a ++ b := hab
  have hline : Inert edit.text := himport ▸ inert_import hplain hpre hpost
  have hfind := Document.find?_scripts (·.has "setup") (hat.graft hseam hline).scan_eq hscript
    hsetup hbefore
  rw [hat.applyInsertions_eq hedit]
  refine registerBy_of_import (u := a ++ pre) (v := post ++ b) settings
    (by rw [Document.parseBy, hfind, Option.map_some]) ?_
  simp [Block.ofElement, Element.build, himport]

/-- A new script setup in front of a text is found at once. -/
lemma registerBy_newScriptBlock (syntaxTree : Text → Script.Tree) {component : Component}
    (hplain : component.IsPlain) {settings : Settings} (h : settings.prefersScriptSetup = true)
    (text : Text) :
    registerBy syntaxTree (Source.newScriptBlock component settings ++ text) component settings
      = .ok [] := by
  obtain ⟨tag, -, hsort, hscan⟩ := Source.scan_newScriptBlock (fun hlt => (hplain.1 _ hlt).1 rfl)
    (fun hlt => (hplain.2 _ hlt).1 rfl) settings text
  have hsetup := (Document.script_parseBy syntaxTree
    (Source.newScriptBlock component settings ++ text)).2
  rw [h] at hsort
  rw [hscan, List.find?_cons_of_pos hsort] at hsetup
  refine registerBy_of_import (u := ['\n']) (v := ['\n']) settings hsetup ?_
  simp [Block.ofElement, Element.build, Source.newBody, Source.newContent, h]

/-! ### What a run puts into a script setup -/

/-- Nothing is put into the script setup behind `p`, or an import between line feeds at a seam of
its content. -/
inductive SetupEdits (component : Component) (p : Text) (tag : OpenTag) (closing : Closing)
    (rest : Text) : List Insertion → Prop where
  | nothing : SetupEdits component p tag closing rest []
  | line {edit : Insertion} (a b pre post : Text) (hab : closing.content = a ++ b)
      (hat : edit.At (p ++ tag.text ++ a) (b ++ (closing.tag ++ rest)))
      (hseam : Seam (tag.text ++ a) edit.text (b ++ (closing.tag ++ rest)))
      (htext : edit.text = pre ++ Source.importStatement component ++ post)
      (hpre : ∀ c ∈ pre, c = '\n') (hpost : ∀ c ∈ post, c = '\n') :
      SetupEdits component p tag closing rest [edit]

lemma setupEdits_of_registerBy {syntaxTree : Text → Script.Tree} {text p rest : Text}
    {tag : OpenTag} {closing : Closing} {found : List Element}
    (htree : (syntaxTree closing.content).ImportsEnd closing.content)
    (hat : ScriptAt text p tag closing rest found)
    (hsetup : (Document.parseBy syntaxTree text).scriptSetup
      = some (.ofBlock syntaxTree (.ofElement text (.build p.bytes tag closing))))
    {component : Component} {settings : Settings} {edits : List Insertion}
    (hrun : registerBy syntaxTree text component settings = .ok edits) :
    SetupEdits component p tag closing rest edits := by
  have hsits := hat.sits
  rcases registerIn_setup_cases hsetup hrun with ⟨hempty, rfl⟩ | ⟨-, edit, hensure, rfl⟩
  · -- the script setup holds nothing but blanks
    have hblank : ∀ c ∈ closing.content, isBlank c = true := List.all_eq_true.mp hempty
    obtain ⟨feeds, hfeeds, htext⟩ := fillEmpty_text (.ofElement text (.build p.bytes tag closing))
      (Source.importStatement component)
    exact .line closing.content [] feeds ['\n'] (by simp) (fillEmpty_at hsits _)
      (seam_of_blank hat.getLast?_tag hblank) htext hfeeds (by simp)
  rcases ensureImport_eq_ok hensure with rfl | rfl
  · -- the module is mentioned
    exact .nothing
  · have himports : ∀ child ∈ (syntaxTree closing.content).children,
        child.ImportsModule → closing.content.IsBoundary child.stop := by
      intro child hchild himport
      obtain ⟨before, rest, hcontent, hstop, -⟩ := htree child hchild himport
      exact ⟨before, rest, hcontent, hstop.symm⟩
    obtain ⟨a, b, hab, hedit, hplace⟩ := importInsertion_place hsits himports component
    obtain ⟨pre, post, hpre, hpost, htext⟩ := hplace.text_eq
    have hcontent : closing.content = a ++ b := hab
    have hends : (syntaxTree closing.content).ImportsEnd (a ++ b) := by
      rw [← hcontent]
      exact htree
    exact .line a b pre post hcontent hedit
      (seam_of_place hat.getLast?_tag hat.closeTag_cons hends hplace) htext hpre hpost

/-! ### Idempotence -/

/-- A second run where the script setup was there before the first one. -/
lemma registerBy_again (syntaxTree : Text → Script.Tree) {text : Text} {block : Block}
    (hblock : (Document.scripts text (scan text)).find? (·.has "setup") = some block)
    (htree : (syntaxTree block.content).ImportsEnd block.content)
    {component : Component} (hplain : component.IsPlain) {settings : Settings}
    {edits : List Insertion} (hfirst : registerBy syntaxTree text component settings = .ok edits) :
    registerBy syntaxTree (applyInsertions text edits) component settings = .ok [] := by
  obtain ⟨p, tag, closing, rest, found, hat, rfl, hscript, hhas, hbefore⟩ :=
    Document.exists_scriptAt hblock
  have hdocument : (Document.parseBy syntaxTree text).scriptSetup
      = some (.ofBlock syntaxTree (.ofElement text (.build p.bytes tag closing))) := by
    simp only [Document.parseBy, hblock, Option.map_some]
  cases setupEdits_of_registerBy htree hat hdocument hfirst with
  | nothing => exact hfirst
  | line a b pre post hab hedit hseam htext hpre hpost =>
      exact registerBy_of_seam syntaxTree settings hplain hat hscript hhas hbefore hab hedit hseam
        htext hpre hpost

/-- **Registration is idempotent on documents with a script setup**, whether the script setup was
there before or was written by the first run. Of the syntax tree of a script setup that was there it
is only asked that imports of modules end as imports do. -/
theorem register_setup_again (syntaxTree : Text → Script.Tree) (text : Text)
    (htree : ∀ setup, (Document.parseBy syntaxTree text).scriptSetup = some setup →
      (syntaxTree setup.content).ImportsEnd setup.content)
    {component : Component} (hplain : component.IsPlain) (settings : Settings)
    (hsetup : (Document.parseBy syntaxTree text).scriptSetup.isSome = true
      ∨ (Document.parseBy syntaxTree text).scriptSetup = none
        ∧ (Document.parseBy syntaxTree text).script = none ∧ settings.prefersScriptSetup = true)
    {edits : List Insertion} (hfirst : registerBy syntaxTree text component settings = .ok edits) :
    registerBy syntaxTree (applyInsertions text edits) component settings = .ok [] := by
  rcases hsetup with hsome | ⟨hnone, hscript, hprefers⟩
  · obtain ⟨setup, hsetup⟩ := Option.isSome_iff_exists.mp hsome
    obtain ⟨block, hblock, rfl⟩ := Option.map_eq_some_iff.mp hsetup
    exact registerBy_again syntaxTree hblock (htree _ hsetup) hplain hfirst
  · rw [registerBy, registerIn, hnone, hscript] at hfirst
    obtain rfl : [⟨0, 0, Source.newScriptBlock component settings⟩] = edits := Except.ok.inj hfirst
    have hat : (⟨0, 0, Source.newScriptBlock component settings⟩ : Insertion).At [] text :=
      Insertion.placed_at [] text _
    have happlied := applyInsertions_singleton hat
    rw [List.nil_append, List.nil_append] at happlied
    rw [happlied]
    exact registerBy_newScriptBlock syntaxTree hplain hprefers text

/-- A script with one import, which ends with a comment that looks like markup. -/
def commentedImport : Text := "import A from './A.vue' // <b </template".toList

/-- The syntax tree of `commentedImport`; any other script is taken for an empty one. -/
def commentedImportTree (content : Text) : Script.Tree :=
  if content = commentedImport then
    .node .program .plain 0 40
      [.node .importStatement .plain 0 40
        [.node .importClause .plain 7 8 [.leaf .identifier 7 8], .node .string .source 14 23 []]]
  else .leaf .program 0 0

lemma commentedImportTree_importsEnd (content : Text) :
    (commentedImportTree content).ImportsEnd content := by
  intro child hchild _
  by_cases h : content = commentedImport
  · subst h
    simp only [commentedImportTree, if_true, Script.Tree.children, List.mem_singleton] at hchild
    subst hchild
    exact ⟨commentedImport, [], by simp, by decide, .lineComment (.inl rfl)⟩
  · simp [commentedImportTree, h, Script.Tree.leaf, Script.Tree.children] at hchild

/-- `register_setup_again` where the script setup stands behind templates that are never closed, and
its only line ends with a half-typed tag and a half-typed close tag. -/
theorem register_setup_again_halfTyped :
    let text : Text := "<template>é<template>\n<script setup>".toList ++ commentedImport
      ++ "</script>\n".toList
    let component : Component := ⟨"B".toList, "@/B.vue".toList⟩
    let edits : List Insertion := [⟨1, 54, "\nimport B from '@/B.vue'".toList⟩]
    registerBy commentedImportTree text component {} = .ok edits
      ∧ registerBy commentedImportTree (applyInsertions text edits) component {} = .ok [] := by
  intro text component edits
  have hplain : component.IsPlain := ⟨by decide, by decide⟩
  have hfirst : registerBy commentedImportTree text component {} = .ok edits := by decide +kernel
  have hsetup : (Document.parseBy commentedImportTree text).scriptSetup.isSome = true := by
    decide +kernel
  exact ⟨hfirst, register_setup_again commentedImportTree text
    (fun setup _ => commentedImportTree_importsEnd setup.content) hplain {} (.inl hsetup) hfirst⟩

end Registration

end ComponentFile
