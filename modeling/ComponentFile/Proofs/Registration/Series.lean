import Mathlib.Tactic
import ComponentFile.Proofs.Registration.Idempotence
import ComponentFile.Proofs.Script.Written

/-!
Registering several components in a document without scripts.

The first run writes a script setup in front of the text. Each later one reads what the runs before
it have written and puts a line behind it, or does nothing.

* `Source.setupBlock components settings`: the script setup with a line for each component.
* `Script.ImportLines q components trees`: behind `q`, the trees are the imports of the components,
  one a line. `Script.ReadsImportLines` asks of syntax trees that such a content is read as that,
  and `readsImportLines_parse` shows it of the trees of `Script.parse`.
* `importInsertion_at_end`: the next import goes behind the last line.
* `registerBy_setupBlock`: what one run does to the script setup of the runs before it.
* `runsTo_importingAll` is the statement for whole lists of components and all syntax trees of which
  this is known, `registerAll_setupBlock` that for the trees of `Script.parse`.
-/

namespace ComponentFile

open Text Markup

/-! ### Components -/

namespace Component

/-- The characters of module paths: letters, digits and a few marks. Beyond ASCII every character
counts as a letter. -/
def isSourceChar (c : Char) : Bool :=
  c.isAlphanum || "@/._-".toList.contains c || 0x80 ≤ c.toNat

/-- The characters of names in ASCII. -/
def isAsciiNameChar (c : Char) : Bool := c.isAlphanum || c = '_' || c = '$'

/-- The name is an identifier in ASCII that begins with a capital letter, and the module path is
made of letters, digits and a few marks. -/
structure IsTidy (component : Component) : Prop where
  capital : component.name.head?.any Char.isUpper = true
  name : ∀ c ∈ component.name, isAsciiNameChar c = true
  source : ∀ c ∈ component.source, isSourceChar c = true

lemma toNat_of_isAsciiNameChar {c : Char} (h : isAsciiNameChar c = true) : c.toNat < 128 := by
  rw [isAsciiNameChar, Bool.or_eq_true, Bool.or_eq_true] at h
  rcases h with (halnum | hmark) | hmark
  · have hbound := Registration.toNat_of_isNameChar (c := c) (by simp [Markup.isNameChar, halnum])
    omega
  · rw [of_decide_eq_true hmark]
    decide
  · rw [of_decide_eq_true hmark]
    decide

/-- The names of components are names of scripts; capital letters begin them. -/
lemma isNameChar_of_isAsciiNameChar {c : Char} (h : isAsciiNameChar c = true) :
    Script.isNameChar c = true ∧ (c.isUpper = true → Script.isNameStart c = true) := by
  have hall : ∀ n < 128, isAsciiNameChar (Char.ofNat n) = true →
      Script.isNameChar (Char.ofNat n) = true
        ∧ ((Char.ofNat n).isUpper = true → Script.isNameStart (Char.ofNat n) = true) := by
    decide +kernel
  have hc := hall c.toNat (toNat_of_isAsciiNameChar h)
  rw [Char.ofNat_toNat] at hc
  exact hc h

namespace IsTidy

variable {component : Component}

lemma readable (h : component.IsTidy) : Script.Readable component where
  name := by
    refine ⟨?_, fun c hc => (isNameChar_of_isAsciiNameChar (h.name c hc)).1⟩
    have hcapital := h.capital
    cases hname : component.name with
    | nil => simp [hname] at hcapital
    | cons c cs =>
        have hupper : c.isUpper = true := by simpa [hname] using hcapital
        exact (isNameChar_of_isAsciiNameChar (h.name c (by simp [hname]))).2 hupper
  capital := h.capital
  source := by
    intro c hc
    have hpath := h.source c hc
    refine ⟨?_, ?_, ?_, ?_⟩ <;> (rintro rfl; exact absurd hpath (by decide))

lemma isPlain (h : component.IsTidy) : component.IsPlain := by
  constructor
  · intro c hc
    have hname := h.name c hc
    refine ⟨?_, ?_, ?_, ?_⟩ <;> (rintro rfl; exact absurd hname (by decide))
  · intro c hc
    have hpath := h.source c hc
    refine ⟨?_, ?_, ?_, ?_⟩ <;> (rintro rfl; exact absurd hpath (by decide))

end IsTidy

end Component

/-! ### A script setup of imports -/

namespace Source

/-- The imports of components, one a line. -/
def importLines (components : List Component) : Text :=
  components.flatMap fun component => importStatement component ++ ['\n']

/-- The content of a script setup of imports. -/
def importsBody (components : List Component) : Text := '\n' :: importLines components

/-- A script setup of imports, followed by a blank line. -/
def setupBlock (components : List Component) (settings : Settings) : Text :=
  "<script setup".toList ++ langAttribute settings.scriptLang ++ ">\n".toList
    ++ importLines components ++ "</script>\n\n".toList

lemma importsBody_cons (component : Component) (components : List Component) :
    importsBody (component :: components)
      = ['\n'] ++ (importStatement component ++ importsBody components) := by
  simp [importsBody, importLines]

lemma importsBody_concat (components : List Component) (component : Component) :
    importsBody (components ++ [component])
      = importsBody components ++ importStatement component ++ ['\n'] := by
  simp [importsBody, importLines]

lemma setupBlock_append (components : List Component) {settings : Settings}
    (h : settings.prefersScriptSetup = true) (text : Text) :
    setupBlock components settings ++ text = newTag settings ++ (importsBody components
      ++ ("</script>".toList ++ ("\n\n".toList ++ text))) := by
  have hopen : ">\n".toList = ">".toList ++ ['\n'] := by simp
  have hclose : "</script>\n\n".toList = "</script>".toList ++ "\n\n".toList := by simp
  have hsetup : "<script setup".toList = "<script".toList ++ " setup".toList := by simp
  unfold setupBlock newTag importsBody
  rw [h, if_pos rfl, hopen, hclose, hsetup]
  simp only [List.append_assoc, List.cons_append, List.nil_append]

/-- The first run writes the script setup of one import. -/
lemma newScriptBlock_eq_setupBlock (component : Component) {settings : Settings}
    (h : settings.prefersScriptSetup = true) :
    newScriptBlock component settings = setupBlock [component] settings := by
  have hclose : "\n</script>\n\n".toList = ['\n'] ++ "</script>\n\n".toList := by simp
  unfold newScriptBlock setupBlock importLines
  simp only [h, if_true, hclose, List.flatMap_cons, List.flatMap_nil, List.append_assoc,
    List.append_nil, List.nil_append, List.cons_append]

lemma lt_notMem_importsBody {components : List Component}
    (h : ∀ component ∈ components, component.IsPlain) : '<' ∉ importsBody components := by
  induction components with
  | nil => decide
  | cons component components ih =>
      obtain ⟨hname, hsource⟩ := h component List.mem_cons_self
      rw [importsBody_cons, List.mem_append, List.mem_append, not_or, not_or]
      exact ⟨by decide, lt_notMem_importStatement (fun hlt => (hname _ hlt).1 rfl)
        (fun hlt => (hsource _ hlt).1 rfl), ih fun c hc => h c (List.mem_cons_of_mem _ hc)⟩

end Source

/-! ### Reading the imports -/

namespace Script

open Source (importsBody importsBody_cons)

/-- Behind `q`, the trees are the imports of the components, each of which ends its line. -/
inductive ImportLines : (q : Text) → List Component → List Tree → Prop where
  | nil {q : Text} : ImportLines q [] []
  | cons {q : Text} {component : Component} {components : List Component} {tree : Tree}
      {trees : List Tree}
      (himport : IsImport (q ++ ['\n'] ++ Source.importStatement component).bytes tree)
      (tail : ImportLines (q ++ ['\n'] ++ Source.importStatement component) components trees) :
      ImportLines q (component :: components) (tree :: trees)

namespace ImportLines

variable {q : Text} {components : List Component} {component : Component} {trees : List Tree}

lemma anyFault (h : ImportLines q components trees) : Tree.anyFault trees = false := by
  induction h with
  | nil => rfl
  | cons himport _ ih => rw [Tree.anyFault, himport.hasFault, ih, Bool.or_false]

/-- The last tree is the import of the last component. -/
lemma exists_last (h : ImportLines q (components ++ [component]) trees) :
    ∃ earlier tree, trees = earlier ++ [tree]
      ∧ IsImport (q ++ importsBody components ++ Source.importStatement component).bytes tree := by
  induction components generalizing q trees with
  | nil =>
      cases h with
      | cons himport tail =>
          cases tail
          exact ⟨[], _, rfl, himport⟩
  | cons first components ih =>
      cases h with
      | cons _ tail =>
          obtain ⟨earlier, tree, rfl, htree⟩ := ih tail
          refine ⟨_ :: earlier, tree, rfl, ?_⟩
          rw [importsBody_cons]
          simpa only [List.append_assoc] using htree

end ImportLines

/-- A line ends where the content does, or the next import begins. -/
lemma endsHere_importsBody (components : List Component) :
    endsHere false false (importsBody components) = true := by
  cases components with
  | nil => rfl
  | cons component components =>
      have hfeed : ['\n'] = "\n".toList := by simp
      rw [importsBody_cons, hfeed]
      exact (import_beginsToken component _).2

/-- The first import begins behind a line feed. -/
lemma importsBody_faces (component : Component) (components : List Component) (q : Text) :
    Faces (.between q (importsBody (component :: components))) (q ++ ['\n'])
      (Source.importStatement component ++ importsBody components) := by
  rw [importsBody_cons]
  exact faces_between (by decide) (import_beginsToken component (importsBody components)).1 q

/-- The imports are read one after the other. -/
lemma importsBody_repeats {components : List Component}
    (h : ∀ component ∈ components, Readable component) (q : Text) (depth : Nat) :
    ∃ trees last, ImportLines q components trees
      ∧ Repeats (statement (grammar depth)) (.between q (importsBody components)) trees last
      ∧ (skipGap last).rest = [] := by
  induction components generalizing q with
  | nil =>
      refine ⟨[], .between q ['\n'], .nil, .stop (statement_end q (grammar depth)), ?_⟩
      rw [gap_end]
      rfl
  | cons component components ih =>
      obtain ⟨tree, himport, hstatement⟩ := component_import
        (importsBody_faces component components q) (h _ List.mem_cons_self)
        (endsHere_importsBody components) (grammar depth)
      obtain ⟨trees, last, hlines, hrepeats, hlast⟩ :=
        ih (fun c hc => h c (List.mem_cons_of_mem _ hc))
          (q ++ ['\n'] ++ Source.importStatement component)
      have hne : Source.importStatement component ≠ [] := by
        unfold Source.importStatement
        simp
      rw [importsBody_cons] at hstatement ⊢
      exact ⟨tree :: trees, last, .cons himport hlines, repeats_cons hstatement hne hrepeats, hlast⟩

/-- What is asked of syntax trees: a script of imports is read without a fault, as its lines. -/
def ReadsImportLines (syntaxTree : Text → Tree) : Prop :=
  ∀ components : List Component, (∀ component ∈ components, component.IsTidy) →
    (syntaxTree (importsBody components)).hasFault = false
      ∧ ImportLines [] components (syntaxTree (importsBody components)).children

lemma parse_importsBody {components : List Component}
    (h : ∀ component ∈ components, Readable component) :
    ∃ trees, ImportLines [] components trees
      ∧ parse (importsBody components)
        = .node .program .plain 0 (importsBody components).bytes trees := by
  obtain ⟨trees, last, hlines, hrepeats, hlast⟩ :=
    importsBody_repeats h [] (4 * (importsBody components).length + 7)
  have hfirst : interpreterLine ⟨importsBody components, 0⟩ = none := by
    cases components with
    | nil => rfl
    | cons component components =>
        have hface := importsBody_faces component components []
        rw [importStatement_append] at hface
        obtain ⟨c, hglance⟩ := hface.glance_name (by decide) (endsName_cons (by decide))
        exact interpreterLine_eq_none hglance
  have hmany : Reader.many (grammar (depthBound (importsBody components).length)).statement
      ⟨importsBody components, 0⟩ = some (trees, last) := hrepeats.many_eq
  refine ⟨trees, hlines, ?_⟩
  simp only [parse, program, bind_apply, optional_of_none hfirst, Option.bind_some, hmany, gap,
    Reader.check, hlast, List.isEmpty_nil, if_true, pure_apply, Option.map_some]

/-- **A script of imports is read as its lines.** -/
lemma readsImportLines_parse : ReadsImportLines parse := by
  intro components htidy
  obtain ⟨trees, hlines, hparse⟩ :=
    parse_importsBody fun component hc => (htidy component hc).readable
  rw [hparse, Tree.hasFault, hlines.anyFault]
  exact ⟨rfl, hlines⟩

end Script

/-! ### One run -/

namespace Registration

open Script (IsImport ReadsImportLines Statement statementsOf)
open Source (importsBody importsBody_cons importsBody_concat setupBlock)

/-- The last import is the last statement. -/
lemma lastImport?_concat (site : Script.Site) {root tree : Script.Tree}
    {earlier : List Script.Tree} (hchildren : root.children = earlier ++ [tree]) {stop : Nat}
    (h : IsImport stop tree) :
    ∃ last, lastImport? (statementsOf site root) = some last ∧ last.span = site.span tree := by
  have hbare : Script.isBareName tree = false := by simp [Script.isBareName, h.kind]
  have himport : Statement.asImport? ⟨Script.classify site tree, site.span tree⟩ ≠ none := by
    obtain ⟨source, hsource⟩ := Option.isSome_iff_exists.mp h.source
    simp [Statement.asImport?, Script.classify, h.kind, Script.importOf?, hsource]
  refine ⟨⟨Script.classify site tree, site.span tree⟩, ?_, rfl⟩
  rw [lastImport?, statementsOf, hchildren, List.filter_append, List.map_append,
    List.reverse_append, List.filter_singleton, hbare]
  exact List.find?_cons_of_pos (Option.isSome_iff_ne_none.mpr himport)

/-- **The next import goes behind the last line**, where the last import ends that line. -/
lemma importInsertion_at_end {text before after a : Text} {block : Block}
    (h : Block.Sits text before after block) (hcontent : block.content = a ++ ['\n'])
    {root tree : Script.Tree} {earlier : List Script.Tree}
    (hchildren : root.children = earlier ++ [tree]) (htree : IsImport a.bytes tree)
    (component : Component) :
    ∃ edit : Insertion, importInsertion block
        (statementsOf ⟨block.content, block.contentSpan.start⟩ root) component = edit
      ∧ edit.At (before ++ block.content) after
      ∧ edit.text = Source.importStatement component ++ ['\n'] := by
  obtain ⟨last, hlast, hspan⟩ :=
    lastImport?_concat ⟨block.content, block.contentSpan.start⟩ hchildren htree
  have hstop : last.span.stop = Position.origin.after (before ++ a) := by
    rw [hspan, Script.Site.span, h.start_eq, htree.stop_eq, hcontent]
    exact Script.Site.position_append before a ['\n']
  have hline : (Position.origin.after (before ++ a)).line
      < (Position.origin.after (before ++ a ++ ['\n'])).line := by
    rw [Position.after_append _ (before ++ a)]
    exact Nat.lt_succ_self _
  obtain ⟨m, m', hfeed, hoffset⟩ := offset_next_line hline after
  -- nothing but the line feed stands behind the last import
  obtain ⟨rfl, rfl⟩ : m = [] ∧ m' = [] := by
    cases m with
    | nil => simpa using hfeed
    | cons c m => simp at hfeed
  have hbefore : before ++ block.content = before ++ a ++ ['\n'] := by
    rw [hcontent, List.append_assoc]
  refine ⟨⟨last.span.stop.line + 1, 0, Source.importStatement component ++ ['\n']⟩, ?_, ?_, rfl⟩
  · rw [importInsertion, hlast]
    dsimp only
    rw [if_pos (by rw [h.stop_eq, hstop, hbefore]; exact hline)]
  · rw [Insertion.At, hstop, hbefore, hoffset, List.append_nil]

/-- A text mentions another one that is part of it. -/
lemma contains_iff_isInfix {text needle : Text} :
    Text.contains text needle = true ↔ needle <:+: text := by
  rw [Text.contains, Option.isSome_iff_exists]
  constructor
  · rintro ⟨⟨before, rest⟩, hsplit⟩
    obtain ⟨rfl, after, rfl⟩ := splitAt?_eq_some hsplit
    exact ⟨before, after, List.append_assoc ..⟩
  · rintro ⟨before, after, rfl⟩
    rw [List.append_assoc]
    exact Option.ne_none_iff_exists'.mp (splitAt?_ne_none needle before after)

/-- A component that a script of imports does not mention gets the next line. -/
lemma ensureImport_importsBody {syntaxTree : Text → Script.Tree}
    (hreads : ReadsImportLines syntaxTree) {text before after : Text} {block : Block}
    (h : Block.Sits text before after block) {kept : List Component} (hkept : kept ≠ [])
    (htidy : ∀ c ∈ kept, c.IsTidy) (hcontent : block.content = importsBody kept)
    {component : Component} (hnew : ¬ component.bareSource <:+: block.content) :
    ∃ edit : Insertion, ensureImport (.ofBlock syntaxTree block) component = .ok (some edit)
      ∧ edit.At (before ++ block.content) after
      ∧ edit.text = Source.importStatement component ++ ['\n'] := by
  obtain ⟨earlier, newest, rfl⟩ : ∃ earlier newest, kept = earlier ++ [newest] :=
    ⟨kept.dropLast, kept.getLast hkept, (List.dropLast_append_getLast hkept).symm⟩
  obtain ⟨hfault, hlines⟩ := hreads _ htidy
  obtain ⟨passed, tree, hchildren, htree⟩ := hlines.exists_last
  have houtline : (ScriptBlock.ofBlock syntaxTree block).outline
      = .ok (statementsOf ⟨block.content, block.contentSpan.start⟩
        (syntaxTree (importsBody (earlier ++ [newest])))) := by
    rw [ScriptBlock.ofBlock, Script.outlineOf, hcontent, hfault]
    rfl
  have hmentions : mentions (.ofBlock syntaxTree block) component = false :=
    Bool.eq_false_iff.mpr (mt contains_iff_isInfix.mp hnew)
  rw [List.nil_append] at htree
  obtain ⟨edit, hedit, hat, htext⟩ := importInsertion_at_end h
    (hcontent.trans (importsBody_concat earlier newest)) hchildren htree component
  refine ⟨edit, ?_, hat, htext⟩
  rw [ensureImport, hmentions, if_neg (by simp), houtline]
  exact congrArg (Except.ok ∘ some) hedit

/-- The script setup of imports is found in front of a text. -/
lemma exists_setupBlock (syntaxTree : Text → Script.Tree) {components : List Component}
    (hplain : ∀ c ∈ components, c.IsPlain) {settings : Settings}
    (h : settings.prefersScriptSetup = true) (text : Text) :
    ∃ block, Block.Sits (setupBlock components settings ++ text) (Source.newTag settings)
        ("</script>".toList ++ ("\n\n".toList ++ text)) block
      ∧ block.content = importsBody components
      ∧ (Document.parseBy syntaxTree (setupBlock components settings ++ text)).scriptSetup
        = some (.ofBlock syntaxTree block) := by
  obtain ⟨tag, htag, hsort, hat⟩ := Source.exists_scriptAt_newTag settings
    (Source.lt_notMem_importsBody hplain) ("\n\n".toList ++ text)
  rw [← Source.setupBlock_append components h] at hat
  rw [h] at hsort
  have hsits := hat.sits
  rw [List.nil_append, htag] at hsits
  refine ⟨_, hsits, rfl, ?_⟩
  rw [(Document.script_parseBy _ _).2, hat.scan_eq, List.nil_append, bytes_nil,
    List.find?_cons_of_pos hsort, Option.map_some]

/-- The components with a line of their own after one more run: the component gets one unless its
module is mentioned. -/
def keepNext (kept : List Component) (component : Component) : List Component :=
  if component.bareSource <:+: importsBody kept then kept else kept ++ [component]

/-- **One run on the script setup of the runs before it.** -/
lemma registerBy_setupBlock {syntaxTree : Text → Script.Tree}
    (hreads : ReadsImportLines syntaxTree) {kept : List Component} (hkept : kept ≠ [])
    (htidy : ∀ c ∈ kept, c.IsTidy) {settings : Settings} (h : settings.prefersScriptSetup = true)
    (text : Text) (component : Component) :
    ∃ edits, registerBy syntaxTree (setupBlock kept settings ++ text) component settings = .ok edits
      ∧ applyInsertions (setupBlock kept settings ++ text) edits
        = setupBlock (keepNext kept component) settings ++ text := by
  obtain ⟨block, hsits, hcontent, hsetup⟩ :=
    exists_setupBlock syntaxTree (fun c hc => (htidy c hc).isPlain) h text
  have hregister : registerBy syntaxTree (setupBlock kept settings ++ text) component settings
      = (ensureImport (.ofBlock syntaxTree block) component).map Option.toList := by
    obtain ⟨first, later, rfl⟩ := List.exists_cons_of_ne_nil hkept
    rw [registerBy, registerIn, hsetup]
    dsimp only
    rw [not_isEmpty_of_import (hcontent.trans (importsBody_cons first later)), if_neg (by simp)]
  rw [hregister, keepNext, ← hcontent]
  by_cases hinfix : component.bareSource <:+: block.content
  · -- the module is mentioned, be it as part of another one
    have hmentions : mentions (.ofBlock syntaxTree block) component = true :=
      contains_iff_isInfix.mpr hinfix
    rw [ensureImport, hmentions, if_pos rfl, if_pos hinfix]
    exact ⟨[], rfl, rfl⟩
  · obtain ⟨edit, hensure, hat, htext⟩ :=
      ensureImport_importsBody hreads hsits hkept htidy hcontent hinfix
    rw [hensure, if_neg hinfix]
    refine ⟨[edit], rfl, ?_⟩
    rw [Source.setupBlock_append kept h, Source.setupBlock_append (kept ++ [component]) h,
      importsBody_concat, ← hcontent, ← List.append_assoc, applyInsertions_singleton hat, htext]
    simp only [List.append_assoc]

/-! ### All runs -/

/-- The text that runs on the given text leave. -/
def lastText (text : Text) (steps : List Step) : Text := (steps.getLast?.map (·.text)).getD text

/-- The text after the runs for all components. -/
def textAfter (settings : Settings) (text : Text) (components : List Component) : Text :=
  lastText text (registerAll settings text components)

/-- The runs for all components succeed, and leave the text `last`. -/
def RunsTo (syntaxTree : Text → Script.Tree) (settings : Settings) (text : Text)
    (components : List Component) (last : Text) : Prop :=
  (∀ step ∈ registerAllBy syntaxTree settings text components, ∃ edits, step.outcome = .ok edits)
    ∧ lastText text (registerAllBy syntaxTree settings text components) = last

section Runs

variable {syntaxTree : Text → Script.Tree}

lemma RunsTo.nil (settings : Settings) (text : Text) : RunsTo syntaxTree settings text [] text :=
  ⟨by simp [registerAllBy], rfl⟩

/-- The later runs begin where the first one ends. -/
lemma RunsTo.cons {settings : Settings} {text last : Text} {component : Component}
    {components : List Component} {edits : List Insertion}
    (hfirst : registerBy syntaxTree text component settings = .ok edits)
    (hlater : RunsTo syntaxTree settings (applyInsertions text edits) components last) :
    RunsTo syntaxTree settings text (component :: components) last := by
  obtain ⟨hok, htext⟩ := hlater
  have hsteps : registerAllBy syntaxTree settings text (component :: components)
      = ⟨.ok edits, applyInsertions text edits⟩
        :: registerAllBy syntaxTree settings (applyInsertions text edits) components := by
    rw [registerAllBy, hfirst]
  constructor
  · rw [hsteps, List.forall_mem_cons]
    exact ⟨⟨edits, rfl⟩, hok⟩
  · rw [← htext, lastText, lastText, hsteps, List.getLast?_cons]
    cases (registerAllBy syntaxTree settings (applyInsertions text edits) components).getLast? <;>
      rfl

/-- Nothing is lost in a run, and what is new is the component of the run. -/
lemma mem_keepNext {kept : List Component} {component c : Component}
    (h : c ∈ keepNext kept component) : c ∈ kept ∨ c = component := by
  rw [keepNext] at h
  split at h
  · exact .inl h
  · exact List.mem_append.mp h |>.imp_right List.mem_singleton.mp

lemma keepNext_ne_nil {kept : List Component} (h : kept ≠ []) (component : Component) :
    keepNext kept component ≠ [] := by
  rw [keepNext]
  split
  · exact h
  · simp

/-- The runs on a script setup of imports. -/
lemma runsTo_setupBlock (hreads : ReadsImportLines syntaxTree) {settings : Settings}
    (h : settings.prefersScriptSetup = true) (text : Text) {kept : List Component}
    (hkept : kept ≠ []) (hkeptTidy : ∀ c ∈ kept, c.IsTidy) {components : List Component}
    (htidy : ∀ c ∈ components, c.IsTidy) :
    RunsTo syntaxTree settings (setupBlock kept settings ++ text) components
      (setupBlock (components.foldl keepNext kept) settings ++ text) := by
  induction components generalizing kept with
  | nil => exact .nil _ _
  | cons component components ih =>
      obtain ⟨edits, hregister, happly⟩ :=
        registerBy_setupBlock hreads hkept hkeptTidy h text component
      refine .cons hregister ?_
      rw [happly, List.foldl_cons]
      refine ih (keepNext_ne_nil hkept component) ?_
        fun c hc => htidy c (List.mem_cons_of_mem _ hc)
      intro c hc
      rcases mem_keepNext hc with hold | rfl
      · exact hkeptTidy c hold
      · exact htidy c List.mem_cons_self

/-- The text behind a script setup that imports the first component and each later one whose module
is not mentioned before its turn; without components, the text alone. -/
def importingAll (settings : Settings) (text : Text) : List Component → Text
  | [] => text
  | first :: later => setupBlock (later.foldl keepNext [first]) settings ++ text

/-- **Registering components one after the other in a document without scripts.** Every run
succeeds, and in the end there is one script setup in front of the text, with one line for the first
component and for each later one whose module was not mentioned in it by then, in the order of the
list. Of syntax trees it is only asked that a script of imports is read as its lines. -/
theorem runsTo_importingAll (hreads : ReadsImportLines syntaxTree) {text : Text}
    (hsetup : (Document.parseBy syntaxTree text).scriptSetup = none)
    (hscript : (Document.parseBy syntaxTree text).script = none) {settings : Settings}
    (hprefers : settings.prefersScriptSetup = true) {components : List Component}
    (htidy : ∀ c ∈ components, c.IsTidy) :
    RunsTo syntaxTree settings text components (importingAll settings text components) := by
  cases components with
  | nil => exact .nil settings text
  | cons first later =>
      have hregister : registerBy syntaxTree text first settings
          = .ok [⟨0, 0, Source.newScriptBlock first settings⟩] := by
        rw [registerBy, registerIn, hsetup, hscript]
      have happlied : applyInsertions text [⟨0, 0, Source.newScriptBlock first settings⟩]
          = Source.newScriptBlock first settings ++ text :=
        applyInsertions_singleton (Insertion.placed_at [] text _)
      refine .cons hregister ?_
      rw [happlied, Source.newScriptBlock_eq_setupBlock first hprefers]
      refine runsTo_setupBlock hreads hprefers text (by simp) ?_
        fun c hc => htidy c (List.mem_cons_of_mem _ hc)
      intro c hc
      rw [List.mem_singleton.mp hc]
      exact htidy first List.mem_cons_self

end Runs

/-- **Registering components one after the other**, where scripts are read by `Script.parse`: that
is known to read a script of imports as its lines, so nothing is asked of syntax trees. -/
theorem registerAll_setupBlock {text : Text} (hsetup : (Document.parse text).scriptSetup = none)
    (hscript : (Document.parse text).script = none) {settings : Settings}
    (hprefers : settings.prefersScriptSetup = true) {components : List Component}
    (htidy : ∀ c ∈ components, c.IsTidy) :
    (∀ step ∈ registerAll settings text components, ∃ edits, step.outcome = .ok edits)
      ∧ textAfter settings text components = importingAll settings text components :=
  runsTo_importingAll Script.readsImportLines_parse hsetup hscript hprefers htidy

/-- `registerAll_setupBlock` in a typed project. The third component is skipped because its module
is part of that of the first one, and the last because its module is part of a name. -/
theorem registerAll_setupBlock_skipping :
    let text : Text := "<!-- é --><template>\n<Card/>\n</template>"
    let settings : Settings := { preprocessors := { script := some .ts } }
    let components : List Component :=
      [⟨"Card".toList, "@/ui/Card.vue".toList⟩, ⟨"Tab2_$".toList, "../tab-2/é".toList⟩,
        ⟨"Plain".toList, "ui/Card".toList⟩, ⟨"Tab".toList, "@/Tab2".toList⟩]
    (∀ step ∈ registerAll settings text components, ∃ edits, step.outcome = .ok edits)
      ∧ textAfter settings text components = "<script setup lang=\"ts\">\n".toList
        ++ "import Card from '@/ui/Card.vue'\nimport Tab2_$ from '../tab-2/é'\n".toList
        ++ "</script>\n\n<!-- é --><template>\n<Card/>\n</template>".toList := by
  intro text settings components
  have hsetup : (Document.parse text).scriptSetup = none :=
    Option.isNone_iff_eq_none.mp (by decide +kernel)
  have hscript : (Document.parse text).script = none :=
    Option.isNone_iff_eq_none.mp (by decide +kernel)
  have htidy : ∀ c ∈ components, c.IsTidy := by
    simp only [components, List.forall_mem_cons]
    exact ⟨⟨by decide, by decide, by decide⟩, ⟨by decide, by decide, by decide⟩,
      ⟨by decide, by decide, by decide⟩, ⟨by decide, by decide, by decide⟩, by simp⟩
  have hprefers : settings.prefersScriptSetup = true := by decide
  obtain ⟨hok, hlast⟩ := registerAll_setupBlock hsetup hscript hprefers htidy
  exact ⟨hok, hlast.trans (by decide +kernel)⟩

end Registration

end ComponentFile
