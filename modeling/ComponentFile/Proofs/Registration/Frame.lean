import Mathlib.Tactic
import ComponentFile.Proofs.Document.Soundness
import ComponentFile.Proofs.Document.Translation
import ComponentFile.Proofs.Registration.Idempotence

/-!
Registering a component leaves every other block as it was.

* `Block.Moved text edits old new`: the edits only move a block, by the bytes that they put before
  each of its offsets.
* `Displaced`: two scans that differ in a few elements in the middle. The elements before them are
  the same and those behind them are shifted, so that the elements that pass a test, false for what
  differs, are moved one by one (`Displaced.forall₂_moved`).
* A line put into a script displaces what follows (`displaced_line`), and so does a new script in
  front of the text (`displaced_newScriptBlock`).
* `register_frame` is the statement for all documents with a script setup or without scripts.
-/

namespace ComponentFile

open Text Markup Script

/-- The bytes that a batch of insertions puts before an offset of a text. -/
def insertedBefore (text : Text) (edits : List Insertion) (n : Nat) : Nat :=
  ((edits.filter fun e => text.offset e.line e.column ≤ n).map (·.text.bytes)).sum

/-- The block is the same after the edits, and its offsets have moved by what was put before
them. -/
structure Block.Moved (text : Text) (edits : List Insertion) (old new : Block) : Prop where
  content : new.content = old.content
  attributes : new.attributes = old.attributes
  lang : new.lang = old.lang
  src : new.src = old.src
  start : new.span.start.offset
    = old.span.start.offset + insertedBefore text edits old.span.start.offset
  stop : new.span.stop.offset
    = old.span.stop.offset + insertedBefore text edits old.span.stop.offset
  contentStart : new.contentSpan.start.offset
    = old.contentSpan.start.offset + insertedBefore text edits old.contentSpan.start.offset
  contentStop : new.contentSpan.stop.offset
    = old.contentSpan.stop.offset + insertedBefore text edits old.contentSpan.stop.offset

/-- A style that was only moved applies where it did. -/
structure StyleBlock.Moved (text : Text) (edits : List Insertion) (old new : StyleBlock) : Prop
    extends Block.Moved text edits old.toBlock new.toBlock where
  isScoped : new.isScoped = old.isScoped
  isModule : new.isModule = old.isModule

lemma Block.Moved.has {text : Text} {edits : List Insertion} {old new : Block}
    (h : old.Moved text edits new) (name : Text) : new.has name = old.has name := by
  rw [Block.has, h.attributes, Block.has]

lemma Block.Moved.style {text : Text} {edits : List Insertion} {old new : Block}
    (h : old.Moved text edits new) :
    (StyleBlock.ofBlock old).Moved text edits (.ofBlock new) where
  toMoved := h
  isScoped := h.has "scoped"
  isModule := h.has "module"

/-- One insertion moves what stands behind it. -/
lemma insertedBefore_singleton {s t : Text} {edit : Insertion} (h : edit.At s t) (n : Nat) :
    insertedBefore (s ++ t) [edit] n = if s.bytes ≤ n then edit.text.bytes else 0 := by
  rw [insertedBefore, List.filter_cons, h]
  split <;> simp_all

/-- Without insertions nothing moves. -/
lemma Block.Moved.refl (text : Text) (block : Block) : block.Moved text [] block := by
  constructor <;> rfl

/-! ### Displaced elements -/

namespace Markup

/-- Two scans that differ in the elements `x` and `x'`. Those before them end before the offset `n`,
and those behind them begin there or later and are shifted by `k` bytes. -/
structure Displaced (text text' : Text) (n k : Nat) (before x x' after : List Element) : Prop where
  scan_eq : scan text = before ++ (x ++ after)
  scan_eq' : scan text' = before ++ (x' ++ after.map (Element.shift k))
  before_stop : ∀ e ∈ before, e.stop < n
  after_start : ∀ e ∈ after, n ≤ e.start

variable {text text' : Text} {n k : Nat} {before x x' after : List Element}
  {edits : List Insertion}

/-- An element of the new scan that stands where the insertions have moved an old one. -/
lemma moved_of_mem_scan {e e' : Element} (h : e ∈ scan text) (h' : e' ∈ scan text')
    (hcontent : e'.content = e.content) (hraw : e'.rawAttributes = e.rawAttributes)
    (hstart : e'.start = e.start + insertedBefore text edits e.start)
    (hstop : e'.stop = e.stop + insertedBefore text edits e.stop)
    (hcontentStart : e'.contentStart = e.contentStart + insertedBefore text edits e.contentStart)
    (hcontentStop : e'.contentStop = e.contentStop + insertedBefore text edits e.contentStop) :
    (Block.ofElement text e).Moved text edits (.ofElement text' e') := by
  have hattributes : (Block.ofElement text' e').attributes
      = (Block.ofElement text e).attributes := congrArg Attribute.parse hraw
  obtain ⟨h1, h2, h3, h4⟩ := Document.span_offset h
  obtain ⟨h1', h2', h3', h4'⟩ := Document.span_offset h'
  constructor
  case content => exact hcontent
  case attributes => exact hattributes
  case lang => rw [Block.lang, Block.value?, hattributes, Block.lang, Block.value?]
  case src => rw [Block.src, Block.value?, hattributes, Block.src, Block.value?]
  case start => rw [h1', h1, hstart]
  case stop => rw [h2', h2, hstop]
  case contentStart => rw [h3', h3, hcontentStart]
  case contentStop => rw [h4', h4, hcontentStop]

namespace Displaced

/-- An element that ends before the insertions stays where it is. -/
lemma moved_before (h : Displaced text text' n k before x x' after)
    (hedits : ∀ m, insertedBefore text edits m = if n ≤ m then k else 0) {e : Element}
    (he : e ∈ before) : (Block.ofElement text e).Moved text edits (.ofElement text' e) := by
  have hmem : e ∈ scan text := by
    rw [h.scan_eq]
    exact List.mem_append_left _ he
  have hmem' : e ∈ scan text' := by
    rw [h.scan_eq']
    exact List.mem_append_left _ he
  have hstay : ∀ m, m ≤ e.stop → m = m + insertedBefore text edits m := by
    intro m hm
    have hstop := h.before_stop e he
    rw [hedits, if_neg (by omega), Nat.add_zero]
  obtain ⟨hlt, hle, hle', -⟩ := sound_of_mem_scan hmem
  exact moved_of_mem_scan hmem hmem' rfl rfl (hstay _ (by omega)) (hstay _ le_rfl)
    (hstay _ (by omega)) (hstay _ hle')

/-- An element that begins behind the insertions is shifted as a whole. -/
lemma moved_after (h : Displaced text text' n k before x x' after)
    (hedits : ∀ m, insertedBefore text edits m = if n ≤ m then k else 0) {e : Element}
    (he : e ∈ after) :
    (Block.ofElement text e).Moved text edits (.ofElement text' (e.shift k)) := by
  have hmem : e ∈ scan text := by
    rw [h.scan_eq]
    exact List.mem_append_right _ (List.mem_append_right _ he)
  have hmem' : e.shift k ∈ scan text' := by
    rw [h.scan_eq']
    exact List.mem_append_right _ (List.mem_append_right _ (List.mem_map_of_mem he))
  have hmove : ∀ m, e.start ≤ m → k + m = m + insertedBefore text edits m := by
    intro m hm
    have hstart := h.after_start e he
    rw [hedits, if_pos (by omega), Nat.add_comm]
  obtain ⟨hlt, hle, hle', -⟩ := sound_of_mem_scan hmem
  exact moved_of_mem_scan hmem hmem' rfl rfl (hmove _ le_rfl) (hmove _ (by omega))
    (hmove _ hlt.le) (hmove _ (by omega))

/-- The elements that pass a test, which is false for all that differs, are moved one by one. -/
lemma forall₂_moved (h : Displaced text text' n k before x x' after)
    (hedits : ∀ m, insertedBefore text edits m = if n ≤ m then k else 0) {test : Element → Bool}
    (hshift : ∀ e : Element, test (e.shift k) = test e) (hx : ∀ e ∈ x, test e = false)
    (hx' : ∀ e ∈ x', test e = false) :
    List.Forall₂ (fun e e' => (Block.ofElement text e).Moved text edits (.ofElement text' e'))
      ((scan text).filter test) ((scan text').filter test) := by
  have hold : (scan text).filter test = before.filter test ++ after.filter test := by
    have hnone : x.filter test = [] := List.filter_eq_nil_iff.mpr fun e he => by simp [hx e he]
    rw [h.scan_eq, List.filter_append, List.filter_append, hnone, List.nil_append]
  have hnew : (scan text').filter test
      = before.filter test ++ (after.filter test).map (Element.shift k) := by
    have hnone : x'.filter test = [] := List.filter_eq_nil_iff.mpr fun e he => by simp [hx' e he]
    have htest : test ∘ Element.shift k = test := funext hshift
    rw [h.scan_eq', List.filter_append, List.filter_append, hnone, List.nil_append,
      List.filter_map, htest]
  rw [hold, hnew]
  refine List.rel_append (List.forall₂_same.mpr fun e he => ?_)
    (List.forall₂_map_right_iff.mpr (List.forall₂_same.mpr fun e he => ?_))
  · exact h.moved_before hedits (List.mem_of_mem_filter he)
  · exact h.moved_after hedits (List.mem_of_mem_filter he)

lemma rel_head? {α β : Type} {r : α → β → Prop} {a : List α} {b : List β}
    (h : List.Forall₂ r a b) : Option.Rel r a.head? b.head? := by
  cases h with
  | nil => exact .none
  | cons hfirst _ => exact .some hfirst

/-- The first element that passes such a test is moved. -/
lemma rel_moved (h : Displaced text text' n k before x x' after)
    (hedits : ∀ m, insertedBefore text edits m = if n ≤ m then k else 0) {test : Element → Bool}
    (hshift : ∀ e : Element, test (e.shift k) = test e) (hx : ∀ e ∈ x, test e = false)
    (hx' : ∀ e ∈ x', test e = false) :
    Option.Rel (fun e e' => (Block.ofElement text e).Moved text edits (.ofElement text' e'))
      ((scan text).find? test) ((scan text').find? test) := by
  rw [← List.head?_filter, ← List.head?_filter]
  exact rel_head? (h.forall₂_moved hedits hshift hx hx')

end Displaced

end Markup

/-! ### Documents -/

/-- The template and the styles of a document are only moved. -/
structure Document.Keeps (text : Text) (edits : List Insertion) (old new : Document) : Prop where
  template : Option.Rel (Block.Moved text edits) old.template new.template
  styles : List.Forall₂ (StyleBlock.Moved text edits) old.styles new.styles

namespace Document

open Markup

lemma rel_map {α β γ δ : Type} {r : γ → δ → Prop} {f : α → γ} {g : β → δ} {a : Option α}
    {b : Option β} (h : Option.Rel (fun x y => r (f x) (g y)) a b) :
    Option.Rel r (a.map f) (b.map g) := by
  cases h with
  | some h => exact .some h
  | none => exact .none

/-- Without insertions a document is kept. -/
lemma Keeps.refl (text : Text) (document : Document) : document.Keeps text [] document where
  template := by
    cases document.template with
    | none => exact .none
    | some block => exact .some (.refl text block)
  styles := List.forall₂_same.mpr fun style _ =>
    { toMoved := .refl text style.toBlock, isScoped := rfl, isModule := rfl }

section Displaced

variable {syntaxTree : Text → Script.Tree} {text text' : Text} {n k : Nat}
  {before x x' after : List Element} {edits : List Insertion}

/-- Where only scripts differ, the template and the styles are kept. -/
lemma keeps_of_displaced (h : Displaced text text' n k before x x' after)
    (hedits : ∀ m, insertedBefore text edits m = if n ≤ m then k else 0)
    (hx : ∀ e ∈ x, e.isNamed "script" = true) (hx' : ∀ e ∈ x', e.isNamed "script" = true) :
    (parseBy syntaxTree text).Keeps text edits (parseBy syntaxTree text') := by
  have hother : ∀ {name : Text} {e : Element}, name.map Char.toLower ≠ "script".toList →
      e.isNamed "script" = true → e.isNamed name = false := by
    intro name e hname he
    rw [Bool.eq_false_iff]
    intro hnamed
    exact hname (isNamed_unique hnamed he)
  constructor
  · refine rel_map (h.rel_moved hedits (fun _ => rfl) ?_ ?_)
    · exact fun e he => hother (by decide) (hx e he)
    · exact fun e he => hother (by decide) (hx' e he)
  · refine List.forall₂_map_left_iff.mpr (List.forall₂_map_right_iff.mpr ?_)
    refine (h.forall₂_moved hedits (fun _ => rfl) ?_ ?_).imp fun _ _ hmoved => hmoved.style
    · exact fun e he => hother (by decide) (hx e he)
    · exact fun e he => hother (by decide) (hx' e he)

/-- A plain script is kept where only script setups differ. -/
lemma rel_script_of_displaced (h : Displaced text text' n k before x x' after)
    (hedits : ∀ m, insertedBefore text edits m = if n ≤ m then k else 0)
    (hx : ∀ e ∈ x, isScriptOf true e = true) (hx' : ∀ e ∈ x', isScriptOf true e = true) :
    Option.Rel (fun a b => a.toBlock.Moved text edits b.toBlock)
      (parseBy syntaxTree text).script (parseBy syntaxTree text').script := by
  have hother : ∀ e : Element, isScriptOf true e = true → isScriptOf false e = false := by
    intro e he
    rw [Bool.eq_false_iff]
    intro hplain
    exact absurd (isScriptOf_unique hplain he) (by decide)
  rw [(script_parseBy syntaxTree text).1, (script_parseBy syntaxTree text').1]
  exact rel_map (h.rel_moved hedits (fun _ => rfl) (fun e he => hother e (hx e he))
    fun e he => hother e (hx' e he))

end Displaced

end Document

/-! ### Registration -/

namespace Registration

/-- A line put into a script displaces what stands behind the script. -/
lemma displaced_line {text p rest a b line closeTag : Text} {tag : OpenTag} {found : List Element}
    (hat : ScriptAt text p tag ⟨a ++ b, closeTag⟩ rest found)
    (hseam : Seam (tag.text ++ a) line (b ++ (closeTag ++ rest))) (hline : Inert line) :
    Displaced text (p ++ (tag.text ++ (a ++ (line ++ b) ++ (closeTag ++ rest))))
      (p ++ tag.text ++ a).bytes line.bytes found [.build p.bytes tag ⟨a ++ b, closeTag⟩]
      [.build p.bytes tag ⟨a ++ (line ++ b), closeTag⟩]
      (scanFrom (p ++ (tag.text ++ (a ++ b ++ closeTag))).bytes 0 rest) where
  scan_eq := hat.scan_eq
  scan_eq' := by
    have hbytes : (p ++ (tag.text ++ (a ++ (line ++ b) ++ closeTag))).bytes
        = line.bytes + (p ++ (tag.text ++ (a ++ b ++ closeTag))).bytes := by
      simp only [bytes_append]
      omega
    rw [(hat.graft hseam hline).scan_eq, hbytes, scanFrom_shift]
    rfl
  before_stop := by
    intro e he
    have horder := pairwise_scan text
    rw [hat.scan_eq, List.pairwise_append] at horder
    have hle : e.stop ≤ p.bytes := horder.2.2 e he _ List.mem_cons_self
    have hpos : 0 < tag.text.bytes := by
      obtain ⟨-, -, -, hread, -⟩ := Construct.read_eq_element.mp hat.read
      obtain ⟨name, body, -, -, -, -, rfl, -⟩ := OpenTag.read?_eq_some hread
      simp only [OpenTag.ofParts, List.cons_append, bytes_cons]
      have := Char.utf8Size_pos '<'
      omega
    simp only [bytes_append]
    omega
  after_start := by
    intro e he
    have hle := le_start_of_mem_scanFrom he
    simp only [bytes_append] at hle ⊢
    omega

/-- A new script displaces the whole text. -/
lemma displaced_newScriptBlock {component : Component} (hplain : component.IsPlain)
    (settings : Settings) (text : Text) :
    ∃ e : Element, Document.isScriptOf settings.prefersScriptSetup e = true
      ∧ e.content = Source.newBody component settings ∧ e.start = 0
      ∧ e.stop + 2 = (Source.newScriptBlock component settings).bytes
      ∧ Displaced text (Source.newScriptBlock component settings ++ text) 0
        (Source.newScriptBlock component settings).bytes [] [] [e] (scan text) := by
  obtain ⟨tag, htag, hsort, hscan⟩ := Source.scan_newScriptBlock
    (fun hlt => (hplain.1 _ hlt).1 rfl) (fun hlt => (hplain.2 _ hlt).1 rfl) settings text
  refine ⟨_, hsort, rfl, rfl, ?_, rfl, hscan, by simp, by simp⟩
  have hfeeds : bytes "\n\n".toList = 2 := by decide
  simp only [Source.newScriptBlock_eq, ← htag, Element.build, bytes_append, hfeeds]
  omega

/-- Nothing but the script setup differs after a run that finds one. -/
lemma keeps_of_setup {syntaxTree : Text → Script.Tree} {text : Text} {block : Block}
    (hblock : (Document.scripts text (scan text)).find? (·.has "setup") = some block)
    (htree : (syntaxTree block.content).ImportsEnd block.content)
    {component : Component} (hplain : component.IsPlain) {settings : Settings}
    {edits : List Insertion} (hrun : registerBy syntaxTree text component settings = .ok edits) :
    (Document.parseBy syntaxTree text).Keeps text edits
        (Document.parseBy syntaxTree (applyInsertions text edits))
      ∧ Option.Rel (fun a b => a.toBlock.Moved text edits b.toBlock)
        (Document.parseBy syntaxTree text).script
        (Document.parseBy syntaxTree (applyInsertions text edits)).script := by
  obtain ⟨p, tag, ⟨content, closeTag⟩, rest, found, hat, rfl, hscript, hhas, -⟩ :=
    Document.exists_scriptAt hblock
  have hdocument : (Document.parseBy syntaxTree text).scriptSetup
      = some (.ofBlock syntaxTree (.ofElement text (.build p.bytes tag ⟨content, closeTag⟩))) := by
    simp only [Document.parseBy, hblock, Option.map_some]
  cases setupEdits_of_registerBy htree hat hdocument hrun with
  | nothing =>
      refine ⟨.refl text _, ?_⟩
      rw [show applyInsertions text [] = text from rfl]
      cases (Document.parseBy syntaxTree text).script with
      | none => exact .none
      | some script => exact .some (.refl text script.toBlock)
  | @line edit a b pre post hab hedit hseam himport hpre hpost =>
      obtain rfl : content = a ++ b := hab
      have hedits : ∀ m, insertedBefore text [edit] m
          = if (p ++ tag.text ++ a).bytes ≤ m then edit.text.bytes else 0 := by
        have htext : text = p ++ tag.text ++ a ++ (b ++ (closeTag ++ rest)) := by
          rw [hat.text_eq]
          simp
        rw [htext]
        exact insertedBefore_singleton hedit
      have hline : Inert edit.text := himport ▸ inert_import hplain hpre hpost
      have hsort : ∀ content', ∀ e ∈ [Element.build p.bytes tag ⟨content', closeTag⟩],
          Document.isScriptOf true e = true := by
        intro content' e he
        rw [List.mem_singleton.mp he, Document.isScriptOf, Bool.and_eq_true]
        exact ⟨hscript, beq_iff_eq.mpr hhas⟩
      have hdisplaced := displaced_line hat hseam hline
      rw [hat.applyInsertions_eq hedit]
      exact ⟨Document.keeps_of_displaced hdisplaced hedits
          (fun e he => Document.isNamed_of_isScriptOf (hsort _ e he))
          (fun e he => Document.isNamed_of_isScriptOf (hsort _ e he)),
        Document.rel_script_of_displaced hdisplaced hedits (hsort _) (hsort _)⟩

/-- Where no script is found before, the new one is the only script after a run. -/
lemma scripts_newScriptBlock (syntaxTree : Text → Script.Tree) {text text' : Text} {n k : Nat}
    {e : Element} {setup : Bool} (hsort : Document.isScriptOf setup e = true)
    (hdisplaced : Displaced text text' n k [] [] [e] (scan text))
    (hnone : ∀ s, (scan text).find? (Document.isScriptOf s) = none) :
    (Document.parseBy syntaxTree text').scriptSetup
        = (if setup then some (.ofBlock syntaxTree (.ofElement text' e)) else none)
      ∧ (Document.parseBy syntaxTree text').script
        = (if setup then none else some (.ofBlock syntaxTree (.ofElement text' e))) := by
  have hscan : scan text' = e :: (scan text).map (Element.shift k) := hdisplaced.scan_eq'
  have hfind : ∀ s, (scan text').find? (Document.isScriptOf s)
      = if s = setup then some e else none := by
    intro s
    have hlater : ((scan text).map (Element.shift k)).find? (Document.isScriptOf s) = none := by
      rw [List.find?_map]
      exact Option.map_eq_none_iff.mpr (hnone s)
    rw [hscan]
    split
    case isTrue h =>
      subst h
      exact List.find?_cons_of_pos hsort
    case isFalse h =>
      refine (List.find?_cons_of_neg fun hs => h ?_).trans hlater
      exact Document.isScriptOf_unique hs hsort
  rw [(Document.script_parseBy syntaxTree text').1, (Document.script_parseBy syntaxTree text').2,
    hfind, hfind]
  cases setup <;> exact ⟨rfl, rfl⟩

/-- What a run does to a document without scripts. -/
lemma keeps_of_newScriptBlock {syntaxTree : Text → Script.Tree} {text : Text}
    (hsetup : (Document.parseBy syntaxTree text).scriptSetup = none)
    (hscript : (Document.parseBy syntaxTree text).script = none)
    {component : Component} (hplain : component.IsPlain) {settings : Settings}
    {edits : List Insertion} (hrun : registerBy syntaxTree text component settings = .ok edits) :
    (Document.parseBy syntaxTree text).Keeps text edits
        (Document.parseBy syntaxTree (applyInsertions text edits))
      ∧ ∃ script : ScriptBlock, script.content = Source.newBody component settings
        ∧ script.span.start.offset = 0
        ∧ script.span.stop.offset + 2 = (Source.newScriptBlock component settings).bytes
        ∧ (Document.parseBy syntaxTree (applyInsertions text edits)).scriptSetup
          = (if settings.prefersScriptSetup then some script else none)
        ∧ (Document.parseBy syntaxTree (applyInsertions text edits)).script
          = (if settings.prefersScriptSetup then none else some script) := by
  rw [registerBy, registerIn, hsetup, hscript] at hrun
  obtain rfl : [⟨0, 0, Source.newScriptBlock component settings⟩] = edits := Except.ok.inj hrun
  have hat : (⟨0, 0, Source.newScriptBlock component settings⟩ : Insertion).At [] text :=
    Insertion.placed_at [] text _
  have happlied := applyInsertions_singleton hat
  rw [List.nil_append, List.nil_append] at happlied
  obtain ⟨e, hsort, hcontent, hstart, hstop, hdisplaced⟩ :=
    displaced_newScriptBlock hplain settings text
  have hnone : ∀ s, (scan text).find? (Document.isScriptOf s) = none := by
    rw [(Document.script_parseBy syntaxTree text).1, Option.map_eq_none_iff] at hscript
    rw [(Document.script_parseBy syntaxTree text).2, Option.map_eq_none_iff] at hsetup
    exact fun s => by cases s <;> assumption
  have hmem : e ∈ scan (Source.newScriptBlock component settings ++ text) := by
    rw [hdisplaced.scan_eq']
    exact List.mem_cons_self
  obtain ⟨hspan, hspan', -⟩ := Document.span_offset hmem
  rw [happlied]
  constructor
  · refine Document.keeps_of_displaced hdisplaced (insertedBefore_singleton hat) (by simp) ?_
    intro e' he'
    rw [List.mem_singleton.mp he']
    exact Document.isNamed_of_isScriptOf hsort
  · exact ⟨.ofBlock syntaxTree (.ofElement _ e), hcontent, hspan.trans hstart,
      (congrArg (· + 2) hspan').trans hstop,
      scripts_newScriptBlock syntaxTree hsort hdisplaced hnone⟩

/-- **Registration leaves every other block as it was.** With a script setup, the template, the
styles and the plain script are only moved. Without scripts, the template and the styles are only
moved, and the one new block is the script that was put in front. -/
theorem register_frame (syntaxTree : Text → Script.Tree) (text : Text)
    (htree : ∀ setup, (Document.parseBy syntaxTree text).scriptSetup = some setup →
      (syntaxTree setup.content).ImportsEnd setup.content)
    {component : Component} (hplain : component.IsPlain) (settings : Settings)
    (hscripts : (Document.parseBy syntaxTree text).scriptSetup.isSome = true
      ∨ (Document.parseBy syntaxTree text).scriptSetup = none
        ∧ (Document.parseBy syntaxTree text).script = none)
    {edits : List Insertion} (hrun : registerBy syntaxTree text component settings = .ok edits) :
    (Document.parseBy syntaxTree text).Keeps text edits
        (Document.parseBy syntaxTree (applyInsertions text edits))
      ∧ ((Document.parseBy syntaxTree text).scriptSetup.isSome = true →
        Option.Rel (fun a b => a.toBlock.Moved text edits b.toBlock)
          (Document.parseBy syntaxTree text).script
          (Document.parseBy syntaxTree (applyInsertions text edits)).script)
      ∧ ((Document.parseBy syntaxTree text).scriptSetup = none →
        ∃ script : ScriptBlock, script.content = Source.newBody component settings
          ∧ script.span.start.offset = 0
          ∧ script.span.stop.offset + 2 = (Source.newScriptBlock component settings).bytes
          ∧ (Document.parseBy syntaxTree (applyInsertions text edits)).scriptSetup
            = (if settings.prefersScriptSetup then some script else none)
          ∧ (Document.parseBy syntaxTree (applyInsertions text edits)).script
            = (if settings.prefersScriptSetup then none else some script)) := by
  rcases hscripts with hsome | ⟨hnone, hscript⟩
  · obtain ⟨setup, hsetup⟩ := Option.isSome_iff_exists.mp hsome
    obtain ⟨block, hblock, rfl⟩ := Option.map_eq_some_iff.mp hsetup
    obtain ⟨hkeeps, hrel⟩ := keeps_of_setup hblock (htree _ hsetup) hplain hrun
    exact ⟨hkeeps, fun _ => hrel, fun hnone => by simp [hsetup] at hnone⟩
  · obtain ⟨hkeeps, hnew⟩ := keeps_of_newScriptBlock hnone hscript hplain hrun
    exact ⟨hkeeps, fun hsome => by simp [hnone] at hsome, fun _ => hnew⟩

/-- `register_frame` where templates that are never closed stand before the script setup, and a
plain script, a template and a style on its last line and behind it. -/
theorem register_frame_halfTyped :
    let text : Text := "<template>é<template>\n<script setup>".toList ++ commentedImport
      ++ "</script><script>é</script>\n<template>x</template><style scoped>é</style>".toList
    let component : Component := ⟨"B".toList, "@/B.vue".toList⟩
    let edits : List Insertion := [⟨1, 54, "\nimport B from '@/B.vue'".toList⟩]
    let old := Document.parseBy commentedImportTree text
    let new := Document.parseBy commentedImportTree (applyInsertions text edits)
    registerBy commentedImportTree text component {} = .ok edits
      ∧ old.template.map (·.contentSpan.start.offset) = some 116
      ∧ new.template.map (·.contentSpan.start.offset) = some 140
      ∧ old.Keeps text edits new
      ∧ Option.Rel (fun a b => a.toBlock.Moved text edits b.toBlock) old.script new.script := by
  intro text component edits old new
  have hplain : component.IsPlain := ⟨by decide, by decide⟩
  have hrun : registerBy commentedImportTree text component {} = .ok edits := by decide +kernel
  have hsetup : old.scriptSetup.isSome = true := by decide +kernel
  obtain ⟨hkeeps, hscript, -⟩ := register_frame commentedImportTree text
    (fun setup _ => commentedImportTree_importsEnd setup.content) hplain {} (.inl hsetup) hrun
  exact ⟨hrun, by decide +kernel, by decide +kernel, hkeeps, hscript hsetup⟩

end Registration

end ComponentFile
