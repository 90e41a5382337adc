import Mathlib.Tactic
import ComponentFile.Proofs.Document.Blocks

/-!
Every scan and every parse is structurally sound, whatever the text.

* `Element.Sound text e`: the four offsets of an element are boundaries in their order, the text
  between them is an opening tag, the content and a close tag of the same name.
* `sound_of_mem_scan`, `pairwise_scan`: the elements of a scan are sound, and each one ends before
  the next one begins. One step of the scan is `scanFrom_cases`; the run is the induction on the
  length of the text.
* `Document.kept`: the elements that a document is made of. `blocks_parseBy` says that the blocks
  of a document are these elements in the order of the scan: sorting them has nothing to do, since a
  list that is in strict order already is the only ordered list of its members.
-/

namespace ComponentFile

open Text

namespace Markup

/-! ### Elements -/

/-- The offsets of an element lie in the text in their order, and the text between them is what the
element says. -/
structure Element.Sound (text : Text) (e : Element) : Prop where
  start_lt : e.start < e.contentStart
  contentStart_le : e.contentStart ≤ e.contentStop
  contentStop_le : e.contentStop ≤ e.stop
  stop_le : e.stop ≤ text.bytes
  boundaries : ∀ n ∈ [e.start, e.contentStart, e.contentStop, e.stop], text.IsBoundary n
  name_ne : e.name ≠ []
  openTag : ∃ body, text.slice e.start e.contentStart = '<' :: (e.name ++ (body ++ ['>']))
  content : text.slice e.contentStart e.contentStop = e.content
  empty : e.selfClosing = true → e.contentStart = e.contentStop ∧ e.contentStop = e.stop
    ∧ ['/', '>'] <:+ text.slice e.start e.contentStart
  closeTag : e.selfClosing = false → ∃ name blanks, sameName e.name name = true
    ∧ (∀ c ∈ blanks, isMarkupBlank c = true)
    ∧ text.slice e.contentStop e.stop = '<' :: '/' :: (name ++ (blanks ++ ['>']))

/-- An element with a body ends with a close tag of its name, and an empty one with its opening
tag. -/
lemma closing?_tag {tag : OpenTag} {s : Text} {closing : Closing}
    (h : closing? tag s = some closing) :
    (tag.selfClosing = true → closing = ⟨[], []⟩)
      ∧ (tag.selfClosing = false → ∃ name blanks, sameName tag.name name = true
        ∧ (∀ c ∈ blanks, isMarkupBlank c = true)
        ∧ closing.tag = '<' :: '/' :: (name ++ (blanks ++ ['>']))) := by
  have hclose : ∀ v, closeTag? tag.name v = some closing.tag →
      ∃ name blanks, sameName tag.name name = true ∧ (∀ c ∈ blanks, isMarkupBlank c = true)
        ∧ closing.tag = '<' :: '/' :: (name ++ (blanks ++ ['>'])) := by
    intro v hv
    obtain ⟨name, blanks, -, -, hname, hblanks, htag⟩ := closeTag?_eq_some hv
    exact ⟨name, blanks, hname, hblanks, htag⟩
  rw [closing?] at h
  split_ifs at h with hself hraw
  · exact ⟨fun _ => (Option.some.inj h).symm, fun hbody => absurd hself (by simp [hbody])⟩
  · obtain ⟨v, -, htag, -⟩ := firstClose?_eq_some h
    exact ⟨fun hempty => absurd hempty hself, fun _ => hclose v htag⟩
  · obtain ⟨v, -, htag⟩ := balancedClose?_eq_some h
    exact ⟨fun hempty => absurd hempty hself, fun _ => hclose v htag⟩

/-- The element that is read after `p` is sound. -/
lemma sound_build {p r : Text} {tag : OpenTag} {closing : Closing}
    (h : Construct.read r = .element tag closing) :
    (Element.build p.bytes tag closing).Sound (p ++ r) := by
  obtain ⟨-, -, -, hread, hclose⟩ := Construct.read_eq_element.mp h
  obtain ⟨hempty, hbody⟩ := closing?_tag hclose
  obtain ⟨name, body, -, -, hname, -, rfl, -⟩ := OpenTag.read?_eq_some hread
  obtain ⟨rest, rfl, hpos⟩ := Construct.element_text h
  set tag := OpenTag.ofParts name body with htag
  have htext : tag.text = '<' :: (name ++ (body ++ ['>'])) := by simp [htag, OpenTag.ofParts]
  have hopen : (p ++ (tag.text ++ (closing.content ++ (closing.tag ++ rest)))).slice p.bytes
      (p.bytes + tag.text.bytes) = tag.text := slice_append _ _ _
  have hcontent := slice_append (p ++ tag.text) closing.content (closing.tag ++ rest)
  have htail := slice_append (p ++ tag.text ++ closing.content) closing.tag rest
  simp only [List.append_assoc, bytes_append, ← Nat.add_assoc] at hcontent htail
  constructor
  case start_lt =>
    have : 0 < tag.text.bytes := by
      rw [htext, bytes_cons]
      exact Nat.lt_of_lt_of_le (Char.utf8Size_pos _) (Nat.le_add_right _ _)
    simpa [Element.build] using this
  case contentStart_le => simp [Element.build]
  case contentStop_le => simp [Element.build]
  case stop_le => simp [Element.build]; omega
  case boundaries =>
    intro n hn
    simp only [Element.build, List.mem_cons, List.not_mem_nil, or_false] at hn
    rcases hn with rfl | rfl | rfl | rfl
    · exact ⟨p, _, rfl, rfl⟩
    · exact ⟨p ++ tag.text, closing.content ++ (closing.tag ++ rest), by simp, by simp⟩
    · exact ⟨p ++ tag.text ++ closing.content, closing.tag ++ rest, by simp, by simp; omega⟩
    · exact ⟨p ++ tag.text ++ closing.content ++ closing.tag, rest, by simp, by simp; omega⟩
  case name_ne => exact hname
  case openTag => exact ⟨body, hopen.trans htext⟩
  case content => exact hcontent
  case empty =>
    intro hself
    obtain rfl := hempty hself
    refine ⟨by simp [Element.build], by simp [Element.build], ?_⟩
    have hlast : body.getLast? = some '/' := by
      simpa [Element.build, htag, OpenTag.ofParts] using hself
    obtain ⟨init, rfl⟩ := List.getLast?_eq_some_iff.mp hlast
    refine ⟨'<' :: (name ++ init), ?_⟩
    rw [show (Element.build p.bytes tag ⟨[], []⟩).start = p.bytes from rfl,
      show (Element.build p.bytes tag ⟨[], []⟩).contentStart = p.bytes + tag.text.bytes from rfl,
      hopen, htext]
    simp
  case closeTag =>
    intro hself
    obtain ⟨n, blanks, hn, hblanks, hclosing⟩ := hbody hself
    exact ⟨n, blanks, hn, hblanks, htail.trans hclosing⟩

lemma sound_of_mem_scan {text : Text} {e : Element} (h : e ∈ scan text) : e.Sound text := by
  obtain ⟨found, later, hscan⟩ := List.append_of_mem h
  obtain ⟨p, r, tag, closing, rfl, -, hread, rfl⟩ := exists_passes hscan
  rw [Nat.zero_add]
  exact sound_build hread

/-! ### The order of the elements -/

/-- What the scan finds begins where it has come to, or later. -/
lemma le_start_of_mem_scanFrom {offset : Nat} {s : Text} {e : Element}
    (h : e ∈ scanFrom offset 0 s) : offset ≤ e.start := by
  obtain ⟨found, later, hscan⟩ := List.append_of_mem h
  obtain ⟨p, r, tag, closing, -, -, -, rfl⟩ := exists_passes hscan
  exact Nat.le_add_right _ _

lemma pairwise_scanFrom (offset : Nat) (s : Text) :
    (scanFrom offset 0 s).Pairwise fun a b => a.stop ≤ b.start := by
  induction hlen : s.length using Nat.strong_induction_on generalizing s offset with
  | _ k ih =>
      by_cases hs : s = []
      · subst hs
        simp [scanFrom_nil]
      rcases scanFrom_cases offset hs with ⟨c, v, rfl, -, hscan⟩ | ⟨t, v, rfl, ht, -, hscan⟩
        | ⟨-, hscan⟩ | ⟨tag, closing, v, rfl, ht, -, hscan⟩
      · rw [hscan]
        exact ih v.length (by simp at hlen; omega) _ v rfl
      · rw [hscan]
        rw [List.length_append] at hlen
        exact ih v.length (by omega) _ v rfl
      · simp [hscan]
      · rw [hscan, List.pairwise_cons]
        simp only [List.length_append] at hlen
        refine ⟨fun e he => ?_, ih v.length (by omega) _ v rfl⟩
        have hle := le_start_of_mem_scanFrom he
        simp only [bytes_append] at hle
        simp only [Element.build]
        omega

/-- Every element ends before the next one begins. -/
lemma pairwise_scan (text : Text) : (scan text).Pairwise fun a b => a.stop ≤ b.start :=
  pairwise_scanFrom 0 text

/-- Elements of a scan begin one after the other. -/
lemma pairwise_scan_start (text : Text) : (scan text).Pairwise fun a b => a.start < b.start := by
  refine (pairwise_scan text).imp_of_mem fun ha _ hle => ?_
  have h := sound_of_mem_scan ha
  exact Nat.lt_of_lt_of_le (Nat.lt_of_lt_of_le h.start_lt
    (Nat.le_trans h.contentStart_le h.contentStop_le)) hle

lemma nodup_scan (text : Text) : (scan text).Nodup :=
  (pairwise_scan_start text).imp fun hlt heq => absurd (congrArg Element.start heq) hlt.ne

/-- Two elements of a scan that begin at the same place are the same. -/
lemma eq_of_start_eq {text : Text} {a b : Element} (ha : a ∈ scan text) (hb : b ∈ scan text)
    (h : a.start = b.start) : a = b := by
  have hnodup : ((scan text).map Element.start).Nodup :=
    (pairwise_scan_start text).map Element.start fun _ _ hlt => hlt.ne
  exact List.inj_on_of_nodup_map hnodup ha hb h

end Markup

namespace Document

open Markup

/-! ### The blocks of a document -/

/-- Whether an element is a script with a body, with or without the mark of a script setup. -/
def isScriptOf (setup : Bool) (e : Element) : Bool :=
  e.isScript && (Attribute.parse e.rawAttributes).any (·.name = "setup".toList) == setup

/-- The elements that a document is made of: the first plain script and the first script setup with
a body, the first template, and all styles. -/
def kept (elements : List Element) : List Element :=
  elements.filter fun e =>
    elements.find? (isScriptOf false) = some e || elements.find? (isScriptOf true) = some e
      || elements.find? (·.isNamed "template") = some e || e.isNamed "style"

/-- The same elements, sort by sort. -/
def keptBySort (elements : List Element) : List Element :=
  (elements.find? (isScriptOf false)).toList ++ (elements.find? (isScriptOf true)).toList
    ++ (elements.find? (·.isNamed "template")).toList ++ elements.filter (·.isNamed "style")

lemma find?_scripts_has (text : Text) (elements : List Element) (setup : Bool) :
    (scripts text elements).find? (fun b => b.has "setup" == setup)
      = (elements.find? (isScriptOf setup)).map (Block.ofElement text) := by
  rw [scripts_eq, List.find?_map, List.find?_filter]
  congr 2
  funext e
  rw [isScriptOf, Bool.decide_and, Bool.decide_eq_true, Bool.decide_eq_true]
  rfl

/-- An element has one name only. -/
lemma isNamed_unique {e : Element} {a b : Text} (ha : e.isNamed a = true)
    (hb : e.isNamed b = true) : a.map Char.toLower = b.map Char.toLower :=
  (sameName_iff.mp ha).symm.trans (sameName_iff.mp hb)

lemma isNamed_of_isScriptOf {setup : Bool} {e : Element} (h : isScriptOf setup e = true) :
    e.isNamed "script" = true := by
  simp only [isScriptOf, Element.isScript, Bool.and_eq_true] at h
  exact h.1.1

/-- A script is of one sort only. -/
lemma isScriptOf_unique {a b : Bool} {e : Element} (ha : isScriptOf a e = true)
    (hb : isScriptOf b e = true) : a = b := by
  rw [isScriptOf, Bool.and_eq_true, beq_iff_eq] at ha hb
  exact ha.2.symm.trans hb.2

/-- No element is kept twice. -/
lemma nodup_keptBySort {elements : List Element} (h : elements.Nodup) :
    (keptBySort elements).Nodup := by
  have hone : ∀ o : Option Element, o.toList.Nodup := by
    intro o
    cases o <;> simp
  have hfound : ∀ {test : Element → Bool} {e : Element}, e ∈ (elements.find? test).toList →
      test e = true := fun he => List.find?_some (Option.mem_toList.mp he)
  have hscript : ∀ e ∈ (elements.find? (isScriptOf false)).toList
      ++ (elements.find? (isScriptOf true)).toList, e.isNamed "script" = true := by
    intro e he
    rcases List.mem_append.mp he with he | he
    · exact isNamed_of_isScriptOf (hfound he)
    · exact isNamed_of_isScriptOf (hfound he)
  rw [keptBySort, List.nodup_append, List.nodup_append, List.nodup_append]
  refine ⟨⟨⟨hone _, hone _, ?_⟩, hone _, ?_⟩, h.filter _, ?_⟩
  · rintro e hplain _ hsetup rfl
    exact absurd (isScriptOf_unique (hfound hplain) (hfound hsetup)) (by decide)
  · rintro e hscripts _ htemplate rfl
    exact absurd (isNamed_unique (hscript e hscripts) (hfound htemplate)) (by decide)
  · rintro e hbefore _ hstyle rfl
    have hstyle := (List.mem_filter.mp hstyle).2
    rcases List.mem_append.mp hbefore with hscripts | htemplate
    · exact absurd (isNamed_unique (hscript e hscripts) hstyle) (by decide)
    · exact absurd (isNamed_unique (hfound htemplate) hstyle) (by decide)

/-- Whether an element is kept, and why. -/
lemma mem_kept {elements : List Element} {e : Element} :
    e ∈ kept elements ↔ e ∈ elements ∧ (((elements.find? (isScriptOf false) = some e
      ∨ elements.find? (isScriptOf true) = some e)
      ∨ elements.find? (·.isNamed "template") = some e) ∨ e.isNamed "style" = true) := by
  rw [kept, List.mem_filter, Bool.or_eq_true, Bool.or_eq_true, Bool.or_eq_true, decide_eq_true_eq,
    decide_eq_true_eq, decide_eq_true_eq]

lemma keptBySort_perm {elements : List Element} (h : elements.Nodup) :
    (keptBySort elements).Perm (kept elements) := by
  refine (List.perm_ext_iff_of_nodup (nodup_keptBySort h) (h.filter _)).mpr fun e => ?_
  rw [keptBySort, List.mem_append, List.mem_append, List.mem_append, Option.mem_toList,
    Option.mem_toList, Option.mem_toList, List.mem_filter]
  refine Iff.trans ?_ mem_kept.symm
  constructor
  · rintro (((hfind | hfind) | hfind) | ⟨hmem, hstyle⟩)
    · exact ⟨List.mem_of_find?_eq_some hfind, .inl (.inl (.inl hfind))⟩
    · exact ⟨List.mem_of_find?_eq_some hfind, .inl (.inl (.inr hfind))⟩
    · exact ⟨List.mem_of_find?_eq_some hfind, .inl (.inr hfind)⟩
    · exact ⟨hmem, .inr hstyle⟩
  · rintro ⟨hmem, hsort | hstyle⟩
    · exact .inl hsort
    · exact .inr ⟨hmem, hstyle⟩

/-- Sorted by where they begin, the kept elements of a scan stand in the order of the scan. -/
lemma mergeSort_keptBySort (text : Text) :
    (keptBySort (scan text)).mergeSort (fun a b => a.start ≤ b.start) = kept (scan text) := by
  have hperm := (List.mergeSort_perm (keptBySort (scan text)) fun a b => a.start ≤ b.start).trans
    (keptBySort_perm (nodup_scan text))
  have hsorted : ((keptBySort (scan text)).mergeSort fun a b => a.start ≤ b.start).Pairwise
      fun a b => decide (a.start ≤ b.start) = true :=
    List.pairwise_mergeSort (fun a b c hab hbc => by simp at *; omega)
      (fun a b => by simp; omega) (keptBySort (scan text))
  simp only [decide_eq_true_eq] at hsorted
  have hkept : (kept (scan text)).Pairwise fun a b => a.start ≤ b.start :=
    ((pairwise_scan_start text).sublist List.filter_sublist).imp fun hlt => hlt.le
  refine List.Perm.eq_of_pairwise ?_ hsorted hkept hperm
  intro a b ha hb hab hba
  exact eq_of_start_eq (mem_kept.mp (hperm.mem_iff.mp ha)).1 (mem_kept.mp hb).1 (by omega)

lemma span_offset {text : Text} {e : Element} (h : e ∈ scan text) :
    (Block.ofElement text e).span.start.offset = e.start
      ∧ (Block.ofElement text e).span.stop.offset = e.stop
      ∧ (Block.ofElement text e).contentSpan.start.offset = e.contentStart
      ∧ (Block.ofElement text e).contentSpan.stop.offset = e.contentStop := by
  have hoffset : ∀ n, text.IsBoundary n → (text.position n).offset = n := by
    rintro n ⟨before, rest, rfl, rfl⟩
    rw [position_append, Position.origin_after_offset]
  have hsound := (sound_of_mem_scan h).boundaries
  exact ⟨hoffset _ (hsound _ (by simp)), hoffset _ (hsound _ (by simp)),
    hoffset _ (hsound _ (by simp)), hoffset _ (hsound _ (by simp))⟩

/-- The scripts of a document, as elements of the scan. -/
lemma script_parseBy (syntaxTree : Text → Script.Tree) (text : Text) :
    (parseBy syntaxTree text).script
        = ((scan text).find? (isScriptOf false)).map
          (ScriptBlock.ofBlock syntaxTree <| Block.ofElement text ·)
      ∧ (parseBy syntaxTree text).scriptSetup
        = ((scan text).find? (isScriptOf true)).map
          (ScriptBlock.ofBlock syntaxTree <| Block.ofElement text ·) := by
  have hplain : (fun b : Block => !b.has "setup") = fun b => b.has "setup" == false := by
    funext b
    cases b.has "setup" <;> rfl
  have hsetup : (fun b : Block => b.has "setup") = fun b => b.has "setup" == true := by
    funext b
    cases b.has "setup" <;> rfl
  constructor
  · rw [parseBy, hplain, find?_scripts_has, Option.map_map]
    rfl
  · rw [parseBy, hsetup, find?_scripts_has, Option.map_map]
    rfl

/-- The blocks of a document are the kept elements of the scan, in its order. -/
lemma blocks_parseBy (syntaxTree : Text → Script.Tree) (text : Text) :
    (parseBy syntaxTree text).blocks = (kept (scan text)).map (Block.ofElement text) := by
  have hlist : (parseBy syntaxTree text).blocks
      = ((keptBySort (scan text)).map (Block.ofElement text)).mergeSort
        fun a b => a.span.start.offset ≤ b.span.start.offset := by
    rw [blocks, (script_parseBy syntaxTree text).1, (script_parseBy syntaxTree text).2]
    simp only [keptBySort, parseBy, List.map_append, Option.toList_map, List.map_map]
    rfl
  rw [hlist, ← mergeSort_keptBySort]
  refine (List.map_mergeSort fun a ha b hb => ?_).symm
  have hmem : ∀ e ∈ keptBySort (scan text), e ∈ scan text := fun e he =>
    (mem_kept.mp ((keptBySort_perm (nodup_scan text)).mem_iff.mp he)).1
  rw [(span_offset (hmem a ha)).1, (span_offset (hmem b hb)).1]

/-- Blocks stand one behind the other. -/
lemma pairwise_blocks (syntaxTree : Text → Script.Tree) (text : Text) :
    (parseBy syntaxTree text).blocks.Pairwise fun a b =>
      a.span.start.offset < b.span.start.offset ∧ a.span.stop.offset ≤ b.span.start.offset := by
  rw [blocks_parseBy, List.pairwise_map]
  have horder : (kept (scan text)).Pairwise fun a b => a.start < b.start ∧ a.stop ≤ b.start :=
    ((pairwise_scan_start text).and (pairwise_scan text)).sublist List.filter_sublist
  refine horder.imp_of_mem fun ha hb hab => ?_
  obtain ⟨hstart, hstop, -⟩ := span_offset (mem_kept.mp ha).1
  rw [hstart, hstop, (span_offset (mem_kept.mp hb).1).1]
  exact hab

lemma slice_of_mem_blocks {syntaxTree : Text → Script.Tree} {text : Text} {block : Block}
    (h : block ∈ (parseBy syntaxTree text).blocks) :
    text.slice block.contentSpan.start.offset block.contentSpan.stop.offset = block.content := by
  rw [blocks_parseBy] at h
  obtain ⟨e, he, rfl⟩ := List.mem_map.mp h
  have hmem := (mem_kept.mp he).1
  obtain ⟨-, -, hstart, hstop⟩ := span_offset hmem
  rw [hstart, hstop]
  exact (sound_of_mem_scan hmem).content

/-- **Every parse is structurally sound.** The elements of a scan are sound and stand one behind the
other. The blocks of a document are those of them that count, in the same order, and the content of
each one is what stands in the text at its place. -/
theorem parseBy_sound (syntaxTree : Text → Script.Tree) (text : Text) :
    ((scan text).Pairwise fun a b => a.stop ≤ b.start)
    ∧ (∀ e ∈ scan text, e.Sound text)
    ∧ (kept (scan text)).Sublist (scan text)
    ∧ (parseBy syntaxTree text).blocks = (kept (scan text)).map (Block.ofElement text)
    ∧ ((parseBy syntaxTree text).blocks.Pairwise fun a b =>
      a.span.start.offset < b.span.start.offset ∧ a.span.stop.offset ≤ b.span.start.offset)
    ∧ ∀ block ∈ (parseBy syntaxTree text).blocks,
      text.slice block.contentSpan.start.offset block.contentSpan.stop.offset = block.content :=
  ⟨pairwise_scan text, fun _ => sound_of_mem_scan, List.filter_sublist,
    blocks_parseBy syntaxTree text, pairwise_blocks syntaxTree text, fun _ => slice_of_mem_blocks⟩

/-- `parseBy_sound` for a text with a tag that is never finished, a second template and a close tag
in other letters. -/
theorem parseBy_sound_unfinished :
    let text : Text := "é<p <Script>1</SCRIPT ><template/><template>é</template>".toList
    (scan text).map (·.start) = [5, 24, 35]
      ∧ (kept (scan text)).map (·.start) = [5, 24]
      ∧ (∀ e ∈ scan text, e.Sound text)
      ∧ (parse text).blocks = (kept (scan text)).map (Block.ofElement text) := by
  intro text
  obtain ⟨-, hsound, -, hblocks, -⟩ := parseBy_sound Script.parse text
  exact ⟨by decide +kernel, by decide +kernel, hsound, hblocks⟩

end Document

end ComponentFile
