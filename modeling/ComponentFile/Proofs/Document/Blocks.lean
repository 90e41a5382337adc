import Mathlib.Tactic
import ComponentFile.Document
import ComponentFile.Proofs.Markup.Graft

/-!
Where the blocks of a document stand.

* `Block.Sits text before after block`: the content of the block lies in the text between `before`
  and `after`, and the span of the content says so.
* `ScriptAt.graft`: a script takes an inert line at a seam of its content, and the scan finds the
  same before it.
* `exists_scriptAt`: a script that a test picks out is an element of the scan, the first one of its
  sort, and it sits in the text; `find?_scripts` is the converse.
* `Block.Stands text before opening closing after block`: the element of the block with its tags
  lies in the text between `before` and `after`. `exists_template_stands` says so of the template.
-/

namespace ComponentFile

open Text Markup

/-- The content of a block stands between `before` and `after`, and its span tells the place. -/
structure Block.Sits (text before after : Text) (block : Block) : Prop where
  text_eq : text = before ++ (block.content ++ after)
  start_eq : block.contentSpan.start = Position.origin.after before
  stop_eq : block.contentSpan.stop = Position.origin.after (before ++ block.content)

/-- The element of a block stands between `before` and `after`, and its spans tell where its tags
and its content begin and end. -/
structure Block.Stands (text before opening closing after : Text) (block : Block) : Prop where
  text_eq : text = before ++ (opening ++ (block.content ++ (closing ++ after)))
  start_eq : block.span.start = Position.origin.after before
  contentStart_eq : block.contentSpan.start = Position.origin.after (before ++ opening)
  contentStop_eq : block.contentSpan.stop
    = Position.origin.after (before ++ opening ++ block.content)
  stop_eq : block.span.stop = Position.origin.after (before ++ opening ++ block.content ++ closing)

/-- A script element with a body, and its parts: the scan passes `p`, reads the opening tag, the
content and the close tag, and `rest` is left. -/
structure ScriptAt (text p : Text) (tag : OpenTag) (closing : Closing) (rest : Text)
    (found : List Element) : Prop where
  text_eq : text = p ++ (tag.text ++ (closing.content ++ (closing.tag ++ rest)))
  passes : Passes 0 p (tag.text ++ (closing.content ++ (closing.tag ++ rest))) found
  read : Construct.read (tag.text ++ (closing.content ++ (closing.tag ++ rest)))
    = .element tag closing
  body : tag.selfClosing = false
  raw : isRawText tag.name = true

namespace ScriptAt

variable {text p rest : Text} {tag : OpenTag} {closing : Closing} {found : List Element}

lemma sits (h : ScriptAt text p tag closing rest found) :
    Block.Sits text (p ++ tag.text) (closing.tag ++ rest)
      (Block.ofElement text (.build p.bytes tag closing)) := by
  have htext := h.text_eq
  constructor
  · simp [Block.ofElement, Element.build, htext]
  · have hpos := position_append (p ++ tag.text) (closing.content ++ (closing.tag ++ rest))
    rw [List.append_assoc, ← htext, bytes_append] at hpos
    exact hpos
  · have hpos := position_append (p ++ tag.text ++ closing.content) (closing.tag ++ rest)
    rw [List.append_assoc, List.append_assoc, ← htext, bytes_append, bytes_append] at hpos
    exact hpos

/-- The scan finds what it has passed, the script, and what begins behind it. -/
lemma scan_eq (h : ScriptAt text p tag closing rest found) :
    scan text = found ++ .build p.bytes tag closing
      :: scanFrom (p ++ (tag.text ++ (closing.content ++ closing.tag))).bytes 0 rest := by
  rw [h.text_eq, scan, h.passes.scanFrom, scanFrom_element (v := rest) _ h.read rfl, Nat.zero_add,
    bytes_append p]

/-- **A line put into a script.** At a seam of its content the script takes an inert line, and all
that stands before it is as it was. -/
lemma graft {a b line closeTag : Text} (h : ScriptAt text p tag ⟨a ++ b, closeTag⟩ rest found)
    (hseam : Seam (tag.text ++ a) line (b ++ (closeTag ++ rest))) (hline : Inert line) :
    ScriptAt (p ++ (tag.text ++ (a ++ (line ++ b) ++ (closeTag ++ rest)))) p tag
      ⟨a ++ (line ++ b), closeTag⟩ rest found where
  text_eq := rfl
  passes := by
    have hold : tag.text ++ (a ++ b ++ (closeTag ++ rest))
        = tag.text ++ a ++ (b ++ (closeTag ++ rest)) := by simp
    have hnew : tag.text ++ (a ++ (line ++ b) ++ (closeTag ++ rest))
        = tag.text ++ a ++ (line ++ (b ++ (closeTag ++ rest))) := by simp
    have hpasses := h.passes
    rw [hold] at hpasses
    rw [hnew]
    exact hpasses.graft hseam hline
  read := Construct.read_graft_content h.read h.body h.raw hseam hline
  body := h.body
  raw := h.raw

/-- A script ends with a close tag. -/
lemma closeTag_cons (h : ScriptAt text p tag closing rest found) : ∃ t, closing.tag = '<' :: t := by
  obtain ⟨-, -, -, -, hclose⟩ := Construct.read_eq_element.mp h.read
  rw [List.drop_left, closing?, h.body, if_neg (by simp), if_pos h.raw] at hclose
  obtain ⟨v, -, htag, -⟩ := firstClose?_eq_some hclose
  obtain ⟨n, blanks, -, -, -, -, htag⟩ := closeTag?_eq_some htag
  exact ⟨_, htag⟩

/-- A script begins with an opening tag. -/
lemma getLast?_tag (h : ScriptAt text p tag closing rest found) : tag.text.getLast? = some '>' := by
  obtain ⟨-, -, -, hread, -⟩ := Construct.read_eq_element.mp h.read
  obtain ⟨name, body, -, -, -, -, rfl, -⟩ := OpenTag.read?_eq_some hread
  simp only [OpenTag.ofParts, List.getLast?_concat]

end ScriptAt

/-- Whether an element is a script with a body. -/
def Markup.Element.isScript (e : Element) : Bool := e.isNamed "script" && !e.selfClosing

namespace Document

lemma exists_stands {text : Text} {e : Element} (h : e ∈ scan text) :
    ∃ before opening closing after, (Block.ofElement text e).Stands text before opening closing
      after := by
  obtain ⟨found, later, hscan⟩ := List.append_of_mem h
  obtain ⟨p, r, tag, closing, htext, -, hread, rfl⟩ := exists_passes hscan
  obtain ⟨rest, rfl, -⟩ := Construct.element_text hread
  have hpoint : ∀ s t, text = s ++ t → text.position s.bytes = Position.origin.after s := by
    rintro s t rfl
    exact position_append s t
  rw [Nat.zero_add]
  refine ⟨p, tag.text, closing.tag, rest, htext, hpoint p _ htext, ?_, ?_, ?_⟩
  · rw [← hpoint (p ++ tag.text) (closing.content ++ (closing.tag ++ rest)) (by simp [htext]),
      bytes_append]
    rfl
  · rw [← hpoint (p ++ tag.text ++ (Block.ofElement text _).content) (closing.tag ++ rest)
      (by simp [htext, Block.ofElement, Element.build]), bytes_append, bytes_append]
    rfl
  · rw [← hpoint (p ++ tag.text ++ (Block.ofElement text _).content ++ closing.tag) rest
      (by simp [htext, Block.ofElement, Element.build]), bytes_append, bytes_append, bytes_append]
    rfl

/-- The template of a document stands in its text. -/
lemma exists_template_stands {syntaxTree : Text → Script.Tree} {text : Text} {template : Block}
    (h : (parseBy syntaxTree text).template = some template) :
    ∃ before opening closing after, template.Stands text before opening closing after := by
  obtain ⟨e, hfind, rfl⟩ := Option.map_eq_some_iff.mp h
  exact exists_stands (List.mem_of_find?_eq_some hfind)

lemma scripts_eq (text : Text) (elements : List Element) :
    scripts text elements = (elements.filter Element.isScript).map (Block.ofElement text) := rfl

/-- The first of the scripts that satisfies a condition, as an element of the scan. -/
lemma exists_scriptAt {text : Text} {test : Block → Bool} {block : Block}
    (h : (scripts text (scan text)).find? test = some block) :
    ∃ p tag closing rest found, ScriptAt text p tag closing rest found
      ∧ block = Block.ofElement text (.build p.bytes tag closing)
      ∧ (Element.build p.bytes tag closing).isScript = true ∧ test block = true
      ∧ ∀ e ∈ found, e.isScript = true → test (Block.ofElement text e) = false := by
  rw [scripts_eq, List.find?_map, List.find?_filter] at h
  obtain ⟨e, he, rfl⟩ := Option.map_eq_some_iff.mp h
  obtain ⟨htest, found, later, hscan, hbefore⟩ := List.find?_eq_some_iff_append.mp he
  obtain ⟨p, r, tag, closing, htext, hpasses, hread, rfl⟩ := exists_passes hscan
  obtain ⟨rest, rfl, -⟩ := Construct.element_text hread
  rw [Nat.zero_add] at *
  obtain ⟨hscript, htest⟩ : (Element.build p.bytes tag closing).isScript = true ∧ _ := by
    simpa using htest
  obtain ⟨hname, hself⟩ := Bool.and_eq_true_iff.mp hscript
  refine ⟨p, tag, closing, rest, found,
    ⟨htext, hpasses, hread, by simpa [Element.build] using hself, ?_⟩, rfl,
    hscript, htest, ?_⟩
  · rw [isRawText, rawTextElements, List.any_cons]
    exact Bool.or_eq_true_iff.mpr (.inl hname)
  · intro e' he' hscript'
    simpa [hscript'] using hbefore e' he'

/-- The first script that satisfies a condition, given where it stands in the scan. -/
lemma find?_scripts {text : Text} (test : Block → Bool) {found later : List Element} {e : Element}
    (hscan : scan text = found ++ e :: later) (he : e.isScript = true)
    (htest : test (Block.ofElement text e) = true)
    (hbefore : ∀ e ∈ found, e.isScript = true → test (Block.ofElement text e) = false) :
    (scripts text (scan text)).find? test = some (Block.ofElement text e) := by
  rw [scripts_eq, List.find?_map, List.find?_filter, Option.map_eq_some_iff]
  refine ⟨e, List.find?_eq_some_iff_append.mpr ⟨by simp [he, htest], found, later, hscan, ?_⟩, rfl⟩
  intro e' he'
  cases hscript : e'.isScript with
  | false => simp
  | true => simp [hbefore e' he' hscript]

end Document

end ComponentFile
