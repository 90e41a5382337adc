import Mathlib.Tactic
import ComponentFile.Editor.Placement
import ComponentFile.Proofs.Document.Blocks
import ComponentFile.Proofs.Text.Coordinates
import ComponentFile.Proofs.Text.LineList

/-!
Which line of a document decides whether an element can be written at a caret of the template.

* `deciding?` is the rule on the lines of the document: the first angle bracket behind the caret on
  its own line, or else the first one at the start of a line below. `Admits` adds that the caret
  stands strictly between the lines where the content begins and ends.
* `find?_fromColumn`, `opensNext_iff`: the two searches of the classifier find the same brackets.
* `interior_drop`: the lines that the classifier looks at are lines of the document, counted from
  the one where the content begins.
* `isValidInTemplate_shifted`: the classifier counts the caret's line from the start of the opening
  tag. So it follows the rule on the line that is as many lines below the caret as the opening tag
  has line feeds.
-/

namespace ComponentFile

open Text

/-- The number of line feeds in the opening tag of a block. -/
def Block.tagFeeds (block : Block) : Nat := block.contentSpan.start.line - block.span.start.line

namespace Placement

/-! ### The rule on the lines of a document -/

/-- The characters of a line with the columns at which they begin. -/
def columned : (column : Nat) → Text → List (Nat × Char)
  | _, [] => []
  | column, c :: cs => (column, c) :: columned (column + unitsOf c) cs

/-- The first angle bracket of a line that begins at a column or behind it. -/
def bracketFrom? (line : Text) (column : Nat) : Option Char :=
  ((columned 0 line).find? fun p => column ≤ p.1 && isBracket p.2).map (·.2)

/-- The angle bracket that a line begins with, behind its blanks. -/
def leadingBracket? (line : Text) : Option Char := (line.find? (!isBlank ·)).filter isBracket

/-- The angle bracket of a document that decides at a caret, where lines from the number `stop` on
do not count. If the line of the caret holds a bracket at all, it is the first one behind the caret;
otherwise the first one that a line below begins with. -/
def deciding? (text : Text) (caret : Caret) (stop : Nat) : Option Char :=
  let here := (text.lineText? caret.line).getD []
  if here.any isBracket then bracketFrom? here caret.column
  else ((text.lines.take stop).drop (caret.line + 1)).findSome? leadingBracket?

/-- Whether an element can be written at a caret of a document whose template has its content at the
given place: the caret is strictly between the first and the last line of the content, and no
closing bracket decides. -/
def Admits (text : Text) (content : Span) (caret : Caret) : Prop :=
  content.start.line < caret.line ∧ caret.line < content.stop.line
    ∧ deciding? text caret content.stop.line ≠ some '>'

instance (text : Text) (content : Span) (caret : Caret) : Decidable (Admits text content caret) :=
  inferInstanceAs (Decidable (_ ∧ _ ∧ _))

/-! ### The brackets of one line -/

lemma fromColumn_zero (line : Text) : fromColumn line 0 = line := by
  cases line <;> rfl

lemma fromColumn_cons {column : Nat} (h : column ≠ 0) (c : Char) (cs : Text) :
    fromColumn (c :: cs) column = fromColumn cs (column - unitsOf c) := by
  have hc := c.utf8Size_pos
  rw [fromColumn, unitIndex, if_neg h, Text.cut, if_neg (by omega), Nat.add_sub_cancel_left]
  rfl

/-- The first bracket of what is left of a line from a column on, where the line itself begins at
column `k`. -/
lemma find?_fromColumn_sub (line : Text) (k column : Nat) :
    (fromColumn line (column - k)).find? isBracket
      = ((columned k line).find? fun p => column ≤ p.1 && isBracket p.2).map (·.2) := by
  induction line generalizing k with
  | nil => rfl
  | cons c cs ih =>
      have hrest := ih (k + unitsOf c)
      rw [columned, List.find?_cons]
      by_cases hle : column ≤ k
      · -- everything from here on counts
        rw [Nat.sub_eq_zero_of_le (by omega), fromColumn_zero] at hrest
        rw [Nat.sub_eq_zero_of_le hle, fromColumn_zero, List.find?_cons, hrest]
        cases isBracket c <;> simp [hle]
      · rw [fromColumn_cons (by omega), Nat.sub_sub, hrest]
        simp [hle]

/-- The classifier finds the first bracket of a line from a column on. -/
lemma find?_fromColumn (line : Text) (column : Nat) :
    (fromColumn line column).find? isBracket = bracketFrom? line column :=
  find?_fromColumn_sub line 0 column

lemma opensFirst_iff (line : Text) (column : Nat) :
    opensFirst (fromColumn line column) = true ↔ bracketFrom? line column ≠ some '>' := by
  rw [opensFirst, find?_fromColumn, decide_eq_true_eq]

lemma lt_of_mem_columned {line : Text} {k : Nat} {p : Nat × Char} (h : p ∈ columned k line) :
    p.1 < k + line.units := by
  induction line generalizing k with
  | nil => simp [columned] at h
  | cons c cs ih =>
      have hc := unitsOf_pos c
      rw [units_cons]
      rcases List.mem_cons.mp h with rfl | h
      · exact Nat.lt_add_of_pos_right (by omega)
      · have := ih h
        omega

/-- Behind the end of a line there is no bracket. -/
lemma bracketFrom?_units (line : Text) : bracketFrom? line line.units = none := by
  rw [bracketFrom?, Option.map_eq_none_iff, List.find?_eq_none]
  rintro ⟨j, c⟩ hmem
  have := lt_of_mem_columned hmem
  simp
  omega

/-! ### The brackets of the lines below -/

lemma leadingBracket?_eq (line : Text) :
    leadingBracket? line = (trimStart line).head?.filter isBracket := by
  rw [leadingBracket?, trimStart, List.find?_not_eq_head?_dropWhile]

lemma opensNext_iff (lines : List Text) :
    opensNext lines = true ↔ lines.findSome? leadingBracket? ≠ some '>' := by
  induction lines with
  | nil => simp [opensNext]
  | cons line lines ih =>
      rw [opensNext, List.findSome?_cons, leadingBracket?_eq]
      cases h : trimStart line with
      | nil => simpa using ih
      | cons c cs =>
          by_cases hopens : c = '<'
          · subst hopens
            simp [Option.filter, isBracket]
          · by_cases hcloses : c = '>'
            · subst hcloses
              simp [Option.filter, isBracket]
            · simpa [Option.filter, isBracket, hopens, hcloses] using ih

/-! ### Lines of the content and lines of the document -/

section Lines

variable {text before opening closing after : Text} {template : Block}

lemma contentStart_line (h : template.Stands text before opening closing after) :
    template.contentSpan.start.line = (before ++ opening).count '\n'
      ∧ template.contentSpan.start.line = template.span.start.line + template.tagFeeds := by
  have hstart : template.span.start.line = before.count '\n' := by
    rw [h.start_eq, Position.after_line]
    exact Nat.zero_add _
  have hcontent : template.contentSpan.start.line = (before ++ opening).count '\n' := by
    rw [h.contentStart_eq, Position.after_line]
    exact Nat.zero_add _
  refine ⟨hcontent, ?_⟩
  rw [Block.tagFeeds, hcontent, hstart, List.count_append]
  omega

lemma contentStop_line (h : template.Stands text before opening closing after) :
    template.contentSpan.stop.line
      = template.contentSpan.start.line + template.content.count '\n' := by
  rw [(contentStart_line h).1, h.contentStop_eq, Position.after_line, List.count_append]
  exact Nat.zero_add _

/-- **The lines of the interior are lines of the document**, from the one behind the line where the
content begins up to the one before the line where it ends. -/
lemma interior_drop (h : template.Stands text before opening closing after) {line : Nat}
    (hline : template.contentSpan.start.line < line) :
    (interior template).drop (line - (template.contentSpan.start.line + 1))
      = (text.lines.take template.contentSpan.stop.line).drop line := by
  have hstop := contentStop_line h
  have hcount := (contentStart_line h).1
  refine List.ext_getElem? fun i => ?_
  rw [interior, List.getElem?_drop, List.getElem?_drop, List.getElem?_dropLast, List.getElem?_take,
    List.length_tail, length_lines, List.getElem?_tail]
  by_cases hi : line + i < template.contentSpan.stop.line
  · rw [if_pos (by omega), if_pos hi, h.text_eq, ← List.append_assoc]
    obtain ⟨j, hj⟩ : ∃ j, line + i = template.contentSpan.start.line + (j + 1) :=
      ⟨line + i - template.contentSpan.start.line - 1, by omega⟩
    rw [hj, hcount, getElem?_lines_append_right _ _ (Nat.succ_pos j),
      getElem?_lines_append_left _ _ (by omega)]
    congr 1
    omega
  · rw [if_neg (by omega), if_neg hi]

/-- On the lines of a document, the classifier follows the rule. -/
lemma isValidAt_iff {line stop : Nat} (hstop : stop ≤ text.count '\n') (column : Nat) :
    isValidAt column ((text.lines.take stop).drop line) = true
      ↔ line < stop ∧ deciding? text ⟨line, column⟩ stop ≠ some '>' := by
  by_cases hlt : line < stop
  · have hlength : line < (text.lines.take stop).length := by
      rw [List.length_take, length_lines]
      omega
    have hhere : text.lineText? line = some (text.lines.take stop)[line] := by
      rw [lineText?, List.getElem_take, List.getElem?_eq_getElem]
    rw [List.drop_eq_getElem_cons hlength, isValidAt, deciding?, hhere, Option.getD_some]
    by_cases hany : (text.lines.take stop)[line].any isBracket = true
    · simp only [if_pos hany, opensFirst_iff, hlt, true_and]
    · simp only [if_neg hany, opensNext_iff, hlt, true_and]
  · rw [List.drop_eq_nil_of_le (by rw [List.length_take]; omega)]
    simp [isValidAt, hlt]

/-- The classifier follows the rule on a line further below. -/
lemma isValidInTemplate_iff (h : template.Stands text before opening closing after)
    (caret : Caret) : isValidInTemplate caret template = true
      ↔ Admits text template.contentSpan ⟨caret.line + template.tagFeeds, caret.column⟩ := by
  obtain ⟨hcount, hfeeds⟩ := contentStart_line h
  have hstop : template.contentSpan.stop.line ≤ text.count '\n' := by
    rw [contentStop_line h, hcount, h.text_eq]
    simp only [List.count_append]
    omega
  rw [isValidInTemplate, Bool.and_eq_true, decide_eq_true_eq, Admits]
  by_cases hline : template.span.start.line < caret.line
  · have hbelow : template.contentSpan.start.line < caret.line + template.tagFeeds := by omega
    have hsub : caret.line - (template.span.start.line + 1)
        = caret.line + template.tagFeeds - (template.contentSpan.start.line + 1) := by omega
    rw [hsub, interior_drop h hbelow, isValidAt_iff hstop]
    simp only [hline, hbelow, true_and]
  · have hnot : ¬ template.contentSpan.start.line < caret.line + template.tagFeeds := by omega
    simp only [hline, hnot, false_and]

/-- Behind the end of the last line of the interior an element can always be written. -/
lemma admits_last (content : Span) (h : content.start.line + 1 < content.stop.line) :
    Admits text content ⟨content.stop.line - 1,
      (((text.lineText? (content.stop.line - 1)).getD []) : Text).units⟩ := by
  refine ⟨by show content.start.line < content.stop.line - 1; omega,
    by show content.stop.line - 1 < content.stop.line; omega, ?_⟩
  have hbelow : (text.lines.take content.stop.line).drop (content.stop.line - 1 + 1) = [] := by
    refine List.drop_eq_nil_of_le ?_
    rw [List.length_take]
    omega
  simp only [deciding?, bracketFrom?_units, hbelow, List.findSome?_nil]
  split <;> simp

end Lines

/-- **The classifier looks at a line below the caret's own one**, by as many lines as the opening
tag of the template has line feeds, and follows the rule there. It follows the rule on the caret's
own line for all carets exactly if the opening tag has no line feeds, or the content has no line of
its own at all. -/
theorem isValidInTemplate_shifted (text : Text) {template : Block}
    (h : (Document.parse text).template = some template) :
    (∀ caret, isValidInTemplate caret template = true
        ↔ Admits text template.contentSpan ⟨caret.line + template.tagFeeds, caret.column⟩)
      ∧ ((∀ caret, isValidInTemplate caret template = true
          ↔ Admits text template.contentSpan caret)
        ↔ template.tagFeeds = 0
          ∨ template.contentSpan.stop.line ≤ template.contentSpan.start.line + 1) := by
  obtain ⟨before, opening, closing, after, hstands⟩ := Document.exists_template_stands h
  refine ⟨isValidInTemplate_iff hstands, ?_, ?_⟩
  · intro hown
    by_contra hnot
    obtain ⟨hfeeds, hlines⟩ := not_or.mp hnot
    have hlast : Admits text template.contentSpan _ :=
      admits_last template.contentSpan (not_le.mp hlines)
    have hshifted := (isValidInTemplate_iff hstands _).mp ((hown _).mpr hlast)
    have hstop : template.contentSpan.stop.line - 1 + template.tagFeeds
      < template.contentSpan.stop.line := hshifted.2.1
    omega
  · rintro (hfeeds | hlines) caret
    · rw [isValidInTemplate_iff hstands, hfeeds]
      rfl
    · rw [isValidInTemplate_iff hstands]
      have hnone : ∀ caret, ¬ Admits text template.contentSpan caret := by
        rintro caret ⟨hstart, hstop, -⟩
        omega
      exact iff_of_false (hnone _) (hnone caret)

/-- `isValidInTemplate_shifted` where the opening tag takes two lines: on the second line of the tag
the classifier answers for the line below, and on the only line of the content it refuses, although
an element could be written there. -/
theorem isValidInTemplate_shifted_twoLineTag :
    let text : Text := "é\n<template\n  lang=\"html\">\n😀<p>\n</template>".toList
    ∃ template, (Document.parse text).template = some template ∧ template.tagFeeds = 1
      ∧ isValidInTemplate ⟨2, 2⟩ template = true ∧ ¬ Admits text template.contentSpan ⟨2, 2⟩
      ∧ isValidInTemplate ⟨3, 2⟩ template = false ∧ Admits text template.contentSpan ⟨3, 2⟩ := by
  intro text
  have hrule : (Document.parse text).template.any (fun template => template.tagFeeds = 1
      ∧ ¬ Admits text template.contentSpan ⟨2, 2⟩ ∧ Admits text template.contentSpan ⟨3, 2⟩
      ∧ ¬ Admits text template.contentSpan ⟨4, 2⟩) = true := by decide +kernel
  obtain ⟨template, htemplate, hfacts⟩ := (Option.any_eq_true _ _).mp hrule
  obtain ⟨hfeeds, htag, hown, hbelow⟩ := of_decide_eq_true hfacts
  obtain ⟨hshifted, -⟩ := isValidInTemplate_shifted text htemplate
  rw [hfeeds] at hshifted
  exact ⟨template, htemplate, hfeeds, (hshifted ⟨2, 2⟩).mpr hown, htag,
    Bool.eq_false_iff.mpr fun hvalid => hbelow ((hshifted ⟨3, 2⟩).mp hvalid), hown⟩

end Placement

end ComponentFile
