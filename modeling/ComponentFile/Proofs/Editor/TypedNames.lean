import Mathlib.Tactic
import ComponentFile.Proofs.Document.Blocks
import ComponentFile.Proofs.Editor.LongestName
import ComponentFile.Proofs.Text.Coordinates

/-!
What a detected component has to do with the template.

Detection reads the texts of the changes and takes their lines for lines of the text after all of
them. So a name that is detected was typed, but it need not be in the template: another change of
the batch may have erased it again (`not_forall_detected_occurs`).

* `Stays`: what a change has put in is still on its line, and the template does not close in it.
  `stands_of_prefix`: it is if all up to its end has remained.
* `Stays.infix_content`: then it lies in the content, because its lines are between those of the
  tags.
* `detect?_typed`: what holds of every detected component.
-/

namespace ComponentFile

open Text

/-- The text before a caret. -/
def Text.upTo (text : Text) (caret : Caret) : Text :=
  (text.cut (text.offset caret.line caret.column)).1

/-- The text after several changes, one after the other. -/
def Change.applyAll (changes : List Change) (text : Text) : Text :=
  changes.foldl (fun text change => change.apply text) text

/-- A caret on a line that exists stands on that line. -/
lemma upTo_line {text : Text} {caret : Caret} (h : caret.line ≤ text.count '\n') :
    (Position.origin.after (text.upTo caret)).line = caret.line := by
  obtain ⟨s, t, htext, hbytes⟩ := isBoundary_offset text caret.line caret.column
  obtain ⟨before, l, after, hat⟩ := exists_lineAt h
  obtain ⟨a, b, -, hpoint, -⟩ := hat.position_eq caret.column
  have hup : text.upTo caret = s := by
    rw [Text.upTo, ← hbytes, htext, cut_append]
  rw [← hbytes, htext, position_append] at hpoint
  rw [hup, hpoint]

namespace Detection

/-- What was typed between two carets still stands on the line of the first one in the text `new`.
The template of `new`, whose tags take a line each, does not close inside it, and the range does not
end above its beginning. -/
structure Stays (template : Block) (new : Text) (start stop : Caret) (typed : Text) : Prop where
  opening : template.contentSpan.start.line = template.span.start.line
  closing : template.contentSpan.stop.line = template.span.stop.line
  line_le : start.line ≤ stop.line
  stands : ∃ u v, new = u ++ typed ++ v ∧ u.count '\n' = start.line
    ∧ (template.contentSpan.stop.offset < u.bytes
      ∨ (u ++ typed).bytes ≤ template.contentSpan.stop.offset)

/-- **What has stayed between the lines of the tags lies in the content.** -/
lemma Stays.infix_content {template : Block} {new before opening closing after : Text}
    {start stop : Caret} {typed : Text} (h : Stays template new start stop typed)
    (hstands : template.Stands new before opening closing after)
    (hfirst : template.span.start.line < start.line)
    (hlast : stop.line < template.span.stop.line) : typed <:+: template.content := by
  obtain ⟨u, rest, hnew, hcount, hcloses⟩ := h.stands
  have hline : (Position.origin.after u).line = start.line := by
    rw [Position.after_line, hcount]
    simp [Position.origin]
  have hpoint : new.HasPoint (Position.origin.after u) := ⟨u, typed ++ rest, by simp [hnew], rfl⟩
  have hopen : new.HasPoint template.contentSpan.start :=
    ⟨before ++ opening, template.content ++ (closing ++ after), by simp [hstands.text_eq],
      hstands.contentStart_eq⟩
  have hclose : new.HasPoint template.contentSpan.stop :=
    ⟨before ++ opening ++ template.content, closing ++ after, by simp [hstands.text_eq],
      hstands.contentStop_eq⟩
  have hoffset := Position.origin_after_offset u
  -- the content begins at or before what was typed
  have hstart : (before ++ opening).bytes ≤ u.bytes := by
    rw [← Position.origin_after_offset (before ++ opening), ← hstands.contentStart_eq]
    by_contra hlt
    have := hpoint.line_mono hopen (by omega)
    have := h.opening
    omega
  -- and ends behind its beginning, so behind its end
  have hstop : (u ++ typed).bytes ≤ (before ++ opening ++ template.content).bytes := by
    rw [← Position.origin_after_offset (before ++ opening ++ template.content),
      ← hstands.contentStop_eq]
    refine hcloses.resolve_left fun hlt : template.contentSpan.stop.offset < u.bytes => ?_
    have := hclose.line_mono hpoint (by omega)
    have := h.closing
    have := h.line_le
    omega
  have htext : u ++ (typed ++ rest)
      = before ++ (opening ++ (template.content ++ (closing ++ after))) := by
    rw [← hstands.text_eq, hnew, List.append_assoc]
  have hfront : before ++ opening ++ (template.content ++ (closing ++ after))
      = u ++ (typed ++ rest) := by simp [htext]
  have hback : u ++ typed ++ rest
      = before ++ opening ++ template.content ++ (closing ++ after) := by simp [htext]
  obtain ⟨m, hm, -⟩ := split_of_bytes_le hfront hstart
  obtain ⟨m', hm', -⟩ := split_of_bytes_le hback hstop
  have hcontent : before ++ opening ++ (m ++ typed ++ m')
      = before ++ opening ++ template.content := by
    rw [hm', hm]
    simp
  exact ⟨m, m', List.append_cancel_left hcontent⟩

/-- What was typed stays on its line if all up to its end has remained. -/
lemma stands_of_prefix {old new typed : Text} {start : Caret} (hline : start.line ≤ old.count '\n')
    (hkept : old.upTo start ++ typed <+: new) :
    ∃ v, new = old.upTo start ++ typed ++ v ∧ (old.upTo start).count '\n' = start.line := by
  obtain ⟨rest, rfl⟩ := hkept
  refine ⟨rest, rfl, ?_⟩
  simpa [Position.after_line, Position.origin] using upTo_line hline

/-- What detection in a template has found. -/
lemma typedIn?_eq_some {template : Block} {changes : List TypedText} {components : List Component}
    {component : Component} (h : typedIn? template changes components = some component) :
    component ∈ components ∧ component.name ≠ [] ∧ ∃ change ∈ changes,
      component.name <:+: change.text ∧ template.span.start.line < change.firstLine
        ∧ change.lastLine < template.span.stop.line := by
  obtain ⟨change, hchange, h⟩ := Option.bind_eq_some_iff.mp h
  obtain ⟨name, hname, h⟩ := Option.bind_eq_some_iff.mp h
  obtain rfl : component.name = name :=
    of_decide_eq_true (List.find?_some (p := fun c : Component => decide (c.name = name)) h)
  obtain ⟨place, -, hargmax⟩ := Option.bind_eq_some_iff.mp hname
  obtain ⟨hmem, hoccurs⟩ := List.mem_filter.mp (List.argmax_mem hargmax)
  obtain ⟨hfirst, hlast, -⟩ := of_decide_eq_true
    (List.find?_some (p := (Touches template (namesOf components) ·)) hchange)
  refine ⟨List.mem_of_find?_eq_some h, ne_nil_of_mem_namesOf _ hmem, change,
    List.mem_of_find?_eq_some hchange, ?_, hfirst, hlast⟩
  exact (List.isPrefixOf_iff_prefix.mp hoccurs).isInfix.trans (List.drop_suffix _ _).isInfix

/-- **A detected component was typed**, in a change whose lines lie strictly between the first and
the last line of the template. If any change between these lines holds the name and has stayed, the
name occurs in the content of the template. -/
theorem detect?_typed {initial : Text} {changes : List Change} {components : List Component}
    {component : Component}
    (h : detect? (Change.applyAll changes initial) (changes.filterMap TypedText.ofChange?)
      components = some component) :
    component ∈ components ∧ component.name ≠ []
      ∧ ∃ template, (Document.parse (Change.applyAll changes initial)).template = some template
        ∧ (∃ change ∈ changes, ∃ start stop, change.range = some (start, stop)
          ∧ component.name <:+: change.text
          ∧ template.span.start.line < start.line ∧ stop.line < template.span.stop.line)
        ∧ ∀ change ∈ changes, ∀ start stop, change.range = some (start, stop) →
          component.name <:+: change.text →
          template.span.start.line < start.line → stop.line < template.span.stop.line →
          Stays template (Change.applyAll changes initial) start stop change.text →
          component.name <:+: template.content := by
  obtain ⟨template, htemplate, h⟩ := Option.bind_eq_some_iff.mp h
  rw [detectIn?_eq_typedIn?] at h
  obtain ⟨hmem, hne, typed, htyped, hoccurs, hfirst, hlast⟩ := typedIn?_eq_some h
  obtain ⟨change, hchange, hread⟩ := List.mem_filterMap.mp htyped
  obtain ⟨⟨start, stop⟩, hrange, rfl⟩ := Option.map_eq_some_iff.mp hread
  obtain ⟨before, opening, closing, after, hstands⟩ := Document.exists_template_stands htemplate
  refine ⟨hmem, hne, template, htemplate,
    ⟨change, hchange, start, stop, hrange, hoccurs, hfirst, hlast⟩, ?_⟩
  intro other _ start stop _ hoccurs hfirst hlast hstays
  exact hoccurs.trans (hstays.infix_content hstands hfirst hlast)

/-- `detect?_typed` for two changes of which the first one types an element, with a close tag of its
own, and the second one is made behind it. -/
theorem detect?_typed_above :
    let initial : Text := "é\n<template>\n😀\n</template>".toList
    let first : Change := ⟨some (⟨2, 2⟩, ⟨2, 2⟩), "<Foo>\n</Foo>".toList⟩
    let changes : List Change := [first, ⟨some (⟨3, 6⟩, ⟨4, 0⟩), "!\n".toList⟩]
    let new : Text := "é\n<template>\n😀<Foo>\n</Foo>!\n</template>".toList
    let component : Component := ⟨"Foo".toList, "@/Foo.vue".toList⟩
    Change.applyAll changes initial = new
      ∧ detect? (Change.applyAll changes initial) (changes.filterMap TypedText.ofChange?)
        [component] = some component
      ∧ ∃ template, (Document.parse (Change.applyAll changes initial)).template = some template
        ∧ Stays template (Change.applyAll changes initial) ⟨2, 2⟩ ⟨2, 2⟩ first.text
        ∧ component.name <:+: template.content := by
  intro initial first changes new component
  have hnew : Change.applyAll changes initial = new := by decide +kernel
  have hdetect : detect? (Change.applyAll changes initial)
      (changes.filterMap TypedText.ofChange?) [component] = some component := by decide +kernel
  obtain ⟨-, -, template, htemplate, -, hcontent⟩ := detect?_typed hdetect
  have hplace : (Document.parse (Change.applyAll changes initial)).template.all (fun template =>
      template.contentSpan.start.line = template.span.start.line
        ∧ template.contentSpan.stop.line = template.span.stop.line
        ∧ template.span.start.line < 2 ∧ 2 < template.span.stop.line
        ∧ (initial.upTo ⟨2, 2⟩ ++ first.text).bytes ≤ template.contentSpan.stop.offset) = true := by
    decide +kernel
  rw [htemplate] at hplace
  obtain ⟨hopening, hclosing, hfirst, hlast, hcloses⟩ := of_decide_eq_true hplace
  obtain ⟨rest, hrest, hcount⟩ : ∃ rest, Change.applyAll changes initial
      = initial.upTo ⟨2, 2⟩ ++ first.text ++ rest ∧ (initial.upTo ⟨2, 2⟩).count '\n' = 2 :=
    stands_of_prefix (by decide) (by decide +kernel)
  have hstays : Stays template (Change.applyAll changes initial) ⟨2, 2⟩ ⟨2, 2⟩ first.text :=
    ⟨hopening, hclosing, le_rfl, _, rest, hrest, hcount, .inr hcloses⟩
  exact ⟨hnew, hdetect, template, htemplate, hstays,
    hcontent first List.mem_cons_self _ _ rfl (by decide) hfirst hlast hstays⟩

/-- **A detected component need not be in the template**: one change types it, and the next one
erases it again. -/
theorem not_forall_detected_occurs :
    ¬ ∀ (initial : Text) (changes : List Change) (components : List Component)
      (component : Component), (∀ change ∈ changes, change.range.isSome = true) →
      detect? (Change.applyAll changes initial) (changes.filterMap TypedText.ofChange?) components
        = some component →
      ∃ template, (Document.parse (Change.applyAll changes initial)).template = some template
        ∧ component.name <:+: template.content := by
  intro hall
  let initial : Text := "<template>\n\n</template>".toList
  let changes : List Change := [⟨some (⟨1, 0⟩, ⟨1, 0⟩), "<Foo />".toList⟩,
    ⟨some (⟨1, 0⟩, ⟨1, 7⟩), []⟩]
  let component : Component := ⟨"Foo".toList, "@/Foo.vue".toList⟩
  obtain ⟨template, htemplate, hoccurs⟩ := hall initial changes [component] component (by decide)
    (by decide +kernel)
  have hnone : (Document.parse (Change.applyAll changes initial)).template.all
      (fun template => ¬ component.name <:+: template.content) = true := by decide +kernel
  rw [htemplate] at hnone
  exact of_decide_eq_true hnone hoccurs

end Detection

end ComponentFile
