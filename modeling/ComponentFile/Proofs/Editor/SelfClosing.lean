import Mathlib.Data.List.TakeWhile
import Mathlib.Tactic
import ComponentFile.Editor.QuickFix
import ComponentFile.Proofs.Text.Runs

/-!
What the fix that makes an element self-closing does with its line.

An `EmptyElement` is a line that begins with an element without content, in parts, and
`EmptyElement.line` puts the parts together. A proper one is determined by its line
(`EmptyElement.Proper.unique`): every part but the last one is a run of characters.

The fix is offered on lines of proper elements only (`exists_emptyElement`). It writes the element
anew and leaves out what stands behind it: `selfClosing_dropsRest`.
-/

namespace ComponentFile

open Text

namespace QuickFix

/-! ### Elements without content -/

/-- The parts of a line that begins with an element without content. -/
structure EmptyElement where
  /-- The blanks before the element. -/
  indentation : Text
  /-- The name, as it stands in both tags. -/
  name : Text
  /-- What stands in the opening tag behind the name. -/
  attributes : Text
  /-- The blanks in the close tag. -/
  blanks : Text
  /-- What stands behind the element. -/
  rest : Text
  deriving DecidableEq

namespace EmptyElement

/-- The line that the parts make. -/
def line (e : EmptyElement) : Text :=
  e.indentation ++ '<' :: (e.name ++ (e.attributes ++ ("></".toList
    ++ (e.name ++ (e.blanks ++ '>' :: e.rest)))))

/-- The element in self-closing form, indented as before. -/
def shortened (e : EmptyElement) : Text :=
  e.indentation ++ '<' :: (e.name ++ (trimEnd e.attributes ++ " />".toList))

/-- The parts are what they are called: blanks are blank, the name has neither blanks nor a closing
bracket, and the attributes have no closing bracket and are set off from the name by a blank. -/
structure Proper (e : EmptyElement) : Prop where
  indentation : ∀ c ∈ e.indentation, isBlank c = true
  name_ne : e.name ≠ []
  name : ∀ c ∈ e.name, isCloserChar c = true
  setOff : ∀ c, e.attributes.head? = some c → isBlank c = true
  attributes : ∀ c ∈ e.attributes, (c != '>') = true
  blanks : ∀ c ∈ e.blanks, isBlank c = true

/-- The parts of a line are determined by it. -/
lemma Proper.unique {e e' : EmptyElement} (h : e.Proper) (h' : e'.Proper)
    (hline : e.line = e'.line) : e = e' := by
  obtain ⟨hindent, htag⟩ := run_inj h.indentation (stopsAt_cons (by decide) _) h'.indentation
    (stopsAt_cons (by decide) _) hline
  have hstops : ∀ {e : EmptyElement}, e.Proper → ∀ t,
      StopsAt isCloserChar (e.attributes ++ ("></".toList ++ t)) := by
    intro e he t c hc
    cases hattributes : e.attributes with
    | nil =>
        obtain rfl : '>' = c := by simpa [hattributes] using hc
        decide
    | cons d ds =>
        obtain rfl : d = c := by simpa [hattributes] using hc
        simp [isCloserChar, he.setOff d (by simp [hattributes])]
  obtain ⟨hname, hbehind⟩ :=
    run_inj h.name (hstops h _) h'.name (hstops h' _) (List.cons.inj htag).2
  obtain ⟨hattributes, hclose⟩ := run_inj h.attributes (stopsAt_cons (by decide) _) h'.attributes
    (stopsAt_cons (by decide) _) hbehind
  have hclose : e.name ++ (e.blanks ++ '>' :: e.rest)
      = e'.name ++ (e'.blanks ++ '>' :: e'.rest) := by simpa using hclose
  rw [hname] at hclose
  obtain ⟨hblanks, hrest⟩ := run_inj h.blanks (stopsAt_cons (by decide) _) h'.blanks
    (stopsAt_cons (by decide) _) (List.append_cancel_left hclose)
  obtain ⟨indentation, name, attributes, blanks, rest⟩ := e
  obtain ⟨indentation', name', attributes', blanks', rest'⟩ := e'
  simp only [EmptyElement.mk.injEq]
  exact ⟨hindent, hname, hattributes, hblanks, (List.cons.inj hrest).2⟩

end EmptyElement

/-! ### Reading a line -/

lemma after?_eq_some {word text rest : Text} :
    after? word text = some rest ↔ text = word ++ rest := by
  rw [after?]
  split_ifs with hword
  · obtain ⟨t, rfl⟩ := List.isPrefixOf_iff_prefix.mp hword
    simp
  · simp only [false_iff]
    rintro rfl
    exact hword (List.isPrefixOf_iff_prefix.mpr (List.prefix_append word rest))

lemma readCloser?_eq_some {text closer rest : Text} (h : readCloser? text = some (closer, rest)) :
    closer ≠ [] ∧ (∀ c ∈ closer, isCloserChar c = true)
      ∧ ∃ blanks, (∀ c ∈ blanks, isBlank c = true) ∧ text = closer ++ (blanks ++ '>' :: rest) := by
  simp only [readCloser?] at h
  split_ifs at h with hempty
  cases htrim : trimStart (text.dropWhile isCloserChar) with
  | nil => simp [htrim] at h
  | cons c cs =>
      by_cases hc : c = '>'
      · subst hc
        obtain ⟨rfl, rfl⟩ : text.takeWhile isCloserChar = closer ∧ cs = rest := by
          simpa [htrim] using h
        refine ⟨by simpa using hempty, fun c hc => List.mem_takeWhile_imp hc,
          (text.dropWhile isCloserChar).takeWhile isBlank, fun c hc => List.mem_takeWhile_imp hc,
          ?_⟩
        rw [← htrim, trimStart, List.takeWhile_append_dropWhile, List.takeWhile_append_dropWhile]
      · simp [htrim, hc] at h

lemma blankRun_append_drop (text : Text) :
    blankRun text ++ text.drop (blankRun text).length = text := by
  cases text with
  | nil => rfl
  | cons c cs =>
      rw [blankRun]
      split_ifs
      · rw [List.length_cons, List.drop_succ_cons, List.cons_append]
        congr 1
        exact List.prefix_iff_eq_append.mp (List.takeWhile_prefix _)
      · rfl

lemma blankRun_spec (text : Text) : (∀ c, (blankRun text).head? = some c → isBlank c = true)
    ∧ ∀ c ∈ blankRun text, (c != '>') = true := by
  cases text with
  | nil => simp [blankRun]
  | cons c cs =>
      rw [blankRun]
      split_ifs with hblank
      · refine ⟨by simpa using hblank, fun d hd => ?_⟩
        rcases List.mem_cons.mp hd with rfl | hd
        · rw [bne_iff_ne]
          rintro rfl
          exact absurd hblank (by decide)
        · exact List.mem_takeWhile_imp (p := (· != '>')) hd
      · simp

lemma readEmptyElement?_eq_some {name text attributes closer : Text}
    (h : readEmptyElement? name text = some (attributes, closer)) :
    (∀ c, attributes.head? = some c → isBlank c = true) ∧ (∀ c ∈ attributes, (c != '>') = true)
      ∧ closer ≠ [] ∧ (∀ c ∈ closer, isCloserChar c = true)
      ∧ ∃ blanks rest, (∀ c ∈ blanks, isBlank c = true)
        ∧ text = name ++ (attributes ++ ("></".toList ++ (closer ++ (blanks ++ '>' :: rest)))) := by
  obtain ⟨behind, hname, h⟩ := Option.bind_eq_some_iff.mp h
  obtain ⟨inner, hclose, h⟩ := Option.bind_eq_some_iff.mp h
  obtain ⟨⟨closer', rest⟩, hread, h⟩ := Option.bind_eq_some_iff.mp h
  obtain ⟨rfl, rfl⟩ := Prod.mk.inj (Option.some.inj h)
  obtain ⟨hne, hchars, blanks, hblanks, rfl⟩ := readCloser?_eq_some hread
  obtain ⟨hsetOff, hrun⟩ := blankRun_spec behind
  refine ⟨hsetOff, hrun, hne, hchars, blanks, rest, hblanks, ?_⟩
  rw [after?_eq_some.mp hname, ← after?_eq_some.mp hclose, blankRun_append_drop]

/-- The fix is offered on lines that begin with an element without content. -/
lemma exists_emptyElement {line replacement : Text} {components : List Text}
    (h : selfClosingFix? line components = some replacement) :
    ∃ e : EmptyElement, e.Proper ∧ e.name ∈ "component".toList :: components ∧ e.line = line
      ∧ replacement = e.shortened := by
  simp only [selfClosingFix?] at h
  cases htag : line.dropWhile isBlank with
  | nil => simp [htag] at h
  | cons c text =>
      by_cases hc : c = '<'
      · subst hc
        simp only [htag, Option.bind_eq_bind, Option.bind_eq_some_iff, Prod.exists] at h
        obtain ⟨name, attributes, closer, hfound, h⟩ := h
        split_ifs at h with hcloser
        subst hcloser
        obtain ⟨name, hmem, hmap⟩ := List.exists_of_findSome?_eq_some hfound
        obtain ⟨⟨attributes, closer⟩, hread, heq⟩ := Option.map_eq_some_iff.mp hmap
        obtain ⟨rfl, heq⟩ := Prod.mk.inj heq
        obtain ⟨rfl, rfl⟩ := Prod.mk.inj heq
        obtain ⟨hsetOff, hrun, hne, hchars, blanks, rest, hblanks, rfl⟩ :=
          readEmptyElement?_eq_some hread
        refine ⟨⟨line.takeWhile isBlank, closer, attributes, blanks, rest⟩,
          ⟨fun c hc => List.mem_takeWhile_imp hc, hne, hchars, hsetOff, hrun, hblanks⟩,
          (List.mem_filter.mp hmem).1, ?_, ?_⟩
        · rw [EmptyElement.line, ← htag, List.takeWhile_append_dropWhile]
        · simpa [EmptyElement.shortened] using (Option.some.inj h).symm
      · simp [htag, hc] at h

/-- What is offered under each title. -/
lemma mem_quickFixes {line : Text} {components : List Text} {fix : QuickFix} :
    fix ∈ quickFixes line components
      ↔ (fix.title = "Format as self-closing".toList
          ∧ selfClosingFix? (withoutReturns line) components = some fix.replacement)
        ∨ (fix.title = "Format as multi-line".toList
          ∧ multiLineFix? (withoutReturns line) components = some fix.replacement) := by
  obtain ⟨title, replacement⟩ := fix
  rw [quickFixes, List.mem_append, Option.mem_toList, Option.mem_toList]
  simp only [Option.map_eq_some_iff, QuickFix.mk.injEq]
  constructor
  · rintro (⟨_, hself, rfl, rfl⟩ | ⟨_, hmulti, rfl, rfl⟩)
    · exact .inl ⟨rfl, hself⟩
    · exact .inr ⟨rfl, hmulti⟩
  · rintro (⟨rfl, hself⟩ | ⟨rfl, hmulti⟩)
    · exact .inl ⟨_, hself, rfl, rfl⟩
    · exact .inr ⟨_, hmulti, rfl, rfl⟩

end QuickFix

/-- **The self-closing fix drops what stands behind the element.** It is offered on lines that begin
with an element without content, of the name `component` or the name of a component, and these parts
of the line are determined. The line is replaced by the element in self-closing form alone, so the
rest of the line is kept exactly if there is none. -/
theorem selfClosing_dropsRest {line : Text} {components : List Text} {fix : QuickFix}
    (hfix : fix ∈ quickFixes line components)
    (htitle : fix.title = "Format as self-closing".toList) :
    ∃ e : QuickFix.EmptyElement, e.Proper ∧ e.name ∈ "component".toList :: components
      ∧ e.line = QuickFix.withoutReturns line
      ∧ (∀ e' : QuickFix.EmptyElement, e'.Proper → e'.line = QuickFix.withoutReturns line → e' = e)
      ∧ fix.replacement = e.shortened
      ∧ (fix.replacement = e.shortened ++ e.rest ↔ e.rest = []) := by
  rcases QuickFix.mem_quickFixes.mp hfix with ⟨-, hself⟩ | ⟨hother, -⟩
  · obtain ⟨e, hproper, hmem, hline, hshortened⟩ := QuickFix.exists_emptyElement hself
    refine ⟨e, hproper, hmem, hline, ?_, hshortened, ?_⟩
    · exact fun e' hproper' hline' => hproper'.unique hproper (hline'.trans hline.symm)
    · simp [hshortened]
  · exact absurd (htitle.symm.trans hother) (by decide)

/-- `selfClosing_dropsRest` where the name of one component begins that of another one, an attribute
ends with blanks, and text and a carriage return follow. -/
theorem selfClosing_dropsRest_text :
    let line : Text := "\t<FooBar a='<é' ></FooBar\u3000> 😀</p>\r".toList
    let components : List Text := ["Foo".toList, "FooBar".toList]
    let fix : QuickFix := ⟨"Format as self-closing".toList, "\t<FooBar a='<é' />".toList⟩
    fix ∈ quickFixes line components
      ∧ ∃ e : QuickFix.EmptyElement, e.line = QuickFix.withoutReturns line
        ∧ e.rest = " 😀</p>".toList ∧ fix.replacement ≠ e.shortened ++ e.rest := by
  intro line components fix
  have hfix : fix ∈ quickFixes line components := by decide +kernel
  obtain ⟨e, -, -, hline, hunique, -, hdrops⟩ := selfClosing_dropsRest hfix rfl
  let parts : QuickFix.EmptyElement :=
    ⟨"\t".toList, "FooBar".toList, " a='<é' ".toList, "\u3000".toList, " 😀</p>".toList⟩
  have hsetOff : ∀ c, parts.attributes.head? = some c → isBlank c = true := by
    rintro c ⟨⟩
    decide
  have hproper : parts.Proper :=
    ⟨by decide, by decide, by decide, hsetOff, by decide, by decide⟩
  obtain rfl : parts = e := hunique parts hproper (by decide +kernel)
  exact ⟨hfix, parts, hline, rfl, fun hkept => absurd (hdrops.mp hkept) (by decide)⟩

end ComponentFile
