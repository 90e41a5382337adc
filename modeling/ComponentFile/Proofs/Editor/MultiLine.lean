import Mathlib.Tactic
import ComponentFile.Proofs.Editor.SelfClosing
import ComponentFile.Proofs.Markup.WrittenAttribute
import ComponentFile.Proofs.Text.LineList

/-!
What the fix that spreads an element over several lines does with its attributes.

An `AttributedElement` is a line with one element and attributes, in parts. `line` puts the parts
together, and `spread` is the same element with each attribute on a line of its own and every value
in double quotes.

* `attributeRests_render`, `readValue_behindName`: both readers of the fix take a written attribute
  whole, if nothing that could belong to it follows (`EndsAttribute`).
* `search_renderWritten`: by induction on the attributes, the search never goes back on a choice.
* `multiLineFix?_line`: the fix answers with `spread`.

A value in single quotes can hold a double quote, which then ends the value in double quotes too
early. So the attributes are kept exactly if no value holds one: `multiLine_keepsElement_iff`.
-/

namespace ComponentFile

open Text Markup

namespace QuickFix

/-! ### Elements with attributes -/

/-- The text of an ending. -/
def Ending.render : Ending → Text
  | .opened => ">".toList
  | .selfClosed => " />".toList
  | .closed content closer => '>' :: (content ++ ("</".toList ++ (closer ++ ['>'])))

/-- The lines of an ending, not yet indented. -/
def Ending.lines : Ending → List Text
  | .opened => [">".toList]
  | .selfClosed => ["/>".toList]
  | .closed content closer =>
    [">".toList, '\t' :: content, "</".toList ++ (closer ++ ['>'])]

/-- The close tag bears the name of the element, and the content is text on one line. -/
def Ending.Proper (name : Text) : Ending → Prop
  | .closed content closer => closer = name ∧ '<' ∉ content ∧ '\n' ∉ content
  | _ => True

instance (name : Text) : ∀ ending : Ending, Decidable (ending.Proper name)
  | .opened => isTrue trivial
  | .selfClosed => isTrue trivial
  | .closed content closer =>
    inferInstanceAs (Decidable (closer = name ∧ '<' ∉ content ∧ '\n' ∉ content))

/-- An attribute that the fix takes whole: it is set off by a blank, and nothing in it ends the tag
or the line. -/
@[mk_iff]
structure IsSeparate (a : WrittenAttribute) : Prop extends a.WellFormed where
  setOff : a.blanks ≠ []
  marks : '/' ∉ a.name ∧ '>' ∉ a.name
  bare : ∀ s ∈ a.assignment, s.quoting = .unquoted → '>' ∉ s.value
  oneLine : ∀ s ∈ a.assignment, '\n' ∉ s.value

instance (a : WrittenAttribute) : Decidable (IsSeparate a) :=
  decidable_of_iff _ (isSeparate_iff a).symm

/-- The parts of a line with an element that has attributes. -/
structure AttributedElement where
  /-- The blanks before the element. -/
  indentation : Text
  /-- The name. -/
  name : Text
  /-- The attributes. -/
  attributes : List WrittenAttribute
  /-- What follows the attributes. -/
  ending : Ending
  deriving DecidableEq

/-- An attribute, with an empty value counted as none. -/
def withoutEmpty (a : Attribute) : Attribute := ⟨a.name, a.value.filter (!·.isEmpty)⟩

namespace AttributedElement

/-- The line that the parts make. -/
def line (e : AttributedElement) : Text :=
  e.indentation ++ '<' :: (e.name ++ (renderWritten e.attributes ++ e.ending.render))

/-- What the attributes say. -/
def content (e : AttributedElement) : List Attribute :=
  e.attributes.map fun a => withoutEmpty a.toAttribute

/-- The attributes on lines of their own, up to the end of the tag. -/
def spreadAttributes (e : AttributedElement) : Text :=
  renderWritten (e.content.map (Attribute.written ('\n' :: (e.indentation ++ ['\t']))))
    ++ '\n' :: e.indentation

/-- The element with its attributes on lines of their own. -/
def spread (e : AttributedElement) : Text :=
  e.indentation ++ '<' :: (e.name ++ (e.spreadAttributes
    ++ join ('\n' :: e.indentation) e.ending.lines))

/-- The parts are what they are called, the element is one on offer, and it has attributes. -/
structure Proper (components : List Text) (e : AttributedElement) : Prop where
  indentation : ∀ c ∈ e.indentation, isBlank c = true
  name_ne : e.name ≠ []
  name : e.name ∈ formattableElements ++ components
  attributes_ne : e.attributes ≠ []
  attributes : ∀ a ∈ e.attributes, IsSeparate a
  ending : e.ending.Proper e.name

end AttributedElement

/-! ### Reading one attribute -/

/-- A text that no attribute before it goes on into. -/
structure EndsAttribute (t : Text) : Prop where
  bare : StopsAt isBareChar t
  equals : StopsAt (· = '=') (trimStart t)

lemma isBareChar_of_blank {c : Char} (h : isBlank c = true) : isBareChar c = false := by
  simp [isBareChar, h]

lemma isKeyChar_of_blank {c : Char} (h : isBlank c = true) : isKeyChar c = false := by
  simp [isKeyChar, h]

lemma EndsAttribute.key {t : Text} (h : EndsAttribute t) : StopsAt isKeyChar t := by
  intro c hc
  have hbare := h.bare c hc
  simp only [isBareChar, Bool.not_eq_false', Bool.or_eq_true, decide_eq_true_eq] at hbare
  rcases hbare with hblank | rfl
  · exact isKeyChar_of_blank hblank
  · decide

lemma EndsAttribute.afterEquals? {t : Text} (h : EndsAttribute t) : afterEquals? t = none := by
  rw [QuickFix.afterEquals?]
  cases htrim : trimStart t with
  | nil => rfl
  | cons c cs =>
      have hc : c ≠ '=' := by simpa using h.equals c (by simp [htrim])
      simp [hc]

lemma endsAttribute_nil : EndsAttribute [] := ⟨by simp [StopsAt], by simp [StopsAt, trimStart]⟩

lemma endsAttribute_renderWritten {attributes : List WrittenAttribute}
    (h : ∀ a ∈ attributes, IsSeparate a) {t : Text} (ht : EndsAttribute t) :
    EndsAttribute (renderWritten attributes ++ t) :=
  ⟨stopsAt_renderWritten (fun a ha => (h a ha).toNamed) (fun a ha => (h a ha).setOff)
      (fun _ => isBareChar_of_blank) ht.bare,
    stopsAt_trimStart_renderWritten (fun a ha => (h a ha).toNamed) ht.equals⟩

lemma IsSeparate.key {a : WrittenAttribute} (h : IsSeparate a) :
    ∀ c ∈ a.name, isKeyChar c = true := by
  intro c hc
  have hname := h.name c hc
  simp only [Attribute.isNameChar, Bool.not_eq_true', Bool.or_eq_false_iff,
    decide_eq_false_iff_not] at hname
  have hslash : c ≠ '/' := fun heq => h.marks.1 (heq ▸ hc)
  have hcloser : c ≠ '>' := fun heq => h.marks.2 (heq ▸ hc)
  simp [isKeyChar, hname.1, hname.2, hslash, hcloser]

lemma afterEquals?_render {s : Assignment} (h : s.WellFormed) (t : Text) :
    afterEquals? (s.render ++ t) = some (s.quoting.render s.value ++ t) := by
  rw [afterEquals?, Assignment.render, List.append_assoc, List.cons_append, List.append_assoc,
    trimStart_run h.before (stopsAt_cons (by decide) _)]
  exact congrArg some (trimStart_run h.after (h.value.stopsAt_render t))

lemma readQuoted?_run {quote : Char} {value : Text} (h : quote ∉ value) (t : Text) :
    readQuoted? quote (quote :: (value ++ quote :: t)) = some (value, t) := by
  have hrun : ∀ c ∈ value, (c != quote) = true := by
    intro c hc
    rw [bne_iff_ne]
    rintro rfl
    exact h hc
  have hstops : StopsAt (· != quote) (quote :: t) := stopsAt_cons (by simp) t
  rw [readQuoted?, if_pos rfl, takeWhile_run hrun hstops, dropWhile_run hrun hstops]

lemma readQuoted?_eq_none {quote : Char} {t : Text} (h : t.head? ≠ some quote) :
    readQuoted? quote t = none := by
  cases t with
  | nil => rfl
  | cons c cs =>
      have hc : c ≠ quote := by simpa using h
      rw [readQuoted?, if_neg hc]

/-- The longest unquoted value is tried first. -/
lemma bareRests_run {run t : Text} (hne : run ≠ []) (hrun : ∀ c ∈ run, isBareChar c = true)
    (ht : StopsAt isBareChar t) : ∃ others, bareRests (run ++ t) = t :: others := by
  induction run with
  | nil => exact absurd rfl hne
  | cons c run ih =>
      have hc := hrun c (by simp)
      rw [List.cons_append, bareRests, if_pos hc]
      cases run with
      | nil =>
          have hnone : bareRests t = [] := by
            cases t with
            | nil => rfl
            | cons d t => rw [bareRests, if_neg (by simp [ht d rfl])]
          exact ⟨[], by simp [hnone]⟩
      | cons d run =>
          obtain ⟨others, hothers⟩ := ih (by simp) fun d hd => hrun d (by simp [hd])
          rw [hothers]
          exact ⟨_, rfl⟩

/-- How the two quoted readings of a value turn out, and the run that an unquoted one is. -/
lemma IsSeparate.reads {a : WrittenAttribute} (h : IsSeparate a) {s : Assignment}
    (hs : a.assignment = some s) (t : Text) :
    readQuoted? '"' (s.quoting.render s.value ++ t) = some (s.value, t)
      ∨ readQuoted? '"' (s.quoting.render s.value ++ t) = none
        ∧ (readQuoted? '\'' (s.quoting.render s.value ++ t) = some (s.value, t)
          ∨ readQuoted? '\'' (s.quoting.render s.value ++ t) = none
            ∧ s.quoting.render s.value = s.value ∧ s.value ≠ []
            ∧ ∀ c ∈ s.value, isBareChar c = true) := by
  have hvalue := (h.assignment s hs).value
  have hbare := h.bare s hs
  obtain ⟨before, after, quoting, value⟩ := s
  cases quoting with
  | double =>
      left
      simpa [Quoting.render] using readQuoted?_run hvalue t
  | single =>
      right
      refine ⟨readQuoted?_eq_none (by simp [Quoting.render]), .inl ?_⟩
      simpa [Quoting.render] using readQuoted?_run hvalue t
  | unquoted =>
      obtain ⟨hne, hblank, hdouble, hsingle⟩ := hvalue
      obtain ⟨c, cs, rfl⟩ := List.exists_cons_of_ne_nil hne
      refine .inr ⟨readQuoted?_eq_none hdouble, .inr ⟨readQuoted?_eq_none hsingle, rfl, hne, ?_⟩⟩
      intro d hd
      have hd' : d ≠ '>' := fun heq => hbare rfl (heq ▸ hd)
      simp [isBareChar, hblank d hd, hd']

lemma IsSeparate.valueRests {a : WrittenAttribute} (h : IsSeparate a) {s : Assignment}
    (hs : a.assignment = some s) {t : Text} (ht : EndsAttribute t) :
    ∃ others, valueRests (s.quoting.render s.value ++ t) = t :: others := by
  rw [QuickFix.valueRests]
  rcases h.reads hs t with hdouble | ⟨hdouble, hsingle | ⟨hsingle, hrender, hne, hrun⟩⟩
  · exact ⟨_, by rw [hdouble]; rfl⟩
  · exact ⟨_, by rw [hdouble, hsingle]; rfl⟩
  · obtain ⟨others, hothers⟩ := bareRests_run hne hrun ht.bare
    exact ⟨others, by rw [hdouble, hsingle, hrender, hothers]; rfl⟩

/-- The preferred reading of an attribute is the whole of it. -/
lemma attributeRests_render {a : WrittenAttribute} (h : IsSeparate a) {t : Text}
    (ht : EndsAttribute t) : ∃ others, attributeRests (a.render ++ t) = t :: others := by
  have hblank : StopsAt isBlank (a.name ++ (a.behindName ++ t)) :=
    h.stopsAt_name (by simp +contextual [Attribute.isNameChar]) _
  have hkey : StopsAt isKeyChar (a.behindName ++ t) :=
    h.stopsAt_behindName (fun _ => isKeyChar_of_blank) (by decide) ht.key
  have hguard : ¬ (a.blanks.isEmpty || a.name.isEmpty) = true := by
    simp [h.setOff, h.name_ne]
  simp only [attributeRests]
  rw [WrittenAttribute.render, List.append_assoc, List.append_assoc,
    trimStart_run h.blanks hblank, takeWhile_run h.blanks hblank, takeWhile_run h.key hkey,
    dropWhile_run h.key hkey, if_neg hguard, WrittenAttribute.behindName]
  cases hs : a.assignment with
  | none => exact ⟨[], by simp [ht.afterEquals?]⟩
  | some s =>
      obtain ⟨others, hothers⟩ := h.valueRests hs ht
      refine ⟨others ++ [s.render ++ t], ?_⟩
      simp [afterEquals?_render (h.assignment s hs), hothers]

/-- The value that the second reader finds is the value of the attribute. -/
lemma readValue_behindName {a : WrittenAttribute} (h : IsSeparate a) {t : Text}
    (ht : EndsAttribute t) : readValue (a.behindName ++ t) = (a.toAttribute.value.getD [], t) := by
  rw [WrittenAttribute.behindName, WrittenAttribute.toAttribute]
  cases hs : a.assignment with
  | none => simp [readValue, ht.afterEquals?]
  | some s =>
      simp only [Option.map_some, Option.getD_some, readValue,
        afterEquals?_render (h.assignment s hs)]
      rcases h.reads hs t with hdouble | ⟨hdouble, hsingle | ⟨hsingle, hrender, hne, hrun⟩⟩
      · rw [hdouble]
      · rw [hdouble, hsingle]
      · rw [hdouble, hsingle, hrender, takeWhile_run hrun ht.bare, dropWhile_run hrun ht.bare,
          if_neg (by simpa using hne)]

/-! ### Reading an element -/

lemma attributeRests_eq_nil {t : Text} (h : StopsAt isBlank t) : attributeRests t = [] := by
  have hnone : t.takeWhile isBlank = [] := by
    cases t with
    | nil => rfl
    | cons c t => simp [h c rfl]
  simp [attributeRests, hnone]

lemma Ending.Proper.fits {name : Text} {ending : Ending} (h : ending.Proper name) :
    ending.fits name = true := by
  cases ending with
  | opened => rfl
  | selfClosed => rfl
  | closed content closer => simpa [Ending.fits] using h.1

lemma endsAttribute_ending (ending : Ending) : EndsAttribute ending.render := by
  cases ending with
  | opened => exact ⟨stopsAt_cons (by decide) _, stopsAt_cons (by decide) _⟩
  | selfClosed => exact ⟨stopsAt_cons (by decide) _, stopsAt_cons (by decide) _⟩
  | closed content closer => exact ⟨stopsAt_cons (by decide) _, stopsAt_cons (by decide) _⟩

/-- No ending begins another attribute. -/
lemma attributeRests_ending (ending : Ending) : attributeRests ending.render = [] := by
  cases ending with
  | opened => rfl
  | selfClosed => decide
  | closed content closer => exact attributeRests_eq_nil (stopsAt_cons (by decide) _)

lemma readCloser?_run {name : Text} (hne : name ≠ []) (hname : ∀ c ∈ name, isCloserChar c = true)
    (t : Text) : readCloser? (name ++ '>' :: t) = some (name, t) := by
  have hstops : StopsAt isCloserChar ('>' :: t) := stopsAt_cons (by decide) t
  have htrim : trimStart ('>' :: t) = '>' :: t := rfl
  simp only [readCloser?]
  rw [takeWhile_run hname hstops, dropWhile_run hname hstops, if_neg (by simpa using hne), htrim]
  rfl

/-- Content without brackets ends at the close tag. -/
lemma contentToEnd?_run {content name : Text} (hbracket : '<' ∉ content) (hfeed : '\n' ∉ content)
    (hne : name ≠ []) (hname : ∀ c ∈ name, isCloserChar c = true) :
    contentToEnd? (content ++ ("</".toList ++ (name ++ ['>']))) = some (content, name) := by
  induction content with
  | nil =>
      have hafter : after? "</" ('<' :: '/' :: (name ++ ['>'])) = some (name ++ ['>']) :=
        after?_eq_some.mpr rfl
      change contentToEnd? ('<' :: '/' :: (name ++ ['>'])) = _
      rw [contentToEnd?, hafter, Option.bind_some, readCloser?_run hne hname]
  | cons c content ih =>
      simp only [List.mem_cons, not_or] at hbracket hfeed
      have hafter : ∀ t, after? "</" (c :: t) = none := by
        intro t
        rw [after?, if_neg]
        simp [List.isPrefixOf, hbracket.1]
      rw [List.cons_append, contentToEnd?, hafter, ih hbracket.2 hfeed.2]
      simp [Ne.symm hfeed.1]

/-- An ending is read as it is written. -/
lemma Ending.read?_render {name : Text} (hne : name ≠ [])
    (hname : ∀ c ∈ name, isCloserChar c = true) {ending : Ending} (h : ending.Proper name) :
    Ending.read? ending.render = some ending := by
  cases ending with
  | opened => rfl
  | selfClosed => decide
  | closed content closer =>
      obtain ⟨rfl, hbracket, hfeed⟩ := h
      have hread := contentToEnd?_run hbracket hfeed hne hname
      obtain ⟨c, t, ht⟩ := List.exists_cons_of_ne_nil
        (show content ++ ("</".toList ++ (closer ++ ['>'])) ≠ [] by simp)
      have htrim : trimStart ('>' :: c :: t) = '>' :: c :: t := rfl
      rw [ht] at hread
      rw [Ending.read?, Ending.render, ht, htrim]
      simp [hread]

/-- A point further on than all points before it is extended. -/
lemma search_extend {seen : List Nat} {rest : Text} (hseen : ∀ n ∈ seen, rest.length < n)
    (fuel : Nat) (tasks : List Task) :
    search (fuel + 1) seen (.extend rest :: tasks)
      = search fuel (rest.length :: seen)
        ((attributeRests rest).map .extend ++ .stop rest :: tasks) := by
  have hnew : ¬ seen.contains rest.length = true := by
    rw [List.contains_iff_mem]
    exact fun hmem => lt_irrefl _ (hseen _ hmem)
  rw [search, if_neg hnew]

/-- **The search takes every attribute at its first choice.** -/
lemma search_renderWritten {attributes : List WrittenAttribute}
    (h : ∀ a ∈ attributes, IsSeparate a) {ending : Ending}
    (hending : Ending.read? ending.render = some ending) {seen : List Nat}
    (hseen : ∀ n ∈ seen, (renderWritten attributes ++ ending.render).length < n) {fuel : Nat}
    (hfuel : attributes.length + 2 ≤ fuel) (tasks : List Task) :
    search fuel seen (.extend (renderWritten attributes ++ ending.render) :: tasks)
      = some (ending.render, ending) := by
  induction attributes generalizing fuel seen tasks with
  | nil =>
      obtain ⟨fuel, rfl⟩ : ∃ k, fuel = k + 2 := ⟨fuel - 2, by simp at hfuel; omega⟩
      have hnone : attributeRests (renderWritten [] ++ ending.render) = [] :=
        attributeRests_ending ending
      have hstop : Ending.read? (renderWritten [] ++ ending.render) = some ending := hending
      rw [search_extend hseen, hnone, List.map_nil, List.nil_append, search, hstop]
      rfl
  | cons a attributes ih =>
      obtain ⟨fuel, rfl⟩ : ∃ k, fuel = k + 1 := ⟨fuel - 1, by omega⟩
      have hrest : ∀ b ∈ attributes, IsSeparate b := fun b hb => h b (by simp [hb])
      obtain ⟨others, hothers⟩ := attributeRests_render (h a (by simp))
        (endsAttribute_renderWritten hrest (endsAttribute_ending ending))
      have hshorter : (renderWritten attributes ++ ending.render).length
          < (renderWritten (a :: attributes) ++ ending.render).length := by
        have hname : 0 < a.name.length := List.length_pos_iff.mpr (h a (by simp)).name_ne
        simp only [renderWritten_cons, WrittenAttribute.render, List.length_append]
        omega
      rw [search_extend hseen, renderWritten_cons, List.append_assoc, hothers, List.map_cons,
        List.cons_append]
      refine ih hrest (fun n hn => ?_) (by simpa using hfuel) _
      rcases List.mem_cons.mp hn with rfl | hn
      · simpa [renderWritten_cons] using hshorter
      · exact hshorter.trans (hseen n hn)

lemma readAttributed?_renderWritten {attributes : List WrittenAttribute} (hne : attributes ≠ [])
    (h : ∀ a ∈ attributes, IsSeparate a) {ending : Ending}
    (hending : Ending.read? ending.render = some ending) :
    readAttributed? (renderWritten attributes ++ ending.render)
      = some (renderWritten attributes, ending) := by
  obtain ⟨a, attributes, rfl⟩ := List.exists_cons_of_ne_nil hne
  have hrest : ∀ b ∈ attributes, IsSeparate b := fun b hb => h b (by simp [hb])
  obtain ⟨others, hothers⟩ := attributeRests_render (h a (by simp))
    (endsAttribute_renderWritten hrest (endsAttribute_ending ending))
  have hlength := length_le_renderWritten fun b hb => (h b hb).name_ne
  set text : Text := renderWritten (a :: attributes) ++ ending.render with htext
  have hfuel : attributes.length + 2 ≤ searchFuel text.length := by
    have htwo : text.length + 2 ≤ searchFuel text.length := Nat.le_mul_of_pos_right _ (by omega)
    rw [htext, List.length_append] at htwo ⊢
    rw [List.length_cons] at hlength
    omega
  have hfirst : attributeRests text = (renderWritten attributes ++ ending.render) :: others := by
    rw [htext, renderWritten_cons, List.append_assoc, hothers]
  have hfound : search _ [] _ = _ :=
    search_renderWritten hrest hending (by simp) hfuel (others.map .extend)
  rw [readAttributed?, hfirst, List.map_cons, hfound, Option.map_some, htext, List.length_append]
  dsimp only
  rw [Nat.add_sub_cancel, List.take_left]

/-! ### Choosing the name -/

lemma findSome?_of_only {α β : Type} {f : α → Option β} {l : List α} {a : α} {b : β} (hmem : a ∈ l)
    (ha : f a = some b) (hother : ∀ x ∈ l, x ≠ a → f x = none) : l.findSome? f = some b := by
  cases hfound : l.findSome? f with
  | none =>
      rw [List.findSome?_eq_none_iff.mp hfound a hmem] at ha
      simp at ha
  | some b' =>
      obtain ⟨x, hx, hfx⟩ := List.exists_of_findSome?_eq_some hfound
      by_cases hxa : x = a
      · rw [← hfx, hxa, ha]
      · simp [hother x hx hxa] at hfx

lemma isCloserChar_eq : isCloserChar = isBareChar := by
  funext c
  rw [isCloserChar, isBareChar, Bool.or_comm]

lemma isBlank_of_isCloserChar {c : Char} (h : isCloserChar c = true) : isBlank c = false := by
  simp only [isCloserChar, Bool.not_eq_true', Bool.or_eq_false_iff] at h
  exact h.2

lemma readAttributed?_eq_none {t : Text} (h : StopsAt isBlank t) : readAttributed? t = none := by
  have hsearch : ∀ fuel, search fuel [] [] = none := by
    intro fuel
    cases fuel <;> rfl
  rw [readAttributed?, attributeRests_eq_nil h, List.map_nil, hsearch, Option.map_none]

/-- No element is read for another name than the one at the front: a shorter one is followed by no
blank, and a longer one would hold the blank. -/
lemma readAttributed?_otherName {name other t : Text} (hname : ∀ c ∈ name, isCloserChar c = true)
    (hother : ∀ c ∈ other, isCloserChar c = true) (hne : other ≠ name)
    (ht : StopsAt isCloserChar t) : (after? other (name ++ t)).bind readAttributed? = none := by
  cases hafter : after? other (name ++ t) with
  | none => rfl
  | some rest =>
      rcases List.append_eq_append_iff.mp (after?_eq_some.mp hafter) with ⟨m, hlonger, hm⟩ |
        ⟨m, hshorter, hm⟩
      · cases m with
        | nil => exact absurd (by simpa using hlonger) hne
        | cons c m =>
            have hc := hother c (by simp [hlonger])
            rw [ht c (by simp [hm])] at hc
            exact absurd hc (by simp)
      · cases m with
        | nil => exact absurd (by simpa using hshorter.symm) hne
        | cons c m =>
            have hc := isBlank_of_isCloserChar (hname c (by simp [hshorter]))
            rw [hm, Option.bind_some]
            exact readAttributed?_eq_none (stopsAt_cons hc _)

lemma isCloserChar_of_offered {components : List Text}
    (hcomponents : ∀ component ∈ components, ∀ c ∈ component, isCloserChar c = true) :
    ∀ name ∈ formattableElements ++ components, ∀ c ∈ name, isCloserChar c = true := by
  have hformattable : ∀ name ∈ formattableElements, ∀ c ∈ name, isCloserChar c = true := by decide
  intro name hname
  rcases List.mem_append.mp hname with hname | hname
  · exact hformattable name hname
  · exact hcomponents name hname

/-! ### Writing the element -/

lemma splitAttributes_skip {run : Text} (hrun : ∀ c ∈ run, isKeyChar c = false) (fuel : Nat)
    (t : Text) : splitAttributes (run.length + fuel) (run ++ t) = splitAttributes fuel t := by
  induction run with
  | nil => simp
  | cons c run ih =>
      have hc := hrun c (by simp)
      rw [List.length_cons, Nat.add_right_comm, List.cons_append, splitAttributes,
        if_neg (by simp [hc]), ih fun d hd => hrun d (by simp [hd])]

/-- The attributes are split where they were written. -/
lemma splitAttributes_renderWritten {attributes : List WrittenAttribute}
    (h : ∀ a ∈ attributes, IsSeparate a) {fuel : Nat}
    (hfuel : (renderWritten attributes).length ≤ fuel) :
    splitAttributes fuel (renderWritten attributes)
      = attributes.map fun a => (a.name, a.toAttribute.value.getD []) := by
  induction attributes generalizing fuel with
  | nil => cases fuel <;> rfl
  | cons a attributes ih =>
      have ha := h a (by simp)
      have hrest : ∀ b ∈ attributes, IsSeparate b := fun b hb => h b (by simp [hb])
      have hends : EndsAttribute (renderWritten attributes) := by
        simpa using endsAttribute_renderWritten hrest endsAttribute_nil
      have hkey : StopsAt isKeyChar (a.behindName ++ renderWritten attributes) :=
        ha.stopsAt_behindName (fun _ => isKeyChar_of_blank) (by decide) hends.key
      obtain ⟨c, name, hname⟩ := List.exists_cons_of_ne_nil ha.name_ne
      have hassoc : renderWritten (a :: attributes)
          = a.blanks ++ (a.name ++ (a.behindName ++ renderWritten attributes)) := by
        simp [renderWritten_cons, WrittenAttribute.render]
      rw [hassoc, List.length_append, List.length_append, List.length_append, hname,
        List.length_cons] at hfuel
      obtain ⟨fuel, rfl⟩ : ∃ k, fuel = a.blanks.length + (k + 1) :=
        ⟨fuel - a.blanks.length - 1, by omega⟩
      rw [hassoc, splitAttributes_skip fun d hd => isKeyChar_of_blank (ha.blanks d hd), hname,
        List.cons_append, splitAttributes, if_pos (ha.key c (by simp [hname])), ← List.cons_append,
        ← hname, takeWhile_run ha.key hkey, dropWhile_run ha.key hkey,
        readValue_behindName ha hends]
      dsimp only
      rw [ih hrest (by omega), List.map_cons]

lemma layout_eq {name attributes : Text} {pairs : List (Text × Text)} (hne : pairs ≠ [])
    (hpairs : splitAttributes attributes.length attributes = pairs) {ending : Ending}
    (hending : ending.Proper name) :
    layout name attributes ending
      = join ['\n'] (('<' :: name) :: (pairs.map attributeLine ++ ending.lines)) := by
  obtain ⟨pair, pairs, rfl⟩ := List.exists_cons_of_ne_nil hne
  have hlines : attributeLines attributes
      = attributeLine pair ++ (pairs.map attributeLine).flatMap ("\n".toList ++ ·) := by
    rw [attributeLines, hpairs, List.map_cons, join_cons]
  rw [join_cons]
  cases ending with
  | opened => simp [layout, hlines, Ending.lines]
  | selfClosed => simp [layout, hlines, Ending.lines]
  | closed content closer =>
      obtain ⟨rfl, -⟩ := hending
      simp [layout, hlines, Ending.lines]

/-- An attribute on its indented line, as it is written there. -/
lemma render_written (indentation : Text) (a : Attribute) :
    ((withoutEmpty a).written ('\n' :: (indentation ++ ['\t']))).render
      = '\n' :: (indentation ++ attributeLine (a.name, a.value.getD [])) := by
  obtain ⟨name, value⟩ := a
  cases value with
  | none =>
      simp [withoutEmpty, Attribute.written, WrittenAttribute.render, WrittenAttribute.behindName,
        attributeLine]
  | some value =>
      cases value with
      | nil =>
          simp [withoutEmpty, Attribute.written, WrittenAttribute.render,
            WrittenAttribute.behindName, attributeLine, Option.filter]
      | cons c value =>
          simp [withoutEmpty, Attribute.written, WrittenAttribute.render,
            WrittenAttribute.behindName, Assignment.render, Quoting.render, attributeLine,
            Option.filter]

lemma IsSeparate.notMem_attributeLine {a : WrittenAttribute} (h : IsSeparate a) :
    '\n' ∉ attributeLine (a.name, a.toAttribute.value.getD []) := by
  have hname : '\n' ∉ a.name := fun hmem => absurd (h.name _ hmem) (by decide)
  have hvalue : '\n' ∉ a.toAttribute.value.getD [] := by
    cases hs : a.assignment with
    | none => simp [WrittenAttribute.toAttribute, hs]
    | some s => simpa [WrittenAttribute.toAttribute, hs] using h.oneLine s hs
  rw [attributeLine]
  split_ifs
  · simpa using hname
  · simpa using And.intro hname hvalue

lemma Ending.Proper.notMem_lines {name : Text} {ending : Ending} (h : ending.Proper name)
    (hname : '\n' ∉ name) : ∀ l ∈ ending.lines, '\n' ∉ l := by
  cases ending with
  | opened => simp [Ending.lines]
  | selfClosed => simp [Ending.lines]
  | closed content closer =>
      obtain ⟨rfl, -, hcontent⟩ := h
      simp [Ending.lines, hcontent, hname]

lemma withoutReturns_of_last {line : Text} {c : Char} (hc : c ≠ '\r') :
    withoutReturns (line ++ [c]) = line ++ [c] := by
  rw [withoutReturns, List.reverse_append, List.reverse_singleton, List.singleton_append,
    List.dropWhile_cons_of_neg (by simpa using hc)]
  simp

namespace AttributedElement

variable {components : List Text} {e : AttributedElement}

/-- The names and values that go on lines of their own. -/
def pairs (e : AttributedElement) : List (Text × Text) :=
  e.attributes.map fun a => (a.name, a.toAttribute.value.getD [])

lemma withoutReturns_line (e : AttributedElement) : withoutReturns e.line = e.line := by
  obtain ⟨front, hfront⟩ : ∃ front, e.ending.render = front ++ ['>'] := by
    cases e.ending with
    | opened => exact ⟨[], rfl⟩
    | selfClosed => exact ⟨" /".toList, rfl⟩
    | closed content closer =>
        exact ⟨'>' :: (content ++ ("</".toList ++ closer)), by simp [Ending.render]⟩
  have hline : e.line
      = e.indentation ++ '<' :: (e.name ++ (renderWritten e.attributes ++ front)) ++ ['>'] := by
    simp [line, hfront]
  rw [hline, withoutReturns_of_last (by decide)]

/-- No line of the element has a line feed in it. -/
lemma Proper.notMem_lines (h : e.Proper components)
    (hname : ∀ c ∈ e.name, isCloserChar c = true) :
    ∀ l ∈ ('<' :: e.name) :: (e.pairs.map attributeLine ++ e.ending.lines), '\n' ∉ l := by
  have hfeed : '\n' ∉ e.name := fun hmem => absurd (hname _ hmem) (by decide)
  intro l hl
  rw [List.mem_cons, List.mem_append] at hl
  rcases hl with rfl | hattribute | hending
  · simp [hfeed]
  · obtain ⟨pair, hpair, rfl⟩ := List.mem_map.mp hattribute
    obtain ⟨a, ha, rfl⟩ := List.mem_map.mp hpair
    exact (h.attributes a ha).notMem_attributeLine
  · exact h.ending.notMem_lines hfeed l hending

/-- The indented lines make the spread element. -/
lemma join_indented (e : AttributedElement) :
    join ['\n'] ((('<' :: e.name) :: (e.pairs.map attributeLine ++ e.ending.lines)).map
      (e.indentation ++ ·)) = e.spread := by
  have hattributes :
      renderWritten (e.content.map (Attribute.written ('\n' :: (e.indentation ++ ['\t']))))
        = (e.pairs.map attributeLine).flatMap fun l => '\n' :: (e.indentation ++ l) := by
    simp [renderWritten, content, pairs, List.flatMap_map, render_written,
      WrittenAttribute.toAttribute]
  have hending : (e.ending.lines.flatMap fun l => '\n' :: (e.indentation ++ l))
      = '\n' :: (e.indentation ++ join ('\n' :: e.indentation) e.ending.lines) := by
    cases e.ending <;> simp [Ending.lines, join_cons]
  rw [List.map_cons, join_cons, List.flatMap_map, List.flatMap_append, spread, spreadAttributes,
    hattributes]
  simp [hending]

/-- The element is read for its own name. -/
lemma Proper.findSome?_name (h : e.Proper components)
    (hcomponents : ∀ component ∈ components, ∀ c ∈ component, isCloserChar c = true) :
    ((proper (formattableElements ++ components)).findSome? fun name =>
      ((after? name (e.name ++ (renderWritten e.attributes ++ e.ending.render))).bind
        readAttributed?).map (name, ·))
      = some (e.name, renderWritten e.attributes, e.ending) := by
  have hchars := isCloserChar_of_offered hcomponents
  have hname := hchars e.name h.name
  have hstops : StopsAt isCloserChar (renderWritten e.attributes ++ e.ending.render) := by
    rw [isCloserChar_eq]
    exact (endsAttribute_renderWritten h.attributes (endsAttribute_ending e.ending)).bare
  have hread := readAttributed?_renderWritten h.attributes_ne h.attributes
    (Ending.read?_render h.name_ne hname h.ending)
  refine findSome?_of_only (List.mem_filter.mpr ⟨h.name, by simpa using h.name_ne⟩) ?_ ?_
  · rw [after?_eq_some.mpr rfl, Option.bind_some, hread, Option.map_some]
  · intro other hother hne
    rw [readAttributed?_otherName hname (hchars other (List.mem_filter.mp hother).1) hne hstops,
      Option.map_none]

/-- **The fix spreads the element.** -/
lemma Proper.multiLineFix?_line (h : e.Proper components)
    (hcomponents : ∀ component ∈ components, ∀ c ∈ component, isCloserChar c = true) :
    multiLineFix? e.line components = some e.spread := by
  have hname := isCloserChar_of_offered hcomponents e.name h.name
  have hpairs : splitAttributes (renderWritten e.attributes).length (renderWritten e.attributes)
      = e.pairs := splitAttributes_renderWritten h.attributes le_rfl
  have hne : e.pairs ≠ [] := by simpa [pairs] using h.attributes_ne
  have hbracket : ∀ t, StopsAt isBlank ('<' :: t) := stopsAt_cons (by decide)
  simp only [multiLineFix?]
  rw [line, takeWhile_run h.indentation (hbracket _), dropWhile_run h.indentation (hbracket _)]
  simp only [Option.bind_eq_bind, h.findSome?_name hcomponents, Option.bind_some]
  rw [if_pos h.ending.fits, layout_eq hne hpairs h.ending,
    lines_join (by simp) (h.notMem_lines hname)]
  exact congrArg some (join_indented e)

lemma notMem_withoutEmpty_iff (a : WrittenAttribute) :
    (∀ value, (withoutEmpty a.toAttribute).value = some value → '"' ∉ value)
      ↔ ∀ s ∈ a.assignment, '"' ∉ s.value := by
  rw [withoutEmpty, WrittenAttribute.toAttribute]
  cases a.assignment with
  | none => simp
  | some s =>
      cases hvalue : s.value with
      | nil => simp [Option.filter, hvalue]
      | cons c value => simp [Option.filter, hvalue]

/-- The attributes on lines of their own are read back exactly if no value holds a double quote. -/
lemma Proper.parse_spreadAttributes_iff (h : e.Proper components) :
    Attribute.parse e.spreadAttributes = e.content
      ↔ ∀ a ∈ e.attributes, ∀ s ∈ a.assignment, '"' ∉ s.value := by
  have hblanks : ∀ c ∈ '\n' :: (e.indentation ++ ['\t']), isBlank c = true := by
    intro c hc
    simp only [List.mem_cons, List.mem_append, List.not_mem_nil, or_false] at hc
    rcases hc with rfl | hc | rfl
    · decide
    · exact h.indentation c hc
    · decide
  have hblanks' : ∀ c ∈ '\n' :: e.indentation, isBlank c = true :=
    fun c hc => hblanks c (by simpa using (List.mem_cons.mp hc).imp_right .inl)
  have hnamed : ∀ a ∈ e.content, (a.written ('\n' :: (e.indentation ++ ['\t']))).Named := by
    intro a ha
    obtain ⟨b, hb, rfl⟩ := List.mem_map.mp ha
    exact ⟨hblanks, (h.attributes b hb).name_ne, (h.attributes b hb).name⟩
  rw [spreadAttributes, Attribute.parse_written_iff hnamed (by simp) hblanks']
  simp only [content, List.forall_mem_map, notMem_withoutEmpty_iff]

end AttributedElement

end QuickFix

/-- **The multi-line fix keeps the attributes exactly if no value holds a double quote.** On a line
with one element that is on offer and has attributes, the fix is the element with each attribute on
a line of its own, and nothing else is offered under its title. -/
theorem multiLine_keepsElement_iff {components : List Text}
    (hcomponents : ∀ component ∈ components, ∀ c ∈ component, QuickFix.isCloserChar c = true)
    {e : QuickFix.AttributedElement} (he : e.Proper components) :
    (∀ fix : QuickFix, fix ∈ quickFixes e.line components
        ∧ fix.title = "Format as multi-line".toList
        ↔ fix = ⟨"Format as multi-line".toList, e.spread⟩)
      ∧ (Attribute.parse e.spreadAttributes = e.content
        ↔ ∀ a ∈ e.attributes, ∀ s ∈ a.assignment, '"' ∉ s.value) := by
  have hfix := he.multiLineFix?_line hcomponents
  constructor
  · intro fix
    obtain ⟨title, replacement⟩ := fix
    rw [QuickFix.mem_quickFixes, e.withoutReturns_line, hfix]
    constructor
    · rintro ⟨⟨hself, -⟩ | ⟨-, hspread⟩, htitle⟩
      · exact absurd (hself.symm.trans htitle) (by decide)
      · rw [QuickFix.mk.injEq]
        exact ⟨htitle, (Option.some.inj hspread).symm⟩
    · intro heq
      obtain ⟨rfl, rfl⟩ := (QuickFix.mk.injEq ..).mp heq
      exact ⟨.inr ⟨rfl, rfl⟩, rfl⟩
  · exact he.parse_spreadAttributes_iff

/-- `multiLine_keepsElement_iff` where the name of one component begins that of another one, values
hold `>` and `=`, and a value in single quotes holds a double quote. -/
theorem multiLine_keepsElement_iff_quoted :
    let components : List Text := ["Foo".toList, "FooBar".toList]
    let e : QuickFix.AttributedElement :=
      ⟨"\t".toList, "FooBar".toList,
        [⟨" ".toList, ":a".toList, some ⟨" ".toList, "\u3000".toList, .double, "1 > '0'".toList⟩⟩,
          ⟨"  ".toList, "é".toList, none⟩,
          ⟨" ".toList, "b".toList, some ⟨[], [], .unquoted, "c=d".toList⟩⟩,
          ⟨" ".toList, "e".toList, some ⟨[], [], .single, "x\"y".toList⟩⟩],
        .closed "😀".toList "FooBar".toList⟩
    e.Proper components
      ∧ e.line = "\t<FooBar :a =\u3000\"1 > '0'\"  é b=c=d e='x\"y'>😀</FooBar>".toList
      ∧ ⟨"Format as multi-line".toList, e.spread⟩ ∈ quickFixes e.line components
      ∧ Attribute.parse e.spreadAttributes ≠ e.content := by
  intro components e
  have he : e.Proper components := by constructor <;> decide
  have hcomponents : ∀ component ∈ components, ∀ c ∈ component, QuickFix.isCloserChar c = true := by
    decide
  obtain ⟨hfix, hkept⟩ := multiLine_keepsElement_iff hcomponents he
  have hquoted : ¬ ∀ a ∈ e.attributes, ∀ s ∈ a.assignment, '"' ∉ s.value := by decide
  exact ⟨he, by decide +kernel, ((hfix _).mpr rfl).1, fun hsame => hquoted (hkept.mp hsame)⟩

end ComponentFile
