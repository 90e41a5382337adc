import Mathlib.Data.List.DropRight
import Mathlib.Tactic
import ComponentFile.Markup.Attribute
import ComponentFile.Proofs.Text.Runs

/-!
Attributes as they are written.

A `WrittenAttribute` is an attribute together with its blanks and the way its value is quoted.
`render` puts the parts together, and `toAttribute` is what a reader is to see.

* `parseSteps_name` is one step of the reader on a name and anything behind it, and
  `parseSteps_render` the step on a whole attribute.
* `parse_renderWritten`: attributes that are set off from each other by blanks are read back.
* `parse_written_iff`: attributes that are all written in double quotes are read back exactly if no
  value holds a double quote.
-/

namespace ComponentFile

open Text

namespace Markup

/-! ### Attributes and their text -/

/-- How the value of an attribute is set off. -/
inductive Quoting where
  /-- In double quotes. -/
  | double
  /-- In single quotes. -/
  | single
  /-- Without quotes. -/
  | unquoted
  deriving DecidableEq

/-- A value with its quotes. -/
def Quoting.render : Quoting → Text → Text
  | .double, value => '"' :: (value ++ ['"'])
  | .single, value => '\'' :: (value ++ ['\''])
  | .unquoted, value => value

/-- A value that ends where its text ends. -/
def Quoting.Holds : Quoting → Text → Prop
  | .double, value => '"' ∉ value
  | .single, value => '\'' ∉ value
  | .unquoted, value =>
    value ≠ [] ∧ (∀ c ∈ value, isBlank c = false) ∧ value.head? ≠ some '"' ∧ value.head? ≠ some '\''

instance : ∀ (q : Quoting) (value : Text), Decidable (q.Holds value)
  | .double, value => inferInstanceAs (Decidable ('"' ∉ value))
  | .single, value => inferInstanceAs (Decidable ('\'' ∉ value))
  | .unquoted, value => inferInstanceAs (Decidable (value ≠ [] ∧ (∀ c ∈ value, isBlank c = false)
      ∧ value.head? ≠ some '"' ∧ value.head? ≠ some '\''))

/-- What gives a value to an attribute. -/
structure Assignment where
  /-- The blanks before `=`. -/
  before : Text
  /-- The blanks behind `=`. -/
  after : Text
  /-- The quotes of the value. -/
  quoting : Quoting
  /-- The value without its quotes. -/
  value : Text
  deriving DecidableEq

namespace Assignment

/-- The text of an assignment. -/
def render (s : Assignment) : Text := s.before ++ '=' :: (s.after ++ s.quoting.render s.value)

/-- An assignment that can be read back. -/
@[mk_iff]
structure WellFormed (s : Assignment) : Prop where
  before : ∀ c ∈ s.before, isBlank c = true
  after : ∀ c ∈ s.after, isBlank c = true
  value : s.quoting.Holds s.value

instance (s : Assignment) : Decidable s.WellFormed := decidable_of_iff _ s.wellFormed_iff.symm

end Assignment

/-- An attribute as it stands in a tag. -/
structure WrittenAttribute where
  /-- The blanks before the name. -/
  blanks : Text
  /-- The name. -/
  name : Text
  /-- What gives it a value; a bare attribute has no such thing. -/
  assignment : Option Assignment
  deriving DecidableEq

namespace WrittenAttribute

/-- The text behind the name of an attribute. -/
def behindName (a : WrittenAttribute) : Text := (a.assignment.map Assignment.render).getD []

/-- The text of an attribute, with the blanks before it. -/
def render (a : WrittenAttribute) : Text := a.blanks ++ (a.name ++ a.behindName)

/-- What is to be read. -/
def toAttribute (a : WrittenAttribute) : Attribute := ⟨a.name, a.assignment.map Assignment.value⟩

/-- An attribute whose name can be read back. -/
@[mk_iff]
structure Named (a : WrittenAttribute) : Prop where
  blanks : ∀ c ∈ a.blanks, isBlank c = true
  name_ne : a.name ≠ []
  name : ∀ c ∈ a.name, Attribute.isNameChar c = true

/-- An attribute that can be read back. -/
@[mk_iff]
structure WellFormed (a : WrittenAttribute) : Prop extends a.Named where
  assignment : ∀ s ∈ a.assignment, s.WellFormed

instance (a : WrittenAttribute) : Decidable a.Named := decidable_of_iff _ a.named_iff.symm

instance (a : WrittenAttribute) : Decidable a.WellFormed := decidable_of_iff _ a.wellFormed_iff.symm

end WrittenAttribute

/-- An attribute behind some blanks, with its value in double quotes. -/
def Attribute.written (blanks : Text) (a : Attribute) : WrittenAttribute :=
  ⟨blanks, a.name, a.value.map (⟨[], [], .double, ·⟩)⟩

@[simp] lemma Attribute.toAttribute_written (blanks : Text) (a : Attribute) :
    (a.written blanks).toAttribute = a := by
  obtain ⟨name, value⟩ := a
  cases value <;> rfl

/-- The text of attributes one after the other. -/
def renderWritten (attributes : List WrittenAttribute) : Text :=
  attributes.flatMap WrittenAttribute.render

lemma renderWritten_cons (a : WrittenAttribute) (attributes : List WrittenAttribute) :
    renderWritten (a :: attributes) = a.render ++ renderWritten attributes := rfl

lemma length_le_renderWritten {attributes : List WrittenAttribute}
    (h : ∀ a ∈ attributes, a.name ≠ []) :
    attributes.length ≤ (renderWritten attributes).length := by
  induction attributes with
  | nil => simp
  | cons a attributes ih =>
      have hname : 0 < a.name.length := List.length_pos_iff.mpr (h a (by simp))
      have hrest := ih fun b hb => h b (by simp [hb])
      rw [renderWritten_cons, List.length_append, List.length_cons, WrittenAttribute.render,
        List.length_append, List.length_append]
      omega

/-! ### Where runs stop -/

lemma stopsAt_blanks {blanks : Text} (h : ∀ c ∈ blanks, isBlank c = true) :
    StopsAt (fun c => !isBlank c) blanks := by
  intro c hc
  simpa using h c (List.mem_of_mem_head? hc)

lemma stopsAt_trimStart_blanks {blanks : Text} (h : ∀ c ∈ blanks, isBlank c = true)
    {p : Char → Bool} : StopsAt p (trimStart blanks) := by
  have htrim : trimStart blanks = [] := by simpa [trimStart] using h
  simp [htrim, StopsAt]

lemma isNameChar_of_blank {c : Char} (h : isBlank c = true) : Attribute.isNameChar c = false := by
  simp [Attribute.isNameChar, h]

/-- A value that can be read back begins with no blank. -/
lemma Quoting.Holds.stopsAt_render {q : Quoting} {value : Text} (h : q.Holds value) (t : Text) :
    StopsAt isBlank (q.render value ++ t) := by
  cases q with
  | double => exact stopsAt_cons (by decide) _
  | single => exact stopsAt_cons (by decide) _
  | unquoted =>
      obtain ⟨hne, hblank, -⟩ := h
      obtain ⟨c, cs, rfl⟩ := List.exists_cons_of_ne_nil hne
      exact stopsAt_cons (hblank c (by simp)) _

lemma WrittenAttribute.Named.stopsAt_name {a : WrittenAttribute} (h : a.Named)
    {p : Char → Bool} (hp : ∀ c, Attribute.isNameChar c = true → p c = false) (t : Text) :
    StopsAt p (a.name ++ t) := by
  obtain ⟨c, cs, hc⟩ := List.exists_cons_of_ne_nil h.name_ne
  rw [hc]
  exact stopsAt_cons (hp c (h.name c (by simp [hc]))) _

/-- Behind the name stands a blank or `=`, if not what follows the attribute. -/
lemma WrittenAttribute.WellFormed.stopsAt_behindName {a : WrittenAttribute} (h : a.WellFormed)
    {p : Char → Bool} (hp : ∀ c, isBlank c = true → p c = false) (hequals : p '=' = false)
    {t : Text} (ht : StopsAt p t) : StopsAt p (a.behindName ++ t) := by
  rw [behindName]
  cases hs : a.assignment with
  | none => exact ht
  | some s =>
      intro c hc
      have hbefore := (h.assignment s hs).before
      rw [Option.map_some, Option.getD_some, Assignment.render] at hc
      cases hb : s.before with
      | nil =>
          obtain rfl : '=' = c := by simpa [hb] using hc
          exact hequals
      | cons d ds =>
          obtain rfl : d = c := by simpa [hb] using hc
          exact hp d (hbefore d (by simp [hb]))

section Lists

variable {attributes : List WrittenAttribute} {t : Text}

/-- Attributes that are set off begin with a blank, if there are any. -/
lemma stopsAt_renderWritten (h : ∀ a ∈ attributes, a.Named)
    (hsetOff : ∀ a ∈ attributes, a.blanks ≠ []) {p : Char → Bool}
    (hp : ∀ c, isBlank c = true → p c = false) (ht : StopsAt p t) :
    StopsAt p (renderWritten attributes ++ t) := by
  cases attributes with
  | nil => exact ht
  | cons a attributes =>
      obtain ⟨c, cs, hc⟩ := List.exists_cons_of_ne_nil (hsetOff a (by simp))
      rw [renderWritten_cons, WrittenAttribute.render, hc]
      exact stopsAt_cons (hp c ((h a (by simp)).blanks c (by simp [hc]))) _

/-- No attribute begins with `=`. -/
lemma stopsAt_trimStart_renderWritten (h : ∀ a ∈ attributes, a.Named)
    (ht : StopsAt (· = '=') (trimStart t)) :
    StopsAt (· = '=') (trimStart (renderWritten attributes ++ t)) := by
  cases attributes with
  | nil => exact ht
  | cons a attributes =>
      have ha := h a (by simp)
      rw [renderWritten_cons, WrittenAttribute.render, List.append_assoc, List.append_assoc,
        List.append_assoc, trimStart_run ha.blanks (ha.stopsAt_name (by simp +contextual
          [Attribute.isNameChar]) _)]
      exact ha.stopsAt_name (by simp +contextual [Attribute.isNameChar]) _

end Lists

/-! ### Reading one attribute -/

/-- What the reader makes of a name depends on what stands behind it alone. -/
lemma parseSteps_name {blanks name u : Text} (hblanks : ∀ c ∈ blanks, isBlank c = true)
    (hne : name ≠ []) (hname : ∀ c ∈ name, Attribute.isNameChar c = true)
    (hu : StopsAt Attribute.isNameChar u) (fuel : Nat) :
    Attribute.parseSteps (fuel + 1) (blanks ++ (name ++ u))
      = ⟨name, (Attribute.readAssignment (trimStart u)).1⟩
        :: Attribute.parseSteps fuel (Attribute.readAssignment (trimStart u)).2 := by
  obtain ⟨c, cs, rfl⟩ := List.exists_cons_of_ne_nil hne
  have hblank : isBlank c = false := by
    have hc := hname c (by simp)
    simp only [Attribute.isNameChar, Bool.not_eq_true', Bool.or_eq_false_iff] at hc
    exact hc.1
  have htrim : trimStart (blanks ++ (c :: cs ++ u)) = c :: (cs ++ u) :=
    trimStart_run hblanks (stopsAt_cons hblank _)
  rw [Attribute.parseSteps, htrim]
  dsimp only
  rw [← List.cons_append, takeWhile_run hname hu, dropWhile_run hname hu]
  rfl

lemma parseSteps_trimStart (fuel : Nat) (t : Text) :
    Attribute.parseSteps fuel (trimStart t) = Attribute.parseSteps fuel t := by
  cases fuel with
  | zero => rfl
  | succ fuel =>
      have htwice : trimStart (trimStart t) = trimStart t := List.dropWhile_idempotent _ _
      rw [Attribute.parseSteps, Attribute.parseSteps, htwice]

lemma readValue_render {q : Quoting} {value t : Text} (h : q.Holds value)
    (ht : StopsAt (fun c => !isBlank c) t) :
    Attribute.readValue (q.render value ++ t) = (value, t) := by
  have hquoted : ∀ quote : Char, quote ∉ value →
      (value ++ quote :: t).takeWhile (· != quote) = value
        ∧ (value ++ quote :: t).dropWhile (· != quote) = quote :: t := by
    intro quote hnot
    have hrun : ∀ c ∈ value, (c != quote) = true := by
      intro c hc
      rw [bne_iff_ne]
      rintro rfl
      exact hnot hc
    exact ⟨takeWhile_run hrun (stopsAt_cons (by simp) _),
      dropWhile_run hrun (stopsAt_cons (by simp) _)⟩
  cases q with
  | double =>
      obtain ⟨htake, hdrop⟩ := hquoted '"' h
      simp [Quoting.render, Attribute.readValue, htake, hdrop]
  | single =>
      obtain ⟨htake, hdrop⟩ := hquoted '\'' h
      simp [Quoting.render, Attribute.readValue, htake, hdrop]
  | unquoted =>
      obtain ⟨hne, hblank, hdouble, hsingle⟩ := h
      have hrun : ∀ c ∈ value, (!isBlank c) = true := by simpa using hblank
      obtain ⟨c, cs, rfl⟩ := List.exists_cons_of_ne_nil hne
      have hc : ¬(c = '"' ∨ c = '\'') := by simpa using And.intro hdouble hsingle
      rw [Quoting.render, List.cons_append, Attribute.readValue, if_neg (by simpa using hc),
        ← List.cons_append, takeWhile_run hrun ht, dropWhile_run hrun ht]

lemma readAssignment_render {s : Assignment} (h : s.WellFormed) {t : Text}
    (ht : StopsAt (fun c => !isBlank c) t) :
    Attribute.readAssignment (trimStart (s.render ++ t)) = (some s.value, t) := by
  rw [Assignment.render, List.append_assoc, List.cons_append, List.append_assoc,
    trimStart_run h.before (stopsAt_cons (by decide) _), Attribute.readAssignment,
    trimStart_run h.after (h.value.stopsAt_render t), readValue_render h.value ht]

/-- The reader takes an attribute as it is written. -/
lemma parseSteps_render {a : WrittenAttribute} (h : a.WellFormed) {t : Text}
    (ht : StopsAt (fun c => !isBlank c) t) (hequals : StopsAt (· = '=') (trimStart t))
    (fuel : Nat) :
    Attribute.parseSteps (fuel + 1) (a.render ++ t)
      = a.toAttribute :: Attribute.parseSteps fuel t := by
  have hnone : Attribute.readAssignment (trimStart t) = (none, trimStart t) := by
    cases hc : trimStart t with
    | nil => rfl
    | cons c cs =>
        have hc : c ≠ '=' := by simpa using hequals c (by simp [hc])
        simp [Attribute.readAssignment, hc]
  have hstops : StopsAt Attribute.isNameChar (a.behindName ++ t) := by
    refine h.stopsAt_behindName (fun c hc => isNameChar_of_blank hc) (by decide) fun c hc => ?_
    exact isNameChar_of_blank (by simpa using ht c hc)
  rw [WrittenAttribute.render, List.append_assoc, List.append_assoc,
    parseSteps_name h.blanks h.name_ne h.name hstops, WrittenAttribute.toAttribute,
    WrittenAttribute.behindName]
  cases hs : a.assignment with
  | none =>
      rw [Option.map_none, Option.getD_none, List.nil_append, hnone]
      exact congrArg _ (parseSteps_trimStart fuel t)
  | some s =>
      rw [Option.map_some, Option.getD_some, readAssignment_render (h.assignment s hs) ht]
      rfl

/-! ### Reading attributes -/

section Lists

variable {attributes : List WrittenAttribute} {blanks : Text}

lemma parseSteps_renderWritten (h : ∀ a ∈ attributes, a.WellFormed)
    (hsetOff : ∀ a ∈ attributes.tail, a.blanks ≠ []) (hblanks : ∀ c ∈ blanks, isBlank c = true)
    {fuel : Nat} (hfuel : attributes.length ≤ fuel) :
    Attribute.parseSteps fuel (renderWritten attributes ++ blanks)
      = attributes.map WrittenAttribute.toAttribute := by
  have htrim : trimStart blanks = [] := by simpa [trimStart] using hblanks
  induction attributes generalizing fuel with
  | nil =>
      cases fuel with
      | zero => rfl
      | succ fuel =>
          change Attribute.parseSteps (fuel + 1) blanks = []
          rw [Attribute.parseSteps, htrim]
  | cons a attributes ih =>
      have hrest : ∀ b ∈ attributes, b.WellFormed := fun b hb => h b (by simp [hb])
      obtain ⟨fuel, rfl⟩ : ∃ k, fuel = k + 1 := ⟨fuel - 1, by simp at hfuel; omega⟩
      have hbehind : StopsAt (fun c => !isBlank c) (renderWritten attributes ++ blanks) :=
        stopsAt_renderWritten (fun b hb => (hrest b hb).toNamed) hsetOff (by simp)
          (stopsAt_blanks hblanks)
      have hequals : StopsAt (· = '=') (trimStart (renderWritten attributes ++ blanks)) :=
        stopsAt_trimStart_renderWritten (fun b hb => (hrest b hb).toNamed)
          (stopsAt_trimStart_blanks hblanks)
      rw [renderWritten_cons, List.append_assoc, parseSteps_render (h a (by simp)) hbehind hequals,
        ih hrest (fun b hb => hsetOff b (List.mem_of_mem_tail hb)) (by simpa using hfuel),
        List.map_cons]

/-- **Written attributes are read back**, if each but the first one is set off by blanks. -/
theorem parse_renderWritten (h : ∀ a ∈ attributes, a.WellFormed)
    (hsetOff : ∀ a ∈ attributes.tail, a.blanks ≠ []) (hblanks : ∀ c ∈ blanks, isBlank c = true) :
    Attribute.parse (renderWritten attributes ++ blanks)
      = attributes.map WrittenAttribute.toAttribute := by
  refine parseSteps_renderWritten h hsetOff hblanks ?_
  have hlength := length_le_renderWritten fun a ha => (h a ha).name_ne
  rw [List.length_append]
  omega

end Lists

/-! ### Double quotes for every value -/

section Written

variable {attributes : List Attribute} {a : Attribute} {blanks blanks' : Text}

lemma Attribute.wellFormed_written (h : (a.written blanks).Named)
    (hvalue : ∀ value, a.value = some value → '"' ∉ value) : (a.written blanks).WellFormed := by
  refine ⟨h, fun s hs => ?_⟩
  obtain ⟨value, hsome, rfl⟩ := Option.map_eq_some_iff.mp hs
  exact ⟨by simp, by simp, hvalue value hsome⟩

/-- A value in double quotes is read up to the first double quote. -/
lemma Attribute.notMem_of_parseSteps (ha : (a.written blanks).Named) {fuel : Nat} {t : Text}
    {others : List Attribute}
    (h : parseSteps (fuel + 1) ((a.written blanks).render ++ t) = a :: others) :
    ∀ value, a.value = some value → '"' ∉ value := by
  rintro value hvalue hmem
  obtain ⟨name, _⟩ := a
  subst hvalue
  have hrender : (written blanks ⟨name, some value⟩).render ++ t
      = blanks ++ (name ++ '=' :: '"' :: (value ++ '"' :: t)) := by
    simp [written, WrittenAttribute.render, WrittenAttribute.behindName, Assignment.render,
      Quoting.render]
  have hblanks : ∀ c ∈ blanks, isBlank c = true := ha.blanks
  have hne : name ≠ [] := ha.name_ne
  have hname : ∀ c ∈ name, isNameChar c = true := ha.name
  rw [hrender, parseSteps_name hblanks hne hname (stopsAt_cons (by decide) _)] at h
  have hread : (value ++ '"' :: t).takeWhile (· != '"') = value :=
    Option.some.inj (Attribute.mk.inj (List.cons.inj h).1).2
  rw [← hread] at hmem
  exact absurd (List.mem_takeWhile_imp hmem) (by decide)

lemma Attribute.notMem_of_parseSteps_written (hnamed : ∀ a ∈ attributes, (a.written blanks).Named)
    (hsetOff : blanks ≠ []) (hblanks' : ∀ c ∈ blanks', isBlank c = true) {fuel : Nat}
    (hfuel : attributes.length ≤ fuel)
    (h : parseSteps fuel (renderWritten (attributes.map (written blanks)) ++ blanks')
      = attributes) :
    ∀ a ∈ attributes, ∀ value, a.value = some value → '"' ∉ value := by
  induction attributes generalizing fuel with
  | nil => simp
  | cons a attributes ih =>
      obtain ⟨fuel, rfl⟩ : ∃ k, fuel = k + 1 := ⟨fuel - 1, by simp at hfuel; omega⟩
      have hrest : ∀ b ∈ attributes, (b.written blanks).Named := fun b hb => hnamed b (by simp [hb])
      have hall : ∀ b ∈ attributes.map (written blanks), b.Named := by simpa using hrest
      rw [List.map_cons, renderWritten_cons, List.append_assoc] at h
      have ha := notMem_of_parseSteps (hnamed a (by simp)) h
      have hbehind : StopsAt (fun c => !isBlank c)
          (renderWritten (attributes.map (written blanks)) ++ blanks') :=
        stopsAt_renderWritten hall (by simp [written, hsetOff]) (by simp) (stopsAt_blanks hblanks')
      have hequals : StopsAt (· = '=')
          (trimStart (renderWritten (attributes.map (written blanks)) ++ blanks')) :=
        stopsAt_trimStart_renderWritten hall (stopsAt_trimStart_blanks hblanks')
      rw [parseSteps_render (wellFormed_written (hnamed a (by simp)) ha) hbehind hequals,
        toAttribute_written] at h
      have hothers := ih hrest (by simpa using hfuel) (List.cons.inj h).2
      intro b hb
      rcases List.mem_cons.mp hb with rfl | hb
      · exact ha
      · exact hothers b hb

/-- **Attributes in double quotes are read back exactly if no value holds a double quote.** -/
theorem Attribute.parse_written_iff (hnamed : ∀ a ∈ attributes, (a.written blanks).Named)
    (hsetOff : blanks ≠ []) (hblanks' : ∀ c ∈ blanks', isBlank c = true) :
    parse (renderWritten (attributes.map (written blanks)) ++ blanks') = attributes
      ↔ ∀ a ∈ attributes, ∀ value, a.value = some value → '"' ∉ value := by
  constructor
  · refine notMem_of_parseSteps_written hnamed hsetOff hblanks' ?_
    have hne : ∀ a ∈ attributes.map (written blanks), a.name ≠ [] := by
      simpa using fun a ha => (hnamed a ha).name_ne
    have hlength := length_le_renderWritten hne
    rw [List.length_map] at hlength
    rw [List.length_append]
    omega
  · intro hvalues
    have hwell : ∀ a ∈ attributes.map (written blanks), a.WellFormed := by
      simpa using fun a ha => wellFormed_written (hnamed a ha) (hvalues a ha)
    rw [parse_renderWritten hwell (fun a ha => ?_) hblanks', List.map_map]
    · simp [Function.comp_def]
    · obtain ⟨b, -, rfl⟩ := List.mem_map.mp (List.mem_of_mem_tail ha)
      exact hsetOff

end Written

end Markup

end ComponentFile
