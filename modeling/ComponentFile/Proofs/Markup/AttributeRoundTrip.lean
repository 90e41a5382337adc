import Mathlib.Tactic
import ComponentFile.Proofs.Markup.WrittenAttribute

/-!
Reading and writing attributes are inverse to each other.

That written attributes are read back is `parse_renderWritten`. In the other direction the reader
makes attributes of any text at all, with quotes that are never closed and a `=` wherever it may
stand, and what it makes can always be written.

* `Step.read` is what the reader takes off the front of a text in one step, and `Reads` the loop
  over these steps, with no bound on their number. Each step leaves less than it found
  (`length_rest_lt`), so the loop comes to an end with the attributes of `parse` (`reads_parse`).
* `Legible`: the name of an attribute can be read back, and its value stands in one of the three
  forms of `Quoting`. `Reads.legible` carries this along the loop.
* `rewritten` chooses a form for each value. `parse_renderWritten_inverse` is both directions.
-/

namespace ComponentFile

open Text

namespace Markup

/-! ### Lists that can be read back -/

/-- Attributes that can be read back one after the other: each but the first one is set off from the
one before it. -/
@[mk_iff]
structure WellWritten (attributes : List WrittenAttribute) : Prop where
  wellFormed : ∀ a ∈ attributes, a.WellFormed
  setOff : ∀ a ∈ attributes.tail, a.blanks ≠ []

instance (attributes : List WrittenAttribute) : Decidable (WellWritten attributes) :=
  decidable_of_iff _ (wellWritten_iff attributes).symm

namespace Attribute

/-! ### The steps of the reader -/

/-- What the reader takes off the front of a text at once. -/
structure Step where
  /-- The name; it is empty in front of a `=` that has none. -/
  name : Text
  /-- The value that `=` introduces. -/
  value : Option Text
  /-- The text that is left. -/
  rest : Text

namespace Step

/-- The step at the front of a text. -/
def read (text : Text) : Step :=
  let (value, rest) := readAssignment (trimStart ((trimStart text).dropWhile isNameChar))
  ⟨(trimStart text).takeWhile isNameChar, value, rest⟩

/-- The attribute of a step; there is none without a name. -/
def attributes (step : Step) : List Attribute :=
  if step.name.isEmpty then [] else [⟨step.name, step.value⟩]

end Step

/-- The attributes that are read off a text step by step, until there is nothing left but blanks. -/
inductive Reads : (text : Text) → (attributes : List Attribute) → Prop where
  | done {text : Text} (h : trimStart text = []) : Reads text []
  | step {text : Text} {attributes : List Attribute} (h : trimStart text ≠ [])
      (hrest : Reads (Step.read text).rest attributes) :
      Reads text ((Step.read text).attributes ++ attributes)

lemma parseSteps_succ {text : Text} (h : trimStart text ≠ []) (fuel : Nat) :
    parseSteps (fuel + 1) text
      = (Step.read text).attributes ++ parseSteps fuel (Step.read text).rest := by
  obtain ⟨c, cs, hc⟩ := List.exists_cons_of_ne_nil h
  rw [parseSteps, Step.attributes, Step.read, hc]
  dsimp only
  split_ifs <;> rfl

lemma stopsAt_trimStart (text : Text) : StopsAt isBlank (trimStart text) := by
  intro c hc
  have hhead := List.head?_dropWhile_not isBlank text
  rw [← trimStart, hc] at hhead
  simpa using hhead

lemma length_trimStart_le (text : Text) : (trimStart text).length ≤ text.length :=
  (List.dropWhile_suffix _).length_le

lemma length_readValue_le (text : Text) : (readValue text).2.length ≤ text.length := by
  cases text with
  | nil => exact le_rfl
  | cons c cs =>
      rw [readValue]
      split_ifs
      · have hdrop := (List.dropWhile_suffix (· != c) (l := cs)).length_le
        rw [List.length_tail, List.length_cons]
        omega
      · exact (List.dropWhile_suffix _).length_le

lemma length_readAssignment_le (text : Text) : (readAssignment text).2.length ≤ text.length := by
  unfold readAssignment
  split
  case h_1 cs =>
    calc (readValue (trimStart cs)).2.length ≤ (trimStart cs).length := length_readValue_le _
      _ ≤ cs.length := length_trimStart_le cs
      _ ≤ ('=' :: cs).length := Nat.le_succ _
  case h_2 => exact le_rfl

/-- **Each step leaves less than it found**: it takes at least one character of a name, or the `=`
that stands in place of one. -/
lemma Step.length_rest_lt {text : Text} (h : trimStart text ≠ []) :
    (Step.read text).rest.length < text.length := by
  refine lt_of_lt_of_le ?_ (length_trimStart_le text)
  have hstops := stopsAt_trimStart text
  rw [Step.read]
  dsimp only
  obtain ⟨c, cs, hc⟩ := List.exists_cons_of_ne_nil h
  rw [hc] at hstops ⊢
  by_cases hname : isNameChar c = true
  · calc (readAssignment (trimStart ((c :: cs).dropWhile isNameChar))).2.length
        ≤ (trimStart ((c :: cs).dropWhile isNameChar)).length := length_readAssignment_le _
      _ = (trimStart (cs.dropWhile isNameChar)).length := by
          rw [List.dropWhile_cons_of_pos hname]
      _ ≤ (cs.dropWhile isNameChar).length := length_trimStart_le _
      _ ≤ cs.length := (List.dropWhile_suffix _).length_le
      _ < (c :: cs).length := Nat.lt_succ_self _
  · -- what is neither a blank nor part of a name is the sign itself
    obtain rfl : c = '=' := by simpa [isNameChar, hstops c rfl] using hname
    calc (readAssignment (trimStart (('=' :: cs).dropWhile isNameChar))).2.length
        = (readValue (trimStart cs)).2.length := rfl
      _ ≤ (trimStart cs).length := length_readValue_le _
      _ ≤ cs.length := length_trimStart_le cs
      _ < ('=' :: cs).length := Nat.lt_succ_self _

lemma reads_parseSteps {text : Text} {fuel : Nat} (h : text.length ≤ fuel) :
    Reads text (parseSteps fuel text) := by
  induction fuel generalizing text with
  | zero =>
      obtain rfl : text = [] := List.length_eq_zero_iff.mp (Nat.le_zero.mp h)
      exact .done rfl
  | succ fuel ih =>
      by_cases hdone : trimStart text = []
      · rw [parseSteps, hdone]
        exact .done hdone
      · have hlt := Step.length_rest_lt hdone
        rw [parseSteps_succ hdone]
        exact .step hdone (ih (by omega))

/-- **The reader comes to an end**, whatever the text. -/
lemma reads_parse (raw : Text) : Reads raw (parse raw) := reads_parseSteps le_rfl

/-! ### What is read can be written -/

/-- An attribute that can be written: its name can be read back, and its value in one of the forms
of values. -/
structure Legible (a : Attribute) : Prop where
  name_ne : a.name ≠ []
  name : ∀ c ∈ a.name, isBlank c = false ∧ c ≠ '='
  value : ∀ value, a.value = some value → ∃ q : Quoting, q.Holds value

/-- A value is read in quotes up to the next one of its kind, or without quotes up to a blank. -/
lemma exists_holds_readValue {text : Text} (h : StopsAt isBlank text) :
    ∃ q : Quoting, q.Holds (readValue text).1 := by
  cases text with
  | nil => exact ⟨.double, List.not_mem_nil⟩
  | cons c cs =>
      have hquoted : c ∉ cs.takeWhile (· != c) := fun hmem =>
        absurd (List.mem_takeWhile_imp hmem) (by simp)
      by_cases hdouble : c = '"'
      · subst hdouble
        exact ⟨.double, hquoted⟩
      by_cases hsingle : c = '\''
      · subst hsingle
        exact ⟨.single, hquoted⟩
      have hc : (!isBlank c) = true := by simpa using h c rfl
      have hread : (readValue (c :: cs)).1 = c :: cs.takeWhile (!isBlank ·) := by
        rw [readValue, if_neg (by simp [hdouble, hsingle])]
        exact List.takeWhile_cons_of_pos (p := (!isBlank ·)) hc
      rw [hread]
      refine ⟨.unquoted, List.cons_ne_nil _ _, ?_, by simpa using hdouble, by simpa using hsingle⟩
      exact List.forall_mem_cons.mpr
        ⟨h c rfl, fun d hd => by simpa using List.mem_takeWhile_imp hd⟩

lemma exists_holds_readAssignment {text value : Text}
    (h : (readAssignment text).1 = some value) : ∃ q : Quoting, q.Holds value := by
  unfold readAssignment at h
  split at h
  case h_1 cs =>
    obtain rfl := Option.some.inj h
    exact exists_holds_readValue (stopsAt_trimStart cs)
  case h_2 => cases h

/-- The attribute of a step can be written. -/
lemma Step.legible {text : Text} {a : Attribute} (h : a ∈ (Step.read text).attributes) :
    a.Legible := by
  rw [Step.attributes] at h
  split_ifs at h with hname
  · cases h
  · obtain rfl := List.mem_singleton.mp h
    refine ⟨by simpa using hname, fun c hc => ?_, fun value => exists_holds_readAssignment⟩
    simpa [isNameChar] using List.mem_takeWhile_imp hc

/-- **Every attribute that is read can be written.** -/
lemma Reads.legible {text : Text} {attributes : List Attribute} (h : Reads text attributes) :
    ∀ a ∈ attributes, a.Legible := by
  induction h with
  | done => simp
  | step _ _ ih =>
      intro a ha
      rcases List.mem_append.mp ha with ha | ha
      · exact Step.legible ha
      · exact ih a ha

/-! ### Writing -/

/-- A form for a value. -/
def quotingOf (value : Text) : Quoting :=
  if '"' ∈ value then if '\'' ∈ value then .unquoted else .single else .double

/-- The form is right if there is one. -/
lemma holds_quotingOf {value : Text} (h : ∃ q : Quoting, q.Holds value) :
    (quotingOf value).Holds value := by
  rw [quotingOf]
  split_ifs with hdouble hsingle
  · obtain ⟨q, hq⟩ := h
    cases q with
    | double => exact absurd hdouble hq
    | single => exact absurd hsingle hq
    | unquoted => exact hq
  · exact hsingle
  · exact hdouble

/-- An attribute behind a space, with its value in a form that is right for it. -/
def rewritten (a : Attribute) : WrittenAttribute :=
  ⟨[' '], a.name, a.value.map fun value => ⟨[], [], quotingOf value, value⟩⟩

lemma toAttribute_rewritten (a : Attribute) : a.rewritten.toAttribute = a := by
  obtain ⟨name, value⟩ := a
  cases value <;> rfl

lemma Legible.wellFormed_rewritten {a : Attribute} (h : a.Legible) : a.rewritten.WellFormed := by
  refine ⟨⟨by simp [rewritten, isBlank, blankRanges], h.name_ne, fun c hc => ?_⟩, fun s hs => ?_⟩
  · simpa [isNameChar] using h.name c hc
  · obtain ⟨value, hsome, rfl⟩ := Option.map_eq_some_iff.mp hs
    exact ⟨by simp, by simp, holds_quotingOf (h.value value hsome)⟩

/-- Attributes that can be written, written. -/
lemma wellWritten_rewritten {attributes : List Attribute} (h : ∀ a ∈ attributes, a.Legible) :
    WellWritten (attributes.map rewritten) := by
  constructor
  · simpa using fun a ha => (h a ha).wellFormed_rewritten
  · intro a ha
    obtain ⟨b, -, rfl⟩ := List.mem_map.mp (List.mem_of_mem_tail ha)
    exact List.cons_ne_nil _ _

/-- **Reading and writing attributes are inverse to each other.** Attributes that are written with
blanks between them are read back, whatever the form of their values. From any text attributes are
read in finitely many steps, all of which can be written, and in whatever way they are written they
are read again. -/
theorem parse_renderWritten_inverse :
    (∀ (attributes : List WrittenAttribute) (blanks : Text), WellWritten attributes →
        (∀ c ∈ blanks, isBlank c = true) →
        parse (renderWritten attributes ++ blanks) = attributes.map WrittenAttribute.toAttribute)
      ∧ ∀ raw : Text, Reads raw (parse raw) ∧ (∀ a ∈ parse raw, a.Legible)
        ∧ (∃ attributes, WellWritten attributes
          ∧ attributes.map WrittenAttribute.toAttribute = parse raw)
        ∧ ∀ (attributes : List WrittenAttribute) (blanks : Text), WellWritten attributes →
          (∀ c ∈ blanks, isBlank c = true) →
          attributes.map WrittenAttribute.toAttribute = parse raw →
          parse (renderWritten attributes ++ blanks) = parse raw := by
  have hback : ∀ (attributes : List WrittenAttribute) (blanks : Text), WellWritten attributes →
      (∀ c ∈ blanks, isBlank c = true) →
      parse (renderWritten attributes ++ blanks) = attributes.map WrittenAttribute.toAttribute :=
    fun attributes blanks h => parse_renderWritten h.wellFormed h.setOff
  refine ⟨hback, fun raw => ?_⟩
  have hlegible := (reads_parse raw).legible
  refine ⟨reads_parse raw, hlegible, ⟨_, wellWritten_rewritten hlegible, ?_⟩, ?_⟩
  · simp [Function.comp_def, toAttribute_rewritten]
  · intro attributes blanks h hblanks hsame
    rw [hback attributes blanks h hblanks, hsame]

/-- `parse_renderWritten_inverse` for a text that begins with a value without a name and ends in a
quote that is never closed. One value holds both quotes, and is written without any. -/
theorem parse_renderWritten_inverse_garbage :
    let raw : Text := "= x a =\u3000'p \"q' e= b=\"c' d='".toList
    let written : List WrittenAttribute :=
      [⟨[], "a".toList, some ⟨[' '], ['\n'], .single, "p \"q".toList⟩⟩,
        ⟨['\t'], "e".toList, some ⟨[], [], .unquoted, "b=\"c'".toList⟩⟩,
        ⟨[' '], "d".toList, some ⟨[], [], .double, []⟩⟩]
    WellWritten written ∧ written.map WrittenAttribute.toAttribute = parse raw
      ∧ Reads raw (parse raw) ∧ (∀ a ∈ parse raw, a.Legible)
      ∧ parse (renderWritten written ++ [' ']) = written.map WrittenAttribute.toAttribute
      ∧ parse (renderWritten written ++ [' ']) = parse raw := by
  intro raw written
  have hwritten : WellWritten written := by decide
  have hsame : written.map WrittenAttribute.toAttribute = parse raw := by decide
  obtain ⟨hreads, hlegible, -, hagain⟩ := parse_renderWritten_inverse.2 raw
  exact ⟨hwritten, hsame, hreads, hlegible,
    parse_renderWritten_inverse.1 written [' '] hwritten (by decide),
    hagain written [' '] hwritten (by decide) hsame⟩

end Attribute

end Markup

end ComponentFile
