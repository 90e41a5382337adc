import Mathlib.Data.List.Infix
import Mathlib.Data.List.MinMax
import Mathlib.Tactic
import ComponentFile.Editor.Detection

/-!
Detection finds the leftmost and longest name in the first change that has one.

The search tries names in the order of their weights at every place of a text. The names that occur
at one place are first parts of one another, and along such a chain the weight grows with the length
(`weight_lt_of_prefix`). So the first name tried is the longest one: `find?_searchNames`.

`typedIn?` says the same without weights and sorting, and `detect?_leftmostLongest` that detection
answers alike.
-/

namespace ComponentFile

open Text

namespace Detection

/-! ### The plain rule -/

/-- The names of components, the empty one left out. -/
def namesOf (components : List Component) : List Text :=
  (components.map (·.name)).filter (· ≠ [])

/-- The names that occur in a text behind its first `place` characters. -/
def namesAt (names : List Text) (text : Text) (place : Nat) : List Text :=
  names.filter (·.isPrefixOf (text.drop place))

/-- The first place of a text at which a name occurs. -/
def firstPlace? (names : List Text) (text : Text) : Option Nat :=
  (List.range text.length).find? fun place => !(namesAt names text place).isEmpty

/-- The longest of the names that occur at the first place of a text where any of them does. -/
def leftmostLongest? (names : List Text) (text : Text) : Option Text := do
  (namesAt names text (← firstPlace? names text)).argmax List.length

/-- Whether a change lies strictly inside the lines of a template and holds one of the names. -/
def Touches (template : Block) (names : List Text) (change : TypedText) : Prop :=
  template.span.start.line < change.firstLine ∧ change.lastLine < template.span.stop.line
    ∧ ∃ name ∈ names, name <:+: change.text

instance (template : Block) (names : List Text) (change : TypedText) :
    Decidable (Touches template names change) :=
  inferInstanceAs (Decidable (_ ∧ _ ∧ _))

/-- The component that was typed into a template: the first one with the leftmost and longest name
in the first change that touches the template. -/
def typedIn? (template : Block) (changes : List TypedText) (components : List Component) :
    Option Component := do
  let change ← changes.find? (Touches template (namesOf components) ·)
  let name ← leftmostLongest? (namesOf components) change.text
  components.find? (·.name = name)

/-! ### Weights -/

lemma weight_append (a b : Text) : weight (a ++ b) = weight a + weight b := by
  simp only [weight, bytes_append, List.filter_append, List.length_append]
  omega

lemma weight_pos {name : Text} (h : name ≠ []) : 0 < weight name := by
  obtain ⟨c, cs, rfl⟩ := List.exists_cons_of_ne_nil h
  have hc := c.utf8Size_pos
  simp only [weight, bytes_cons]
  omega

/-- Of two names that occur at the same place, the longer one is heavier. -/
lemma weight_lt_of_prefix {a b s : Text} (ha : a <+: s) (hb : b <+: s)
    (hlen : a.length < b.length) : weight a < weight b := by
  obtain ⟨u, rfl⟩ := List.prefix_of_prefix_length_le ha hb hlen.le
  have hu : u ≠ [] := by
    rintro rfl
    simp at hlen
  have hpos := weight_pos hu
  rw [weight_append]
  omega

/-! ### One place -/

lemma mem_searchNames {components : List Component} {name : Text} :
    name ∈ searchNames components ↔ name ∈ namesOf components := by
  rw [searchNames, List.mem_mergeSort, namesOf, List.mem_filter, List.mem_filter]
  simp

lemma searchNames_pairwise (components : List Component) :
    (searchNames components).Pairwise fun a b => weight b ≤ weight a := by
  have hsorted : (searchNames components).Pairwise fun a b => decide (weight b ≤ weight a) = true :=
    List.pairwise_mergeSort (fun a b c hab hbc => by simp at *; omega) (fun a b => by simp; omega) _
  exact hsorted.imp of_decide_eq_true

/-- Two names of the same length that occur at the same place are the same. -/
lemma eq_of_prefix {a b s : Text} (ha : a <+: s) (hb : b <+: s) (hlen : a.length = b.length) :
    a = b :=
  (List.prefix_of_prefix_length_le ha hb hlen.le).eq_of_length hlen

/-- The first name found is at least as long as any other one at its place. -/
lemma length_le_of_find? {components : List Component} {s name other : Text}
    (h : (searchNames components).find? (·.isPrefixOf s) = some name)
    (hother : other ∈ searchNames components) (hoccurs : other <+: s) :
    other.length ≤ name.length := by
  obtain ⟨hname, before, behind, hsplit, hbefore⟩ := List.find?_eq_some_iff_append.mp h
  have hsorted := searchNames_pairwise components
  rw [hsplit] at hother hsorted
  rcases List.mem_append.mp hother with hearlier | hlater
  · have hnot := hbefore other hearlier
    rw [List.isPrefixOf_iff_prefix.mpr hoccurs] at hnot
    cases hnot
  · rcases List.mem_cons.mp hlater with rfl | hlater
    · exact le_rfl
    · -- a longer name would be heavier, and tried before
      by_contra hlonger
      have hlt := weight_lt_of_prefix (List.isPrefixOf_iff_prefix.mp hname) hoccurs
        (not_le.mp hlonger)
      have hle := (List.pairwise_cons.mp (List.pairwise_append.mp hsorted).2.1).1 other hlater
      omega

/-- The first name found at a place is the longest one. -/
lemma find?_searchNames (components : List Component) (s : Text) :
    (searchNames components).find? (·.isPrefixOf s)
      = ((namesOf components).filter (·.isPrefixOf s)).argmax List.length := by
  cases h : (searchNames components).find? (·.isPrefixOf s) with
  | none =>
      refine (List.argmax_eq_none.mpr (List.filter_eq_nil_iff.mpr fun name hname => ?_)).symm
      exact List.find?_eq_none.mp h name (mem_searchNames.mpr hname)
  | some name =>
      have htest : name.isPrefixOf s = true := List.find?_some (p := (List.isPrefixOf · s)) h
      have hname := List.isPrefixOf_iff_prefix.mp htest
      have hmem : name ∈ (namesOf components).filter (·.isPrefixOf s) :=
        List.mem_filter.mpr ⟨mem_searchNames.mp (List.mem_of_find?_eq_some h), htest⟩
      obtain ⟨longest, hlongest⟩ : ∃ longest,
          ((namesOf components).filter (·.isPrefixOf s)).argmax List.length = some longest := by
        rw [← Option.ne_none_iff_exists', ne_eq, List.argmax_eq_none]
        exact List.ne_nil_of_mem hmem
      obtain ⟨hin, hoccurs⟩ := List.mem_filter.mp (List.argmax_mem hlongest)
      rw [List.isPrefixOf_iff_prefix] at hoccurs
      have hle := length_le_of_find? h (mem_searchNames.mpr hin) hoccurs
      have hge := List.le_of_mem_argmax hmem hlongest
      rw [hlongest, eq_of_prefix hname hoccurs (le_antisymm hge hle)]

/-! ### One text -/

/-- The search goes from place to place. -/
lemma findName?_eq (names : List Text) (text : Text) :
    findName? names text = (firstPlace? names text).bind fun place =>
      names.find? (·.isPrefixOf (text.drop place)) := by
  induction text with
  | nil => rfl
  | cons c cs ih =>
      have hfirst : firstPlace? names (c :: cs)
          = if (namesAt names (c :: cs) 0).isEmpty then (firstPlace? names cs).map (· + 1)
            else some 0 := by
        rw [firstPlace?, List.length_cons, List.range_succ_eq_map, List.find?_cons, List.find?_map]
        cases (namesAt names (c :: cs) 0).isEmpty <;> rfl
      have hhere : (namesAt names (c :: cs) 0).isEmpty
          = (names.find? (·.isPrefixOf (c :: cs))).isNone := by
        rw [Bool.eq_iff_iff, List.isEmpty_iff, Option.isNone_iff_eq_none, List.find?_eq_none,
          namesAt, List.filter_eq_nil_iff, List.drop_zero]
      rw [findName?, hfirst, hhere, ih]
      cases h : names.find? (·.isPrefixOf (c :: cs)) with
      | none =>
          show (firstPlace? names cs).bind _ = ((firstPlace? names cs).map (· + 1)).bind _
          rw [Option.bind_map]
          rfl
      | some name => exact h.symm

/-- The search in a text answers the leftmost and longest name. -/
lemma findName?_searchNames (components : List Component) (text : Text) :
    findName? (searchNames components) text = leftmostLongest? (namesOf components) text := by
  have hplace : firstPlace? (searchNames components) text
      = firstPlace? (namesOf components) text := by
    rw [firstPlace?, firstPlace?]
    congr 1
    funext place
    rw [Bool.eq_iff_iff, Bool.not_eq_true', Bool.not_eq_true', List.isEmpty_eq_false_iff_exists_mem,
      List.isEmpty_eq_false_iff_exists_mem]
    simp only [namesAt, List.mem_filter, mem_searchNames]
  rw [findName?_eq, hplace, leftmostLongest?]
  simp only [find?_searchNames]
  rfl

/-- A text has a leftmost and longest name if any name occurs in it at all. -/
lemma isSome_leftmostLongest? {names : List Text} (hnames : ∀ name ∈ names, name ≠ [])
    (text : Text) :
    (leftmostLongest? names text).isSome = true ↔ ∃ name ∈ names, name <:+: text := by
  constructor
  · intro h
    obtain ⟨longest, hlongest⟩ := Option.isSome_iff_exists.mp h
    obtain ⟨place, -, hargmax⟩ := Option.bind_eq_some_iff.mp hlongest
    obtain ⟨hmem, hoccurs⟩ := List.mem_filter.mp (List.argmax_mem hargmax)
    exact ⟨longest, hmem,
      (List.isPrefixOf_iff_prefix.mp hoccurs).isInfix.trans (List.drop_suffix _ _).isInfix⟩
  · rintro ⟨name, hmem, before, behind, rfl⟩
    have hat : name ∈ namesAt names (before ++ name ++ behind) before.length := by
      refine List.mem_filter.mpr ⟨hmem, List.isPrefixOf_iff_prefix.mpr ?_⟩
      rw [List.append_assoc, List.drop_left]
      exact List.prefix_append _ _
    have hlt : before.length < (before ++ name ++ behind).length := by
      have := List.length_pos_iff.mpr (hnames name hmem)
      simp only [List.length_append]
      omega
    have hfound : (firstPlace? names (before ++ name ++ behind)).isSome = true := by
      refine List.find?_isSome.mpr ⟨before.length, List.mem_range.mpr hlt, ?_⟩
      simpa using List.ne_nil_of_mem hat
    obtain ⟨place, hplace⟩ := Option.isSome_iff_exists.mp hfound
    have hne : namesAt names (before ++ name ++ behind) place ≠ [] := by
      simpa using List.find?_some (p := fun i => !(namesAt names _ i).isEmpty) hplace
    rw [leftmostLongest?, hplace, Option.isSome_iff_ne_none]
    exact fun hnone => hne (List.argmax_eq_none.mp hnone)

/-! ### All changes -/

lemma ne_nil_of_mem_namesOf {components : List Component} :
    ∀ name ∈ namesOf components, name ≠ [] := by
  intro name hname
  simpa using (List.mem_filter.mp hname).2

/-- The first answer of a search over a list is that for the first member with one. -/
lemma findSome?_eq_bind {α β : Type} (f : α → Option β) (l : List α) :
    l.findSome? f = (l.find? fun a => (f a).isSome).bind f := by
  induction l with
  | nil => rfl
  | cons a l ih =>
      rw [List.findSome?_cons, List.find?_cons, ih]
      cases h : f a with
      | none => rfl
      | some b => exact h.symm

/-- Detection in a template follows the plain rule. -/
lemma detectIn?_eq_typedIn? (template : Block) (changes : List TypedText)
    (components : List Component) :
    detectIn? template changes components = typedIn? template changes components := by
  have htouches : (fun change : TypedText => decide
      (Placement.isTemplateChange change.firstLine change.lastLine template = true
        ∧ (leftmostLongest? (namesOf components) change.text).isSome = true))
      = fun change => decide (Touches template (namesOf components) change) := by
    funext change
    rw [decide_eq_decide, isSome_leftmostLongest? ne_nil_of_mem_namesOf, Touches,
      Placement.isTemplateChange, Bool.and_eq_true, decide_eq_true_eq, decide_eq_true_eq, and_assoc]
  rw [detectIn?, typedIn?]
  simp only [findName?_searchNames, findSome?_eq_bind, List.find?_filter, htouches]
  exact Option.bind_assoc _ _ _

/-- There is an answer if some change touches the template: the name found there belongs to a
component. -/
lemma isSome_typedIn? (template : Block) (changes : List TypedText) (components : List Component) :
    (typedIn? template changes components).isSome = true
      ↔ ∃ change ∈ changes, Touches template (namesOf components) change := by
  constructor
  · intro h
    obtain ⟨component, hcomponent⟩ := Option.isSome_iff_exists.mp h
    obtain ⟨change, hchange, -⟩ := Option.bind_eq_some_iff.mp hcomponent
    exact ⟨change, List.mem_of_find?_eq_some hchange,
      of_decide_eq_true (List.find?_some (p := (Touches template (namesOf components) ·)) hchange)⟩
  · rintro ⟨first, hfirst, htouches⟩
    have hfound : (changes.find? (Touches template (namesOf components) ·)).isSome = true :=
      List.find?_isSome.mpr ⟨first, hfirst, decide_eq_true htouches⟩
    obtain ⟨change, hchange⟩ := Option.isSome_iff_exists.mp hfound
    obtain ⟨-, -, hheld⟩ := of_decide_eq_true
      (List.find?_some (p := (Touches template (namesOf components) ·)) hchange)
    obtain ⟨name, hname⟩ := Option.isSome_iff_exists.mp
      ((isSome_leftmostLongest? ne_nil_of_mem_namesOf change.text).mpr hheld)
    -- the name is one of the components'
    obtain ⟨place, -, hargmax⟩ := Option.bind_eq_some_iff.mp hname
    have hmem := (List.mem_filter.mp (List.mem_filter.mp (List.argmax_mem hargmax)).1).1
    obtain ⟨component, hin, rfl⟩ := List.mem_map.mp hmem
    rw [typedIn?, hchange]
    simp only [Option.bind_eq_bind, Option.bind_some, hname, List.find?_isSome]
    exact ⟨component, hin, by simp⟩

/-- **Detection is leftmost and longest, first change first.** In a document with a template,
detection answers the first component whose name is the longest one at the first place where any
name occurs, in the first change inside the template that holds a name. There is an answer exactly
if there is such a change. -/
theorem detect?_leftmostLongest (text : Text) (changes : List TypedText)
    (components : List Component) {template : Block}
    (htemplate : (Document.parse text).template = some template) :
    detect? text changes components = typedIn? template changes components
      ∧ ((detect? text changes components).isSome = true
        ↔ ∃ change ∈ changes, Touches template (namesOf components) change) := by
  have heq : detect? text changes components = typedIn? template changes components := by
    rw [detect?, htemplate]
    exact detectIn?_eq_typedIn? template changes components
  rw [heq]
  exact ⟨rfl, isSome_typedIn? template changes components⟩

/-- `detect?_leftmostLongest` for names that begin one another, stand in one another, hold dots or
are given twice, and for changes on the lines of the tags and without any name before the one that
counts. -/
theorem detect?_leftmostLongest_chained :
    let text : Text := "<template>\n<é/>\n</template>".toList
    let changes : List TypedText :=
      [⟨0, 1, "Foo".toList⟩, ⟨1, 1, "fo".toList⟩, ⟨1, 1, "é Foo.Bar. Foo.Bar.Baz".toList⟩]
    let components : List Component :=
      [⟨[], "e".toList⟩, ⟨"Bar".toList, "b".toList⟩, ⟨"Foo".toList, "f".toList⟩,
        ⟨"Foo.Bar".toList, "g".toList⟩, ⟨"Foo.Bar.Baz".toList, "h".toList⟩,
        ⟨"Foo.Bar".toList, "i".toList⟩]
    ∃ template, (Document.parse text).template = some template
      ∧ typedIn? template changes components = some ⟨"Foo.Bar".toList, "g".toList⟩
      ∧ detect? text changes components = some ⟨"Foo.Bar".toList, "g".toList⟩ := by
  intro text changes components
  have hrule : (Document.parse text).template.bind (typedIn? · changes components)
      = some ⟨"Foo.Bar".toList, "g".toList⟩ := by decide +kernel
  obtain ⟨template, htemplate, htyped⟩ := Option.bind_eq_some_iff.mp hrule
  obtain ⟨heq, -⟩ := detect?_leftmostLongest text changes components htemplate
  exact ⟨template, htemplate, htyped, heq.trans htyped⟩

end Detection

end ComponentFile
