import Mathlib.Tactic
import ComponentFile.Proofs.Script.Placement
import ComponentFile.Proofs.Text.Coordinates

/-!
An outline tells true coordinates of the document, and its spans are nested.

The positions of an outline are computed on the script alone and then anchored at the place where
the script begins. Here they are compared with those of the whole document.

* `Tree.Laid content`: the nodes of a syntax tree lie on boundaries of the script, inside their
  parents and, below one parent, one behind the other. `laid_of_isLaid` is a test for it, and with
  that of `Tree.isBracketed` it is one for `Tree.Placed`.
* `Statement.points`: all positions of a statement, down to the properties of nested objects.
* `ObjectLiteral.Nested`, `Declaration.NestedIn`: properties lie inside their object, one behind the
  other, and an object that is a value lies inside its property.
* `reads_of_laid` is the induction over trees. The values and the properties that a tree denotes go
  together, since an object is made of the properties of its children and a property has the value
  of a child.
* `outline_nested` is the statement for all documents and trees.
-/

namespace ComponentFile

open Text

/-! ### Spans -/

/-- A span lies inside another one. -/
structure Span.Inside (inner outer : Span) : Prop where
  start_le : outer.start.offset ≤ inner.start.offset
  ordered : inner.start.offset ≤ inner.stop.offset
  stop_le : inner.stop.offset ≤ outer.stop.offset

lemma Span.Inside.trans {a b c : Span} (hab : a.Inside b) (hbc : b.Inside c) : a.Inside c where
  start_le := hbc.start_le.trans hab.start_le
  ordered := hab.ordered
  stop_le := hab.stop_le.trans hbc.stop_le

/-- A span ends before another one begins. -/
def Span.Before (a b : Span) : Prop := a.stop.offset ≤ b.start.offset

namespace Script

/-! ### Trees -/

/-- The nodes of a tree lie on boundaries of the script, inside their parents, and the children of
a node one behind the other. -/
inductive Tree.Laid (content : Text) : Tree → Prop where
  | node {kind : Kind} {role : Role} {start stop : Nat} {children : List Tree}
      (hstart : content.IsBoundary start) (hstop : content.IsBoundary stop) (hle : start ≤ stop)
      (hnested : ∀ child ∈ children, start ≤ child.start ∧ child.stop ≤ stop)
      (hordered : children.Pairwise fun a b => a.stop ≤ b.start)
      (hchildren : ∀ child ∈ children, child.Laid content) :
      Laid content (.node kind role start stop children)

mutual

/-- A test of `Tree.Laid`. -/
def Tree.isLaid (content : Text) : Tree → Bool
  | .node _ _ start stop children =>
    decide (content.IsBoundary start) && decide (content.IsBoundary stop) && decide (start ≤ stop)
      && Tree.areLaid content start stop children

/-- Whether trees stand one behind the other from `low` up to `high`. -/
def Tree.areLaid (content : Text) (low high : Nat) : List Tree → Bool
  | [] => true
  | tree :: trees =>
    decide (low ≤ tree.start) && decide (tree.stop ≤ high) && tree.isLaid content
      && Tree.areLaid content tree.stop high trees

end

section Tree

variable {content : Text} {tree : Tree}

namespace Tree.Laid

lemma isBoundary_start (h : tree.Laid content) : content.IsBoundary tree.start := by
  cases h with
  | node hstart => exact hstart

lemma isBoundary_stop (h : tree.Laid content) : content.IsBoundary tree.stop := by
  cases h with
  | node _ hstop => exact hstop

lemma start_le_stop (h : tree.Laid content) : tree.start ≤ tree.stop := by
  cases h with
  | node _ _ hle => exact hle

lemma nested (h : tree.Laid content) {t : Tree} (ht : t ∈ tree.children) :
    tree.start ≤ t.start ∧ t.stop ≤ tree.stop := by
  cases h with
  | node _ _ _ hnested => exact hnested t ht

lemma ordered (h : tree.Laid content) : tree.children.Pairwise fun a b => a.stop ≤ b.start := by
  cases h with
  | node _ _ _ _ hordered => exact hordered

lemma child (h : tree.Laid content) {t : Tree} (ht : t ∈ tree.children) : t.Laid content := by
  cases h with
  | node _ _ _ _ _ hchildren => exact hchildren t ht

end Tree.Laid

mutual

/-- What passes the test is laid out. -/
theorem laid_of_isLaid (tree : Tree) (h : tree.isLaid content = true) : tree.Laid content := by
  match tree with
  | .node kind role start stop children =>
    simp only [Tree.isLaid, Bool.and_eq_true, decide_eq_true_eq] at h
    obtain ⟨⟨⟨hstart, hstop⟩, hle⟩, hchildren⟩ := h
    obtain ⟨hnested, hordered, hlaid⟩ := laid_of_areLaid start stop children hchildren
    exact .node hstart hstop hle hnested hordered hlaid

theorem laid_of_areLaid (low high : Nat) (trees : List Tree)
    (h : Tree.areLaid content low high trees = true) :
    (∀ t ∈ trees, low ≤ t.start ∧ t.stop ≤ high)
      ∧ (trees.Pairwise fun a b => a.stop ≤ b.start) ∧ ∀ t ∈ trees, t.Laid content := by
  match trees with
  | [] => simp
  | tree :: trees =>
    simp only [Tree.areLaid, Bool.and_eq_true, decide_eq_true_eq] at h
    obtain ⟨⟨⟨hlow, hhigh⟩, htree⟩, hrest⟩ := h
    have hlaid := laid_of_isLaid tree htree
    have hle := hlaid.start_le_stop
    obtain ⟨hnested, hordered, hall⟩ := laid_of_areLaid tree.stop high trees hrest
    refine ⟨?_, List.pairwise_cons.mpr ⟨fun t ht => (hnested t ht).1, hordered⟩, ?_⟩
    · rintro t (_ | ⟨_, ht⟩)
      · exact ⟨hlow, hhigh⟩
      · have := (hnested t ht).1
        exact ⟨by omega, (hnested t ht).2⟩
    · rintro t (_ | ⟨_, ht⟩)
      · exact hlaid
      · exact hall t ht

end

end Tree

/-! ### Brackets -/

/-- A text of one byte is one character. -/
lemma exists_of_bytes_eq_one {s : Text} (h : s.bytes = 1) : ∃ c, s = [c] ∧ c.utf8Size = 1 := by
  cases s with
  | nil => simp at h
  | cons c s =>
      have hpos := c.utf8Size_pos
      rw [bytes_cons] at h
      obtain rfl := bytes_eq_zero.mp (show bytes s = 0 by omega)
      exact ⟨c, rfl, by simpa using h⟩

/-- Brackets are told by the boundaries next to them. -/
lemma bracketed_of_isBoundary {content : Text} {start stop : Nat} (hlt : start + 1 < stop)
    (hstart : content.IsBoundary start) (hopen : content.IsBoundary (start + 1))
    (hclose : content.IsBoundary (stop - 1)) (hstop : content.IsBoundary stop) :
    Bracketed content start stop := by
  obtain ⟨x, _, hx, rfl⟩ := hstart
  obtain ⟨_, _, hy, hopen⟩ := hopen
  obtain ⟨_, _, hz, hclose⟩ := hclose
  obtain ⟨_, rest, hw, rfl⟩ := hstop
  obtain ⟨opening, rfl, -⟩ := split_of_bytes_le (hx.symm.trans hy) (by omega)
  obtain ⟨inner, rfl, -⟩ := split_of_bytes_le (hy.symm.trans hz) (by omega)
  obtain ⟨closing, rfl, -⟩ := split_of_bytes_le (hz.symm.trans hw) (by omega)
  simp only [bytes_append] at hopen hclose
  obtain ⟨c, rfl, hc⟩ := exists_of_bytes_eq_one (show opening.bytes = 1 by omega)
  obtain ⟨d, rfl, hd⟩ := exists_of_bytes_eq_one (show closing.bytes = 1 by
    rw [bytes_append] at *; omega)
  refine ⟨x, inner, rest, c, d, by simpa using hw, hc, hd, rfl, ?_⟩
  simp [hc, hd]
  omega

mutual

/-- Whether objects and argument lists begin and end with a character of one byte. -/
def Tree.isBracketed (content : Text) : Tree → Bool
  | .node kind _ start stop children =>
    (decide (kind ≠ .object ∧ kind ≠ .arguments) || decide (start + 1 < stop)
        && decide (content.IsBoundary (start + 1)) && decide (content.IsBoundary (stop - 1)))
      && Tree.areBracketed content children

/-- Whether all trees of a list pass the test. -/
def Tree.areBracketed (content : Text) : List Tree → Bool
  | [] => true
  | tree :: trees => tree.isBracketed content && Tree.areBracketed content trees

end

lemma isBracketed_of_mem {content : Text} {trees : List Tree}
    (h : Tree.areBracketed content trees = true) : ∀ t ∈ trees, t.isBracketed content = true := by
  induction trees with
  | nil => simp
  | cons tree trees ih =>
      rw [Tree.areBracketed, Bool.and_eq_true] at h
      exact List.forall_mem_cons.mpr ⟨h.1, ih h.2⟩

/-- What is laid out and passes the test is placed. -/
lemma Tree.Laid.placed {content : Text} {tree : Tree} (h : tree.Laid content)
    (hbrackets : tree.isBracketed content = true) : tree.Placed content := by
  induction h with
  | @node kind role start stop children hstart hstop hle hnested hordered hchildren ih =>
      rw [Tree.isBracketed, Bool.and_eq_true] at hbrackets
      obtain ⟨hself, hrest⟩ := hbrackets
      refine .node hstart hstop hle ?_ hnested fun t ht => ih t ht (isBracketed_of_mem hrest t ht)
      intro hkind
      simp only [Bool.or_eq_true, Bool.and_eq_true, decide_eq_true_eq] at hself
      rcases hself with hother | ⟨⟨hlt, hopen⟩, hclose⟩
      · exact absurd hkind (not_or.mpr hother)
      · exact bracketed_of_isBoundary hlt hstart hopen hclose hstop

/-! ### Points -/

mutual

/-- All points of a value. -/
def Value.points : Value → List Position
  | .object span properties => span.start :: span.stop :: Value.pointsOf properties
  | .identifier _ => []
  | .other => []

/-- All points of a property. -/
def Value.propertyPoints : Property Value → List Position
  | ⟨_, value, span⟩ => span.start :: span.stop :: value.points

/-- All points of several properties. -/
def Value.pointsOf : List (Property Value) → List Position
  | [] => []
  | property :: properties => Value.propertyPoints property ++ Value.pointsOf properties

end

/-- All points of an object literal. -/
def ObjectLiteral.points (literal : ObjectLiteral) : List Position :=
  literal.span.start :: literal.span.stop :: Value.pointsOf literal.properties

/-- All points of what a default export exports. -/
def Declaration.points : Declaration → List Position
  | .object literal => literal.points
  | .call made =>
    made.arguments.start :: made.arguments.stop :: made.argument.toList.flatMap (·.points)
  | .other => []

/-- All points of a statement. -/
def Statement.points (statement : Statement) : List Position :=
  statement.span.start :: statement.span.stop :: statement.asExport?.toList.flatMap (·.points)

lemma mem_pointsOf {properties : List (Property Value)} {p : Position} :
    p ∈ Value.pointsOf properties
      ↔ ∃ property ∈ properties, p ∈ Value.propertyPoints property := by
  induction properties with
  | nil => simp [Value.pointsOf]
  | cons property properties ih => simp [Value.pointsOf, ih]

lemma points_of_asObject? {value : Value} {literal : ObjectLiteral}
    (h : value.asObject? = some literal) : value.points = literal.points := by
  cases value with
  | object span properties =>
      obtain rfl : ⟨span, properties⟩ = literal := Option.some.inj h
      rfl
  | identifier name => cases h
  | other => cases h

lemma points_eq_nil {value : Value} (h : value.asObject? = none) : value.points = [] := by
  cases value with
  | object span properties => cases h
  | identifier name => rfl
  | other => rfl

/-! ### Nested spans -/

/-- The properties of an object lie inside it, one behind the other, and so do those of the objects
that are their values, each of which lies inside its property. -/
inductive ObjectLiteral.Nested : ObjectLiteral → Prop where
  | intro {literal : ObjectLiteral}
      (hinside : ∀ p ∈ literal.properties, p.span.Inside literal.span)
      (hordered : literal.properties.Pairwise fun a b => a.span.Before b.span)
      (hvalues : ∀ p ∈ literal.properties, ∀ inner, p.value.asObject? = some inner →
        inner.span.Inside p.span)
      (hnested : ∀ p ∈ literal.properties, ∀ inner, p.value.asObject? = some inner →
        inner.Nested) : literal.Nested

/-- What is exported is nested in the given span: the object, or the arguments and in them the
object that is handed over. -/
def Declaration.NestedIn (outer : Span) : Declaration → Prop
  | .object literal => literal.span.Inside outer ∧ literal.Nested
  | .call made => made.arguments.Inside outer
      ∧ ∀ literal, made.argument = some literal →
        literal.span.Inside made.arguments ∧ literal.Nested
  | .other => True

/-- The value of a property lies inside the object. -/
lemma ObjectLiteral.Nested.value {literal inner : ObjectLiteral} (h : literal.Nested)
    {property : Property Value} (hproperty : property ∈ literal.properties)
    (hvalue : property.value.asObject? = some inner) : inner.span.Inside literal.span := by
  obtain ⟨hinside, -, hvalues, -⟩ := h
  exact (hvalues property hproperty inner hvalue).trans (hinside property hproperty)

/-- The options lie inside what is exported. -/
lemma Declaration.NestedIn.options {outer : Span} {declaration : Declaration}
    {literal : ObjectLiteral} (h : declaration.NestedIn outer)
    (hoptions : declaration.options? = some literal) :
    literal.span.Inside outer ∧ literal.Nested := by
  cases declaration with
  | object exported =>
      obtain rfl : exported = literal := Option.some.inj hoptions
      exact h
  | call made =>
      obtain ⟨harguments, hargument⟩ := h
      obtain ⟨hinside, hnested⟩ := hargument literal hoptions
      exact ⟨hinside.trans harguments, hnested⟩
  | other => cases hoptions

/-- What a default export exports is nested in its statement. -/
def Statement.Nested (statement : Statement) : Prop :=
  ∀ declaration, statement.asExport? = some declaration → declaration.NestedIn statement.span

section Outline

variable {site : Site}

/-- A point of an outline that stands for a boundary of the script. -/
def IsPoint (site : Site) (p : Position) : Prop :=
  ∃ n, site.content.IsBoundary n ∧ p = site.position n

namespace Tree.Laid

variable {tree : Tree}

lemma inside_self (h : tree.Laid site.content) : (site.span tree).Inside (site.span tree) where
  start_le := le_rfl
  ordered := by
    have hle := h.start_le_stop
    rw [Site.span, Site.offset_position h.isBoundary_start, Site.offset_position h.isBoundary_stop]
    omega
  stop_le := le_rfl

/-- The span of a node lies inside that of its parent. -/
lemma inside (h : tree.Laid site.content) {t : Tree} (ht : t ∈ tree.children) :
    (site.span t).Inside (site.span tree) := by
  have hnested := h.nested ht
  have hchild := h.child ht
  refine ⟨?_, hchild.inside_self.ordered, ?_⟩
  · rw [Site.span, Site.span, Site.offset_position h.isBoundary_start,
      Site.offset_position hchild.isBoundary_start]
    omega
  · rw [Site.span, Site.span, Site.offset_position h.isBoundary_stop,
      Site.offset_position hchild.isBoundary_stop]
    omega

/-- The spans of the children of a node stand one behind the other. -/
lemma before (h : tree.Laid site.content) :
    tree.children.Pairwise fun a b => (site.span a).Before (site.span b) := by
  refine h.ordered.imp_of_mem fun ha hb hle => ?_
  rw [Span.Before, Site.span, Site.span, Site.offset_position (h.child ha).isBoundary_stop,
    Site.offset_position (h.child hb).isBoundary_start]
  omega

/-- What is inside parentheses and type annotations is laid out, and lies inside them. -/
lemma unwrap (h : tree.Laid site.content) :
    (unwrap tree).Laid site.content ∧ (site.span (unwrap tree)).Inside (site.span tree) := by
  induction h with
  | @node kind role start stop children hstart hstop hle hnested hordered hchildren ih =>
      have hself : (Tree.node kind role start stop children).Laid site.content :=
        .node hstart hstop hle hnested hordered hchildren
      rw [Script.unwrap]
      split
      · cases children with
        | nil => exact ⟨hself, hself.inside_self⟩
        | cons t ts =>
            obtain ⟨hlaid, hinside⟩ := ih t (by simp)
            exact ⟨hlaid, hinside.trans (hself.inside (t := t) (by simp [Tree.children]))⟩
      · exact ⟨hself, hself.inside_self⟩

lemma isPoint (h : tree.Laid site.content) :
    IsPoint site (site.span tree).start ∧ IsPoint site (site.span tree).stop :=
  ⟨⟨_, h.isBoundary_start, rfl⟩, ⟨_, h.isBoundary_stop, rfl⟩⟩

end Tree.Laid

/-! ### The induction over trees -/

/-- What is read off a tree, as a value and as a property, is nested in the span of the tree, and
all its points are those of boundaries. -/
structure Reads (site : Site) (tree : Tree) : Prop where
  value : ∀ literal, (valueOf site tree).asObject? = some literal →
    literal.span.Inside (site.span tree) ∧ literal.Nested
  points : ∀ p ∈ (valueOf site tree).points, IsPoint site p
  property : ∀ property, propertyOf? site tree = some property →
    ∀ literal, property.value.asObject? = some literal →
      literal.span.Inside (site.span tree) ∧ literal.Nested
  propertyPoints : ∀ property, propertyOf? site tree = some property →
    ∀ p ∈ Value.propertyPoints property, IsPoint site p

/-- Properties are in the order of the trees that denote them. -/
lemma pairwise_propertiesOf {trees : List Tree}
    (h : trees.Pairwise fun a b => (site.span a).Before (site.span b)) :
    (propertiesOf site trees).Pairwise fun a b => a.span.Before b.span := by
  induction trees with
  | nil => simp [propertiesOf]
  | cons tree trees ih =>
      obtain ⟨hfirst, hrest⟩ := List.pairwise_cons.mp h
      rw [propertiesOf, List.pairwise_append]
      refine ⟨?_, ih hrest, ?_⟩
      · cases propertyOf? site tree <;> simp
      · intro a ha b hb
        obtain ⟨t, ht, hread⟩ := mem_propertiesOf hb
        rw [(propertyOf?_eq_some (Option.mem_toList.mp ha)).1, (propertyOf?_eq_some hread).1]
        exact hfirst t ht

/-- An object whose children are read as they should be is nested. -/
lemma nested_propertiesOf {tree : Tree} (h : tree.Laid site.content)
    (hreads : ∀ t ∈ tree.children, Reads site t) :
    ObjectLiteral.Nested ⟨site.span tree, propertiesOf site tree.children⟩ := by
  refine .intro ?_ (pairwise_propertiesOf h.before) ?_ ?_
  · intro p hp
    obtain ⟨t, ht, hread⟩ := mem_propertiesOf hp
    rw [(propertyOf?_eq_some hread).1]
    exact h.inside ht
  · intro p hp inner hinner
    obtain ⟨t, ht, hread⟩ := mem_propertiesOf hp
    rw [(propertyOf?_eq_some hread).1]
    exact ((hreads t ht).property p hread inner hinner).1
  · intro p hp inner hinner
    obtain ⟨t, ht, hread⟩ := mem_propertiesOf hp
    exact ((hreads t ht).property p hread inner hinner).2

/-- The value of a tree, one case for each kind that is looked at. -/
lemma valueOf_cases (site : Site) (tree : Tree) :
    valueOf site tree = .object (site.span tree) (propertiesOf site tree.children)
      ∨ (∃ t ∈ tree.children, valueOf site tree = valueOf site t)
      ∨ (valueOf site tree).asObject? = none := by
  obtain ⟨kind, role, start, stop, children⟩ := tree
  rw [valueOf]
  split_ifs
  · exact .inl rfl
  · exact .inr (.inr rfl)
  · cases children with
    | nil => exact .inr (.inr (by simp [firstValue, Value.asObject?]))
    | cons t ts => exact .inr (.inl ⟨t, by simp [Tree.children], by rw [firstValue]⟩)
  · exact .inr (.inr rfl)

/-- **Values and properties are nested in the trees that denote them.** -/
theorem reads_of_laid {tree : Tree} (h : tree.Laid site.content) : Reads site tree := by
  have hself := h
  induction h with
  | @node kind role start stop children hstart hstop hle hnested hordered hchildren ih =>
      have hreads : ∀ t ∈ children, Reads site t := fun t ht => ih t ht (hchildren t ht)
      have hvalue := valueOf_cases site (.node kind role start stop children)
      constructor
      case value =>
        intro literal hliteral
        rcases hvalue with hobject | ⟨t, ht, hsame⟩ | hnone
        · rw [hobject] at hliteral
          obtain rfl := Option.some.inj hliteral
          exact ⟨hself.inside_self, nested_propertiesOf hself hreads⟩
        · rw [hsame] at hliteral
          obtain ⟨hinside, hnested'⟩ := (hreads t ht).value literal hliteral
          exact ⟨hinside.trans (hself.inside ht), hnested'⟩
        · rw [hnone] at hliteral
          cases hliteral
      case points =>
        intro p hp
        rcases hvalue with hobject | ⟨t, ht, hsame⟩ | hnone
        · rw [hobject, Value.points, List.mem_cons, List.mem_cons, mem_pointsOf] at hp
          rcases hp with rfl | rfl | ⟨property, hproperty, hp⟩
          · exact hself.isPoint.1
          · exact hself.isPoint.2
          · obtain ⟨t, ht, hread⟩ := mem_propertiesOf hproperty
            exact (hreads t ht).propertyPoints property hread p hp
        · rw [hsame] at hp
          exact (hreads t ht).points p hp
        · rw [points_eq_nil hnone] at hp
          cases hp
      case property =>
        intro property hread literal hliteral
        obtain ⟨-, hnone | ⟨t, ht, hsame⟩⟩ := propertyOf?_eq_some hread
        · rw [hnone] at hliteral
          cases hliteral
        · rw [hsame] at hliteral
          obtain ⟨hinside, hnested'⟩ := (hreads t ht).value literal hliteral
          exact ⟨hinside.trans (hself.inside ht), hnested'⟩
      case propertyPoints =>
        intro property hread p hp
        obtain ⟨hspan, hvalue'⟩ := propertyOf?_eq_some hread
        rw [Value.propertyPoints, hspan, List.mem_cons, List.mem_cons] at hp
        rcases hp with rfl | rfl | hp
        · exact hself.isPoint.1
        · exact hself.isPoint.2
        · rcases hvalue' with hnone | ⟨t, ht, hsame⟩
          · rw [points_eq_nil hnone] at hp
            cases hp
          · rw [hsame] at hp
            exact (hreads t ht).points p hp

/-! ### Default exports -/

/-- **What an export exports** is nested in its tree, and all its points are those of boundaries. -/
lemma declarationOf_nested {tree : Tree} (h : tree.Laid site.content) :
    (declarationOf site tree).NestedIn (site.span tree)
      ∧ ∀ p ∈ (declarationOf site tree).points, IsPoint site p := by
  rcases declarationOf_cases site tree with hother | ⟨value, hvalue, hcases⟩
  · rw [hother]
    exact ⟨trivial, by simp [Declaration.points]⟩
  · obtain ⟨hlaid, hunwrapped⟩ := (h.child hvalue).unwrap
    have hinside := hunwrapped.trans (h.inside hvalue)
    rcases hcases with ⟨literal, hd, hliteral⟩ | ⟨made, hd, hmade⟩
    · have hreads := reads_of_laid hlaid
      obtain ⟨hin, hnested⟩ := hreads.value literal hliteral
      rw [hd]
      refine ⟨⟨hin.trans hinside, hnested⟩, ?_⟩
      rw [Declaration.points, ← points_of_asObject? hliteral]
      exact hreads.points
    · obtain ⟨arguments, hmem, -, hspan, hargument⟩ := callOf?_parts hmade
      have harguments := hlaid.child hmem
      rw [hd, Declaration.NestedIn, Declaration.points, hspan]
      refine ⟨⟨(hlaid.inside hmem).trans hinside, fun literal hliteral => ?_⟩, fun p hp => ?_⟩
      · obtain ⟨first, hfirst, hread⟩ := hargument literal hliteral
        obtain ⟨hin, hnested⟩ := (reads_of_laid (harguments.child hfirst)).value literal hread
        exact ⟨hin.trans (harguments.inside hfirst), hnested⟩
      · simp only [List.mem_cons, List.mem_flatMap, Option.mem_toList] at hp
        rcases hp with rfl | rfl | ⟨literal, hliteral, hp⟩
        · exact harguments.isPoint.1
        · exact harguments.isPoint.2
        · obtain ⟨first, hfirst, hread⟩ := hargument literal hliteral
          rw [← points_of_asObject? hread] at hp
          exact (reads_of_laid (harguments.child hfirst)).points p hp

end Outline

/-! ### Outlines -/

/-- The statements of a tree stand one behind the other inside it. -/
lemma statementsOf_before {site : Site} {tree : Tree} (h : tree.Laid site.content) :
    (statementsOf site tree).Pairwise fun a b => a.span.Before b.span := by
  rw [statementsOf, List.pairwise_map]
  exact h.before.filter _

/-- A statement that is a default export is one of its tree. -/
lemma mem_statementsOf_export {site : Site} {tree : Tree} {statement : Statement}
    (h : statement ∈ statementsOf site tree) :
    ∃ child ∈ tree.children, statement.span = site.span child
      ∧ ∀ declaration, statement.asExport? = some declaration →
        declaration = declarationOf site child := by
  obtain ⟨child, hchild, hkind, hspan⟩ := mem_statementsOf h
  refine ⟨child, hchild, hspan, fun declaration hexport => ?_⟩
  rw [Statement.asExport?, hkind] at hexport
  split at hexport
  case h_1 exported hclass =>
    obtain rfl := Option.some.inj hexport
    exact classify_exporting hclass
  case h_2 => cases hexport

section Document

variable {pre content post : Text}

/-- A node of the script lies inside the content of the document. -/
lemma Tree.Laid.inside_content {tree : Tree} (h : tree.Laid content) :
    (Site.span ⟨content, Position.origin.after pre⟩ tree).Inside
      ⟨Position.origin.after pre, Position.origin.after (pre ++ content)⟩ := by
  let site : Site := ⟨content, Position.origin.after pre⟩
  have hstart : (site.position tree.start).offset = pre.bytes + tree.start :=
    Site.position_offset rfl h.isBoundary_start
  have hstop : (site.position tree.stop).offset = pre.bytes + tree.stop :=
    Site.position_offset rfl h.isBoundary_stop
  have hle := h.start_le_stop
  have hlast := h.isBoundary_stop.le
  have hends := Position.origin_after_offset (pre ++ content)
  rw [bytes_append] at hends
  refine ⟨?_, ?_, ?_⟩
  · show (Position.origin.after pre).offset ≤ (site.position tree.start).offset
    rw [Position.origin_after_offset]
    omega
  · show (site.position tree.start).offset ≤ (site.position tree.stop).offset
    omega
  · show (site.position tree.stop).offset ≤ (Position.origin.after (pre ++ content)).offset
    omega

/-- The point of a boundary of the script is a point of the document. -/
lemma IsPoint.hasPoint {p : Position} (h : IsPoint ⟨content, Position.origin.after pre⟩ p) :
    (pre ++ (content ++ post)).HasPoint p := by
  obtain ⟨n, ⟨a, b, hcontent, rfl⟩, rfl⟩ := h
  obtain rfl : content = a ++ b := hcontent
  exact ⟨pre ++ a, b ++ post, by simp, Site.position_append pre a b⟩

end Document

/-- **An outline tells true coordinates, and its spans are nested.** For a script that stands in a
document, and a syntax tree of it without marks of broken code, every point of the outline is that
of its offset in the document, statements stand one behind the other inside the script, and all
that belongs to a default export is nested in it. -/
theorem outline_nested (pre content post : Text) {tree : Tree} (htree : tree.Laid content)
    (hfault : tree.hasFault = false) :
    let text := pre ++ (content ++ post)
    ∃ statements, outlineOf ⟨content, text.position pre.bytes⟩ tree = .ok statements
      ∧ (∀ s ∈ statements, ∀ p ∈ s.points,
          p = text.position p.offset ∧ text.offset p.line p.column = p.offset)
      ∧ (statements.Pairwise fun a b => a.span.Before b.span)
      ∧ (∀ s ∈ statements, s.span.Inside (text.span pre.bytes (pre ++ content).bytes))
      ∧ ∀ s ∈ statements, s.Nested := by
  intro text
  have horigin : text.position pre.bytes = Position.origin.after pre := position_append _ _
  have hend : text.position (pre ++ content).bytes = Position.origin.after (pre ++ content) := by
    have htext : text = (pre ++ content) ++ post := (List.append_assoc _ _ _).symm
    rw [htext, position_append]
  let site : Site := ⟨content, Position.origin.after pre⟩
  rw [horigin, Text.span, horigin, hend]
  refine ⟨statementsOf site tree, by rw [outlineOf, hfault]; rfl, ?_, statementsOf_before htree, ?_,
    ?_⟩
  · intro s hs p hp
    obtain ⟨child, hchild, hspan, hexport⟩ := mem_statementsOf_export hs
    have hlaid : child.Laid site.content := htree.child hchild
    have hpoint : IsPoint site p := by
      rw [Statement.points, hspan] at hp
      simp only [List.mem_cons, List.mem_flatMap, Option.mem_toList] at hp
      rcases hp with rfl | rfl | ⟨declaration, hdeclaration, hp⟩
      · exact hlaid.isPoint.1
      · exact hlaid.isPoint.2
      · rw [hexport declaration hdeclaration] at hp
        exact (declarationOf_nested hlaid).2 p hp
    have htrue : text.HasPoint p := hpoint.hasPoint
    exact ⟨htrue.position_eq.symm, htrue.offset_eq⟩
  · intro s hs
    obtain ⟨child, hchild, hspan, -⟩ := mem_statementsOf_export hs
    rw [hspan]
    exact (htree.child hchild).inside_content
  · intro s hs declaration hdeclaration
    obtain ⟨child, hchild, hspan, hexport⟩ := mem_statementsOf_export hs
    have hlaid : child.Laid site.content := htree.child hchild
    rw [hspan, hexport declaration hdeclaration]
    exact (declarationOf_nested hlaid).1

/-- `outline_nested` for a script on the line of its tag, behind a character of two bytes. The
exported object is seen through parentheses, a type annotation and a call, and holds another one. -/
theorem outline_nested_wrapped :
    let pre : Text := "é\n<script>".toList
    let content : Text :=
      "import a from 'é'; export default (f(\x7b b: \x7b c \x7d, d \x7d) as X)\n".toList
    let text : Text := pre ++ (content ++ "</script>".toList)
    (parse content).Laid content ∧ (parse content).hasFault = false
      ∧ ∃ statements, outline content (text.position pre.bytes) = .ok statements
        ∧ statements.map (·.points.length) = [2, 14]
        ∧ (∀ s ∈ statements, ∀ p ∈ s.points,
          p = text.position p.offset ∧ text.offset p.line p.column = p.offset)
        ∧ ∀ s ∈ statements, s.Nested := by
  intro pre content text
  -- one evaluation of the parser for all that is asked of it
  obtain ⟨hlaid, hfault, hlengths⟩ : (parse content).isLaid content = true
      ∧ (parse content).hasFault = false
      ∧ (outline content (text.position pre.bytes)).toOption.map (·.map (·.points.length))
        = some [2, 14] := by decide +kernel
  obtain ⟨statements, houtline, hpoints, -, -, hnested⟩ :=
    outline_nested pre content "</script>".toList (laid_of_isLaid _ hlaid) hfault
  have hsame : outline content (text.position pre.bytes) = .ok statements := houtline
  rw [hsame] at hlengths
  exact ⟨laid_of_isLaid _ hlaid, hfault, statements, hsame, Option.some.inj hlengths, hpoints,
    hnested⟩

end Script

end ComponentFile
