import Mathlib.Tactic
import ComponentFile.Proofs.Text.Boundary
import ComponentFile.Script.Outline

/-!
Where the parts of an outline stand in the document.

* `Tree.Placed content`: the nodes of a syntax tree lie on boundaries of the script and inside their
  parents, and objects and argument lists begin and end with a bracket of one byte.
* `EndsImport before rest`: what an import ends with.
* `Site.position_append`: the outline gives a boundary of the script the position that it has in the
  document, so that offsets are shifted by the place of the script (`Site.position_offset`).
* `IsObject`: an object literal of an outline is that of a node. `isObject_of_options` and
  `IsObject.value` say so of the options of a default export and of the objects inside them.
-/

namespace ComponentFile

open Text

namespace Script

/-! ### What is asked of syntax trees -/

/-- The text between two offsets begins and ends with a character of one byte. -/
def Bracketed (content : Text) (start stop : Nat) : Prop :=
  ∃ (before inner rest : Text) (opening closing : Char),
    content = before ++ opening :: (inner ++ closing :: rest)
    ∧ opening.utf8Size = 1 ∧ closing.utf8Size = 1
    ∧ start = before.bytes ∧ stop = before.bytes + 1 + inner.bytes + 1

lemma Bracketed.isBoundary {content : Text} {start stop : Nat} (h : Bracketed content start stop) :
    content.IsBoundary (start + 1) ∧ content.IsBoundary (stop - 1) := by
  obtain ⟨before, inner, rest, opening, closing, rfl, hopening, hclosing, rfl, rfl⟩ := h
  constructor
  · exact ⟨before ++ [opening], inner ++ closing :: rest, by simp, by simp [hopening]⟩
  · exact ⟨before ++ opening :: inner, closing :: rest, by simp, by simp [hopening]; omega⟩

lemma Bracketed.lt {content : Text} {start stop : Nat} (h : Bracketed content start stop) :
    start + 1 < stop := by
  obtain ⟨before, inner, rest, opening, closing, -, -, -, rfl, rfl⟩ := h
  omega

/-- Every node of a tree lies on boundaries of the script and inside its parent, and the nodes with
brackets have theirs. -/
inductive Tree.Placed (content : Text) : Tree → Prop where
  | node {kind : Kind} {role : Role} {start stop : Nat} {children : List Tree}
      (hstart : content.IsBoundary start) (hstop : content.IsBoundary stop) (hle : start ≤ stop)
      (hbrackets : kind = .object ∨ kind = .arguments → Bracketed content start stop)
      (hnested : ∀ child ∈ children, start ≤ child.start ∧ child.stop ≤ stop)
      (hchildren : ∀ child ∈ children, child.Placed content) :
      Placed content (.node kind role start stop children)

/-- An import ends after a quote, a brace, a semicolon or a comment; a comment that is not closed
ends with its line. -/
inductive EndsImport (before rest : Text) : Prop where
  | mark (c : Char) (hlast : before.getLast? = some c)
      (hc : c = '\'' ∨ c = '"' ∨ c = '\x7d' ∨ c = ';')
  | comment (hlast : "*/".toList <:+ before)
  | lineComment (hrest : rest = [] ∨ ∃ c t, rest = c :: t ∧ (c = '\n' ∨ c = '\r'))

/-- A tree is an import that names a module; one that calls `require` does not. -/
def Tree.ImportsModule (tree : Tree) : Prop :=
  tree.kind = .importStatement ∧ (tree.child? .source).isSome = true

/-- The imports of modules end inside the script in one of the ways in which imports end. -/
def Tree.ImportsEnd (content : Text) (tree : Tree) : Prop :=
  ∀ child ∈ tree.children, child.ImportsModule →
    ∃ before rest, content = before ++ rest ∧ child.stop = before.bytes ∧ EndsImport before rest

namespace Tree.Placed

variable {content : Text} {tree : Tree}

lemma isBoundary_start (h : tree.Placed content) : content.IsBoundary tree.start := by
  cases h with
  | node hstart => exact hstart

lemma isBoundary_stop (h : tree.Placed content) : content.IsBoundary tree.stop := by
  cases h with
  | node _ hstop => exact hstop

lemma start_le_stop (h : tree.Placed content) : tree.start ≤ tree.stop := by
  cases h with
  | node _ _ hle => exact hle

lemma nested (h : tree.Placed content) {t : Tree} (ht : t ∈ tree.children) :
    tree.start ≤ t.start ∧ t.stop ≤ tree.stop := by
  cases h with
  | node _ _ _ _ hnested => exact hnested t ht

lemma child (h : tree.Placed content) {t : Tree} (ht : t ∈ tree.children) : t.Placed content := by
  cases h with
  | node _ _ _ _ _ hchildren => exact hchildren t ht

lemma bracketed (h : tree.Placed content) (hkind : tree.kind = .object ∨ tree.kind = .arguments) :
    Bracketed content tree.start tree.stop := by
  cases h with
  | node _ _ _ hbrackets _ _ => exact hbrackets hkind

/-- What is inside parentheses and type annotations is placed as well. -/
lemma unwrap (h : tree.Placed content) : (unwrap tree).Placed content := by
  induction h with
  | @node kind role start stop children hstart hstop hle hbrackets hnested hchildren ih =>
      rw [Script.unwrap]
      split
      · cases children with
        | nil => exact .node hstart hstop hle hbrackets hnested hchildren
        | cons t ts => exact ih t (by simp)
      · exact .node hstart hstop hle hbrackets hnested hchildren

end Tree.Placed

/-! ### Positions -/

/-- A boundary of the script has the position of its place in the document. -/
lemma Site.position_append (before a b : Text) :
    Site.position ⟨a ++ b, Position.origin.after before⟩ a.bytes
      = Position.origin.after (before ++ a) := by
  rw [Site.position, Text.position_append, ← Position.after_eq_within, Position.after_append]

/-- Offsets of the script are counted from its beginning. -/
lemma Site.offset_position {site : Site} {n : Nat} (h : site.content.IsBoundary n) :
    (site.position n).offset = site.origin.offset + n := by
  obtain ⟨content, origin⟩ := site
  obtain ⟨a, b, rfl, rfl⟩ := h
  show (((a ++ b).position a.bytes).within origin).offset = _
  rw [Text.position_append, ← Position.after_eq_within, Position.after_offset]

/-- Offsets of the script are shifted by the place of the script. -/
lemma Site.position_offset {site : Site} {before : Text}
    (horigin : site.origin = Position.origin.after before) {n : Nat}
    (h : site.content.IsBoundary n) :
    (site.position n).offset = before.bytes + n := by
  rw [Site.offset_position h, horigin, Position.origin_after_offset]

section Outline

variable {site : Site}

lemma mem_statementsOf {tree : Tree} {statement : Statement}
    (h : statement ∈ statementsOf site tree) :
    ∃ child ∈ tree.children, statement.kind = classify site child
      ∧ statement.span = site.span child := by
  obtain ⟨child, hchild, rfl⟩ := List.mem_map.mp h
  exact ⟨child, (List.mem_filter.mp hchild).1, rfl, rfl⟩

/-- Only imports of modules are imports. -/
lemma importsModule_of_classify {tree : Tree} {declaration : Import}
    (h : classify site tree = .importing declaration) : tree.ImportsModule := by
  unfold classify at h
  split at h
  case h_1 hkind =>
    refine ⟨hkind, ?_⟩
    by_contra hsource
    rw [Bool.not_eq_true, Option.isSome_eq_false_iff, Option.isNone_iff_eq_none] at hsource
    simp [importOf?, hsource] at h
  case h_2 => split at h <;> simp at h
  case h_3 => simp at h

/-- A default export is what its statement declares. -/
lemma classify_exporting {tree : Tree} {declaration : Declaration}
    (h : classify site tree = .exporting declaration) : declaration = declarationOf site tree := by
  unfold classify at h
  split at h
  case h_1 =>
    cases hread : importOf? site tree with
    | none => simp [hread] at h
    | some i => simp [hread] at h
  case h_2 =>
    split at h
    · simp only [StatementKind.exporting.injEq] at h
      exact h.symm
    · simp at h
  case h_3 => simp at h

/-! ### Object literals -/

/-- An object literal of the outline is that of a placed node. -/
def IsObject (site : Site) (literal : ObjectLiteral) : Prop :=
  ∃ node : Tree, node.Placed site.content ∧ node.kind = .object ∧ literal.span = site.span node
    ∧ literal.properties = propertiesOf site node.children

lemma isObject_of_valueOf {tree : Tree} (h : tree.Placed site.content) {literal : ObjectLiteral}
    (hvalue : (valueOf site tree).asObject? = some literal) : IsObject site literal := by
  induction h with
  | @node kind role start stop children hstart hstop hle hbrackets hnested hchildren ih =>
      rw [valueOf] at hvalue
      split_ifs at hvalue with hobject hname hwrapper
      · simp only [Value.asObject?, Option.some.injEq] at hvalue
        subst hvalue
        exact ⟨_, .node hstart hstop hle hbrackets hnested hchildren, hobject, rfl, rfl⟩
      · simp [Value.asObject?] at hvalue
      · cases children with
        | nil => simp [firstValue, Value.asObject?] at hvalue
        | cons t ts => exact ih t (by simp) hvalue
      · simp [Value.asObject?] at hvalue

lemma mem_propertiesOf {trees : List Tree} {property : Property Value}
    (h : property ∈ propertiesOf site trees) :
    ∃ tree ∈ trees, propertyOf? site tree = some property := by
  induction trees with
  | nil => simp [propertiesOf] at h
  | cons tree trees ih =>
      rw [propertiesOf, List.mem_append] at h
      rcases h with h | h
      · exact ⟨tree, by simp, by simpa using h⟩
      · obtain ⟨t, ht, hread⟩ := ih h
        exact ⟨t, by simp [ht], hread⟩

/-- A pair has the value of one of its children. -/
lemma pairValue_cases (site : Site) (trees : List Tree) :
    pairValue site trees = .other ∨ ∃ tree ∈ trees, pairValue site trees = valueOf site tree := by
  induction trees with
  | nil => exact .inl (by simp [pairValue])
  | cons tree trees ih =>
      rw [pairValue]
      split
      · exact .inr ⟨tree, by simp, rfl⟩
      · rcases ih with h | ⟨t, ht, h⟩
        · exact .inl h
        · exact .inr ⟨t, by simp [ht], h⟩

/-- The span of a property is that of its tree, and its value is found below it. -/
lemma propertyOf?_eq_some {tree : Tree} {property : Property Value}
    (h : propertyOf? site tree = some property) :
    property.span = site.span tree
      ∧ (property.value.asObject? = none
        ∨ ∃ child ∈ tree.children, property.value = valueOf site child) := by
  obtain ⟨kind, role, start, stop, children⟩ := tree
  rw [propertyOf?.eq_def] at h
  dsimp only at h
  split at h
  case h_1 =>
    obtain ⟨key, -, rfl⟩ := Option.map_eq_some_iff.mp h
    refine ⟨rfl, ?_⟩
    rcases pairValue_cases site children with hv | ⟨t, ht, hv⟩
    · exact .inl (by rw [hv]; rfl)
    · exact .inr ⟨t, ht, hv⟩
  case h_2 =>
    simp only [Option.some.injEq] at h
    subst h
    exact ⟨rfl, .inl rfl⟩
  case h_3 =>
    obtain ⟨name, -, rfl⟩ := Option.map_eq_some_iff.mp h
    exact ⟨rfl, .inl rfl⟩
  case h_4 => simp at h

/-- An object that is a value of an object is one of the outline too. -/
lemma IsObject.value {literal inner : ObjectLiteral} (h : IsObject site literal)
    {property : Property Value} (hproperty : property ∈ literal.properties)
    (hvalue : property.value.asObject? = some inner) : IsObject site inner := by
  obtain ⟨node, hplaced, -, -, hproperties⟩ := h
  rw [hproperties] at hproperty
  obtain ⟨tree, htree, hread⟩ := mem_propertiesOf hproperty
  obtain ⟨-, hnone | ⟨child, hchild, hsame⟩⟩ := propertyOf?_eq_some hread
  · rw [hnone] at hvalue
    cases hvalue
  · rw [hsame] at hvalue
    exact isObject_of_valueOf ((hplaced.child htree).child hchild) hvalue

/-! ### Default exports -/

/-- What an export exports is read off one of its children. -/
lemma declarationOf_cases (site : Site) (tree : Tree) :
    declarationOf site tree = .other ∨ ∃ value ∈ tree.children,
      (∃ literal, declarationOf site tree = .object literal
        ∧ (valueOf site (unwrap value)).asObject? = some literal)
      ∨ ∃ made, declarationOf site tree = .call made
        ∧ callOf? site (unwrap value) = some made := by
  rw [declarationOf]
  cases hchild : (tree.child? .value).orElse fun _ => tree.child? .declaration with
  | none => exact .inl rfl
  | some value =>
      have hmem : value ∈ tree.children := by
        cases hv : tree.child? .value with
        | some v =>
            rw [hv, Option.orElse_some, Option.some.injEq] at hchild
            exact hchild ▸ List.mem_of_find?_eq_some hv
        | none =>
            rw [hv, Option.orElse_none] at hchild
            exact List.mem_of_find?_eq_some hchild
      dsimp only
      split
      · cases hread : (valueOf site (unwrap value)).asObject? with
        | none => exact .inl rfl
        | some literal => exact .inr ⟨value, hmem, .inl ⟨literal, rfl, hread⟩⟩
      · cases hread : callOf? site (unwrap value) with
        | none => exact .inl rfl
        | some made => exact .inr ⟨value, hmem, .inr ⟨made, rfl, hread⟩⟩
      · exact .inl rfl

/-- The parts of a call are read off one of its children and a child of that. -/
lemma callOf?_parts {tree : Tree} {made : Call} (h : callOf? site tree = some made) :
    ∃ arguments ∈ tree.children, arguments.kind = .arguments
      ∧ made.arguments = site.span arguments
      ∧ ∀ literal, made.argument = some literal →
        ∃ first ∈ arguments.children, (valueOf site first).asObject? = some literal := by
  rw [callOf?] at h
  obtain ⟨callee, -, h⟩ := Option.bind_eq_some_iff.mp h
  obtain ⟨arguments, harguments, h⟩ := Option.bind_eq_some_iff.mp h
  split_ifs at h with hkind
  obtain rfl := Option.some.inj h
  refine ⟨arguments, List.mem_of_find?_eq_some harguments, hkind, rfl, fun literal hliteral => ?_⟩
  obtain ⟨first, hfirst, hliteral⟩ := Option.bind_eq_some_iff.mp hliteral
  split_ifs at hliteral
  exact ⟨first, List.mem_of_head? hfirst, hliteral⟩

lemma exists_of_declarationOf {tree : Tree} (h : tree.Placed site.content) :
    declarationOf site tree = .other ∨ ∃ value : Tree, value.Placed site.content
      ∧ ((∃ literal, declarationOf site tree = .object literal
            ∧ (valueOf site value).asObject? = some literal)
        ∨ ∃ made, declarationOf site tree = .call made ∧ callOf? site value = some made) := by
  rcases declarationOf_cases site tree with hother | ⟨value, hvalue, hread⟩
  · exact .inl hother
  · exact .inr ⟨unwrap value, (h.child hvalue).unwrap, hread⟩

lemma callOf?_eq_some {tree : Tree} (h : tree.Placed site.content) {made : Call}
    (hmade : callOf? site tree = some made) :
    (∃ arguments : Tree, arguments.Placed site.content ∧ arguments.kind = .arguments
        ∧ made.arguments = site.span arguments)
      ∧ ∀ literal, made.argument = some literal → IsObject site literal := by
  obtain ⟨arguments, hmem, hkind, hspan, hargument⟩ := callOf?_parts hmade
  refine ⟨⟨arguments, h.child hmem, hkind, hspan⟩, fun literal hliteral => ?_⟩
  obtain ⟨first, hfirst, hread⟩ := hargument literal hliteral
  exact isObject_of_valueOf ((h.child hmem).child hfirst) hread

/-- The options of a default export are an object of the outline. -/
lemma isObject_of_options {tree : Tree} (h : tree.Placed site.content) {literal : ObjectLiteral}
    (hoptions : (declarationOf site tree).options? = some literal) : IsObject site literal := by
  rcases exists_of_declarationOf h with hother | ⟨value, hvalue, ⟨o, hd, ho⟩ | ⟨made, hd, hmade⟩⟩
  · rw [hother] at hoptions
    cases hoptions
  · rw [hd] at hoptions
    obtain rfl : o = literal := Option.some.inj hoptions
    exact isObject_of_valueOf hvalue ho
  · rw [hd] at hoptions
    exact (callOf?_eq_some hvalue hmade).2 literal hoptions

/-- The arguments of an exported call are those of a node. -/
lemma arguments_of_declarationOf {tree : Tree} (h : tree.Placed site.content) {made : Call}
    (hcall : declarationOf site tree = .call made) :
    ∃ arguments : Tree, arguments.Placed site.content ∧ arguments.kind = .arguments
      ∧ made.arguments = site.span arguments := by
  rcases exists_of_declarationOf h with hother | ⟨value, hvalue, ⟨o, hd, ho⟩ | ⟨made', hd, hmade⟩⟩
  · rw [hother] at hcall
    cases hcall
  · rw [hd] at hcall
    cases hcall
  · rw [hd, Declaration.call.injEq] at hcall
    subst hcall
    exact (callOf?_eq_some hvalue hmade).1

end Outline

end Script

end ComponentFile
