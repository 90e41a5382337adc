import Mathlib.Tactic
import ComponentFile.Proofs.Document.Translation
import ComponentFile.Proofs.Script.Nesting

/-!
The reported syntax error is the earliest one.

The search for a mark of broken code passes over trees without one and does not look below the first
that it finds. All the same it finds the first mark of all nodes:

* `Tree.preorder` lists the nodes of a tree, each one before its children. `firstFault?_eq_find?`
  says that the search is the one through this list, and `hasFault_iff` that trees are passed over
  only if there is nothing to be found in them.
* `Tree.Ordered`: the children of a node lie inside it, one behind the other. Then the nodes of the
  list begin one behind the other (`pairwise_preorder`), marks without any text included.
* `outlineOf_earliestFault` adds the coordinates: those of the mark's offset in the whole document.
-/

namespace ComponentFile

open Text

namespace Script

namespace Tree

/-! ### Nodes in preorder -/

mutual

/-- The nodes of a tree, each one before its children, and these from left to right. -/
def preorder : Tree → List Tree
  | .node kind role start stop children =>
    .node kind role start stop children :: preorderOf children

/-- The nodes of several trees, from left to right. -/
def preorderOf : List Tree → List Tree
  | [] => []
  | tree :: trees => preorder tree ++ preorderOf trees

end

lemma preorderOf_eq_flatMap (trees : List Tree) : preorderOf trees = trees.flatMap preorder := by
  induction trees with
  | nil => rfl
  | cons tree trees ih => rw [preorderOf, ih, List.flatMap_cons]

mutual

/-- A tree holds a mark of broken code if one of its nodes is one. -/
theorem hasFault_eq_any (tree : Tree) : tree.hasFault = tree.preorder.any (·.kind.isFault) := by
  match tree with
  | .node kind role start stop children =>
    rw [hasFault, preorder, List.any_cons, anyFault_eq_any children]
    rfl

theorem anyFault_eq_any (trees : List Tree) :
    anyFault trees = (preorderOf trees).any (·.kind.isFault) := by
  match trees with
  | [] => rfl
  | tree :: trees =>
    rw [anyFault, preorderOf, List.any_append, hasFault_eq_any tree, anyFault_eq_any trees]

end

lemma hasFault_iff {tree : Tree} :
    tree.hasFault = true ↔ ∃ t ∈ tree.preorder, t.kind.isFault = true := by
  rw [hasFault_eq_any, List.any_eq_true]

mutual

/-- **The search finds the first mark in preorder.** -/
theorem firstFault?_eq_find? (tree : Tree) :
    tree.firstFault? = tree.preorder.find? (·.kind.isFault) := by
  match tree with
  | .node kind role start stop children =>
    rw [firstFault?, preorder, List.find?_cons, Tree.kind]
    cases kind.isFault with
    | true => rfl
    | false =>
        cases hany : anyFault children with
        | true => exact firstFaultOf?_eq_find? children
        | false =>
            -- the children are passed over, and there is no mark among their nodes
            rw [anyFault_eq_any, List.any_eq_false] at hany
            exact (List.find?_eq_none.mpr hany).symm

theorem firstFaultOf?_eq_find? (trees : List Tree) :
    firstFaultOf? trees = (preorderOf trees).find? (·.kind.isFault) := by
  match trees with
  | [] => rfl
  | tree :: trees =>
    rw [firstFaultOf?, preorderOf, List.find?_append, firstFault?_eq_find? tree,
      firstFaultOf?_eq_find? trees]
    cases tree.preorder.find? (·.kind.isFault) <;> rfl

end

/-! ### The order of the nodes -/

/-- The children of each node lie inside it, one behind the other. -/
inductive Ordered : Tree → Prop where
  | node {kind : Kind} {role : Role} {start stop : Nat} {children : List Tree} (hle : start ≤ stop)
      (hnested : ∀ child ∈ children, start ≤ child.start ∧ child.stop ≤ stop)
      (hordered : children.Pairwise fun a b => a.stop ≤ b.start)
      (hchildren : ∀ child ∈ children, child.Ordered) :
      Ordered (.node kind role start stop children)

/-- Trees that are laid out on a script are ordered. -/
lemma Laid.isOrdered {content : Text} {tree : Tree} (h : tree.Laid content) : tree.Ordered := by
  induction h with
  | node _ _ hle hnested hordered _ ih => exact .node hle hnested hordered ih

section Order

variable {tree : Tree}

/-- Every node begins and ends inside the tree. -/
lemma Ordered.bounds (h : tree.Ordered) {t : Tree} (ht : t ∈ tree.preorder) :
    tree.start ≤ t.start ∧ t.start ≤ t.stop ∧ t.stop ≤ tree.stop := by
  induction h with
  | @node kind role start stop children hle hnested hordered hchildren ih =>
      rw [preorder, preorderOf_eq_flatMap, List.mem_cons, List.mem_flatMap] at ht
      rcases ht with rfl | ⟨child, hchild, ht⟩
      · exact ⟨le_rfl, hle, le_rfl⟩
      · obtain ⟨hstart, hself, hstop⟩ := ih child hchild ht
        obtain ⟨hlow, hhigh⟩ := hnested child hchild
        exact ⟨hlow.trans hstart, hself, hstop.trans hhigh⟩

/-- **In preorder, the nodes begin one behind the other.** -/
lemma Ordered.pairwise_preorder (h : tree.Ordered) :
    tree.preorder.Pairwise fun a b => a.start ≤ b.start := by
  have hself := h
  induction h with
  | @node kind role start stop children hle hnested hordered hchildren ih =>
      rw [preorder, List.pairwise_cons]
      refine ⟨fun t ht => (hself.bounds (by rw [preorder]; exact .tail _ ht)).1, ?_⟩
      rw [preorderOf_eq_flatMap, List.pairwise_flatMap]
      refine ⟨fun child hchild => ih child hchild (hchildren child hchild), ?_⟩
      refine hordered.imp_of_mem fun {a b} ha hb hab s hs t ht => ?_
      -- all of `a` lies before all of `b`
      obtain ⟨-, hle_s, hs_le⟩ := (hchildren a ha).bounds hs
      obtain ⟨hle_t, -, -⟩ := (hchildren b hb).bounds ht
      omega

/-- No mark of broken code begins before the one that is found. -/
lemma Ordered.start_le_of_find? (h : tree.Ordered) {fault : Tree}
    (hfault : tree.preorder.find? (·.kind.isFault) = some fault) {t : Tree}
    (ht : t ∈ tree.preorder) (hmark : t.kind.isFault = true) : fault.start ≤ t.start := by
  obtain ⟨-, before, behind, hsplit, hnone⟩ := List.find?_eq_some_iff_append.mp hfault
  have hpairwise := h.pairwise_preorder
  rw [hsplit, List.pairwise_append, List.pairwise_cons] at hpairwise
  rw [hsplit, List.mem_append, List.mem_cons] at ht
  rcases ht with ht | rfl | ht
  · exact absurd hmark (by simpa using hnone t ht)
  · exact le_rfl
  · exact hpairwise.2.1.1 t ht

end Order

end Tree

/-! ### The error and its place -/

/-- What follows a text does not move the points of it, boundaries or not. -/
lemma advance_append_of_le (p : Position) {n : Nat} {s : Text} (t : Text) (h : n ≤ s.bytes) :
    advance p n (s ++ t) = advance p n s := by
  induction s generalizing p n with
  | nil =>
      cases t with
      | nil => rfl
      | cons c t =>
          have hpos := c.utf8Size_pos
          rw [bytes_nil] at h
          rw [List.nil_append, advance, advance, if_neg (by omega)]
  | cons c s ih =>
      rw [bytes_cons] at h
      rw [List.cons_append, advance, advance, ih (p.next c) (by omega)]

/-- An offset of a script has the position of that offset in the document. -/
lemma Site.position_eq (pre post : Text) {content : Text} {n : Nat} (h : n ≤ content.bytes) :
    Site.position ⟨content, (pre ++ (content ++ post)).position pre.bytes⟩ n
      = (pre ++ (content ++ post)).position (pre.bytes + n) := by
  have hcontent : (content ++ post).position n = content.position n :=
    advance_append_of_le .origin post h
  calc Site.position ⟨content, (pre ++ (content ++ post)).position pre.bytes⟩ n
      = (content.position n).within (Position.origin.after pre) := by
        rw [Site.position, Text.position_append]
    _ = ((content ++ post).position n).within (Position.origin.after pre) := by rw [hcontent]
    _ = (pre ++ (content ++ post)).position (pre.bytes + n) := (position_append_add pre _ n).symm

/-- **The reported syntax error is the earliest one.** For a script that stands in a document, and a
syntax tree of it that holds a mark of broken code, the first mark in preorder is found, no mark
begins before it, and the error has the line and column of its offset in the document. -/
theorem outlineOf_earliestFault (pre content post : Text) {tree : Tree} (htree : tree.Ordered)
    (hstop : tree.stop ≤ content.bytes) (hfault : tree.hasFault = true) :
    let text := pre ++ (content ++ post)
    let site : Site := ⟨content, text.position pre.bytes⟩
    ∃ fault, tree.firstFault? = some fault
      ∧ tree.preorder.find? (·.kind.isFault) = some fault
      ∧ (∀ t ∈ tree.preorder, t.kind.isFault = true → fault.start ≤ t.start)
      ∧ outlineOf site tree = .error
        { fault := faultOf site fault
          line := (text.position (pre.bytes + fault.start)).line
          column := (text.position (pre.bytes + fault.start)).column } := by
  intro text site
  obtain ⟨mark, hmem, hmark⟩ := Tree.hasFault_iff.mp hfault
  obtain ⟨fault, hfind⟩ : ∃ fault, tree.preorder.find? (·.kind.isFault) = some fault :=
    Option.isSome_iff_exists.mp (List.find?_isSome.mpr ⟨mark, hmem, hmark⟩)
  have hfirst : tree.firstFault? = some fault := (Tree.firstFault?_eq_find? tree).trans hfind
  refine ⟨fault, hfirst, hfind, fun t => htree.start_le_of_find? hfind, ?_⟩
  obtain ⟨-, hle, hend⟩ := htree.bounds (List.mem_of_find?_eq_some hfind)
  rw [outlineOf, if_pos hfault, syntaxError, hfirst, Option.getD_some,
    Site.position_eq pre post (hle.trans (hend.trans hstop))]

/-- `outlineOf_earliestFault` where an argument list is not closed at the end of the line of the
tag, and more is broken on the next line. The first mark covers no text. -/
theorem outlineOf_earliestFault_unclosed :
    let pre : Text := "é\n<script>".toList
    let content : Text := "é(a\nb )".toList
    let text : Text := pre ++ (content ++ "</script>".toList)
    let call : Tree := .node .call .plain 0 4
      [.node .identifier .callee 0 2 [], .node .arguments .arguments 2 4
        [.leaf .identifier 3 4, .leaf (.missing ")".toList) 4 4]]
    let tree : Tree := .node .program .plain 0 8
      [.node .expressionStatement .plain 0 4 [call],
        .node .expressionStatement .plain 5 6 [.leaf .identifier 5 6],
        .node .error .plain 7 8 [.leaf (.missing "(".toList) 7 7]]
    tree.Ordered ∧ tree.stop ≤ content.bytes ∧ tree.hasFault = true
      ∧ outlineOf ⟨content, text.position pre.bytes⟩ tree = .error ⟨.missing ")".toList, 1, 11⟩
      ∧ (tree.preorder.filter (·.kind.isFault)).map (·.start) = [4, 7, 7]
      ∧ ∀ t ∈ tree.preorder, t.kind.isFault = true → 4 ≤ t.start := by
  intro pre content text call tree
  have hlaid : tree.Laid content := laid_of_isLaid tree (by decide)
  have hordered : tree.Ordered := hlaid.isOrdered
  obtain ⟨fault, hfirst, -, hearliest, herror⟩ :=
    outlineOf_earliestFault pre content "</script>".toList hordered (by decide) (by decide)
  obtain rfl : .leaf (.missing ")".toList) 4 4 = fault := Option.some.inj hfirst
  exact ⟨hordered, by decide, by decide, herror, by decide, hearliest⟩

end Script

end ComponentFile
