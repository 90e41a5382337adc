import Mathlib.Tactic
import ComponentFile.Proofs.Document.Blocks

/-!
Parsing commutes with moving the document.

A text `p` without `<` in front of a document `t` moves every point of it: a point `q` of `t` is the
point `q.within anchor` of `p ++ t`, where `anchor` is the end of `p`. `Document.within` moves all
points of a document at once, those of nested objects and of syntax errors included, and leaves the
rest as it is.

* `position_append_add`: any offset of `t` at all, boundary or not.
* `scanFrom_shift`, `scan_append`: the scan finds the same elements with shifted offsets.
* `outlineOf_within`: an outline follows the place of its script. Its positions are anchored twice,
  in the script and with it in the document; `Position.within_within` makes one anchor of the two.
* `parseBy_append` puts these together.
-/

namespace ComponentFile

open Text

/-! ### Points and spans -/

/-- A span given relative to `anchor`. -/
def Span.within (span : Span) (anchor : Position) : Span :=
  ⟨span.start.within anchor, span.stop.within anchor⟩

namespace Text

lemma advance_eq_within (q : Position) (n : Nat) (t : Text) :
    advance q n t = (advance .origin n t).within q := by
  induction t generalizing q n with
  | nil => exact (Position.within_origin q).symm
  | cons c t ih =>
      rw [advance, advance]
      split
      · rw [ih, ih (Position.origin.next c), Position.within_within, Position.next_origin_within]
      · exact (Position.within_origin q).symm

lemma advance_append_add (q : Position) (p t : Text) (n : Nat) :
    advance q (p.bytes + n) (p ++ t) = advance (q.after p) n t := by
  induction p generalizing q with
  | nil => rw [bytes_nil, Nat.zero_add, List.nil_append, Position.after_nil]
  | cons c p ih =>
      rw [bytes_cons, List.cons_append, advance, if_pos (by omega), Position.after_cons, ← ih]
      congr 1
      omega

/-- A point behind `p` is the point of what follows, anchored at the end of `p`. -/
lemma position_append_add (p t : Text) (n : Nat) :
    (p ++ t).position (p.bytes + n) = (t.position n).within (Position.origin.after p) := by
  rw [position, position, advance_append_add, advance_eq_within]

/-- The end of a text is reached by walking over it. -/
lemma position_bytes (p : Text) : p.position p.bytes = Position.origin.after p := by
  have h := position_append p []
  rwa [List.append_nil] at h

lemma span_append_add (p t : Text) (n m : Nat) :
    (p ++ t).span (p.bytes + n) (p.bytes + m)
      = (t.span n m).within (Position.origin.after p) := by
  rw [span, position_append_add, position_append_add]
  rfl

end Text

/-! ### Elements -/

namespace Markup

/-- An element that begins `k` bytes later. -/
def Element.shift (k : Nat) (e : Element) : Element :=
  { e with
    start := k + e.start
    contentStart := k + e.contentStart
    contentStop := k + e.contentStop
    stop := k + e.stop }

lemma Element.build_shift (k offset : Nat) (tag : OpenTag) (closing : Closing) :
    (Element.build offset tag closing).shift k = .build (k + offset) tag closing := by
  simp only [Element.shift, Element.build, Nat.add_assoc]

/-- Where a scan begins only moves what it finds. -/
lemma scanFrom_shift (k offset passed : Nat) (s : Text) :
    scanFrom (k + offset) passed s = (scanFrom offset passed s).map (Element.shift k) := by
  induction s generalizing offset passed with
  | nil => rw [scanFrom_nil, scanFrom_nil, List.map_nil]
  | cons c s ih =>
      cases passed with
      | succ passed => rw [scanFrom, scanFrom, Nat.add_assoc, ih]
      | zero =>
          rw [scanFrom, scanFrom]
          cases Construct.read (c :: s) with
          | plain => exact (congrArg (scanFrom · 0 s) (Nat.add_assoc _ _ _)).trans (ih _ _)
          | aside t => exact (congrArg (scanFrom · _ s) (Nat.add_assoc _ _ _)).trans (ih _ _)
          | endless => rfl
          | element tag closing =>
              simp only [List.map_cons, Element.build_shift, Nat.add_assoc, ih]

/-- Text without `<` in front moves the elements of a scan. -/
lemma scan_append {p : Text} (hp : '<' ∉ p) (t : Text) :
    scan (p ++ t) = (scan t).map (Element.shift p.bytes) := by
  rw [scan, scanFrom_text 0 hp, Nat.zero_add, ← Nat.add_zero p.bytes, scanFrom_shift]
  rfl

end Markup

/-! ### Outlines -/

namespace Script

mutual

/-- A value with all its points anchored. -/
def Value.within (anchor : Position) : Value → Value
  | .object span properties =>
    .object (span.within anchor) (Value.propertiesWithin anchor properties)
  | .identifier name => .identifier name
  | .other => .other

/-- A property with all its points anchored. -/
def Value.propertyWithin (anchor : Position) : Property Value → Property Value
  | ⟨key, value, span⟩ => ⟨key, value.within anchor, span.within anchor⟩

/-- Properties with all their points anchored. -/
def Value.propertiesWithin (anchor : Position) : List (Property Value) → List (Property Value)
  | [] => []
  | property :: properties =>
    Value.propertyWithin anchor property :: Value.propertiesWithin anchor properties

end

/-- An object literal with all its points anchored. -/
def ObjectLiteral.within (object : ObjectLiteral) (anchor : Position) : ObjectLiteral :=
  ⟨object.span.within anchor, Value.propertiesWithin anchor object.properties⟩

/-- A call with all its points anchored. -/
def Call.within (made : Call) (anchor : Position) : Call where
  callee := made.callee
  arguments := made.arguments.within anchor
  argument := made.argument.map (·.within anchor)

/-- A declaration with all its points anchored. -/
def Declaration.within (anchor : Position) : Declaration → Declaration
  | .object literal => .object (literal.within anchor)
  | .call made => .call (made.within anchor)
  | .other => .other

/-- What a statement is, with all its points anchored. -/
def StatementKind.within (anchor : Position) : StatementKind → StatementKind
  | .importing declaration => .importing declaration
  | .exporting declaration => .exporting (declaration.within anchor)
  | .other => .other

/-- A statement with all its points anchored. -/
def Statement.within (statement : Statement) (anchor : Position) : Statement :=
  ⟨statement.kind.within anchor, statement.span.within anchor⟩

/-- A syntax error with its line and column anchored. -/
def SyntaxError.within (error : SyntaxError) (anchor : Position) : SyntaxError where
  fault := error.fault
  line := anchor.line + error.line
  column := if error.line = 0 then anchor.column + error.column else error.column

/-- An outline, or the error in its place, with all its points anchored. -/
def outlineWithin (anchor : Position) :
    Except SyntaxError (List Statement) → Except SyntaxError (List Statement)
  | .ok statements => .ok (statements.map (·.within anchor))
  | .error error => .error (error.within anchor)

/-- A script that moves with its document. -/
def Site.within (site : Site) (anchor : Position) : Site :=
  ⟨site.content, site.origin.within anchor⟩

section Outline

variable (site : Site) (anchor : Position)

lemma Site.position_within (n : Nat) :
    (site.within anchor).position n = (site.position n).within anchor :=
  (Position.within_within _ _ _).symm

lemma Site.span_within (tree : Tree) :
    (site.within anchor).span tree = (site.span tree).within anchor := by
  rw [Site.span, Site.position_within, Site.position_within]
  rfl

lemma Site.text_within (tree : Tree) : (site.within anchor).text tree = site.text tree := rfl

lemma propertiesWithin_append (a b : List (Property Value)) :
    Value.propertiesWithin anchor (a ++ b)
      = Value.propertiesWithin anchor a ++ Value.propertiesWithin anchor b := by
  induction a with
  | nil => rfl
  | cons property a ih =>
      rw [List.cons_append, Value.propertiesWithin, ih, Value.propertiesWithin]
      rfl

mutual

/-- Values move with their script: the induction follows the trees, and the children of a node are
read in three ways. -/
theorem valueOf_within (tree : Tree) :
    valueOf (site.within anchor) tree = (valueOf site tree).within anchor := by
  match tree with
  | .node kind role start stop children =>
    rw [valueOf, valueOf]
    split_ifs
    · rw [Site.span_within, propertiesOf_within, Value.within]
    · rw [Site.text_within, Value.within]
    · exact firstValue_within children
    · rw [Value.within]

theorem firstValue_within (trees : List Tree) :
    firstValue (site.within anchor) trees = (firstValue site trees).within anchor := by
  match trees with
  | [] => rw [firstValue, firstValue, Value.within]
  | tree :: _ =>
    rw [firstValue, firstValue]
    exact valueOf_within tree

theorem pairValue_within (trees : List Tree) :
    pairValue (site.within anchor) trees = (pairValue site trees).within anchor := by
  match trees with
  | [] => rw [pairValue, pairValue, Value.within]
  | tree :: rest =>
    rw [pairValue, pairValue]
    split_ifs
    · exact valueOf_within tree
    · exact pairValue_within rest

theorem propertyOf?_within (tree : Tree) :
    propertyOf? (site.within anchor) tree
      = (propertyOf? site tree).map (Value.propertyWithin anchor) := by
  match tree with
  | .node kind role start stop children =>
    cases kind with
    | pair =>
        rw [propertyOf?, propertyOf?, Option.map_map, pairValue_within children, Site.span_within]
        rfl
    | shorthand =>
        rw [propertyOf?, propertyOf?, Site.span_within]
        rfl
    | method =>
        rw [propertyOf?, propertyOf?, Option.map_map, Site.span_within]
        rfl
    | _ => rfl

theorem propertiesOf_within (trees : List Tree) :
    propertiesOf (site.within anchor) trees
      = Value.propertiesWithin anchor (propertiesOf site trees) := by
  match trees with
  | [] => rw [propertiesOf, propertiesOf, Value.propertiesWithin]
  | tree :: rest =>
    rw [propertiesOf, propertiesOf, propertyOf?_within tree, propertiesOf_within rest,
      propertiesWithin_append]
    cases propertyOf? site tree <;> rfl

end

lemma asObject?_within (value : Value) :
    (value.within anchor).asObject? = value.asObject?.map (·.within anchor) := by
  cases value <;> rfl

lemma callOf?_within (tree : Tree) :
    callOf? (site.within anchor) tree = (callOf? site tree).map (·.within anchor) := by
  unfold callOf?
  cases tree.child? .callee with
  | none => rfl
  | some callee =>
      cases tree.child? .arguments with
      | none => rfl
      | some arguments =>
          simp only [Option.bind_eq_bind, Option.bind_some]
          split_ifs
          · rw [Option.map_some, Call.within, Site.span_within]
            cases arguments.children.head? with
            | none => rfl
            | some first =>
                simp only [Option.bind_some]
                split_ifs
                · rw [valueOf_within, asObject?_within]
                  rfl
                · rfl
          · rfl

lemma declarationOf_within (tree : Tree) :
    declarationOf (site.within anchor) tree = (declarationOf site tree).within anchor := by
  unfold declarationOf
  cases (tree.child? .value).orElse fun _ => tree.child? .declaration with
  | none => rfl
  | some value =>
      dsimp only
      cases (unwrap value).kind with
      | object =>
          dsimp only
          rw [valueOf_within, asObject?_within]
          cases (valueOf site (unwrap value)).asObject? <;> rfl
      | call =>
          dsimp only
          rw [callOf?_within]
          cases callOf? site (unwrap value) <;> rfl
      | _ => rfl

lemma classify_within (tree : Tree) :
    classify (site.within anchor) tree = (classify site tree).within anchor := by
  unfold classify
  cases tree.kind with
  | importStatement =>
      dsimp only
      have himport : importOf? (site.within anchor) tree = importOf? site tree := rfl
      rw [himport]
      cases importOf? site tree <;> rfl
  | exportStatement =>
      dsimp only
      split_ifs
      · rw [declarationOf_within]
        rfl
      · rfl
  | _ => rfl

lemma statementsOf_within (tree : Tree) :
    statementsOf (site.within anchor) tree
      = (statementsOf site tree).map (·.within anchor) := by
  rw [statementsOf, statementsOf, List.map_map]
  refine List.map_congr_left fun child _ => ?_
  rw [classify_within, Site.span_within]
  rfl

/-- **Outlines move with their script.** -/
lemma outlineOf_within (tree : Tree) :
    outlineOf (site.within anchor) tree = outlineWithin anchor (outlineOf site tree) := by
  rw [outlineOf, outlineOf]
  split
  · rw [outlineWithin, syntaxError, Site.position_within]
    rfl
  · rw [outlineWithin, statementsOf_within]

end Outline

end Script

/-! ### Documents -/

/-- A block with all its points anchored. -/
def Block.within (block : Block) (anchor : Position) : Block where
  content := block.content
  span := block.span.within anchor
  contentSpan := block.contentSpan.within anchor
  attributes := block.attributes

/-- A script with all its points anchored. -/
def ScriptBlock.within (script : ScriptBlock) (anchor : Position) : ScriptBlock where
  toBlock := script.toBlock.within anchor
  setup := script.setup
  outline := Script.outlineWithin anchor script.outline

/-- A style with all its points anchored. -/
def StyleBlock.within (style : StyleBlock) (anchor : Position) : StyleBlock where
  toBlock := style.toBlock.within anchor
  isScoped := style.isScoped
  isModule := style.isModule

namespace Document

open Markup

/-- A document with all its points anchored. -/
def within (document : Document) (anchor : Position) : Document where
  script := document.script.map (·.within anchor)
  scriptSetup := document.scriptSetup.map (·.within anchor)
  template := document.template.map (·.within anchor)
  styles := document.styles.map (·.within anchor)

lemma ofElement_append (p t : Text) (e : Element) :
    Block.ofElement (p ++ t) (e.shift p.bytes)
      = (Block.ofElement t e).within (Position.origin.after p) := by
  rw [Block.ofElement, Block.within]
  simp only [Element.shift, span_append_add]
  rfl

lemma scriptBlock_ofBlock_within (syntaxTree : Text → Script.Tree) (block : Block)
    (anchor : Position) :
    ScriptBlock.ofBlock syntaxTree (block.within anchor)
      = (ScriptBlock.ofBlock syntaxTree block).within anchor := by
  have houtline := Script.outlineOf_within ⟨block.content, block.contentSpan.start⟩ anchor
    (syntaxTree block.content)
  rw [ScriptBlock.ofBlock, ScriptBlock.within]
  exact congrArg (ScriptBlock.mk _ _) houtline

section Moved

variable {p : Text} (hp : '<' ∉ p) (t : Text)

include hp

/-- The scripts of the moved document are the scripts, moved. -/
lemma scripts_append :
    scripts (p ++ t) (scan (p ++ t))
      = (scripts t (scan t)).map (·.within (Position.origin.after p)) := by
  rw [scripts_eq, scripts_eq, scan_append hp, List.filter_map, List.map_map, List.map_map]
  exact List.map_congr_left fun e _ => ofElement_append p t e

/-- A test that does not look at places picks out the same script. -/
lemma find?_scripts_append (syntaxTree : Text → Script.Tree) {test : Block → Bool}
    (htest : ∀ b anchor, test (b.within anchor) = test b) :
    ((scripts (p ++ t) (scan (p ++ t))).find? test).map (ScriptBlock.ofBlock syntaxTree)
      = (((scripts t (scan t)).find? test).map (ScriptBlock.ofBlock syntaxTree)).map
        (·.within (Position.origin.after p)) := by
  have hsame : test ∘ (·.within (Position.origin.after p)) = test := funext fun b => htest b _
  rw [scripts_append hp, List.find?_map, hsame, Option.map_map, Option.map_map]
  exact congrArg (Option.map · _) (funext fun b => scriptBlock_ofBlock_within syntaxTree b _)

lemma find?_elements_append (name : Text) :
    ((scan (p ++ t)).find? (·.isNamed name)).map (Block.ofElement (p ++ t))
      = (((scan t).find? (·.isNamed name)).map (Block.ofElement t)).map
        (·.within (Position.origin.after p)) := by
  rw [scan_append hp, List.find?_map, Option.map_map, Option.map_map]
  exact congrArg (Option.map · _) (funext fun e => ofElement_append p t e)

lemma filter_elements_append (name : Text) :
    ((scan (p ++ t)).filter (·.isNamed name)).map
        (fun e => StyleBlock.ofBlock (Block.ofElement (p ++ t) e))
      = (((scan t).filter (·.isNamed name)).map
        fun e => StyleBlock.ofBlock (Block.ofElement t e)).map
          (·.within (Position.origin.after p)) := by
  rw [scan_append hp, List.filter_map, List.map_map, List.map_map]
  exact List.map_congr_left fun e _ => congrArg StyleBlock.ofBlock (ofElement_append p t e)

end Moved

/-- **Parsing commutes with moving the document**: a text without `<` in front anchors all points of
the document at its own end, and changes nothing else. -/
theorem parseBy_append (syntaxTree : Text → Script.Tree) {p : Text} (hp : '<' ∉ p) (t : Text) :
    parseBy syntaxTree (p ++ t) = (parseBy syntaxTree t).within (p.position p.bytes) := by
  rw [position_bytes, parseBy, find?_scripts_append hp t syntaxTree fun _ _ => rfl,
    find?_scripts_append hp t syntaxTree fun _ _ => rfl, find?_elements_append hp,
    filter_elements_append hp]
  rfl

/-- `parseBy_append` where the document begins in the middle of a line, behind characters of two
bytes, and its script begins on that line. -/
theorem parseBy_append_midLine :
    let p : Text := "é\nö ".toList
    let t : Text := "<script setup>let é = \n</script>".toList
    '<' ∉ p ∧ p.position p.bytes = ⟨1, 2, 6⟩
      ∧ (parse (p ++ t)).scriptSetup.map (·.contentSpan) = some ⟨⟨1, 16, 20⟩, ⟨2, 0, 30⟩⟩
      ∧ parse (p ++ t) = (parse t).within (p.position p.bytes) := by
  intro p t
  have hp : '<' ∉ p := by decide
  exact ⟨hp, by decide, by decide +kernel, parseBy_append Script.parse hp t⟩

end Document

end ComponentFile
