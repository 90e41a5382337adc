import Mathlib.Tactic
import ComponentFile.Proofs.Registration.Anchors
import ComponentFile.Proofs.Script.Nesting
import ComponentFile.Proofs.Text.Weaving

/-!
Registration writes only into the script it has chosen, and only inserts.

Each edit is shown to lie `Within` the content of the script: `within_of_boundary` for the offsets
that go through a line and a column and back, `importInsertion_within`, `appendEntry_place` and
`listInExport?_place` for the single templates (`Admits` says where in its object an entry goes),
`Plan.within` for all of a run. What a batch of such edits makes of a text is then a matter of
weaving (`applyInsertions_within`, and `lands_of_within` for the text on either side of one of
them).

* `Plan text script component settings edits`: the four ways of registering a component in a script.
  `plan_of_registerBy` says that there are no others.
* `register_confined` is the statement for all documents.
-/

namespace ComponentFile

open Text Script

/-! ### Edits inside a part of a text -/

/-- The edit is put somewhere into `content`, which stands between `before` and `after`. -/
def Insertion.Within (before content after : Text) (edit : Insertion) : Prop :=
  ∃ a b, content = a ++ b ∧ edit.At (before ++ a) (b ++ after)

section Within

variable {before content after : Text}

lemma Insertion.Within.offset_eq {edit : Insertion} (h : edit.Within before content after) :
    ∃ n, content.IsBoundary n
      ∧ (before ++ (content ++ after)).offset edit.line edit.column = before.bytes + n := by
  obtain ⟨a, b, rfl, hat⟩ := h
  refine ⟨a.bytes, ⟨a, b, rfl, rfl⟩, ?_⟩
  rw [Insertion.At, bytes_append] at hat
  rw [← hat]
  simp

/-- A boundary of the content is a place inside it. -/
lemma Insertion.within_of_boundary {n : Nat} (h : content.IsBoundary n) (inserted : Text) :
    (Insertion.placed ((before ++ (content ++ after)).position (before.bytes + n)) inserted).Within
      before content after := by
  obtain ⟨a, b, rfl, rfl⟩ := h
  refine ⟨a, b, rfl, ?_⟩
  have htext : before ++ (a ++ b ++ after) = before ++ a ++ (b ++ after) := by simp
  rw [htext, ← bytes_append, position_append]
  exact Insertion.placed_at _ _ _

/-- **A batch of edits inside a part of a text** leaves the rest as it is and inserts their
texts. -/
lemma applyInsertions_within {edits : List Insertion}
    (h : ∀ edit ∈ edits, edit.Within before content after) :
    ∃ content' texts, applyInsertions (before ++ (content ++ after)) edits
        = before ++ (content' ++ after)
      ∧ texts.Perm (edits.map (·.text)) ∧ Inserted content texts content' := by
  have hanchors : ∀ a ∈ edits.map (anchor (before ++ (content ++ after))),
      ∃ n, content.IsBoundary n ∧ a.1 = before.bytes + n := by
    intro a ha
    obtain ⟨edit, hedit, rfl⟩ := List.mem_map.mp ha
    exact (h edit hedit).offset_eq
  obtain ⟨texts, hperm, hinserted⟩ := exists_inserted_weave hanchors
  refine ⟨_, texts, ?_, hperm.trans (by simp [Function.comp_def, anchor]), hinserted⟩
  rw [applyInsertions_eq_weave, weave_append_left, Nat.zero_add, weave_append_right]
  · intro a ha
    obtain ⟨n, hn, hoffset⟩ := hanchors a ha
    have := hn.le
    omega
  · intro a ha
    obtain ⟨n, -, hoffset⟩ := hanchors a ha
    omega

/-- A boundary of a text in two parts lies in the first part or in the second. -/
lemma Text.IsBoundary.append_cases {s t : Text} {n : Nat} (h : (s ++ t).IsBoundary n) :
    (n ≤ s.bytes → s.IsBoundary n) ∧ (s.bytes ≤ n → t.IsBoundary (n - s.bytes)) := by
  obtain ⟨x, y, hxy, rfl⟩ := h
  constructor
  · intro hle
    obtain ⟨m, rfl, -⟩ := split_of_bytes_le hxy.symm hle
    exact ⟨x, m, rfl, rfl⟩
  · intro hle
    obtain ⟨m, rfl, rfl⟩ := split_of_bytes_le hxy hle
    exact ⟨m, y, rfl, by rw [bytes_append]; omega⟩

/-- The place of one edit of a batch: it is put between `a` and `b`, which stand between `before`
and `after` and of which the whole batch makes `a'` and `b'`. -/
structure Insertion.Lands (text : Text) (edits : List Insertion) (edit : Insertion)
    (before a b after a' b' : Text) : Prop where
  text_eq : text = before ++ (a ++ b ++ after)
  place : edit.At (before ++ a) (b ++ after)
  applied : applyInsertions text edits = before ++ (a' ++ edit.text ++ b' ++ after)
  inserted : ∃ ts us, Inserted a ts a' ∧ Inserted b us b'
    ∧ (ts ++ edit.text :: us).Perm (edits.map (·.text))

/-- **A batch around one of its edits.** What the batch puts before the edit and what it puts behind
it are woven apart. -/
lemma lands_of_within {a b : Text} {es fs : List Insertion} {edit : Insertion}
    (hwithin : ∀ e ∈ es ++ edit :: fs, e.Within before (a ++ b) after)
    (hat : edit.At (before ++ a) (b ++ after)) :
    let text := before ++ (a ++ b ++ after)
    let o := (before ++ a).bytes
    edit.Lands text (es ++ edit :: fs) before a b after
      (weave (anchoredBefore o (es.map (anchor text)) (fs.map (anchor text))) before.bytes a)
      (weave (anchoredBehind o (es.map (anchor text)) (fs.map (anchor text))) o b) := by
  intro text o
  set a' := weave (anchoredBefore o (es.map (anchor text)) (fs.map (anchor text))) before.bytes a
  set b' := weave (anchoredBehind o (es.map (anchor text)) (fs.map (anchor text))) o b
  have ho : before.bytes + a.bytes = o := (bytes_append _ _).symm
  have hedit : anchor text edit = (o, edit.text) := by
    have htext : text = before ++ a ++ (b ++ after) := by simp [text]
    rw [anchor, htext, hat]
  -- the places of the other edits are boundaries of the content
  have hplace : ∀ p, p ∈ es.map (anchor text) ∨ p ∈ fs.map (anchor text) →
      ∃ n, (a ++ b).IsBoundary n ∧ p.1 = before.bytes + n := by
    intro p hp
    rw [← List.mem_append, ← List.map_append] at hp
    obtain ⟨e, he, rfl⟩ := List.mem_map.mp hp
    refine (hwithin e ?_).offset_eq
    rcases List.mem_append.mp he with he | he <;> simp [he]
  have hleft : ∀ p ∈ anchoredBefore o (es.map (anchor text)) (fs.map (anchor text)),
      ∃ n, a.IsBoundary n ∧ p.1 = before.bytes + n := by
    intro p hp
    have hp := mem_anchoredBefore.mp hp
    obtain ⟨n, hn, hpn⟩ := hplace p (hp.imp And.left And.left)
    exact ⟨n, hn.append_cases.1 (by omega), hpn⟩
  have hright : ∀ p ∈ anchoredBehind o (es.map (anchor text)) (fs.map (anchor text)),
      ∃ n, b.IsBoundary n ∧ p.1 = o + n := by
    intro p hp
    have hp := mem_anchoredBehind.mp hp
    obtain ⟨n, hn, hpn⟩ := hplace p (hp.imp And.left And.left)
    exact ⟨n - a.bytes, hn.append_cases.2 (by omega), by omega⟩
  refine ⟨rfl, hat, ?_, ?_⟩
  · calc applyInsertions text (es ++ edit :: fs)
        = weave (es.map (anchor text) ++ (o, edit.text) :: fs.map (anchor text)) 0
            (before ++ (a ++ (b ++ after))) := by
          rw [applyInsertions_eq_weave, List.map_append, List.map_cons, hedit]
          simp [text]
      _ = before ++ weave (es.map (anchor text) ++ (o, edit.text) :: fs.map (anchor text))
            before.bytes (a ++ (b ++ after)) := by
          rw [weave_append_left, Nat.zero_add]
          intro p hp
          rw [List.mem_append, List.mem_cons] at hp
          rcases hp with hp | rfl | hp
          · obtain ⟨n, -, hn⟩ := hplace p (.inl hp)
            omega
          · dsimp only
            omega
          · obtain ⟨n, -, hn⟩ := hplace p (.inr hp)
            omega
      _ = before ++ (a' ++ (edit.text ++ (b' ++ after))) := by
          rw [weave_around _ ho, weave_append_right]
          intro p hp
          obtain ⟨n, hn, hpn⟩ := hright p hp
          have := hn.le
          omega
      _ = before ++ (a' ++ edit.text ++ b' ++ after) := by simp
  · obtain ⟨ts, hts, hbefore⟩ := exists_inserted_weave hleft
    obtain ⟨us, hus, hbehind⟩ := exists_inserted_weave hright
    refine ⟨ts, us, hbefore, hbehind, ?_⟩
    calc (ts ++ edit.text :: us).Perm _ := hts.append (hus.cons _)
      _ = (anchoredBefore o (es.map (anchor text)) (fs.map (anchor text)) ++ (o, edit.text)
            :: anchoredBehind o (es.map (anchor text)) (fs.map (anchor text))).map (·.2) := by simp
      List.Perm _ _ := (anchored_perm _ _ _ _).map _
      _ = _ := by simp [anchor, Function.comp_def]

end Within

namespace Registration

/-! ### Where the templates go -/

section Templates

variable {text before after : Text} {block : Block}

lemma fillEmpty_within (h : Block.Sits text before after block) (body : Text) :
    (fillEmpty block body).Within before block.content after :=
  ⟨block.content, [], by simp, fillEmpty_at h body⟩

lemma importInsertion_within (h : Block.Sits text before after block) {tree : Script.Tree}
    (htree : tree.Placed block.content) (component : Component) :
    (importInsertion block (statementsOf ⟨block.content, block.contentSpan.start⟩ tree)
      component).Within before block.content after := by
  obtain ⟨a, b, hab, hat, -⟩ := importInsertion_place h
    (fun child hchild _ => (htree.child hchild).isBoundary_stop) component
  exact ⟨a, b, hab, hat⟩

lemma start_within (h : Block.Sits text before after block) (inserted : Text) :
    (Insertion.placed block.contentSpan.start inserted).Within before block.content after := by
  refine ⟨[], block.content, rfl, ?_⟩
  rw [h.start_eq, List.append_nil]
  exact Insertion.placed_at _ _ _

lemma stop_within (h : Block.Sits text before after block) (inserted : Text) :
    (Insertion.placed block.contentSpan.stop inserted).Within before block.content after := by
  refine ⟨block.content, [], by simp, ?_⟩
  rw [h.stop_eq]
  exact Insertion.placed_at _ _ _

/-- The comma behind an entry lies between the entry and the end of its object. -/
lemma trailingComma?_eq_some {content : Text} {n m comma : Nat} (hn : content.IsBoundary n)
    (hm : content.IsBoundary m)
    (h : trailingComma? (before ++ (content ++ after)) (before.bytes + n) (before.bytes + m)
      = some comma) :
    ∃ k, content.IsBoundary k ∧ n < k ∧ k ≤ m ∧ comma = before.bytes + k := by
  rw [trailingComma?] at h
  by_cases hle : n ≤ m
  · obtain ⟨a, b, rfl, rfl⟩ := hn
    obtain ⟨a', b', hab, rfl⟩ := hm
    obtain ⟨mid, rfl, rfl⟩ := split_of_bytes_le hab hle
    have hslice : (before ++ (a ++ (mid ++ b') ++ after)).slice (before.bytes + a.bytes)
        (before.bytes + (a ++ mid).bytes) = mid := by
      have := slice_append (before ++ a) mid (b' ++ after)
      rw [bytes_append, Nat.add_assoc, ← bytes_append a mid] at this
      simpa using this
    rw [hslice] at h
    split at h
    case h_1 rest hrest =>
      have hmid : mid = List.takeWhile isBlank mid ++ ',' :: rest := by
        rw [← hrest, List.takeWhile_append_dropWhile]
      refine ⟨a.bytes + (bytes (List.takeWhile isBlank mid) + 1),
        ⟨a ++ (List.takeWhile isBlank mid ++ [',']), rest ++ b', ?_, ?_⟩, by omega, ?_, ?_⟩
      · conv_lhs => rw [hmid]
        simp
      · rw [bytes_append, bytes_append]
        rfl
      · have hbytes := congrArg bytes hmid
        have hcomma : (',' : Char).utf8Size = 1 := rfl
        rw [bytes_append, bytes_cons] at hbytes
        rw [bytes_append]
        omega
      · rw [Option.some.injEq] at h
        omega
    case h_2 => cases h
  · rw [slice_eq_nil _ (by omega)] at h
    cases h

/-- A text is put into a span: behind its beginning or, if it begins with a comma, right there. -/
structure Admits (span : Span) (n : Nat) (inserted : Text) : Prop where
  start_le : span.start.offset ≤ n
  comma : span.start.offset = n → inserted.head? = some ','
  le_stop : n ≤ span.stop.offset

lemma Admits.of_lt {span : Span} {n : Nat} {inserted : Text} (hstart : span.start.offset < n)
    (hstop : n ≤ span.stop.offset) : Admits span n inserted :=
  ⟨hstart.le, fun heq => absurd heq hstart.ne, hstop⟩

/-- What is put into a span is put into every span around it. -/
lemma Admits.mono {inner outer : Span} {n : Nat} {inserted : Text} (h : Admits inner n inserted)
    (hinside : inner.Inside outer) : Admits outer n inserted where
  start_le := hinside.start_le.trans h.start_le
  comma hstart := by
    have hinner := h.start_le
    have houter := hinside.start_le
    exact h.comma (by omega)
  le_stop := h.le_stop.trans hinside.stop_le

variable {site : Site}

/-- An entry is added at a boundary of the script, inside its object. -/
lemma appendEntry_place (after : Text) (horigin : site.origin = Position.origin.after before)
    {object : ObjectLiteral} (hobject : IsObject site object) (name : Text) :
    ∃ n inserted, site.content.IsBoundary n ∧ Admits object.span (before.bytes + n) inserted
      ∧ appendEntry (before ++ (site.content ++ after)) object name
        = .placed ((before ++ (site.content ++ after)).position (before.bytes + n)) inserted := by
  obtain ⟨node, hplaced, hkind, hspan, hproperties⟩ := hobject
  have hbrackets := hplaced.bracketed (.inl hkind)
  have hwidth := hbrackets.lt
  obtain ⟨hopen, hclose⟩ := hbrackets.isBoundary
  have hstart : object.span.start.offset = before.bytes + node.start := by
    rw [hspan]
    exact Site.position_offset horigin hplaced.isBoundary_start
  have hstop : object.span.stop.offset = before.bytes + node.stop := by
    rw [hspan]
    exact Site.position_offset horigin hplaced.isBoundary_stop
  rw [appendEntry, hstop]
  dsimp only
  split
  · rw [hstart, Nat.add_assoc]
    exact ⟨_, _, hopen, .of_lt (by omega) (by omega), rfl⟩
  case h_2 last hlast =>
    have hmem : last ∈ propertiesOf site node.children := by
      rw [← hproperties]
      exact List.mem_of_getLast? hlast
    obtain ⟨tree, htree, hread⟩ := mem_propertiesOf hmem
    have hentry := (hplaced.child htree).isBoundary_stop
    have hinside := hplaced.nested htree
    have horder := (hplaced.child htree).start_le_stop
    have hlastStop : last.span.stop.offset = before.bytes + tree.stop := by
      rw [(propertyOf?_eq_some hread).1]
      exact Site.position_offset horigin hentry
    have hend : before.bytes + node.stop - 1 = before.bytes + (node.stop - 1) := by omega
    rw [hlastStop, hend]
    split
    case h_1 comma hcomma =>
      obtain ⟨k, hk, hlt, hle, rfl⟩ := trailingComma?_eq_some hentry hclose hcomma
      exact ⟨k, _, hk, .of_lt (by omega) (by omega), rfl⟩
    case h_2 => exact ⟨_, _, hentry, ⟨by omega, fun _ => rfl, by omega⟩, rfl⟩

/-- A component is listed at a boundary of the script, inside any span in which what is exported is
nested. -/
lemma listInExport?_place (site : Site) (horigin : site.origin = Position.origin.after before)
    {tree : Script.Tree} (htree : tree.Placed site.content) (statement : Statement)
    (component : Component) {edit : Insertion}
    (h : listInExport? (before ++ (site.content ++ after)) statement (declarationOf site tree)
      component = some edit) :
    ∃ n inserted, site.content.IsBoundary n
      ∧ (∀ outer, (declarationOf site tree).NestedIn outer →
        Admits outer (before.bytes + n) inserted)
      ∧ edit = .placed ((before ++ (site.content ++ after)).position (before.bytes + n))
        inserted := by
  unfold listInExport? at h
  split at h
  case h_1 options hoptions =>
    have hobject := isObject_of_options htree hoptions
    have hinside : ∀ outer, (declarationOf site tree).NestedIn outer →
        options.span.Inside outer ∧ options.Nested := fun outer hnested => hnested.options hoptions
    split at h
    · -- there is no `components` option yet
      obtain ⟨node, hplaced, hkind, hspan, -⟩ := hobject
      have hbrackets := hplaced.bracketed (.inl hkind)
      have hstart : options.span.start.offset = before.bytes + node.start := by
        rw [hspan]
        exact Site.position_offset horigin hplaced.isBoundary_start
      have hstop : options.span.stop.offset = before.bytes + node.stop := by
        rw [hspan]
        exact Site.position_offset horigin hplaced.isBoundary_stop
      rw [hstart, Nat.add_assoc, Option.some.injEq] at h
      have hwidth := hbrackets.lt
      refine ⟨_, _, hbrackets.isBoundary.1, fun outer hnested => ?_, h.symm⟩
      exact .mono (.of_lt (by omega) (by omega)) (hinside outer hnested).1
    case h_2 property hproperty =>
      split at h
      · cases h
      case h_2 components hcomponents =>
        split at h
        · cases h
        · have hmem := List.mem_of_find?_eq_some hproperty
          obtain ⟨n, inserted, hn, hadmits, heq⟩ := appendEntry_place after horigin
            (hobject.value hmem hcomponents) component.name
          rw [Option.some.injEq, heq] at h
          refine ⟨n, inserted, hn, fun outer hnested => ?_, h.symm⟩
          obtain ⟨houter, hnested⟩ := hinside outer hnested
          exact hadmits.mono ((hnested.value hmem hcomponents).trans houter)
  case h_2 =>
    split at h
    case h_1 made hcall =>
      split at h
      · obtain ⟨arguments, hplaced, hkind, hspan⟩ := arguments_of_declarationOf htree hcall
        have hbrackets := hplaced.bracketed (.inr hkind)
        have hstart : made.arguments.start.offset = before.bytes + arguments.start := by
          rw [hspan]
          exact Site.position_offset horigin hplaced.isBoundary_start
        have hstop : made.arguments.stop.offset = before.bytes + arguments.stop := by
          rw [hspan]
          exact Site.position_offset horigin hplaced.isBoundary_stop
        rw [hstart, Nat.add_assoc, Option.some.injEq] at h
        have hwidth := hbrackets.lt
        refine ⟨_, _, hbrackets.isBoundary.1, fun outer hnested => ?_, h.symm⟩
        rw [hcall] at hnested
        exact .mono (.of_lt (by omega) (by omega)) hnested.1
      · cases h
    case h_2 => cases h

end Templates

/-! ### Runs -/

lemma mem_of_defaultExport? {statements : List Statement} {statement : Statement}
    {declaration : Declaration} (h : defaultExport? statements = some (statement, declaration)) :
    statement ∈ statements ∧ statement.asExport? = some declaration := by
  obtain ⟨s, hs, hexport⟩ := List.exists_of_findSome?_eq_some h
  obtain ⟨d, hd, heq⟩ := Option.map_eq_some_iff.mp hexport
  obtain ⟨rfl, rfl⟩ := Prod.mk.inj heq
  exact ⟨hs, hd⟩

lemma exists_of_defaultExport? {site : Site} {tree : Script.Tree} {statement : Statement}
    {declaration : Declaration}
    (h : defaultExport? (statementsOf site tree) = some (statement, declaration)) :
    ∃ child ∈ tree.children, statement.span = site.span child
      ∧ declaration = declarationOf site child := by
  obtain ⟨hs, hexport⟩ := mem_of_defaultExport? h
  obtain ⟨child, hchild, hspan, hdeclaration⟩ := mem_statementsOf_export hs
  exact ⟨child, hchild, hspan, hdeclaration declaration hexport⟩

/-- The script that a registration writes to: the script setup, or else the plain script. -/
def chosen? (document : Document) : Option ScriptBlock :=
  document.scriptSetup.or document.script

/-- The chosen script is a block of the text, analysed with the given syntax. -/
lemma exists_of_chosen? {syntaxTree : Text → Script.Tree} {text : Text} {script : ScriptBlock}
    (h : chosen? (Document.parseBy syntaxTree text) = some script) :
    ∃ block before after, script = ScriptBlock.ofBlock syntaxTree block
      ∧ Block.Sits text before after block := by
  obtain ⟨test, block, hfind, rfl⟩ : ∃ test block,
      (Document.scripts text (Markup.scan text)).find? test = some block
        ∧ ScriptBlock.ofBlock syntaxTree block = script := by
    rcases Option.or_eq_some_iff.mp h with hsetup | ⟨-, hplain⟩
    · obtain ⟨block, hblock, hscript⟩ := Option.map_eq_some_iff.mp hsetup
      exact ⟨_, block, hblock, hscript⟩
    · obtain ⟨block, hblock, hscript⟩ := Option.map_eq_some_iff.mp hplain
      exact ⟨_, block, hblock, hscript⟩
  obtain ⟨p, tag, closing, rest, found, hat, rfl, -⟩ := Document.exists_scriptAt hfind
  exact ⟨_, _, _, rfl, hat.sits⟩

/-- The ways of registering a component in a script, each with its edits. -/
inductive Plan (text : Text) (script : ScriptBlock) (component : Component)
    (settings : Settings) : List Insertion → Prop where
  | fill (hempty : script.isEmpty = true) (body : Text)
      (hbody : body = Source.importStatement component
        ∨ body = Source.scriptContent component settings script.isTyped) :
      Plan text script component settings [fillEmpty script.toBlock body]
  | setup (hcontent : script.isEmpty = false) (imported : Option Insertion)
      (hensure : ensureImport script component = .ok imported) :
      Plan text script component settings imported.toList
  | entry (hcontent : script.isEmpty = false) (statements : List Statement)
      (houtline : script.outline = .ok statements)
      (imported : Option Insertion) (hensure : ensureImport script component = .ok imported)
      (statement : Statement) (declaration : Declaration)
      (hexport : defaultExport? statements = some (statement, declaration)) :
      Plan text script component settings
        (imported.toList ++ (listInExport? text statement declaration component).toList)
  | append (hcontent : script.isEmpty = false) (statements : List Statement)
      (houtline : script.outline = .ok statements)
      (imported : Option Insertion) (hensure : ensureImport script component = .ok imported)
      (hexport : defaultExport? statements = none) :
      Plan text script component settings
        ((typeHelperInsertion? script).toList ++ imported.toList
          ++ [.placed script.contentSpan.stop
            ('\n' :: Source.defaultExport component settings script.isTyped ++ ['\n'])])

/-- A plain script with content gets an entry of its default export, or else a default export. -/
lemma plan_of_registerInScript {text : Text} {script : ScriptBlock} {component : Component}
    {settings : Settings} {edits : List Insertion}
    (hcontent : script.isEmpty = false)
    (h : registerInScript text script component settings = .ok edits) :
    Plan text script component settings edits := by
  rw [registerInScript] at h
  cases houtline : script.outline with
  | error error =>
      rw [houtline] at h
      cases h
  | ok statements =>
      cases hensure : ensureImport script component with
      | error error =>
          rw [houtline, hensure] at h
          cases h
      | ok imported =>
          rw [houtline, hensure] at h
          simp only [bind, Except.bind] at h
          split at h
          case h_1 statement declaration hexport =>
            obtain rfl := Except.ok.inj h
            exact .entry hcontent statements houtline imported hensure statement declaration hexport
          case h_2 hexport =>
            obtain rfl := Except.ok.inj h
            exact .append hcontent statements houtline imported hensure hexport

/-- A registration follows one of the plans for the chosen script. -/
lemma plan_of_registerBy {syntaxTree : Text → Script.Tree} {text : Text} {component : Component}
    {settings : Settings} {edits : List Insertion} {script : ScriptBlock}
    (h : registerBy syntaxTree text component settings = .ok edits)
    (hscript : chosen? (Document.parseBy syntaxTree text) = some script) :
    Plan text script component settings edits := by
  rw [registerBy] at h
  rcases Option.or_eq_some_iff.mp hscript with hsetup | ⟨hnone, hplain⟩
  · rcases registerIn_setup_cases hsetup h with
      ⟨hempty, rfl⟩ | ⟨hcontent, imported, hensure, rfl⟩
    · exact .fill hempty _ (.inl rfl)
    · exact .setup hcontent imported hensure
  · rw [registerIn, hnone, hplain] at h
    dsimp only at h
    split at h
    case isTrue hempty =>
      obtain rfl := Except.ok.inj h
      exact .fill hempty _ (.inr rfl)
    case isFalse hcontent => exact plan_of_registerInScript (Bool.eq_false_iff.mpr hcontent) h

section Runs

variable {syntaxTree : Text → Script.Tree} {text before after : Text} {block : Block}
  (hsits : Block.Sits text before after block)
  (htree : (syntaxTree block.content).Placed block.content) {component : Component}

include hsits htree

lemma ensureImport_within {edit : Option Insertion}
    (h : ensureImport (ScriptBlock.ofBlock syntaxTree block) component = .ok edit) :
    ∀ e ∈ edit.toList, e.Within before block.content after := by
  rcases ensureImport_eq_ok h with rfl | rfl
  · simp
  · intro e he
    obtain rfl := List.mem_singleton.mp he
    exact importInsertion_within hsits htree component

/-- All that is put into a script lies inside it. -/
lemma Plan.within {settings : Settings} {edits : List Insertion}
    (h : Plan text (ScriptBlock.ofBlock syntaxTree block) component settings edits) :
    ∀ e ∈ edits, e.Within before block.content after := by
  intro e he
  cases h with
  | fill hempty body hbody =>
      obtain rfl := List.mem_singleton.mp he
      exact fillEmpty_within hsits _
  | setup hcontent imported hensure => exact ensureImport_within hsits htree hensure e he
  | entry hcontent statements houtline imported hensure statement declaration hexport =>
      rw [outline_eq_ok houtline] at hexport
      obtain ⟨child, hchild, -, rfl⟩ := exists_of_defaultExport? hexport
      rcases List.mem_append.mp he with he | he
      · exact ensureImport_within hsits htree hensure e he
      · rw [Option.mem_toList, hsits.text_eq] at he
        obtain ⟨n, inserted, hn, -, rfl⟩ := listInExport?_place
          ⟨block.content, block.contentSpan.start⟩ hsits.start_eq (htree.child hchild) _ _ he
        exact Insertion.within_of_boundary hn _
  | append hcontent statements houtline imported hensure hexport =>
      simp only [List.mem_append, List.mem_singleton] at he
      rcases he with (he | he) | rfl
      · rw [Option.mem_toList, typeHelperInsertion?] at he
        split at he
        · obtain rfl := Option.some.inj he
          exact start_within hsits _
        · cases he
      · exact ensureImport_within hsits htree hensure e he
      · exact stop_within hsits _

end Runs

/-- The chosen script is a script of the text, and all edits lie inside it. -/
lemma exists_within {syntaxTree : Text → Script.Tree} {text : Text} {component : Component}
    {settings : Settings} {edits : List Insertion}
    (h : registerBy syntaxTree text component settings = .ok edits) {script : ScriptBlock}
    (hscript : chosen? (Document.parseBy syntaxTree text) = some script)
    (htree : (syntaxTree script.content).Placed script.content) :
    ∃ before after, Block.Sits text before after script.toBlock
      ∧ ∀ edit ∈ edits, edit.Within before script.content after := by
  have hplan := plan_of_registerBy h hscript
  obtain ⟨block, before, after, rfl, hsits⟩ := exists_of_chosen? hscript
  exact ⟨before, after, hsits, hplan.within hsits htree⟩

/-- **Registration writes only into the chosen script, and only inserts.** With `cs` and `ce` the
offsets at which the content of that script begins and ends, every edit stands on a boundary from
`cs` to `ce`, and what is outside stays. Without a script a new one is put in front. -/
theorem register_confined (syntaxTree : Text → Script.Tree) (text : Text) (component : Component)
    (settings : Settings) {edits : List Insertion}
    (h : registerBy syntaxTree text component settings = .ok edits)
    (htree : ∀ script, chosen? (Document.parseBy syntaxTree text) = some script →
      (syntaxTree script.content).Placed script.content) :
    (∀ script, chosen? (Document.parseBy syntaxTree text) = some script →
      ∃ (before after content' : Text) (texts : List Text),
        text = before ++ (script.content ++ after)
        ∧ script.contentSpan.start.offset = before.bytes
        ∧ script.contentSpan.stop.offset = (before ++ script.content).bytes
        ∧ (∀ edit ∈ edits, script.contentSpan.start.offset ≤ text.offset edit.line edit.column
          ∧ text.offset edit.line edit.column ≤ script.contentSpan.stop.offset
          ∧ text.IsBoundary (text.offset edit.line edit.column))
        ∧ applyInsertions text edits = before ++ (content' ++ after)
        ∧ texts.Perm (edits.map (·.text)) ∧ Inserted script.content texts content')
    ∧ (chosen? (Document.parseBy syntaxTree text) = none →
      applyInsertions text edits = Source.newScriptBlock component settings ++ text) := by
  constructor
  · intro script hscript
    obtain ⟨before, after, hsits, hwithin⟩ := exists_within h hscript (htree script hscript)
    obtain ⟨content', texts, happlied, hperm, hinserted⟩ := applyInsertions_within hwithin
    have hstart : script.contentSpan.start.offset = before.bytes := by
      rw [hsits.start_eq, Position.origin_after_offset]
    have hstop : script.contentSpan.stop.offset = (before ++ script.content).bytes := by
      rw [hsits.stop_eq, Position.origin_after_offset]
    rw [← hsits.text_eq] at happlied
    refine ⟨before, after, content', texts, hsits.text_eq, hstart, hstop, ?_, happlied, hperm,
      hinserted⟩
    intro edit hedit
    obtain ⟨n, hn, hoffset⟩ := (hwithin edit hedit).offset_eq
    rw [← hsits.text_eq] at hoffset
    have hle := hn.le
    refine ⟨?_, ?_, isBoundary_offset text _ _⟩
    · rw [hstart, hoffset]
      omega
    · rw [hstop, hoffset, bytes_append]
      omega
  · intro hnone
    obtain ⟨hsetup, hscript⟩ := Option.or_eq_none_iff.mp hnone
    rw [registerBy, registerIn, hsetup, hscript] at h
    obtain rfl : [⟨0, 0, Source.newScriptBlock component settings⟩] = edits := Except.ok.inj h
    have happlied := applyInsertions_singleton
      (Insertion.placed_at [] text (Source.newScriptBlock component settings))
    exact happlied

/-- A script whose default export has an empty `components` option. -/
def emptyOption : Text := "\n// é\nexport default \x7b components: \x7b\x7d \x7d\n".toList

/-- The empty object of `emptyOption`. -/
def emptyOptionObject : Script.Tree := .node .object .value 36 38 []

/-- The syntax tree of `emptyOption`; any other script is taken for an empty one. -/
def emptyOptionTree (content : Text) : Script.Tree :=
  if content = emptyOption then
    .node .program .plain 0 41
      [.node .exportStatement .plain 7 40
        [.leaf .defaultMark 14 21,
          .node .object .value 22 40
            [.node .pair .plain 24 38 [.node .other .key 24 34 [], emptyOptionObject]]]]
  else .leaf .program 0 0

lemma emptyOptionTree_placed (content : Text) : (emptyOptionTree content).Placed content := by
  by_cases h : content = emptyOption
  · subst h
    have hkey : (Script.Tree.node .other .key 24 34 []).Placed emptyOption :=
      .node (by decide) (by decide) (by decide) (by simp) (by simp) (by simp)
    have hinner : emptyOptionObject.Placed emptyOption := by
      refine .node (by decide) (by decide) (by decide) (fun _ => ?_) (by simp) (by simp)
      exact ⟨"\n// é\nexport default \x7b components: ".toList, [], " \x7d\n".toList,
        '\x7b', '\x7d',
        by decide, by decide, by decide, by decide, by decide⟩
    have hpair :
        (Script.Tree.node .pair .plain 24 38 [.node .other .key 24 34 [], emptyOptionObject]).Placed
        emptyOption :=
      .node (by decide) (by decide) (by decide) (by simp) (by decide) (by simp [hkey, hinner])
    have houter : (Script.Tree.node .object .value 22 40
        [.node .pair .plain 24 38 [.node .other .key 24 34 [], emptyOptionObject]]).Placed
        emptyOption := by
      refine .node (by decide) (by decide) (by decide) (fun _ => ?_) (by decide) (by simp [hpair])
      exact ⟨"\n// é\nexport default ".toList, " components: \x7b\x7d ".toList, "\n".toList,
        '\x7b', '\x7d',
        by decide, by decide, by decide, by decide, by decide⟩
    have hmark : (Script.Tree.leaf .defaultMark 14 21).Placed emptyOption :=
      .node (by decide) (by decide) (by decide) (by simp) (by simp) (by simp)
    rw [emptyOptionTree, if_pos rfl]
    refine .node (by decide) (by decide) (by decide) (by simp) (by decide) ?_
    simp only [List.mem_singleton, forall_eq]
    exact .node (by decide) (by decide) (by decide) (by simp) (by decide) (by simp [hmark, houter])
  · rw [emptyOptionTree, if_neg h]
    exact .node (isBoundary_zero _) (isBoundary_zero _) le_rfl (by simp) (by simp) (by simp)

/-- `register_confined` for a plain script between other text: one edit begins a line and the other
one stands in an object on a line behind a character of two bytes. -/
theorem register_confined_emptyOption :
    let text : Text := "<p>é\n<script>".toList ++ emptyOption ++ "</script>\n".toList
    let component : Component := ⟨"B".toList, "@/B.vue".toList⟩
    let edits : List Insertion :=
      [⟨2, 0, "import B from '@/B.vue'\n\n".toList⟩, ⟨3, 30, " B, ".toList⟩]
    registerBy emptyOptionTree text component {} = .ok edits
      ∧ ∃ (before after content' : Text) (texts : List Text),
        text = before ++ (emptyOption ++ after)
        ∧ applyInsertions text edits = before ++ (content' ++ after)
        ∧ texts.Perm (edits.map (·.text)) ∧ Inserted emptyOption texts content' := by
  intro text component edits
  have hrun : registerBy emptyOptionTree text component {} = .ok edits := by decide +kernel
  obtain ⟨script, hscript⟩ :
      ∃ script, chosen? (Document.parseBy emptyOptionTree text) = some script :=
    Option.isSome_iff_exists.mp (by decide +kernel)
  have hcontent : script.content = emptyOption := by
    have hcontents : (chosen? (Document.parseBy emptyOptionTree text)).map (·.content)
        = some emptyOption := by decide +kernel
    simpa [hscript] using hcontents
  obtain ⟨before, after, content', texts, htext, -, -, -, happlied, hperm, hinserted⟩ :=
    (register_confined emptyOptionTree text component {} hrun fun script _ =>
      emptyOptionTree_placed script.content).1 script hscript
  rw [hcontent] at htext hinserted
  exact ⟨hrun, before, after, content', texts, htext, happlied, hperm, hinserted⟩

end Registration

end ComponentFile
