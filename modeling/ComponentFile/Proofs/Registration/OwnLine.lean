import Mathlib.Tactic
import ComponentFile.Proofs.Registration.NewScript
import ComponentFile.Proofs.Registration.Splitting

/-!
Inserted imports stand on lines of their own, where nothing follows on the line.

An import is set apart by the line feeds of its edit. Where an edit begins or ends with the import
itself, all depends on what stands next to it in the script after the whole batch.

* `BlankBefore`, `GapBehind`: only blanks stand before the end of a text on its line, and only
  blanks and comments (`IsGap`) behind its beginning. `HoldsLine` finds an import among the lines of
  an edit.
* `Insertion.Free`: no default export begins behind an edit on its line. `MeetsExport` says what
  stands behind the edit where one does.
* `KeepsBehind`: the other edits of a batch leave alone what stands behind a place.
* `Insertion.Apart`: what has to be known of the rest of a batch around one edit. `import_apart` and
  `helper_apart` show it of the two edits that may begin or end with an import, `Plan.apart` of all.
* `register_import_ownLine` is the statement for all documents.
-/

namespace ComponentFile

open Text Script

/-! ### Lines -/

namespace Text

/-- Blanks and comments, the last of which may be left open. -/
inductive IsGap : Text → Prop where
  | nil : IsGap []
  | blank {c : Char} {t : Text} (hc : isBlank c = true) (h : IsGap t) : IsGap (c :: t)
  | comment {t : Text} {n : Nat} (hn : commentLength? t = some n) (h : IsGap (t.drop n)) : IsGap t
  | unclosed {t : Text} (hopen : blockCommentLength? t = none) : IsGap ('/' :: '*' :: t)

/-- Nothing but blanks stands at the end of a text, back to its last line feed or its beginning. -/
def BlankBefore (s : Text) : Prop :=
  ∃ u v, s = u ++ v ∧ (u = [] ∨ u.getLast? = some '\n') ∧ ∀ c ∈ v, isBlank c = true

/-- Nothing but blanks and comments stands on the first line of a text. -/
def GapBehind (t : Text) : Prop := ∃ u v, LineAt t 0 [] u v ∧ IsGap u

/-- A text holds a line, between other lines or at either end. -/
structure HoldsLine (inserted lead line tail : Text) : Prop where
  text_eq : inserted = lead ++ line ++ tail
  opens : lead = [] ∨ lead.getLast? = some '\n'
  closes : tail = [] ∨ tail.head? = some '\n'

lemma blankBefore_of_getLast? {s : Text} (h : s.getLast? = some '\n') : BlankBefore s :=
  ⟨s, [], by simp, .inr h, by simp⟩

lemma gapBehind_of_head? {t : Text} (h : t.head? = some '\n') : GapBehind t :=
  ⟨[], t, ⟨rfl, rfl, .inl rfl, .inr h, by simp⟩, .nil⟩

lemma exists_firstLine (t : Text) : ∃ u v, LineAt t 0 [] u v := by
  obtain ⟨before, u, v, hline⟩ := exists_lineAt (Nat.zero_le (t.count '\n'))
  rcases hline.opens with rfl | hfeed
  · exact ⟨u, v, hline⟩
  · have hnone := List.count_eq_zero.mp hline.count_eq
    exact absurd (List.mem_of_getLast? hfeed) hnone

section FirstLine

variable {t u v : Text} (hline : LineAt t 0 [] u v)

include hline

lemma LineAt.eq_of_bytes_le {u' v' : Text} (hother : LineAt t 0 [] u' v')
    (hle : u.bytes ≤ u'.bytes) : u = u' := by
  have hsplit : u ++ v = u' ++ v' := hline.text_eq.symm.trans hother.text_eq
  obtain ⟨m, rfl, rfl⟩ := split_of_bytes_le hsplit hle
  cases m with
  | nil => exact (List.append_nil u).symm
  | cons c m =>
      -- the first line would end before the second one does
      obtain rfl : c = '\n' := by simpa using hline.closes
      exact absurd hother.notMem (by simp)

/-- Whether nothing but blanks and comments stands on the first line. -/
lemma LineAt.gapBehind_iff : GapBehind t ↔ IsGap u := by
  refine ⟨?_, fun hgap => ⟨u, v, hline, hgap⟩⟩
  rintro ⟨u', v', hother, hgap⟩
  rcases le_total u.bytes u'.bytes with hle | hle
  · exact hline.eq_of_bytes_le hother hle ▸ hgap
  · exact hother.eq_of_bytes_le hline hle ▸ hgap

/-- What reaches past a line feed reaches past the first line. -/
lemma LineAt.bytes_lt {a b : Text} (hab : t = a ++ b) (ha : '\n' ∈ a) : u.bytes < a.bytes := by
  by_contra hle
  have hsplit : a ++ b = u ++ v := hab.symm.trans hline.text_eq
  obtain ⟨m, rfl, -⟩ := split_of_bytes_le hsplit (not_lt.mp hle)
  exact hline.notMem (List.mem_append_left m ha)

/-- A text that goes on behind a line as another one does, or with a line feed, has that line. -/
lemma LineAt.of_head? {t' v' : Text} (htext : t' = u ++ v')
    (hhead : v'.head? = v.head? ∨ v'.head? = some '\n') : LineAt t' 0 [] u v' := by
  refine ⟨htext, rfl, .inl rfl, ?_, hline.notMem⟩
  rcases hhead with hsame | hfeed
  · rw [← List.head?_eq_none_iff, hsame, List.head?_eq_none_iff]
    exact hline.closes
  · exact .inr hfeed

end FirstLine

end Text

/-! ### One edit of a batch -/

/-- No default export begins behind an edit on its line. -/
def Insertion.Free (text : Text) (statements : List Statement) (edit : Insertion) : Prop :=
  ∀ s ∈ statements, s.asExport?.isSome = true →
    text.offset edit.line edit.column ≤ s.span.start.offset → edit.line < s.span.start.line

/-- A default export begins after `u` on the line of the offset `o`. -/
structure ExportFollows (statements : List Statement) (o : Nat) (u : Text) : Prop where
  notMem : '\n' ∉ u
  starts : ∃ s ∈ statements, s.asExport?.isSome = true ∧ s.span.start.offset = o + u.bytes

/-- A default export follows on the first line of `b` at the offset `o`, and it does so in `b'`: the
line is the same up to the export, which goes on as it did or with a comma. -/
def MeetsExport (statements : List Statement) (o : Nat) (b b' : Text) : Prop :=
  ∃ u v v', b = u ++ v ∧ b' = u ++ v' ∧ ExportFollows statements o u
    ∧ (v'.head? = v.head? ∨ v'.head? = some ',')

/-- Nothing is put into the text `u` at an offset, and to its end only what begins with `c`, by the
edits `es` before the one at the offset and `fs` behind it. -/
structure KeepsBehind (text : Text) (o : Nat) (u : Text) (c : Char) (es fs : List Insertion) :
    Prop where
  passed : ∀ e ∈ es, text.offset e.line e.column ≤ o
  kept : ∀ e ∈ fs, o ≤ text.offset e.line e.column →
    o + u.bytes ≤ text.offset e.line e.column
      ∧ (text.offset e.line e.column = o + u.bytes → e.text.head? = some c)

lemma KeepsBehind.exists_weave {text u : Text} {o : Nat} {c : Char} {es fs : List Insertion}
    (h : KeepsBehind text o u c es fs) (v : Text) :
    ∃ v', weave (anchoredBehind o (es.map (anchor text)) (fs.map (anchor text))) o (u ++ v)
        = u ++ v'
      ∧ (v'.head? = v.head? ∨ v'.head? = some c) := by
  refine exists_weave_append v fun p hp => ?_
  rcases mem_anchoredBehind.mp hp with ⟨hp, hlt⟩ | ⟨hp, hle⟩
  · obtain ⟨e, he, rfl⟩ := List.mem_map.mp hp
    exact absurd (h.passed e he) (not_le.mpr hlt)
  · obtain ⟨e, he, rfl⟩ := List.mem_map.mp hp
    exact h.kept e he hle

/-- An edit between `a` and `b` keeps the imports that it begins or ends with apart from what stands
there, unless a default export follows, with the edits `es` before it in the batch and `fs` behind
it. -/
structure Insertion.Apart (text before a b : Text) (statements : List Statement)
    (es : List Insertion) (edit : Insertion) (fs : List Insertion) : Prop where
  blank : edit.text.head? = some 'i' →
    es = [] ∧ fs = [] ∧ (∀ c ∈ a, isBlank c = true)
      ∨ a.getLast? = some '\n'
        ∧ ∀ e ∈ es, text.offset e.line e.column < (before ++ a).bytes
  gap : edit.text.getLast? = some '\'' → edit.Free text statements →
    ∀ u v, LineAt b 0 [] u v → KeepsBehind text (before ++ a).bytes u '\n' es fs
  meets : edit.text.getLast? = some '\'' → ¬ edit.Free text statements →
    ∃ u v, b = u ++ v ∧ ExportFollows statements (before ++ a).bytes u
      ∧ KeepsBehind text (before ++ a).bytes u ',' es fs

namespace Insertion.Apart

variable {text before a b : Text} {statements : List Statement} {es fs : List Insertion}
  {edit : Insertion}

/-- An edit that neither begins nor ends with an import is apart from all. -/
lemma of_ends (hends : edit.text.head? ≠ some 'i' ∧ edit.text.getLast? ≠ some '\'') :
    edit.Apart text before a b statements es fs :=
  ⟨fun hhead => absurd hhead hends.1, fun hquote => absurd hquote hends.2,
    fun hquote => absurd hquote hends.2⟩

variable (h : edit.Apart text before a b statements es fs)

include h

lemma blankBefore (hhead : edit.text.head? = some 'i') :
    BlankBefore (weave (anchoredBefore (before ++ a).bytes (es.map (anchor text))
      (fs.map (anchor text))) before.bytes a) := by
  rcases h.blank hhead with ⟨rfl, rfl, hblank⟩ | ⟨hlast, hes⟩
  · have hself : weave (anchoredBefore (before ++ a).bytes [] []) before.bytes a = a :=
      weave_eq_self (by simp [anchoredBefore])
    rw [List.map_nil, hself]
    exact ⟨[], a, rfl, .inl rfl, hblank⟩
  · obtain ⟨a, rfl⟩ := List.getLast?_eq_some_iff.mp hlast
    refine blankBefore_of_getLast? ?_
    rw [weave_append_right, List.getLast?_append]
    · rfl
    · -- all that is put in stands before the line feed
      intro p hp
      have hbytes : (before ++ (a ++ ['\n'])).bytes = before.bytes + bytes a + 1 := by
        rw [bytes_append, bytes_append]
        rfl
      rcases mem_anchoredBefore.mp hp with ⟨hp, -⟩ | ⟨-, hlt⟩
      · obtain ⟨e, he, rfl⟩ := List.mem_map.mp hp
        have := hes e he
        rw [anchor]
        omega
      · omega

lemma gapBehind_iff (hlast : edit.text.getLast? = some '\'')
    (hfree : edit.Free text statements) :
    GapBehind (weave (anchoredBehind (before ++ a).bytes (es.map (anchor text))
      (fs.map (anchor text))) (before ++ a).bytes b) ↔ GapBehind b := by
  obtain ⟨u, v, hline⟩ := exists_firstLine b
  obtain ⟨v', hweave, hhead⟩ := (h.gap hlast hfree u v hline).exists_weave v
  have htext : b = u ++ v := hline.text_eq
  rw [← htext] at hweave
  rw [hline.gapBehind_iff, (hline.of_head? hweave hhead).gapBehind_iff]

lemma meetsExport (hlast : edit.text.getLast? = some '\'')
    (hfree : ¬ edit.Free text statements) :
    MeetsExport statements (before ++ a).bytes b
      (weave (anchoredBehind (before ++ a).bytes (es.map (anchor text))
        (fs.map (anchor text))) (before ++ a).bytes b) := by
  obtain ⟨u, v, rfl, hfollows, hkeeps⟩ := h.meets hlast hfree
  obtain ⟨v', hweave, hhead⟩ := hkeeps.exists_weave v
  exact ⟨u, v, v', rfl, hweave, hfollows, hhead⟩

end Insertion.Apart

/-- What is asked of the syntax tree of a script: the nodes are placed and laid out, and imports are
not empty. -/
structure Script.Tree.Regular (content : Text) (tree : Script.Tree) : Prop where
  placed : tree.Placed content
  laid : tree.Laid content
  imports : ∀ child ∈ tree.children, child.kind = .importStatement → child.start < child.stop

/-- A test of `Tree.Regular`. -/
def Script.Tree.isRegular (content : Text) (tree : Script.Tree) : Bool :=
  tree.isLaid content && tree.isBracketed content
    && tree.children.all fun child =>
      decide (child.kind = .importStatement → child.start < child.stop)

lemma Script.regular_of_isRegular {content : Text} {tree : Script.Tree}
    (h : tree.isRegular content = true) : tree.Regular content := by
  simp only [Tree.isRegular, Bool.and_eq_true, List.all_eq_true, decide_eq_true_eq] at h
  obtain ⟨⟨hlaid, hbrackets⟩, himports⟩ := h
  have hlaid := laid_of_isLaid tree hlaid
  exact ⟨hlaid.placed hbrackets, hlaid, himports⟩

namespace Registration

/-! ### The texts of edits -/

/-- The imports that a registration may insert. -/
def importLines (component : Component) : List Text :=
  [Source.importStatement component, Source.typeHelperImport]

lemma importStatement_ends (component : Component) :
    (Source.importStatement component).head? = some 'i'
      ∧ (Source.importStatement component).getLast? = some '\'' := by
  unfold Source.importStatement
  rw [List.getLast?_append]
  simp

lemma ends_of_mem_importLines {component : Component} {line : Text}
    (h : line ∈ importLines component) :
    line.head? = some 'i' ∧ line.getLast? = some '\'' := by
  rw [importLines, List.mem_cons, List.mem_singleton] at h
  rcases h with rfl | rfl
  · exact importStatement_ends component
  · unfold Source.typeHelperImport
    simp

/-- The three forms of an import: at the beginning of a line, behind the last import, and in front
of content on one line. -/
lemma importInsertion_cases (block : Block) (statements : List Statement) (component : Component) :
    let edit := importInsertion block statements component
    edit.text.head? = some 'i' ∧ edit.text.getLast? = some '\n'
      ∨ (∃ last, lastImport? statements = some last
        ∧ block.contentSpan.stop.line ≤ last.span.stop.line
        ∧ edit = .placed last.span.stop ('\n' :: Source.importStatement component))
      ∨ block.contentSpan.isSingleLine = true
        ∧ edit.text.head? = some '\n' ∧ edit.text.getLast? = some '\n' := by
  have hhead := (importStatement_ends component).1
  intro edit
  have hedit : edit = importInsertion block statements component := rfl
  rw [importInsertion] at hedit
  split at hedit
  case h_1 last hlast =>
    split at hedit
    case isTrue => exact .inl (by rw [hedit]; simp [hhead])
    case isFalse hline => exact .inr (.inl ⟨last, hlast, not_lt.mp hline, hedit⟩)
  case h_2 =>
    split at hedit
    case isTrue hlines =>
      refine .inr (.inr ⟨hlines, ?_⟩)
      rw [hedit, Insertion.placed]
      simp [List.getLast?_cons, List.getLast?_append]
    case isFalse => exact .inl (by rw [hedit]; simp [hhead, List.getLast?_append])

lemma appendEntry_ends (text : Text) (object : ObjectLiteral) (name : Text) :
    (appendEntry text object name).text.head? ≠ some 'i'
      ∧ (appendEntry text object name).text.getLast? ≠ some '\'' := by
  rw [appendEntry]
  dsimp only [Insertion.placed]
  split
  · split <;> simp [List.getLast?_cons, List.getLast?_append]
  · split
    · split <;> simp [List.getLast?_cons, List.getLast?_append]
    · split <;> simp [List.getLast?_cons, List.getLast?_append]

/-- An import that is not set apart from what stands before it begins a line. -/
lemma ImportPlace.getLast?_of_head? {component : Component} {tree : Script.Tree}
    {a b inserted : Text} (h : ImportPlace component tree a b inserted)
    (hhead : inserted.head? = some 'i') : a.getLast? = some '\n' := by
  cases h with
  | lineStart hlast feeds hfeeds => exact hlast
  | behindImport => simp at hhead
  | front => simp at hhead

/-- An entry of a default export neither begins nor ends with an import. -/
lemma listInExport?_ends {text : Text} {statement : Statement} {declaration : Declaration}
    {component : Component} {edit : Insertion}
    (h : listInExport? text statement declaration component = some edit) :
    edit.text.head? ≠ some 'i' ∧ edit.text.getLast? ≠ some '\'' := by
  unfold listInExport? at h
  split at h
  case h_1 options hoptions =>
    split at h
    · rw [Option.some.injEq] at h
      rw [← h, Insertion.placed]
      unfold Source.componentsOption
      split <;> simp [List.getLast?_cons, List.getLast?_append]
    · split at h
      · cases h
      · split at h
        · cases h
        · obtain rfl := Option.some.inj h
          exact appendEntry_ends _ _ _
  case h_2 =>
    split at h
    · split at h
      · rw [Option.some.injEq] at h
        rw [← h, Insertion.placed]
        simp [List.getLast?_cons, List.getLast?_append]
      · cases h
    · cases h

/-! ### Imports apart from their neighbours -/

section Script

variable {text before after : Text} {block : Block} (hsits : Block.Sits text before after block)
  {tree : Script.Tree} (htree : tree.Regular block.content)

/-- What a run lists behind an import: nothing, a default export at the end of a content that has
none, or an edit inside the one there is. -/
inductive Trails (text : Text) (block : Block) (statements : List Statement) :
    List Insertion → Prop where
  | nothing : Trails text block statements []
  | appended (hnone : ∀ s ∈ statements, s.asExport? = none) {edit : Insertion}
      (hstop : text.offset edit.line edit.column = block.contentSpan.stop.offset)
      (hfeed : edit.text.head? = some '\n') : Trails text block statements [edit]
  | listed {s : Statement} (hs : s ∈ statements) (hexport : s.asExport?.isSome = true)
      {edit : Insertion}
      (hadmits : Admits s.span (text.offset edit.line edit.column) edit.text) :
      Trails text block statements [edit]

lemma asExport?_of_defaultExport? {statements : List Statement}
    (h : defaultExport? statements = none) : ∀ s ∈ statements, s.asExport? = none := by
  intro s hs
  simpa using List.findSome?_eq_none_iff.mp h s hs

lemma isSome_of_lastImport? {statements : List Statement} {last : Statement}
    (h : lastImport? statements = some last) : last.asImport?.isSome = true :=
  List.find?_some (p := fun s : Statement => s.asImport?.isSome) h

/-- An import is no default export. -/
lemma asExport?_of_asImport? {statement : Statement} (h : statement.asImport?.isSome = true) :
    statement.asExport? = none := by
  rw [Statement.asImport?] at h
  rw [Statement.asExport?]
  split at h
  case h_1 hkind => rw [hkind]
  case h_2 => cases h

include hsits in
/-- The offset of an edit is that of its place. -/
lemma offset_of_at {a b : Text} (hab : block.content = a ++ b) {edit : Insertion}
    (hat : edit.At (before ++ a) (b ++ after)) :
    text.offset edit.line edit.column = (before ++ a).bytes := by
  have htext : text = before ++ a ++ (b ++ after) := by
    rw [hsits.text_eq, hab]
    simp
  rw [htext]
  exact hat

include hsits in
/-- What is put to the end of the content does not touch a line before it. -/
lemma stop_apart {a b u v : Text} (hab : block.content = a ++ b) (hline : LineAt b 0 [] u v)
    {edit : Insertion} (hstop : text.offset edit.line edit.column = block.contentSpan.stop.offset)
    (hfeed : edit.text.head? = some '\n') :
    (before ++ a).bytes + u.bytes ≤ text.offset edit.line edit.column
      ∧ (text.offset edit.line edit.column = (before ++ a).bytes + u.bytes →
        edit.text.head? = some '\n') := by
  have hcontent : (before ++ block.content).bytes
      = (before ++ a).bytes + u.bytes + v.bytes := by
    rw [hab, hline.text_eq]
    simp only [bytes_append, bytes_nil]
    omega
  rw [hstop, hsits.stop_eq, Position.origin_after_offset, hcontent]
  exact ⟨Nat.le_add_right _ _, fun _ => hfeed⟩

include htree in
/-- The last import is not empty. -/
lemma lastImport?_lt {last : Statement}
    (h : lastImport? (statementsOf ⟨block.content, block.contentSpan.start⟩ tree) = some last) :
    last.span.start.offset < last.span.stop.offset := by
  obtain ⟨child, hchild, himport, hspan⟩ := exists_of_lastImport? h
  have hlaid := htree.laid.child hchild
  have hlt := htree.imports child hchild himport.1
  rw [hspan, Site.span, Site.offset_position hlaid.isBoundary_start,
    Site.offset_position hlaid.isBoundary_stop]
  omega

include hsits htree in
/-- What stands between a place in the content and a statement that begins behind it on its line. -/
lemma exists_between {a b : Text} (hab : block.content = a ++ b) {s : Statement}
    (hs : s ∈ statementsOf ⟨block.content, block.contentSpan.start⟩ tree)
    (hle : (before ++ a).bytes ≤ s.span.start.offset)
    (hline : s.span.start.line ≤ (Position.origin.after (before ++ a)).line) :
    ∃ u v, b = u ++ v ∧ s.span.start.offset = (before ++ a).bytes + u.bytes ∧ '\n' ∉ u := by
  obtain ⟨⟨c, d, htext, hstart⟩, -, hinside⟩ := statement_hasPoint hsits htree.laid hs
  have hwhole : before ++ a ++ (b ++ after) = c ++ d := by
    rw [← htext, hsits.text_eq, hab]
    simp
  rw [hstart, Position.origin_after_offset] at hle
  obtain ⟨u, rfl, hrest⟩ := split_of_bytes_le hwhole hle
  have hstop : (before ++ a ++ u).bytes ≤ (before ++ a).bytes + b.bytes := by
    have hbound := hinside.ordered.trans hinside.stop_le
    rw [hstart, hsits.stop_eq, Position.origin_after_offset, Position.origin_after_offset, hab]
      at hbound
    simpa only [bytes_append, Nat.add_assoc] using hbound
  obtain ⟨v, rfl, -⟩ := split_of_bytes_le hrest.symm (by rw [bytes_append] at hstop; omega)
  refine ⟨u, v, rfl, by rw [hstart, Position.origin_after_offset, bytes_append], ?_⟩
  rw [hstart, Position.after_line, List.count_append, Position.after_line] at hline
  exact List.count_eq_zero.mp (by omega)

section LastImport

variable {last : Statement}
  (hlast : lastImport? (statementsOf ⟨block.content, block.contentSpan.start⟩ tree) = some last)
  {a b : Text} (hab : block.content = a ++ b)

include hsits htree hlast hab in
/-- An edit at the end of the last import. -/
lemma lastImport?_point {edit : Insertion} (hat : edit.At (before ++ a) (b ++ after))
    {inserted : Text} (hedit : edit = .placed last.span.stop inserted) :
    last.span.stop = Position.origin.after (before ++ a) := by
  have hmem := List.mem_reverse.mp (List.mem_of_find?_eq_some hlast)
  obtain ⟨-, hstop, -⟩ := statement_hasPoint hsits htree.laid hmem
  have hoffset := offset_of_at hsits hab hat
  rw [hedit] at hoffset
  have hbytes : last.span.stop.offset = (before ++ a).bytes := hstop.offset_eq.symm.trans hoffset
  have htext : text = before ++ a ++ (b ++ after) := by
    rw [hsits.text_eq, hab]
    simp
  rw [← hstop.position_eq, hbytes, htext, position_append]

variable (hpoint : last.span.stop = Position.origin.after (before ++ a))

include htree hlast hpoint in
/-- A default export that ends behind the last import begins behind it. -/
lemma export_behind {s : Statement}
    (hs : s ∈ statementsOf ⟨block.content, block.contentSpan.start⟩ tree)
    (hexport : s.asExport?.isSome = true) (hle : (before ++ a).bytes ≤ s.span.stop.offset) :
    (before ++ a).bytes ≤ s.span.start.offset := by
  have hmem := List.mem_reverse.mp (List.mem_of_find?_eq_some hlast)
  have hplace : last.span.stop.offset = (before ++ a).bytes := by
    rw [hpoint, Position.origin_after_offset]
  rcases statement_before_or htree.laid hs hmem with rfl | hbefore | hafter
  · rw [asExport?_of_asImport? (isSome_of_lastImport? hlast)] at hexport
    cases hexport
  · have hlt := lastImport?_lt htree hlast
    rw [Span.Before] at hbefore
    omega
  · exact hplace.symm.trans_le hafter

variable {es fs : List Insertion} (hes : ∀ e ∈ es, text.offset e.line e.column = before.bytes)

include hsits htree hab hpoint hes in
/-- A default export on the line of the last import, which later edits leave where it is. -/
lemma exportFollows_of_first {s : Statement}
    (hs : s ∈ statementsOf ⟨block.content, block.contentSpan.start⟩ tree)
    (hexport : s.asExport?.isSome = true) (hle : (before ++ a).bytes ≤ s.span.start.offset)
    (hline : s.span.start.line ≤ last.span.stop.line)
    (hkept : ∀ e ∈ fs, (before ++ a).bytes ≤ text.offset e.line e.column →
      s.span.start.offset ≤ text.offset e.line e.column
        ∧ (s.span.start.offset = text.offset e.line e.column → e.text.head? = some ',')) :
    ∃ u v, b = u ++ v
      ∧ ExportFollows (statementsOf ⟨block.content, block.contentSpan.start⟩ tree)
        (before ++ a).bytes u
      ∧ KeepsBehind text (before ++ a).bytes u ',' es fs := by
  obtain ⟨u, v, hb, hstart, hfeed⟩ := exists_between hsits htree hab hs hle (hpoint ▸ hline)
  refine ⟨u, v, hb, ⟨hfeed, s, hs, hexport, hstart⟩, fun e he => ?_, fun e he hpast => ?_⟩
  · rw [hes e he, bytes_append]
    omega
  · obtain ⟨hbehind, hcomma⟩ := hkept e he hpast
    rw [← hstart]
    exact ⟨hbehind, fun heq => hcomma heq.symm⟩

variable (hfs : Trails text block (statementsOf ⟨block.content, block.contentSpan.start⟩ tree) fs)

include hsits htree hlast hab hpoint hes hfs

/-- What a run lists behind the last import does not touch its line if no default export begins
there. -/
lemma keepsBehind_of_free (hlines : block.contentSpan.stop.line ≤ last.span.stop.line)
    {inserted : Text} (hfree : (Insertion.placed last.span.stop inserted).Free text
      (statementsOf ⟨block.content, block.contentSpan.start⟩ tree))
    {u v : Text} (hline : LineAt b 0 [] u v) :
    KeepsBehind text (before ++ a).bytes u '\n' es fs := by
  refine ⟨fun e he => ?_, fun e he hle => ?_⟩
  · rw [hes e he, bytes_append]
    omega
  · cases hfs with
    | nothing => cases he
    | appended hnone hstop hfeed =>
        obtain rfl := List.mem_singleton.mp he
        exact stop_apart hsits hab hline hstop hfeed
    | @listed s hs hexport edit hadmits =>
        obtain rfl := List.mem_singleton.mp he
        have hafter := export_behind htree hlast hpoint hs hexport (hle.trans hadmits.le_stop)
        obtain ⟨hstart, -, hinside⟩ := statement_hasPoint hsits htree.laid hs
        have hlastPoint : text.HasPoint last.span.stop :=
          ⟨before ++ a, b ++ after, by rw [hsits.text_eq, hab]; simp, hpoint⟩
        have hplace : text.offset last.span.stop.line last.span.stop.column
            = (before ++ a).bytes := by
          rw [hlastPoint.offset_eq, hpoint, Position.origin_after_offset]
        have hbelow := hfree s hs hexport (hplace.trans_le hafter)
        have hlast := hstart.line_mono (contentSpan_hasPoint hsits).2
          (hinside.ordered.trans hinside.stop_le)
        rw [Insertion.placed] at hbelow
        dsimp only at hbelow
        omega

/-- What a run lists behind the last import goes behind the beginning of the first default export on
its line. -/
lemma exists_exportFollows {t : Statement}
    (ht : t ∈ statementsOf ⟨block.content, block.contentSpan.start⟩ tree)
    (hexport : t.asExport?.isSome = true) (hle : (before ++ a).bytes ≤ t.span.start.offset)
    (hline : t.span.start.line ≤ last.span.stop.line) :
    ∃ u v, b = u ++ v
      ∧ ExportFollows (statementsOf ⟨block.content, block.contentSpan.start⟩ tree)
        (before ++ a).bytes u
      ∧ KeepsBehind text (before ++ a).bytes u ',' es fs := by
  cases hfs with
  | nothing =>
      exact exportFollows_of_first hsits htree hab hpoint hes ht hexport hle hline (by simp)
  | appended hnone =>
      rw [hnone t ht] at hexport
      cases hexport
  | @listed s hs hsexport edit hadmits =>
      have hstart := hadmits.start_le
      -- the export in which the component is listed, unless another one comes before it
      by_cases hfirst : (before ++ a).bytes ≤ text.offset edit.line edit.column
          ∧ s.span.start.offset ≤ t.span.start.offset
      · have hsle := export_behind htree hlast hpoint hs hsexport (hfirst.1.trans hadmits.le_stop)
        have hsline := (statement_hasPoint hsits htree.laid hs).1.line_mono
          (statement_hasPoint hsits htree.laid ht).1 hfirst.2
        refine exportFollows_of_first hsits htree hab hpoint hes hs hsexport hsle
          (hsline.trans hline) fun e he _ => ?_
        obtain rfl := List.mem_singleton.mp he
        exact ⟨hstart, hadmits.comma⟩
      · refine exportFollows_of_first hsits htree hab hpoint hes ht hexport hle hline
          fun e he hpast => ?_
        obtain rfl := List.mem_singleton.mp he
        exact ⟨by omega, fun heq => by omega⟩

end LastImport

include hsits htree in
/-- An import is kept apart from the edits of the default export, unless that begins behind it on
its line. -/
lemma import_apart (component : Component) (es fs : List Insertion)
    (hes : ∀ e ∈ es, text.offset e.line e.column = before.bytes)
    (hfs : Trails text block
      (statementsOf ⟨block.content, block.contentSpan.start⟩ tree) fs) :
    let statements := statementsOf ⟨block.content, block.contentSpan.start⟩ tree
    let edit := importInsertion block statements component
    ∃ a b, block.content = a ++ b ∧ edit.At (before ++ a) (b ++ after)
      ∧ edit.Apart text before a b statements es fs := by
  intro statements edit
  obtain ⟨a, b, hab, hat, hplace⟩ := importInsertion_place hsits
    (fun child hchild _ => (htree.laid.child hchild).isBoundary_stop) component
  -- an edit that ends with the import stands behind the last one, on the last line
  have hbehind : edit.text.getLast? = some '\'' → ∃ last, lastImport? statements = some last
      ∧ block.contentSpan.stop.line ≤ last.span.stop.line
      ∧ edit = .placed last.span.stop ('\n' :: Source.importStatement component) := by
    intro hquote
    rcases importInsertion_cases block statements component with
      ⟨-, hfeed⟩ | hlast | ⟨-, -, hfeed⟩
    · simp [hfeed, edit] at hquote
    · exact hlast
    · simp [hfeed, edit] at hquote
  refine ⟨a, b, hab, hat, ?_, ?_, ?_⟩
  · intro hhead
    have hlast := hplace.getLast?_of_head? hhead
    refine .inr ⟨hlast, fun e he => ?_⟩
    have hpos : a.bytes ≠ 0 := fun hzero => by simp [bytes_eq_zero.mp hzero] at hlast
    rw [hes e he, bytes_append]
    omega
  · intro hquote hfree u v hline
    obtain ⟨last, hlast, hlines, hedit⟩ := hbehind hquote
    have hpoint := lastImport?_point hsits htree hlast hab hat hedit
    rw [hedit] at hfree
    exact keepsBehind_of_free hsits htree hlast hab hpoint hes hfs hlines hfree hline
  · intro hquote hfree
    obtain ⟨last, hlast, hlines, hedit⟩ := hbehind hquote
    have hpoint := lastImport?_point hsits htree hlast hab hat hedit
    have hoffset : text.offset edit.line edit.column = (before ++ a).bytes :=
      offset_of_at hsits hab hat
    rw [Insertion.Free] at hfree
    push Not at hfree
    obtain ⟨t, ht, hexport, hle, hline⟩ := hfree
    rw [hoffset] at hle
    rw [hedit] at hline
    exact exists_exportFollows hsits htree hlast hab hpoint hes hfs ht hexport hle hline

/-- The typed wrapper is imported at the beginning of the content. -/
lemma typeHelperInsertion?_eq_some {script : ScriptBlock} {helper : Insertion}
    (h : typeHelperInsertion? script = some helper) :
    helper = .placed script.contentSpan.start ('\n' :: Source.typeHelperImport
      ++ if script.contentSpan.isSingleLine then ['\n'] else []) := by
  rw [typeHelperInsertion?] at h
  split at h
  · rw [Option.some.injEq] at h
    rw [← h]
    split <;> simp
  · cases h

include hsits htree in
/-- The import of the typed wrapper is kept apart by the line feed behind it, or by the one that
ends its line. -/
lemma helper_apart (component : Component) {helper : Insertion}
    (hhelper : helper = .placed block.contentSpan.start ('\n' :: Source.typeHelperImport
      ++ if block.contentSpan.isSingleLine then ['\n'] else [])) {fs : List Insertion}
    (hexport : ∀ s ∈ statementsOf ⟨block.content, block.contentSpan.start⟩ tree,
      s.asExport? = none)
    (hfs : ∀ e ∈ fs, text.offset e.line e.column = block.contentSpan.stop.offset
        ∧ e.text.head? = some '\n'
      ∨ e = importInsertion block
        (statementsOf ⟨block.content, block.contentSpan.start⟩ tree) component) :
    helper.At before (block.content ++ after)
      ∧ helper.Apart text before [] block.content
        (statementsOf ⟨block.content, block.contentSpan.start⟩ tree) [] fs := by
  set statements := statementsOf ⟨block.content, block.contentSpan.start⟩ tree
  refine ⟨?_, ?_, ?_, ?_⟩
  · rw [hhelper, hsits.start_eq]
    exact Insertion.placed_at _ _ _
  · intro hhead
    simp [hhelper, Insertion.placed] at hhead
  · intro hquote hfree u v hline
    refine ⟨by simp, fun e he _ => ?_⟩
    rcases hfs e he with ⟨hstop, hfeed⟩ | rfl
    · exact stop_apart hsits (List.nil_append _).symm hline hstop hfeed
    · -- the import of the component goes below the first line
      have hsingle : block.contentSpan.isSingleLine ≠ true := by
        intro hsingle
        rw [hhelper, hsingle] at hquote
        simp [Insertion.placed, List.getLast?_cons, List.getLast?_append] at hquote
      obtain ⟨a, b, hab, hat, hplace⟩ := importInsertion_place hsits
        (fun child hchild _ => (htree.laid.child hchild).isBoundary_stop) component
      have hbelow : '\n' ∈ a := by
        rcases importInsertion_cases block statements component with
          ⟨hhead, -⟩ | ⟨last, hlast, hlines, hedit⟩ | ⟨hlines, -⟩
        · exact List.mem_of_getLast? (hplace.getLast?_of_head? hhead)
        · have hpoint := lastImport?_point hsits htree hlast hab hat hedit
          obtain ⟨hfirst, hend⟩ := contentSpan_hasPoint hsits
          have hle : block.contentSpan.start.offset ≤ block.contentSpan.stop.offset := by
            rw [hsits.start_eq, hsits.stop_eq, Position.origin_after_offset,
              Position.origin_after_offset, bytes_append]
            exact Nat.le_add_right _ _
          have hne : block.contentSpan.start.line ≠ block.contentSpan.stop.line := by
            simpa [Span.isSingleLine] using hsingle
          have hlt := ((hfirst.line_mono hend hle).lt_of_ne hne).trans_le hlines
          rw [hpoint, hsits.start_eq, Position.after_append, Position.after_line _ a] at hlt
          exact List.count_pos_iff.mp (by omega)
        · exact absurd hlines hsingle
      have hlt := hline.bytes_lt hab hbelow
      rw [offset_of_at hsits hab hat, List.append_nil, bytes_append]
      exact ⟨by omega, fun heq => by omega⟩
  · -- there is no default export that could follow
    intro _ hfree
    refine absurd (fun s hs hsome => ?_) hfree
    rw [hexport s hs] at hsome
    cases hsome

include hsits htree in
/-- A component is listed inside the default export. -/
lemma entry_trails {statement : Statement} {declaration : Declaration}
    (hexport : defaultExport? (statementsOf ⟨block.content, block.contentSpan.start⟩ tree)
      = some (statement, declaration)) (component : Component) :
    Trails text block (statementsOf ⟨block.content, block.contentSpan.start⟩ tree)
      (listInExport? text statement declaration component).toList := by
  cases h : listInExport? text statement declaration component with
  | none => exact .nothing
  | some edit =>
      obtain ⟨hmem, hsome⟩ := mem_of_defaultExport? hexport
      obtain ⟨child, hchild, hspan, rfl⟩ := exists_of_defaultExport? hexport
      rw [hsits.text_eq] at h
      obtain ⟨n, inserted, ⟨a, b, hab, rfl⟩, hadmits, rfl⟩ := listInExport?_place _
        hsits.start_eq (htree.placed.child hchild) _ _ h
      refine .listed hmem (by rw [hsome]; rfl) ?_
      have hat := Insertion.placed_at (before ++ a) (b ++ after) inserted
      have htext : before ++ (block.content ++ after) = before ++ a ++ (b ++ after) := by
        rw [show block.content = a ++ b from hab]
        simp
      rw [htext, ← bytes_append, position_append, offset_of_at hsits hab hat]
      have hlaid : child.Laid (Site.content ⟨block.content, block.contentSpan.start⟩) :=
        htree.laid.child hchild
      rw [hspan, bytes_append]
      exact hadmits _ (declarationOf_nested hlaid).1

end Script

section Runs

variable {syntaxTree : Text → Script.Tree} {text before after : Text} {block : Block}
  (hsits : Block.Sits text before after block)
  (htree : (syntaxTree block.content).Regular block.content) {component : Component}

/-- The statements of a script that is well formed, and the import that it gets. -/
lemma import_of_ensureImport {imported : Option Insertion} {edit : Insertion}
    (h : ensureImport (ScriptBlock.ofBlock syntaxTree block) component = .ok imported)
    (hedit : edit ∈ imported.toList) :
    (ScriptBlock.ofBlock syntaxTree block).statements
        = statementsOf ⟨block.content, block.contentSpan.start⟩ (syntaxTree block.content)
      ∧ imported = some edit
      ∧ edit = importInsertion block
        (statementsOf ⟨block.content, block.contentSpan.start⟩ (syntaxTree block.content))
        component := by
  rcases ensureImport_cases h with ⟨-, rfl⟩ | ⟨-, statements, houtline, rfl⟩
  · cases hedit
  · obtain rfl := List.mem_singleton.mp hedit
    obtain rfl := outline_eq_ok houtline
    exact ⟨by rw [ScriptBlock.statements, houtline], rfl, rfl⟩

include hsits htree in
/-- The edits of a run that appends a default export. -/
lemma append_apart {statements : List Statement}
    (houtline : (ScriptBlock.ofBlock syntaxTree block).outline = .ok statements)
    {imported : Option Insertion}
    (hensure : ensureImport (ScriptBlock.ofBlock syntaxTree block) component = .ok imported)
    (hexport : defaultExport? statements = none) (body : Text) {edit : Insertion} :
    let helper? := typeHelperInsertion? (ScriptBlock.ofBlock syntaxTree block)
    let appended := Insertion.placed block.contentSpan.stop ('\n' :: body ++ ['\n'])
    let edits := helper?.toList ++ imported.toList ++ [appended]
    edit ∈ edits → edit.Within before block.content after →
      ∃ es fs a b, edits = es ++ edit :: fs ∧ block.content = a ++ b
        ∧ edit.At (before ++ a) (b ++ after)
        ∧ edit.Apart text before a b (ScriptBlock.ofBlock syntaxTree block).statements es fs := by
  intro helper? appended edits hedit hwithin
  have hstatements : (ScriptBlock.ofBlock syntaxTree block).statements
      = statementsOf ⟨block.content, block.contentSpan.start⟩ (syntaxTree block.content) := by
    rw [ScriptBlock.statements, houtline]
    exact outline_eq_ok houtline
  obtain ⟨hfirst, hend⟩ := contentSpan_hasPoint hsits
  have happended : text.offset appended.line appended.column = block.contentSpan.stop.offset
      ∧ appended.text.head? = some '\n' := ⟨hend.offset_eq, rfl⟩
  have hnone : ∀ s ∈ statementsOf ⟨block.content, block.contentSpan.start⟩
      (syntaxTree block.content), s.asExport? = none := by
    rw [← outline_eq_ok houtline]
    exact asExport?_of_defaultExport? hexport
  rw [hstatements]
  rcases List.mem_append.mp hedit with hedit | hedit
  · rcases List.mem_append.mp hedit with hedit | hedit
    · have hsome : helper? = some edit := Option.mem_toList.mp hedit
      have hfs : ∀ e ∈ imported.toList ++ [appended],
          text.offset e.line e.column = block.contentSpan.stop.offset
              ∧ e.text.head? = some '\n'
            ∨ e = importInsertion block (statementsOf ⟨block.content, block.contentSpan.start⟩
              (syntaxTree block.content)) component := by
        intro e he
        rcases List.mem_append.mp he with he | he
        · exact .inr (import_of_ensureImport hensure he).2.2
        · rw [List.mem_singleton.mp he]
          exact .inl happended
      obtain ⟨hat, hapart⟩ :=
        helper_apart hsits htree component (typeHelperInsertion?_eq_some hsome) hnone hfs
      refine ⟨[], imported.toList ++ [appended], [], block.content, ?_, rfl, ?_, hapart⟩
      · simp [edits, hsome]
      · rw [List.append_nil]
        exact hat
    · obtain ⟨-, rfl, rfl⟩ := import_of_ensureImport hensure hedit
      have hes : ∀ e ∈ helper?.toList, text.offset e.line e.column = before.bytes := by
        intro e he
        rw [typeHelperInsertion?_eq_some (Option.mem_toList.mp he)]
        exact hfirst.offset_eq.trans (by rw [hsits.start_eq, Position.origin_after_offset])
      obtain ⟨a, b, hab, hat, hapart⟩ := import_apart hsits htree component helper?.toList
        [appended] hes (.appended hnone happended.1 happended.2)
      exact ⟨helper?.toList, [appended], a, b, by simp [edits], hab, hat, hapart⟩
  · obtain rfl := List.mem_singleton.mp hedit
    obtain ⟨a, b, hab, hat⟩ := hwithin
    refine ⟨helper?.toList ++ imported.toList, [], a, b, rfl, hab, hat, .of_ends ⟨?_, ?_⟩⟩
    · simp [appended, Insertion.placed]
    · simp [appended, Insertion.placed, List.getLast?_cons, List.getLast?_append]

include hsits htree in
/-- **Every edit of a run keeps its imports apart.** -/
lemma Plan.apart {settings : Settings} {edits : List Insertion}
    (h : Plan text (ScriptBlock.ofBlock syntaxTree block) component settings edits)
    {edit : Insertion} (hedit : edit ∈ edits) :
    ∃ es fs a b, edits = es ++ edit :: fs ∧ block.content = a ++ b
      ∧ edit.At (before ++ a) (b ++ after)
      ∧ edit.Apart text before a b (ScriptBlock.ofBlock syntaxTree block).statements es fs := by
  have hwithin := h.within hsits htree.placed edit hedit
  cases h with
  | fill hempty body hbody =>
      obtain rfl := List.mem_singleton.mp hedit
      have hquote : (fillEmpty (ScriptBlock.ofBlock syntaxTree block).toBlock body).text.getLast?
          ≠ some '\'' := by
        obtain ⟨feeds, -, htext⟩ := fillEmpty_text (ScriptBlock.ofBlock syntaxTree block).toBlock
          body
        rw [htext, List.getLast?_append]
        simp
      refine ⟨[], [], block.content, [], rfl, by simp, fillEmpty_at hsits body, fun _ => ?_,
        fun h => absurd h hquote, fun h => absurd h hquote⟩
      exact .inl ⟨rfl, rfl, List.all_eq_true.mp hempty⟩
  | setup hcontent imported hensure =>
      obtain ⟨hstatements, rfl, rfl⟩ := import_of_ensureImport hensure hedit
      obtain ⟨a, b, hab, hat, hapart⟩ :=
        import_apart hsits htree component [] [] (by simp) .nothing
      exact ⟨[], [], a, b, rfl, hab, hat, hstatements ▸ hapart⟩
  | entry hcontent statements houtline imported hensure statement declaration hexport =>
      rcases List.mem_append.mp hedit with hedit | hedit
      · obtain ⟨hstatements, rfl, rfl⟩ := import_of_ensureImport hensure hedit
        rw [outline_eq_ok houtline] at hexport
        obtain ⟨a, b, hab, hat, hapart⟩ := import_apart hsits htree component [] _ (by simp)
          (entry_trails hsits htree hexport component)
        exact ⟨[], _, a, b, rfl, hab, hat, hstatements ▸ hapart⟩
      · have hlisted := Option.mem_toList.mp hedit
        obtain ⟨a, b, hab, hat⟩ := hwithin
        exact ⟨imported.toList, [], a, b, by rw [hlisted]; rfl, hab, hat,
          .of_ends (listInExport?_ends hlisted)⟩
  | append hcontent statements houtline imported hensure hexport =>
      exact append_apart hsits htree houtline hensure hexport _ hedit hwithin

end Runs

/-! ### Lines of edits -/

lemma importInsertion_holdsLine (block : Block) (statements : List Statement)
    (component : Component) : ∃ lead tail,
      HoldsLine (importInsertion block statements component).text lead
        (Source.importStatement component) tail := by
  rw [importInsertion]
  split
  · split
    · exact ⟨[], ['\n'], rfl, .inl rfl, .inr rfl⟩
    · exact ⟨['\n'], [], by simp [Insertion.placed], .inr rfl, .inl rfl⟩
  · split
    · exact ⟨['\n'], ['\n'], rfl, .inr rfl, .inr rfl⟩
    · exact ⟨[], ['\n', '\n'], by simp, .inl rfl, .inr rfl⟩

/-- A body with the import of a component holds it, in any frame of lines. -/
lemma exists_holdsLine_of_body {component : Component} {settings : Settings} {typed : Bool}
    {body pre post : Text} (hbody : body = Source.importStatement component
      ∨ body = Source.scriptContent component settings typed)
    (hpre : pre = [] ∨ pre.getLast? = some '\n') (hpost : post.head? = some '\n') :
    ∃ lead tail,
      HoldsLine (pre ++ body ++ post) lead (Source.importStatement component) tail := by
  rcases hbody with rfl | rfl
  · exact ⟨pre, post, rfl, hpre, .inr hpost⟩
  · refine ⟨pre ++ (if typed then Source.typeHelperImport ++ ['\n'] else []),
      "\n\n".toList ++ (Source.defaultExport component settings typed ++ post), ?_, ?_, .inr ?_⟩
    · rw [Source.scriptContent]
      simp only [List.append_assoc]
    · cases typed with
      | true => exact .inr (by simp [List.getLast?_append])
      | false => simpa using hpre
    · simp

/-- The import of a module that is not mentioned is a line of one of the edits. -/
lemma Plan.exists_holdsLine {text : Text} {script : ScriptBlock} {component : Component}
    {settings : Settings} {edits : List Insertion}
    (h : Plan text script component settings edits)
    (hnew : script.isEmpty = true ∨ mentions script component = false) :
    ∃ edit ∈ edits, ∃ lead tail,
      HoldsLine edit.text lead (Source.importStatement component) tail := by
  have himport : ∀ {imported : Option Insertion}, script.isEmpty = false →
      ensureImport script component = .ok imported → ∃ edit ∈ imported.toList, ∃ lead tail,
        HoldsLine edit.text lead (Source.importStatement component) tail := by
    intro imported hcontent hensure
    obtain ⟨statements, -, rfl⟩ :=
      ensureImport_of_new hensure (hnew.resolve_left (by simp [hcontent]))
    exact ⟨_, List.mem_singleton_self _, importInsertion_holdsLine _ _ _⟩
  cases h with
  | fill hempty body hbody =>
      obtain ⟨feeds, hfeeds, htext⟩ := fillEmpty_text script.toBlock body
      refine ⟨_, List.mem_singleton_self _, ?_⟩
      rw [htext]
      refine exists_holdsLine_of_body hbody ?_ rfl
      rcases List.eq_nil_or_concat feeds with rfl | ⟨s, c, rfl⟩
      · exact .inl rfl
      · exact .inr (by simp [hfeeds c (by simp)])
  | setup hcontent imported hensure => exact himport hcontent hensure
  | entry hcontent statements houtline imported hensure =>
      obtain ⟨edit, hedit, hholds⟩ := himport hcontent hensure
      exact ⟨edit, List.mem_append_left _ hedit, hholds⟩
  | append hcontent statements houtline imported hensure =>
      obtain ⟨edit, hedit, hholds⟩ := himport hcontent hensure
      exact ⟨edit, List.mem_append_left _ (List.mem_append_right _ hedit), hholds⟩

/-- The import is a line of a new script, too. -/
lemma newScriptBlock_holdsLine (component : Component) (settings : Settings) :
    ∃ lead tail, HoldsLine (Source.newScriptBlock component settings) lead
      (Source.importStatement component) tail := by
  have hblock : Source.newScriptBlock component settings
      = (Source.newTag settings ++ ['\n']) ++ Source.newContent component settings
        ++ '\n' :: ("</script>".toList ++ "\n\n".toList) := by
    rw [Source.newScriptBlock_eq, Source.newBody]
    simp only [List.append_assoc, List.cons_append, List.nil_append]
  have hbody : Source.newContent component settings = Source.importStatement component
      ∨ Source.newContent component settings = Source.scriptContent component settings
        (settings.preprocessors.script = some .ts) := by
    rw [Source.newContent]
    split
    · exact .inl rfl
    · exact .inr rfl
  rw [hblock]
  exact exists_holdsLine_of_body hbody (.inr (by simp)) rfl

/-- A new script begins with its tag and ends with an empty line. -/
lemma newScriptBlock_ends (component : Component) (settings : Settings) :
    (Source.newScriptBlock component settings).head? = some '<'
      ∧ (Source.newScriptBlock component settings).getLast? = some '\n' := by
  have hopen : "<script".toList.head? = some '<' := by decide
  have hclose : ("</script>".toList ++ "\n\n".toList).getLast? = some '\n' := by decide
  rw [Source.newScriptBlock_eq]
  constructor
  · unfold Source.newTag
    simp only [List.append_assoc]
    rw [List.head?_append, hopen, Option.some_or]
  · rw [List.getLast?_append, List.getLast?_append, hclose, Option.some_or, Option.some_or]

/-- The imports of a new script stand on lines of their own. -/
lemma newScriptBlock_apart {component : Component} {settings : Settings} {line lead tail : Text}
    (hmem : line ∈ importLines component)
    (h : HoldsLine (Source.newScriptBlock component settings) lead line tail) :
    BlankBefore lead ∧ GapBehind tail := by
  obtain ⟨htag, hend⟩ := newScriptBlock_ends component settings
  obtain ⟨hhead, hlast⟩ := ends_of_mem_importLines hmem
  rw [h.text_eq] at htag hend
  constructor
  · rcases h.opens with rfl | hfeed
    · rw [List.nil_append, List.head?_append, hhead] at htag
      cases htag
    · exact blankBefore_of_getLast? hfeed
  · rcases h.closes with rfl | hfeed
    · rw [List.append_nil, List.getLast?_append, hlast] at hend
      cases hend
    · exact gapBehind_of_head? hfeed

/-- **An inserted import stands on a line of its own exactly if nothing follows on the line.** After
a registration, only blanks stand before an inserted import on its line in the script. Behind it
only blanks and comments stand where a line feed of its edit follows. The two edits without one are
the import behind another one on the last line, and that of the typed wrapper in a script of several
lines: there it depends on what stands behind the edit in the script. If a default export begins
there on the same line, the import is followed by all that stood before the export, and then by the
export. -/
theorem register_import_ownLine (syntaxTree : Text → Script.Tree) (text : Text)
    (component : Component) (settings : Settings) {edits : List Insertion}
    (hrun : registerBy syntaxTree text component settings = .ok edits)
    (htree : ∀ script, chosen? (Document.parseBy syntaxTree text) = some script →
      (syntaxTree script.content).Regular script.content) :
    (∀ script, chosen? (Document.parseBy syntaxTree text) = some script →
      (script.isEmpty = true ∨ mentions script component = false →
        ∃ edit ∈ edits, ∃ lead tail,
          HoldsLine edit.text lead (Source.importStatement component) tail)
      ∧ ∀ edit ∈ edits, ∀ line ∈ importLines component, ∀ lead tail,
        HoldsLine edit.text lead line tail →
          ∃ before a b after a' b', edit.Lands text edits before a b after a' b'
            ∧ script.contentSpan.start.offset = before.bytes ∧ script.content = a ++ b
            ∧ BlankBefore (a' ++ lead) ∧ (tail ≠ [] → GapBehind (tail ++ b'))
            ∧ (tail = [] → edit.Free text script.statements → (GapBehind b' ↔ GapBehind b))
            ∧ (tail = [] → ¬ edit.Free text script.statements →
              MeetsExport script.statements (before ++ a).bytes b b'))
    ∧ (chosen? (Document.parseBy syntaxTree text) = none →
      (∃ edit ∈ edits, ∃ lead tail,
        HoldsLine edit.text lead (Source.importStatement component) tail)
      ∧ ∀ edit ∈ edits, ∀ line ∈ importLines component, ∀ lead tail,
        HoldsLine edit.text lead line tail →
          edit.Lands text edits [] [] [] text [] [] ∧ BlankBefore lead ∧ GapBehind tail) := by
  constructor
  · intro script hscript
    have hplan := plan_of_registerBy hrun hscript
    have htree := htree script hscript
    refine ⟨hplan.exists_holdsLine, fun edit hedit line hmem lead tail hholds => ?_⟩
    obtain ⟨hhead, hlast⟩ := ends_of_mem_importLines hmem
    obtain ⟨block, before, after, rfl, hsits⟩ := exists_of_chosen? hscript
    obtain ⟨es, fs, a, b, rfl, hab, hat, hapart⟩ := hplan.apart hsits htree hedit
    have hwithin := hplan.within hsits htree.placed
    rw [hab] at hwithin
    have hlands := lands_of_within hwithin hat
    have htext : before ++ (a ++ b ++ after) = text := by rw [hsits.text_eq, hab]
    rw [htext] at hlands
    have hquote : tail = [] → edit.text.getLast? = some '\'' := by
      rintro rfl
      rw [hholds.text_eq, List.append_nil, List.getLast?_append, hlast]
      rfl
    refine ⟨before, a, b, after, _, _, hlands, ?_, hab, ?_, fun htail => ?_,
      fun htail => hapart.gapBehind_iff (hquote htail),
      fun htail => hapart.meetsExport (hquote htail)⟩
    · show block.contentSpan.start.offset = before.bytes
      rw [hsits.start_eq, Position.origin_after_offset]
    · rcases hholds.opens with rfl | hfeed
      · rw [List.append_nil]
        exact hapart.blankBefore (by rw [hholds.text_eq]; simp [hhead])
      · exact blankBefore_of_getLast? (by rw [List.getLast?_append, hfeed]; rfl)
    · have hfeed := hholds.closes.resolve_left htail
      exact gapBehind_of_head? (by rw [List.head?_append, hfeed]; rfl)
  · intro hnone
    obtain ⟨hsetup, hscript⟩ := Option.or_eq_none_iff.mp hnone
    rw [registerBy, registerIn, hsetup, hscript] at hrun
    obtain rfl : [⟨0, 0, Source.newScriptBlock component settings⟩] = edits := Except.ok.inj hrun
    have hplace := Insertion.placed_at [] text (Source.newScriptBlock component settings)
    refine ⟨⟨_, List.mem_singleton_self _, newScriptBlock_holdsLine component settings⟩, ?_⟩
    intro edit hedit line hmem lead tail hholds
    obtain rfl := List.mem_singleton.mp hedit
    refine ⟨⟨rfl, hplace, ?_, [], [], .nil, .nil, by simp⟩, newScriptBlock_apart hmem hholds⟩
    exact (applyInsertions_singleton hplace).trans (by simp [Insertion.placed])

/-- The new import runs into a default export that follows on the line. -/
example : let text : Text := "<script>import a from 'a'; export default \x7b\x7d</script>".toList
    let component : Component := ⟨"B".toList, "@/B.vue".toList⟩
    (register text component {}).map (applyInsertions text)
      = .ok ("<script>import a from 'a';\nimport B from '@/B.vue' export default \x7b\n\t".toList
        ++ Source.componentsOption component ++ "\n\x7d</script>".toList) := by decide +kernel

/-- What follows an edit is told by its offset. -/
lemma rest_of_lands {text before a b after a' b' : Text} {edits : List Insertion}
    {edit : Insertion} (h : edit.Lands text edits before a b after a' b') {c d : Text}
    (hsame : a ++ b = c ++ d)
    (hoffset : text.offset edit.line edit.column = before.bytes + c.bytes) : b = d := by
  have hplace := h.place
  have htext : before ++ a ++ (b ++ after) = text := by
    rw [h.text_eq]
    simp
  rw [Insertion.At, htext, hoffset, bytes_append] at hplace
  exact (append_inj_of_bytes hsame (by omega)).2

/-- `register_import_ownLine` for a typed script in which a comment follows on the line of the tag,
and another one behind the last import on the last line. -/
theorem register_import_ownLine_commented :
    let content : Text := "// é\nimport a from 'a'; /* b */".toList
    let text : Text := "<script lang=\"ts\">".toList ++ content ++ "</script>".toList
    let component : Component := ⟨"B".toList, "@/B.vue".toList⟩
    let helper : Insertion := ⟨0, 18, "\nimport \x7b defineComponent \x7d from 'vue'".toList⟩
    let imported : Insertion := ⟨1, 18, "\nimport B from '@/B.vue'".toList⟩
    ∃ appended, register text component {} = .ok [helper, imported, appended]
      ∧ ∀ edit ∈ [helper, imported], ∃ before a b after a' b',
        edit.Lands text [helper, imported, appended] before a b after a' b'
          ∧ content = a ++ b ∧ BlankBefore (a' ++ ['\n']) ∧ GapBehind b' := by
  intro content text component helper imported
  let appended : Insertion := ⟨1, 26, '\n' :: Source.defaultExport component {} true ++ ['\n']⟩
  have hrun : register text component {} = .ok [helper, imported, appended] := by decide +kernel
  obtain ⟨script, hscript, hregular, hcontent, hstart, hfree⟩ :
      ∃ script ∈ chosen? (Document.parse text),
        (Script.parse script.content).isRegular script.content = true ∧ script.content = content
          ∧ script.contentSpan.start.offset = 18
          ∧ ∀ s ∈ script.statements, s.span.start.offset = 24 ∧ s.span.start.line = 1 := by
    decide +kernel
  have htree : ∀ other, chosen? (Document.parse text) = some other →
      (Script.parse other.content).Regular other.content := by
    intro other hother
    obtain rfl : script = other := Option.some.inj (hscript.symm.trans hother)
    exact regular_of_isRegular hregular
  obtain ⟨hlines, -⟩ := register_import_ownLine Script.parse text component {} hrun htree
  obtain ⟨-, hlines⟩ := hlines script hscript
  refine ⟨appended, hrun, ?_⟩
  intro edit hedit
  rw [List.mem_cons, List.mem_singleton] at hedit
  rcases hedit with rfl | rfl
  · obtain ⟨before, a, b, after, a', b', hlands, hstart', hab, hblank, -, hgap, -⟩ :=
      hlines helper List.mem_cons_self Source.typeHelperImport
        (List.mem_cons_of_mem _ List.mem_cons_self) ['\n'] [] ⟨by decide, .inr rfl, .inl rfl⟩
    rw [hcontent] at hab
    have hoffset : text.offset 0 18 = before.bytes + bytes [] := by
      rw [← hstart', hstart]
      decide
    obtain rfl := rest_of_lands hlands (hab.symm.trans (List.nil_append _).symm) hoffset
    have hline : LineAt content 0 [] ['/', '/', ' ', 'é'] "\nimport a from 'a'; /* b */".toList :=
      ⟨by decide, rfl, .inl rfl, .inr (by decide), by decide⟩
    have hcomment : GapBehind content := ⟨_, _, hline, .comment (n := 4) (by decide) .nil⟩
    have hbelow : helper.Free text script.statements := by
      intro s hs _ _
      rw [(hfree s hs).2]
      decide
    exact ⟨before, a, _, after, a', b', hlands, hab, hblank, (hgap rfl hbelow).mpr hcomment⟩
  · obtain ⟨before, a, b, after, a', b', hlands, hstart', hab, hblank, -, hgap, -⟩ :=
      hlines imported (List.mem_cons_of_mem _ List.mem_cons_self) (Source.importStatement component)
        List.mem_cons_self ['\n'] [] ⟨by decide, .inr rfl, .inl rfl⟩
    rw [hcontent] at hab
    have hoffset : text.offset 1 18 = before.bytes + bytes "// é\nimport a from 'a';".toList := by
      rw [← hstart', hstart]
      decide
    have hcut : content = "// é\nimport a from 'a';".toList ++ " /* b */".toList := by decide
    obtain rfl := rest_of_lands hlands (hab.symm.trans hcut) hoffset
    have hline : LineAt " /* b */".toList 0 [] [' ', '/', '*', ' ', 'b', ' ', '*', '/'] [] :=
      ⟨by decide, rfl, .inl rfl, .inl rfl, by decide⟩
    have hcomment : GapBehind " /* b */".toList :=
      ⟨_, _, hline, .blank (by decide) (.comment (n := 7) (by decide) .nil)⟩
    have hbefore : imported.Free text script.statements := by
      intro s hs _ hle
      rw [(hfree s hs).1] at hle
      exact absurd hle (by decide)
    exact ⟨before, a, _, after, a', b', hlands, hab, hblank, (hgap rfl hbefore).mpr hcomment⟩

end Registration

end ComponentFile
