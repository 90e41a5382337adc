import Mathlib.Tactic
import ComponentFile.Proofs.Script.Refusals

/-!
Reading object literals and calls.

* `Listed item`: items each followed by a comma, up to a mark that begins none.
* `shorthand_entry`, `pair_entry`, `method_entry`: the entries of an object literal.
* `expression_object`, `expression_call`: an expression that is an object literal, or a call of a
  name. Before it is read as a literal, an object is tried as a pattern that something is assigned
  to; `Closes` says why nothing is.
-/

namespace ComponentFile

open Text

namespace Script

/-! ### Lists -/

/-- Items with commas between them, up to where none begins. -/
inductive Listed {α : Type} (item : Reader α) : Cursor → List α → Cursor → Prop where
  | nil {cur : Cursor} (hitem : item cur = none) (hcomma : mark "," cur = none) :
      Listed item cur [] cur
  | last {cur next : Cursor} {a : α} (hitem : item cur = some (a, next))
      (hle : next.rest.length ≤ cur.rest.length) (hcomma : mark "," next = none) :
      Listed item cur [a] next
  | cons {cur next behind last : Cursor} {a : α} {as : List α}
      (hitem : item cur = some (a, next)) (hle : next.rest.length ≤ cur.rest.length)
      (hcomma : mark "," next = some ((), behind))
      (hlt : behind.rest.length < next.rest.length) (tail : Listed item behind as last) :
      Listed item cur (a :: as) last

/-- The first item, which may be missing, and the rounds that begin with a comma. -/
lemma Listed.exists_repeats {α : Type} {item : Reader α} {cur last : Cursor} {as : List α}
    (h : Listed item cur as last) : ∃ o os next, Reader.optional item cur = some (o, next)
      ∧ Repeats (do mark ","; Reader.optional item) next os last
      ∧ (o :: os).filterMap id = as ∧ next.rest.length ≤ cur.rest.length := by
  induction h with
  | nil hitem hcomma =>
      refine ⟨none, [], _, optional_of_none hitem, .stop ?_, rfl, le_rfl⟩
      rw [bind_apply, hcomma, Option.bind_none]
  | last hitem hle hcomma =>
      refine ⟨some _, [], _, optional_of_some hitem, .stop ?_, rfl, hle⟩
      rw [bind_apply, hcomma, Option.bind_none]
  | cons hitem hle hcomma hlt _ ih =>
      obtain ⟨o, os, next', hoptional, hrepeats, has, hle'⟩ := ih
      refine ⟨some _, o :: os, _, optional_of_some hitem, .step ?_ (by omega) hrepeats, ?_, hle⟩
      · rw [bind_apply, hcomma, Option.bind_some, hoptional]
      · rw [List.filterMap_cons, has]
        rfl

lemma Listed.holedList_eq {α : Type} {item : Reader α} {cur last : Cursor} {as : List α}
    (h : Listed item cur as last) : holedList item cur = some (as, last) := by
  obtain ⟨o, os, next, hoptional, hrepeats, has, -⟩ := h.exists_repeats
  rw [holedList, bind_apply, hoptional, Option.bind_some, bind_apply, hrepeats.many_eq,
    Option.bind_some, pure_apply, has]

/-! ### Entries -/

section Entries

variable {cur : Cursor} {p t w : Text}

/-- The words that modify a member where a name follows. -/
def memberWords : List Text :=
  ["public", "private", "protected", "static", "override", "readonly", "async", "get", "set"]

lemma memberModifier_eq_none {c : Char} (h : Glance cur w c) {words : List Text}
    (hw : w ∉ words) : memberModifier words cur = none := by
  rw [memberModifier, modifier, bind_apply, h.oneOf_eq_none hw, Option.bind_none]

/-- There are no modifiers before another name, or before none. -/
lemma modifiers_eq {c : Char} (h : Glance cur w c) (hw : w ∉ memberWords) :
    leadingModifiers cur = some ((), cur) ∧ methodModifiers cur = some ((), cur) := by
  have hnone : ∀ words : List Text, words ⊆ memberWords → memberModifier words cur = none :=
    fun words hwords => memberModifier_eq_none h fun hmem => hw (hwords hmem)
  constructor
  · simp only [leadingModifiers, bind_apply, Option.bind_some, pure_apply,
      optional_of_none (hnone accessWords (by decide)),
      optional_of_none (hnone ["static"] (by decide)),
      optional_of_none (hnone ["override"] (by decide)),
      optional_of_none (hnone ["readonly"] (by decide))]
  · have hstar : mark "*" cur = none := mark_eq_none (h.sees_sign (by decide))
    have hlast : (memberModifier ["get", "set"] <|> mark "*") cur = none := by
      rw [orElse_apply, hnone _ (by decide), hstar, Option.or_none]
    simp only [methodModifiers, bind_apply, Option.bind_some, pure_apply,
      optional_of_none (hnone ["async"] (by decide)), optional_of_none hlast]

lemma propertyName_eq_none {c : Char} (h : Glance cur [] c) (g : Grammar) :
    propertyName g cur = none := by
  have hname : nameNode .other cur = none := by
    rw [nameNode, bind_apply, begin_apply, Option.bind_some, bind_apply, h.skip.name_eq_none,
      Option.bind_none]
  have hprivate : privateName cur = none := begin_sign_eq_none h (by decide) _
  rw [propertyName, orElse_apply, hname, orElse_apply, h.stringLiteral_eq_none, orElse_apply,
    h.numberLiteral_eq_none, orElse_apply, hprivate, begin_sign_eq_none h (by decide)]
  rfl

lemma Faces.propertyName_eq (h : Faces cur p (w ++ t)) (hw : IsName w) (ht : EndsName t)
    (g : Grammar) : propertyName g cur
      = some (.leaf .other p.bytes (p ++ w).bytes, .between (p ++ w) t) := by
  rw [propertyName, orElse_apply, h.nameNode_eq hw ht, Option.some_or]

lemma spread_eq_none {c : Char} (h : Glance cur w c) (g : Grammar) : spread g cur = none :=
  begin_sign_eq_none h (by decide) _

/-- No entry begins with a mark. -/
lemma objectEntry_eq_none {c : Char} (h : Glance cur [] c) (g : Grammar) :
    objectEntry g cur = none := by
  have hpair : pair g cur = none := by
    rw [pair, bind_apply, begin_apply, Option.bind_some, bind_apply, propertyName_eq_none h.skip,
      Option.bind_none]
  have hmethod : method g .nested cur = none := by
    obtain ⟨hleading, hmodifiers⟩ := modifiers_eq h.skip (by decide)
    simp only [method, bind_apply, begin_apply, Option.bind_some, hleading, hmodifiers,
      propertyName_eq_none h.skip, Option.bind_none]
  have hshorthand : shorthand cur = none := by
    rw [shorthand, nameNode, bind_apply, begin_apply, Option.bind_some, bind_apply,
      h.skip.name_eq_none, Option.bind_none]
  rw [objectEntry, orElse_apply, spread_eq_none h, orElse_apply, hpair, orElse_apply, hmethod,
    hshorthand]
  rfl

/-- A name before a comma is a shorthand: neither a colon nor parameters follow. -/
lemma shorthand_entry (h : Faces cur p (w ++ ',' :: t)) (hw : IsName w) (hword : w ∉ memberWords)
    (g : Grammar) : objectEntry g cur
      = some (.leaf .shorthand p.bytes (p ++ w).bytes, .between (p ++ w) (',' :: t)) := by
  have hends : EndsName (',' :: t) := endsName_cons (by decide)
  have hself := faces_self h.token p
  have hcomma : Glance (.between (p ++ w) (',' :: t)) [] ',' :=
    (faces_self (beginsToken_cons (by decide)) _).glance_mark (by decide)
  obtain ⟨c, hglance⟩ := h.glance_name hw hends
  obtain ⟨c', hglance'⟩ := hself.glance_name hw hends
  have hpair : pair g cur = none := by
    simp only [pair, bind_apply, h.begin_eq, Option.bind_some, hself.propertyName_eq hw hends,
      mark_eq_none (hcomma.sees_eq_false (m := ":") (by decide)), Option.bind_none]
  have hmethod : method g .nested cur = none := by
    obtain ⟨hleading, hmodifiers⟩ := modifiers_eq hglance' hword
    have hquestion : Reader.optional (mark "?") (.between (p ++ w) (',' :: t))
        = some (none, .between (p ++ w) (',' :: t)) :=
      optional_of_none (mark_eq_none (hcomma.sees_sign (by decide)))
    have hsignature : signature g .nested (.between (p ++ w) (',' :: t)) = none := by
      have htypes : typeParameters g (.between (p ++ w) (',' :: t)) = none :=
        begin_sign_eq_none hcomma (by decide) _
      have hparameters : parameters g (.between (p ++ w) (',' :: t)) = none :=
        begin_mark_eq_none (hcomma.skip.sees_eq_false (by decide)) _
      rw [signature, bind_apply, optional_of_none htypes, Option.bind_some, bind_apply,
        hparameters, Option.bind_none]
    simp only [method, bind_apply, h.begin_eq, Option.bind_some, hleading, hmodifiers,
      hself.propertyName_eq hw hends, hquestion, hsignature, Option.bind_none]
  rw [objectEntry, orElse_apply, spread_eq_none hglance, orElse_apply, hpair, orElse_apply,
    hmethod, shorthand, h.nameNode_eq hw hends]
  rfl

/-- A name, a colon and a value. -/
lemma pair_entry (h : Faces cur p (w ++ ':' :: t)) (hw : IsName w) {g : Grammar} {value : Tree}
    {next : Cursor} (hvalue : g.expression .nested (.between (p ++ w ++ [':']) t)
      = some (value, next)) :
    objectEntry g cur = some (.node .pair .plain p.bytes next.offset
      [(Tree.leaf .other p.bytes (p ++ w).bytes).playing .key, value.playing .value], next) := by
  have hends : EndsName (':' :: t) := endsName_cons (by decide)
  have hself := faces_self h.token p
  have hcolon : Faces (.between (p ++ w) (':' :: t)) (p ++ w) (':' :: t) :=
    faces_self (beginsToken_cons (by decide)) _
  obtain ⟨c, hglance⟩ := h.glance_name hw hends
  have hpair : pair g cur = some (.node .pair .plain p.bytes next.offset
      [(Tree.leaf .other p.bytes (p ++ w).bytes).playing .key, value.playing .value], next) := by
    simp only [pair, bind_apply, h.begin_eq, Option.bind_some, hself.propertyName_eq hw hends,
      hcolon.mark_char (m := ":") rfl, hvalue, finish]
  rw [objectEntry, orElse_apply, spread_eq_none hglance, orElse_apply, hpair]
  rfl

end Entries

/-! ### Patterns -/

section Patterns

variable {cur : Cursor} {p t w : Text}

/-- No pattern begins with a mark other than a brace. -/
lemma pattern_eq_none {c : Char} (h : Glance cur [] c) (hc : c ≠ '\x7b') (g : Grammar) :
    pattern g cur = none := by
  have hobject : objectPattern g cur = none :=
    begin_mark_eq_none (h.skip.sees_eq_false (by simpa using hc.symm)) _
  have harray : arrayPattern g cur = none := begin_sign_eq_none h (by decide) _
  have hrest : restPattern g cur = none := begin_sign_eq_none h (by decide) _
  rw [pattern, orElse_apply, hobject, orElse_apply, harray, orElse_apply, hrest, bind_apply,
    identifier_eq_none h]
  rfl

/-- No entry of a pattern begins with a mark. -/
lemma objectPatternEntry_eq_none {c : Char} (h : Glance cur [] c) (g : Grammar) :
    objectPatternEntry g cur = none := by
  have hrest : restPattern g cur = none := begin_sign_eq_none h (by decide) _
  have hname : nameNode .other (skipGap cur) = none := by
    rw [nameNode, bind_apply, begin_apply, Option.bind_some, bind_apply,
      h.skip.skip.name_eq_none, Option.bind_none]
  rw [objectPatternEntry, orElse_apply, hrest, orElse_apply, bind_apply, begin_apply,
    Option.bind_some, bind_apply, propertyName_eq_none h.skip, bind_apply, begin_apply,
    Option.bind_some, bind_apply, hname]
  rfl

lemma initializer_eq_none {c : Char} (h : Glance cur w c) (g : Grammar) (context : Context) :
    initializer g context cur = none := by
  rw [initializer, bind_apply, mark_eq_none (h.sees_sign (by decide)), Option.bind_none]

/-- A name before a mark other than a colon. -/
lemma name_patternEntry {c : Char} (h : Faces cur p (w ++ c :: t)) (hw : IsName w)
    (hc : c ∈ "\x7b\x7d(),".toList) (g : Grammar) :
    ∃ tree, objectPatternEntry g cur = some (tree, .between (p ++ w) (c :: t)) := by
  have hmark : isNameChar c = false ∧ c ≠ '\\' ∧ isGapBlank c = false ∧ c ≠ '/' ∧ c ≠ ':'
      ∧ c ∈ "\x7b\x7d(),:".toList := by
    have hall : ∀ d ∈ "\x7b\x7d(),".toList, isNameChar d = false ∧ d ≠ '\\' ∧ isGapBlank d = false
        ∧ d ≠ '/' ∧ d ≠ ':' ∧ d ∈ "\x7b\x7d(),:".toList := by decide
    exact hall c hc
  obtain ⟨hname, hescape, hblank, hslash, hcolon, hmem⟩ := hmark
  have hends : EndsName (c :: t) := endsName_cons ⟨hname, hescape⟩
  have hself := faces_self h.token p
  have hnext : Glance (.between (p ++ w) (c :: t)) [] c :=
    (faces_self (beginsToken_cons ⟨hblank, hslash⟩) _).glance_mark hmem
  obtain ⟨d, hglance⟩ := h.glance_name hw hends
  have hrest : restPattern g cur = none := begin_sign_eq_none hglance (by decide) _
  have hnocolon : mark ":" (.between (p ++ w) (c :: t)) = none :=
    mark_eq_none (hnext.sees_eq_false (by simpa using hcolon.symm))
  refine ⟨.node .other .plain p.bytes (p ++ w).bytes [.leaf .other p.bytes (p ++ w).bytes], ?_⟩
  simp only [objectPatternEntry, orElse_apply, hrest, bind_apply, h.begin_eq, Option.bind_some,
    hself.propertyName_eq hw hends, hnocolon, Option.bind_none, Option.none_or,
    hself.nameNode_eq hw hends, optional_of_none (initializer_eq_none hnext g _), group, finish]
  rfl

/-- A name, a colon and a pattern before a mark. -/
lemma pair_patternEntry (h : Faces cur p (w ++ ':' :: t)) (hw : IsName w) {g : Grammar}
    {q u : Text} (hface : Faces (.between (p ++ w ++ [':']) t) q u) {target : Tree} {next : Cursor}
    (htarget : g.pattern (.between q u) = some (target, next)) {c : Char}
    (hnext : Glance next [] c) : ∃ tree, objectPatternEntry g cur = some (tree, next) := by
  have hends : EndsName (':' :: t) := endsName_cons (by decide)
  have hself := faces_self h.token p
  have hcolon : Faces (.between (p ++ w) (':' :: t)) (p ++ w) (':' :: t) :=
    faces_self (beginsToken_cons (by decide)) _
  obtain ⟨d, hglance⟩ := h.glance_name hw hends
  have hrest : restPattern g cur = none := begin_sign_eq_none hglance (by decide) _
  simp only [objectPatternEntry, orElse_apply, hrest, bind_apply, h.begin_eq, Option.bind_some,
    hself.propertyName_eq hw hends, hcolon.mark_char (m := ":") rfl, defaultedPattern,
    hface.begin_eq, htarget, optional_of_none (initializer_eq_none hnext g _), group, finish,
    Option.none_or, Option.some_or]
  exact ⟨_, rfl⟩

end Patterns

/-! ### Braces -/

section Braces

variable {cur last next : Cursor} {p t : Text} {g : Grammar}

/-- An item with a comma behind it. -/
lemma Listed.item {α : Type} {item : Reader α} {a : α} {as : List α} {q u : Text}
    (hitem : item cur = some (a, .between q (',' :: u))) (hle : u.length < cur.rest.length)
    (tail : Listed item (.between (q ++ [',']) u) as last) : Listed item cur (a :: as) last := by
  have hcomma : Faces (.between q (',' :: u)) q (',' :: u) :=
    faces_self (beginsToken_cons (by decide)) q
  refine .cons hitem ?_ (hcomma.mark_char rfl) ?_ tail
  · simpa [Cursor.between] using hle
  · simp [Cursor.between]

/-- The end of a list in braces. -/
lemma Listed.close {α : Type} {item : Reader α} (h : Glance cur [] '\x7d')
    (hitem : item cur = none) : Listed item cur [] cur :=
  .nil hitem (mark_eq_none (h.sees_eq_false (by decide)))

lemma objectLiteral_eq (h : Faces cur p ('\x7b' :: t)) {entries : List Tree}
    (hentries : Listed (objectEntry g) (.between (p ++ ['\x7b']) t) entries last)
    (hclose : mark "\x7d" last = some ((), next)) :
    objectLiteral g cur = some (.node .object .plain p.bytes next.offset entries, next) := by
  have hself := faces_self h.token p
  simp only [objectLiteral, bind_apply, h.begin_eq, Option.bind_some,
    hself.mark_char (m := "\x7b") rfl, hentries.holedList_eq, hclose, finish]

lemma objectPattern_eq (h : Faces cur p ('\x7b' :: t)) {entries : List Tree}
    (hentries : Listed (objectPatternEntry g) (.between (p ++ ['\x7b']) t) entries last) :
    objectPattern g cur = (mark "\x7d" last).map fun r =>
      (.node .other .plain p.bytes r.2.offset entries, r.2) := by
  have hself := faces_self h.token p
  simp only [objectPattern, bind_apply, h.begin_eq, Option.bind_some,
    hself.mark_char (m := "\x7b") rfl, hentries.holedList_eq, group, finish]
  cases mark "\x7d" last with
  | none => rfl
  | some r => rfl

/-- What begins with a brace is a pattern if its entries are closed by a brace. -/
lemma pattern_eq (h : Faces cur p ('\x7b' :: t)) {entries : List Tree}
    (hentries : Listed (objectPatternEntry g) (.between (p ++ ['\x7b']) t) entries last) :
    pattern g cur = (mark "\x7d" last).map fun r =>
      (.node .other .plain p.bytes r.2.offset entries, r.2) := by
  have hglance : Glance cur [] '\x7b' := h.glance_mark (by decide)
  have harray : arrayPattern g cur = none := begin_sign_eq_none hglance (by decide) _
  have hrest : restPattern g cur = none := begin_sign_eq_none hglance (by decide) _
  rw [pattern, orElse_apply, objectPattern_eq h hentries]
  cases mark "\x7d" last with
  | none =>
      rw [orElse_apply, harray, orElse_apply, hrest, bind_apply, identifier_eq_none hglance]
      rfl
  | some r => rfl

/-- **An object literal as an expression.** It is tried as a pattern first, which fails or leaves
nothing to assign. -/
lemma expression_object {context : Context} (h : Faces cur p ('\x7b' :: t)) {tree : Tree}
    (hobject : objectLiteral g (.between p ('\x7b' :: t)) = some (tree, next))
    (hpattern : g.pattern (.between p ('\x7b' :: t)) = none
      ∨ ∃ target, g.pattern (.between p ('\x7b' :: t)) = some (target, next))
    (hcloses : Closes context next) : expression g context cur = some (tree, next) := by
  have hself := faces_self h.token p
  have hglance : Glance (.between p ('\x7b' :: t)) [] '\x7b' := hself.glance_mark (by decide)
  have hdestructuring : destructuring g context (.between p ('\x7b' :: t)) = none := by
    rw [destructuring, check_bind, bind_apply]
    rcases hpattern with hnone | ⟨target, hsome⟩
    · rw [hnone, Option.bind_none, ite_self]
    · rw [hsome, Option.bind_some, hcloses.assigned_eq, ite_self]
  have hprimary : primary g context (.between p ('\x7b' :: t)) = some (.value tree, next) := by
    have hparen : sees "(" (.between p ('\x7b' :: t)) = false := hglance.sees_eq_false (by decide)
    have hangle : sees "<" (.between p ('\x7b' :: t)) = false := hglance.sees_sign (by decide)
    have hparenthesized : parenthesized g (.between p ('\x7b' :: t)) = none :=
      begin_mark_eq_none (hglance.skip.sees_eq_false (by decide)) _
    rw [primary_eq hglance g context (by decide), check_bind,
      if_neg (by rw [hparen, hangle, hglance.peek]; simp), bind_apply, hparenthesized, bind_apply,
      hobject]
    rfl
  have hnew : newExpression g context (.between p ('\x7b' :: t)) = none :=
    newExpression_eq_none hglance g context (by decide)
  have hvalue : assignmentOrValue g context (.between p ('\x7b' :: t)) = some (tree, next) := by
    rw [assignmentOrValue, bind_apply, primaryOrNew, orElse_apply, bind_apply, hnew, hprimary,
      Option.bind_none, Option.none_or, Option.bind_some, bind_apply, stepsFrom,
      hcloses.steps_eq, Option.bind_some]
    rfl
  rw [expression, bind_apply, operand_eq (h.glance_mark (by decide)) g context (by decide), h.gap,
    hdestructuring, hvalue, Option.none_or, Option.bind_some]
  dsimp only
  split
  · exact hcloses.operators_eq _ _
  · rfl

end Braces

/-! ### Methods -/

section Methods

variable {cur : Cursor} {p t w b b' : Text} {g : Grammar}

/-- There is no parameter before a closing parenthesis. -/
lemma parameter_eq_none (h : Glance cur [] ')') (hg : g.pattern (skipGap cur) = none) :
    parameter g cur = none := by
  have hmodifier : ∀ words : List Text, [] ∉ words →
      Reader.optional (modifier words seesParameter) (skipGap cur) = some (none, skipGap cur) := by
    intro words hwords
    refine optional_of_none ?_
    rw [modifier, bind_apply, h.skip.oneOf_eq_none hwords, Option.bind_none]
  have hthis : Reader.check (seesWord "this") (skipGap cur) = none := by
    rw [Reader.check, if_neg (by rw [seesWord, h.skip.peek]; decide)]
  simp only [parameter, bind_apply, begin_apply, Option.bind_some,
    many_of_none (decorator_eq_none h.skip g), hmodifier accessWords (by decide),
    hmodifier ["override"] (by decide), hmodifier ["readonly"] (by decide), orElse_apply, hg,
    hthis, Option.or_none, Option.bind_none]

/-- Empty parentheses, where no parameter begins. -/
lemma parameters_eq (h : Faces cur p ('(' :: ')' :: t))
    (hg : g.pattern (.between (p ++ ['(']) (')' :: t)) = none) :
    ∃ tree : Tree, tree.hasFault = false
      ∧ parameters g cur = some (tree, .between (p ++ ['('] ++ [')']) t) := by
  have hself := faces_self h.token p
  have hclose : Faces (.between (p ++ ['(']) (')' :: t)) (p ++ ['(']) (')' :: t) :=
    faces_self (beginsToken_cons (by decide)) _
  have hitems : commaList (parameter g) (.between (p ++ ['(']) (')' :: t)) = none := by
    rw [commaList, bind_apply,
      parameter_eq_none (hclose.glance_mark (by decide)) (by rw [hclose.gap]; exact hg),
      Option.bind_none]
  simp only [parameters, bind_apply, h.begin_eq, Option.bind_some,
    hself.mark_char (m := "(") rfl, optional_of_none hitems, hclose.mark_char (m := ")") rfl,
    group, finish]
  exact ⟨_, rfl, rfl⟩

/-- A block without statements before a comma. -/
lemma block_eq (h : Faces cur p ('\x7b' :: (b ++ '\x7d' :: ',' :: t)))
    (hb : ∀ c ∈ b, isGapBlank c = true)
    (hg : g.statement (.between (p ++ ['\x7b']) (b ++ '\x7d' :: ',' :: t)) = none) :
    ∃ tree : Tree, tree.hasFault = false ∧ block g false cur
      = some (tree, .between (p ++ ['\x7b'] ++ b ++ ['\x7d']) (',' :: t)) := by
  have hself := faces_self h.token p
  have hclose : Faces (.between (p ++ ['\x7b']) (b ++ '\x7d' :: ',' :: t)) (p ++ ['\x7b'] ++ b)
      ('\x7d' :: ',' :: t) := faces_between hb (beginsToken_cons (by decide)) _
  have hline : lineEnd false (.between (p ++ ['\x7b'] ++ b ++ ['\x7d']) (',' :: t)) = none := by
    refine lineEnd_eq_none ?_
    exact not_stops_of_endsHere (b := []) (by simp) (beginsToken_cons (by decide)) rfl _
  simp only [block, bind_apply, h.begin_eq, Option.bind_some, hself.mark_char (m := "\x7b") rfl,
    many_of_none hg, hclose.mark_char (m := "\x7d") rfl, optional_of_none hline, group, finish]
  exact ⟨_, rfl, rfl⟩

/-- A method without parameters and statements. -/
lemma method_entry
    (h : Faces cur p (w ++ '(' :: ')' :: (b ++ '\x7b' :: (b' ++ '\x7d' :: ',' :: t))))
    (hw : IsName w) (hword : w ∉ memberWords) (hb : ∀ c ∈ b, isGapBlank c = true)
    (hb' : ∀ c ∈ b', isGapBlank c = true)
    (hpattern : ∀ q u, g.pattern (.between q (')' :: u)) = none)
    (hstatement : ∀ q u, g.statement (.between q (b' ++ '\x7d' :: u)) = none) :
    ∃ tree : Tree, tree.hasFault = false ∧ objectEntry g cur = some (tree,
      .between (p ++ w ++ ['('] ++ [')'] ++ b ++ ['\x7b'] ++ b' ++ ['\x7d']) (',' :: t)) := by
  set u := b ++ '\x7b' :: (b' ++ '\x7d' :: ',' :: t) with hu
  have hends : EndsName ('(' :: ')' :: u) := endsName_cons (by decide)
  have hself := faces_self h.token p
  have hparen : Faces (.between (p ++ w) ('(' :: ')' :: u)) (p ++ w) ('(' :: ')' :: u) :=
    faces_self (beginsToken_cons (by decide)) _
  have hglance' := hparen.glance_mark (by decide)
  have hbrace : Faces (.between (p ++ w ++ ['('] ++ [')']) u) (p ++ w ++ ['('] ++ [')'] ++ b)
      ('\x7b' :: (b' ++ '\x7d' :: ',' :: t)) := faces_between hb (beginsToken_cons (by decide)) _
  obtain ⟨c, hglance⟩ := h.glance_name hw hends
  obtain ⟨d, hname⟩ := hself.glance_name hw hends
  have hpair : pair g cur = none := by
    simp only [pair, bind_apply, h.begin_eq, Option.bind_some, hself.propertyName_eq hw hends,
      mark_eq_none (hglance'.sees_eq_false (m := ":") (by decide)), Option.bind_none]
  obtain ⟨list, hlist, hparameters⟩ := parameters_eq hparen (hpattern _ _)
  obtain ⟨body, hbody, hblock⟩ := block_eq hbrace hb' (hstatement _ _)
  have hsignature : signature g .nested (.between (p ++ w) ('(' :: ')' :: u))
      = some ([list], .between (p ++ w ++ ['('] ++ [')']) u) := by
    have htypes : typeParameters g (.between (p ++ w) ('(' :: ')' :: u)) = none :=
      begin_sign_eq_none hglance' (by decide) _
    have hresult : (do
        Reader.check (!Context.nested.stops ·)
        mark ":"
        returnType g .nested) (.between (p ++ w ++ ['('] ++ [')']) u) = none := by
      rw [check_bind, bind_apply,
        mark_eq_none ((hbrace.glance_mark (by decide)).sees_eq_false (by decide)),
        Option.bind_none, ite_self]
    simp only [signature, bind_apply, optional_of_none htypes, Option.bind_some, hparameters,
      optional_of_none hresult, pure_apply]
    rfl
  obtain ⟨hleading, hmodifiers⟩ := modifiers_eq hname hword
  have hquestion : mark "?" (.between (p ++ w) ('(' :: ')' :: u)) = none :=
    mark_eq_none (hglance'.sees_sign (by decide))
  have hmethod : method g .nested cur = some (.node .method .plain p.bytes
      (p ++ w ++ ['('] ++ [')'] ++ b ++ ['\x7b'] ++ b' ++ ['\x7d']).bytes
      [(Tree.leaf .other p.bytes (p ++ w).bytes).playing .name, list, body],
      .between (p ++ w ++ ['('] ++ [')'] ++ b ++ ['\x7b'] ++ b' ++ ['\x7d']) (',' :: t)) := by
    simp only [method, bind_apply, h.begin_eq, Option.bind_some, hleading, hmodifiers,
      hself.propertyName_eq hw hends, optional_of_none hquestion, hsignature, hblock, finish]
    rfl
  have hentry : objectEntry g cur = method g .nested cur := by
    rw [objectEntry, orElse_apply, spread_eq_none hglance, orElse_apply, hpair, orElse_apply,
      hmethod]
    rfl
  refine ⟨_, ?_, hentry.trans hmethod⟩
  simp [Tree.hasFault, Tree.anyFault, hlist, hbody, Kind.isFault, Tree.leaf, Tree.playing]

end Methods

/-! ### Calls -/

section Calls

variable {cur last next : Cursor} {p t w : Text} {g : Grammar}

lemma arguments_eq (h : Faces cur p ('(' :: t)) {items : List Tree}
    (hitems : Listed (spread g <|> g.expression .nested) (.between (p ++ ['(']) t) items last)
    (hclose : mark ")" last = some ((), next)) :
    arguments g cur = some (.node .arguments .plain p.bytes next.offset items, next) := by
  have hself := faces_self h.token p
  simp only [arguments, bind_apply, h.begin_eq, Option.bind_some,
    hself.mark_char (m := "(") rfl, hitems.holedList_eq, hclose, finish]

/-- The words that are no names where an operand is expected. -/
def nonNames : List Text := operandWords ++ valueWords ++ ["undefined".toList]

/-- A name as an operand: it is not the parameter of an arrow function, since no arrow follows. -/
lemma primary_name {c : Char} (h : Faces cur p (w ++ c :: t)) (hw : IsName w) (hword : w ∉ nonNames)
    (hc : c ∈ "\x7b\x7d(),:".toList) (g : Grammar) (context : Context) :
    primary g context cur = some (⟨.leaf .identifier p.bytes (p ++ w).bytes, true⟩,
      .between (p ++ w) (c :: t)) := by
  have hmark : (isNameChar c = false ∧ c ≠ '\\') ∧ isGapBlank c = false ∧ c ≠ '/' := by
    have hall : ∀ d ∈ "\x7b\x7d(),:".toList,
        (isNameChar d = false ∧ d ≠ '\\') ∧ isGapBlank d = false ∧ d ≠ '/' := by decide
    exact hall c hc
  have hends : EndsName (c :: t) := endsName_cons hmark.1
  have hself := faces_self h.token p
  have hnext : Glance (.between (p ++ w) (c :: t)) [] c :=
    (faces_self (beginsToken_cons hmark.2) _).glance_mark hc
  obtain ⟨d, hglance⟩ := h.glance_name hw hends
  have hne : w ≠ [] := by
    rintro rfl
    simp [IsName] at hw
  simp only [nonNames, List.mem_append, not_or] at hword
  obtain ⟨⟨hoperand, hvalue⟩, hundefined⟩ := hword
  have harrow : arrow g context cur = none := by
    simp only [arrow, arrowTail, arrowBody, orElse_apply, bind_apply, h.begin_eq,
      Option.bind_some, hself.nameNode_eq hw hends, pure_apply, Option.some_or,
      mark_eq_none (hnext.sees_sign (m := "=>") (by decide)), Option.bind_none]
  have hparenthesized : parenthesized g cur = none :=
    begin_mark_eq_none (hglance.skip.sees_mark hne (by decide)) _
  have hobject : objectLiteral g cur = none :=
    begin_mark_eq_none (hglance.skip.sees_mark hne (by decide)) _
  have hidentifier : identifier cur = some (⟨.leaf .identifier p.bytes (p ++ w).bytes, true⟩,
      .between (p ++ w) (c :: t)) := by
    have hexpression : seesAny expressionWords cur = false := by
      rw [seesAny, hglance.peek, Bool.eq_false_iff]
      intro hmem
      have hsub : expressionWords ⊆ operandWords := by decide
      exact hoperand (hsub (List.contains_iff_mem.mp hmem))
    rw [identifier, check_bind, if_pos (by rw [hexpression]; rfl), bind_apply, h.begin_eq,
      Option.bind_some, bind_apply, hself.name_eq hw hends, Option.bind_some,
      if_neg (by simpa using hvalue), if_neg (by simpa using hundefined)]
    rfl
  rw [primary_eq hglance g context hoperand, check_bind, bind_apply, harrow, bind_apply,
    hparenthesized, bind_apply, hobject, hidentifier]
  simp only [Option.bind_none, ite_self, Option.none_or]

/-- **A call as an expression.** -/
lemma expression_call {context : Context} (h : Faces cur p (w ++ '(' :: t)) (hw : IsName w)
    (hword : w ∉ nonNames) {list : Tree}
    (harguments : arguments g (.between (p ++ w) ('(' :: t)) = some (list, next))
    (hopen : context.stops (.between (p ++ w) ('(' :: t)) = false)
    (hcloses : Closes context next) :
    expression g context cur = some (.node .call .plain p.bytes next.offset
      [(Tree.leaf .identifier p.bytes (p ++ w).bytes).playing .callee, list.playing .arguments],
      next) := by
  have hends : EndsName ('(' :: t) := endsName_cons (by decide)
  have hself := faces_self h.token p
  have hparen : Glance (.between (p ++ w) ('(' :: t)) [] '(' :=
    (faces_self (beginsToken_cons (by decide)) _).glance_mark (by decide)
  have hoperand : w ∉ operandWords := fun hmem =>
    hword (List.mem_append_left _ (List.mem_append_left _ hmem))
  obtain ⟨c, hglance⟩ := hself.glance_name hw hends
  obtain ⟨d, hglance'⟩ := h.glance_name hw hends
  have hbrace : c ≠ '\x7b' := by
    rintro rfl
    exact absurd (hglance.isNameStart_of_ne_nil (by rintro rfl; simp [IsName] at hw)) (by decide)
  have hsteps : stepsFrom g context true ⟨.leaf .identifier p.bytes (p ++ w).bytes, true⟩
      (.between (p ++ w) ('(' :: t)) = some (.value (.node .call .plain p.bytes next.offset
        [(Tree.leaf .identifier p.bytes (p ++ w).bytes).playing .callee, list.playing .arguments]),
        next) := by
    have hlength : (Cursor.between (p ++ w) ('(' :: t)).rest.length = t.length + 1 := rfl
    rw [stepsFrom, hlength, steps]
    dsimp only
    rw [if_neg (by simp [hopen]), step_eq hparen, callStep, bind_apply, harguments,
      Option.bind_some]
    exact hcloses.steps_eq _ _
  have hvalue : assignmentOrValue g context (.between p (w ++ '(' :: t))
      = some (.node .call .plain p.bytes next.offset
        [(Tree.leaf .identifier p.bytes (p ++ w).bytes).playing .callee, list.playing .arguments],
        next) := by
    rw [assignmentOrValue, bind_apply, primaryOrNew, orElse_apply, bind_apply,
      newExpression_eq_none hglance g context hoperand,
      primary_name hself hw hword (by decide), Option.bind_none, Option.none_or, Option.bind_some,
      bind_apply, hsteps, Option.bind_some]
    rfl
  rw [expression, bind_apply, operand_eq hglance' g context hoperand, h.gap,
    destructuring_eq_none hglance g context hbrace, hvalue, Option.none_or, Option.bind_some]
  dsimp only
  split
  · exact hcloses.operators_eq _ _
  · rfl

end Calls

end Script

end ComponentFile
