import Mathlib.Tactic
import ComponentFile.Proofs.Script.Tokens

/-!
Alternatives that are not taken.

The grammar tries its alternatives in order, and each one but the last must fail for a reason that
can be seen at the first token: it asks for a sign, a mark or a word that is not there. All that
these lemmas know of a cursor is the `Glance` at that token.

* `step_eq`, `operator_eq_none`: what may follow an operand.
* `primary_eq`: what is left of a primary expression; `operand_eq` and `expression_eq` go on from
  there.
* `declaration_eq_none`: no declaration begins here.
-/

namespace ComponentFile

open Text

namespace Script

lemma begin_apply (cur : Cursor) : begin cur = some ((skipGap cur).offset, skipGap cur) := rfl

/-- A construct that begins with a mark is not read where the mark is not seen. -/
lemma begin_mark_eq_none {α : Type} {m : Text} {cur : Cursor} (h : sees m (skipGap cur) = false)
    (f : Nat → Unit → Reader α) : (begin >>= fun start => mark m >>= f start) cur = none := by
  rw [bind_apply, begin_apply, Option.bind_some, bind_apply, mark_eq_none h, Option.bind_none]

lemma check_bind {α : Type} (test : Cursor → Bool) (f : Unit → Reader α) (cur : Cursor) :
    (Reader.check test >>= f) cur = if test cur = true then f () cur else none := by
  rw [bind_apply, Reader.check]
  split <;> rfl

section Refusals

variable {cur : Cursor} {w : Text} {c : Char} (h : Glance cur w c) (g : Grammar)
  (context : Context)

include h

/-- A construct that begins with a word is not read where another name is seen, or none. -/
lemma begin_word_eq_none {α : Type} {v : Text} (hv : v ≠ w) (f : Nat → Unit → Reader α) :
    (begin >>= fun start => word v >>= f start) cur = none := by
  rw [bind_apply, begin_apply, Option.bind_some, bind_apply, h.skip.word_eq_none hv,
    Option.bind_none]

/-- A construct that begins with a sign is not read. -/
lemma begin_sign_eq_none {α : Type} {m : Text} (hm : m.head?.any (!leads ·) = true)
    (f : Nat → Unit → Reader α) : (begin >>= fun start => mark m >>= f start) cur = none :=
  begin_mark_eq_none (h.skip.sees_sign hm) f

lemma typeArguments_eq_none : typeArguments g cur = none := begin_sign_eq_none h (by decide) _

lemma decorator_eq_none : decorator g cur = none := begin_sign_eq_none h (by decide) _

/-! ### Steps and operators -/

/-- The only step that is left is a call. -/
lemma step_eq (base : Operand) : step g context true base cur = callStep g base cur := by
  have hmember : memberStep base cur = none := by
    rw [memberStep, bind_apply, h.sign_eq_none (by decide), Option.bind_none]
  have hindex : indexStep g base cur = none := by
    rw [indexStep, bind_apply, mark_eq_none (h.sees_sign (by decide)), Option.bind_none]
  have htemplate : templateStep g base cur = none := by
    rw [templateStep, bind_apply, template, begin_sign_eq_none h (by decide), Option.bind_none]
  have hoptional : optionalStep g base cur = none := by
    have hsees : sees "?." cur = false := h.sees_sign (by decide)
    rw [optionalStep, check_bind, if_neg (by rw [hsees]; simp)]
  have hcertain : certainStep base cur = none := by
    rw [certainStep, bind_apply, h.sign_eq_none (by decide), Option.bind_none]
  have hupdate : updateStep base cur = none := by
    rw [updateStep, bind_apply, orElse_apply, h.sign_eq_none (by decide),
      h.sign_eq_none (by decide), Option.or_none, Option.bind_none]
  have hgeneric : genericStep g context base cur = none := by
    rw [genericStep, bind_apply, typeArguments_eq_none h, Option.bind_none]
  simp only [step, if_true, orElse_apply, hmember, hindex, htemplate, hoptional, hcertain, hupdate,
    hgeneric, Option.or_none, Option.none_or]

lemma step_eq_none (hc : c ≠ '(') (base : Operand) : step g context true base cur = none := by
  have hparen : sees "(" (skipGap cur) = false := h.skip.sees_eq_false (by simpa using hc.symm)
  rw [step_eq h, callStep, bind_apply, arguments, begin_mark_eq_none hparen, Option.bind_none]

lemma operator_eq_none (hw : w ∉ (["as", "satisfies", "in", "instanceof"] : List Text))
    (base : Tree) : (typedStep g context base <|> binaryStep g context base
      <|> conditionalStep g context base) cur = none := by
  simp only [List.mem_cons, List.not_mem_nil, or_false, not_or] at hw
  obtain ⟨has, hsatisfies, hin, hinstance⟩ := hw
  have htyped : typedStep g context base cur = none := by
    rw [typedStep, orElse_apply, bind_apply, h.word_eq_none (Ne.symm has), bind_apply,
      h.word_eq_none (Ne.symm hsatisfies)]
    rfl
  have hbinary : binaryStep g context base cur = none := by
    rw [binaryStep, bind_apply, orElse_apply, check_bind,
      if_neg (by rw [h.peekSign_eq_nil]; decide), orElse_apply, h.word_eq_none (Ne.symm hin),
      h.word_eq_none (Ne.symm hinstance)]
    rfl
  have hconditional : conditionalStep g context base cur = none := by
    have hfirst := h.first
    rw [conditionalStep, check_bind, if_neg]
    have hquestion := Glance.ne_of_leads (d := '?') h.lead (by decide)
    cases hrest : (skipGap cur).rest with
    | nil => simp [hrest] at hfirst
    | cons d u =>
        obtain rfl : d = c := by simpa [hrest] using hfirst
        dsimp only
        split <;> simp_all
  rw [orElse_apply, orElse_apply, htyped, hbinary, hconditional]
  rfl

/-! ### Primary expressions -/

lemma prefixOperator_eq_none (hw : w ∉ (["typeof", "void", "delete", "await"] : List Text)) :
    prefixOperator g cur = none := by
  have hsign : ∀ s ∈ (["++", "--", "!", "+", "-"] : List Text), sign s cur = none := by
    intro s hs
    exact h.sign_eq_none (by rintro rfl; exact absurd hs (by decide))
  simp only [prefixOperator, orElse_apply, bind_apply, hsign "++" (by decide),
    hsign "--" (by decide), hsign "!" (by decide), hsign "+" (by decide), hsign "-" (by decide),
    mark_eq_none (h.sees_sign (m := "~") (by decide)), h.oneOf_eq_none hw,
    typeArguments_eq_none h, Option.or_none, Option.bind_none]

/-- The words that a name used as an operand must differ from, beside those that make expressions
of their own form. -/
def operandWords : List Text :=
  ["function", "class", "typeof", "void", "delete", "await", "yield", "import", "using", "async",
    "new"]

lemma newExpression_eq_none (hw : w ∉ operandWords) : newExpression g context cur = none := by
  refine begin_word_eq_none h ?_ _
  rintro rfl
  exact hw (by decide)

/-- Of the forms of a primary expression four are left: an arrow function, parentheses, an object
literal and a name. -/
lemma primary_eq (hw : w ∉ operandWords) :
    primary g context cur
      = (((do
          Reader.check fun cursor => sees "(" cursor || sees "<" cursor || peekName cursor ≠ []
          return .value (← arrow g context) : Reader Operand) cur).or
        (((do return { tree := ← parenthesized g, target := true } : Reader Operand) cur).or
        (((do return .value (← objectLiteral g) : Reader Operand) cur).or (identifier cur)))) := by
  have hword : ∀ v ∈ operandWords, v ≠ w := by
    rintro v hv rfl
    exact hw hv
  have hasync : asyncFunction g context cur = none := begin_word_eq_none h (hword _ (by decide)) _
  have hfunction : functionTail g (skipGap cur) = none := by
    rw [functionTail, bind_apply, h.skip.word_eq_none (hword _ (by decide)), Option.bind_none]
  have hclass : classExpression g cur = none := by
    simp only [classExpression, bind_apply, begin_apply, Option.bind_some, classTail,
      many_of_none (decorator_eq_none h.skip g), h.skip.word_eq_none (hword "class" (by decide)),
      Option.bind_none]
  have hyield : yieldExpression g context cur = none :=
    begin_word_eq_none h (hword _ (by decide)) _
  have himport : importExpression cur = none := begin_word_eq_none h (hword _ (by decide)) _
  have harray : arrayLiteral g cur = none := begin_sign_eq_none h (by decide) _
  have htemplate : template g cur = none := begin_sign_eq_none h (by decide) _
  have hprivate : privateName cur = none := begin_sign_eq_none h (by decide) _
  simp only [primary, orElse_apply, bind_apply, begin_apply, Option.bind_some, hasync, hfunction,
    hclass, hyield, himport, harray, htemplate, privateOperand, hprivate, h.stringLiteral_eq_none,
    h.numberLiteral_eq_none, h.regexLiteral_eq_none, Option.bind_none, Option.none_or]

lemma operand_eq (hw : w ∉ operandWords) : operand g context cur
    = (destructuring g context (skipGap cur)).or (assignmentOrValue g context (skipGap cur)) := by
  have hword : ∀ v ∈ operandWords, v ≠ w := by
    rintro v hv rfl
    exact hw hv
  have hprefix : prefixOperator g (skipGap cur) = none := by
    have hsub : (["typeof", "void", "delete", "await"] : List Text) ⊆ operandWords := by decide
    exact prefixOperator_eq_none h.skip g fun hmem => hw (hsub hmem)
  have hprefixes : Reader.many (do
      Reader.check fun cursor => !(sees "<" cursor && (arrow g context).succeeds cursor)
      prefixOperator g) (skipGap cur) = some ([], skipGap cur) := by
    refine many_of_none ?_
    rw [check_bind, hprefix, ite_self]
  have husing : usingAssignment g context (skipGap cur) = none :=
    begin_word_eq_none h.skip (hword _ (by decide)) _
  simp only [operand, bind_apply, begin_apply, Option.bind_some, hprefixes, orElse_apply, husing,
    Option.none_or]
  cases (destructuring g context (skipGap cur)).or (assignmentOrValue g context (skipGap cur)) with
  | none => rfl
  | some r => rfl

lemma destructuring_eq_none (hc : c ≠ '\x7b') : destructuring g context cur = none := by
  have hbracket : sees "[" cur = false := h.sees_sign (by decide)
  have hbrace : sees "\x7b" cur = false := h.sees_eq_false (by simpa using hc.symm)
  rw [destructuring, check_bind, if_neg (by rw [hbracket, hbrace]; simp)]

end Refusals

/-! ### Ends of expressions -/

/-- No step and no operator follows: a line ends there, or a mark other than a parenthesis is
seen. -/
def Closes (context : Context) (cur : Cursor) : Prop :=
  context.stops cur = true ∨ ∃ c, Glance cur [] c ∧ c ≠ '('

section Closes

variable {g : Grammar} {context : Context} {cur : Cursor}

lemma Closes.steps_eq (h : Closes context cur) (fuel : Nat) (base : Operand) :
    steps g context true fuel base cur = some (base, cur) := by
  cases fuel with
  | zero => rfl
  | succ fuel =>
      rw [steps]
      dsimp only
      rcases h with hstops | ⟨c, hglance, hc⟩
      · rw [if_pos hstops]
      · split
        · rfl
        · rw [step_eq_none hglance g context hc]

lemma Closes.operators_eq (h : Closes context cur) (fuel : Nat) (base : Tree) :
    operators g context fuel base cur = some (base, cur) := by
  cases fuel with
  | zero => rfl
  | succ fuel =>
      rw [operators]
      dsimp only
      rcases h with hstops | ⟨c, hglance, hc⟩
      · rw [if_pos hstops]
      · split
        · rfl
        · rw [operator_eq_none hglance g context (by decide)]

/-- No value is assigned where an expression closes. -/
lemma Closes.assigned_eq (h : Closes context cur) (target : Tree) :
    assigned g context false target cur = none := by
  rw [assigned, check_bind]
  rcases h with hstops | ⟨c, hglance, -⟩
  · rw [if_neg (by simp [hstops])]
  · have hsign : assignmentSign false cur = none := by
      rw [assignmentSign, orElse_apply, hglance.sign_eq_none (by decide), check_bind,
        if_neg (by simp)]
      rfl
    rw [bind_apply, hsign, Option.bind_none, ite_self]

end Closes

lemma identifier_eq_none {cur : Cursor} {c : Char} (h : Glance cur [] c) :
    identifier cur = none := by
  rw [identifier, check_bind, bind_apply, begin_apply, Option.bind_some, bind_apply,
    h.skip.name_eq_none, Option.bind_none, ite_self]

/-- No expression begins with a mark other than a brace or a parenthesis. -/
lemma expression_eq_none {cur : Cursor} {c : Char} (h : Glance cur [] c) (hbrace : c ≠ '\x7b')
    (hparen : c ≠ '(') (g : Grammar) (context : Context) : expression g context cur = none := by
  have hskip := h.skip
  have hparens : sees "(" (skipGap cur) = false :=
    hskip.sees_eq_false (by simpa using hparen.symm)
  have hprimary : primary g context (skipGap cur) = none := by
    have hangle : sees "<" (skipGap cur) = false := hskip.sees_sign (by decide)
    have hobject : objectLiteral g (skipGap cur) = none :=
      begin_mark_eq_none (hskip.skip.sees_eq_false (by simpa using hbrace.symm)) _
    have hparenthesized : parenthesized g (skipGap cur) = none :=
      begin_mark_eq_none (hskip.skip.sees_eq_false (by simpa using hparen.symm)) _
    rw [primary_eq hskip g context (by decide), check_bind,
      if_neg (by rw [hparens, hangle, hskip.peek]; simp), bind_apply, hparenthesized, bind_apply,
      hobject, identifier_eq_none hskip]
    rfl
  have hnew : newExpression g context (skipGap cur) = none :=
    newExpression_eq_none hskip g context (by decide)
  simp only [expression, bind_apply, operand_eq h g context (by decide),
    destructuring_eq_none hskip g context hbrace, assignmentOrValue, primaryOrNew, orElse_apply,
    hnew, hprimary, Option.bind_none, Option.or_none]

/-- No statement begins with a mark that no expression begins with. -/
lemma statement_eq_none {cur : Cursor} {c : Char} (h : Glance cur [] c) (hbrace : c ≠ '\x7b')
    {g : Grammar} (hg : ∀ cursor, Glance cursor [] c → g.expression .ofStatement cursor = none) :
    statement g cur = none := by
  have hexpression : expressionStatement g (skipGap cur) = none := by
    simp only [expressionStatement, expressions, bind_apply, begin_apply, Option.bind_some,
      hg _ h.skip.skip.skip, Option.bind_none]
  have hfirst := h.first
  cases hrest : (skipGap cur).rest with
  | nil => simp [hrest] at hfirst
  | cons d u =>
      obtain rfl : d = c := by simpa [hrest] using hfirst
      have hsemicolon := Glance.ne_of_leads (d := ';') h.lead (by decide)
      have hat := Glance.ne_of_leads (d := '@') h.lead (by decide)
      have hwords : (wordStatements g).find? (·.1 = []) = none := by
        refine List.find?_eq_none.mpr fun entry hentry => ?_
        have hall : ∀ word ∈ (wordStatements g).map (·.1), word ≠ [] := by
          simp only [wordStatements, List.map_cons, List.map_nil]
          decide
        simpa using hall _ (List.mem_map_of_mem hentry)
      simp only [statement, hrest, if_neg hsemicolon, if_neg hbrace, if_neg hat, h.skip.peek,
        hwords, List.isEmpty_nil, if_true, hexpression]

/-- In a grammar of any depth neither an expression nor a statement begins with a closing mark. -/
lemma grammar_eq_none {cur : Cursor} {c : Char} (h : Glance cur [] c) (hbrace : c ≠ '\x7b')
    (hparen : c ≠ '(') (depth : Nat) :
    (∀ context, (grammar depth).expression context cur = none)
      ∧ (grammar depth).statement cur = none := by
  have hexpression : ∀ (n : Nat) (cursor : Cursor), Glance cursor [] c →
      ∀ context, (grammar n).expression context cursor = none := by
    intro n cursor hcursor context
    cases n with
    | zero => rfl
    | succ n => exact expression_eq_none hcursor hbrace hparen _ _
  refine ⟨hexpression depth cur h, ?_⟩
  cases depth with
  | zero => rfl
  | succ n => exact statement_eq_none h hbrace fun cursor hcursor => hexpression n cursor hcursor _

end Script

end ComponentFile
