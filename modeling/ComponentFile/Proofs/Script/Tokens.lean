import Mathlib.Tactic
import ComponentFile.Proofs.Text.Boundary
import ComponentFile.Proofs.Text.Runs
import ComponentFile.Script.Statement

/-!
Reading tokens.

A cursor that stands between `p` and `t` is `Cursor.between p t`, so that what a reader takes moves
from the one text to the other and the offsets of a tree are the bytes of what stands before it.

* `Faces cur p t`: behind blanks, the cursor comes to stand between `p` and `t`, where a token
  begins.
* `Faces.mark_eq`, `Faces.word_eq`, `Faces.name_eq`, `Faces.string_eq`: what the readers of tokens
  take.
* `Glance cur w c`: what alternatives decide by, the name `w` that follows and the first character
  `c`. A reader that asks for anything else fails.
* `Repeats`: what a reader reads again and again.
-/

namespace ComponentFile

open Text

namespace Script

/-! ### Cursors -/

/-- The cursor between two parts of a script. -/
def Cursor.between (p t : Text) : Cursor := ⟨t, p.bytes⟩

lemma Cursor.skip_between (p s t : Text) :
    (Cursor.between p (s ++ t)).skip s.length = .between (p ++ s) t := by
  induction s generalizing p with
  | nil => rw [List.append_nil, List.nil_append, List.length_nil, Cursor.skip]
  | cons c s ih =>
      have hstep : (⟨s ++ t, p.bytes + c.utf8Size⟩ : Cursor) = .between (p ++ [c]) (s ++ t) := by
        rw [between, bytes_append, bytes_cons, bytes_nil, Nat.add_zero]
      rw [List.length_cons, Cursor.skip, between, List.cons_append]
      dsimp only
      rw [hstep, ih, List.append_assoc, List.singleton_append]

/-! ### Gaps -/

/-- The text begins with a token, or there is nothing left. -/
def BeginsToken (t : Text) : Prop := ∀ c ∈ t.head?, isGapBlank c = false ∧ c ≠ '/'

lemma beginsToken_cons {c : Char} {t : Text} (h : isGapBlank c = false ∧ c ≠ '/') :
    BeginsToken (c :: t) := by
  rintro d ⟨⟩
  exact h

lemma commentLength?_eq_none {t : Text} (h : BeginsToken t) : commentLength? t = none := by
  unfold commentLength?
  split
  · exact absurd rfl (h '/' rfl).2
  · exact absurd rfl (h '/' rfl).2
  · rfl

lemma takeWhile_blanks {b t : Text} (hb : ∀ c ∈ b, isGapBlank c = true) (ht : BeginsToken t) :
    (b ++ t).takeWhile isGapBlank = b := by
  rw [List.takeWhile_append_of_pos hb]
  cases t with
  | nil => rw [List.takeWhile_nil, List.append_nil]
  | cons c t => rw [List.takeWhile_cons_of_neg (by simp [(ht c rfl).1]), List.append_nil]

/-- A gap ends where a token begins. -/
lemma skipGap_between {b t : Text} (hb : ∀ c ∈ b, isGapBlank c = true) (ht : BeginsToken t)
    (p : Text) : skipGap (.between p (b ++ t)) = .between (p ++ b) t := by
  have hblanks : skipBlanks (.between p (b ++ t)) = .between (p ++ b) t := by
    have hrest : (Cursor.between p (b ++ t)).rest = b ++ t := rfl
    rw [skipBlanks, hrest, takeWhile_blanks hb ht, Cursor.skip_between]
  rw [skipGap, skipGapFrom, hblanks]
  have hrest : (Cursor.between (p ++ b) t).rest = t := rfl
  simp only [hrest, commentLength?_eq_none ht]

lemma skipGap_eq_self {cur : Cursor} (h : BeginsToken cur.rest) : skipGap cur = cur := by
  have hblanks : skipBlanks cur = cur := by
    have htake := takeWhile_blanks (b := []) (by simp) h
    rw [List.nil_append] at htake
    rw [skipBlanks, htake, List.length_nil, Cursor.skip]
  rw [skipGap, skipGapFrom, hblanks]
  simp only [commentLength?_eq_none h]

/-- Behind blanks, the cursor comes to stand between `p` and `t`, where a token begins. -/
structure Faces (cur : Cursor) (p t : Text) : Prop where
  gap : skipGap cur = .between p t
  token : BeginsToken t

lemma faces_between {b t : Text} (hb : ∀ c ∈ b, isGapBlank c = true) (ht : BeginsToken t)
    (p : Text) : Faces (.between p (b ++ t)) (p ++ b) t :=
  ⟨skipGap_between hb ht p, ht⟩

lemma faces_self {t : Text} (ht : BeginsToken t) (p : Text) : Faces (.between p t) p t := by
  have h := faces_between (b := []) (by simp) ht p
  rwa [List.nil_append, List.append_nil] at h

lemma Faces.begin_eq {cur : Cursor} {p t : Text} (h : Faces cur p t) :
    begin cur = some (p.bytes, .between p t) := by
  have hgap : begin cur = some ((skipGap cur).offset, skipGap cur) := rfl
  rw [hgap, h.gap]
  rfl

/-! ### Names -/

/-- A name without escapes. -/
def IsName (w : Text) : Prop := w.head?.any isNameStart = true ∧ ∀ c ∈ w, isNameChar c = true

instance (w : Text) : Decidable (IsName w) := inferInstanceAs (Decidable (_ ∧ _))

/-- No name goes on with this text. -/
def EndsName (t : Text) : Prop := ∀ c ∈ t.head?, isNameChar c = false ∧ c ≠ '\\'

lemma endsName_cons {c : Char} {t : Text} (h : isNameChar c = false ∧ c ≠ '\\') :
    EndsName (c :: t) := by
  rintro d ⟨⟩
  exact h

lemma visible_of_isNameStart {c : Char} (h : isNameStart c = true) :
    isGapBlank c = false ∧ c ≠ '/' := by
  rw [isNameStart, isNameChar] at h
  simp only [Bool.and_eq_true, Bool.not_eq_true', decide_eq_true_eq] at h
  obtain ⟨⟨⟨-, hblank⟩, hbreaker⟩, -⟩ := h
  refine ⟨hblank, ?_⟩
  rintro rfl
  exact absurd hbreaker (by decide)

lemma IsName.beginsToken {w : Text} (h : IsName w) (t : Text) : BeginsToken (w ++ t) := by
  obtain ⟨hstart, -⟩ := h
  cases w with
  | nil => simp at hstart
  | cons c w =>
      exact beginsToken_cons (visible_of_isNameStart hstart)

lemma nameEscapeLength?_eq_none {c : Char} (h : c ≠ '\\') (t : Text) :
    nameEscapeLength? (c :: t) = none := by
  unfold nameEscapeLength?
  split
  case h_1 heq => exact absurd (List.cons.inj heq).1 h
  case h_2 heq => exact absurd (List.cons.inj heq).1 h
  case h_3 => rfl

lemma nameTailLength_append {w t : Text} (hw : ∀ c ∈ w, isNameChar c = true) (ht : EndsName t) :
    nameTailLength 0 (w ++ t) = w.length := by
  induction w with
  | nil =>
      cases t with
      | nil => rfl
      | cons c t =>
          obtain ⟨hc, hescape⟩ := ht c rfl
          rw [List.nil_append, nameTailLength, hc, nameEscapeLength?_eq_none hescape]
          rfl
  | cons c w ih =>
      rw [List.cons_append, nameTailLength, if_pos (hw c List.mem_cons_self),
        ih fun d hd => hw d (List.mem_cons_of_mem c hd), List.length_cons, Nat.add_comm]

lemma nameLength_append {w t : Text} (hw : IsName w) (ht : EndsName t) :
    nameLength (w ++ t) = w.length := by
  obtain ⟨hstart, hchars⟩ := hw
  cases w with
  | nil => simp at hstart
  | cons c w =>
      rw [List.head?_cons, Option.any_some] at hstart
      rw [List.cons_append, nameLength, hstart, Bool.true_or, if_pos rfl, ← List.cons_append,
        nameTailLength_append hchars ht]

/-! ### Readers -/

section Readers

variable {α β : Type} {cur next : Cursor}

lemma bind_apply (x : Reader α) (f : α → Reader β) (cur : Cursor) :
    (x >>= f) cur = (x cur).bind fun r => f r.1 r.2 := rfl

lemma pure_apply (a : α) (cur : Cursor) : (pure a : Reader α) cur = some (a, cur) := rfl

lemma orElse_apply (x y : Reader α) (cur : Cursor) : (x <|> y) cur = (x cur).or (y cur) := by
  have h : (x <|> y) cur = (x cur).orElse fun _ => y cur := rfl
  rw [h, Option.orElse_eq_or]

lemma optional_of_none {x : Reader α} (h : x cur = none) :
    Reader.optional x cur = some (none, cur) := by
  rw [Reader.optional, h]

lemma optional_of_some {x : Reader α} {a : α} (h : x cur = some (a, next)) :
    Reader.optional x cur = some (some a, next) := by
  rw [Reader.optional, h]

end Readers

/-- What a reader reads again and again, until it fails. -/
inductive Repeats {α : Type} (r : Reader α) : Cursor → List α → Cursor → Prop where
  | stop {cur : Cursor} (h : r cur = none) : Repeats r cur [] cur
  | step {cur next last : Cursor} {a : α} {as : List α} (h : r cur = some (a, next))
      (hlength : next.rest.length < cur.rest.length) (tail : Repeats r next as last) :
      Repeats r cur (a :: as) last

lemma Repeats.manyFrom_eq {α : Type} {r : Reader α} {cur last : Cursor} {as : List α}
    (h : Repeats r cur as last) {fuel : Nat} (hfuel : cur.rest.length ≤ fuel) :
    Reader.manyFrom r fuel cur = (as, last) := by
  induction h generalizing fuel with
  | stop hnone =>
      cases fuel with
      | zero => rfl
      | succ fuel => rw [Reader.manyFrom, hnone]
  | step hsome hlength _ ih =>
      cases fuel with
      | zero => omega
      | succ fuel =>
          rw [Reader.manyFrom, hsome]
          dsimp only
          rw [ih (by omega)]

lemma Repeats.many_eq {α : Type} {r : Reader α} {cur last : Cursor} {as : List α}
    (h : Repeats r cur as last) : Reader.many r cur = some (as, last) := by
  rw [Reader.many, h.manyFrom_eq le_rfl]

lemma many_of_none {α : Type} {r : Reader α} {cur : Cursor} (h : r cur = none) :
    Reader.many r cur = some ([], cur) :=
  (Repeats.stop h).many_eq

/-! ### Line ends -/

lemma lineEnd_of_endsHere {inExpression : Bool} {cur : Cursor}
    (h : endsHere inExpression false cur.rest = true) :
    lineEnd inExpression cur = some ((), cur) := by
  rw [lineEnd, lineEnd?, lineEndFrom?, if_pos h]
  rfl

lemma stops_of_endsHere {context : Context} {cur : Cursor} (hlines : context.lineEnds = true)
    (h : endsHere context.inExpression context.inSignature cur.rest = true) :
    context.stops cur = true := by
  rw [Context.stops, lineEndFrom?, if_pos h, hlines]
  rfl

/-- Nothing ends before a token on the same line. -/
lemma not_stops_of_endsHere {context : Context} {b t : Text}
    (hb : ∀ c ∈ b, isGapBlank c = true) (ht : BeginsToken t)
    (h : endsHere context.inExpression context.inSignature (b ++ t) = false) (p : Text) :
    context.stops (.between p (b ++ t)) = false := by
  have hblanks : (skipBlanks (.between p (b ++ t))).rest = t := by
    have hrest : (Cursor.between p (b ++ t)).rest = b ++ t := rfl
    rw [skipBlanks, hrest, takeWhile_blanks hb ht, Cursor.skip_between]
    rfl
  have hends : endsHere context.inExpression context.inSignature (Cursor.between p (b ++ t)).rest
      ≠ true := by
    rw [ne_eq, Bool.not_eq_true]
    exact h
  rw [Context.stops, lineEndFrom?, if_neg hends]
  simp only [hblanks, commentLength?_eq_none ht, Option.isSome_none, Bool.and_false]

lemma lineEnd_eq_none {cur : Cursor} (h : Context.ofDeclaredType.stops cur = false) :
    lineEnd false cur = none := by
  have hnone : lineEnd? false cur = none := by
    rw [← Option.isNone_iff_eq_none, ← Option.not_isSome, Bool.not_eq_true']
    exact h
  rw [lineEnd, hnone]
  rfl

/-! ### Tokens -/

section Tokens

variable {cur : Cursor} {p t w v m : Text}

lemma Faces.mark_eq (h : Faces cur p (m ++ t)) :
    mark m cur = some ((), .between (p ++ m) t) := by
  have hprefix : m.isPrefixOf (Cursor.between p (m ++ t)).rest = true :=
    List.isPrefixOf_iff_prefix.mpr (List.prefix_append m t)
  simp only [mark, h.gap, hprefix, if_true, Cursor.skip_between]

/-- A mark of one character. -/
lemma Faces.mark_char {c : Char} (h : Faces cur p (c :: t)) (hm : m = [c]) :
    mark m cur = some ((), .between (p ++ [c]) t) := by
  subst hm
  exact Faces.mark_eq h

lemma Faces.name_eq (h : Faces cur p (w ++ t)) (hw : IsName w) (ht : EndsName t) :
    name cur = some (w, .between (p ++ w) t) := by
  have hrest : (Cursor.between p (w ++ t)).rest = w ++ t := rfl
  simp only [name, h.gap, hrest, nameLength_append hw ht]
  split
  case h_1 hlen =>
    rw [List.eq_nil_of_length_eq_zero hlen] at hw
    simp [IsName] at hw
  case h_2 => rw [List.take_left, Cursor.skip_between]

lemma Faces.word_eq (h : Faces cur p (w ++ t)) (hw : IsName w) (ht : EndsName t) :
    word w cur = some ((), .between (p ++ w) t) := by
  have hrest : (Cursor.between p (w ++ t)).rest = w ++ t := rfl
  have hne : w.length ≠ 0 := by
    rintro hlen
    rw [List.eq_nil_of_length_eq_zero hlen] at hw
    simp [IsName] at hw
  simp [word, h.gap, hrest, nameLength_append hw ht, hne, Cursor.skip_between]

lemma Faces.nameNode_eq (h : Faces cur p (w ++ t)) (hw : IsName w) (ht : EndsName t)
    (kind : Kind) : nameNode kind cur
      = some (.leaf kind p.bytes (p ++ w).bytes, .between (p ++ w) t) := by
  have hself := faces_self h.token p
  simp only [nameNode, bind_apply, h.begin_eq, Option.bind_some, hself.name_eq hw ht, finish]
  rfl

/-- The characters that a string between single quotes may hold without an escape. -/
def IsQuotable (s : Text) : Prop := ∀ c ∈ s, c ≠ '\'' ∧ c ≠ '\\' ∧ c ≠ '\n' ∧ c ≠ '\r'

lemma stringTailLength?_append {s : Text} (hs : IsQuotable s) (t : Text) :
    stringTailLength? '\'' 0 (s ++ '\'' :: t) = some (s.length + 1) := by
  induction s with
  | nil =>
      rw [List.nil_append, stringTailLength?, if_pos rfl]
      rfl
  | cons c s ih =>
      obtain ⟨hquote, hescape, hfeed, hreturn⟩ := hs c List.mem_cons_self
      rw [List.cons_append, stringTailLength?, if_neg hquote, if_neg hescape,
        if_neg (by simp [hfeed, hreturn]), ih fun d hd => hs d (List.mem_cons_of_mem c hd)]
      rfl

lemma Faces.string_eq {s : Text} (h : Faces cur p ('\'' :: (s ++ '\'' :: t))) (hs : IsQuotable s) :
    stringLiteral cur = some (.leaf .string p.bytes (p ++ '\'' :: (s ++ ['\''])).bytes,
      .between (p ++ '\'' :: (s ++ ['\''])) t) := by
  have hrest : (Cursor.between p ('\'' :: (s ++ '\'' :: t))).rest = '\'' :: (s ++ '\'' :: t) := rfl
  have hlength : stringLength? ('\'' :: (s ++ '\'' :: t))
      = some ('\'' :: (s ++ ['\''])).length := by
    rw [stringLength?, if_pos (by decide), stringTailLength?_append hs]
    simp
  have hsplit : '\'' :: (s ++ '\'' :: t) = '\'' :: (s ++ ['\'']) ++ t := by simp
  simp only [stringLiteral, literal, h.gap, hrest, hlength]
  rw [hsplit, Cursor.skip_between]
  rfl

/-! ### What alternatives decide by -/

/-- Whether a character begins a name, or is one of the marks that no operator and no literal begins
with. -/
def leads (c : Char) : Bool := isNameStart c || "\x7b\x7d(),:".toList.contains c

lemma visible_of_leads {c : Char} (h : leads c = true) : isGapBlank c = false ∧ c ≠ '/' := by
  rw [leads, Bool.or_eq_true] at h
  rcases h with hname | hmark
  · exact visible_of_isNameStart hname
  · have hmarks : ∀ d ∈ "\x7b\x7d(),:".toList, isGapBlank d = false ∧ d ≠ '/' := by decide
    exact hmarks c (List.contains_iff_mem.mp hmark)

/-- The name that follows the cursor, or nothing, and the character that follows. -/
structure Glance (cur : Cursor) (w : Text) (c : Char) : Prop where
  peek : peekName cur = w
  first : (skipGap cur).rest.head? = some c
  lead : leads c = true

lemma Faces.glance_mark {c : Char} (h : Faces cur p (c :: t))
    (hc : c ∈ "\x7b\x7d(),:".toList) : Glance cur [] c where
  peek := by
    have hlength : nameLength (c :: t) = 0 := by
      have hmarks : ∀ d ∈ "\x7b\x7d(),:".toList, isNameStart d = false ∧ d ≠ '\\' := by decide
      rw [nameLength, (hmarks c hc).1, nameEscapeLength?_eq_none (hmarks c hc).2]
      rfl
    have hrest : (Cursor.between p (c :: t)).rest = c :: t := rfl
    simp only [peekName, h.gap, hrest, hlength, List.take_zero]
  first := by
    rw [h.gap]
    rfl
  lead := by simp only [leads, List.contains_iff_mem.mpr hc, Bool.or_true]

lemma Faces.glance_name (h : Faces cur p (w ++ t)) (hw : IsName w) (ht : EndsName t) :
    ∃ c, Glance cur w c := by
  have hpeek : peekName cur = w := by
    have hrest : (Cursor.between p (w ++ t)).rest = w ++ t := rfl
    simp only [peekName, h.gap, hrest, nameLength_append hw ht, List.take_left]
  obtain ⟨hstart, -⟩ := hw
  cases w with
  | nil => simp at hstart
  | cons c w =>
      rw [List.head?_cons, Option.any_some] at hstart
      exact ⟨c, hpeek, by rw [h.gap]; rfl, by rw [leads, hstart, Bool.true_or]⟩

namespace Glance

variable {c : Char}

/-- The same is seen at the token itself. -/
lemma skip (h : Glance cur w c) : Glance (skipGap cur) w c := by
  have hfirst := h.first
  have hself : skipGap (skipGap cur) = skipGap cur := by
    refine skipGap_eq_self fun d hd => ?_
    obtain rfl : d = c := Option.some.inj (hd.symm.trans hfirst)
    exact visible_of_leads h.lead
  constructor
  · rw [peekName, hself]
    exact h.peek
  · rw [hself]
    exact hfirst
  · exact h.lead

lemma word_eq_none (h : Glance cur w c) (hv : v ≠ w) : word v cur = none := by
  simp only [word, ne_eq, Bool.and_eq_true, decide_eq_true_eq]
  rw [if_neg]
  rintro ⟨-, htake⟩
  exact hv (htake.symm.trans h.peek)

lemma name_eq_none (h : Glance cur [] c) : name cur = none := by
  have hpeek := h.peek
  have hfirst := h.first
  simp only [peekName] at hpeek
  simp only [name]
  cases hrest : (skipGap cur).rest with
  | nil => simp [hrest] at hfirst
  | cons d u =>
      rw [hrest] at hpeek
      cases hlen : nameLength (d :: u) with
      | zero => rfl
      | succ n => simp [hlen] at hpeek

lemma name_fst (h : Glance cur w c) : ∀ r ∈ name cur, r.1 = w := by
  intro r hr
  rw [← h.peek]
  simp only [name] at hr
  split at hr
  · cases hr
  · rename_i n hn
    obtain rfl := (Option.some.inj hr).symm
    simp only [peekName]

lemma oneOf_eq_none (h : Glance cur w c) {words : List Text} (hw : w ∉ words) :
    oneOf words cur = none := by
  rw [oneOf, bind_apply]
  cases hname : name cur with
  | none => rfl
  | some r =>
      have hr := h.name_fst r hname
      rw [Option.bind_some, hr, if_neg (by simpa using hw)]
      rfl

/-- A name that follows begins as names do. -/
lemma isNameStart_of_ne_nil (h : Glance cur w c) (hw : w ≠ []) : isNameStart c = true := by
  have hpeek := h.peek
  have hfirst := h.first
  have hlead := h.lead
  simp only [peekName] at hpeek
  cases hrest : (skipGap cur).rest with
  | nil => simp [hrest] at hfirst
  | cons d u =>
      obtain rfl : d = c := by simpa [hrest] using hfirst
      have hescape : d ≠ '\\' := by
        rintro rfl
        exact absurd hlead (by decide)
      cases hstart : isNameStart d with
      | true => rfl
      | false =>
          refine absurd ?_ hw
          rw [← hpeek, hrest, nameLength, hstart, nameEscapeLength?_eq_none hescape]
          rfl

lemma sees_eq_false (h : Glance cur w c) (hm : m.head?.any (· ≠ c) = true) :
    sees m cur = false := by
  have hfirst := h.first
  rw [sees]
  cases m with
  | nil => simp at hm
  | cons d m =>
      cases hrest : (skipGap cur).rest with
      | nil => simp [hrest] at hfirst
      | cons e u =>
          obtain rfl : e = c := by simpa [hrest] using hfirst
          have hne : d ≠ e := by simpa using hm
          simp [List.isPrefixOf, hne]

/-- A sign is not seen where a name or a mark is. -/
lemma sees_sign (h : Glance cur w c) (hm : m.head?.any (!leads ·) = true) :
    sees m cur = false := by
  refine h.sees_eq_false ?_
  cases m with
  | nil => simp at hm
  | cons d m =>
      rw [List.head?_cons, Option.any_some, decide_eq_true_eq]
      rintro rfl
      simp [h.lead] at hm

/-- A mark is not seen where a name is. -/
lemma sees_mark (h : Glance cur w c) (hw : w ≠ []) (hm : m.head?.any (!isNameStart ·) = true) :
    sees m cur = false := by
  refine h.sees_eq_false ?_
  cases m with
  | nil => simp at hm
  | cons d m =>
      rw [List.head?_cons, Option.any_some, decide_eq_true_eq]
      rintro rfl
      simp [h.isNameStart_of_ne_nil hw] at hm

lemma peekSign_eq_nil (h : Glance cur w c) : peekSign cur = [] := by
  have hsigns : ∀ s ∈ operatorSigns, s.head?.any (!leads ·) = true := by decide +kernel
  rw [peekSign, List.find?_eq_none.mpr, Option.getD_none]
  intro s hs
  have hsees := h.sees_sign (hsigns s hs)
  rw [sees] at hsees
  simp [hsees]

lemma sign_eq_none (h : Glance cur w c) {s : Text} (hs : s ≠ []) : sign s cur = none := by
  have hcheck : Reader.check (peekSign · = s) cur = none := by
    rw [Reader.check, h.peekSign_eq_nil, if_neg (by simpa using hs.symm)]
  rw [sign, bind_apply, hcheck, Option.bind_none]

/-- A literal is not read where its length is none for all texts that begin so. -/
lemma literal_eq_none (h : Glance cur w c) {length? : Text → Option Nat}
    (hlength : ∀ u, length? (c :: u) = none) (kind : Kind) : literal kind length? cur = none := by
  have hfirst := h.first
  cases hrest : (skipGap cur).rest with
  | nil => simp [hrest] at hfirst
  | cons d u =>
      obtain rfl : d = c := by simpa [hrest] using hfirst
      simp only [literal, hrest, hlength]

lemma ne_of_leads {d : Char} (h : leads c = true) (hd : leads d = false) : c ≠ d := by
  rintro rfl
  simp [h] at hd

lemma isDigit_of_leads (h : leads c = true) : c.isDigit = false := by
  rw [leads, Bool.or_eq_true] at h
  rcases h with hname | hmark
  · rw [isNameStart, Bool.and_eq_true, Bool.not_eq_true'] at hname
    exact hname.2
  · have hmarks : ∀ d ∈ "\x7b\x7d(),:".toList, d.isDigit = false := by decide
    exact hmarks c (List.contains_iff_mem.mp hmark)

lemma stringLiteral_eq_none (h : Glance cur w c) : stringLiteral cur = none := by
  refine h.literal_eq_none (fun u => ?_) _
  have hdouble := ne_of_leads (d := '"') h.lead (by decide)
  have hsingle := ne_of_leads (d := '\'') h.lead (by decide)
  simp [stringLength?, hdouble, hsingle]

lemma regexLiteral_eq_none (h : Glance cur w c) : regexLiteral cur = none := by
  refine h.literal_eq_none (fun u => ?_) _
  have hslash := ne_of_leads (d := '/') h.lead (by decide)
  unfold regexLength?
  split
  case h_1 heq => exact absurd (List.cons.inj heq).1 hslash
  case h_2 => rfl

lemma digitRun_eq_zero {isDigit : Char → Bool} (h : isDigit c = false) (u : Text) :
    digitRun isDigit (c :: u) = 0 := by
  unfold digitRun
  split <;> simp_all

lemma numberLiteral_eq_none (h : Glance cur w c) : numberLiteral cur = none := by
  refine h.literal_eq_none (fun u => ?_) _
  have hdigit := isDigit_of_leads h.lead
  have hzero := ne_of_leads (d := '0') h.lead (by decide)
  have hpoint := ne_of_leads (d := '.') h.lead (by decide)
  have hwhole : wholeLength (c :: u) = 0 := by
    simp [wholeLength, hzero, hdigit]
  have hdecimal : decimalLength (c :: u) = 0 := by
    simp only [decimalLength, hwhole, digitRun_eq_zero hdigit, List.drop_zero]
    split
    case h_1 heq => exact absurd (List.cons.inj heq).1 hpoint
    case h_2 => rfl
  unfold numberLength?
  split
  case h_1 heq => exact absurd (List.cons.inj heq).1 hzero
  case h_2 =>
    rw [hdecimal]
    rfl

end Glance

lemma mark_eq_none (h : sees m cur = false) : mark m cur = none := by
  rw [sees] at h
  simp [mark, h]

end Tokens

end Script

end ComponentFile
