import Mathlib.Data.List.TakeWhile
import Mathlib.Tactic
import ComponentFile.Proofs.Text.Boundary
import ComponentFile.Markup.Element

/-!
What the readers of markup take off the front of a text.

Every reader answers with a first part of the text: `through?_eq_some`, `OpenTag.read?_eq_some`,
`closeTag?_eq_some`, `closing?_eq_some` and `Construct.read_eq_element` give the parts. In the other
direction the answer of a reader that has come to its end does not depend on what follows:
`through?_append_of_some`, `OpenTag.read?_append`, `closeTag?_append`.

`balancedClose?` counts the passed characters of a construct; `balancedClose?_comment`,
`balancedClose?_close_zero`, `balancedClose?_close_succ`, `balancedClose?_open` and
`balancedClose?_plain` say instead what it does with a whole construct at once. `scanFrom_aside`,
`scanFrom_element` and `scanFrom_plain` are the same for `scan`, and `scanFrom_cases` says that
there is nothing else.
-/

namespace ComponentFile

open Text

namespace Markup

/-! ### Names -/

lemma sameName_iff {a b : Text} :
    sameName a b = true ↔ a.map Char.toLower = b.map Char.toLower := by
  simp [sameName]

lemma sameName_refl (a : Text) : sameName a a = true := sameName_iff.mpr rfl

lemma sameName_length {a b : Text} (h : sameName a b = true) : a.length = b.length := by
  simpa using congrArg List.length (sameName_iff.mp h)

lemma toLower_eq_or_upper (c : Char) : c.toLower = c ∨ 65 ≤ c.toNat ∧ c.toNat ≤ 90 := by
  by_cases h : c.val ≥ 'A'.val ∧ c.val ≤ 'Z'.val
  · right
    obtain ⟨h1, h2⟩ := h
    rw [ge_iff_le, UInt32.le_iff_toNat_le] at h1
    rw [UInt32.le_iff_toNat_le] at h2
    exact ⟨h1, h2⟩
  · left
    exact dif_neg h

/-- What is the same of every letter in both cases is the same of every character. -/
lemma apply_toLower {α : Type} {p : Char → α}
    (h : ∀ n ∈ List.range' 65 26, p (Char.ofNat (n + 32)) = p (Char.ofNat n)) (c : Char) :
    p c.toLower = p c := by
  rcases toLower_eq_or_upper c with hc | ⟨hlow, hhigh⟩
  · rw [hc]
  · have hmem : c.toNat ∈ List.range' 65 26 := List.mem_range'_1.mpr ⟨hlow, by omega⟩
    have hcodes : ∀ n ∈ List.range' 65 26, (Char.ofNat n).toLower = Char.ofNat (n + 32) := by decide
    have hcode := hcodes c.toNat hmem
    rw [Char.ofNat_toNat] at hcode
    rw [hcode, h c.toNat hmem, Char.ofNat_toNat]

/-- The case of a letter does not matter to whether it may stand in a name. -/
lemma isNameChar_toLower (c : Char) : isNameChar c.toLower = isNameChar c :=
  apply_toLower (by decide) c

/-- A text that agrees with a name up to letter case is made of name characters. -/
lemma isNameChar_of_sameName {name n : Text} (hname : ∀ c ∈ name, isNameChar c = true)
    (h : sameName name n = true) : ∀ c ∈ n, isNameChar c = true := by
  intro c hc
  have hmem : c.toLower ∈ name.map Char.toLower := by
    rw [sameName_iff.mp h]
    exact List.mem_map_of_mem hc
  obtain ⟨d, hd, hdc⟩ := List.mem_map.mp hmem
  rw [← isNameChar_toLower, ← hdc, isNameChar_toLower]
  exact hname d hd

/-! ### Marks -/

lemma splitAt?_eq_some {mark text before rest : Text}
    (h : splitAt? mark text = some (before, rest)) : text = before ++ rest ∧ mark <+: rest := by
  induction text generalizing before with
  | nil =>
      by_cases hm : mark.isEmpty
      · simp only [splitAt?, hm, if_true, Option.some.injEq, Prod.mk.injEq] at h
        obtain ⟨rfl, rfl⟩ := h
        simp only [List.isEmpty_iff] at hm
        simp [hm]
      · simp [splitAt?, hm] at h
  | cons c text ih =>
      rw [splitAt?] at h
      split at h
      case isTrue hm =>
        simp only [Option.some.injEq, Prod.mk.injEq] at h
        obtain ⟨rfl, rfl⟩ := h
        exact ⟨rfl, List.isPrefixOf_iff_prefix.mp hm⟩
      case isFalse hm =>
        obtain ⟨⟨b, r⟩, hbr, heq⟩ := Option.map_eq_some_iff.mp h
        simp only [Prod.mk.injEq] at heq
        obtain ⟨rfl, rfl⟩ := heq
        obtain ⟨rfl, hpre⟩ := ih hbr
        exact ⟨rfl, hpre⟩

/-- A mark is found in every text that holds it. -/
lemma splitAt?_ne_none (mark a b : Text) : splitAt? mark (a ++ (mark ++ b)) ≠ none := by
  induction a with
  | nil =>
      cases h : mark ++ b with
      | nil =>
          obtain ⟨rfl, rfl⟩ := List.append_eq_nil_iff.mp h
          simp [splitAt?]
      | cons c cs =>
          have hpre : mark.isPrefixOf (c :: cs) = true :=
            List.isPrefixOf_iff_prefix.mpr ⟨b, h⟩
          simp [splitAt?, hpre]
  | cons c a ih =>
      rw [List.cons_append, splitAt?]
      split
      · simp
      · simpa using ih

/-- A mark that occurs in a text is found there, whatever follows the text. -/
lemma splitAt?_append_of_some {mark s before rest : Text} (t : Text) (hmark : mark ≠ [])
    (h : splitAt? mark s = some (before, rest)) :
    splitAt? mark (s ++ t) = some (before, rest ++ t) := by
  induction s generalizing before with
  | nil => simp [splitAt?, hmark] at h
  | cons c s ih =>
      rw [splitAt?] at h
      rw [List.cons_append, splitAt?]
      split at h
      case isTrue hm =>
        simp only [Option.some.injEq, Prod.mk.injEq] at h
        obtain ⟨rfl, rfl⟩ := h
        have hlong : mark.isPrefixOf (c :: (s ++ t)) = true := by
          rw [List.isPrefixOf_iff_prefix, ← List.cons_append]
          exact (List.isPrefixOf_iff_prefix.mp hm).trans (List.prefix_append _ _)
        rw [if_pos hlong]
        rfl
      case isFalse hm =>
        obtain ⟨⟨b, r⟩, hbr, heq⟩ := Option.map_eq_some_iff.mp h
        simp only [Prod.mk.injEq] at heq
        obtain ⟨rfl, rfl⟩ := heq
        -- the mark lies in `s`, so it does not begin at `c` and reach beyond `s`
        have hno : mark.isPrefixOf (c :: (s ++ t)) = false := by
          rw [Bool.eq_false_iff, ne_eq, List.isPrefixOf_iff_prefix, ← List.cons_append]
          intro hpre
          obtain ⟨rfl, hin⟩ := splitAt?_eq_some hbr
          have hle : mark.length ≤ (c :: (b ++ r)).length := by
            have := hin.length_le
            simp only [List.length_cons, List.length_append]
            omega
          exact hm (List.isPrefixOf_iff_prefix.mpr
            (List.prefix_of_prefix_length_le hpre (List.prefix_append _ _) hle))
        rw [hno, if_neg (by simp), ih hbr]
        rfl

/-- A mark that does not occur in a text is looked for in what follows, unless it begins in the one
and ends in the other. -/
lemma splitAt?_append_of_none {mark s t : Text} (h : splitAt? mark s = none)
    (hstraddle : ∀ v, v ≠ [] → v <:+ s → mark <+: v ++ t → mark <+: v) :
    splitAt? mark (s ++ t) = (splitAt? mark t).map fun (before, rest) => (s ++ before, rest) := by
  induction s with
  | nil => simp
  | cons c s ih =>
      rw [splitAt?] at h
      split at h
      · simp at h
      case isFalse hm =>
        have hno : mark.isPrefixOf (c :: (s ++ t)) = false := by
          rw [Bool.eq_false_iff, ne_eq, List.isPrefixOf_iff_prefix]
          intro hpre
          exact hm (List.isPrefixOf_iff_prefix.mpr
            (hstraddle (c :: s) (by simp) List.suffix_rfl (by simpa using hpre)))
        rw [List.cons_append, splitAt?, hno, if_neg (by simp),
          ih (by simpa using h) fun v hv hs => hstraddle v hv (hs.trans (List.suffix_cons c s))]
        cases splitAt? mark t <;> rfl

lemma through?_eq_some {mark text read : Text} (h : through? mark text = some read) :
    ∃ rest, text = read ++ rest := by
  obtain ⟨⟨before, rest⟩, hs, rfl⟩ := Option.map_eq_some_iff.mp h
  obtain ⟨rfl, rest, rfl⟩ := splitAt?_eq_some hs
  exact ⟨rest, by simp⟩

lemma through?_append_of_some {mark s read : Text} (t : Text) (hmark : mark ≠ [])
    (h : through? mark s = some read) : through? mark (s ++ t) = some read := by
  obtain ⟨⟨before, rest⟩, hs, rfl⟩ := Option.map_eq_some_iff.mp h
  rw [through?, splitAt?_append_of_some t hmark hs]
  rfl

lemma through?_append_of_none {mark s t : Text} (h : through? mark s = none)
    (hstraddle : ∀ v, v ≠ [] → v <:+ s → mark <+: v ++ t → mark <+: v) :
    through? mark (s ++ t) = (through? mark t).map (s ++ ·) := by
  rw [through?, splitAt?_append_of_none (by simpa [through?] using h) hstraddle, through?]
  cases splitAt? mark t with
  | none => rfl
  | some found => simp

/-- Nothing is found in a text that lacks a character of the mark. -/
lemma through?_eq_none_of_notMem {mark s : Text} {c : Char} (hc : c ∈ mark) (h : c ∉ s) :
    through? mark s = none := by
  rw [Option.eq_none_iff_forall_ne_some]
  intro read hread
  obtain ⟨⟨before, rest⟩, hs, -⟩ := Option.map_eq_some_iff.mp hread
  obtain ⟨rfl, hpre⟩ := splitAt?_eq_some hs
  exact h (List.mem_append_right _ (hpre.subset hc))

lemma length_pos_of_through? {mark s read : Text} (hmark : mark ≠ [])
    (h : through? mark s = some read) : 0 < read.length := by
  obtain ⟨⟨before, rest⟩, -, rfl⟩ := Option.map_eq_some_iff.mp h
  have := List.length_pos_iff.mpr hmark
  simp only [List.length_append]
  omega

/-! ### Opening tags -/

lemma tagBody?_eq_some {quote : Option Char} {s body : Text} (h : tagBody? quote s = some body) :
    ∃ rest, s = body ++ '>' :: rest := by
  induction s generalizing quote body with
  | nil => cases quote <;> simp [tagBody?] at h
  | cons c s ih =>
      cases quote with
      | some q =>
          obtain ⟨b, hb, rfl⟩ := Option.map_eq_some_iff.mp h
          obtain ⟨rest, rfl⟩ := ih hb
          exact ⟨rest, rfl⟩
      | none =>
          rw [tagBody?] at h
          split_ifs at h with hclose hopen hquote
          · simp only [Option.some.injEq] at h
            exact ⟨s, by simp [← h, hclose]⟩
          all_goals
            obtain ⟨b, hb, rfl⟩ := Option.map_eq_some_iff.mp h
            obtain ⟨rest, rfl⟩ := ih hb
            exact ⟨rest, rfl⟩

/-- The tag of a name and of what stands between the name and the closing `>`. -/
def OpenTag.ofParts (name body : Text) : OpenTag where
  name := name
  rawAttributes := Text.trim (if body.getLast? = some '/' then body.dropLast else body)
  selfClosing := body.getLast? = some '/'
  text := '<' :: name ++ body ++ ['>']

lemma OpenTag.read?_cons (cs : Text) :
    OpenTag.read? ('<' :: cs)
      = if (cs.takeWhile isNameChar).isEmpty then none
        else (tagBody? none (cs.dropWhile isNameChar)).map
          (.ofParts (cs.takeWhile isNameChar)) := by
  simp only [OpenTag.read?]
  rfl

/-- What an opening tag is made of. -/
lemma OpenTag.read?_eq_some {s : Text} {tag : OpenTag} (h : OpenTag.read? s = some tag) :
    ∃ name body rest, s = '<' :: (name ++ (body ++ '>' :: rest)) ∧ name ≠ []
      ∧ (∀ c ∈ name, isNameChar c = true) ∧ tag = .ofParts name body
      ∧ s.tail.takeWhile isNameChar = name
      ∧ tagBody? none (s.tail.dropWhile isNameChar) = some body := by
  have hs : ∃ cs, s = '<' :: cs := by
    unfold OpenTag.read? at h
    split at h
    case h_1 cs => exact ⟨cs, rfl⟩
    case h_2 => simp at h
  obtain ⟨cs, rfl⟩ := hs
  rw [OpenTag.read?_cons] at h
  split at h
  · simp at h
  case isFalse hne =>
    obtain ⟨body, hbody, rfl⟩ := Option.map_eq_some_iff.mp h
    obtain ⟨rest, hrest⟩ := tagBody?_eq_some hbody
    refine ⟨_, body, rest, ?_, by simpa using hne, fun c hc => List.mem_takeWhile_imp hc, rfl, rfl,
      hbody⟩
    rw [← hrest, List.takeWhile_append_dropWhile]

/-- The opening tag of a text is its first part. -/
lemma OpenTag.read?_text {s : Text} {tag : OpenTag} (h : OpenTag.read? s = some tag) :
    ∃ rest, s = tag.text ++ rest := by
  obtain ⟨name, body, rest, rfl, -, -, rfl, -⟩ := OpenTag.read?_eq_some h
  exact ⟨rest, by simp [OpenTag.ofParts]⟩

/-- Whether a quote is one that a tag may open. -/
def IsQuoteState (quote : Option Char) : Prop := quote = none ∨ quote = some '"' ∨ quote = some '\''

/-- The inside of a tag read up to some point: the tag has ended, was broken off, or goes on in what
follows with the quote that is open then. -/
lemma tagBody?_append {quote : Option Char} (s : Text) (hq : IsQuoteState quote) :
    (∃ body, tagBody? quote s = some body ∧ ∀ t, tagBody? quote (s ++ t) = some body)
      ∨ (∀ t, tagBody? quote (s ++ t) = none)
      ∨ ∃ q, IsQuoteState q ∧ ∀ t, tagBody? quote (s ++ t) = (tagBody? q t).map (s ++ ·) := by
  induction s generalizing quote with
  | nil => exact .inr (.inr ⟨quote, hq, fun t => by simp⟩)
  | cons c s ih =>
      -- a step that reads `c` and goes on in the state `q`
      have step : ∀ q, IsQuoteState q →
          (∀ t, tagBody? quote (c :: t) = (tagBody? q t).map (c :: ·)) →
          (∃ body, tagBody? quote (c :: s) = some body
            ∧ ∀ t, tagBody? quote (c :: s ++ t) = some body)
            ∨ (∀ t, tagBody? quote (c :: s ++ t) = none)
            ∨ ∃ q, IsQuoteState q
                ∧ ∀ t, tagBody? quote (c :: s ++ t) = (tagBody? q t).map (c :: s ++ ·) := by
        intro q hq' hstep
        rcases ih hq' with ⟨body, hb, hbt⟩ | hnone | ⟨q', hq'', hgo⟩
        · exact .inl ⟨c :: body, by rw [hstep, hb]; rfl,
            fun t => by rw [List.cons_append, hstep, hbt]; rfl⟩
        · exact .inr (.inl fun t => by rw [List.cons_append, hstep, hnone]; rfl)
        · refine .inr (.inr ⟨q', hq'', fun t => ?_⟩)
          rw [List.cons_append, hstep, hgo, Option.map_map]
          rfl
      cases quote with
      | some q =>
          refine step _ ?_ fun t => rfl
          split
          · exact .inl rfl
          · exact hq
      | none =>
          by_cases hclose : c = '>'
          · exact .inl ⟨[], by simp [tagBody?, hclose], fun t => by simp [tagBody?, hclose]⟩
          by_cases hopen : c = '<'
          · exact .inr (.inl fun t => by simp [tagBody?, hopen])
          by_cases hquote : c = '"' ∨ c = '\''
          · refine step (some c) ?_ fun t => by
              rw [tagBody?, if_neg hclose, if_neg hopen, if_pos (by simpa using hquote)]
            rcases hquote with rfl | rfl
            · exact .inr (.inl rfl)
            · exact .inr (.inr rfl)
          · exact step none (.inl rfl) fun t => by
              rw [tagBody?, if_neg hclose, if_neg hopen, if_neg (by simpa using hquote)]

/-- An opening tag ends with itself: it is read whatever follows. -/
lemma OpenTag.read?_append {s : Text} {tag : OpenTag} (h : OpenTag.read? s = some tag) (t : Text) :
    OpenTag.read? (tag.text ++ t) = some tag := by
  obtain ⟨name, body, rest, rfl, hne, hname, rfl, htake, hbody⟩ := OpenTag.read?_eq_some h
  have hdrop : List.dropWhile isNameChar (name ++ (body ++ '>' :: rest)) = body ++ '>' :: rest := by
    have := List.takeWhile_append_dropWhile (p := isNameChar) (l := name ++ (body ++ '>' :: rest))
    rw [List.tail_cons] at htake
    rw [htake] at this
    exact List.append_cancel_left this
  rw [List.tail_cons, hdrop] at hbody
  -- the first character after the name ends it, in either text
  have hstop : ∀ u, List.takeWhile isNameChar (body ++ '>' :: u) = [] := by
    intro u
    rw [List.tail_cons, List.takeWhile_append_of_pos hname] at htake
    have hnil : List.takeWhile isNameChar (body ++ '>' :: rest) = [] :=
      List.append_cancel_left (by rw [htake, List.append_nil])
    cases body with
    | nil => rfl
    | cons c body =>
        simp only [List.cons_append, List.takeWhile_cons] at hnil ⊢
        split_ifs at hnil with hc
        rw [if_neg hc]
  have htext : (OpenTag.ofParts name body).text ++ t = '<' :: (name ++ (body ++ '>' :: t)) := by
    simp [OpenTag.ofParts]
  have htake' : List.takeWhile isNameChar (name ++ (body ++ '>' :: t)) = name := by
    rw [List.takeWhile_append_of_pos hname, hstop, List.append_nil]
  have hdrop' : List.dropWhile isNameChar (name ++ (body ++ '>' :: t)) = body ++ '>' :: t := by
    have := List.takeWhile_append_dropWhile (p := isNameChar) (l := name ++ (body ++ '>' :: t))
    rw [htake'] at this
    exact List.append_cancel_left this
  have hbody' : tagBody? none (body ++ '>' :: t) = some body := by
    have hsplit : ∀ u, body ++ '>' :: u = (body ++ ['>']) ++ u := fun u => by simp
    rw [hsplit] at hbody ⊢
    rcases tagBody?_append (body ++ ['>']) (.inl rfl : IsQuoteState none) with
      ⟨b, -, hb⟩ | hnone | ⟨q, -, hgo⟩
    · rw [hb] at hbody ⊢
      exact hbody
    · rw [hnone] at hbody
      cases hbody
    · -- the tag cannot go on past its own end
      rw [hgo] at hbody
      obtain ⟨b, -, hb⟩ := Option.map_eq_some_iff.mp hbody
      have := congrArg List.length hb
      simp only [List.length_append, List.length_cons, List.length_nil] at this
      omega
  rw [htext, OpenTag.read?_cons, htake', hdrop', hbody', if_neg (by simpa using hne)]
  rfl

/-! ### Close tags and tags of a name -/

/-- What a close tag is made of. -/
lemma closeTag?_eq_some {name s tag : Text} (h : closeTag? name s = some tag) :
    ∃ n blanks rest, s = '<' :: '/' :: (n ++ (blanks ++ '>' :: rest)) ∧ sameName name n = true
      ∧ (∀ c ∈ blanks, isMarkupBlank c = true) ∧ tag = '<' :: '/' :: (n ++ (blanks ++ ['>'])) := by
  unfold closeTag? at h
  split at h
  case h_2 => simp at h
  case h_1 cs =>
    split at h
    case isFalse => simp at h
    case isTrue hsame =>
      dsimp only at h
      split at h
      case h_2 => simp at h
      case h_1 rest hrest =>
        simp only [Option.some.injEq] at h
        refine ⟨cs.take name.length, (cs.drop name.length).takeWhile isMarkupBlank, rest, ?_, hsame,
          fun c hc => List.mem_takeWhile_imp hc, by simp [← h]⟩
        rw [← hrest, List.takeWhile_append_dropWhile, List.take_append_drop]

/-- A close tag is read whatever follows. -/
lemma closeTag?_append {name n blanks : Text} (hn : sameName name n = true)
    (hblanks : ∀ c ∈ blanks, isMarkupBlank c = true) (rest : Text) :
    closeTag? name ('<' :: '/' :: (n ++ (blanks ++ '>' :: rest)))
      = some ('<' :: '/' :: (n ++ (blanks ++ ['>']))) := by
  have hlen := sameName_length hn
  have hgt : isMarkupBlank '>' = false := by decide
  have htake : List.takeWhile isMarkupBlank (blanks ++ '>' :: rest) = blanks := by
    rw [List.takeWhile_append_of_pos hblanks, List.takeWhile_cons_of_neg (by simp [hgt]),
      List.append_nil]
  have hdrop : List.dropWhile isMarkupBlank (blanks ++ '>' :: rest) = '>' :: rest := by
    rw [List.dropWhile_append_of_pos hblanks, List.dropWhile_cons_of_neg (by simp [hgt])]
  have hpart : List.take name.length (n ++ (blanks ++ '>' :: rest)) = n := by
    rw [hlen, List.take_left]
  have hrest : List.drop name.length (n ++ (blanks ++ '>' :: rest)) = blanks ++ '>' :: rest := by
    rw [hlen, List.drop_left]
  simp [closeTag?, hpart, hrest, hn, htake, hdrop]

lemma closeTag?_eq_none {name : Text} {c : Char} (hc : c ≠ '<') (cs : Text) :
    closeTag? name (c :: cs) = none := by
  rw [Option.eq_none_iff_forall_ne_some]
  intro tag h
  obtain ⟨n, blanks, rest, hs, -⟩ := closeTag?_eq_some h
  simp only [List.cons.injEq] at hs
  exact hc hs.1

lemma length_pos_of_closeTag? {name s tag : Text} (h : closeTag? name s = some tag) :
    0 < tag.length := by
  obtain ⟨n, blanks, rest, -, -, -, rfl⟩ := closeTag?_eq_some h
  simp

/-- Whether a character may follow the name of a tag. -/
def EndsName (c : Char) : Prop := isMarkupBlank c = true ∨ c = '>' ∨ c = '/'

lemma opensTag_iff {name s : Text} :
    opensTag name s = true
      ↔ ∃ n c rest, s = '<' :: (n ++ c :: rest) ∧ sameName name n = true ∧ EndsName c := by
  constructor
  · intro h
    unfold opensTag at h
    split at h
    case h_2 => simp at h
    case h_1 cs =>
      simp only [Bool.and_eq_true] at h
      obtain ⟨hsame, hnext⟩ := h
      cases hdrop : cs.drop name.length with
      | nil => simp [hdrop] at hnext
      | cons c rest =>
          simp only [hdrop, Bool.or_eq_true, decide_eq_true_eq] at hnext
          refine ⟨cs.take name.length, c, rest, ?_, hsame, ?_⟩
          · rw [← hdrop, List.take_append_drop]
          · rcases hnext with (h | h) | h
            · exact .inl h
            · exact .inr (.inl h)
            · exact .inr (.inr h)
  · rintro ⟨n, c, rest, rfl, hsame, hc⟩
    have hlen := sameName_length hsame
    have hpart : List.take name.length (n ++ c :: rest) = n := by rw [hlen, List.take_left]
    have hrest : List.drop name.length (n ++ c :: rest) = c :: rest := by rw [hlen, List.drop_left]
    have hend : (isMarkupBlank c || decide (c = '>') || decide (c = '/')) = true := by
      rcases hc with h | h | h <;> simp [h]
    simp only [opensTag, hpart, hrest, hsame, hend, Bool.and_self]

/-- The opening tag of the given name that a text begins with. -/
def sameOpen? (name s : Text) : Option OpenTag :=
  if opensTag name s then OpenTag.read? s else none

lemma sameOpen?_eq_none {name : Text} {c : Char} (hc : c ≠ '<') (cs : Text) :
    sameOpen? name (c :: cs) = none := by
  have hno : opensTag name (c :: cs) = false := by
    rw [Bool.eq_false_iff, ne_eq, opensTag_iff]
    rintro ⟨n, d, rest, hs, -⟩
    simp only [List.cons.injEq] at hs
    exact hc hs.1
  simp [sameOpen?, hno]

lemma read?_of_sameOpen? {name s : Text} {tag : OpenTag} (h : sameOpen? name s = some tag) :
    OpenTag.read? s = some tag := by
  rw [sameOpen?] at h
  split at h
  · exact h
  · simp at h

lemma opensComment_cons {c : Char} (hc : c ≠ '<') (cs : Text) : opensComment (c :: cs) = false := by
  rw [opensComment, Bool.eq_false_iff, ne_eq, List.isPrefixOf_iff_prefix]
  rintro ⟨t, ht⟩
  exact hc (List.head_eq_of_cons_eq ht).symm

/-! ### Where an element closes -/

/-- Text before the content. -/
def Closing.prepend (s : Text) (closing : Closing) : Closing :=
  { closing with content := s ++ closing.content }

lemma Closing.map_prepend_nil (closing : Option Closing) :
    closing.map (Closing.prepend []) = closing := by
  cases closing <;> rfl

lemma Closing.map_prepend_prepend (s t : Text) (closing : Option Closing) :
    (closing.map (Closing.prepend t)).map (Closing.prepend s)
      = closing.map (Closing.prepend (s ++ t)) := by
  cases closing <;> simp [Closing.prepend]

/-- The characters of a construct are passed over as content. -/
lemma balancedClose?_passed (name : Text) (depth : Nat) (u v : Text) :
    balancedClose? name depth u.length (u ++ v)
      = (balancedClose? name depth 0 v).map (Closing.prepend u) := by
  induction u with
  | nil => exact (Closing.map_prepend_nil _).symm
  | cons c u ih =>
      rw [List.cons_append, List.length_cons, balancedClose?, ih]
      exact Closing.map_prepend_prepend [c] u _

lemma balancedClose?_cons (name : Text) (depth : Nat) (c : Char) (cs : Text) :
    balancedClose? name depth 0 (c :: cs)
      = if opensComment (c :: cs) then
          match comment? (c :: cs) with
          | none => none
          | some comment =>
            (balancedClose? name depth (comment.length - 1) cs).map (Closing.prepend [c])
        else match closeTag? name (c :: cs) with
          | some tag =>
            match depth with
            | 0 => some ⟨[], tag⟩
            | depth + 1 => (balancedClose? name depth (tag.length - 1) cs).map (Closing.prepend [c])
          | none =>
            match sameOpen? name (c :: cs) with
            | some tag =>
              (balancedClose? name (if tag.selfClosing then depth else depth + 1)
                (tag.text.length - 1) cs).map (Closing.prepend [c])
            | none => (balancedClose? name depth 0 cs).map (Closing.prepend [c]) := by
  rw [balancedClose?]
  by_cases hcomment : opensComment (c :: cs) = true
  · rw [if_pos hcomment, if_pos hcomment]
    rfl
  · rw [if_neg hcomment, if_neg hcomment]
    cases hclose : closeTag? name (c :: cs) with
    | some tag => rfl
    | none =>
        by_cases hopen : opensTag name (c :: cs) = true
        · simp only [sameOpen?, hopen, if_true]
          cases OpenTag.read? (c :: cs) <;> rfl
        · simp only [sameOpen?, hopen]
          rfl

/-- Passing over the rest of a construct whose first character has been read. -/
lemma balancedClose?_construct (name : Text) (depth : Nat) {t : Text} (ht : 0 < t.length) {c : Char}
    {cs v : Text} (hs : c :: cs = t ++ v) :
    (balancedClose? name depth (t.length - 1) cs).map (Closing.prepend [c])
      = (balancedClose? name depth 0 v).map (Closing.prepend t) := by
  cases t with
  | nil => simp at ht
  | cons d u =>
      simp only [List.cons_append, List.cons.injEq] at hs
      obtain ⟨rfl, rfl⟩ := hs
      rw [List.length_cons, Nat.add_sub_cancel, balancedClose?_passed]
      exact Closing.map_prepend_prepend [c] u _

section Balanced

variable {name : Text} {depth : Nat} {s t v : Text}

lemma balancedClose?_comment (hopen : opensComment s = true) (hread : comment? s = some t)
    (hs : s = t ++ v) :
    balancedClose? name depth 0 s = (balancedClose? name depth 0 v).map (Closing.prepend t) := by
  have ht := length_pos_of_through? (by simp) hread
  cases s with
  | nil => simp [opensComment] at hopen
  | cons c cs =>
      rw [balancedClose?_cons, if_pos hopen, hread]
      exact balancedClose?_construct name depth ht hs

lemma balancedClose?_endless (hopen : opensComment s = true) (hread : comment? s = none) :
    balancedClose? name depth 0 s = none := by
  cases s with
  | nil => rfl
  | cons c cs => rw [balancedClose?_cons, if_pos hopen, hread]

lemma balancedClose?_close_zero (hopen : opensComment s = false)
    (hread : closeTag? name s = some t) : balancedClose? name 0 0 s = some ⟨[], t⟩ := by
  cases s with
  | nil => simp [closeTag?] at hread
  | cons c cs => rw [balancedClose?_cons, if_neg (by simp [hopen]), hread]

lemma balancedClose?_close_succ (hopen : opensComment s = false)
    (hread : closeTag? name s = some t) (hs : s = t ++ v) :
    balancedClose? name (depth + 1) 0 s
      = (balancedClose? name depth 0 v).map (Closing.prepend t) := by
  have ht := length_pos_of_closeTag? hread
  cases s with
  | nil => simp [closeTag?] at hread
  | cons c cs =>
      rw [balancedClose?_cons, if_neg (by simp [hopen]), hread]
      exact balancedClose?_construct name depth ht hs

lemma balancedClose?_open {tag : OpenTag} (hopen : opensComment s = false)
    (hclose : closeTag? name s = none) (hread : sameOpen? name s = some tag)
    (hs : s = tag.text ++ v) :
    balancedClose? name depth 0 s
      = (balancedClose? name (if tag.selfClosing then depth else depth + 1) 0 v).map
          (Closing.prepend tag.text) := by
  obtain ⟨n, body, rest, -, -, -, htag, -⟩ := OpenTag.read?_eq_some (read?_of_sameOpen? hread)
  have ht : 0 < tag.text.length := by simp [htag, OpenTag.ofParts]
  cases s with
  | nil => simp [sameOpen?, opensTag] at hread
  | cons c cs =>
      rw [balancedClose?_cons, if_neg (by simp [hopen]), hclose, hread]
      exact balancedClose?_construct name _ ht hs

lemma balancedClose?_plain {c : Char} {cs : Text} (hopen : opensComment (c :: cs) = false)
    (hclose : closeTag? name (c :: cs) = none) (hread : sameOpen? name (c :: cs) = none) :
    balancedClose? name depth 0 (c :: cs)
      = (balancedClose? name depth 0 cs).map (Closing.prepend [c]) := by
  rw [balancedClose?_cons, if_neg (by simp [hopen]), hclose, hread]

/-- Text without `<` is content. -/
lemma balancedClose?_text (name : Text) (depth : Nat) {u : Text} (hu : '<' ∉ u) (v : Text) :
    balancedClose? name depth 0 (u ++ v)
      = (balancedClose? name depth 0 v).map (Closing.prepend u) := by
  induction u with
  | nil => exact (Closing.map_prepend_nil _).symm
  | cons c u ih =>
      simp only [List.mem_cons, not_or] at hu
      have hc : c ≠ '<' := Ne.symm hu.1
      rw [List.cons_append, balancedClose?_plain (opensComment_cons hc _) (closeTag?_eq_none hc _)
        (sameOpen?_eq_none hc _), ih hu.2]
      exact Closing.map_prepend_prepend [c] u _

end Balanced

lemma firstClose?_cons_of_none {name : Text} {c : Char} {cs : Text}
    (h : closeTag? name (c :: cs) = none) :
    firstClose? name (c :: cs) = (firstClose? name cs).map (Closing.prepend [c]) := by
  rw [firstClose?, h]
  rfl

lemma firstClose?_of_closeTag? {name s tag : Text} (h : closeTag? name s = some tag) :
    firstClose? name s = some ⟨[], tag⟩ := by
  cases s with
  | nil => simp [closeTag?] at h
  | cons c cs => rw [firstClose?, h]

/-- A text in which no close tag begins is content. -/
lemma firstClose?_append (name : Text) {u : Text} (v : Text)
    (h : ∀ w, w ≠ [] → w <:+ u → closeTag? name (w ++ v) = none) :
    firstClose? name (u ++ v) = (firstClose? name v).map (Closing.prepend u) := by
  induction u with
  | nil => exact (Closing.map_prepend_nil _).symm
  | cons c u ih =>
      have hhead := h (c :: u) (by simp) List.suffix_rfl
      rw [List.cons_append] at hhead ⊢
      rw [firstClose?_cons_of_none hhead,
        ih fun w hw hs => h w hw (hs.trans (List.suffix_cons c u))]
      exact Closing.map_prepend_prepend [c] u _

/-- The first close tag, and that none begins before it. -/
lemma firstClose?_eq_some {name s : Text} {closing : Closing}
    (h : firstClose? name s = some closing) :
    ∃ v, s = closing.content ++ v ∧ closeTag? name v = some closing.tag
      ∧ ∀ w, w ≠ [] → w <:+ closing.content → closeTag? name (w ++ v) = none := by
  induction s generalizing closing with
  | nil => simp [firstClose?] at h
  | cons c cs ih =>
      rw [firstClose?] at h
      split at h
      case h_1 tag htag =>
        simp only [Option.some.injEq] at h
        subst h
        exact ⟨c :: cs, rfl, htag, fun w hw hs => absurd (by simpa using hs) hw⟩
      case h_2 hnone =>
        obtain ⟨later, hlater, rfl⟩ := Option.map_eq_some_iff.mp h
        obtain ⟨v, hv, htag, hbefore⟩ := ih hlater
        refine ⟨v, by rw [hv]; rfl, htag, fun w hw hs => ?_⟩
        rcases List.suffix_cons_iff.mp hs with rfl | hs
        · rw [List.cons_append, ← hv]
          exact hnone
        · exact hbefore w hw hs

lemma firstClose?_eq_none_iff {name s : Text} :
    firstClose? name s = none ↔ ∀ w, w ≠ [] → w <:+ s → closeTag? name w = none := by
  induction s with
  | nil =>
      simp only [firstClose?, List.suffix_nil, true_iff]
      exact fun w hw hs => absurd hs hw
  | cons c cs ih =>
      constructor
      · intro h w hw hs
        rw [firstClose?] at h
        split at h
        · simp at h
        case h_2 hnone =>
          rcases List.suffix_cons_iff.mp hs with rfl | hs
          · exact hnone
          · exact ih.mp (by simpa using h) w hw hs
      · intro h
        rw [firstClose?_cons_of_none (h _ (by simp) List.suffix_rfl),
          ih.mpr fun w hw hs => h w hw (hs.trans (List.suffix_cons c cs))]
        rfl

/-- A balanced search ends at a close tag of the name. -/
lemma balancedClose?_eq_some {name : Text} {depth passed : Nat} {s : Text} {closing : Closing}
    (h : balancedClose? name depth passed s = some closing) :
    ∃ v, s = closing.content ++ v ∧ closeTag? name v = some closing.tag := by
  induction s generalizing depth passed closing with
  | nil => cases passed <;> simp [balancedClose?] at h
  | cons c cs ih =>
      -- all but the last step read `c` as content and go on
      have step : ∀ d p, (balancedClose? name d p cs).map (Closing.prepend [c]) = some closing →
          ∃ v, c :: cs = closing.content ++ v ∧ closeTag? name v = some closing.tag := by
        intro d p hstep
        obtain ⟨later, hlater, rfl⟩ := Option.map_eq_some_iff.mp hstep
        obtain ⟨v, rfl, htag⟩ := ih hlater
        exact ⟨v, rfl, htag⟩
      cases passed with
      | succ passed => exact step depth passed h
      | zero =>
          rw [balancedClose?_cons] at h
          split at h
          · split at h
            · simp at h
            · exact step _ _ h
          · split at h
            case h_1 tag htag =>
              cases depth with
              | zero =>
                  simp only [Option.some.injEq] at h
                  subst h
                  exact ⟨c :: cs, rfl, htag⟩
              | succ depth => exact step _ _ h
            case h_2 =>
              split at h
              · exact step _ _ h
              · exact step _ _ h

lemma closeTag?_text {name s tag : Text} (h : closeTag? name s = some tag) :
    ∃ rest, s = tag ++ rest := by
  obtain ⟨n, blanks, rest, rfl, -, -, rfl⟩ := closeTag?_eq_some h
  exact ⟨rest, by simp⟩

/-- What follows an opening tag is the content, the close tag and the rest of the text. -/
lemma closing?_eq_some {tag : OpenTag} {s : Text} {closing : Closing}
    (h : closing? tag s = some closing) : ∃ rest, s = closing.content ++ (closing.tag ++ rest) := by
  rw [closing?] at h
  split_ifs at h with hself hraw
  · simp only [Option.some.injEq] at h
    subst h
    exact ⟨s, rfl⟩
  · obtain ⟨v, rfl, htag, -⟩ := firstClose?_eq_some h
    obtain ⟨rest, hrest⟩ := closeTag?_text htag
    exact ⟨rest, by rw [← hrest]⟩
  · obtain ⟨v, rfl, htag⟩ := balancedClose?_eq_some h
    obtain ⟨rest, hrest⟩ := closeTag?_text htag
    exact ⟨rest, by rw [← hrest]⟩

/-- An element with a body ends at a close tag of its name. -/
lemma closing?_closeTag {tag : OpenTag} {s : Text} {closing : Closing}
    (h : closing? tag s = some closing) (hself : tag.selfClosing = false) :
    ∃ v, s = closing.content ++ v ∧ closeTag? tag.name v = some closing.tag := by
  rw [closing?, if_neg (by simp [hself])] at h
  split_ifs at h
  · obtain ⟨v, hv, htag, -⟩ := firstClose?_eq_some h
    exact ⟨v, hv, htag⟩
  · exact balancedClose?_eq_some h

/-! ### Constructs -/

lemma Construct.ofElement_eq_element {s : Text} {tag : OpenTag} {closing : Closing} :
    Construct.ofElement s = .element tag closing
      ↔ OpenTag.read? s = some tag ∧ closing? tag (s.drop tag.text.length) = some closing := by
  rw [Construct.ofElement]
  cases hread : OpenTag.read? s with
  | none => simp
  | some t =>
      cases hclose : closing? t (s.drop t.text.length) with
      | none =>
          simp only [hclose, Option.some.injEq, reduceCtorEq, false_iff, not_and]
          rintro rfl
          simp [hclose]
      | some c =>
          simp only [hclose, Construct.element.injEq, Option.some.injEq]
          constructor
          · rintro ⟨rfl, rfl⟩
            exact ⟨rfl, hclose⟩
          · rintro ⟨rfl, h⟩
            exact ⟨rfl, by simpa [hclose] using h⟩

lemma Construct.ofElement_ne_aside (s t : Text) : Construct.ofElement s ≠ .aside t := by
  rw [Construct.ofElement]
  split
  · simp
  · split <;> simp

lemma Construct.ofAside?_ne_element (t : Option Text) (tag : OpenTag) (closing : Closing) :
    Construct.ofAside? t ≠ .element tag closing := by
  cases t <;> simp [Construct.ofAside?]

/-- When a text begins with an element. -/
lemma Construct.read_eq_element {s : Text} {tag : OpenTag} {closing : Closing} :
    Construct.read s = .element tag closing
      ↔ opensComment s = false ∧ opensAside s = false ∧ opensElement s = true
        ∧ OpenTag.read? s = some tag ∧ closing? tag (s.drop tag.text.length) = some closing := by
  rw [Construct.read]
  split_ifs with hcomment haside helement
  · simp [hcomment, Construct.ofAside?_ne_element]
  · simp [haside, Construct.ofAside?_ne_element]
  · simp [hcomment, haside, helement, Construct.ofElement_eq_element]
  · simp [helement]

/-- An element is its opening tag, its content and its close tag. -/
lemma Construct.element_text {s : Text} {tag : OpenTag} {closing : Closing}
    (h : Construct.read s = .element tag closing) :
    ∃ rest, s = tag.text ++ (closing.content ++ (closing.tag ++ rest)) ∧ 0 < tag.text.length := by
  obtain ⟨-, -, -, hread, hclose⟩ := Construct.read_eq_element.mp h
  obtain ⟨after, rfl⟩ := OpenTag.read?_text hread
  rw [List.drop_left] at hclose
  obtain ⟨rest, rfl⟩ := closing?_eq_some hclose
  obtain ⟨name, body, -, -, -, -, rfl, -⟩ := OpenTag.read?_eq_some hread
  exact ⟨rest, rfl, by simp [OpenTag.ofParts]⟩

lemma Construct.aside_text {s t : Text} (h : Construct.read s = .aside t) :
    ∃ rest, s = t ++ rest ∧ 0 < t.length := by
  rw [Construct.read] at h
  split_ifs at h with hcomment haside helement
  · cases hread : comment? s with
    | none => simp [hread, Construct.ofAside?] at h
    | some u =>
        simp only [hread, Construct.ofAside?, Construct.aside.injEq] at h
        subst h
        obtain ⟨rest, hrest⟩ := through?_eq_some hread
        exact ⟨rest, hrest, length_pos_of_through? (by simp) hread⟩
  · cases hread : aside? s with
    | none => simp [hread, Construct.ofAside?] at h
    | some u =>
        simp only [hread, Construct.ofAside?, Construct.aside.injEq] at h
        subst h
        obtain ⟨rest, hrest⟩ := through?_eq_some hread
        exact ⟨rest, hrest, length_pos_of_through? (by simp) hread⟩
  · exact absurd h (Construct.ofElement_ne_aside s t)

lemma Construct.read_cons {c : Char} (hc : c ≠ '<') (cs : Text) :
    Construct.read (c :: cs) = .plain := by
  have haside : opensAside (c :: cs) = false := by
    unfold opensAside
    split
    case h_1 heq => simp only [List.cons.injEq] at heq; exact absurd heq.1 hc
    case h_2 => rfl
  have helement : opensElement (c :: cs) = false := by
    unfold opensElement
    split
    case h_1 heq => simp only [List.cons.injEq] at heq; exact absurd heq.1 hc
    case h_2 => rfl
  simp [Construct.read, opensComment_cons hc, haside, helement]

/-! ### Scanning -/

lemma scanFrom_passed (offset : Nat) (u v : Text) :
    scanFrom offset u.length (u ++ v) = scanFrom (offset + u.bytes) 0 v := by
  induction u generalizing offset with
  | nil => rfl
  | cons c u ih =>
      rw [List.cons_append, List.length_cons, scanFrom, ih, bytes_cons, Nat.add_assoc]

lemma scanFrom_nil (offset passed : Nat) : scanFrom offset passed [] = [] := by
  cases passed <;> rfl

lemma scanFrom_construct (offset : Nat) {t : Text} (ht : 0 < t.length) {c : Char} {cs v : Text}
    (hs : c :: cs = t ++ v) :
    scanFrom (offset + c.utf8Size) (t.length - 1) cs = scanFrom (offset + t.bytes) 0 v := by
  cases t with
  | nil => simp at ht
  | cons d u =>
      simp only [List.cons_append, List.cons.injEq] at hs
      obtain ⟨rfl, rfl⟩ := hs
      rw [List.length_cons, Nat.add_sub_cancel, scanFrom_passed, bytes_cons, Nat.add_assoc]

lemma scanFrom_plain (offset : Nat) {c : Char} {cs : Text}
    (h : Construct.read (c :: cs) = .plain) :
    scanFrom offset 0 (c :: cs) = scanFrom (offset + c.utf8Size) 0 cs := by
  rw [scanFrom, h]

lemma scanFrom_aside (offset : Nat) {s t v : Text} (h : Construct.read s = .aside t)
    (hs : s = t ++ v) : scanFrom offset 0 s = scanFrom (offset + t.bytes) 0 v := by
  obtain ⟨-, -, ht⟩ := Construct.aside_text h
  cases s with
  | nil => simp at hs; simp [hs.1] at ht
  | cons c cs =>
      rw [scanFrom, h]
      exact scanFrom_construct offset ht hs

lemma scanFrom_endless (offset : Nat) {s : Text} (h : Construct.read s = .endless) :
    scanFrom offset 0 s = [] := by
  cases s with
  | nil => rfl
  | cons c cs => rw [scanFrom, h]

lemma scanFrom_element (offset : Nat) {s v : Text} {tag : OpenTag} {closing : Closing}
    (h : Construct.read s = .element tag closing)
    (hs : s = tag.text ++ (closing.content ++ (closing.tag ++ v))) :
    scanFrom offset 0 s
      = .build offset tag closing
        :: scanFrom (offset + (tag.text ++ (closing.content ++ closing.tag)).bytes) 0 v := by
  obtain ⟨-, -, ht⟩ := Construct.element_text h
  cases s with
  | nil => simp at hs; simp [hs.1] at ht
  | cons c cs =>
      rw [scanFrom, h]
      have hwhole : 0 < (tag.text ++ (closing.content ++ closing.tag)).length := by
        simp only [List.length_append]; omega
      have hlen : (tag.text ++ (closing.content ++ closing.tag)).length
          = tag.text.length + closing.content.length + closing.tag.length := by
        simp only [List.length_append]; omega
      have := scanFrom_construct offset hwhole (v := v) (hs.trans (by simp))
      rw [hlen] at this
      exact congrArg _ this

/-- Text without `<` holds no element. -/
lemma scanFrom_text (offset : Nat) {u : Text} (hu : '<' ∉ u) (v : Text) :
    scanFrom offset 0 (u ++ v) = scanFrom (offset + u.bytes) 0 v := by
  induction u generalizing offset with
  | nil => rfl
  | cons c u ih =>
      simp only [List.mem_cons, not_or] at hu
      rw [List.cons_append, scanFrom_plain offset (Construct.read_cons (Ne.symm hu.1) _), ih _ hu.2,
        bytes_cons, Nat.add_assoc]

/-- What the scan does with a text: it passes over one character or an aside, it stops, or it finds
an element and goes on behind it. -/
lemma scanFrom_cases (offset : Nat) {s : Text} (hs : s ≠ []) :
    (∃ c v, s = c :: v ∧ Construct.read s = .plain
        ∧ scanFrom offset 0 s = scanFrom (offset + c.utf8Size) 0 v)
      ∨ (∃ t v, s = t ++ v ∧ 0 < t.length ∧ Construct.read s = .aside t
        ∧ scanFrom offset 0 s = scanFrom (offset + t.bytes) 0 v)
      ∨ (Construct.read s = .endless ∧ scanFrom offset 0 s = [])
      ∨ ∃ tag closing v, s = tag.text ++ (closing.content ++ (closing.tag ++ v))
        ∧ 0 < tag.text.length ∧ Construct.read s = .element tag closing
        ∧ scanFrom offset 0 s = .build offset tag closing
            :: scanFrom (offset + (tag.text ++ (closing.content ++ closing.tag)).bytes) 0 v := by
  cases h : Construct.read s with
  | plain =>
      obtain ⟨c, v, rfl⟩ := List.exists_cons_of_ne_nil hs
      exact .inl ⟨c, v, rfl, rfl, scanFrom_plain offset h⟩
  | aside t =>
      obtain ⟨v, hv, ht⟩ := Construct.aside_text h
      exact .inr (.inl ⟨t, v, hv, ht, rfl, scanFrom_aside offset h hv⟩)
  | endless => exact .inr (.inr (.inl ⟨rfl, scanFrom_endless offset h⟩))
  | element tag closing =>
      obtain ⟨v, hv, ht⟩ := Construct.element_text h
      exact .inr (.inr (.inr ⟨tag, closing, v, hv, ht, rfl, scanFrom_element offset h hv⟩))

end Markup

end ComponentFile
