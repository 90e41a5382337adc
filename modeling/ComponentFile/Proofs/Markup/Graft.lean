import Mathlib.Tactic
import ComponentFile.Proofs.Markup.Reading

/-!
Putting a line of code into a document leaves the scan up to that place as it was.

The line is `Inert`: it holds no bracket and its only quotes are a pair of single ones. It is put at
a `Seam`, a place at which no mark and no name can be cut in two.

* `Seam.comment?`, `closeTag?_graft`, `OpenTag.read?_graft`: each reader answers as before, or it
  reads beyond the seam and then reads the line as well.
* `balancedClose?_graft_none` and `balancedClose?_graft_some`: a search for a close tag that failed
  still fails, and one that ended before the seam ends at the same place. Across the seam the depth
  can only grow, since a close tag around it is lost and a self-closing one may no longer be.
* `Passes` is the walk of the scan over a first part of a text; `Passes.graft` says that it
  survives, and `Construct.read_graft_content` that a raw element with the line in its content is
  read behind it.
-/

namespace ComponentFile

open Text

namespace Markup

/-! ### Lines and seams -/

/-- A text without brackets and quotes. -/
def IsPlain (s : Text) : Prop := ∀ c ∈ s, c ≠ '<' ∧ c ≠ '>' ∧ c ≠ '"' ∧ c ≠ '\''

instance (s : Text) : Decidable (IsPlain s) := List.decidableBAll _ s

/-- A text without brackets, with one pair of single quotes, and with an end that begins no mark. -/
structure Inert (line : Text) : Prop where
  parts : ∃ u v w, line = u ++ '\'' :: (v ++ '\'' :: w) ∧ IsPlain u ∧ IsPlain v ∧ IsPlain w
  last : ∀ c, line.getLast? = some c → c ≠ '-' ∧ c ≠ '/'

/-- Whether a character can be followed by another one of the same mark or name. -/
def Glues (c : Char) : Prop := isNameChar c = true ∨ c = '<' ∨ c = '!'

/-- The place between `s` and `y` takes `line`: `s` ends with a character that is the last one of
its mark, or else `line` begins a new line in front of a tag or a blank. -/
inductive Seam (s line y : Text) : Prop where
  | behind (c : Char) (hlast : s.getLast? = some c) (hc : ¬ Glues c)
  | newLine (hs : s ≠ []) (hline : ∃ rest, line = '\n' :: rest)
      (hy : ∃ d rest, y = d :: rest ∧ (d = '<' ∨ isMarkupBlank d = true))

lemma Seam.ne_nil {s line y : Text} (h : Seam s line y) : s ≠ [] := by
  cases h with
  | behind c hlast => rintro rfl; simp at hlast
  | newLine hs => exact hs

/-- What stands before a seam can be cut shorter from the front. -/
lemma Seam.of_append {a s line y : Text} (h : Seam (a ++ s) line y) (hs : s ≠ []) :
    Seam s line y := by
  cases h with
  | behind c hlast hc =>
      refine .behind c ?_ hc
      rwa [List.getLast?_append_of_ne_nil a hs] at hlast
  | newLine _ hline hy => exact .newLine hs hline hy

lemma Seam.of_suffix {v s line y : Text} (h : Seam s line y) (hv : v ≠ []) (hs : v <:+ s) :
    Seam v line y := by
  obtain ⟨a, rfl⟩ := hs
  exact h.of_append hv

lemma Inert.mem {line : Text} (h : Inert line) {c : Char} (hc : c ∈ line) :
    c ≠ '<' ∧ c ≠ '>' := by
  obtain ⟨u, v, w, rfl, hu, hv, hw⟩ := h.parts
  simp only [List.mem_append, List.mem_cons] at hc
  rcases hc with hc | rfl | hc | rfl | hc
  · exact ⟨(hu c hc).1, (hu c hc).2.1⟩
  · decide
  · exact ⟨(hv c hc).1, (hv c hc).2.1⟩
  · decide
  · exact ⟨(hw c hc).1, (hw c hc).2.1⟩

lemma Inert.quote_mem {line : Text} (h : Inert line) : '\'' ∈ line := by
  obtain ⟨u, v, w, rfl, -⟩ := h.parts
  simp

lemma Inert.ne_nil {line : Text} (h : Inert line) : line ≠ [] := List.ne_nil_of_mem h.quote_mem

lemma Inert.lt_notMem {line : Text} (h : Inert line) : '<' ∉ line := fun hc => (h.mem hc).1 rfl

lemma Inert.gt_notMem {line : Text} (h : Inert line) : '>' ∉ line := fun hc => (h.mem hc).2 rfl

/-! ### Marks -/

/-- A mark that begins before the place `s | t` and does not end there is cut by it. -/
lemma prefix_append_cases {mark s t : Text} (h : mark <+: s ++ t) :
    mark <+: s ∨ ∃ m, m ≠ [] ∧ mark = s ++ m ∧ m <+: t := by
  by_cases hlen : mark.length ≤ s.length
  · exact .inl (List.prefix_of_prefix_length_le h (List.prefix_append s t) hlen)
  · obtain ⟨m, rfl⟩ := List.prefix_of_prefix_length_le (List.prefix_append s t) h (by omega)
    refine .inr ⟨m, ?_, rfl, (List.prefix_append_right_inj s).mp h⟩
    rintro rfl
    simp at hlen

/-- No mark is cut by a seam, neither before nor after the line is put there. -/
lemma Seam.not_cut {s line y mark : Text} (h : Seam s line y)
    (hglue : ∀ c ∈ mark.dropLast, Glues c)
    (hnext : ∀ c ∈ mark.tail, c ≠ '<' ∧ isMarkupBlank c = false) :
    (mark <+: s ++ y → mark <+: s) ∧ (mark <+: s ++ (line ++ y) → mark <+: s) := by
  -- the mark would consist of `s` and of the first characters `d :: m` of what follows
  have cut : ∀ d m, mark = s ++ d :: m →
      (∀ c, s.getLast? = some c → Glues c) ∧ d ≠ '<' ∧ isMarkupBlank d = false := by
    rintro d m rfl
    constructor
    · intro c hc
      apply hglue
      rw [List.dropLast_append_of_ne_nil (by simp)]
      exact List.mem_append_left _ (List.mem_of_getLast? hc)
    · apply hnext
      rw [List.tail_append_of_ne_nil h.ne_nil]
      simp
  constructor
  · intro hmark
    rcases prefix_append_cases hmark with hin | ⟨m, hm, hcut, hpre⟩
    · exact hin
    obtain ⟨d, m, rfl⟩ := List.exists_cons_of_ne_nil hm
    obtain ⟨hlast, hd, hdb⟩ := cut d m hcut
    cases h with
    | behind c hc hnot => exact absurd (hlast c hc) hnot
    | newLine hs hline hy =>
        obtain ⟨e, rest, rfl, he⟩ := hy
        obtain rfl := (List.cons_prefix_cons.mp hpre).1
        rcases he with he | he
        · exact absurd he hd
        · rw [hdb] at he
          cases he
  · intro hmark
    rcases prefix_append_cases hmark with hin | ⟨m, hm, hcut, hpre⟩
    · exact hin
    obtain ⟨d, m, rfl⟩ := List.exists_cons_of_ne_nil hm
    obtain ⟨hlast, hd, hdb⟩ := cut d m hcut
    cases h with
    | behind c hc hnot => exact absurd (hlast c hc) hnot
    | newLine hs hline hy =>
        obtain ⟨rest, rfl⟩ := hline
        obtain rfl := (List.cons_prefix_cons.mp hpre).1
        exact absurd hdb (by decide)

lemma isNameChar_ne {c : Char} (h : isNameChar c = true) : c ≠ '<' ∧ isMarkupBlank c = false := by
  constructor
  · rintro rfl
    exact absurd h (by decide)
  · rw [Bool.eq_false_iff]
    intro hb
    simp only [isMarkupBlank, Bool.or_eq_true, decide_eq_true_eq] at hb
    rcases hb with (((rfl | rfl) | rfl) | rfl) | rfl <;> exact absurd h (by decide)

/-- A comment begins at the same places as before. -/
lemma Seam.opensComment {s line y : Text} (h : Seam s line y) :
    opensComment (s ++ (line ++ y)) = opensComment (s ++ y) := by
  have hglue : ∀ c ∈ List.dropLast "<!--".toList, Glues c := by
    intro c hc
    simp only [String.reduceToList, List.dropLast_cons_cons, List.dropLast_singleton, List.mem_cons,
      List.not_mem_nil, or_false] at hc
    rcases hc with rfl | rfl | rfl
    · exact .inr (.inl rfl)
    · exact .inr (.inr rfl)
    · exact .inl (by decide)
  have hnext : ∀ c ∈ List.tail "<!--".toList, c ≠ '<' ∧ isMarkupBlank c = false := by
    simp [isMarkupBlank]
  obtain ⟨hold, hnew⟩ := h.not_cut hglue hnext
  rw [Bool.eq_iff_iff, Markup.opensComment, Markup.opensComment, List.isPrefixOf_iff_prefix,
    List.isPrefixOf_iff_prefix]
  exact ⟨fun hc => (hnew hc).trans (List.prefix_append _ _),
    fun hc => (hold hc).trans (List.prefix_append _ _)⟩

/-- A comment that ends before the seam stays; one that does not takes in the line. -/
lemma Seam.comment? {s line y : Text} (h : Seam s line y) (hline : Inert line) :
    (∃ t, Markup.comment? (s ++ y) = some t ∧ Markup.comment? (s ++ (line ++ y)) = some t ∧ t <+: s)
      ∨ Markup.comment? (s ++ y) = (Markup.comment? y).map (s ++ ·)
        ∧ Markup.comment? (s ++ (line ++ y)) = (Markup.comment? y).map (s ++ line ++ ·) := by
  have hglue : ∀ c ∈ List.dropLast "-->".toList, Glues c := by
    intro c hc
    simp only [String.reduceToList, List.dropLast_cons_cons, List.dropLast_singleton, List.mem_cons,
      List.not_mem_nil, or_false, or_self] at hc
    subst hc
    exact .inl (by decide)
  have hnext : ∀ c ∈ List.tail "-->".toList, c ≠ '<' ∧ isMarkupBlank c = false := by
    simp [isMarkupBlank]
  have huncut : ∀ v, v ≠ [] → v <:+ s →
      ("-->".toList <+: v ++ y → "-->".toList <+: v)
        ∧ ("-->".toList <+: v ++ (line ++ y) → "-->".toList <+: v) :=
    fun v hv hs => (h.of_suffix hv hs).not_cut hglue hnext
  cases hread : Markup.comment? s with
  | some t =>
      obtain ⟨rest, hrest⟩ := through?_eq_some hread
      exact .inl ⟨t, through?_append_of_some y (by simp) hread,
        through?_append_of_some (line ++ y) (by simp) hread, ⟨rest, hrest.symm⟩⟩
  | none =>
      -- the line neither holds the mark nor begins it
      have hskip : Markup.comment? (line ++ y) = (Markup.comment? y).map (line ++ ·) := by
        refine through?_append_of_none
          (through?_eq_none_of_notMem (c := '>') (by simp) hline.gt_notMem) fun v hv hs hpre => ?_
        rcases prefix_append_cases hpre with hin | ⟨m, hm, hcut, -⟩
        · exact hin
        obtain ⟨c, hc⟩ : ∃ c, v.getLast? = some c :=
          ⟨v.getLast hv, List.getLast?_eq_getLast_of_ne_nil hv⟩
        have hlast : line.getLast? = some c := by
          obtain ⟨a, rfl⟩ := hs
          rwa [List.getLast?_append_of_ne_nil a hv]
        have hdash : c ∈ List.dropLast "-->".toList := by
          rw [hcut, List.dropLast_append_of_ne_nil hm]
          exact List.mem_append_left _ (List.mem_of_getLast? hc)
        have hc' : c = '-' := by simpa using hdash
        exact absurd hc' (hline.last c hlast).1
      refine .inr ⟨through?_append_of_none hread fun v hv hs => (huncut v hv hs).1, ?_⟩
      rw [Markup.comment?, through?_append_of_none hread fun v hv hs => (huncut v hv hs).2]
      rw [Markup.comment?] at hskip
      rw [hskip, Option.map_map]
      simp [Function.comp_def, Markup.comment?]

/-! ### Close tags -/

/-- A close tag that has been read is read whatever follows. -/
lemma closeTag?_tag_append {name s tag : Text} (h : closeTag? name s = some tag) (t : Text) :
    closeTag? name (tag ++ t) = some tag := by
  obtain ⟨n, blanks, rest, -, hn, hblanks, rfl⟩ := closeTag?_eq_some h
  have happ : '<' :: '/' :: (n ++ (blanks ++ ['>'])) ++ t
      = '<' :: '/' :: (n ++ (blanks ++ '>' :: t)) := by simp
  rw [happ]
  exact closeTag?_append hn hblanks t

/-- A close tag does not reach over the line. -/
lemma closeTag?_graft {name s line y tag : Text} (hname : ∀ c ∈ name, isNameChar c = true)
    (hline : Inert line) (h : closeTag? name (s ++ (line ++ y)) = some tag) : tag <+: s := by
  obtain ⟨n, blanks, rest, hs, hn, hblanks, rfl⟩ := closeTag?_eq_some h
  have hpre : '<' :: '/' :: (n ++ (blanks ++ ['>'])) <+: s ++ (line ++ y) := ⟨rest, by simp [hs]⟩
  rcases prefix_append_cases hpre with hin | ⟨m, hm, hcut, hmy⟩
  · exact hin
  -- otherwise the tag holds the quote of the line, as it ends with a bracket
  exfalso
  have hquote : '\'' ∈ m := by
    rcases prefix_append_cases hmy with hin | ⟨k, -, rfl, -⟩
    · have hgt : '>' ∈ m := by
        have hlast := congrArg List.getLast? hcut
        rw [List.getLast?_append_of_ne_nil s hm] at hlast
        refine List.mem_of_getLast? (hlast.symm.trans ?_)
        rw [show '<' :: '/' :: (n ++ (blanks ++ ['>'])) = ('<' :: '/' :: (n ++ blanks)) ++ ['>'] by
          simp, List.getLast?_concat]
      exact absurd (hin.subset hgt) hline.gt_notMem
    · exact List.mem_append_left _ hline.quote_mem
  have hmem : '\'' ∈ '<' :: '/' :: (n ++ (blanks ++ ['>'])) := by
    rw [hcut]
    exact List.mem_append_right _ hquote
  simp only [List.mem_cons, List.mem_append, List.not_mem_nil, or_false] at hmem
  rcases hmem with hq | hq | hq | hq | hq
  · exact absurd hq (by decide)
  · exact absurd hq (by decide)
  · exact absurd (isNameChar_of_sameName hname hn _ hq) (by decide)
  · exact absurd (hblanks _ hq) (by decide)
  · exact absurd hq (by decide)

/-! ### Opening tags -/

/-- Inside a tag, a text without brackets and quotes is passed over. -/
lemma tagBody?_plain {quote : Option Char} (hq : IsQuoteState quote) {u : Text} (hu : IsPlain u)
    (y : Text) : tagBody? quote (u ++ y) = (tagBody? quote y).map (u ++ ·) := by
  induction u with
  | nil => simp
  | cons c u ih =>
      obtain ⟨h1, h2, h3, h4⟩ := hu c (by simp)
      have ih := ih fun d hd => hu d (by simp [hd])
      rcases hq with rfl | rfl | rfl
      · rw [List.cons_append, tagBody?, if_neg h2, if_neg h1, if_neg (by simp [h3, h4]), ih,
          Option.map_map]
        rfl
      · rw [List.cons_append, tagBody?, if_neg h3, ih, Option.map_map]
        rfl
      · rw [List.cons_append, tagBody?, if_neg h4, ih, Option.map_map]
        rfl

/-- Inside a tag, the line is passed over and leaves the open quote as it was: its own quotes open
and close one, or close and open one, or are text of the other kind of quotes. -/
lemma Inert.tagBody? {line : Text} (h : Inert line) {quote : Option Char} (hq : IsQuoteState quote)
    (y : Text) : tagBody? quote (line ++ y) = (tagBody? quote y).map (line ++ ·) := by
  obtain ⟨u, v, w, rfl, hu, hv, hw⟩ := h.parts
  have hassoc : u ++ '\'' :: (v ++ '\'' :: w) ++ y = u ++ '\'' :: (v ++ '\'' :: (w ++ y)) := by simp
  rw [hassoc, tagBody?_plain hq hu]
  rcases hq with rfl | rfl | rfl
  · have hin : IsQuoteState (some '\'') := .inr (.inr rfl)
    have hout : IsQuoteState none := .inl rfl
    rw [Markup.tagBody?, if_neg (by decide), if_neg (by decide), if_pos (by decide),
      tagBody?_plain hin hv, Markup.tagBody?, if_pos rfl, tagBody?_plain hout hw]
    simp [Function.comp_def]
  · have hin : IsQuoteState (some '"') := .inr (.inl rfl)
    rw [Markup.tagBody?, if_neg (by decide), tagBody?_plain hin hv, Markup.tagBody?,
      if_neg (by decide), tagBody?_plain hin hw]
    simp [Function.comp_def]
  · have hin : IsQuoteState (some '\'') := .inr (.inr rfl)
    have hout : IsQuoteState none := .inl rfl
    rw [Markup.tagBody?, if_pos rfl, tagBody?_plain hout hv, Markup.tagBody?, if_neg (by decide),
      if_neg (by decide), if_pos (by decide), tagBody?_plain hin hw]
    simp [Function.comp_def]

/-- The name of a tag ends before the seam, or at it. -/
lemma Seam.takeWhile_name {s line y : Text} (h : Seam ('<' :: s) line y) :
    List.takeWhile isNameChar (s ++ y) = List.takeWhile isNameChar s
      ∧ List.dropWhile isNameChar (s ++ y) = List.dropWhile isNameChar s ++ y
      ∧ List.takeWhile isNameChar (s ++ (line ++ y)) = List.takeWhile isNameChar s
      ∧ List.dropWhile isNameChar (s ++ (line ++ y))
        = List.dropWhile isNameChar s ++ (line ++ y) := by
  by_cases hall : ∀ c ∈ s, isNameChar c = true
  · cases h with
    | behind c hlast hc =>
        have hmem := List.mem_of_getLast? hlast
        rw [List.mem_cons] at hmem
        rcases hmem with rfl | hmem
        · exact absurd (.inr (.inl rfl)) hc
        · exact absurd (.inl (hall c hmem)) hc
    | newLine _ hline hy =>
        obtain ⟨rest, rfl⟩ := hline
        obtain ⟨d, z, rfl, hd⟩ := hy
        have hd' : isNameChar d = false := by
          rw [Bool.eq_false_iff]
          intro hname
          obtain ⟨h1, h2⟩ := isNameChar_ne hname
          rcases hd with hd | hd
          · exact h1 hd
          · rw [h2] at hd
            cases hd
        have hnl : isNameChar '\n' = false := by decide
        rw [List.takeWhile_append_of_pos hall, List.dropWhile_append_of_pos hall,
          List.takeWhile_append_of_pos hall, List.dropWhile_append_of_pos hall,
          List.takeWhile_eq_self_iff.mpr hall, List.dropWhile_eq_nil_iff.mpr hall]
        simp [hd', hnl]
  · -- some character of `s` ends the name
    have hne : List.dropWhile isNameChar s ≠ [] := by
      rwa [ne_eq, List.dropWhile_eq_nil_iff]
    have hsplit : s = List.takeWhile isNameChar s ++ List.dropWhile isNameChar s :=
      List.takeWhile_append_dropWhile.symm
    obtain ⟨d, z, hd⟩ := List.exists_cons_of_ne_nil hne
    have hd' : isNameChar d = false := by
      have := List.head_dropWhile_not isNameChar hne
      simpa [hd] using this
    have hpos : ∀ c ∈ List.takeWhile isNameChar s, isNameChar c = true :=
      fun c hc => List.mem_takeWhile_imp hc
    have key : ∀ t, List.takeWhile isNameChar (s ++ t) = List.takeWhile isNameChar s
        ∧ List.dropWhile isNameChar (s ++ t) = List.dropWhile isNameChar s ++ t := by
      intro t
      have hst : s ++ t = List.takeWhile isNameChar s ++ (d :: (z ++ t)) := by
        conv_lhs => rw [hsplit, hd]
        simp
      constructor
      · rw [hst, List.takeWhile_append_of_pos hpos, List.takeWhile_cons_of_neg (by simp [hd']),
          List.append_nil]
      · rw [hst, List.dropWhile_append_of_pos hpos, List.dropWhile_cons_of_neg (by simp [hd']), hd]
        rfl
    exact ⟨(key y).1, (key y).2, (key _).1, (key _).2⟩

/-- The line is never the end of a self-closing tag. -/
lemma Inert.selfClosing {line : Text} (h : Inert line) {name a b : Text}
    (hself : (OpenTag.ofParts name (a ++ (line ++ b))).selfClosing = true) :
    (OpenTag.ofParts name (a ++ b)).selfClosing = true := by
  simp only [OpenTag.ofParts, decide_eq_true_eq] at hself ⊢
  cases hb : b with
  | nil =>
      rw [hb, List.append_nil, List.getLast?_append_of_ne_nil a h.ne_nil] at hself
      exact absurd rfl (h.last _ hself).2
  | cons c b' =>
      rw [← List.append_assoc, List.getLast?_append_of_ne_nil _ (by simp [hb])] at hself
      rw [← hb, List.getLast?_append_of_ne_nil _ (by simp [hb])]
      exact hself

/-- Reading an opening tag across a seam: it fails before and after, it ends before the seam, or it
goes on beyond and takes in the line. -/
lemma OpenTag.read?_graft {s line y : Text} (h : Seam ('<' :: s) line y) (hline : Inert line) :
    (OpenTag.read? ('<' :: (s ++ y)) = none ∧ OpenTag.read? ('<' :: (s ++ (line ++ y))) = none)
      ∨ (∃ tag, OpenTag.read? ('<' :: (s ++ y)) = some tag
        ∧ OpenTag.read? ('<' :: (s ++ (line ++ y))) = some tag ∧ tag.text <+: '<' :: s)
      ∨ ∃ tag tag' z v, y = z ++ v ∧ OpenTag.read? ('<' :: (s ++ y)) = some tag
        ∧ OpenTag.read? ('<' :: (s ++ (line ++ y))) = some tag'
        ∧ tag.text = '<' :: (s ++ z) ∧ tag'.text = '<' :: (s ++ (line ++ z))
        ∧ tag'.name = tag.name ∧ (tag'.selfClosing = true → tag.selfClosing = true) := by
  obtain ⟨htake, hdrop, htake', hdrop'⟩ := h.takeWhile_name
  rw [OpenTag.read?_cons, OpenTag.read?_cons, htake, hdrop, htake', hdrop']
  by_cases hempty : (List.takeWhile isNameChar s).isEmpty = true
  · exact .inl (by simp [hempty])
  rw [if_neg hempty, if_neg hempty]
  have hs : ∀ t, List.takeWhile isNameChar s ++ (List.dropWhile isNameChar s ++ t) = s ++ t := by
    intro t
    rw [← List.append_assoc, List.takeWhile_append_dropWhile]
  rcases tagBody?_append (List.dropWhile isNameChar s) (.inl rfl : IsQuoteState none) with
    ⟨body, hbody, hall⟩ | hnone | ⟨q, hq, hgo⟩
  · obtain ⟨rest, hrest⟩ := tagBody?_eq_some hbody
    refine .inr (.inl ⟨.ofParts (List.takeWhile isNameChar s) body, ?_, ?_, rest, ?_⟩)
    · rw [hall]
      rfl
    · rw [hall]
      rfl
    · have := hs []
      rw [hrest] at this
      simpa [OpenTag.ofParts] using this
  · exact .inl ⟨by rw [hnone]; rfl, by rw [hnone]; rfl⟩
  · rw [hgo, hgo, hline.tagBody? hq]
    cases hbody : tagBody? q y with
    | none => exact .inl ⟨rfl, rfl⟩
    | some b =>
        obtain ⟨v, hv⟩ := tagBody?_eq_some hbody
        refine .inr (.inr ⟨_, _, b ++ ['>'], v, by simp [hv], rfl, rfl, ?_, ?_, rfl,
          fun hself => hline.selfClosing hself⟩)
        · simp [OpenTag.ofParts, hs]
        · simp [OpenTag.ofParts, hs]

/-- Whether a tag has the given name is settled before the seam, unless the name ends there and a
tag follows, in which case there is no tag to be read. -/
lemma Seam.opensTag {name s line y : Text} (hname : ∀ c ∈ name, isNameChar c = true)
    (h : Seam ('<' :: s) line y) (hline : Inert line) :
    Markup.opensTag name ('<' :: (s ++ (line ++ y))) = Markup.opensTag name ('<' :: (s ++ y))
      ∨ OpenTag.read? ('<' :: (s ++ y)) = none
        ∧ OpenTag.read? ('<' :: (s ++ (line ++ y))) = none := by
  -- the name itself is not cut
  have huncut : ∀ n, sameName name n = true →
      ('<' :: n <+: '<' :: s ++ y → '<' :: n <+: '<' :: s)
        ∧ ('<' :: n <+: '<' :: s ++ (line ++ y) → '<' :: n <+: '<' :: s) := by
    intro n hn
    have hn' := isNameChar_of_sameName hname hn
    refine h.not_cut ?_ fun c hc => isNameChar_ne (hn' c hc)
    intro c hc
    rcases List.mem_cons.mp (List.mem_of_mem_dropLast hc) with rfl | hc
    · exact .inr (.inl rfl)
    · exact .inl (hn' c hc)
  -- a name that ends at the seam
  have hend : ∀ n, sameName name n = true → s = n →
      (∃ rest, line = '\n' :: rest)
        ∧ ∃ d rest, y = d :: rest ∧ (d = '<' ∨ isMarkupBlank d = true) := by
    rintro n hn rfl
    cases h with
    | behind c hlast hc =>
        rcases List.mem_cons.mp (List.mem_of_getLast? hlast) with rfl | hmem
        · exact absurd (.inr (.inl rfl)) hc
        · exact absurd (.inl (isNameChar_of_sameName hname hn c hmem)) hc
    | newLine _ hl hy => exact ⟨hl, hy⟩
  by_cases hopen : Markup.opensTag name ('<' :: (s ++ (line ++ y))) = true
  · obtain ⟨n, c, rest, hs, hn, hc⟩ := opensTag_iff.mp hopen
    obtain ⟨v, hv⟩ := (huncut n hn).2 ⟨c :: rest, by simpa using hs.symm⟩
    obtain rfl : n ++ v = s := by simpa using hv
    cases v with
    | cons d v =>
        obtain ⟨rfl, -⟩ : d = c ∧ _ := by simpa using hs
        exact .inl (hopen.trans (opensTag_iff.mpr ⟨n, d, v ++ y, by simp, hn, hc⟩).symm)
    | nil =>
        obtain ⟨-, d, z, rfl, hd⟩ := hend n hn (by simp)
        rcases hd with rfl | hd
        · right
          rcases OpenTag.read?_graft h hline with
            hnone | ⟨tag, hold, -, hpre⟩ | ⟨tag, tag', z', v', -, hold, -⟩
          · exact hnone
          all_goals
            -- after the name comes a bracket that no tag can hold
            exfalso
            have hn' := isNameChar_of_sameName hname hn
            rw [OpenTag.read?_cons, List.append_nil, List.dropWhile_append_of_pos hn',
              List.dropWhile_cons_of_neg (by decide)] at hold
            simp [tagBody?] at hold
        · exact .inl (hopen.trans (opensTag_iff.mpr ⟨n, d, z, by simp, hn, .inl hd⟩).symm)
  · left
    rw [Bool.eq_false_iff.mpr hopen]
    symm
    rw [Bool.eq_false_iff]
    intro hold
    obtain ⟨n, c, rest, hs, hn, hc⟩ := opensTag_iff.mp hold
    obtain ⟨v, hv⟩ := (huncut n hn).1 ⟨c :: rest, by simpa using hs.symm⟩
    obtain rfl : n ++ v = s := by simpa using hv
    refine hopen (opensTag_iff.mpr ?_)
    cases v with
    | cons d v =>
        obtain ⟨rfl, -⟩ : d = c ∧ _ := by simpa using hs
        exact ⟨n, d, v ++ (line ++ y), by simp, hn, hc⟩
    | nil =>
        obtain ⟨⟨z, rfl⟩, -⟩ := hend n hn (by simp)
        exact ⟨n, '\n', z ++ y, by simp, hn, .inl (by decide)⟩

/-- Reading an opening tag of the given name across a seam. -/
lemma sameOpen?_graft {name s line y : Text} (hname : ∀ c ∈ name, isNameChar c = true)
    (h : Seam ('<' :: s) line y) (hline : Inert line) :
    (sameOpen? name ('<' :: (s ++ y)) = none ∧ sameOpen? name ('<' :: (s ++ (line ++ y))) = none)
      ∨ (∃ tag, sameOpen? name ('<' :: (s ++ y)) = some tag
        ∧ sameOpen? name ('<' :: (s ++ (line ++ y))) = some tag ∧ tag.text <+: '<' :: s)
      ∨ ∃ tag tag' z v, y = z ++ v ∧ sameOpen? name ('<' :: (s ++ y)) = some tag
        ∧ sameOpen? name ('<' :: (s ++ (line ++ y))) = some tag'
        ∧ tag.text = '<' :: (s ++ z) ∧ tag'.text = '<' :: (s ++ (line ++ z))
        ∧ (tag'.selfClosing = true → tag.selfClosing = true) := by
  rcases h.opensTag hname hline with hsame | ⟨hold, hnew⟩
  · rw [sameOpen?, sameOpen?, hsame]
    by_cases hopen : opensTag name ('<' :: (s ++ y)) = true
    · rw [if_pos hopen, if_pos hopen]
      rcases OpenTag.read?_graft h hline with
        hnone | hin | ⟨tag, tag', z, v, hy, h1, h2, h3, h4, -, h5⟩
      · exact .inl hnone
      · exact .inr (.inl hin)
      · exact .inr (.inr ⟨tag, tag', z, v, hy, h1, h2, h3, h4, h5⟩)
    · exact .inl (by simp [hopen])
  · left
    simp [sameOpen?, hold, hnew]

/-! ### Searching for a close tag -/

/-- With more elements open, a search fails all the more. -/
lemma balancedClose?_deeper {name : Text} {depth depth' passed : Nat} {s : Text}
    (hd : depth ≤ depth') (h : balancedClose? name depth passed s = none) :
    balancedClose? name depth' passed s = none := by
  induction s generalizing depth depth' passed with
  | nil => cases passed <;> rfl
  | cons c cs ih =>
      cases passed with
      | succ passed =>
          rw [balancedClose?, Option.map_eq_none_iff] at h ⊢
          exact ih hd h
      | zero =>
          rw [balancedClose?_cons] at h ⊢
          split_ifs at h ⊢ with hcomment
          · cases hread : Markup.comment? (c :: cs) with
            | none => rfl
            | some t =>
                simp only [hread, Option.map_eq_none_iff] at h ⊢
                exact ih hd h
          · cases hclose : closeTag? name (c :: cs) with
            | some tag =>
                cases depth with
                | zero => simp [hclose] at h
                | succ depth =>
                    obtain ⟨deeper, rfl⟩ : ∃ k, depth' = k + 1 := ⟨depth' - 1, by omega⟩
                    simp only [hclose, Option.map_eq_none_iff] at h ⊢
                    exact ih (by omega) h
            | none =>
                cases hopen : sameOpen? name (c :: cs) with
                | none =>
                    simp only [hclose, hopen, Option.map_eq_none_iff] at h ⊢
                    exact ih hd h
                | some tag =>
                    simp only [hclose, hopen, Option.map_eq_none_iff] at h ⊢
                    refine ih ?_ h
                    split_ifs <;> omega

/-- What a search for a close tag does with the text before a seam, with and without the line.
It fails; it reads a construct before the seam, which may open elements or close one; or it leaves
`s` with a construct that reaches beyond the seam. A close tag of that kind is lost. -/
inductive Crossing (name s line y : Text) : Prop where
  | stops (hold : ∀ d, balancedClose? name d 0 (s ++ y) = none)
      (hnew : ∀ d, balancedClose? name d 0 (s ++ (line ++ y)) = none)
  | reads (t v : Text) (more : Nat) (hs : s = t ++ v) (ht : t ≠ [])
      (hold : ∀ d, balancedClose? name d 0 (s ++ y)
        = (balancedClose? name (d + more) 0 (v ++ y)).map (Closing.prepend t))
      (hnew : ∀ d, balancedClose? name d 0 (s ++ (line ++ y))
        = (balancedClose? name (d + more) 0 (v ++ (line ++ y))).map (Closing.prepend t))
  | closes (t v : Text) (hs : s = t ++ v) (ht : t ≠ [])
      (hold : balancedClose? name 0 0 (s ++ y) = some ⟨[], t⟩)
      (hnew : balancedClose? name 0 0 (s ++ (line ++ y)) = some ⟨[], t⟩)
      (hold' : ∀ d, balancedClose? name (d + 1) 0 (s ++ y)
        = (balancedClose? name d 0 (v ++ y)).map (Closing.prepend t))
      (hnew' : ∀ d, balancedClose? name (d + 1) 0 (s ++ (line ++ y))
        = (balancedClose? name d 0 (v ++ (line ++ y))).map (Closing.prepend t))
  | leaves (z v : Text) (more more' : Nat) (hy : y = z ++ v) (hmore : more ≤ more')
      (hold : ∀ d, balancedClose? name d 0 (s ++ y)
        = (balancedClose? name (d + more) 0 v).map (Closing.prepend (s ++ z)))
      (hnew : ∀ d, balancedClose? name d 0 (s ++ (line ++ y))
        = (balancedClose? name (d + more') 0 v).map (Closing.prepend (s ++ (line ++ z))))
  | loses (z v : Text) (hy : y = z ++ v) (hz : z ≠ [])
      (hold : balancedClose? name 0 0 (s ++ y) = some ⟨[], s ++ z⟩)
      (hold' : ∀ d, balancedClose? name (d + 1) 0 (s ++ y)
        = (balancedClose? name d 0 v).map (Closing.prepend (s ++ z)))
      (hnew : ∀ d, balancedClose? name d 0 (s ++ (line ++ y))
        = (balancedClose? name d 0 v).map (Closing.prepend (s ++ (line ++ z))))

section Crossing

variable {name s line y : Text}

lemma crossing_of_comment (h : Seam s line y) (hline : Inert line)
    (hopen : opensComment (s ++ y) = true) : Crossing name s line y := by
  have hopen' : opensComment (s ++ (line ++ y)) = true := h.opensComment.trans hopen
  rcases h.comment? hline with ⟨t, hold, hnew, v, rfl⟩ | ⟨hold, hnew⟩
  · have ht : t ≠ [] := List.length_pos_iff.mp (length_pos_of_through? (by simp) hold)
    exact .reads t v 0 rfl ht
      (fun d => balancedClose?_comment hopen hold (by simp))
      (fun d => balancedClose?_comment hopen' hnew (by simp))
  · cases hread : comment? y with
    | none =>
        rw [hread] at hold hnew
        exact .stops (fun d => balancedClose?_endless hopen hold)
          (fun d => balancedClose?_endless hopen' hnew)
    | some z =>
        rw [hread] at hold hnew
        obtain ⟨v, rfl⟩ := through?_eq_some hread
        exact .leaves z v 0 0 rfl le_rfl
          (fun d => balancedClose?_comment hopen hold (by simp))
          (fun d => balancedClose?_comment hopen' (by simpa using hnew) (by simp))

lemma crossing_of_close {tag : Text} (hname : ∀ c ∈ name, isNameChar c = true)
    (h : Seam s line y) (hline : Inert line) (hopen : opensComment (s ++ y) = false)
    (hread : closeTag? name (s ++ y) = some tag) : Crossing name s line y := by
  have hopen' : opensComment (s ++ (line ++ y)) = false := h.opensComment.trans hopen
  obtain ⟨rest, hrest⟩ := closeTag?_text hread
  have hpre : tag <+: s ++ y := ⟨rest, hrest.symm⟩
  rcases prefix_append_cases hpre with ⟨v, rfl⟩ | ⟨z, hz, rfl, hzy⟩
  · have ht : tag ≠ [] := List.length_pos_iff.mp (length_pos_of_closeTag? hread)
    have hread' : closeTag? name (tag ++ v ++ (line ++ y)) = some tag := by
      rw [List.append_assoc]
      exact closeTag?_tag_append hread _
    exact .closes tag v rfl ht (balancedClose?_close_zero hopen hread)
      (balancedClose?_close_zero hopen' hread')
      (fun d => balancedClose?_close_succ hopen hread (by simp))
      (fun d => balancedClose?_close_succ hopen' hread' (by simp))
  · obtain ⟨v, rfl⟩ := hzy
    refine .loses z v rfl hz (balancedClose?_close_zero hopen hread)
      (fun d => balancedClose?_close_succ hopen hread (by simp)) fun d => ?_
    -- without its end the close tag is text
    obtain ⟨n, blanks, -, -, hn, hblanks, htag⟩ := closeTag?_eq_some hread
    obtain ⟨c, s, rfl⟩ := List.exists_cons_of_ne_nil h.ne_nil
    obtain ⟨rfl, htail⟩ : c = '<' ∧ s ++ z = '/' :: (n ++ (blanks ++ ['>'])) := by simpa using htag
    have hclose' : closeTag? name ('<' :: s ++ (line ++ (z ++ v))) = none := by
      rw [Option.eq_none_iff_forall_ne_some]
      intro tag' htag'
      have hin := closeTag?_graft hname hline htag'
      obtain ⟨w, hw⟩ := hin
      have hread' : closeTag? name ('<' :: s ++ (z ++ v)) = some tag' := by
        rw [← hw, List.append_assoc]
        exact closeTag?_tag_append htag' _
      obtain rfl : '<' :: s ++ z = tag' := Option.some.inj (hread.symm.trans hread')
      have hlen := congrArg List.length hw
      have := List.length_pos_iff.mpr hz
      simp only [List.length_append, List.length_cons] at hlen
      omega
    have hsame' : sameOpen? name ('<' :: (s ++ (line ++ (z ++ v)))) = none := by
      have hno : OpenTag.read? ('<' :: (s ++ (z ++ v))) = none := by
        rw [OpenTag.read?_cons, ← List.append_assoc, htail]
        rfl
      rcases OpenTag.read?_graft h hline with
        ⟨-, hnone⟩ | ⟨tag', hsome, -⟩ | ⟨tag', -, -, -, -, hsome, -⟩
      · simp [sameOpen?, hnone]
      · rw [hno] at hsome
        cases hsome
      · rw [hno] at hsome
        cases hsome
    have hlt : '<' ∉ s ++ z := by
      rw [htail]
      simp only [List.mem_cons, List.mem_append, List.not_mem_nil, or_false, not_or]
      refine ⟨by decide, fun hc => ?_, fun hc => ?_, by decide⟩
      · exact (isNameChar_ne (isNameChar_of_sameName hname hn _ hc)).1 rfl
      · exact absurd (hblanks _ hc) (by decide)
    have hlt' : '<' ∉ s ++ (line ++ z) := by
      simp only [List.mem_append, not_or] at hlt ⊢
      exact ⟨hlt.1, hline.lt_notMem, hlt.2⟩
    have hassoc : s ++ (line ++ (z ++ v)) = s ++ (line ++ z) ++ v := by simp
    rw [List.cons_append] at hopen' hclose' ⊢
    rw [balancedClose?_plain hopen' hclose' hsame', hassoc, balancedClose?_text name d hlt',
      Closing.map_prepend_prepend]
    rfl

/-- A search crosses every seam in one of these ways. -/
lemma crossing (hname : ∀ c ∈ name, isNameChar c = true) (h : Seam s line y) (hline : Inert line) :
    Crossing name s line y := by
  cases hopen : opensComment (s ++ y) with
  | true => exact crossing_of_comment h hline hopen
  | false =>
      cases hclose : closeTag? name (s ++ y) with
      | some tag => exact crossing_of_close hname h hline hopen hclose
      | none =>
          have hopen' : opensComment (s ++ (line ++ y)) = false := h.opensComment.trans hopen
          have hclose' : closeTag? name (s ++ (line ++ y)) = none := by
            rw [Option.eq_none_iff_forall_ne_some]
            intro tag htag
            obtain ⟨v, rfl⟩ := closeTag?_graft hname hline htag
            rw [List.append_assoc, closeTag?_tag_append htag] at hclose
            cases hclose
          obtain ⟨c, s, rfl⟩ := List.exists_cons_of_ne_nil h.ne_nil
          rw [List.cons_append] at hopen hopen' hclose hclose'
          by_cases hc : c = '<'
          · subst hc
            rcases sameOpen?_graft hname h hline with ⟨hold, hnew⟩ | ⟨tag, hold, hnew, v, hv⟩
              | ⟨tag, tag', z, v, rfl, hold, hnew, htext, htext', hself⟩
            · exact .reads ['<'] s 0 rfl (by simp) (fun d => balancedClose?_plain hopen hclose hold)
                (fun d => balancedClose?_plain hopen' hclose' hnew)
            · have hne : tag.text ≠ [] := by
                obtain ⟨n, body, rest, -, -, -, rfl, -⟩ :=
                  OpenTag.read?_eq_some (read?_of_sameOpen? hold)
                simp [OpenTag.ofParts]
              have happ : ∀ t, '<' :: (s ++ t) = tag.text ++ (v ++ t) := fun t => by
                rw [← List.append_assoc, hv, List.cons_append]
              refine .reads tag.text v (if tag.selfClosing then 0 else 1) hv.symm hne
                (fun d => ?_) fun d => ?_
              · rw [List.cons_append, balancedClose?_open hopen hclose hold (happ y)]
                cases tag.selfClosing <;> rfl
              · rw [List.cons_append, balancedClose?_open hopen' hclose' hnew (happ _)]
                cases tag.selfClosing <;> rfl
            · refine .leaves z v (if tag.selfClosing then 0 else 1)
                (if tag'.selfClosing then 0 else 1) rfl ?_ (fun d => ?_) fun d => ?_
              · cases hs' : tag'.selfClosing with
                | true => rw [hself hs']
                | false => cases tag.selfClosing <;> simp
              · rw [List.cons_append,
                  balancedClose?_open (v := v) hopen hclose hold (by simp [htext]),
                  htext]
                cases tag.selfClosing <;> rfl
              · rw [List.cons_append, balancedClose?_open (v := v) hopen' hclose' hnew
                  (by simp [htext']), htext']
                cases tag'.selfClosing <;> rfl
          · exact .reads [c] s 0 rfl (by simp)
              (fun d => balancedClose?_plain hopen hclose (sameOpen?_eq_none hc _))
              (fun d => balancedClose?_plain hopen' hclose' (sameOpen?_eq_none hc _))

/-- A search for a close tag that fails does not succeed with the line. -/
lemma balancedClose?_graft_none (hname : ∀ c ∈ name, isNameChar c = true) (hline : Inert line)
    {depth depth' : Nat} (hd : depth ≤ depth') (h : s ≠ [] → Seam s line y)
    (hold : balancedClose? name depth 0 (s ++ y) = none) :
    balancedClose? name depth' 0 (s ++ (line ++ y)) = none := by
  induction hlen : s.length using Nat.strong_induction_on generalizing s depth depth' with
  | _ k ih =>
      by_cases hs : s = []
      · subst hs
        rw [List.nil_append, balancedClose?_text name depth' hline.lt_notMem,
          Option.map_eq_none_iff]
        exact balancedClose?_deeper hd hold
      have hrest : ∀ {t v : Text}, s = t ++ v → t ≠ [] →
          v.length < k ∧ (v ≠ [] → Seam v line y) := by
        rintro t v rfl ht
        have := List.length_pos_iff.mpr ht
        rw [List.length_append] at hlen
        exact ⟨by omega, (h hs).of_append⟩
      cases crossing hname (h hs) hline with
      | stops _ hnew => exact hnew depth'
      | reads t v more hsv ht hold' hnew =>
          rw [hold', Option.map_eq_none_iff] at hold
          rw [hnew, Option.map_eq_none_iff]
          exact ih _ (hrest hsv ht).1 (by omega) (hrest hsv ht).2 hold rfl
      | closes t v hsv ht hzero _ hsucc hnew =>
          cases depth with
          | zero => simp [hzero] at hold
          | succ depth =>
              obtain ⟨deeper, rfl⟩ : ∃ k, depth' = k + 1 := ⟨depth' - 1, by omega⟩
              rw [hsucc, Option.map_eq_none_iff] at hold
              rw [hnew, Option.map_eq_none_iff]
              exact ih _ (hrest hsv ht).1 (by omega) (hrest hsv ht).2 hold rfl
      | leaves z v more more' _ hmore hold' hnew =>
          rw [hold', Option.map_eq_none_iff] at hold
          rw [hnew, Option.map_eq_none_iff]
          exact balancedClose?_deeper (by omega) hold
      | loses z v _ _ hzero hsucc hnew =>
          cases depth with
          | zero => simp [hzero] at hold
          | succ depth =>
              rw [hsucc, Option.map_eq_none_iff] at hold
              rw [hnew, Option.map_eq_none_iff]
              exact balancedClose?_deeper (by omega) hold

/-- A search that ends before the seam ends at the same place with the line. -/
lemma balancedClose?_graft_some (hname : ∀ c ∈ name, isNameChar c = true) (hline : Inert line)
    {depth : Nat} {closing : Closing} (h : Seam s line y)
    (hold : balancedClose? name depth 0 (s ++ y) = some closing)
    (hin : closing.content ++ closing.tag <+: s) :
    balancedClose? name depth 0 (s ++ (line ++ y)) = some closing := by
  induction hlen : s.length using Nat.strong_induction_on generalizing s depth closing with
  | _ k ih =>
      -- after a construct `t` before the seam
      have hrest : ∀ (later : Closing) {t v : Text}, s = t ++ v → t ≠ [] →
          balancedClose? name depth 0 (s ++ y) = some (later.prepend t) →
          closing = later.prepend t ∧ v.length < k ∧ later.content ++ later.tag <+: v
            ∧ Seam v line y := by
        rintro later t v rfl ht hlater
        obtain rfl : closing = later.prepend t := Option.some.inj (hold.symm.trans hlater)
        have hpos := List.length_pos_iff.mpr ht
        have hpre : later.content ++ later.tag <+: v := by
          rw [Closing.prepend, List.append_assoc] at hin
          exact (List.prefix_append_right_inj t).mp hin
        have htag : 0 < later.tag.length := by
          obtain ⟨w, -, hw⟩ := balancedClose?_eq_some hold
          exact length_pos_of_closeTag? hw
        have hv : v ≠ [] := by
          rintro rfl
          have := hpre.length_le
          simp only [List.length_append, List.length_nil] at this
          omega
        rw [List.length_append] at hlen
        exact ⟨rfl, by omega, hpre, h.of_append hv⟩
      -- a construct that reaches beyond the seam is too long
      have hbeyond : ∀ (z : Text) (later : Closing),
          balancedClose? name depth 0 (s ++ y) = some (later.prepend (s ++ z)) → False := by
        intro z later hlater
        obtain rfl : closing = later.prepend (s ++ z) := Option.some.inj (hold.symm.trans hlater)
        have htag : 0 < later.tag.length := by
          obtain ⟨w, -, hw⟩ := balancedClose?_eq_some hold
          exact length_pos_of_closeTag? hw
        have := hin.length_le
        simp only [Closing.prepend, List.length_append] at this
        omega
      cases crossing hname h hline with
      | stops hnone => simp [hnone] at hold
      | reads t v more hsv ht hold' hnew =>
          rw [hold'] at hold
          obtain ⟨later, hlater, -⟩ := Option.map_eq_some_iff.mp hold
          obtain ⟨rfl, hlt, hpre, hseam⟩ := hrest later hsv ht (by rw [hold', hlater]; rfl)
          rw [hnew, ih _ hlt hseam hlater hpre rfl]
          rfl
      | closes t v hsv ht hzero hzero' hsucc hnew =>
          cases depth with
          | zero => rw [hzero', ← hzero, hold]
          | succ depth =>
              rw [hsucc] at hold
              obtain ⟨later, hlater, -⟩ := Option.map_eq_some_iff.mp hold
              obtain ⟨rfl, hlt, hpre, hseam⟩ :=
                hrest later hsv ht (by rw [hsucc, hlater]; rfl)
              rw [hnew, ih _ hlt hseam hlater hpre rfl]
              rfl
      | leaves z v more more' _ _ hold' _ =>
          rw [hold'] at hold
          obtain ⟨later, hlater, -⟩ := Option.map_eq_some_iff.mp hold
          exact (hbeyond z later (by rw [hold', hlater]; rfl)).elim
      | loses z v _ hz hzero hsucc _ =>
          cases depth with
          | zero =>
              obtain rfl : closing = ⟨[], s ++ z⟩ := Option.some.inj (hold.symm.trans hzero)
              have := hin.length_le
              have := List.length_pos_iff.mpr hz
              simp only [List.nil_append, List.length_append] at *
              omega
          | succ depth =>
              rw [hsucc] at hold
              obtain ⟨later, hlater, -⟩ := Option.map_eq_some_iff.mp hold
              exact (hbeyond z later (by rw [hsucc, hlater]; rfl)).elim

end Crossing

lemma suffix_append_cases {w a b : Text} (h : w <:+ a ++ b) :
    w <:+ b ∨ ∃ u, u ≠ [] ∧ w = u ++ b ∧ u <:+ a := by
  obtain ⟨t, ht⟩ := h
  rcases List.append_eq_append_iff.mp ht with ⟨u, rfl, rfl⟩ | ⟨u, rfl, rfl⟩
  · by_cases hu : u = []
    · subst hu
      exact .inl (by simp)
    · exact .inr ⟨u, hu, rfl, List.suffix_append _ _⟩
  · exact .inl (List.suffix_append _ _)

section Raw

variable {name line : Text} (hname : ∀ c ∈ name, isNameChar c = true) (hline : Inert line)

include hname hline

/-- A text in which no close tag begins is of that kind with the line as well. -/
lemma closeTag?_graft_none {a b v : Text}
    (h : ∀ w, w ≠ [] → w <:+ a ++ b → closeTag? name (w ++ v) = none) :
    ∀ w, w ≠ [] → w <:+ a ++ (line ++ b) → closeTag? name (w ++ v) = none := by
  intro w hw hs
  rcases suffix_append_cases hs with hs | ⟨u, hu, rfl, hua⟩
  · rcases suffix_append_cases hs with hs | ⟨u, hu, rfl, hul⟩
    · exact h w hw (hs.trans (List.suffix_append _ _))
    · obtain ⟨c, u, rfl⟩ := List.exists_cons_of_ne_nil hu
      have hc : c ≠ '<' := (hline.mem (hul.subset List.mem_cons_self)).1
      exact closeTag?_eq_none hc _
  · rw [Option.eq_none_iff_forall_ne_some]
    intro tag htag
    rw [List.append_assoc, List.append_assoc] at htag
    obtain ⟨z, rfl⟩ := closeTag?_graft hname hline htag
    obtain ⟨t, rfl⟩ := hua
    have hold := h (tag ++ z ++ b) (List.append_ne_nil_of_left_ne_nil hu b) ⟨t, by simp⟩
    rw [List.append_assoc, List.append_assoc, closeTag?_tag_append htag] at hold
    cases hold

lemma firstClose?_graft_none {s y : Text} (h : firstClose? name (s ++ y) = none) :
    firstClose? name (s ++ (line ++ y)) = none := by
  rw [firstClose?_eq_none_iff] at h ⊢
  have hold : ∀ w, w ≠ [] → w <:+ s ++ y → closeTag? name (w ++ []) = none := by
    simpa using h
  simpa using closeTag?_graft_none hname hline hold

/-- A close tag before the line stays the first one. -/
lemma firstClose?_graft_some {s y : Text} {closing : Closing}
    (h : firstClose? name (s ++ y) = some closing) (hin : closing.content ++ closing.tag <+: s) :
    firstClose? name (s ++ (line ++ y)) = some closing := by
  obtain ⟨v, hv, htag, hbefore⟩ := firstClose?_eq_some h
  obtain ⟨w, rfl⟩ := hin
  obtain rfl : v = closing.tag ++ (w ++ y) := by simpa using hv.symm
  rw [List.append_assoc, List.append_assoc, firstClose?_append name]
  · rw [firstClose?_of_closeTag? (closeTag?_tag_append htag _)]
    simp [Closing.prepend]
  · intro u hu hs
    rw [Option.eq_none_iff_forall_ne_some]
    intro tag' htag'
    have hassoc : ∀ t, u ++ (closing.tag ++ (w ++ t)) = u ++ (closing.tag ++ w) ++ t := by simp
    rw [hassoc] at htag'
    obtain ⟨z, hz⟩ := closeTag?_graft hname hline htag'
    have hold := hbefore u hu hs
    rw [hassoc, ← hz, List.append_assoc, closeTag?_tag_append htag'] at hold
    cases hold

/-- The line becomes part of the content if it is put there. -/
lemma firstClose?_graft_content {a b v tag : Text}
    (h : firstClose? name (a ++ (b ++ v)) = some ⟨a ++ b, tag⟩) :
    firstClose? name (a ++ (line ++ (b ++ v))) = some ⟨a ++ (line ++ b), tag⟩ := by
  obtain ⟨v', hv, htag, hbefore⟩ := firstClose?_eq_some h
  obtain rfl : v = v' := by simpa using hv
  have hassoc : a ++ (line ++ (b ++ v)) = a ++ (line ++ b) ++ v := by simp
  rw [hassoc, firstClose?_append name v (closeTag?_graft_none hname hline hbefore),
    firstClose?_of_closeTag? htag]
  simp [Closing.prepend]

end Raw

/-! ### Constructs -/

section Constructs

variable {s line y : Text}

/-- An element that is never closed is not closed with the line either. -/
lemma closing?_graft_none {tag : OpenTag} (hname : ∀ c ∈ tag.name, isNameChar c = true)
    (hline : Inert line) (h : s ≠ [] → Seam s line y) (hold : closing? tag (s ++ y) = none) :
    closing? tag (s ++ (line ++ y)) = none := by
  rw [closing?] at hold ⊢
  split_ifs at hold ⊢ with hself hraw
  · exact firstClose?_graft_none hname hline hold
  · exact balancedClose?_graft_none hname hline le_rfl h hold

/-- An element that closes before the seam closes there with the line as well. -/
lemma closing?_graft_some {tag : OpenTag} {closing : Closing}
    (hname : ∀ c ∈ tag.name, isNameChar c = true) (hline : Inert line) (h : s ≠ [] → Seam s line y)
    (hold : closing? tag (s ++ y) = some closing) (hin : closing.content ++ closing.tag <+: s) :
    closing? tag (s ++ (line ++ y)) = some closing := by
  rw [closing?] at hold ⊢
  split_ifs at hold ⊢ with hself hraw
  · exact hold
  · exact firstClose?_graft_some hname hline hold hin
  · refine balancedClose?_graft_some hname hline (h ?_) hold hin
    rintro rfl
    obtain ⟨v, -, htag⟩ := balancedClose?_eq_some hold
    have := length_pos_of_closeTag? htag
    have := hin.length_le
    simp only [List.length_append, List.length_nil] at this
    omega

/-- Asides and elements begin at the same places as before. -/
lemma Seam.opens (h : Seam s line y) :
    opensAside (s ++ (line ++ y)) = opensAside (s ++ y)
      ∧ opensElement (s ++ (line ++ y)) = opensElement (s ++ y) := by
  obtain ⟨c, s, rfl⟩ := List.exists_cons_of_ne_nil h.ne_nil
  by_cases hc : c = '<'
  · subst hc
    cases s with
    | cons d s => exact ⟨rfl, rfl⟩
    | nil =>
        cases h with
        | behind c hlast hc =>
            obtain rfl : '<' = c := by simpa using hlast
            exact absurd (.inr (.inl rfl)) hc
        | newLine _ hl hy =>
            obtain ⟨rest, rfl⟩ := hl
            obtain ⟨d, z, rfl, hd⟩ := hy
            rcases hd with rfl | hd
            · exact ⟨rfl, rfl⟩
            · simp only [isMarkupBlank, Bool.or_eq_true, decide_eq_true_eq] at hd
              rcases hd with (((rfl | rfl) | rfl) | rfl) | rfl <;> exact ⟨rfl, rfl⟩
  · simp [opensAside, opensElement, hc]

lemma tag_name_isNameChar {t : Text} {tag : OpenTag} (h : OpenTag.read? t = some tag) :
    ∀ c ∈ tag.name, isNameChar c = true := by
  obtain ⟨name, body, rest, -, -, hname, rfl, -⟩ := OpenTag.read?_eq_some h
  exact hname

/-- What was text before the seam is text with the line. -/
lemma Construct.read_graft_plain (h : Seam s line y) (hline : Inert line)
    (hold : Construct.read (s ++ y) = .plain) : Construct.read (s ++ (line ++ y)) = .plain := by
  obtain ⟨haside, helement⟩ := h.opens
  rw [Construct.read] at hold ⊢
  rw [h.opensComment, haside, helement]
  split_ifs at hold ⊢ with h1 h2 h3
  · cases hread : Markup.comment? (s ++ y) <;> simp [hread, Construct.ofAside?] at hold
  · cases hread : aside? (s ++ y) <;> simp [hread, Construct.ofAside?] at hold
  · obtain ⟨c, s, rfl⟩ := List.exists_cons_of_ne_nil h.ne_nil
    obtain rfl : c = '<' := by
      by_contra hc
      simp [opensElement, hc] at h3
    rw [Construct.ofElement] at hold ⊢
    simp only [List.cons_append] at hold ⊢
    rcases OpenTag.read?_graft h hline with ⟨-, hnew⟩ | ⟨tag, hread, hread', v, hv⟩
      | ⟨tag, tag', z, v, rfl, hread, hread', htext, htext', hsame, hself⟩
    · rw [hnew]
    · -- the tag ends before the seam, and its element does not close
      have happ : ∀ t, ('<' :: (s ++ t)).drop tag.text.length = v ++ t := by
        intro t
        rw [show '<' :: (s ++ t) = tag.text ++ (v ++ t) by rw [← List.append_assoc, hv]; rfl,
          List.drop_left]
      simp only [hread, hread', happ] at hold ⊢
      cases hclose : closing? tag (v ++ y) with
      | some closing => simp [hclose] at hold
      | none =>
          have hseam : v ≠ [] → Seam v line y := by
            intro hne
            rw [← hv] at h
            exact h.of_append hne
          rw [closing?_graft_none (tag_name_isNameChar hread) hline hseam hclose]
    · -- the tag reaches beyond the seam, and what follows it is as before
      have hdrop : ('<' :: (s ++ (z ++ v))).drop tag.text.length = v := by
        rw [show '<' :: (s ++ (z ++ v)) = tag.text ++ v by simp [htext], List.drop_left]
      have hdrop' : ('<' :: (s ++ (line ++ (z ++ v)))).drop tag'.text.length = v := by
        rw [show '<' :: (s ++ (line ++ (z ++ v))) = tag'.text ++ v by simp [htext'], List.drop_left]
      simp only [hread, hread', hdrop, hdrop'] at hold ⊢
      cases hclose : closing? tag v with
      | some closing => simp [hclose] at hold
      | none =>
          have hself' : tag.selfClosing = false := by
            rw [Bool.eq_false_iff]
            intro hs
            simp [closing?, hs] at hclose
          have hself'' : tag'.selfClosing = false := by
            rw [Bool.eq_false_iff]
            intro hs
            rw [hself hs] at hself'
            cases hself'
          have hsame' : closing? tag' v = closing? tag v := by
            rw [closing?, closing?, hself', hself'', hsame]
          rw [hsame', hclose]
  · rfl

/-- A mark that was found before the seam is found there with the line. -/
lemma through?_before_seam {mark t : Text} (hmark : mark ≠ []) (h : through? mark (s ++ y) = some t)
    (hin : t <+: s) (y' : Text) : through? mark (s ++ y') = some t := by
  cases hs : through? mark s with
  | some t' =>
      obtain rfl : t' = t := Option.some.inj ((through?_append_of_some y hmark hs).symm.trans h)
      exact through?_append_of_some y' hmark hs
  | none =>
      obtain ⟨⟨before, rest⟩, -, rfl⟩ := Option.map_eq_some_iff.mp h
      obtain ⟨v, rfl⟩ := hin
      have hno : splitAt? mark (before ++ mark ++ v) = none := by simpa [through?] using hs
      rw [List.append_assoc] at hno
      exact absurd hno (splitAt?_ne_none mark before v)

lemma Construct.read_graft_aside {t : Text} (h : Seam s line y)
    (hold : Construct.read (s ++ y) = .aside t) (hin : t <+: s) :
    Construct.read (s ++ (line ++ y)) = .aside t := by
  obtain ⟨haside, helement⟩ := h.opens
  rw [Construct.read] at hold ⊢
  rw [h.opensComment, haside, helement]
  split_ifs at hold ⊢ with h1 h2 h3
  · cases hread : Markup.comment? (s ++ y) with
    | none => simp [hread, Construct.ofAside?] at hold
    | some u =>
        obtain rfl : u = t := by simpa [hread, Construct.ofAside?] using hold
        rw [Markup.comment?, through?_before_seam (by simp) hread hin]
        rfl
  · cases hread : aside? (s ++ y) with
    | none => simp [hread, Construct.ofAside?] at hold
    | some u =>
        obtain rfl : u = t := by simpa [hread, Construct.ofAside?] using hold
        rw [aside?, through?_before_seam (by simp) hread hin]
        rfl
  · exact absurd hold (Construct.ofElement_ne_aside _ t)

/-- An element before the seam is the same with the line. -/
lemma Construct.read_graft_element {tag : OpenTag} {closing : Closing} (h : Seam s line y)
    (hline : Inert line) (hold : Construct.read (s ++ y) = .element tag closing)
    (hin : tag.text ++ (closing.content ++ closing.tag) <+: s) :
    Construct.read (s ++ (line ++ y)) = .element tag closing := by
  obtain ⟨hcomment, haside, helement, hread, hclose⟩ := Construct.read_eq_element.mp hold
  obtain ⟨v, rfl⟩ := hin
  have hassoc : ∀ t, tag.text ++ (closing.content ++ closing.tag) ++ v ++ t
      = tag.text ++ (closing.content ++ closing.tag ++ v ++ t) := by simp
  have hseam : closing.content ++ closing.tag ++ v ≠ [] →
      Seam (closing.content ++ closing.tag ++ v) line y := by
    intro hne
    rw [List.append_assoc] at h
    exact h.of_append hne
  refine Construct.read_eq_element.mpr ⟨h.opensComment.trans hcomment, h.opens.1.trans haside,
    h.opens.2.trans helement, ?_, ?_⟩
  · rw [hassoc]
    exact OpenTag.read?_append hread _
  · rw [hassoc, List.drop_left] at hclose ⊢
    exact closing?_graft_some (tag_name_isNameChar hread) hline hseam hclose
      (List.prefix_append _ _)

end Constructs

/-! ### The walk of the scan -/

/-- The scan of `p ++ r`, begun at an offset, passes `p` construct by construct and finds `found`
in it. -/
inductive Passes : (offset : Nat) → (p r : Text) → (found : List Element) → Prop where
  | nil (offset : Nat) (r : Text) : Passes offset [] r []
  | plain {offset : Nat} {c : Char} {p r : Text} {found : List Element}
      (hread : Construct.read (c :: p ++ r) = .plain) (h : Passes (offset + c.utf8Size) p r found) :
      Passes offset (c :: p) r found
  | aside {offset : Nat} {t p r : Text} {found : List Element}
      (hread : Construct.read (t ++ p ++ r) = .aside t) (h : Passes (offset + t.bytes) p r found) :
      Passes offset (t ++ p) r found
  | element {offset : Nat} {tag : OpenTag} {closing : Closing} {p r : Text} {found : List Element}
      (hread : Construct.read (tag.text ++ (closing.content ++ closing.tag) ++ p ++ r)
        = .element tag closing)
      (h : Passes (offset + (tag.text ++ (closing.content ++ closing.tag)).bytes) p r found) :
      Passes offset (tag.text ++ (closing.content ++ closing.tag) ++ p) r
        (.build offset tag closing :: found)

/-- The scan finds what it passes, and then what begins behind it. -/
lemma Passes.scanFrom {offset : Nat} {p r : Text} {found : List Element}
    (h : Passes offset p r found) :
    scanFrom offset 0 (p ++ r) = found ++ scanFrom (offset + p.bytes) 0 r := by
  induction h with
  | nil offset r => rfl
  | plain hread _ ih =>
      rw [List.cons_append] at hread ⊢
      rw [scanFrom_plain _ hread, ih, bytes_cons, Nat.add_assoc]
  | aside hread _ ih =>
      rw [scanFrom_aside _ hread (List.append_assoc _ _ _), ih, bytes_append, Nat.add_assoc]
  | @element offset tag closing p r found hread _ ih =>
      rw [scanFrom_element (v := p ++ r) _ hread (by simp), ih, bytes_append _ p, Nat.add_assoc]
      rfl

/-- Every element of a scan stands where the scan has passed all that is before it. -/
lemma exists_passes {offset : Nat} {s : Text} {found later : List Element} {e : Element}
    (h : scanFrom offset 0 s = found ++ e :: later) :
    ∃ p r tag closing, s = p ++ r ∧ Passes offset p r found
      ∧ Construct.read r = .element tag closing ∧ e = .build (offset + p.bytes) tag closing := by
  induction hlen : s.length using Nat.strong_induction_on generalizing s offset found with
  | _ k ih =>
      have hs : s ≠ [] := by
        rintro rfl
        simp [scanFrom_nil] at h
      rcases scanFrom_cases offset hs with ⟨c, v, rfl, hread, hscan⟩ | ⟨t, v, rfl, ht, hread, hscan⟩
        | ⟨-, hscan⟩ | ⟨tag, closing, v, rfl, ht, hread, hscan⟩
      · rw [hscan] at h
        obtain ⟨p, r, tag, closing, rfl, hp, hr, rfl⟩ := ih v.length (by simp at hlen; omega) h rfl
        exact ⟨c :: p, r, tag, closing, rfl, .plain hread hp, hr, by rw [bytes_cons, Nat.add_assoc]⟩
      · rw [hscan] at h
        rw [List.length_append] at hlen
        obtain ⟨p, r, tag, closing, rfl, hp, hr, rfl⟩ := ih v.length (by omega) h rfl
        rw [← List.append_assoc] at hread
        exact ⟨t ++ p, r, tag, closing, by simp, .aside hread hp, hr,
          by rw [bytes_append, Nat.add_assoc]⟩
      · rw [hscan] at h
        simp at h
      · rw [hscan] at h
        cases found with
        | nil =>
            simp only [List.nil_append, List.cons.injEq] at h
            exact ⟨[], _, tag, closing, rfl, .nil offset _, hread, h.1.symm⟩
        | cons e' found =>
            simp only [List.cons_append, List.cons.injEq] at h
            obtain ⟨rfl, h⟩ := h
            simp only [List.length_append] at hlen
            obtain ⟨p, r, tag', closing', rfl, hp, hr, rfl⟩ := ih v.length (by omega) h rfl
            have hassoc : tag.text ++ (closing.content ++ (closing.tag ++ (p ++ r)))
                = tag.text ++ (closing.content ++ closing.tag) ++ p ++ r := by simp
            rw [hassoc] at hread ⊢
            exact ⟨_, r, tag', closing', rfl, .element hread hp, hr,
              by rw [bytes_append _ p, Nat.add_assoc]⟩

/-- **The scan before the line.** A walk that ends at `r = s ++ y` is the same walk when an inert
line is put at the seam between `s` and `y`. -/
lemma Passes.graft {offset : Nat} {p s line y : Text} {found : List Element}
    (h : Passes offset p (s ++ y) found) (hseam : Seam s line y) (hline : Inert line) :
    Passes offset p (s ++ (line ++ y)) found := by
  generalize hr : s ++ y = r at h
  -- what is left of `p` stands before the seam as well
  have hlonger : ∀ q, Seam (q ++ s) line y := by
    intro q
    cases hseam with
    | behind c hlast hc =>
        exact .behind c
          (by rw [List.getLast?_append_of_ne_nil q (by rintro rfl; simp at hlast), hlast]) hc
    | newLine hs hl hy => exact .newLine (by simp [hs]) hl hy
  induction h with
  | nil offset r => exact .nil offset _
  | @plain offset c p r found hread _ ih =>
      subst hr
      rw [← List.append_assoc] at hread
      refine .plain ?_ (ih rfl)
      rw [← List.append_assoc]
      exact Construct.read_graft_plain (hlonger _) hline hread
  | @aside offset t p r found hread _ ih =>
      subst hr
      rw [← List.append_assoc] at hread
      refine .aside ?_ (ih rfl)
      rw [← List.append_assoc]
      exact Construct.read_graft_aside (hlonger _) hread ⟨p ++ s, by simp⟩
  | @element offset tag closing p r found hread _ ih =>
      subst hr
      rw [← List.append_assoc] at hread
      refine .element ?_ (ih rfl)
      rw [← List.append_assoc]
      exact Construct.read_graft_element (hlonger _) hline hread ⟨p ++ s, by simp⟩

/-- A line put into the content of a raw element becomes part of it. -/
lemma Construct.read_graft_content {a b line closeTag rest : Text} {tag : OpenTag}
    (hread : Construct.read (tag.text ++ (a ++ b ++ (closeTag ++ rest)))
      = .element tag ⟨a ++ b, closeTag⟩)
    (hself : tag.selfClosing = false) (hraw : isRawText tag.name = true)
    (hseam : Seam (tag.text ++ a) line (b ++ (closeTag ++ rest))) (hline : Inert line) :
    Construct.read (tag.text ++ (a ++ (line ++ b) ++ (closeTag ++ rest)))
      = .element tag ⟨a ++ (line ++ b), closeTag⟩ := by
  have hold : tag.text ++ (a ++ b ++ (closeTag ++ rest))
      = tag.text ++ a ++ (b ++ (closeTag ++ rest)) := by simp
  have hnew : tag.text ++ (a ++ (line ++ b) ++ (closeTag ++ rest))
      = tag.text ++ a ++ (line ++ (b ++ (closeTag ++ rest))) := by simp
  obtain ⟨hcomment, haside, helement, htag, hclose⟩ := Construct.read_eq_element.mp hread
  rw [hold] at hcomment haside helement
  refine Construct.read_eq_element.mpr ⟨?_, ?_, ?_, OpenTag.read?_append htag _, ?_⟩
  · rw [hnew, hseam.opensComment, hcomment]
  · rw [hnew, hseam.opens.1, haside]
  · rw [hnew, hseam.opens.2, helement]
  · rw [List.drop_left, closing?, hself, if_neg (by simp), if_pos hraw, List.append_assoc] at hclose
    rw [List.drop_left, closing?, hself, if_neg (by simp), if_pos hraw, List.append_assoc,
      List.append_assoc]
    exact firstClose?_graft_content (tag_name_isNameChar htag) hline hclose

end Markup

end ComponentFile
