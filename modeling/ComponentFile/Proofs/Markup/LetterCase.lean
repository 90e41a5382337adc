import Mathlib.Tactic
import ComponentFile.Proofs.Markup.Reading

/-!
The structure of tags does not depend on letter case.

`lower` brings the ASCII letters of a text to lower case, and of what is read from it: tags,
closings, constructs, elements. All that the scanner asks of a character is the same of a letter in
either case (`apply_toLower`), and it compares names without regard to case. So every reader
commutes with `lower`, from the marks (`splitAt?_lower`) over the tags (`OpenTag.read?_lower`,
`closeTag?_lower`) and the searches for a close tag (`firstClose?_lower`, `balancedClose?_lower`) to
the whole scan: `scan_lower`.
-/

namespace ComponentFile

namespace Text

/-- A text with its ASCII letters in lower case. -/
def lower (text : Text) : Text := text.map Char.toLower

@[simp] lemma lower_nil : lower [] = [] := rfl

@[simp] lemma lower_cons (c : Char) (cs : Text) : lower (c :: cs) = c.toLower :: lower cs := rfl

@[simp] lemma lower_append (s t : Text) : lower (s ++ t) = lower s ++ lower t := List.map_append

@[simp] lemma length_lower (s : Text) : (lower s).length = s.length := List.length_map _

lemma take_lower (n : Nat) (s : Text) : (lower s).take n = lower (s.take n) := List.map_take.symm

lemma drop_lower (n : Nat) (s : Text) : (lower s).drop n = lower (s.drop n) := List.map_drop.symm

end Text

open Text

namespace Markup

/-! ### Characters -/

lemma isBlank_toLower (c : Char) : isBlank c.toLower = isBlank c := apply_toLower (by decide) c

lemma isMarkupBlank_toLower (c : Char) : isMarkupBlank c.toLower = isMarkupBlank c :=
  apply_toLower (by decide) c

lemma utf8Size_toLower (c : Char) : c.toLower.utf8Size = c.utf8Size := apply_toLower (by decide) c

/-- A character that is no letter is told apart from all others in any case. -/
lemma toLower_eq_iff {m : Char} (hm : m.isAlpha = false) (c : Char) : c.toLower = m ↔ c = m := by
  refine iff_of_eq (apply_toLower (p := (· = m)) (fun n hn => ?_) c)
  have hletters : ∀ k ∈ List.range' 65 26,
      (Char.ofNat k).isAlpha = true ∧ (Char.ofNat (k + 32)).isAlpha = true := by decide
  obtain ⟨hupper, hlower⟩ := hletters n hn
  refine propext (iff_of_false ?_ ?_) <;> rintro rfl
  · exact absurd hm (by simp [hlower])
  · exact absurd hm (by simp [hupper])

lemma toLower_ne {m : Char} (hm : m.isAlpha = false) {c : Char} (h : c ≠ m) : c.toLower ≠ m :=
  mt (toLower_eq_iff hm c).mp h

/-! ### Runs and marks -/

section Runs

variable {p : Char → Bool} (hp : ∀ c, p c.toLower = p c) (s : Text)

include hp

lemma takeWhile_lower : (lower s).takeWhile p = lower (s.takeWhile p) := by
  have hsame : p ∘ Char.toLower = p := funext hp
  rw [lower, List.takeWhile_map, hsame, lower]

lemma dropWhile_lower : (lower s).dropWhile p = lower (s.dropWhile p) := by
  have hsame : p ∘ Char.toLower = p := funext hp
  rw [lower, List.dropWhile_map, hsame, lower]

end Runs

lemma trim_lower (s : Text) : trim (lower s) = lower (trim s) := by
  have hreverse : ∀ t, (lower t).reverse = lower t.reverse := fun t => List.map_reverse.symm
  rw [trim, trimStart, dropWhile_lower isBlank_toLower, trimEnd, hreverse,
    dropWhile_lower isBlank_toLower, hreverse]
  rfl

lemma bytes_lower (s : Text) : bytes (lower s) = bytes s := by
  induction s with
  | nil => rfl
  | cons c s ih => rw [lower_cons, bytes_cons, bytes_cons, utf8Size_toLower, ih]

lemma sameName_lower_left (a b : Text) : sameName (lower a) b = sameName a b := by
  have htwice : Char.toLower ∘ Char.toLower = Char.toLower := funext (apply_toLower (by decide))
  rw [sameName, sameName, lower, List.map_map, htwice]

lemma sameName_lower (a b : Text) : sameName (lower a) (lower b) = sameName a b := by
  have hcomm : ∀ s t, sameName s t = sameName t s := fun s t => Bool.beq_comm
  rw [sameName_lower_left, hcomm, sameName_lower_left, hcomm]

section Marks

variable {mark : Text} (hmark : ∀ m ∈ mark, m.isAlpha = false) (s : Text)

include hmark

lemma isPrefixOf_lower : mark.isPrefixOf (lower s) = mark.isPrefixOf s := by
  induction mark generalizing s with
  | nil => rfl
  | cons m mark ih =>
      cases s with
      | nil => rfl
      | cons c s =>
          have hfirst : (m == c.toLower) = (m == c) := by
            rw [Bool.eq_iff_iff, beq_iff_eq, beq_iff_eq, eq_comm, eq_comm (a := m)]
            exact toLower_eq_iff (hmark m (by simp)) c
          rw [lower_cons, List.isPrefixOf, List.isPrefixOf, hfirst,
            ih fun m hm => hmark m (by simp [hm])]

/-- A mark without letters is found in the same place. -/
lemma splitAt?_lower :
    splitAt? mark (lower s)
      = (splitAt? mark s).map fun (before, rest) => (lower before, lower rest) := by
  induction s with
  | nil =>
      rw [lower_nil, splitAt?]
      split_ifs <;> rfl
  | cons c s ih =>
      have hprefix := isPrefixOf_lower hmark (c :: s)
      rw [lower_cons] at hprefix ⊢
      rw [splitAt?, splitAt?, hprefix, ih]
      split_ifs
      · rfl
      · cases splitAt? mark s <;> rfl

lemma through?_lower : through? mark (lower s) = (through? mark s).map lower := by
  have hself : lower mark = mark := by
    refine (List.map_congr_left fun m hm => ?_).trans (List.map_id mark)
    exact (toLower_eq_iff (hmark m hm) m).mpr rfl
  rw [through?, through?, splitAt?_lower hmark]
  cases splitAt? mark s with
  | none => rfl
  | some found => simp [hself]

end Marks

lemma opensComment_lower (s : Text) : opensComment (lower s) = opensComment s :=
  isPrefixOf_lower (by decide) s

lemma comment?_lower (s : Text) : comment? (lower s) = (comment? s).map lower :=
  through?_lower (by decide) s

lemma aside?_lower (s : Text) : aside? (lower s) = (aside? s).map lower :=
  through?_lower (by decide) s

/-! ### Opening tags -/

/-- An opening tag in lower case. -/
def OpenTag.lower (tag : OpenTag) : OpenTag where
  name := Text.lower tag.name
  rawAttributes := Text.lower tag.rawAttributes
  selfClosing := tag.selfClosing
  text := Text.lower tag.text

lemma OpenTag.selfClosing_lower (tag : OpenTag) :
    tag.lower.selfClosing = tag.selfClosing := rfl

@[simp] lemma OpenTag.length_text_lower (tag : OpenTag) :
    tag.lower.text.length = tag.text.length := length_lower tag.text

lemma OpenTag.ofParts_lower (name body : Text) :
    OpenTag.ofParts (Text.lower name) (Text.lower body) = (OpenTag.ofParts name body).lower := by
  have hlast : (Text.lower body).getLast? = some '/' ↔ body.getLast? = some '/' := by
    rw [Text.lower, List.getLast?_map, Option.map_eq_some_iff]
    simp [toLower_eq_iff (show Char.isAlpha '/' = false from rfl)]
  have hbody : (Text.lower body).dropLast = Text.lower body.dropLast := List.map_dropLast.symm
  rw [OpenTag.ofParts, OpenTag.ofParts, OpenTag.lower]
  simp only [hlast, hbody, ← trim_lower, apply_ite Text.lower, lower_append, lower_cons, lower_nil]
  rfl

/-- The inside of a tag ends in the same place. -/
lemma tagBody?_lower {quote : Option Char} (hq : IsQuoteState quote) (s : Text) :
    tagBody? quote (lower s) = (tagBody? quote s).map lower := by
  induction s generalizing quote with
  | nil => rcases hq with rfl | rfl | rfl <;> rfl
  | cons c s ih =>
      have hmap : ∀ body : Option Text,
          (body.map lower).map (c.toLower :: ·) = (body.map (c :: ·)).map lower := by
        intro body
        cases body <;> rfl
      have hsame : ∀ {m : Char}, m.isAlpha = false → (c.toLower = m) = (c = m) :=
        fun hm => propext (toLower_eq_iff hm c)
      cases quote with
      | some q =>
          have hquote : q.isAlpha = false := by
            rcases hq with hq | hq | hq <;> cases hq <;> rfl
          have hafter : IsQuoteState (if c = q then none else some q) := by
            split_ifs
            · exact .inl rfl
            · exact hq
          rw [lower_cons, tagBody?, tagBody?]
          simp only [hsame hquote]
          rw [ih hafter, hmap]
      | none =>
          rw [lower_cons, tagBody?, tagBody?]
          simp only [hsame (show Char.isAlpha '>' = false from rfl),
            hsame (show Char.isAlpha '<' = false from rfl),
            hsame (show Char.isAlpha '"' = false from rfl),
            hsame (show Char.isAlpha '\'' = false from rfl)]
          split_ifs with hclose hopen hquote
          · rfl
          · rfl
          · -- a quote is no letter, so the state behind it is the same
            rcases (by simpa using hquote : c = '"' ∨ c = '\'') with rfl | rfl
            · exact (congrArg _ (ih (.inr (.inl rfl)))).trans (hmap _)
            · exact (congrArg _ (ih (.inr (.inr rfl)))).trans (hmap _)
          · rw [ih (.inl rfl), hmap]

lemma OpenTag.read?_eq_none {c : Char} (hc : c ≠ '<') (cs : Text) :
    OpenTag.read? (c :: cs) = none := by
  rw [Option.eq_none_iff_forall_ne_some]
  intro tag h
  obtain ⟨name, body, rest, hs, -⟩ := OpenTag.read?_eq_some h
  exact hc (List.cons.inj hs).1

/-- **Opening tags are read in any letter case.** -/
lemma OpenTag.read?_lower (s : Text) :
    OpenTag.read? (Text.lower s) = (OpenTag.read? s).map OpenTag.lower := by
  cases s with
  | nil => rfl
  | cons c cs =>
      by_cases hc : c = '<'
      · subst hc
        have hbody := tagBody?_lower (.inl rfl : IsQuoteState none) (cs.dropWhile isNameChar)
        change OpenTag.read? ('<' :: Text.lower cs) = _
        rw [OpenTag.read?_cons, OpenTag.read?_cons, takeWhile_lower isNameChar_toLower,
          dropWhile_lower isNameChar_toLower, hbody]
        have hempty : (Text.lower (cs.takeWhile isNameChar)).isEmpty
            = (cs.takeWhile isNameChar).isEmpty := List.isEmpty_map
        rw [hempty]
        split_ifs
        · rfl
        · cases tagBody? none (cs.dropWhile isNameChar) with
          | none => rfl
          | some body => exact congrArg some (OpenTag.ofParts_lower _ body)
      · have hc' : c.toLower ≠ '<' := toLower_ne rfl hc
        rw [lower_cons, OpenTag.read?_eq_none hc, OpenTag.read?_eq_none hc']
        rfl

/-! ### Tags of a name -/

lemma opensTag_lower (name s : Text) : opensTag (lower name) (lower s) = opensTag name s := by
  cases s with
  | nil => rfl
  | cons c cs =>
      by_cases hc : c = '<'
      · subst hc
        change opensTag (lower name) ('<' :: lower cs) = _
        rw [opensTag, opensTag, length_lower, take_lower, drop_lower, sameName_lower]
        cases cs.drop name.length with
        | nil => rfl
        | cons d rest =>
            simp only [lower_cons, isMarkupBlank_toLower,
              toLower_eq_iff (show Char.isAlpha '>' = false from rfl),
              toLower_eq_iff (show Char.isAlpha '/' = false from rfl)]
      · have hc' : c.toLower ≠ '<' := toLower_ne rfl hc
        simp [opensTag, hc, hc']

lemma sameOpen?_lower (name s : Text) :
    sameOpen? (lower name) (lower s) = (sameOpen? name s).map OpenTag.lower := by
  rw [sameOpen?, sameOpen?, opensTag_lower, OpenTag.read?_lower]
  split_ifs <;> rfl

lemma closeTag?_eq_none_of_ne {name : Text} {c d : Char} (h : ¬ (c = '<' ∧ d = '/')) {cs : Text} :
    closeTag? name (c :: d :: cs) = none := by
  rw [Option.eq_none_iff_forall_ne_some]
  intro tag htag
  obtain ⟨n, blanks, rest, hs, -⟩ := closeTag?_eq_some htag
  obtain ⟨hc, hs⟩ := List.cons.inj hs
  exact h ⟨hc, (List.cons.inj hs).1⟩

/-- **Close tags are read in any letter case.** -/
lemma closeTag?_lower (name s : Text) :
    closeTag? (lower name) (lower s) = (closeTag? name s).map lower := by
  match s with
  | [] => rfl
  | [c] => simp [closeTag?]
  | c :: d :: cs =>
    by_cases hmark : c = '<' ∧ d = '/'
    · obtain ⟨rfl, rfl⟩ := hmark
      change closeTag? (lower name) ('<' :: '/' :: lower cs) = _
      rw [closeTag?, closeTag?, length_lower, take_lower, drop_lower, sameName_lower]
      simp only [takeWhile_lower isMarkupBlank_toLower, dropWhile_lower isMarkupBlank_toLower]
      split_ifs
      · cases (cs.drop name.length).dropWhile isMarkupBlank with
        | nil => rfl
        | cons e rest =>
            by_cases he : e = '>'
            · subst he
              simp
            · have he' : e.toLower ≠ '>' := toLower_ne rfl he
              simp [he, he']
      · rfl
    · have hmark' : ¬ (c.toLower = '<' ∧ d.toLower = '/') := by
        rwa [toLower_eq_iff rfl, toLower_eq_iff rfl]
      rw [lower_cons, lower_cons, closeTag?_eq_none_of_ne hmark, closeTag?_eq_none_of_ne hmark']
      rfl

/-! ### Closings -/

/-- A closing in lower case. -/
def Closing.lower (closing : Closing) : Closing where
  content := Text.lower closing.content
  tag := Text.lower closing.tag

@[simp] lemma Closing.length_content_lower (closing : Closing) :
    closing.lower.content.length = closing.content.length := length_lower closing.content

@[simp] lemma Closing.length_tag_lower (closing : Closing) :
    closing.lower.tag.length = closing.tag.length := length_lower closing.tag

lemma Closing.map_prepend_lower (c : Char) (closing : Option Closing) :
    (closing.map Closing.lower).map (Closing.prepend [c.toLower])
      = (closing.map (Closing.prepend [c])).map Closing.lower := by
  cases closing <;> rfl

lemma firstClose?_lower (name s : Text) :
    firstClose? (lower name) (lower s) = (firstClose? name s).map Closing.lower := by
  induction s with
  | nil => rfl
  | cons c cs ih =>
      have hclose := closeTag?_lower name (c :: cs)
      rw [lower_cons] at hclose ⊢
      cases htag : closeTag? name (c :: cs) with
      | some tag =>
          rw [htag] at hclose
          rw [firstClose?_of_closeTag? hclose, firstClose?_of_closeTag? htag]
          rfl
      | none =>
          rw [htag] at hclose
          rw [firstClose?_cons_of_none hclose, firstClose?_cons_of_none htag, ih,
            Closing.map_prepend_lower]

/-- The balanced search counts the same tags. -/
lemma balancedClose?_lower (name : Text) (depth passed : Nat) (s : Text) :
    balancedClose? (lower name) depth passed (lower s)
      = (balancedClose? name depth passed s).map Closing.lower := by
  induction s generalizing depth passed with
  | nil => cases passed <;> rfl
  | cons c cs ih =>
      have step : ∀ d p, (balancedClose? (lower name) d p (lower cs)).map
          (Closing.prepend [c.toLower])
            = ((balancedClose? name d p cs).map (Closing.prepend [c])).map Closing.lower :=
        fun d p => by rw [ih, Closing.map_prepend_lower]
      cases passed with
      | succ passed => exact step depth passed
      | zero =>
          have hcomment := comment?_lower (c :: cs)
          have hclose := closeTag?_lower name (c :: cs)
          have hopen := sameOpen?_lower name (c :: cs)
          have hopens := opensComment_lower (c :: cs)
          rw [lower_cons] at hcomment hclose hopen hopens ⊢
          rw [balancedClose?_cons, balancedClose?_cons, hopens, hcomment, hclose, hopen]
          split_ifs
          · cases comment? (c :: cs) with
            | none => rfl
            | some comment => simpa using step depth (comment.length - 1)
          · cases closeTag? name (c :: cs) with
            | some tag =>
                cases depth with
                | zero => rfl
                | succ depth => simpa using step depth (tag.length - 1)
            | none =>
                cases sameOpen? name (c :: cs) with
                | some tag =>
                    rw [Option.map_some]
                    dsimp only
                    rw [OpenTag.length_text_lower]
                    exact step (if tag.selfClosing then depth else depth + 1) (tag.text.length - 1)
                | none => exact step depth 0

lemma isRawText_lower (name : Text) : isRawText (lower name) = isRawText name := by
  rw [isRawText, isRawText, funext (sameName_lower_left name)]

/-- **An element closes in the same place.** -/
lemma closing?_lower (tag : OpenTag) (rest : Text) :
    closing? tag.lower (lower rest) = (closing? tag rest).map Closing.lower := by
  have hraw : isRawText tag.lower.name = isRawText tag.name := isRawText_lower tag.name
  rw [closing?, closing?, hraw, OpenTag.selfClosing_lower]
  split_ifs
  · rfl
  · exact firstClose?_lower tag.name rest
  · exact balancedClose?_lower tag.name 0 0 rest

/-! ### The scan -/

/-- A construct in lower case. -/
def Construct.lower : Construct → Construct
  | .plain => .plain
  | .aside text => .aside (Text.lower text)
  | .endless => .endless
  | .element tag closing => .element tag.lower closing.lower

/-- An element in lower case, at the same offsets. -/
def Element.lower (element : Element) : Element :=
  { element with
    name := Text.lower element.name
    rawAttributes := Text.lower element.rawAttributes
    content := Text.lower element.content }

lemma opensAside_lower (s : Text) : opensAside (lower s) = opensAside s := by
  match s with
  | [] => rfl
  | [c] => simp [opensAside]
  | c :: d :: cs =>
    by_cases hc : c = '<'
    · subst hc
      exact apply_toLower (p := fun d => d = '!' || d = '?' || d = '/') (by decide) d
    · have hc' : c.toLower ≠ '<' := toLower_ne rfl hc
      simp [opensAside, hc, hc']

lemma opensElement_lower (s : Text) : opensElement (lower s) = opensElement s := by
  match s with
  | [] => rfl
  | [c] => simp [opensElement]
  | c :: d :: cs =>
    by_cases hc : c = '<'
    · subst hc
      exact apply_toLower (p := Char.isAlpha) (by decide) d
    · have hc' : c.toLower ≠ '<' := toLower_ne rfl hc
      simp [opensElement, hc, hc']

lemma Construct.ofElement_lower (s : Text) :
    Construct.ofElement (Text.lower s) = (Construct.ofElement s).lower := by
  rw [Construct.ofElement, Construct.ofElement, OpenTag.read?_lower]
  cases OpenTag.read? s with
  | none => rfl
  | some tag =>
      rw [Option.map_some]
      dsimp only
      rw [OpenTag.length_text_lower, drop_lower, closing?_lower]
      cases closing? tag (s.drop tag.text.length) <;> rfl

/-- The same construct is read. -/
lemma Construct.read_lower (s : Text) :
    Construct.read (Text.lower s) = (Construct.read s).lower := by
  rw [Construct.read, Construct.read, opensComment_lower, opensAside_lower, opensElement_lower,
    comment?_lower, aside?_lower, Construct.ofElement_lower]
  split_ifs
  · cases comment? s <;> rfl
  · cases aside? s <;> rfl
  · rfl
  · rfl

lemma Element.build_lower (start : Nat) (tag : OpenTag) (closing : Closing) :
    Element.build start tag.lower closing.lower = (Element.build start tag closing).lower := by
  simp only [Element.build, Element.lower, OpenTag.lower, Closing.lower, bytes_lower]

lemma scanFrom_lower (offset passed : Nat) (s : Text) :
    scanFrom offset passed (lower s) = (scanFrom offset passed s).map Element.lower := by
  induction s generalizing offset passed with
  | nil => rw [lower_nil, scanFrom_nil, List.map_nil]
  | cons c cs ih =>
      cases passed with
      | succ passed => rw [lower_cons, scanFrom, scanFrom, utf8Size_toLower, ih]
      | zero =>
          have hread := Construct.read_lower (c :: cs)
          rw [lower_cons] at hread ⊢
          rw [scanFrom, scanFrom, hread, utf8Size_toLower]
          cases Construct.read (c :: cs) with
          | plain => exact ih _ 0
          | aside text => simp only [Construct.lower, length_lower, ih]
          | endless => rfl
          | element tag closing =>
              simp only [Construct.lower, List.map_cons, Element.build_lower, ih,
                OpenTag.length_text_lower, Closing.length_content_lower, Closing.length_tag_lower]

/-- **The structure of tags does not depend on letter case.** The scan of a text in lower case finds
the elements of the text, with their names and attributes in lower case, at the same offsets. -/
theorem scan_lower (text : Text) : scan (lower text) = (scan text).map Element.lower :=
  scanFrom_lower 0 0 text

/-- The inner tag counts, and the close tags are those of both. -/
example : (scan "<P a><p></P></p>".toList).map (·.stop) = [16] := by decide

end Markup

end ComponentFile
