import Mathlib.Tactic
import ComponentFile.Proofs.Document.Translation

/-!
A broken tag never hides what follows it.

`BrokenTag p t` says that the text `p` is a tag that comes to nothing in front of `t`: it was only
half typed when the next tag began, or it is never closed. The scan takes its `<` for text and looks
at the rest of it again, in which there is no other `<`. So it comes to `t` as if it began there:
`scan_brokenTag`.
-/

namespace ComponentFile

open Text

namespace Markup

/-- A tag in front of `t` that comes to nothing. -/
inductive BrokenTag : (p t : Text) → Prop where
  /-- The tag was not finished when the next one began, or the text ended. -/
  | halfTyped {u t : Text} (hplain : IsPlain u)
      (hfirst : ∀ c, u.head? = some c → c ≠ '!' ∧ c ≠ '?' ∧ c ≠ '/')
      (hnext : t = [] ∨ t.head? = some '<') : BrokenTag ('<' :: u) t
  /-- The tag is complete, and no close tag of its name begins in `t`, in any letter case. -/
  | neverClosed {tag : OpenTag} {t : Text} (hread : OpenTag.read? tag.text = some tag)
      (hself : tag.selfClosing = false) (hlt : '<' ∉ tag.text.tail)
      (hclose : ¬ List.map Char.toLower ('<' :: '/' :: tag.name) <:+: t.map Char.toLower) :
      BrokenTag tag.text t

/-! ### What is passed over as text -/

lemma opensAside_eq_false {s : Text}
    (h : ∀ c, s.head? = some c → c ≠ '!' ∧ c ≠ '?' ∧ c ≠ '/') : opensAside ('<' :: s) = false := by
  cases s with
  | nil => rfl
  | cons c s => simpa [opensAside, and_assoc] using h c rfl

/-- A comment begins like any other aside. -/
lemma opensComment_eq_false {s : Text} (h : opensAside s = false) : opensComment s = false := by
  rw [opensComment, Bool.eq_false_iff, ne_eq, List.isPrefixOf_iff_prefix]
  rintro ⟨t, rfl⟩
  cases h

/-- A tag that is not finished, or never closed, is text. -/
lemma Construct.read_eq_plain {s : Text} (haside : opensAside s = false)
    (hclose : ∀ tag, OpenTag.read? s = some tag →
      closing? tag (s.drop tag.text.length) = none) : Construct.read s = .plain := by
  rw [Construct.read, opensComment_eq_false haside, haside]
  simp only [Bool.false_eq_true, if_false]
  split_ifs
  · rw [Construct.ofElement]
    split
    · rfl
    case h_2 tag hread => rw [hclose tag hread]
  · rfl

/-- Where a `<` is text and no other one follows it in `u`, the scan comes to `t`. -/
lemma scan_of_read_plain {u t : Text} (hu : '<' ∉ u)
    (h : Construct.read ('<' :: (u ++ t)) = .plain) :
    scan ('<' :: u ++ t) = (scan t).map (Element.shift (bytes ('<' :: u))) := by
  calc scan ('<' :: u ++ t) = scanFrom (0 + ('<' : Char).utf8Size) 0 (u ++ t) := scanFrom_plain 0 h
    _ = scanFrom (0 + ('<' : Char).utf8Size + u.bytes) 0 t := scanFrom_text _ hu t
    _ = scanFrom (bytes ('<' :: u) + 0) 0 t := by rw [bytes_cons, Nat.zero_add, Nat.add_zero]
    _ = (scan t).map (Element.shift (bytes ('<' :: u))) := scanFrom_shift _ 0 0 t

/-! ### Half-typed tags -/

/-- A tag is not finished where the next one begins before its `>`. -/
lemma OpenTag.read?_halfTyped {u t : Text} (hplain : IsPlain u)
    (hnext : t = [] ∨ t.head? = some '<') : OpenTag.read? ('<' :: (u ++ t)) = none := by
  obtain ⟨hstop, hbroken⟩ : List.dropWhile isNameChar t = t ∧ tagBody? none t = none := by
    cases t with
    | nil => exact ⟨rfl, rfl⟩
    | cons c t =>
        obtain rfl : c = '<' := by simpa using hnext
        exact ⟨rfl, rfl⟩
  have hdrop : List.dropWhile isNameChar (u ++ t) = List.dropWhile isNameChar u ++ t := by
    rw [List.dropWhile_append, hstop]
    split_ifs with hempty
    · rw [List.isEmpty_iff.mp hempty, List.nil_append]
    · rfl
  have hrest : IsPlain (List.dropWhile isNameChar u) := fun c hc =>
    hplain c (List.dropWhile_subset _ hc)
  rw [OpenTag.read?_cons, hdrop, tagBody?_plain (.inl rfl) hrest, hbroken]
  simp

/-! ### Tags that are never closed -/

/-- Where no close tag of the name begins, nothing closes an element. -/
lemma closing?_eq_none {tag : OpenTag} {t : Text} (hself : tag.selfClosing = false)
    (h : ¬ List.map Char.toLower ('<' :: '/' :: tag.name) <:+: t.map Char.toLower) :
    closing? tag t = none := by
  rw [Option.eq_none_iff_forall_ne_some]
  intro closing hclosing
  obtain ⟨v, rfl, hclose⟩ := closing?_closeTag hclosing hself
  obtain ⟨n, blanks, rest, rfl, hn, -⟩ := closeTag?_eq_some hclose
  refine h ⟨closing.content.map Char.toLower, (blanks ++ '>' :: rest).map Char.toLower, ?_⟩
  simp [sameName_iff.mp hn]

/-- The name of a tag begins with none of the characters of an aside. -/
lemma opensAside_of_read? {s : Text} {tag : OpenTag} (h : OpenTag.read? s = some tag) :
    opensAside s = false := by
  obtain ⟨name, body, rest, rfl, hne, hname, -⟩ := OpenTag.read?_eq_some h
  obtain ⟨c, name, rfl⟩ := List.exists_cons_of_ne_nil hne
  have hc := hname c List.mem_cons_self
  refine opensAside_eq_false fun d hd => ?_
  obtain rfl : c = d := by simpa using hd
  refine ⟨?_, ?_, ?_⟩ <;> rintro rfl <;> exact absurd hc (by decide)

/-- **A broken tag never hides what follows it.** In front of any text, a tag that was half typed or
is never closed leaves the elements of the scan as they are, at later offsets. -/
theorem scan_brokenTag {p t : Text} (h : BrokenTag p t) :
    scan (p ++ t) = (scan t).map (Element.shift p.bytes) := by
  cases h with
  | @halfTyped u t hplain hfirst hnext =>
      have haside : opensAside ('<' :: (u ++ t)) = false := by
        refine opensAside_eq_false fun c hc => ?_
        cases u with
        | nil =>
            rcases hnext with rfl | hlt
            · cases hc
            · obtain rfl : '<' = c := Option.some.inj (hlt.symm.trans hc)
              decide
        | cons d u => exact hfirst c hc
      refine scan_of_read_plain (fun hlt => (hplain _ hlt).1 rfl) ?_
      refine Construct.read_eq_plain haside fun tag hread => ?_
      rw [OpenTag.read?_halfTyped hplain hnext] at hread
      cases hread
  | @neverClosed tag t hread hself hlt hclose =>
      obtain ⟨name, body, -, -, -, -, htag, -⟩ := OpenTag.read?_eq_some hread
      have htext : tag.text = '<' :: tag.text.tail := by simp [htag, OpenTag.ofParts]
      have hwhole := OpenTag.read?_append hread t
      have hplain : Construct.read (tag.text ++ t) = .plain := by
        refine Construct.read_eq_plain (opensAside_of_read? hwhole) fun other hother => ?_
        obtain rfl : tag = other := Option.some.inj (hwhole.symm.trans hother)
        rw [List.drop_left]
        exact closing?_eq_none hself hclose
      rw [htext] at hplain ⊢
      exact scan_of_read_plain hlt hplain

/-- `scan_brokenTag` for a tag that was half typed in front of an element, and for one that is never
closed: its name begins the name of what is closed behind it. -/
theorem scan_brokenTag_unclosed :
    BrokenTag "<Foo é=".toList "<b></b>".toList
      ∧ scan "<Foo é=<b></b>".toList = (scan "<b></b>".toList).map (Element.shift 8)
      ∧ BrokenTag "<style a='>'>".toList "<style><x/></Styl></styl>".toList
      ∧ scan "<style a='>'><style><x/></Styl></styl>".toList
        = (scan "<style><x/></Styl></styl>".toList).map (Element.shift 13) := by
  have hhalf : BrokenTag "<Foo é=".toList "<b></b>".toList := by
    refine .halfTyped (by decide) ?_ (.inr rfl)
    rintro c ⟨⟩
    decide
  have hnever : BrokenTag "<style a='>'>".toList "<style><x/></Styl></styl>".toList :=
    @BrokenTag.neverClosed (.ofParts "style".toList " a='>'".toList) _ (by decide +kernel)
      (by decide) (by decide) (by decide)
  exact ⟨hhalf, scan_brokenTag hhalf, hnever, scan_brokenTag hnever⟩

end Markup

end ComponentFile
