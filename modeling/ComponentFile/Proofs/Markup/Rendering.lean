import Mathlib.Tactic
import ComponentFile.Markup.Attribute
import ComponentFile.Proofs.Markup.Graft
import ComponentFile.Proofs.Markup.WrittenAttribute

/-!
Documents as data, and their text.

An `Item` of a document is text, a comment or an element. An element is written as an empty one, or
with raw content, or with a `Body` in which elements of its own name are nested. `Item.WellFormed`
says which items can be told apart again, and `Item.render` writes them.

* `comment?_render`, `OpenTag.read?_render` and `closeTag?_render`: each mark is read back.
* `balancedClose?_render`: a search for a close tag passes over a body, at every depth.
* `Attribute.parse_render`: the attributes of a tag are read back.
* `scan_render`: the scan finds the elements of a document, with their names, contents and offsets.
-/

namespace ComponentFile

open Text

namespace Markup

/-! ### Documents -/

/-- The text of an attribute, with the blank before it. -/
def Attribute.render : Attribute → Text
  | ⟨name, none⟩ => ' ' :: name
  | ⟨name, some value⟩ => ' ' :: (name ++ "=\"".toList ++ value ++ "\"".toList)

/-- The text of the attributes of a tag. -/
def renderAttributes (attributes : List Attribute) : Text := attributes.flatMap Attribute.render

/-- The text of an opening tag. -/
def renderOpen (name : Text) (attributes : List Attribute) : Text :=
  '<' :: (name ++ (renderAttributes attributes ++ ['>']))

/-- The text of an empty tag. -/
def renderEmpty (name : Text) (attributes : List Attribute) : Text :=
  '<' :: (name ++ (renderAttributes attributes ++ ['/', '>']))

/-- The text of a close tag. -/
def renderClose (name : Text) : Text := '<' :: '/' :: (name ++ ['>'])

/-- The text of a comment. -/
def renderComment (body : Text) : Text := "<!--".toList ++ (body ++ "-->".toList)

/-- What may stand in an element whose content is not raw. -/
inductive Body where
  /-- The end of the body. -/
  | done
  /-- Text without tags. -/
  | text (s : Text) (rest : Body)
  /-- A comment. -/
  | comment (s : Text) (rest : Body)
  /-- A tag of another name, opening or closing, with what stands behind the name. -/
  | tag (closes : Bool) (name tail : Text) (rest : Body)
  /-- An empty tag of the same name. -/
  | empty (name : Text) (attributes : List Attribute) (rest : Body)
  /-- An element of the same name. -/
  | nested (name : Text) (attributes : List Attribute) (inner rest : Body)

/-- The text of a body. -/
def Body.render : Body → Text
  | .done => []
  | .text s rest => s ++ rest.render
  | .comment s rest => renderComment s ++ rest.render
  | .tag closes name tail rest =>
    '<' :: ((if closes then ['/'] else []) ++ (name ++ (tail ++ ['>']))) ++ rest.render
  | .empty name attributes rest => renderEmpty name attributes ++ rest.render
  | .nested name attributes inner rest =>
    renderOpen name attributes ++ (inner.render ++ (renderClose name ++ rest.render))

/-- What an element holds. -/
inductive Content where
  /-- Nothing: the element is an empty tag. -/
  | empty
  /-- Raw text. -/
  | raw (s : Text)
  /-- Text, comments and tags. -/
  | body (b : Body)

/-- A top-level part of a document. -/
inductive Item where
  /-- Text without tags. -/
  | text (s : Text)
  /-- A comment. -/
  | comment (s : Text)
  /-- An element. -/
  | element (name : Text) (attributes : List Attribute) (content : Content)

/-- The text of what an element holds. -/
def Content.render : Content → Text
  | .empty => []
  | .raw s => s
  | .body b => b.render

/-- The text of an item. -/
def Item.render : Item → Text
  | .text s => s
  | .comment s => renderComment s
  | .element name attributes .empty => renderEmpty name attributes
  | .element name attributes content =>
    renderOpen name attributes ++ (content.render ++ renderClose name)

/-- The text of a document. -/
def render (items : List Item) : Text := items.flatMap Item.render

/-! ### Well-formed documents -/

/-- A tag name is a letter and then name characters. -/
def IsName (name : Text) : Prop :=
  ∃ c t, name = c :: t ∧ c.isAlpha = true ∧ ∀ d ∈ t, isNameChar d = true

/-- An attribute that can be read back. -/
def Attribute.WellFormed (a : Attribute) : Prop :=
  a.name ≠ []
    ∧ (∀ c ∈ a.name, isBlank c = false ∧ c ≠ '"' ∧ c ≠ '\'' ∧ c ≠ '=' ∧ c ≠ '/' ∧ c ≠ '<' ∧ c ≠ '>')
    ∧ ∀ value, a.value = some value → '"' ∉ value

/-- A comment that ends where its text ends. -/
def IsComment (s : Text) : Prop :=
  ¬ "-->".toList <:+: s ∧ ¬ ">".toList <+: s ∧ ¬ "->".toList <+: s

/-- A body that can stand in an element of the given name. -/
def Body.WellFormed (element : Text) : Body → Prop
  | .done => True
  | .text s rest => '<' ∉ s ∧ rest.WellFormed element
  | .comment s rest => IsComment s ∧ rest.WellFormed element
  | .tag _ name tail rest =>
    IsName name ∧ sameName element name = false ∧ (∀ c, tail.head? = some c → isNameChar c = false)
      ∧ '<' ∉ tail ∧ '>' ∉ tail ∧ rest.WellFormed element
  | .empty name attributes rest =>
    IsName name ∧ sameName element name = true ∧ (∀ a ∈ attributes, a.WellFormed)
      ∧ rest.WellFormed element
  | .nested name attributes inner rest =>
    IsName name ∧ sameName element name = true ∧ (∀ a ∈ attributes, a.WellFormed)
      ∧ inner.WellFormed element ∧ rest.WellFormed element

/-- What an element of the given name may hold: a script or style any text without its close tag,
and any other element a body. -/
def Content.WellFormed (element : Text) : Content → Prop
  | .empty => True
  | .raw s => isRawText element = true ∧ firstClose? element s = none
  | .body b => isRawText element = false ∧ b.WellFormed element

/-- An item that can be told apart from what follows. -/
def Item.WellFormed : Item → Prop
  | .text s => '<' ∉ s
  | .comment s => IsComment s
  | .element name attributes content =>
    IsName name ∧ (∀ a ∈ attributes, a.WellFormed) ∧ content.WellFormed name

-- Texts are gone through character by character; trying all characters would not end.

instance : DecidablePred IsName
  | [] => isFalse (by simp [IsName])
  | c :: t => decidable_of_iff (c.isAlpha = true ∧ t.all isNameChar = true) (by simp [IsName])

instance : DecidablePred Attribute.WellFormed := fun ⟨name, value⟩ =>
  have : Decidable (∀ c ∈ name,
      isBlank c = false ∧ c ≠ '"' ∧ c ≠ '\'' ∧ c ≠ '=' ∧ c ≠ '/' ∧ c ≠ '<' ∧ c ≠ '>') :=
    List.decidableBAll _ name
  have : Decidable (∀ v, value = some v → '"' ∉ v) :=
    decidable_of_iff (value.all (fun v => decide ('"' ∉ v)) = true) (by cases value <;> simp)
  inferInstanceAs (Decidable (name ≠ [] ∧ _ ∧ _))

instance : DecidablePred IsComment := fun s =>
  inferInstanceAs (Decidable (¬ "-->".toList <:+: s ∧ ¬ ">".toList <+: s ∧ ¬ "->".toList <+: s))

instance Body.decidableWellFormed (element : Text) : DecidablePred (Body.WellFormed element)
  | .done => isTrue trivial
  | .text s rest =>
    have := decidableWellFormed element rest
    inferInstanceAs (Decidable ('<' ∉ s ∧ rest.WellFormed element))
  | .comment s rest =>
    have := decidableWellFormed element rest
    inferInstanceAs (Decidable (IsComment s ∧ rest.WellFormed element))
  | .tag _ name tail rest =>
    have := decidableWellFormed element rest
    have : Decidable (∀ c, tail.head? = some c → isNameChar c = false) :=
      decidable_of_iff (tail.head?.all (fun c => !isNameChar c) = true) (by
        cases tail.head? <;> simp)
    inferInstanceAs (Decidable (IsName name ∧ sameName element name = false ∧ _
      ∧ '<' ∉ tail ∧ '>' ∉ tail ∧ rest.WellFormed element))
  | .empty name attributes rest =>
    have := decidableWellFormed element rest
    inferInstanceAs (Decidable (IsName name ∧ sameName element name = true
      ∧ (∀ a ∈ attributes, a.WellFormed) ∧ rest.WellFormed element))
  | .nested name attributes inner rest =>
    have := decidableWellFormed element inner
    have := decidableWellFormed element rest
    inferInstanceAs (Decidable (IsName name ∧ sameName element name = true
      ∧ (∀ a ∈ attributes, a.WellFormed) ∧ inner.WellFormed element ∧ rest.WellFormed element))

instance (element : Text) : DecidablePred (Content.WellFormed element)
  | .empty => isTrue trivial
  | .raw s => inferInstanceAs (Decidable (isRawText element = true ∧ firstClose? element s = none))
  | .body b => inferInstanceAs (Decidable (isRawText element = false ∧ b.WellFormed element))

instance : DecidablePred Item.WellFormed
  | .text s => inferInstanceAs (Decidable ('<' ∉ s))
  | .comment s => inferInstanceAs (Decidable (IsComment s))
  | .element name attributes content =>
    inferInstanceAs (Decidable (IsName name ∧ (∀ a ∈ attributes, a.WellFormed)
      ∧ content.WellFormed name))

/-! ### The elements of a document -/

/-- The element of an item that begins at an offset. -/
def Item.elementAt (start : Nat) : Item → List Element
  | .text _ => []
  | .comment _ => []
  | .element name attributes .empty =>
    [{ name
       rawAttributes := (renderAttributes attributes).tail
       content := []
       start
       contentStart := start + (renderEmpty name attributes).bytes
       contentStop := start + (renderEmpty name attributes).bytes
       stop := start + (renderEmpty name attributes).bytes
       selfClosing := true }]
  | .element name attributes content =>
    [{ name
       rawAttributes := (renderAttributes attributes).tail
       content := content.render
       start
       contentStart := start + (renderOpen name attributes).bytes
       contentStop := start + (renderOpen name attributes).bytes + content.render.bytes
       stop := start + (renderOpen name attributes).bytes + content.render.bytes
         + (renderClose name).bytes
       selfClosing := false }]

/-- The elements of a document that begins at an offset. -/
def elementsAt : (start : Nat) → List Item → List Element
  | _, [] => []
  | start, item :: items => item.elementAt start ++ elementsAt (start + item.render.bytes) items

/-- The attributes of an item that is an element. -/
def Item.attributes? : Item → Option (List Attribute)
  | .element _ attributes _ => some attributes
  | _ => none

/-! ### Names -/

lemma IsName.isNameChar {name : Text} (h : IsName name) : ∀ c ∈ name, isNameChar c = true := by
  obtain ⟨c, t, rfl, hc, ht⟩ := h
  intro d hd
  rcases List.mem_cons.mp hd with rfl | hd
  · simp [Markup.isNameChar, Char.isAlphanum, hc]
  · exact ht d hd

lemma IsName.ne_nil {name : Text} (h : IsName name) : name ≠ [] := by
  obtain ⟨c, t, rfl, -⟩ := h
  simp

/-- A name ends where no name character follows. -/
lemma takeWhile_name {name u : Text} (hname : ∀ c ∈ name, isNameChar c = true)
    (hu : ∀ c, u.head? = some c → isNameChar c = false) :
    List.takeWhile isNameChar (name ++ u) = name ∧ List.dropWhile isNameChar (name ++ u) = u := by
  rw [List.takeWhile_append_of_pos hname, List.dropWhile_append_of_pos hname]
  cases u with
  | nil => simp
  | cons c u =>
      have hc := hu c rfl
      simp [hc]

/-- Two names at the front of one text are the same if each of them ends there. -/
lemma name_unique {n name u v : Text} (hn : ∀ c ∈ n, isNameChar c = true)
    (hname : ∀ c ∈ name, isNameChar c = true) (hu : ∀ c, u.head? = some c → isNameChar c = false)
    (hv : ∀ c, v.head? = some c → isNameChar c = false) (h : n ++ u = name ++ v) : n = name := by
  rw [← (takeWhile_name hn hu).1, h, (takeWhile_name hname hv).1]

lemma isNameChar_of_endsName {c : Char} (h : EndsName c) : isNameChar c = false := by
  rw [Bool.eq_false_iff]
  intro hname
  rcases h with h | rfl | rfl
  · rw [(isNameChar_ne hname).2] at h
    cases h
  · exact absurd hname (by decide)
  · exact absurd hname (by decide)

/-! ### Attributes in a tag -/

/-- Inside a tag, an attribute is passed over: its quotes are its own. -/
lemma tagBody?_attribute {a : Attribute} (h : a.WellFormed) (u : Text) :
    tagBody? none (a.render ++ u) = (tagBody? none u).map (a.render ++ ·) := by
  obtain ⟨name, value⟩ := a
  obtain ⟨-, hname, hvalue⟩ := h
  have hplain : IsPlain (' ' :: name) := by
    intro c hc
    rcases List.mem_cons.mp hc with rfl | hc
    · decide
    · obtain ⟨-, h1, h2, -, -, h3, h4⟩ := hname c hc
      exact ⟨h3, h4, h1, h2⟩
  cases value with
  | none => exact tagBody?_plain (.inl rfl) hplain u
  | some value =>
      have hquoted : ∀ w : Text, '"' ∉ w →
          tagBody? (some '"') (w ++ '"' :: u) = (tagBody? none u).map (w ++ '"' :: ·) := by
        intro w hw
        induction w with
        | nil => rfl
        | cons c w ih =>
            simp only [List.mem_cons, not_or] at hw
            rw [List.cons_append, tagBody?, if_neg (Ne.symm hw.1), ih hw.2, Option.map_map]
            rfl
      have hplain' : IsPlain (' ' :: name ++ ['=']) := by
        intro c hc
        rcases List.mem_append.mp hc with hc | hc
        · exact hplain c hc
        · rw [List.mem_singleton.mp hc]
          decide
      have hrender : ∀ t, Attribute.render ⟨name, some value⟩ ++ t
          = ' ' :: name ++ ['='] ++ '"' :: (value ++ '"' :: t) := by
        intro t
        simp [Attribute.render]
      rw [hrender, tagBody?_plain (.inl rfl) hplain', tagBody?, if_neg (by decide),
        if_neg (by decide), if_pos (by decide), hquoted value (hvalue value rfl)]
      simp [Function.comp_def, Attribute.render]

lemma tagBody?_attributes {attributes : List Attribute} (h : ∀ a ∈ attributes, a.WellFormed)
    (u : Text) :
    tagBody? none (renderAttributes attributes ++ u)
      = (tagBody? none u).map (renderAttributes attributes ++ ·) := by
  induction attributes with
  | nil => simp [renderAttributes]
  | cons a attributes ih =>
      have hcons : renderAttributes (a :: attributes) = a.render ++ renderAttributes attributes :=
        rfl
      rw [hcons, List.append_assoc, tagBody?_attribute (h a (by simp)),
        ih fun b hb => h b (by simp [hb]), Option.map_map]
      simp [Function.comp_def]

/-- Attributes begin with a blank. -/
lemma head?_renderAttributes (attributes : List Attribute) {c : Char}
    (h : (renderAttributes attributes).head? = some c) : c = ' ' := by
  cases attributes with
  | nil => simp [renderAttributes] at h
  | cons a attributes =>
      obtain ⟨name, value⟩ := a
      cases value <;> simpa [renderAttributes, Attribute.render] using h.symm

/-- Attributes end with a quote or a character of a name. -/
lemma getLast?_renderAttributes {attributes : List Attribute} (h : ∀ a ∈ attributes, a.WellFormed)
    {c : Char} (hc : (renderAttributes attributes).getLast? = some c) :
    isBlank c = false ∧ c ≠ '/' := by
  induction attributes using List.reverseRecOn with
  | nil => simp [renderAttributes] at hc
  | append_singleton attributes a =>
      obtain ⟨name, value⟩ := a
      obtain ⟨hne, hname, -⟩ := h ⟨name, value⟩ (by simp)
      cases value with
      | none =>
          have hlast : name.getLast? = some c := by
            have hrender : renderAttributes (attributes ++ [⟨name, none⟩])
                = renderAttributes attributes ++ [' '] ++ name := by
              simp [renderAttributes, Attribute.render]
            rw [hrender, List.getLast?_append_of_ne_nil _ hne] at hc
            exact hc
          obtain ⟨hb, -, -, -, hslash, -⟩ := hname c (List.mem_of_getLast? hlast)
          exact ⟨hb, hslash⟩
      | some value =>
          have hrender : renderAttributes (attributes ++ [⟨name, some value⟩])
              = renderAttributes attributes ++ ' ' :: (name ++ '=' :: '"' :: value) ++ ['"'] := by
            simp [renderAttributes, Attribute.render]
          rw [hrender, List.getLast?_concat, Option.some.injEq] at hc
          subst hc
          decide

/-- Attributes are written with one blank too many. -/
lemma trim_renderAttributes {attributes : List Attribute} (h : ∀ a ∈ attributes, a.WellFormed) :
    Text.trim (renderAttributes attributes) = (renderAttributes attributes).tail := by
  cases attributes with
  | nil => rfl
  | cons a attributes =>
      obtain ⟨name, value⟩ := a
      obtain ⟨hne, hname, -⟩ := h ⟨name, value⟩ (by simp)
      obtain ⟨c, t, hc⟩ := List.exists_cons_of_ne_nil hne
      obtain ⟨u, hu⟩ : ∃ u, renderAttributes (⟨name, value⟩ :: attributes) = ' ' :: c :: u := by
        have hname' : name = c :: t := hc
        cases value <;> simp [renderAttributes, Attribute.render, hname']
      have hcb : isBlank c = false := (hname c (hc ▸ List.mem_cons_self)).1
      have hlast : ∀ d, (c :: u).getLast? = some d → isBlank d = false := by
        intro d hd
        refine (getLast?_renderAttributes h (c := d) ?_).1
        rw [hu, ← hd]
        rfl
      rw [hu, Text.trim, trimStart, List.dropWhile_cons_of_pos (by decide),
        List.dropWhile_cons_of_neg (by simp [hcb]), trimEnd]
      -- nothing is dropped at the end
      cases hrev : (c :: u).reverse with
      | nil => simp at hrev
      | cons d v =>
          have hd : isBlank d = false := by
            apply hlast
            rw [List.getLast?_eq_head?_reverse, hrev]
            rfl
          rw [List.dropWhile_cons_of_neg (by simp [hd]), ← hrev, List.reverse_reverse]
          rfl

/-! ### Tags -/

/-- What follows the name of a tag that is written here ends the name. -/
lemma exists_endsName (attributes : List Attribute) {d : Char} (hd : EndsName d) (t : Text) :
    ∃ c, (renderAttributes attributes ++ d :: t).head? = some c ∧ EndsName c := by
  cases hr : renderAttributes attributes with
  | nil => exact ⟨d, rfl, hd⟩
  | cons c u =>
      obtain rfl : c = ' ' := head?_renderAttributes attributes (by simp [hr])
      exact ⟨' ', rfl, .inl (by decide)⟩

/-- The name of a tag that is written here is read as a whole. -/
lemma takeWhile_tag {name : Text} (hname : IsName name) (attributes : List Attribute) {d : Char}
    (hd : EndsName d) (t : Text) :
    (name ++ (renderAttributes attributes ++ d :: t)).takeWhile isNameChar = name
      ∧ (name ++ (renderAttributes attributes ++ d :: t)).dropWhile isNameChar
        = renderAttributes attributes ++ d :: t := by
  refine takeWhile_name hname.isNameChar fun c hc => ?_
  obtain ⟨c', hc', hends⟩ := exists_endsName attributes hd t
  obtain rfl : c = c' := Option.some.inj (hc.symm.trans hc')
  exact isNameChar_of_endsName hends

section Tags

variable {name : Text} (hname : IsName name) {attributes : List Attribute}
  (hattributes : ∀ a ∈ attributes, a.WellFormed)

include hname hattributes

/-- An opening tag is read as it was written. -/
lemma OpenTag.read?_render (t : Text) :
    OpenTag.read? (renderOpen name attributes ++ t)
      = some (.ofParts name (renderAttributes attributes))
      ∧ (OpenTag.ofParts name (renderAttributes attributes)).text = renderOpen name attributes
      ∧ (OpenTag.ofParts name (renderAttributes attributes)).selfClosing = false
      ∧ (OpenTag.ofParts name (renderAttributes attributes)).rawAttributes
        = (renderAttributes attributes).tail := by
  have hslash : (renderAttributes attributes).getLast? ≠ some '/' :=
    fun h => (getLast?_renderAttributes hattributes h).2 rfl
  refine ⟨?_, by simp [OpenTag.ofParts, renderOpen], by simp [OpenTag.ofParts, hslash], ?_⟩
  · have hrender : renderOpen name attributes ++ t
        = '<' :: (name ++ (renderAttributes attributes ++ '>' :: t)) := by simp [renderOpen]
    obtain ⟨htake, hdrop⟩ := takeWhile_tag hname attributes (.inr (.inl rfl)) t
    rw [hrender, OpenTag.read?_cons, htake, hdrop, if_neg (by simpa using hname.ne_nil),
      tagBody?_attributes hattributes, tagBody?, if_pos rfl]
    simp
  · rw [OpenTag.ofParts, if_neg hslash, trim_renderAttributes hattributes]

/-- An empty tag is read as it was written. -/
lemma OpenTag.read?_renderEmpty (t : Text) :
    OpenTag.read? (renderEmpty name attributes ++ t)
        = some (.ofParts name (renderAttributes attributes ++ ['/']))
      ∧ (OpenTag.ofParts name (renderAttributes attributes ++ ['/'])).text
        = renderEmpty name attributes
      ∧ (OpenTag.ofParts name (renderAttributes attributes ++ ['/'])).selfClosing = true
      ∧ (OpenTag.ofParts name (renderAttributes attributes ++ ['/'])).rawAttributes
        = (renderAttributes attributes).tail := by
  have hslash : (renderAttributes attributes ++ ['/']).getLast? = some '/' := List.getLast?_concat
  refine ⟨?_, by simp [OpenTag.ofParts, renderEmpty], by simp [OpenTag.ofParts], ?_⟩
  · have hrender : renderEmpty name attributes ++ t
        = '<' :: (name ++ (renderAttributes attributes ++ '/' :: '>' :: t)) := by simp [renderEmpty]
    obtain ⟨htake, hdrop⟩ := takeWhile_tag hname attributes (.inr (.inr rfl)) ('>' :: t)
    rw [hrender, OpenTag.read?_cons, htake, hdrop, if_neg (by simpa using hname.ne_nil),
      tagBody?_attributes hattributes, tagBody?, if_neg (by decide), if_neg (by decide),
      if_neg (by decide), tagBody?, if_pos rfl]
    simp
  · rw [OpenTag.ofParts, if_pos hslash, List.dropLast_concat, trim_renderAttributes hattributes]

end Tags

lemma closeTag?_render {element name : Text} (h : sameName element name = true) (t : Text) :
    closeTag? element (renderClose name ++ t) = some (renderClose name) := by
  have hrender : renderClose name ++ t = '<' :: '/' :: (name ++ ([] ++ '>' :: t)) := by
    simp [renderClose]
  rw [hrender, closeTag?_append h (by simp) t]
  simp [renderClose]

/-- Behind `<` and a letter there is no comment, no aside and no close tag. -/
lemma opens_of_isName {name : Text} (h : IsName name) (t : Text) :
    opensComment ('<' :: (name ++ t)) = false ∧ opensAside ('<' :: (name ++ t)) = false
      ∧ opensElement ('<' :: (name ++ t)) = true
      ∧ ∀ element, closeTag? element ('<' :: (name ++ t)) = none := by
  obtain ⟨c, n, rfl, hc, -⟩ := h
  have hne : c ≠ '!' ∧ c ≠ '?' ∧ c ≠ '/' := by
    refine ⟨?_, ?_, ?_⟩ <;> rintro rfl <;> exact absurd hc (by decide)
  obtain ⟨h1, h2, h3⟩ := hne
  refine ⟨?_, by simp [opensAside, h1, h2, h3], by simpa [opensElement] using hc, fun element => ?_⟩
  · rw [opensComment, Bool.eq_false_iff, ne_eq, List.isPrefixOf_iff_prefix]
    rintro ⟨u, hu⟩
    simp only [String.reduceToList, List.cons_append, List.cons.injEq] at hu
    exact h1 hu.2.1.symm
  · rw [Option.eq_none_iff_forall_ne_some]
    intro tag htag
    obtain ⟨m, blanks, rest, hs, -⟩ := closeTag?_eq_some htag
    simp only [List.cons_append, List.cons.injEq] at hs
    exact h3 hs.2.1

/-! ### Comments -/

/-- A mark is found at its first occurrence. -/
lemma splitAt?_first {mark s t : Text}
    (h : ∀ v, v ≠ [] → v <:+ s → ¬ mark <+: v ++ (mark ++ t)) :
    splitAt? mark (s ++ (mark ++ t)) = some (s, mark ++ t) := by
  induction s with
  | nil =>
      cases hm : mark ++ t with
      | nil =>
          obtain ⟨rfl, rfl⟩ := List.append_eq_nil_iff.mp hm
          rfl
      | cons c cs =>
          have hpre : mark.isPrefixOf (c :: cs) = true := List.isPrefixOf_iff_prefix.mpr ⟨t, hm⟩
          rw [List.nil_append, splitAt?, if_pos hpre]
  | cons c s ih =>
      have hno : ¬ mark.isPrefixOf (c :: (s ++ (mark ++ t))) = true := by
        rw [List.isPrefixOf_iff_prefix]
        exact h (c :: s) (by simp) List.suffix_rfl
      rw [List.cons_append, splitAt?, if_neg hno,
        ih fun v hv hs => h v hv (hs.trans (List.suffix_cons c s))]
      rfl

/-- A comment is read as it was written. -/
lemma comment?_render {s : Text} (h : IsComment s) (t : Text) :
    opensComment (renderComment s ++ t) = true
      ∧ comment? (renderComment s ++ t) = some (renderComment s) := by
  obtain ⟨hno, hgt, hdash⟩ := h
  have hassoc : renderComment s ++ t = ("<!--".toList ++ s) ++ ("-->".toList ++ t) := by
    simp only [renderComment, List.append_assoc]
  constructor
  · rw [hassoc, List.append_assoc, opensComment, List.isPrefixOf_iff_prefix]
    exact List.prefix_append _ _
  · have hfirst : splitAt? "-->".toList ("<!--".toList ++ s ++ ("-->".toList ++ t))
        = some ("<!--".toList ++ s, "-->".toList ++ t) := by
      refine splitAt?_first fun v hv hs hpre => ?_
      have hin : "-->".toList <+: v := by
        rcases prefix_append_cases hpre with hin | ⟨m, hm, hcut, hmt⟩
        · exact hin
        -- what is left of the mark would have to be its own beginning
        · exfalso
          rcases v with _ | ⟨a, _ | ⟨b, _ | ⟨c, v⟩⟩⟩
          · exact hv rfl
          · obtain ⟨rfl, rfl⟩ : '-' = a ∧ ['-', '>'] = m := by simpa using hcut
            simp at hmt
          · obtain ⟨rfl, rfl, rfl⟩ : '-' = a ∧ '-' = b ∧ ['>'] = m := by simpa using hcut
            simp at hmt
          · obtain ⟨d, m, rfl⟩ := List.exists_cons_of_ne_nil hm
            simp at hcut
      rcases suffix_append_cases hs with hs | ⟨u, hu, rfl, hopening⟩
      · exact hno (hin.isInfix.trans hs.isInfix)
      · -- the mark begins with the dashes of the opening
        have hcases : u = "<!--".toList ∨ u = "!--".toList ∨ u = "--".toList ∨ u = "-".toList := by
          simp only [String.reduceToList, List.suffix_cons_iff, List.suffix_nil] at hopening
          rcases hopening with rfl | rfl | rfl | rfl | rfl
          · exact .inl rfl
          · exact .inr (.inl rfl)
          · exact .inr (.inr (.inl rfl))
          · exact .inr (.inr (.inr rfl))
          · exact absurd rfl hu
        rcases hcases with rfl | rfl | rfl | rfl
        · simp at hin
        · simp at hin
        · exact hgt (by simpa using hin)
        · exact hdash (by simpa using hin)
    rw [hassoc, comment?, through?, hfirst]
    simp [renderComment]

/-! ### Bodies -/

/-- A tag of another name is no tag of the element, opening or closing. -/
lemma other_tag {element name u : Text} (helement : ∀ c ∈ element, isNameChar c = true)
    (hname : IsName name) (hother : sameName element name = false)
    (hu : ∀ c, u.head? = some c → isNameChar c = false) :
    sameOpen? element ('<' :: (name ++ u)) = none
      ∧ closeTag? element ('<' :: '/' :: (name ++ u)) = none := by
  constructor
  · have hno : opensTag element ('<' :: (name ++ u)) = false := by
      rw [Bool.eq_false_iff, ne_eq, opensTag_iff]
      rintro ⟨n, c, rest, hs, hn, hc⟩
      have hsame : n = name := by
        refine name_unique (isNameChar_of_sameName helement hn) hname.isNameChar
          (u := c :: rest) ?_ hu
          (List.cons.inj hs).2.symm
        rintro d ⟨⟩
        exact isNameChar_of_endsName hc
      rw [hsame, hother] at hn
      cases hn
    simp [sameOpen?, hno]
  · rw [Option.eq_none_iff_forall_ne_some]
    intro tag htag
    obtain ⟨n, blanks, rest, hs, hn, hblanks, -⟩ := closeTag?_eq_some htag
    have hsame : n = name := by
      refine name_unique (isNameChar_of_sameName helement hn) hname.isNameChar
        (u := blanks ++ '>' :: rest) ?_ hu (List.cons.inj (List.cons.inj hs).2).2.symm
      intro d hd
      cases blanks with
      | nil =>
          obtain rfl : '>' = d := by simpa using hd
          decide
      | cons b blanks =>
          obtain rfl : b = d := by simpa using hd
          exact isNameChar_of_endsName (.inl (hblanks b (by simp)))
    rw [hsame, hother] at hn
    cases hn

/-- A tag of the element's own name is recognised. -/
lemma sameOpen?_of_read? {element name u : Text} {tag : OpenTag} (h : sameName element name = true)
    {c : Char} (hu : u.head? = some c) (hc : EndsName c)
    (hread : OpenTag.read? ('<' :: (name ++ u)) = some tag) :
    sameOpen? element ('<' :: (name ++ u)) = some tag := by
  obtain ⟨d, rest, rfl⟩ : ∃ d rest, u = d :: rest := by
    cases u with
    | nil => simp at hu
    | cons d rest => exact ⟨d, rest, rfl⟩
  obtain rfl : d = c := by simpa using hu
  have hopen : opensTag element ('<' :: (name ++ d :: rest)) = true :=
    opensTag_iff.mpr ⟨name, d, rest, rfl, h, hc⟩
  rw [sameOpen?, if_pos hopen, hread]

/-- A search passes over a tag of another name. -/
lemma balancedClose?_otherTag {element name tail : Text}
    (helement : ∀ c ∈ element, isNameChar c = true) (hname : IsName name)
    (hother : sameName element name = false)
    (htail : ∀ c, tail.head? = some c → isNameChar c = false) (hlt : '<' ∉ tail) {closes : Bool}
    (depth : Nat) (t : Text) :
    balancedClose? element depth 0
        ('<' :: ((if closes then ['/'] else []) ++ (name ++ (tail ++ ['>']))) ++ t)
      = (balancedClose? element depth 0 t).map
        (Closing.prepend
          ('<' :: ((if closes then ['/'] else []) ++ (name ++ (tail ++ ['>']))))) := by
  have hu : ∀ c, (tail ++ '>' :: t).head? = some c → isNameChar c = false := by
    intro c hc
    cases tail with
    | nil =>
        obtain rfl : '>' = c := by simpa using hc
        decide
    | cons d tail => exact htail c hc
  obtain ⟨hopenOther, hcloseOther⟩ := other_tag helement hname hother hu
  -- behind the bracket there is only text
  have hinside : '<' ∉ (if closes then ['/'] else []) ++ (name ++ (tail ++ ['>'])) := by
    simp only [List.mem_append, List.mem_singleton, not_or]
    refine ⟨by cases closes <;> simp, fun hc => ?_, hlt, by decide⟩
    exact (isNameChar_ne (hname.isNameChar _ hc)).1 rfl
  have hplain : balancedClose? element depth 0
      ('<' :: ((if closes then ['/'] else []) ++ (name ++ (tail ++ ['>']))) ++ t)
      = (balancedClose? element depth 0
          ((if closes then ['/'] else []) ++ (name ++ (tail ++ ['>'])) ++ t)).map
          (Closing.prepend ['<']) := by
    have hassoc : ∀ s : Text, s ++ (name ++ (tail ++ ['>'])) ++ t
        = s ++ (name ++ (tail ++ '>' :: t)) := by simp
    rw [List.cons_append, hassoc]
    cases closes with
    | false =>
        obtain ⟨hcomment, -, -, hclose⟩ := opens_of_isName hname (tail ++ '>' :: t)
        exact balancedClose?_plain hcomment (hclose element) hopenOther
    | true =>
        refine balancedClose?_plain rfl hcloseOther ?_
        have hno : OpenTag.read? ('<' :: ('/' :: (name ++ (tail ++ '>' :: t)))) = none := rfl
        simp only [if_true, List.cons_append, List.nil_append, sameOpen?, hno, ite_self]
  rw [hplain, balancedClose?_text element depth hinside, Closing.map_prepend_prepend]
  rfl

/-- **A search passes over a body**, at every depth. -/
lemma balancedClose?_render {element : Text} (helement : ∀ c ∈ element, isNameChar c = true)
    {body : Body} (h : body.WellFormed element) (depth : Nat) (t : Text) :
    balancedClose? element depth 0 (body.render ++ t)
      = (balancedClose? element depth 0 t).map (Closing.prepend body.render) := by
  induction body generalizing depth t with
  | done => exact (Closing.map_prepend_nil _).symm
  | text s rest ih =>
      obtain ⟨hs, hrest⟩ := h
      rw [Body.render, List.append_assoc, balancedClose?_text element depth hs, ih hrest,
        Closing.map_prepend_prepend]
  | comment s rest ih =>
      obtain ⟨hs, hrest⟩ := h
      obtain ⟨hopen, hread⟩ := comment?_render hs (rest.render ++ t)
      rw [Body.render, List.append_assoc, balancedClose?_comment hopen hread rfl, ih hrest,
        Closing.map_prepend_prepend]
  | tag closes name tail rest ih =>
      obtain ⟨hname, hother, htail, hlt, -, hrest⟩ := h
      rw [Body.render, List.append_assoc,
        balancedClose?_otherTag helement hname hother htail hlt, ih hrest,
        Closing.map_prepend_prepend]
  | empty name attributes rest ih =>
      obtain ⟨hname, hsame, hattributes, hrest⟩ := h
      obtain ⟨hread, htext, hself, -⟩ :=
        OpenTag.read?_renderEmpty hname hattributes (rest.render ++ t)
      have hassoc : renderEmpty name attributes ++ (rest.render ++ t)
          = '<' ::
            (name ++ (renderAttributes attributes ++ '/' :: ('>' :: (rest.render ++ t)))) := by
        simp [renderEmpty]
      obtain ⟨c, hc, hends⟩ :=
        exists_endsName attributes (.inr (.inr rfl)) ('>' :: (rest.render ++ t))
      rw [hassoc] at hread
      obtain ⟨hcomment, -, -, hclose⟩ := opens_of_isName hname
        (renderAttributes attributes ++ '/' :: ('>' :: (rest.render ++ t)))
      rw [Body.render, List.append_assoc, hassoc,
        balancedClose?_open (v := rest.render ++ t) hcomment (hclose element)
          (sameOpen?_of_read? hsame hc hends hread) (by rw [htext, ← hassoc]),
        hself, if_pos rfl, htext, ih hrest, Closing.map_prepend_prepend]
  | nested name attributes inner rest ihInner ihRest =>
      obtain ⟨hname, hsame, hattributes, hinner, hrest⟩ := h
      set u : Text := inner.render ++ (renderClose name ++ (rest.render ++ t)) with hu
      obtain ⟨hread, htext, hself, -⟩ := OpenTag.read?_render hname hattributes u
      have hassoc : renderOpen name attributes ++ u
          = '<' :: (name ++ (renderAttributes attributes ++ '>' :: u)) := by
        simp [renderOpen]
      obtain ⟨c, hc, hends⟩ := exists_endsName attributes (.inr (.inl rfl)) u
      rw [hassoc] at hread
      obtain ⟨hcomment, -, -, hclose⟩ :=
        opens_of_isName hname (renderAttributes attributes ++ '>' :: u)
      have hwhole : (Body.nested name attributes inner rest).render ++ t
          = '<' :: (name ++ (renderAttributes attributes ++ '>' :: u)) := by
        rw [← hassoc, hu, Body.render]
        simp only [List.append_assoc]
      rw [hwhole, balancedClose?_open (v := u) hcomment (hclose element)
          (sameOpen?_of_read? hsame hc hends hread) (by rw [htext, ← hassoc]),
        hself, if_neg (by simp), htext, hu, ihInner hinner,
        balancedClose?_close_succ (v := rest.render ++ t) rfl (closeTag?_render hsame _) rfl,
        ihRest hrest, Closing.map_prepend_prepend, Closing.map_prepend_prepend,
        Closing.map_prepend_prepend]
      simp only [Body.render, List.append_assoc]

/-! ### Reading attributes back -/

lemma Attribute.render_eq (a : Attribute) : a.render = ' ' :: (a.written []).render := by
  obtain ⟨name, value⟩ := a
  cases value <;> simp [render, written, WrittenAttribute.render, WrittenAttribute.behindName,
    Assignment.render, Quoting.render]

lemma Attribute.WellFormed.written {a : Attribute} (h : a.WellFormed) {blanks : Text}
    (hblanks : ∀ c ∈ blanks, isBlank c = true) : (a.written blanks).WellFormed := by
  obtain ⟨hne, hname, hvalue⟩ := h
  refine wellFormed_written ⟨hblanks, hne, fun c hc => ?_⟩ hvalue
  obtain ⟨hblank, -, -, hequals, -⟩ := hname c hc
  simp [isNameChar, hblank, hequals]

/-- **The attributes of a tag are read back.** -/
lemma Attribute.parse_render {attributes : List Attribute} (h : ∀ a ∈ attributes, a.WellFormed) :
    Attribute.parse (renderAttributes attributes).tail = attributes := by
  cases attributes with
  | nil => rfl
  | cons a attributes =>
      -- the first attribute without its blank, and the others with theirs
      set listed : List WrittenAttribute := a.written [] :: attributes.map (written [' '])
        with hlisted
      have hothers : renderWritten (attributes.map (written [' ']))
          = renderAttributes attributes := by
        rw [renderWritten, renderAttributes, List.flatMap_map]
        exact congrArg (List.flatMap · attributes) (funext fun b => (render_eq b).symm)
      have htail : (renderAttributes (a :: attributes)).tail = renderWritten listed ++ [] := by
        rw [List.append_nil, hlisted, renderWritten_cons, hothers, renderAttributes,
          List.flatMap_cons, render_eq]
        rfl
      have hwell : ∀ b ∈ listed, b.WellFormed := by
        intro b hb
        rcases List.mem_cons.mp hb with rfl | hb
        · exact (h a (by simp)).written (by simp)
        · obtain ⟨c, hc, rfl⟩ := List.mem_map.mp hb
          exact (h c (by simp [hc])).written (by decide)
      have hsetOff : ∀ b ∈ listed.tail, b.blanks ≠ [] := by
        intro b hb
        obtain ⟨c, -, rfl⟩ := List.mem_map.mp hb
        simp [Attribute.written]
      rw [htail, parse_renderWritten hwell hsetOff (by simp)]
      simp [hlisted, Function.comp_def]

/-! ### Scanning -/

/-- A close tag that begins before a bracket ends before it. -/
lemma closeTag?_before_lt {name w t tag : Text} (hname : ∀ c ∈ name, isNameChar c = true)
    (hw : w ≠ []) (h : closeTag? name (w ++ '<' :: t) = some tag) : tag <+: w := by
  obtain ⟨n, blanks, rest, hs, hn, hblanks, rfl⟩ := closeTag?_eq_some h
  have hpre : '<' :: '/' :: (n ++ (blanks ++ ['>'])) <+: w ++ '<' :: t := ⟨rest, by simp [hs]⟩
  rcases prefix_append_cases hpre with hin | ⟨m, hm, hcut, hmt⟩
  · exact hin
  exfalso
  obtain ⟨d, w, rfl⟩ := List.exists_cons_of_ne_nil hw
  obtain ⟨e, m, rfl⟩ := List.exists_cons_of_ne_nil hm
  obtain rfl : e = '<' := (List.cons_prefix_cons.mp hmt).1
  -- the bracket would stand inside the tag
  have hmem : '<' ∈ '/' :: (n ++ (blanks ++ ['>'])) := by
    rw [(List.cons.inj hcut).2]
    simp
  simp only [List.mem_cons, List.mem_append, List.not_mem_nil, or_false] at hmem
  rcases hmem with hc | hc | hc | hc
  · exact absurd hc (by decide)
  · exact (isNameChar_ne (isNameChar_of_sameName hname hn _ hc)).1 rfl
  · exact absurd (hblanks _ hc) (by decide)
  · exact absurd hc (by decide)

/-- A raw element closes at the tag that was written for it. -/
lemma firstClose?_render {name s : Text} (hname : ∀ c ∈ name, isNameChar c = true)
    (h : firstClose? name s = none) (t : Text) :
    firstClose? name (s ++ (renderClose name ++ t)) = some ⟨s, renderClose name⟩ := by
  rw [firstClose?_append, firstClose?_of_closeTag? (closeTag?_render (sameName_refl name) t)]
  · simp [Closing.prepend]
  · intro w hw hs
    rw [Option.eq_none_iff_forall_ne_some]
    intro tag htag
    obtain ⟨v, rfl⟩ := closeTag?_before_lt hname hw htag
    have hnone := firstClose?_eq_none_iff.mp h _ hw hs
    rw [closeTag?_tag_append htag] at hnone
    cases hnone

/-- The element that was written closes at its own tag. -/
lemma closing?_render {name : Text} (hname : IsName name) {content : Content}
    (hcontent : content.WellFormed name) (hne : content ≠ .empty) {tag : OpenTag}
    (htag : tag.name = name) (hself : tag.selfClosing = false) (t : Text) :
    closing? tag (content.render ++ (renderClose name ++ t))
      = some ⟨content.render, renderClose name⟩ := by
  rw [closing?, hself, if_neg (by simp), htag]
  cases content with
  | empty => exact absurd rfl hne
  | raw s =>
      obtain ⟨hraw, hnone⟩ := hcontent
      rw [if_pos hraw]
      exact firstClose?_render hname.isNameChar hnone t
  | body b =>
      obtain ⟨hraw, hbody⟩ := hcontent
      rw [if_neg (by simp [hraw]), Content.render, balancedClose?_render hname.isNameChar hbody,
        balancedClose?_close_zero rfl (closeTag?_render (sameName_refl name) t)]
      simp [Closing.prepend]

/-- Where an item was written, the scan finds its element and goes on behind it. -/
lemma scanFrom_render {item : Item} (h : item.WellFormed) (start : Nat) (t : Text) :
    scanFrom start 0 (item.render ++ t)
      = item.elementAt start ++ scanFrom (start + item.render.bytes) 0 t := by
  cases item with
  | text s => exact scanFrom_text start h t
  | comment s =>
      obtain ⟨hopen, hread⟩ := comment?_render h t
      have haside : Construct.read (renderComment s ++ t) = .aside (renderComment s) := by
        rw [Construct.read, if_pos hopen, hread]
        rfl
      exact scanFrom_aside start haside rfl
  | element name attributes content =>
      obtain ⟨hname, hattributes, hcontent⟩ := h
      by_cases hempty : content = .empty
      · subst hempty
        obtain ⟨hread, htext, hself, hraw⟩ := OpenTag.read?_renderEmpty hname hattributes t
        have hassoc : renderEmpty name attributes ++ t
            = '<' :: (name ++ (renderAttributes attributes ++ '/' :: '>' :: t)) := by
          simp [renderEmpty]
        obtain ⟨hcomment, haside, helement, -⟩ :=
          opens_of_isName hname (renderAttributes attributes ++ '/' :: '>' :: t)
        rw [← hassoc] at hcomment haside helement
        have hconstruct : Construct.read (renderEmpty name attributes ++ t)
            = .element (.ofParts name (renderAttributes attributes ++ ['/'])) ⟨[], []⟩ := by
          refine Construct.read_eq_element.mpr ⟨hcomment, haside, helement, hread, ?_⟩
          rw [closing?, hself]
          rfl
        have hscan := scanFrom_element (v := t) start hconstruct (by simp [htext])
        rw [Item.render, hscan, Item.elementAt, Element.build, htext, hself, hraw]
        simp [OpenTag.ofParts]
      · set u : Text := content.render ++ (renderClose name ++ t) with hu
        obtain ⟨hread, htext, hself, hraw⟩ := OpenTag.read?_render hname hattributes u
        have hassoc : renderOpen name attributes ++ u
            = '<' :: (name ++ (renderAttributes attributes ++ '>' :: u)) := by simp [renderOpen]
        obtain ⟨hcomment, haside, helement, -⟩ :=
          opens_of_isName hname (renderAttributes attributes ++ '>' :: u)
        rw [← hassoc] at hcomment haside helement
        have hconstruct : Construct.read (renderOpen name attributes ++ u)
            = .element (.ofParts name (renderAttributes attributes))
                ⟨content.render, renderClose name⟩ := by
          refine Construct.read_eq_element.mpr ⟨hcomment, haside, helement, hread, ?_⟩
          rw [htext, List.drop_left]
          exact closing?_render hname hcontent hempty rfl hself t
        have hscan := scanFrom_element (v := t) start hconstruct (by rw [htext])
        have hrender : (Item.element name attributes content).render
            = renderOpen name attributes ++ (content.render ++ renderClose name) := by
          cases content with
          | empty => exact absurd rfl hempty
          | raw s => rfl
          | body b => rfl
        have helementAt : (Item.element name attributes content).elementAt start
            = [.build start (.ofParts name (renderAttributes attributes))
                ⟨content.render, renderClose name⟩] := by
          rw [Element.build, htext, hself, hraw]
          cases content with
          | empty => exact absurd rfl hempty
          | raw s => rfl
          | body b => rfl
        have hwhole : renderOpen name attributes ++ (content.render ++ renderClose name) ++ t
            = renderOpen name attributes ++ u := by simp [hu]
        rw [hrender, hwhole, hscan, helementAt, htext]
        rfl

lemma elementsAt_attributes {items : List Item} (h : ∀ item ∈ items, item.WellFormed)
    (start : Nat) :
    (elementsAt start items).map (fun e => Attribute.parse e.rawAttributes)
      = items.filterMap Item.attributes? := by
  induction items generalizing start with
  | nil => rfl
  | cons item items ih =>
      have ih := ih (fun i hi => h i (by simp [hi])) (start + item.render.bytes)
      rw [elementsAt, List.map_append, ih]
      cases item with
      | text s => rfl
      | comment s => rfl
      | element name attributes content =>
          obtain ⟨-, hattributes, -⟩ := h (.element name attributes content) (by simp)
          cases content <;>
            simp [Item.elementAt, Item.attributes?, Attribute.parse_render hattributes]

/-- **Scanning undoes rendering.** The scan of a well-formed document finds its elements in order,
each with its name, its content, its offsets and whether it was written as an empty tag, and their
attributes are read back. -/
theorem scan_render (items : List Item) (h : ∀ item ∈ items, item.WellFormed) :
    scan (render items) = elementsAt 0 items
      ∧ (scan (render items)).map (fun e => Attribute.parse e.rawAttributes)
        = items.filterMap Item.attributes? := by
  have hscan : ∀ start, scanFrom start 0 (render items) = elementsAt start items := by
    induction items with
    | nil => exact fun start => rfl
    | cons item items ih =>
        intro start
        have hcons : render (item :: items) = item.render ++ render items := rfl
        rw [hcons, scanFrom_render (h item (by simp)), ih fun i hi => h i (by simp [hi])]
        rfl
  have hzero : scan (render items) = elementsAt 0 items := hscan 0
  exact ⟨hzero, by rw [hzero, elementsAt_attributes h]⟩

/-- A body with a close tag in a comment, tags whose name begins with that of the element, an empty
tag and a nested element, both in other letter cases. -/
def nestedBody : Body :=
  .text "a > b".toList (.comment "</template>".toList (.tag false "templates".toList " a='b'".toList
    (.tag true "templates".toList [] (.empty "TEMPLATE".toList [⟨"#x".toList, none⟩]
      (.nested "Template".toList [⟨":y".toList, some "</template>".toList⟩] (.text "z".toList .done)
        .done)))))

/-- A document with such a body, a bracket in an attribute and a script full of markup. -/
def nestedItems : List Item :=
  [.text "a > b\n".toList, .comment " <template> ".toList,
    .element "template".toList [⟨"v-if".toList, some "a<b && c>'d".toList⟩] (.body nestedBody),
    .element "Script".toList [⟨"setup".toList, none⟩, ⟨"lang".toList, some "ts".toList⟩]
      (.raw "'</scripts>' <template> <!-- </script".toList),
    .element "x-y".toList [] .empty]

lemma nestedItems_wellFormed : ∀ item ∈ nestedItems, item.WellFormed := by decide +kernel

/-- `scan_render` for a document in which nearly every text looks like the markup around it. -/
theorem scan_render_nestedItems :
    (∀ item ∈ nestedItems, item.WellFormed)
      ∧ scan (render nestedItems) = elementsAt 0 nestedItems
      ∧ (scan (render nestedItems)).map (fun e => Attribute.parse e.rawAttributes)
        = nestedItems.filterMap Item.attributes? :=
  ⟨nestedItems_wellFormed, scan_render nestedItems nestedItems_wellFormed⟩

end Markup

end ComponentFile
