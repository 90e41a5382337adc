import Mathlib.Tactic
import ComponentFile.Proofs.Markup.Graft

/-!
Every element closes at the right tag, whatever the text.

The content of an element is read from left to right in pieces (`Piece.read?`): a comment, a close
tag or an opening tag of the element's name is one piece, and anything else goes character by
character. An opening tag that is not self-closing counts as one more element of the name, a close
tag as one less.

* `Walks name pieces s rest`: the pieces are what is read off the front of `s`, down to `rest`.
* `balancedClose?_cases` says what the search does with one piece, and `walks_of_balancedClose?`
  what it has passed when it ends: close tags never outnumber the opening ones by more than the
  depth it began with.
* `scan_closes` puts this together with `firstClose?_eq_some` for raw elements.
-/

namespace ComponentFile

open Text

namespace Markup

/-! ### Pieces of content -/

/-- How a piece counts in the depth of an element. -/
inductive Mark where
  /-- One more element of the name is open. -/
  | opening
  /-- One less is. -/
  | closing
  /-- It does not count. -/
  | neutral
  deriving DecidableEq, Repr

/-- A part of the content that is read as a whole. -/
structure Piece where
  /-- The text of the part. -/
  text : Text
  /-- How it counts. -/
  mark : Mark
  deriving DecidableEq, Repr

/-- The piece that a text begins with, in the content of an element of the given name. There is none
at the end of the text, nor in a comment that never ends. -/
def Piece.read? (name : Text) : Text → Option Piece
  | [] => none
  | c :: cs =>
    if opensComment (c :: cs) then (comment? (c :: cs)).map (⟨·, .neutral⟩)
    else match closeTag? name (c :: cs) with
      | some tag => some ⟨tag, .closing⟩
      | none =>
        match sameOpen? name (c :: cs) with
        | some tag => some ⟨tag.text, if tag.selfClosing then .neutral else .opening⟩
        | none => some ⟨[c], .neutral⟩

/-- The pieces are read one after the other off the front of a text, and leave `rest`. -/
inductive Walks (name : Text) : (pieces : List Piece) → (s rest : Text) → Prop where
  | nil (rest : Text) : Walks name [] rest rest
  | cons {piece : Piece} {pieces : List Piece} {s rest : Text}
      (hpiece : Piece.read? name (piece.text ++ s) = some piece) (h : Walks name pieces s rest) :
      Walks name (piece :: pieces) (piece.text ++ s) rest

/-- The number of opening tags among pieces. -/
def opens (pieces : List Piece) : Nat := pieces.countP (·.mark = .opening)

/-- The number of close tags among pieces. -/
def closes (pieces : List Piece) : Nat := pieces.countP (·.mark = .closing)

/-- Close tags never outnumber the opening ones, and in the end there are as many. -/
structure Balanced (pieces : List Piece) : Prop where
  nonneg : ∀ front, front <+: pieces → closes front ≤ opens front
  final : opens pieces = closes pieces

lemma opens_append (a b : List Piece) : opens (a ++ b) = opens a + opens b := List.countP_append

lemma closes_append (a b : List Piece) : closes (a ++ b) = closes a + closes b :=
  List.countP_append

/-- A close tag among balanced pieces closes what one before it has opened. -/
lemma Balanced.closes_lt {pieces front : List Piece} {piece : Piece} (h : Balanced pieces)
    (hfront : front ++ [piece] <+: pieces) (hpiece : piece.mark = .closing) :
    closes front < opens front := by
  have hle := h.nonneg _ hfront
  have hopens : opens [piece] = 0 := by simp [opens, hpiece]
  have hcloses : closes [piece] = 1 := by simp [closes, hpiece]
  rw [opens_append, closes_append] at hle
  omega

lemma Walks.text_eq {name : Text} {pieces : List Piece} {s rest : Text}
    (h : Walks name pieces s rest) : s = pieces.flatMap (·.text) ++ rest := by
  induction h with
  | nil rest => rfl
  | cons _ _ ih => rw [List.flatMap_cons, List.append_assoc, ← ih]

/-! ### The balanced search -/

/-- What the search does with the first piece: it ends there, or it goes on behind it at the depth
that the piece leads to. -/
lemma balancedClose?_cases {name : Text} {depth : Nat} {s : Text} {closing : Closing}
    (h : balancedClose? name depth 0 s = some closing) :
    ∃ piece v, s = piece.text ++ v ∧ 0 < piece.text.length ∧ Piece.read? name s = some piece
      ∧ ((piece = ⟨closing.tag, .closing⟩ ∧ depth = 0 ∧ closing.content = [])
        ∨ ∃ later depth', balancedClose? name depth' 0 v = some later
            ∧ closing = later.prepend piece.text
            ∧ depth' + closes [piece] = depth + opens [piece]) := by
  cases s with
  | nil => simp [balancedClose?] at h
  | cons c cs =>
      by_cases hcomment : opensComment (c :: cs) = true
      · cases hread : comment? (c :: cs) with
        | none =>
            rw [balancedClose?_endless hcomment hread] at h
            cases h
        | some t =>
            obtain ⟨v, hv⟩ := through?_eq_some hread
            rw [balancedClose?_comment hcomment hread hv] at h
            obtain ⟨later, hlater, rfl⟩ := Option.map_eq_some_iff.mp h
            exact ⟨⟨t, .neutral⟩, v, hv, length_pos_of_through? (by simp) hread,
              by rw [Piece.read?, if_pos hcomment, hread]; rfl,
              .inr ⟨later, depth, hlater, rfl, rfl⟩⟩
      · rw [Bool.not_eq_true] at hcomment
        cases hclose : closeTag? name (c :: cs) with
        | some tag =>
            obtain ⟨v, hv⟩ := closeTag?_text hclose
            have hread : Piece.read? name (c :: cs) = some ⟨tag, .closing⟩ := by
              rw [Piece.read?, if_neg (by simp [hcomment]), hclose]
            refine ⟨⟨tag, .closing⟩, v, hv, length_pos_of_closeTag? hclose, hread, ?_⟩
            cases depth with
            | zero =>
                rw [balancedClose?_close_zero hcomment hclose] at h
                obtain rfl := Option.some.inj h
                exact .inl ⟨rfl, rfl, rfl⟩
            | succ depth =>
                rw [balancedClose?_close_succ hcomment hclose hv] at h
                obtain ⟨later, hlater, rfl⟩ := Option.map_eq_some_iff.mp h
                exact .inr ⟨later, depth, hlater, rfl, rfl⟩
        | none =>
            cases hopen : sameOpen? name (c :: cs) with
            | some tag =>
                obtain ⟨v, hv⟩ := OpenTag.read?_text (read?_of_sameOpen? hopen)
                obtain ⟨n, body, -, -, -, -, htag, -⟩ :=
                  OpenTag.read?_eq_some (read?_of_sameOpen? hopen)
                rw [balancedClose?_open hcomment hclose hopen hv] at h
                obtain ⟨later, hlater, rfl⟩ := Option.map_eq_some_iff.mp h
                refine ⟨⟨tag.text, if tag.selfClosing then .neutral else .opening⟩, v, hv,
                  by simp [htag, OpenTag.ofParts],
                  by rw [Piece.read?, if_neg (by simp [hcomment]), hclose, hopen],
                  .inr ⟨later, _, hlater, rfl, ?_⟩⟩
                cases tag.selfClosing <;> rfl
            | none =>
                rw [balancedClose?_plain hcomment hclose hopen] at h
                obtain ⟨later, hlater, rfl⟩ := Option.map_eq_some_iff.mp h
                exact ⟨⟨[c], .neutral⟩, cs, rfl, Nat.one_pos,
                  by rw [Piece.read?, if_neg (by simp [hcomment]), hclose, hopen],
                  .inr ⟨later, depth, hlater, rfl, rfl⟩⟩

/-- What the search has passed when it ends, and where it ends. -/
lemma walks_of_balancedClose? {name : Text} {depth : Nat} {s : Text} {closing : Closing}
    (h : balancedClose? name depth 0 s = some closing) :
    ∃ pieces rest, Walks name pieces s rest ∧ pieces.flatMap (·.text) = closing.content
      ∧ Piece.read? name rest = some ⟨closing.tag, .closing⟩
      ∧ (∀ front, front <+: pieces → closes front ≤ depth + opens front)
      ∧ closes pieces = depth + opens pieces := by
  induction hlen : s.length using Nat.strong_induction_on generalizing s depth closing with
  | _ k ih =>
      obtain ⟨piece, v, rfl, hpos, hread, hend | ⟨later, depth', hlater, rfl, hd⟩⟩ :=
        balancedClose?_cases h
      · obtain ⟨rfl, rfl, hcontent⟩ := hend
        refine ⟨[], _, .nil _, hcontent.symm, hread, fun front hfront => ?_, rfl⟩
        rw [List.prefix_nil.mp hfront]
        exact Nat.zero_le _
      · rw [List.length_append] at hlen
        obtain ⟨pieces, rest, hwalks, hcontent, hend, hnonneg, hfinal⟩ :=
          ih v.length (by omega) hlater rfl
        refine ⟨piece :: pieces, rest, .cons hread hwalks, ?_, hend, fun front hfront => ?_, ?_⟩
        · rw [List.flatMap_cons, hcontent]
          rfl
        · rcases List.prefix_cons_iff.mp hfront with rfl | ⟨front, rfl, hinner⟩
          · exact Nat.zero_le _
          · have hle := hnonneg front hinner
            have hopens := opens_append [piece] front
            have hcloses := closes_append [piece] front
            rw [List.singleton_append] at hopens hcloses
            omega
        · have hopens := opens_append [piece] pieces
          have hcloses := closes_append [piece] pieces
          rw [List.singleton_append] at hopens hcloses
          omega

/-! ### Elements of a scan -/

/-- No close tag begins in the content of a raw element. -/
lemma closeTag?_of_firstClose? {name s : Text} {closing : Closing}
    (h : firstClose? name s = some closing) (before : Text) {a b : Text}
    (hab : before ++ s = a ++ b) (hstart : before.bytes ≤ a.bytes)
    (hstop : a.bytes < before.bytes + closing.content.bytes) : closeTag? name b = none := by
  obtain ⟨v, rfl, -, hnone⟩ := firstClose?_eq_some h
  obtain ⟨m, rfl, hm⟩ := split_of_bytes_le hab hstart
  rw [bytes_append] at hstop
  obtain ⟨w, hw, rfl⟩ := split_of_bytes_le hm.symm (by omega)
  refine hnone w ?_ (hw ▸ List.suffix_append m w)
  rintro rfl
  rw [List.append_nil] at hw
  rw [hw] at hstop
  omega

/-- **Every element closes at the right tag.** An element with a body ends with a close tag of its
name. In a raw element no close tag of the name begins before it. In any other one the content is
read in pieces, tags of the name and comments as a whole, and among these the close tags answer to
the opening ones: the tag at which the element ends is the first one at depth zero. -/
theorem scan_closes (text : Text) {e : Element} (he : e ∈ scan text)
    (hbody : e.selfClosing = false) :
    ∃ before tag rest, text = before ++ (e.content ++ (tag ++ rest))
      ∧ before.bytes = e.contentStart ∧ (before ++ e.content).bytes = e.contentStop
      ∧ (before ++ e.content ++ tag).bytes = e.stop
      ∧ closeTag? e.name (tag ++ rest) = some tag
      ∧ (isRawText e.name = true → ∀ a b, text = a ++ b →
        e.contentStart ≤ a.bytes → a.bytes < e.contentStop → closeTag? e.name b = none)
      ∧ (isRawText e.name = false →
        ∃ pieces, Walks e.name pieces (e.content ++ (tag ++ rest)) (tag ++ rest)
          ∧ Balanced pieces
          ∧ ∀ front piece, front ++ [piece] <+: pieces → piece.mark = .closing →
            closes front < opens front) := by
  obtain ⟨found, later, hscan⟩ := List.append_of_mem he
  obtain ⟨p, r, tag, closing, rfl, -, hread, rfl⟩ := exists_passes hscan
  obtain ⟨-, -, -, htag, hclosing⟩ := Construct.read_eq_element.mp hread
  obtain ⟨rest, rfl, -⟩ := Construct.element_text hread
  rw [List.drop_left] at hclosing
  simp only [Element.build] at hbody ⊢
  obtain ⟨v, hv, hclose⟩ := closing?_closeTag hclosing hbody
  obtain rfl := List.append_cancel_left hv
  rw [closing?, if_neg (by simp [hbody])] at hclosing
  refine ⟨p ++ tag.text, closing.tag, rest, by simp, by simp, by simp; omega, by simp; omega,
    hclose, fun hraw a b hab hstart hstop => ?_, fun hraw => ?_⟩
  · rw [if_pos hraw] at hclosing
    have hbytes := bytes_append p tag.text
    exact closeTag?_of_firstClose? hclosing (p ++ tag.text) (by rw [← hab]; simp) (by omega)
      (by omega)
  · rw [if_neg (by simp [hraw])] at hclosing
    obtain ⟨pieces, v, hwalks, hcontent, -, hnonneg, hfinal⟩ := walks_of_balancedClose? hclosing
    have hv := hwalks.text_eq
    rw [hcontent] at hv
    obtain rfl := List.append_cancel_left hv
    have hbalanced : Balanced pieces :=
      ⟨fun front hfront => by simpa using hnonneg front hfront, by omega⟩
    exact ⟨pieces, hwalks, hbalanced, fun _ _ => hbalanced.closes_lt⟩

/-- `scan_closes` for an element that holds close tags in an attribute and in a comment, a tag that
is never finished, a self-closing one and one of a longer name, and for a script that begins with
half a close tag. -/
theorem scan_closes_nested :
    let text : Text :=
      "<a><a b='</a>'><a <!--</a>--></A\n>é<a/><ab></a><Script></</a></SCRIPT>".toList
    ∃ a script, scan text = [a, script]
      ∧ (a.selfClosing = false ∧ isRawText a.name = false
        ∧ ∃ rest pieces, Walks a.name pieces (a.content ++ rest) rest ∧ Balanced pieces)
      ∧ script.selfClosing = false ∧ isRawText script.name = true
        ∧ ∀ u v, text = u ++ v → script.contentStart ≤ u.bytes → u.bytes < script.contentStop →
          closeTag? script.name v = none := by
  intro text
  have hsorts : (scan text).map (fun e => (e.selfClosing, isRawText e.name))
      = [(false, false), (false, true)] := by decide +kernel
  obtain ⟨a, script, hscan⟩ := List.length_eq_two.mp (by simpa using congrArg List.length hsorts)
  simp only [hscan, List.map_cons, List.map_nil, List.cons.injEq, Prod.mk.injEq] at hsorts
  obtain ⟨⟨ha, hname⟩, ⟨hscript, hraw⟩, -⟩ := hsorts
  obtain ⟨-, tag, rest, -, -, -, -, -, -, hpieces⟩ :=
    scan_closes text (hscan ▸ List.mem_cons_self) ha
  obtain ⟨-, -, -, -, -, -, -, -, hnone, -⟩ :=
    scan_closes text (hscan ▸ List.mem_cons_of_mem a List.mem_cons_self) hscript
  obtain ⟨pieces, hwalks, hbalanced, -⟩ := hpieces hname
  exact ⟨a, script, hscan, ⟨ha, hname, tag ++ rest, pieces, hwalks, hbalanced⟩, hscript, hraw,
    hnone hraw⟩

end Markup

end ComponentFile
