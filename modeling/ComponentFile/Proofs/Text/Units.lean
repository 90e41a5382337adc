import Mathlib.Tactic
import ComponentFile.Edit
import ComponentFile.Proofs.Text.Boundary

/-!
Texts as sequences of UTF-16 code units.

`Text.utf16` is the form in which an editor holds a text, and a `Buffer` is any sequence of units.
Editors count lines and columns in units (`Buffer.index?`); a caret must not stand between the two
units of one character (`Buffer.splitsPair`). `Buffer.change?` is what a change does to a buffer,
and it is undefined where the change is not valid.

* `Text.utf16_injective`: a text is determined by its units.
* `Buffer.index?_utf16Of_zero`, `Buffer.index?_utf16Of_succ`: carets step over one character at a
  time.
* `pointAt_of_index?`: a valid caret of the units of a text is a boundary of the text, at the offset
  that `Text.offset` gives.
* `utf16_apply`, `utf16_foldl_apply`: valid changes have the same effect on a text and on its units.
-/

namespace ComponentFile

/-- A sequence of UTF-16 code units. -/
abbrev Buffer := List UInt16

namespace Text

/-! ### Units -/

/-- The units of a character: one, or a pair of surrogates beyond the basic plane. -/
def utf16Of (c : Char) : Buffer :=
  if c.toNat < 0x10000 then [c.toNat.toUInt16]
  else [(0xD800 + (c.toNat - 0x10000) / 0x400).toUInt16,
    (0xDC00 + (c.toNat - 0x10000) % 0x400).toUInt16]

/-- The units of a text. -/
def utf16 (text : Text) : Buffer := text.flatMap utf16Of

/-- Whether a unit is the first one of a pair. -/
def isHighSurrogate (u : UInt16) : Bool := 0xD800 ≤ u.toNat && u.toNat ≤ 0xDBFF

/-- Whether a unit is the second one of a pair. -/
def isLowSurrogate (u : UInt16) : Bool := 0xDC00 ≤ u.toNat && u.toNat ≤ 0xDFFF

@[simp] lemma utf16_nil : utf16 [] = [] := rfl

@[simp] lemma utf16_cons (c : Char) (s : Text) : utf16 (c :: s) = utf16Of c ++ utf16 s := rfl

@[simp] lemma utf16_append (s t : Text) : utf16 (s ++ t) = utf16 s ++ utf16 t :=
  List.flatMap_append

lemma toNat_lt (c : Char) : c.toNat < 0x110000 := by
  rcases c.valid with h | ⟨-, h⟩
  · exact h.trans (by decide)
  · exact h

lemma toNat_not_surrogate (c : Char) : c.toNat < 0xD800 ∨ 0xDFFF < c.toNat := by
  rcases c.valid with h | ⟨h, -⟩
  · exact .inl h
  · exact .inr h

/-- The two forms of a character in units. -/
lemma utf16Of_cases (c : Char) :
    (∃ u, utf16Of c = [u] ∧ u.toNat = c.toNat ∧ unitsOf c = 1 ∧ c.toNat < 0x10000)
      ∨ ∃ h l, utf16Of c = [h, l] ∧ h.toNat = 0xD800 + (c.toNat - 0x10000) / 0x400
        ∧ l.toNat = 0xDC00 + (c.toNat - 0x10000) % 0x400 ∧ unitsOf c = 2 ∧ 0x10000 ≤ c.toNat := by
  by_cases hc : c.toNat < 0x10000
  · left
    refine ⟨_, by rw [utf16Of, if_pos hc], ?_, by rw [unitsOf, if_pos hc], hc⟩
    exact UInt16.toNat_ofNat_of_lt' (by simpa using hc)
  · right
    have hlt := toNat_lt c
    refine ⟨_, _, by rw [utf16Of, if_neg hc], ?_, ?_, by rw [unitsOf, if_neg hc], by omega⟩
    · exact UInt16.toNat_ofNat_of_lt' (by rw [UInt16.size]; omega)
    · exact UInt16.toNat_ofNat_of_lt' (by rw [UInt16.size]; omega)

lemma length_utf16Of (c : Char) : (utf16Of c).length = unitsOf c := by
  rcases utf16Of_cases c with ⟨u, hu, -, hunits, -⟩ | ⟨h, l, hu, -, -, hunits, -⟩
  · rw [hu, hunits]
    rfl
  · rw [hu, hunits]
    rfl

/-- The first unit of a character and its number of units tell it apart from every other one. -/
lemma utf16Of_append_inj {c d : Char} {s t : Buffer} (h : utf16Of c ++ s = utf16Of d ++ t) :
    c = d ∧ s = t := by
  have hchar : ∀ {c d : Char}, c.toNat = d.toNat → c = d := fun h => Char.toNat_inj.mp h
  have hcs := toNat_not_surrogate c
  have hds := toNat_not_surrogate d
  have hcl := toNat_lt c
  have hdl := toNat_lt d
  rcases utf16Of_cases c with ⟨u, hu, hun, -, -⟩ | ⟨u, v, hu, hun, hvn, -, hc⟩ <;>
    rcases utf16Of_cases d with ⟨u', hu', hun', -, -⟩ | ⟨u', v', hu', hun', hvn', -, hd⟩ <;>
    rw [hu, hu'] at h <;> simp only [List.cons_append, List.nil_append, List.cons.injEq] at h
  · obtain ⟨rfl, rfl⟩ := h
    exact ⟨hchar (hun.symm.trans hun'), rfl⟩
  · -- a single unit is no surrogate
    obtain ⟨rfl, -⟩ := h
    omega
  · obtain ⟨rfl, -⟩ := h
    omega
  · obtain ⟨rfl, rfl, rfl⟩ := h
    exact ⟨hchar (by omega), rfl⟩

/-- A text is determined by its units. -/
lemma utf16_injective : Function.Injective utf16 := by
  intro s
  induction s with
  | nil =>
      intro t h
      cases t with
      | nil => rfl
      | cons d t =>
          have := congrArg List.length h
          have hd := unitsOf_pos d
          simp only [utf16_nil, utf16_cons, List.length_append, List.length_nil,
            length_utf16Of] at this
          omega
  | cons c s ih =>
      intro t h
      cases t with
      | nil =>
          have := congrArg List.length h
          have hc := unitsOf_pos c
          simp only [utf16_nil, utf16_cons, List.length_append, List.length_nil,
            length_utf16Of] at this
          omega
      | cons d t =>
          rw [utf16_cons, utf16_cons] at h
          obtain ⟨rfl, hst⟩ := utf16Of_append_inj h
          rw [ih hst]

end Text

namespace Buffer

open Text

/-! ### Buffers of an editor -/

/-- The unit that ends a line. -/
def lineFeed : UInt16 := 10

/-- The index of a line and column; there is none for a line that does not exist, or a column past
the end of its line. -/
def index? : Buffer → (line column : Nat) → Option Nat
  | _, 0, 0 => some 0
  | [], _, _ => none
  | u :: b, 0, column + 1 => if u = lineFeed then none else (index? b 0 column).map (· + 1)
  | u :: b, line + 1, column =>
    (index? b (if u = lineFeed then line else line + 1) column).map (· + 1)

/-- Whether an index lies between the two units of a pair. -/
def splitsPair (b : Buffer) : (index : Nat) → Bool
  | 0 => false
  | i + 1 => b[i]?.any isHighSurrogate && b[i + 1]?.any isLowSurrogate

/-- The index of a caret at which a text may be inserted. -/
def caret? (b : Buffer) (caret : Caret) : Option Nat :=
  (b.index? caret.line caret.column).filter (!b.splitsPair ·)

/-- The buffer after a change; there is none if the range has no valid ends, or ends before it
starts. -/
def change? (b : Buffer) (change : Change) : Option Buffer :=
  match change.range with
  | none => some change.text.utf16
  | some (start, stop) => do
    let first ← b.caret? start
    let last ← b.caret? stop
    if first ≤ last then some (b.take first ++ (change.text.utf16 ++ b.drop last)) else none

lemma splitsPair_of_append {b b' : Buffer} {i : Nat}
    (h : (b ++ b').splitsPair (b.length + i) = false) : b'.splitsPair i = false := by
  cases i with
  | zero => rfl
  | succ i =>
      rw [← Nat.add_assoc, splitsPair, Nat.add_assoc, List.getElem?_append_right (by omega),
        List.getElem?_append_right (by omega), Nat.add_sub_cancel_left,
        Nat.add_sub_cancel_left] at h
      exact h

/-- On the line of the front, a unit that is no line feed counts one column. -/
lemma index?_cons_zero {u : UInt16} (hu : u ≠ lineFeed) (b : Buffer) (column : Nat) :
    index? (u :: b) 0 (column + 1) = (index? b 0 column).map (· + 1) := by
  rw [index?, if_neg hu]

/-- Before a later line, a unit that is no line feed counts nothing. -/
lemma index?_cons_succ {u : UInt16} (hu : u ≠ lineFeed) (b : Buffer) (line column : Nat) :
    index? (u :: b) (line + 1) column = (index? b (line + 1) column).map (· + 1) := by
  rw [index?, if_neg hu]

lemma lineFeed_ne {c : Char} (hc : c ≠ '\n') {u : UInt16} (hu : u.toNat = c.toNat) :
    u ≠ lineFeed := by
  rintro rfl
  have hten : c.toNat = '\n'.toNat := hu.symm
  exact hc (Char.toNat_inj.mp hten)

lemma lineFeed_ne_of_large {u : UInt16} (hu : 0xD800 ≤ u.toNat) : u ≠ lineFeed := by
  rintro rfl
  exact absurd hu (by decide)

/-- The units of a character that ends no line are columns of the line of the front. -/
lemma index?_utf16Of_zero {c : Char} (hc : c ≠ '\n') (b : Buffer) (column : Nat) :
    index? (utf16Of c ++ b) 0 (column + (utf16Of c).length)
      = (index? b 0 column).map (· + (utf16Of c).length) := by
  rcases utf16Of_cases c with ⟨u, hu, hun, -, -⟩ | ⟨u, v, hu, hun, hvn, -, -⟩
  · have hfeed := lineFeed_ne hc hun
    rw [hu, List.singleton_append, List.length_singleton, index?_cons_zero hfeed]
  · have hfeed : u ≠ lineFeed := lineFeed_ne_of_large (by omega)
    have hfeed' : v ≠ lineFeed := lineFeed_ne_of_large (by omega)
    have hlength : [u, v].length = 1 + 1 := rfl
    rw [hu, hlength, ← Nat.add_assoc, List.cons_append, List.singleton_append,
      index?_cons_zero hfeed, index?_cons_zero hfeed', Option.map_map]
    rfl

/-- Before a later line they count nothing. -/
lemma index?_utf16Of_succ {c : Char} (hc : c ≠ '\n') (b : Buffer) (line column : Nat) :
    index? (utf16Of c ++ b) (line + 1) column
      = (index? b (line + 1) column).map (· + (utf16Of c).length) := by
  rcases utf16Of_cases c with ⟨u, hu, hun, -, -⟩ | ⟨u, v, hu, hun, hvn, -, -⟩
  · have hfeed := lineFeed_ne hc hun
    rw [hu, List.singleton_append, index?_cons_succ hfeed]
    rfl
  · have hfeed : u ≠ lineFeed := lineFeed_ne_of_large (by omega)
    have hfeed' : v ≠ lineFeed := lineFeed_ne_of_large (by omega)
    rw [hu, List.cons_append, List.singleton_append, index?_cons_succ hfeed,
      index?_cons_succ hfeed', Option.map_map]
    rfl

/-- A column between the units of a character splits a pair. -/
lemma splitsPair_of_index? {c : Char} {b : Buffer} {column i : Nat} (hpos : 0 < column)
    (hlt : column < (utf16Of c).length) (h : index? (utf16Of c ++ b) 0 column = some i) :
    (utf16Of c ++ b).splitsPair i = true := by
  have hc := toNat_lt c
  rcases utf16Of_cases c with ⟨u, hu, -⟩ | ⟨u, v, hu, hun, hvn, -, -⟩
  · rw [hu, List.length_singleton] at hlt
    omega
  · have hfeed : u ≠ lineFeed := lineFeed_ne_of_large (by omega)
    rw [hu] at hlt h ⊢
    obtain rfl : column = 0 + 1 := by
      have htwo : column < 2 := hlt
      omega
    rw [List.cons_append, index?_cons_zero hfeed, index?] at h
    obtain rfl : 1 = i := Option.some.inj h
    simp only [splitsPair, isHighSurrogate, isLowSurrogate, List.cons_append,
      List.getElem?_cons_zero, List.getElem?_cons_succ, Option.any_some, Bool.and_eq_true,
      decide_eq_true_eq]
    omega

end Buffer

open Text

/-! ### Carets of a text and of its units -/

/-- The line and column stand for a boundary of the text with `i` units before it, and the text
gives them the offset of that boundary. -/
def Text.PointAt (text : Text) (line column i : Nat) : Prop :=
  ∃ before rest : Text, text = before ++ rest ∧ before.utf16.length = i
    ∧ text.offset line column = before.bytes

lemma pointAt_front (text : Text) : text.PointAt 0 0 0 := by
  refine ⟨[], text, rfl, rfl, ?_⟩
  have hfront := offset_after [] text
  exact hfront

/-- A point of the rest of a text is a point of the text. -/
lemma Text.PointAt.cons {text : Text} {line' column' k : Nat} (h : text.PointAt line' column' k)
    {c : Char} {line column i : Nat} (hi : i = k + (utf16Of c).length)
    (hoffset : offset (c :: text) line column = c.utf8Size + text.offset line' column') :
    PointAt (c :: text) line column i := by
  obtain ⟨before, rest, rfl, hlen, hbytes⟩ := h
  refine ⟨c :: before, rest, rfl, ?_, ?_⟩
  · rw [utf16_cons, List.length_append, hlen, hi, Nat.add_comm]
  · rw [hoffset, hbytes, bytes_cons]

/-- **A valid caret of the units of a text is a point of the text.** -/
lemma pointAt_of_index? {text : Text} {line column i : Nat}
    (hindex : text.utf16.index? line column = some i) (hwhole : text.utf16.splitsPair i = false) :
    text.PointAt line column i := by
  induction text generalizing line column i with
  | nil =>
      cases line with
      | zero =>
          cases column with
          | zero =>
              obtain rfl : 0 = i := by simpa [Buffer.index?] using hindex
              exact pointAt_front []
          | succ column => simp [Buffer.index?] at hindex
      | succ line => simp [Buffer.index?] at hindex
  | cons c text ih =>
      -- a caret behind `c` is a caret of the rest
      have step : ∀ {line' column' k : Nat}, (utf16 text).index? line' column' = some k →
          i = k + (utf16Of c).length →
          offset (c :: text) line column = c.utf8Size + offset text line' column' →
          PointAt (c :: text) line column i := by
        intro line' column' k hk hi hoffset
        rw [utf16_cons, hi, Nat.add_comm] at hwhole
        exact (ih hk (Buffer.splitsPair_of_append hwhole)).cons hi hoffset
      have front : line = 0 → column = 0 → PointAt (c :: text) line column i := by
        rintro rfl rfl
        obtain rfl : 0 = i := by simpa [Buffer.index?] using hindex
        exact pointAt_front _
      rw [utf16_cons] at hindex hwhole
      by_cases hc : c = '\n'
      · subst hc
        cases line with
        | zero =>
            cases column with
            | zero => exact front rfl rfl
            | succ column => exact absurd hindex (by simp [utf16Of, Buffer.index?, Buffer.lineFeed])
        | succ line =>
            have hnext : Buffer.index? (utf16Of '\n' ++ utf16 text) (line + 1) column
                = ((utf16 text).index? line column).map (· + 1) := by
              cases column <;> rfl
            rw [hnext] at hindex
            obtain ⟨k, hk, rfl⟩ := Option.map_eq_some_iff.mp hindex
            exact step hk rfl (offset_newline_succ text line column)
      · cases line with
        | zero =>
            rcases Nat.lt_or_ge column (utf16Of c).length with hlt | hge
            · cases column with
              | zero => exact front rfl rfl
              | succ column =>
                  have hsplits := Buffer.splitsPair_of_index? (Nat.succ_pos column) hlt hindex
                  exact absurd (hsplits.symm.trans hwhole) (by decide)
            · obtain ⟨column, rfl⟩ := Nat.exists_eq_add_of_le' hge
              rw [Buffer.index?_utf16Of_zero hc] at hindex
              obtain ⟨k, hk, rfl⟩ := Option.map_eq_some_iff.mp hindex
              refine step hk rfl ?_
              have hpos := unitsOf_pos c
              rw [length_utf16Of, offset_cons_zero hc, if_neg (by omega), Nat.add_sub_cancel]
        | succ line =>
            rw [Buffer.index?_utf16Of_succ hc] at hindex
            obtain ⟨k, hk, rfl⟩ := Option.map_eq_some_iff.mp hindex
            exact step hk rfl (offset_cons_succ hc text line column)

lemma pointAt_of_caret? {text : Text} {caret : Caret} {i : Nat}
    (h : text.utf16.caret? caret = some i) : text.PointAt caret.line caret.column i := by
  obtain ⟨hindex, hwhole⟩ := Option.filter_eq_some_iff.mp h
  exact pointAt_of_index? hindex (by simpa using hwhole)

/-! ### Changes -/

/-- Of two boundaries, the one with fewer units before it comes first. -/
lemma split_of_length_le {s s' t t' : Text} (h : s ++ t = s' ++ t')
    (hle : s.utf16.length ≤ s'.utf16.length) : ∃ m, s' = s ++ m := by
  rcases List.append_eq_append_iff.mp h with ⟨m, hs', -⟩ | ⟨m, rfl, -⟩
  · exact ⟨m, hs'⟩
  · cases m with
    | nil => exact ⟨[], by simp⟩
    | cons c m =>
        have hc := unitsOf_pos c
        simp only [utf16_append, utf16_cons, List.length_append, length_utf16Of] at hle
        omega

/-- **A valid change does the same to a text and to its units.** -/
lemma utf16_apply {text : Text} {change : Change} {b : Buffer}
    (h : text.utf16.change? change = some b) : (change.apply text).utf16 = b := by
  rw [Buffer.change?] at h
  rw [Change.apply]
  cases hrange : change.range with
  | none =>
      rw [hrange] at h
      exact Option.some.inj h
  | some range =>
      obtain ⟨start, stop⟩ := range
      rw [hrange] at h
      obtain ⟨first, hfirst, h⟩ := Option.bind_eq_some_iff.mp h
      obtain ⟨last, hlast, h⟩ := Option.bind_eq_some_iff.mp h
      split at h
      case isFalse => cases h
      case isTrue hle =>
        obtain rfl := Option.some.inj h
        obtain ⟨s, t, hst, hs, hfirstOffset⟩ := pointAt_of_caret? hfirst
        obtain ⟨s', t', hst', hs', hlastOffset⟩ := pointAt_of_caret? hlast
        obtain ⟨m, rfl⟩ := split_of_length_le (hst.symm.trans hst') (by rw [hs, hs']; exact hle)
        have hmax : max s.bytes (bytes (s ++ m)) = bytes (s ++ m) := by
          rw [bytes_append]
          omega
        have hcut : (text.cut s.bytes).1 = s := by rw [hst, cut_append]
        have hcut' : (text.cut (bytes (s ++ m))).2 = t' := by rw [hst', cut_append]
        have htake : text.utf16.take first = s.utf16 := by
          rw [hst, utf16_append, ← hs, List.take_left]
        have hdrop : text.utf16.drop last = t'.utf16 := by
          rw [hst', utf16_append, ← hs', List.drop_left]
        dsimp only
        rw [hfirstOffset, hlastOffset, hmax, hcut, hcut', htake, hdrop]
        simp

/-- Changes in a row, each valid in what the ones before it have left. -/
lemma utf16_foldl_apply {changes : List Change} {text : Text} {b : Buffer}
    (h : changes.foldlM Buffer.change? text.utf16 = some b) :
    utf16 (changes.foldl (fun text change => change.apply text) text) = b := by
  induction changes generalizing text with
  | nil => exact Option.some.inj h
  | cons change changes ih =>
      rw [List.foldlM_cons] at h
      obtain ⟨b', hb', hrest⟩ := Option.bind_eq_some_iff.mp h
      rw [← utf16_apply hb'] at hrest
      exact ih hrest

end ComponentFile
