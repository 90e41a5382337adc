import Mathlib.Tactic
import Mathlib.Data.Prod.Lex
import ComponentFile.Proofs.Text.Boundary

/-!
Offsets and line/column pairs are two names for the same points, in the same order.

* `Position.lineColumn_lt_after`: walking over characters only moves on, in the order of lines and
  then of columns.
* `position_isGreatest`: an offset that is no boundary is taken down to the last boundary before it.
* `Text.LineAt text line before l after`: the line of a number is `l`, and it stands between
  `before` and `after`. It says what a line is without counting offsets.
* `LineAt.offset_eq` splits an offset at the start of its line, and `exists_unitIndex` says that a
  column inside a character is taken up to the end of the character.
* `translates` puts the two directions together (`Text.Translates`).
-/

namespace ComponentFile

open Text

namespace Position

/-! ### The order of points -/

/-- The line and column of a point, ordered by lines first. -/
def lineColumn (p : Position) : Nat ×ₗ Nat := toLex (p.line, p.column)

lemma lineColumn_lt_next (p : Position) (c : Char) : p.lineColumn < (p.next c).lineColumn := by
  rw [lineColumn, lineColumn, Prod.Lex.toLex_lt_toLex, next]
  have hpos := unitsOf_pos c
  split
  · exact .inl (Nat.lt_succ_self p.line)
  · exact .inr ⟨rfl, Nat.lt_add_of_pos_right hpos⟩

/-- Walking over characters only moves on. -/
lemma lineColumn_lt_after (p : Position) {s : Text} (h : s ≠ []) :
    p.lineColumn < (p.after s).lineColumn := by
  induction s generalizing p with
  | nil => exact absurd rfl h
  | cons c s ih =>
      rw [after_cons]
      by_cases hs : s = []
      · subst hs
        exact lineColumn_lt_next p c
      · exact (lineColumn_lt_next p c).trans (ih (p.next c) hs)

/-- Walking over a text passes its line feeds. -/
lemma after_line (p : Position) (s : Text) : (p.after s).line = p.line + s.count '\n' := by
  induction s generalizing p with
  | nil => rfl
  | cons c s ih =>
      rw [after_cons, ih, List.count_cons, next]
      by_cases hc : c = '\n'
      · simp [hc]; omega
      · simp [hc]

/-- Inside a line, walking over a text counts its units. -/
lemma after_of_notMem (p : Position) {s : Text} (h : '\n' ∉ s) :
    p.after s = ⟨p.line, p.column + s.units, p.offset + s.bytes⟩ := by
  induction s generalizing p with
  | nil => rfl
  | cons c s ih =>
      simp only [List.mem_cons, not_or] at h
      rw [after_cons, ih _ h.2, next, if_neg (Ne.symm h.1), units_cons, bytes_cons]
      simp only [Nat.add_assoc]

end Position

namespace Text

/-- **Positions follow the order of boundaries.** -/
lemma position_strictMonoOn (text : Text) :
    StrictMonoOn (fun o => (text.position o).lineColumn) {o | text.IsBoundary o} := by
  rintro o ⟨s, t, hs, rfl⟩ o' ⟨s', t', hs', rfl⟩ hlt
  obtain ⟨m, rfl, rfl⟩ := split_of_bytes_le (hs.symm.trans hs') hlt.le
  have hm : m ≠ [] := by
    rintro rfl
    simp at hlt
  have hfirst : text.position s.bytes = Position.origin.after s := by
    rw [hs, position_append]
  have hsecond : text.position (bytes (s ++ m)) = (Position.origin.after s).after m := by
    rw [hs', position_append, Position.after_append]
  show (text.position s.bytes).lineColumn < (text.position (bytes (s ++ m))).lineColumn
  rw [hfirst, hsecond]
  exact Position.lineColumn_lt_after _ hm

/-! ### Points -/

/-- A point of a text is reached by walking over a first part of it. -/
def HasPoint (text : Text) (p : Position) : Prop :=
  ∃ s t, text = s ++ t ∧ p = Position.origin.after s

namespace HasPoint

variable {text : Text} {p q : Position}

lemma isBoundary (h : text.HasPoint p) : text.IsBoundary p.offset := by
  obtain ⟨s, t, rfl, rfl⟩ := h
  exact ⟨s, t, rfl, (Position.origin_after_offset s).symm⟩

/-- A point is that of its offset. -/
lemma position_eq (h : text.HasPoint p) : text.position p.offset = p := by
  obtain ⟨s, t, rfl, rfl⟩ := h
  rw [Position.origin_after_offset, position_append]

/-- A point is found again from its line and column. -/
lemma offset_eq (h : text.HasPoint p) : text.offset p.line p.column = p.offset := by
  obtain ⟨s, t, rfl, rfl⟩ := h
  rw [offset_after, Position.origin_after_offset]

/-- Points are in the order of their lines and columns. -/
lemma lt_iff (hp : text.HasPoint p) (hq : text.HasPoint q) :
    p.offset < q.offset ↔ p.lineColumn < q.lineColumn := by
  have hiff := (position_strictMonoOn text).lt_iff_lt hp.isBoundary hq.isBoundary
  rw [hp.position_eq, hq.position_eq] at hiff
  exact hiff.symm

/-- Later points are on later lines. -/
lemma line_mono (hp : text.HasPoint p) (hq : text.HasPoint q) (h : p.offset ≤ q.offset) :
    p.line ≤ q.line := by
  by_contra hlt
  have hbehind : q.lineColumn < p.lineColumn :=
    Prod.Lex.toLex_lt_toLex.mpr (.inl (not_le.mp hlt))
  have := (hq.lt_iff hp).mpr hbehind
  omega

/-- A point is on a line that exists. -/
lemma line_le (h : text.HasPoint p) : p.line ≤ text.count '\n' := by
  obtain ⟨s, t, rfl, rfl⟩ := h
  rw [Position.after_line, List.count_append]
  simp [Position.origin]

end HasPoint

/-! ### Offsets inside characters -/

lemma le_advance_offset (p : Position) {s : Text} (t : Text) {n : Nat} (h : s.bytes ≤ n) :
    p.offset + s.bytes ≤ (advance p n (s ++ t)).offset := by
  induction s generalizing p n with
  | nil =>
      obtain ⟨before, -, -, -, hpoint⟩ := exists_advance p n t
      rw [List.nil_append, hpoint, Position.after_offset]
      simp
  | cons c s ih =>
      rw [bytes_cons] at h ⊢
      have hnext : (p.next c).offset = p.offset + c.utf8Size := by
        rw [Position.next]
        split <;> rfl
      have hrest := ih (p.next c) (n := n - c.utf8Size) (by omega)
      rw [List.cons_append, advance, if_pos (by omega)]
      omega

/-- **An offset is taken down to the last boundary before it.** -/
lemma position_isGreatest (text : Text) (o : Nat) :
    IsGreatest {b | text.IsBoundary b ∧ b ≤ min o text.bytes} (text.position o).offset := by
  constructor
  · obtain ⟨before, rest, rfl, hle, hpoint⟩ := exists_position text o
    rw [hpoint, Position.origin_after_offset]
    exact ⟨⟨before, rest, rfl, rfl⟩, le_min hle (by simp)⟩
  · rintro b ⟨⟨before, rest, rfl, rfl⟩, hle⟩
    have hbound := le_advance_offset .origin rest (hle.trans (min_le_left _ _))
    rw [Position.origin, Nat.zero_add] at hbound
    exact hbound

/-! ### Lines -/

/-- The line of the given number is `l`, between `before` and `after`: it holds no line feed, and
there is one on either side unless the text ends there. -/
structure LineAt (text : Text) (line : Nat) (before l after : Text) : Prop where
  text_eq : text = before ++ (l ++ after)
  count_eq : before.count '\n' = line
  opens : before = [] ∨ before.getLast? = some '\n'
  closes : after = [] ∨ after.head? = some '\n'
  notMem : '\n' ∉ l

/-- A character of the line begins at this column, or the line ends there. -/
def IsColumn (l : Text) (k : Nat) : Prop := ∃ a b, l = a ++ b ∧ a.units = k

section Lines

variable {text before l after : Text} {line : Nat}

/-- There are as many lines as line feeds, and one more. -/
lemma exists_lineAt (h : line ≤ text.count '\n') : ∃ before l after,
    LineAt text line before l after := by
  induction text generalizing line with
  | nil =>
      obtain rfl : line = 0 := by simpa using h
      exact ⟨[], [], [], rfl, rfl, .inl rfl, .inl rfl, by simp⟩
  | cons c cs ih =>
      by_cases hc : c = '\n'
      · subst hc
        cases line with
        | zero => exact ⟨[], [], '\n' :: cs, rfl, rfl, .inl rfl, .inr rfl, by simp⟩
        | succ line =>
            have hle : line ≤ cs.count '\n' := by simpa using h
            obtain ⟨before, l, after, rfl, hcount, hopens, hcloses, hfeed⟩ := ih hle
            refine ⟨'\n' :: before, l, after, rfl, by simp [hcount], .inr ?_, hcloses, hfeed⟩
            rcases hopens with rfl | hlast
            · rfl
            · rw [List.getLast?_cons, hlast]
              rfl
      · have hle : line ≤ cs.count '\n' := by simpa [hc] using h
        obtain ⟨before, l, after, rfl, hcount, hopens, hcloses, hfeed⟩ := ih hle
        rcases hopens with rfl | hlast
        · refine ⟨[], c :: l, after, rfl, hcount, .inl rfl, hcloses, ?_⟩
          simpa [hfeed] using Ne.symm hc
        · refine ⟨c :: before, l, after, rfl, by simpa [hc] using hcount, .inr ?_, hcloses, hfeed⟩
          rw [List.getLast?_cons, hlast]
          rfl

/-- The point of a column of a line. -/
lemma LineAt.after_eq (h : LineAt text line before l after) {a b : Text} (hl : l = a ++ b) :
    Position.origin.after (before ++ a) = ⟨line, a.units, (before ++ a).bytes⟩ := by
  have hstart : Position.origin.after before = ⟨line, 0, before.bytes⟩ := by
    have hline : (Position.origin.after before).line = line := by
      rw [Position.after_line, h.count_eq]
      simp [Position.origin]
    have hoffset := Position.origin_after_offset before
    have hcolumn : (Position.origin.after before).column = 0 := by
      rcases h.opens with rfl | hlast
      · rfl
      · obtain ⟨s, rfl⟩ := List.getLast?_eq_some_iff.mp hlast
        rw [Position.after_append, Position.after_cons, Position.after_nil, Position.next,
          if_pos rfl]
    rw [← hline, ← hoffset, ← hcolumn]
  have ha : '\n' ∉ a := fun hmem => h.notMem (by rw [hl]; exact List.mem_append_left b hmem)
  rw [Position.after_append, hstart, Position.after_of_notMem _ ha, bytes_append, Nat.zero_add]

/-- On the first line, an offset is that of a column. -/
lemma offset_zero_append (hl : '\n' ∉ l) (hafter : after = [] ∨ after.head? = some '\n')
    (column : Nat) : offset (l ++ after) 0 column = l.unitIndex column := by
  induction l generalizing column with
  | nil =>
      rcases hafter with rfl | hhead
      · rfl
      · obtain ⟨rest, rfl⟩ := List.head?_eq_some_iff.mp hhead
        exact offset_newline_zero rest column
  | cons c l ih =>
      simp only [List.mem_cons, not_or] at hl
      rw [List.cons_append, offset_cons_zero (Ne.symm hl.1), unitIndex, ih hl.2]

/-- **The offset of a column is counted from the start of its line.** -/
lemma LineAt.offset_eq (h : LineAt text line before l after) (column : Nat) :
    text.offset line column = before.bytes + l.unitIndex column := by
  obtain ⟨rfl, hcount, hopens, hcloses, hfeed⟩ := h
  induction before generalizing line with
  | nil =>
      obtain rfl : 0 = line := hcount
      rw [List.nil_append, offset_zero_append hfeed hcloses, bytes_nil, Nat.zero_add]
  | cons c before ih =>
      have hbefore : before = [] ∨ before.getLast? = some '\n' := by
        by_cases hnil : before = []
        · exact .inl hnil
        · rw [List.getLast?_cons_of_ne_nil hnil] at hopens
          exact .inr (hopens.resolve_left (by simp))
      by_cases hc : c = '\n'
      · subst hc
        obtain ⟨rfl⟩ : before.count '\n' + 1 = line := by simpa using hcount
        rw [List.cons_append, offset_newline_succ, ih rfl hbefore, bytes_cons, Nat.add_assoc]
        rfl
      · -- the line begins behind a later line feed
        have hlast : before.getLast? = some '\n' := by
          rcases hbefore with rfl | hlast
          · simp [hc] at hopens
          · exact hlast
        have hmem : 0 < before.count '\n' := List.count_pos_iff.mpr (List.mem_of_getLast? hlast)
        obtain ⟨n, hn⟩ : ∃ n, line = n + 1 := by
          refine ⟨line - 1, ?_⟩
          simp only [List.count_cons, beq_iff_eq, if_neg hc] at hcount
          omega
        subst hn
        rw [List.cons_append, offset_cons_succ hc,
          ih (by simpa [hc] using hcount) hbefore, bytes_cons, Nat.add_assoc]

/-- A line that exists begins at a point of the text. -/
lemma hasPoint_lineStart (h : line ≤ text.count '\n') :
    text.HasPoint ⟨line, 0, text.offset line 0⟩ := by
  obtain ⟨before, l, after, hat⟩ := exists_lineAt h
  have hpoint := hat.after_eq (List.nil_append l).symm
  rw [List.append_nil] at hpoint
  have hoffset : text.offset line 0 = before.bytes := by
    rw [hat.offset_eq]
    cases l <;> rfl
  refine ⟨before, l ++ after, hat.text_eq, ?_⟩
  rw [hpoint, hoffset]
  rfl

/-- A line that does not exist means the end of the text. -/
lemma offset_of_count_lt (text : Text) {line : Nat} (h : text.count '\n' < line) (column : Nat) :
    text.offset line column = text.bytes := by
  induction text generalizing line with
  | nil => exact offset_nil line column
  | cons c cs ih =>
      obtain ⟨n, rfl⟩ : ∃ n, line = n + 1 := ⟨line - 1, by omega⟩
      by_cases hc : c = '\n'
      · subst hc
        rw [offset_newline_succ, ih (by simpa using h)]
        rfl
      · rw [offset_cons_succ hc, ih (by simpa [hc] using h), bytes_cons]

/-- **A column is taken up to the next one at which a character begins or the line ends.** -/
lemma exists_unitIndex (l : Text) (column : Nat) : ∃ a b, l = a ++ b
    ∧ l.unitIndex column = a.bytes
    ∧ (column ≤ l.units → IsLeast {k | l.IsColumn k ∧ column ≤ k} a.units)
    ∧ (l.units < column → a = l) := by
  induction l generalizing column with
  | nil =>
      refine ⟨[], [], rfl, rfl, fun hle => ⟨⟨⟨[], [], rfl, rfl⟩, hle⟩, ?_⟩, fun _ => rfl⟩
      exact fun k _ => Nat.zero_le k
  | cons c l ih =>
      have hc := unitsOf_pos c
      by_cases hzero : column = 0
      · subst hzero
        refine ⟨[], c :: l, rfl, rfl, fun hle => ⟨⟨⟨[], c :: l, rfl, rfl⟩, le_rfl⟩, ?_⟩, ?_⟩
        · exact fun k _ => Nat.zero_le k
        · intro hlt
          exact absurd hlt (Nat.not_lt_zero _)
      · obtain ⟨a, b, rfl, hindex, hleast, hpast⟩ := ih (column - unitsOf c)
        refine ⟨c :: a, b, rfl, by rw [unitIndex, if_neg hzero, hindex, bytes_cons], ?_, ?_⟩
        · intro hle
          rw [units_cons] at hle
          obtain ⟨⟨-, hreached⟩, hlower⟩ := hleast (by omega)
          refine ⟨⟨⟨c :: a, b, rfl, rfl⟩, by rw [units_cons]; omega⟩, ?_⟩
          rintro k ⟨⟨a', b', hsplit, rfl⟩, hk⟩
          cases a' with
          | nil =>
              rw [units_nil] at hk
              omega
          | cons d a' =>
              obtain ⟨rfl, htail⟩ : c = d ∧ a ++ b = a' ++ b' := by simpa using hsplit
              rw [units_cons] at hk ⊢
              have hother := hlower ⟨⟨a', b', htail, rfl⟩, by omega⟩
              rw [units_cons]
              omega
        · intro hlt
          rw [units_cons] at hlt
          have hall : a = a ++ b := hpast (by omega)
          rw [← hall]

end Lines

/-! ### Both directions -/

/-- Offsets and line/column pairs translate into each other. -/
structure Translates (text : Text) : Prop where
  /-- A boundary is found again from its line and column. -/
  offset_position : ∀ o, text.IsBoundary o →
    text.offset (text.position o).line (text.position o).column = o
  /-- Lines and columns are in the order of the boundaries. -/
  strictMono : StrictMonoOn (fun o => (text.position o).lineColumn) {o | text.IsBoundary o}
  /-- Any offset is taken down to the last boundary that it reaches. -/
  greatest : ∀ o,
    IsGreatest {b | text.IsBoundary b ∧ b ≤ min o text.bytes} (text.position o).offset
  /-- Any line and column mean a boundary. -/
  isBoundary : ∀ line column,
    text.IsBoundary (text.offset line column) ∧ text.offset line column ≤ text.bytes
      ∧ (text.position (text.offset line column)).offset = text.offset line column
  /-- The lines are numbered up to the number of line feeds. -/
  exists_line : ∀ line, line ≤ text.count '\n' ↔ ∃ before l after, LineAt text line before l after
  /-- A line that does not exist means the end of the text. -/
  pastEnd : ∀ line column, text.count '\n' < line →
    text.offset line column = text.bytes
      ∧ text.position (text.offset line column) = Position.origin.after text
  /-- The point of a line and column lies on the line. -/
  line_eq : ∀ line column before l after, LineAt text line before l after →
    (text.position (text.offset line column)).line = line
  /-- Its column is the next one at which a character of the line begins or the line ends. -/
  column_isLeast : ∀ line column before l after, LineAt text line before l after →
    column ≤ l.units →
      IsLeast {k | l.IsColumn k ∧ column ≤ k} (text.position (text.offset line column)).column
  /-- A column past the line means the end of the line. -/
  column_eq_units : ∀ line column before l after, LineAt text line before l after →
    l.units < column → (text.position (text.offset line column)).column = l.units

/-- The point of a line and column of a line that exists. -/
lemma LineAt.position_eq {text before l after : Text} {line : Nat}
    (h : LineAt text line before l after) (column : Nat) : ∃ a b, l = a ++ b
      ∧ text.position (text.offset line column) = ⟨line, a.units, (before ++ a).bytes⟩
      ∧ (column ≤ l.units → IsLeast {k | l.IsColumn k ∧ column ≤ k} a.units)
      ∧ (l.units < column → a = l) := by
  obtain ⟨a, b, hl, hindex, hleast, hpast⟩ := exists_unitIndex l column
  refine ⟨a, b, hl, ?_, hleast, hpast⟩
  have htext : text = before ++ a ++ (b ++ after) := by
    rw [h.text_eq, hl]
    simp
  have hoffset : text.offset line column = (before ++ a).bytes := by
    rw [h.offset_eq, hindex, bytes_append]
  rw [hoffset, ← h.after_eq hl]
  nth_rewrite 1 [htext]
  exact position_append _ _

/-- **Offsets and line/column pairs are two names for the same points**, in the same order, and
every offset and every pair is brought to the nearest point on a fixed side. -/
theorem translates (text : Text) : text.Translates where
  offset_position _ h := Text.offset_position h
  strictMono := position_strictMonoOn text
  greatest := position_isGreatest text
  isBoundary line column := by
    have hboundary := isBoundary_offset text line column
    refine ⟨hboundary, hboundary.le, ?_⟩
    obtain ⟨before, rest, rfl, hbytes⟩ := hboundary
    rw [← hbytes, position_append, Position.origin_after_offset]
  exists_line line := by
    refine ⟨exists_lineAt, ?_⟩
    rintro ⟨before, l, after, rfl, hcount, -⟩
    rw [List.count_append]
    omega
  pastEnd line column h := by
    have hend := offset_of_count_lt text h column
    have hpoint := position_append text []
    rw [List.append_nil] at hpoint
    exact ⟨hend, by rw [hend, hpoint]⟩
  line_eq line column before l after h := by
    obtain ⟨a, b, -, hpoint, -⟩ := h.position_eq column
    rw [hpoint]
  column_isLeast line column before l after h hle := by
    obtain ⟨a, b, -, hpoint, hleast, -⟩ := h.position_eq column
    rw [hpoint]
    exact hleast hle
  column_eq_units line column before l after h hlt := by
    obtain ⟨a, b, -, hpoint, -, hpast⟩ := h.position_eq column
    rw [hpoint, hpast hlt]

/-- A column between the two units of a character means the end of the character. -/
example : let text : Text := "é😀\nb"; text.position (text.offset 0 2) = ⟨0, 3, 6⟩ := by decide

end Text

end ComponentFile
