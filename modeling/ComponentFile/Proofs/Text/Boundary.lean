import Mathlib.Tactic
import ComponentFile.Edit

/-!
Offsets between characters, and the two translations read on them.

An offset is a boundary of a text (`Text.IsBoundary`) if it is the byte length of a first part of
the text. On boundaries everything is concatenation: `cut_append` cuts `before ++ rest` where the
two parts meet, and `position_append` says that the point there is `Position.origin.after before`.

* `after_append`, `after_eq_within`: walking over a text is walking over its parts, and a walk that
  begins elsewhere is the walk from the origin, re-anchored.
* `offset_newline_succ`, `offset_cons_zero`, `offset_cons_succ`: the offset of a line and column,
  one character at a time.
* `offset_after`, `offset_position`: on boundaries `Text.offset` undoes `Text.position`.
* `isBoundary_offset`: whatever line and column are asked for, the answer is a boundary.
* `offset_next_line`: the start of a line is just past the line feed before it.
-/

namespace ComponentFile

namespace Position

/-! ### Walking over a text -/

lemma within_origin (p : Position) : origin.within p = p := by
  simp [within, origin]

/-- Re-anchoring twice is re-anchoring once, at the re-anchored anchor. -/
lemma within_within (p q r : Position) : (p.within q).within r = p.within (q.within r) := by
  by_cases hp : p.line = 0
  · by_cases hq : q.line = 0 <;> simp [within, hp, hq] <;> omega
  · simp [within, hp]; omega

lemma next_origin_within (p : Position) (c : Char) : (origin.next c).within p = p.next c := by
  by_cases h : c = '\n' <;> simp [next, within, origin, h]

@[simp] lemma after_nil (p : Position) : p.after [] = p := rfl

@[simp] lemma after_cons (p : Position) (c : Char) (s : Text) :
    p.after (c :: s) = (p.next c).after s := rfl

/-- Walking over a text is walking over its parts. -/
lemma after_append (p : Position) (s t : Text) : p.after (s ++ t) = (p.after s).after t := by
  induction s generalizing p with
  | nil => rfl
  | cons c s ih => exact ih (p.next c)

/-- A walk that begins at `p` is the walk from the origin, re-anchored at `p`. -/
lemma after_eq_within (p : Position) (s : Text) : p.after s = (origin.after s).within p := by
  induction s generalizing p with
  | nil => exact (within_origin p).symm
  | cons c s ih =>
      rw [after_cons, after_cons, ih, ih (origin.next c), within_within, next_origin_within]

lemma after_offset (p : Position) (s : Text) : (p.after s).offset = p.offset + s.bytes := by
  induction s generalizing p with
  | nil => rfl
  | cons c s ih =>
      rw [after_cons, ih, Text.bytes_cons]
      by_cases h : c = '\n' <;> simp [next, h] <;> omega

lemma origin_after_offset (s : Text) : (origin.after s).offset = s.bytes := by
  rw [after_offset]; simp [origin]

/-- Lines are only left at line feeds. -/
lemma after_line_of_notMem (p : Position) {s : Text} (h : '\n' ∉ s) :
    (p.after s).line = p.line := by
  induction s generalizing p with
  | nil => rfl
  | cons c s ih =>
      simp only [List.mem_cons, not_or] at h
      rw [after_cons, ih _ h.2, next, if_neg (Ne.symm h.1)]

lemma line_le_after (p : Position) (s : Text) : p.line ≤ (p.after s).line := by
  rw [after_eq_within]; simp [within]

end Position

namespace Text

/-! ### Boundaries -/

/-- Whether an offset lies between two characters of a text, or at one of its ends. -/
def IsBoundary (text : Text) (offset : Nat) : Prop :=
  ∃ before rest, text = before ++ rest ∧ before.bytes = offset

lemma IsBoundary.le {text : Text} {offset : Nat} (h : text.IsBoundary offset) :
    offset ≤ text.bytes := by
  obtain ⟨before, rest, rfl, rfl⟩ := h
  simp

lemma isBoundary_zero (text : Text) : text.IsBoundary 0 := ⟨[], text, rfl, rfl⟩

lemma IsBoundary.cons {text : Text} {offset : Nat} (c : Char) (h : text.IsBoundary offset) :
    IsBoundary (c :: text) (c.utf8Size + offset) := by
  obtain ⟨before, rest, rfl, rfl⟩ := h
  exact ⟨c :: before, rest, rfl, rfl⟩

/-- A text without bytes has no characters. -/
lemma bytes_eq_zero {text : Text} : text.bytes = 0 ↔ text = [] := by
  cases text with
  | nil => simp
  | cons c cs =>
      have := c.utf8Size_pos
      simp; omega

/-- Two first parts of a text of the same byte length are the same. -/
lemma append_inj_of_bytes {s s' t t' : Text} (h : s ++ t = s' ++ t') (hb : s.bytes = s'.bytes) :
    s = s' ∧ t = t' := by
  induction s generalizing s' with
  | nil =>
      have hs' : s' = [] := bytes_eq_zero.mp (by simpa using hb.symm)
      subst hs'
      exact ⟨rfl, h⟩
  | cons c s ih =>
      cases s' with
      | nil =>
          have := c.utf8Size_pos
          simp at hb; omega
      | cons d s' =>
          simp only [List.cons_append, List.cons.injEq] at h
          obtain ⟨rfl, h⟩ := h
          obtain ⟨rfl, rfl⟩ := ih h (by simpa using hb)
          exact ⟨rfl, rfl⟩

/-- Of two boundaries the lower one comes first: its part before begins the other's. -/
lemma split_of_bytes_le {s s' t t' : Text} (h : s ++ t = s' ++ t') (hb : s.bytes ≤ s'.bytes) :
    ∃ m, s' = s ++ m ∧ t = m ++ t' := by
  rcases List.append_eq_append_iff.mp h with ⟨m, hs', ht⟩ | ⟨m, hs, ht'⟩
  · exact ⟨m, hs', ht⟩
  · have hm : m = [] := by
      rw [hs, bytes_append] at hb
      exact bytes_eq_zero.mp (by omega)
    subst hm
    exact ⟨[], by simpa using hs.symm, by simpa using ht'.symm⟩

/-! ### Cutting -/

/-- A text is cut where two of its parts meet. -/
@[simp] lemma cut_append (before rest : Text) :
    (before ++ rest).cut before.bytes = (before, rest) := by
  induction before with
  | nil => cases rest <;> simp [cut]
  | cons c before ih =>
      have hc := c.utf8Size_pos
      have hn : c.utf8Size + bytes before ≠ 0 := by omega
      simp only [List.cons_append, bytes_cons, cut, if_neg hn, Nat.add_sub_cancel_left, ih]

lemma cut_fst_append_snd (text : Text) (offset : Nat) :
    (text.cut offset).1 ++ (text.cut offset).2 = text := by
  induction text generalizing offset with
  | nil => rfl
  | cons c text ih =>
      rw [cut]
      split
      · rfl
      · simp [ih]

/-- Boundaries are the offsets at which a cut does not have to move on. -/
lemma isBoundary_iff_cut {text : Text} {offset : Nat} :
    text.IsBoundary offset ↔ (text.cut offset).1.bytes = offset := by
  constructor
  · rintro ⟨before, rest, rfl, rfl⟩
    rw [cut_append]
  · intro h
    exact ⟨_, _, (cut_fst_append_snd text offset).symm, h⟩

instance (text : Text) (offset : Nat) : Decidable (text.IsBoundary offset) :=
  decidable_of_iff _ isBoundary_iff_cut.symm

@[simp] lemma insertAt_append (before rest inserted : Text) :
    (before ++ rest).insertAt before.bytes inserted = before ++ inserted ++ rest := by
  simp [insertAt]

/-! ### Points of boundaries -/

lemma advance_append (p : Position) (before rest : Text) :
    advance p before.bytes (before ++ rest) = p.after before := by
  induction before generalizing p with
  | nil =>
      cases rest with
      | nil => rfl
      | cons c rest =>
          have := c.utf8Size_pos
          simp only [bytes_nil, List.nil_append, advance, Position.after_nil]
          rw [if_neg (by omega)]
  | cons c before ih =>
      simp only [List.cons_append, bytes_cons, advance]
      rw [if_pos (by omega), Nat.add_sub_cancel_left, ih, Position.after_cons]

/-- The point where two parts of a text meet is reached by walking over the first. -/
@[simp] lemma position_append (before rest : Text) :
    (before ++ rest).position before.bytes = Position.origin.after before :=
  advance_append _ _ _

/-- The point at any offset at all is the point of a boundary. -/
lemma exists_advance (p : Position) (n : Nat) (text : Text) :
    ∃ before rest, text = before ++ rest ∧ before.bytes ≤ n
      ∧ advance p n text = p.after before := by
  induction text generalizing p n with
  | nil => exact ⟨[], [], rfl, by simp, rfl⟩
  | cons c text ih =>
      by_cases hc : c.utf8Size ≤ n
      · obtain ⟨before, rest, rfl, hle, h⟩ := ih (p.next c) (n - c.utf8Size)
        refine ⟨c :: before, rest, rfl, by rw [bytes_cons]; omega, ?_⟩
        rw [advance, if_pos hc, h, Position.after_cons]
      · exact ⟨[], c :: text, rfl, by simp, by rw [advance, if_neg hc, Position.after_nil]⟩

lemma exists_position (text : Text) (n : Nat) :
    ∃ before rest, text = before ++ rest ∧ before.bytes ≤ n
      ∧ text.position n = Position.origin.after before :=
  exists_advance _ _ _

/-! ### Lines, one character at a time -/

lemma lines_ne_nil (text : Text) : text.lines ≠ [] := by
  cases text with
  | nil => simp [lines]
  | cons c cs =>
      rw [lines]
      split
      · simp
      · split <;> simp

@[simp] lemma offset_nil (line column : Nat) : offset [] line column = 0 := by
  cases line <;> simp [offset, lines, offsetIn, unitIndex]

lemma offset_newline_zero (cs : Text) (column : Nat) : offset ('\n' :: cs) 0 column = 0 := by
  obtain ⟨l, ls, hl⟩ := List.exists_cons_of_ne_nil (lines_ne_nil cs)
  simp [offset, lines, hl, offsetIn, unitIndex]

lemma offset_newline_succ (cs : Text) (line column : Nat) :
    offset ('\n' :: cs) (line + 1) column = 1 + offset cs line column := by
  obtain ⟨l, ls, hl⟩ := List.exists_cons_of_ne_nil (lines_ne_nil cs)
  simp [offset, lines, hl, offsetIn]

lemma offset_cons_zero {c : Char} (hc : c ≠ '\n') (cs : Text) (column : Nat) :
    offset (c :: cs) 0 column
      = if column = 0 then 0 else c.utf8Size + offset cs 0 (column - unitsOf c) := by
  obtain ⟨l, ls, hl⟩ := List.exists_cons_of_ne_nil (lines_ne_nil cs)
  cases ls <;> simp [offset, lines, hc, hl, offsetIn, unitIndex]

lemma offset_cons_succ {c : Char} (hc : c ≠ '\n') (cs : Text) (line column : Nat) :
    offset (c :: cs) (line + 1) column = c.utf8Size + offset cs (line + 1) column := by
  obtain ⟨l, ls, hl⟩ := List.exists_cons_of_ne_nil (lines_ne_nil cs)
  cases ls <;> simp [offset, lines, hc, hl, offsetIn, Nat.add_assoc]

lemma unitsOf_pos (c : Char) : 0 < unitsOf c := by
  rw [unitsOf]; split <;> omega

/-! ### The two translations are inverse on boundaries -/

/-- The line and column reached by walking over `before` mean the offset where it ends. -/
lemma offset_after (before rest : Text) :
    offset (before ++ rest) (Position.origin.after before).line
      (Position.origin.after before).column = before.bytes := by
  induction before with
  | nil =>
      cases rest with
      | nil => rfl
      | cons c rest =>
          by_cases hc : c = '\n'
          · subst hc; simp [Position.origin, offset_newline_zero]
          · simp [Position.origin, offset_cons_zero hc]
  | cons c before ih =>
      rw [Position.after_cons, Position.after_eq_within]
      by_cases hc : c = '\n'
      · subst hc
        have h1 : 1 + (Position.origin.after before).line
            = (Position.origin.after before).line + 1 := by omega
        simp only [Position.within, Position.next, Position.origin, if_pos, List.cons_append,
          Nat.zero_add, ite_self]
        rw [← Position.origin, h1, offset_newline_succ, ih]
        rfl
      · simp only [Position.within, Position.next, Position.origin, if_neg hc, List.cons_append,
          Nat.zero_add]
        rw [← Position.origin]
        cases hl : (Position.origin.after before).line with
        | zero =>
            have hpos := unitsOf_pos c
            rw [if_pos rfl, offset_cons_zero hc, if_neg (by omega), Nat.add_sub_cancel_left, ← hl,
              ih, bytes_cons]
        | succ line => rw [if_neg (by omega), offset_cons_succ hc, ← hl, ih, bytes_cons]

/-- On boundaries, going to a line and column and back changes nothing. -/
lemma offset_position {text : Text} {n : Nat} (h : text.IsBoundary n) :
    text.offset (text.position n).line (text.position n).column = n := by
  obtain ⟨before, rest, rfl, rfl⟩ := h
  rw [position_append, offset_after]

/-- Every line and column, in range or not, means a boundary. -/
lemma isBoundary_offset (text : Text) (line column : Nat) :
    text.IsBoundary (text.offset line column) := by
  induction text generalizing line column with
  | nil => rw [offset_nil]; exact isBoundary_zero _
  | cons c cs ih =>
      by_cases hc : c = '\n'
      · subst hc
        cases line with
        | zero => rw [offset_newline_zero]; exact isBoundary_zero _
        | succ line => rw [offset_newline_succ]; exact (ih line column).cons '\n'
      · cases line with
        | zero =>
            rw [offset_cons_zero hc]
            split
            · exact isBoundary_zero _
            · exact (ih 0 _).cons c
        | succ line =>
            rw [offset_cons_succ hc]
            exact (ih (line + 1) column).cons c

/-- Between two points on different lines, the line after that of the first begins just past the
first line feed. -/
lemma offset_next_line {before middle : Text}
    (h : (Position.origin.after before).line < (Position.origin.after (before ++ middle)).line)
    (rest : Text) :
    ∃ m m', middle = m ++ '\n' :: m' ∧
      offset (before ++ middle ++ rest) ((Position.origin.after before).line + 1) 0
        = (before ++ m ++ ['\n']).bytes := by
  have hmem : '\n' ∈ middle := by
    by_contra hno
    rw [Position.after_append, Position.after_line_of_notMem _ hno] at h
    omega
  obtain ⟨m, m', hm, hno⟩ := List.eq_append_cons_of_mem hmem
  refine ⟨m, m', hm, ?_⟩
  have hpoint : Position.origin.after (before ++ m ++ ['\n'])
      = ⟨(Position.origin.after before).line + 1, 0, (before ++ m ++ ['\n']).bytes⟩ := by
    have hline := Position.after_line_of_notMem (Position.origin.after before) hno
    have hoffset := Position.origin_after_offset (before ++ m ++ ['\n'])
    rw [Position.after_append, Position.after_append] at hoffset ⊢
    simp only [Position.after_cons, Position.after_nil, Position.next, if_pos] at hoffset ⊢
    rw [hline, hoffset]
  have hround := offset_after (before ++ m ++ ['\n']) (m' ++ rest)
  rw [hpoint] at hround
  rw [← hround, hm]
  simp

/-! ### Slices -/

lemma slice_go_before {start stop offset : Nat} {s : Text} (t : Text)
    (h : offset + s.bytes ≤ start) (hle : start ≤ stop) :
    slice.go start stop offset (s ++ t) = slice.go start stop (offset + s.bytes) t := by
  induction s generalizing offset with
  | nil => rfl
  | cons c s ih =>
      have hc := c.utf8Size_pos
      rw [bytes_cons] at h
      rw [List.cons_append, slice.go, if_neg (by omega), if_neg (by omega),
        ih (by omega), bytes_cons,
        Nat.add_assoc]

lemma slice_go_inside {start stop offset : Nat} {s : Text} (t : Text) (h : start ≤ offset)
    (hstop : offset + s.bytes = stop) : slice.go start stop offset (s ++ t) = s := by
  induction s generalizing offset with
  | nil =>
      rw [bytes_nil, Nat.add_zero] at hstop
      cases t with
      | nil => rfl
      | cons c t => rw [List.nil_append, slice.go, if_pos (by omega)]
  | cons c s ih =>
      have hc := c.utf8Size_pos
      rw [bytes_cons] at hstop
      rw [List.cons_append, slice.go, if_neg (by omega), if_pos (by omega),
        ih (by omega) (by omega)]

/-- The slice between two boundaries is the text between them. -/
lemma slice_append (s t u : Text) : (s ++ (t ++ u)).slice s.bytes (s.bytes + t.bytes) = t := by
  rw [slice, slice_go_before _ (by simp) (by omega), Nat.zero_add,
    slice_go_inside _ le_rfl rfl]

/-- A slice that ends before it begins is empty. -/
lemma slice_eq_nil {start stop : Nat} (text : Text) (h : stop ≤ start) :
    text.slice start stop = [] := by
  have hgo : ∀ offset, slice.go start stop offset text = [] := by
    induction text with
    | nil => exact fun offset => rfl
    | cons c text ih =>
        intro offset
        rw [slice.go]
        split_ifs
        · rfl
        · omega
        · exact ih _
  exact hgo 0

end Text

end ComponentFile
