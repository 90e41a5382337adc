import Mathlib.Tactic
import ComponentFile.Proofs.Text.Boundary

/-!
The list of the lines of a text.

* `lines_append_feed`: at a line feed the lines of a text fall into those before and those behind.
* `lines_of_notMem`, `length_lines`: a text without line feeds is one line, and each line feed makes
  one more.
* `lines_join`: joined lines are the same lines again.
* `getElem?_lines_append_left`, `getElem?_lines_append_right`: the lines of a part of a text are
  lines of the text, but for those that the part does not hold from one end to the other.
-/

namespace ComponentFile

namespace Text

/-- A character that is no line feed goes to the first line. -/
lemma lines_cons {c : Char} (hc : c ≠ '\n') (cs : Text) :
    ∃ l ls, lines cs = l :: ls ∧ lines (c :: cs) = (c :: l) :: ls := by
  obtain ⟨l, ls, hl⟩ := List.exists_cons_of_ne_nil (lines_ne_nil cs)
  exact ⟨l, ls, hl, by rw [lines, if_neg hc, hl]⟩

/-- **A line feed parts the lines of a text.** -/
lemma lines_append_feed (s t : Text) : lines (s ++ '\n' :: t) = lines s ++ lines t := by
  induction s with
  | nil => simp [lines]
  | cons c s ih =>
      by_cases hc : c = '\n'
      · subst hc
        simp [lines, ih]
      · obtain ⟨l, ls, hl, hcons⟩ := lines_cons hc s
        obtain ⟨l', ls', hl', hcons'⟩ := lines_cons hc (s ++ '\n' :: t)
        rw [ih, hl, List.cons_append] at hl'
        obtain ⟨rfl, rfl⟩ := List.cons.inj hl'
        rw [List.cons_append, hcons', hcons, List.cons_append]

lemma lines_of_notMem {s : Text} (h : '\n' ∉ s) : lines s = [s] := by
  induction s with
  | nil => rfl
  | cons c s ih =>
      simp only [List.mem_cons, not_or] at h
      rw [lines, if_neg (Ne.symm h.1), ih h.2]

/-- There is one line more than there are line feeds. -/
lemma length_lines (s : Text) : (lines s).length = s.count '\n' + 1 := by
  induction s with
  | nil => rfl
  | cons c s ih =>
      by_cases hc : c = '\n'
      · subst hc
        simp [lines, ih]
      · obtain ⟨l, ls, hl, hcons⟩ := lines_cons hc s
        rw [hcons, List.count_cons_of_ne hc, ← ih, hl, List.length_cons, List.length_cons]

/-- The separator stands in front of each line but the first one. -/
lemma join_cons (separator l : Text) (ls : List Text) :
    join separator (l :: ls) = l ++ ls.flatMap (separator ++ ·) := by
  induction ls generalizing l with
  | nil => simp [join]
  | cons l' ls ih =>
      change l ++ separator ++ join separator (l' :: ls) = _
      rw [ih]
      simp

/-- **Joined lines are the same lines again.** -/
lemma lines_join {ls : List Text} (hne : ls ≠ []) (h : ∀ l ∈ ls, '\n' ∉ l) :
    lines (join ['\n'] ls) = ls := by
  induction ls with
  | nil => exact absurd rfl hne
  | cons l ls ih =>
      have hl : '\n' ∉ l := h l (by simp)
      cases ls with
      | nil => exact lines_of_notMem hl
      | cons l' ls =>
          have hrest := ih (by simp) fun k hk => h k (List.mem_cons_of_mem l hk)
          have hjoin : join ['\n'] (l :: l' :: ls) = l ++ '\n' :: join ['\n'] (l' :: ls) := by
            simp [join_cons]
          rw [hjoin, lines_append_feed, lines_of_notMem hl, hrest, List.singleton_append]

/-- The lines of a first part that end in it are lines of the text. -/
lemma getElem?_lines_append_left (s t : Text) {i : Nat} (h : i < s.count '\n') :
    (lines (s ++ t))[i]? = (lines s)[i]? := by
  induction s generalizing i with
  | nil => simp at h
  | cons c s ih =>
      by_cases hc : c = '\n'
      · subst hc
        cases i with
        | zero => simp [lines]
        | succ i =>
            have hi := ih (i := i) (by simpa using h)
            simpa [lines] using hi
      · obtain ⟨l, ls, hl, hcons⟩ := lines_cons hc s
        obtain ⟨l', ls', hl', hcons'⟩ := lines_cons hc (s ++ t)
        rw [List.count_cons_of_ne hc] at h
        have hi := ih h
        rw [List.cons_append, hcons, hcons']
        rw [hl, hl'] at hi
        cases i with
        | zero => simpa using hi
        | succ i => simpa using hi

/-- The lines of a last part that begin in it are lines of the text. -/
lemma getElem?_lines_append_right (s t : Text) {i : Nat} (h : 0 < i) :
    (lines (s ++ t))[s.count '\n' + i]? = (lines t)[i]? := by
  induction s with
  | nil => simp
  | cons c s ih =>
      by_cases hc : c = '\n'
      · subst hc
        rw [List.count_cons_self, Nat.add_right_comm, ← ih]
        simp [lines]
      · obtain ⟨l, ls, hl, hcons⟩ := lines_cons hc (s ++ t)
        obtain ⟨n, hn⟩ : ∃ n, s.count '\n' + i = n + 1 := ⟨s.count '\n' + i - 1, by omega⟩
        rw [List.count_cons_of_ne hc, ← ih, List.cons_append, hcons, hl, hn,
          List.getElem?_cons_succ, List.getElem?_cons_succ]

end Text

end ComponentFile
