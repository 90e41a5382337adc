import Mathlib.Tactic
import ComponentFile.Text.Blank

/-!
Runs of characters of a class.

`Text.StopsAt p t` says that a run of characters that satisfy `p` does not go on into `t`. Then a
run in front of `t` is taken and dropped as a whole (`takeWhile_run`, `dropWhile_run`), and it is
determined by the text (`run_inj`).
-/

namespace ComponentFile

namespace Text

/-- What holds of all characters of a text is decided along the text, not over all characters. -/
instance (priority := 1100) (s : Text) (p : Char → Prop) [DecidablePred p] :
    Decidable (∀ c ∈ s, p c) := List.decidableBAll p s

/-- No character of a class stands at the front of a text. -/
def StopsAt (p : Char → Bool) (t : Text) : Prop := ∀ c, t.head? = some c → p c = false

section Runs

variable {p : Char → Bool} {run run' t t' : Text}

lemma stopsAt_cons {c : Char} (h : p c = false) (t : Text) : StopsAt p (c :: t) := by
  intro d hd
  obtain rfl : c = d := by simpa using hd
  exact h

lemma takeWhile_run (hrun : ∀ c ∈ run, p c = true) (ht : StopsAt p t) :
    (run ++ t).takeWhile p = run := by
  rw [List.takeWhile_append_of_pos hrun]
  cases t with
  | nil => simp
  | cons c t => simp [ht c rfl]

lemma dropWhile_run (hrun : ∀ c ∈ run, p c = true) (ht : StopsAt p t) :
    (run ++ t).dropWhile p = t := by
  rw [List.dropWhile_append_of_pos hrun]
  cases t with
  | nil => rfl
  | cons c t => simp [ht c rfl]

/-- A run and what follows it are determined by the text that they make. -/
lemma run_inj (hrun : ∀ c ∈ run, p c = true) (ht : StopsAt p t) (hrun' : ∀ c ∈ run', p c = true)
    (ht' : StopsAt p t') (h : run ++ t = run' ++ t') : run = run' ∧ t = t' := by
  obtain rfl : run = run' := by
    rw [← takeWhile_run hrun ht, h, takeWhile_run hrun' ht']
  exact ⟨rfl, List.append_cancel_left h⟩

/-- Blanks in front of anything else are trimmed. -/
lemma trimStart_run (hrun : ∀ c ∈ run, isBlank c = true) (ht : StopsAt isBlank t) :
    trimStart (run ++ t) = t := dropWhile_run hrun ht

end Runs

end Text

end ComponentFile
