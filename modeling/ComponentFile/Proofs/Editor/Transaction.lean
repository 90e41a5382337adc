import Mathlib.Tactic
import Mathlib.Data.Prod.Lex
import ComponentFile.Editor.CodeAction
import ComponentFile.Proofs.Text.Coordinates
import ComponentFile.Proofs.Text.Weaving

/-!
A batch of insertions is the same text, whoever applies it.

A batch is applied in three ways. `applyInsertions` sorts it and works on the growing text,
`Text.weave` is one pass over the old text, and an editor may apply the replacements that it is sent
one after the other, from the last place to the first, each on the text that the one before left.

* `Text.Fits text line column`: the line exists and the column is not past its end. Such a pair
  means a place that depends only on the text before it (`offset_eq_of_fits`), so that it is not
  moved by what is inserted at or behind it (`offset_weave`).
* `Fits.le_bytes`: lines and columns that fit are at most the length of the text, so that they can
  be written down.
* `lastFirst text edits`: the batch by descending offset and, at one offset, by descending index.
  `filter_lastFirst` says that this turns around what belongs to one place.
* `foldl_apply_weave` is the run of the editor, from its step `apply_weave`.
* `applyInsertions_threeWays` puts the three together.
-/

namespace ComponentFile

namespace Text

/-! ### Lines and columns that exist -/

/-- The line exists, and the column is not past its end. -/
def Fits (text : Text) (line column : Nat) : Prop :=
  ∃ l, text.lineText? line = some l ∧ column ≤ l.units

instance (text : Text) (line column : Nat) : Decidable (text.Fits line column) :=
  decidable_of_iff ((text.lineText? line).any (column ≤ ·.units)) (by
    simp [Fits, Option.any_eq_true])

section Fits

variable {line column : Nat}

lemma fits_nil : Fits [] line column ↔ line = 0 ∧ column = 0 := by
  cases line <;> simp [Fits, lineText?, lines]

lemma fits_newline_zero (cs : Text) : Fits ('\n' :: cs) 0 column ↔ column = 0 := by
  simp [Fits, lineText?, lines]

lemma fits_newline_succ (cs : Text) :
    Fits ('\n' :: cs) (line + 1) column ↔ Fits cs line column := by
  simp [Fits, lineText?, lines]

lemma fits_cons_zero {c : Char} (hc : c ≠ '\n') (cs : Text) :
    Fits (c :: cs) 0 column ↔ Fits cs 0 (column - unitsOf c) := by
  obtain ⟨l, ls, hl⟩ := List.exists_cons_of_ne_nil (lines_ne_nil cs)
  simp [Fits, lineText?, lines, hc, hl, Nat.add_comm]

lemma fits_cons_succ {c : Char} (hc : c ≠ '\n') (cs : Text) :
    Fits (c :: cs) (line + 1) column ↔ Fits cs (line + 1) column := by
  obtain ⟨l, ls, hl⟩ := List.exists_cons_of_ne_nil (lines_ne_nil cs)
  simp [Fits, lineText?, lines, hc, hl]

lemma offset_zero_zero (text : Text) : text.offset 0 0 = 0 := offset_after [] text

/-- Only the first column of the first line means the start of a text. -/
lemma Fits.eq_zero {text : Text} (h : text.Fits line column)
    (hoffset : text.offset line column = 0) : line = 0 ∧ column = 0 := by
  cases text with
  | nil => exact fits_nil.mp h
  | cons c cs =>
      have hpos := c.utf8Size_pos
      by_cases hc : c = '\n'
      · subst hc
        cases line with
        | zero => exact ⟨rfl, (fits_newline_zero cs).mp h⟩
        | succ line =>
            rw [offset_newline_succ] at hoffset
            omega
      · cases line with
        | zero =>
            rw [offset_cons_zero hc] at hoffset
            split at hoffset
            · exact ⟨rfl, ‹_›⟩
            · omega
        | succ line =>
            rw [offset_cons_succ hc] at hoffset
            omega

/-- **A place that exists depends only on the text before it.** The induction walks over that text;
what follows is used only where it has been walked over, to see that nothing is left of the pair. -/
lemma offset_eq_of_fits {s t : Text} (hfits : (s ++ t).Fits line column)
    (h : (s ++ t).offset line column = s.bytes) (t' : Text) :
    (s ++ t').offset line column = s.bytes := by
  induction s generalizing line column with
  | nil =>
      obtain ⟨rfl, rfl⟩ := hfits.eq_zero h
      exact offset_zero_zero t'
  | cons c s ih =>
      have hpos := c.utf8Size_pos
      rw [List.cons_append] at hfits h ⊢
      rw [bytes_cons] at h ⊢
      by_cases hc : c = '\n'
      · subst hc
        cases line with
        | zero =>
            rw [offset_newline_zero] at h
            omega
        | succ line =>
            have hone : ('\n' : Char).utf8Size = 1 := rfl
            rw [offset_newline_succ, hone] at h
            rw [offset_newline_succ, ih ((fits_newline_succ _).mp hfits) (by omega), hone]
      · cases line with
        | zero =>
            rw [offset_cons_zero hc] at h ⊢
            split at h
            · omega
            case isFalse hcolumn =>
              rw [if_neg hcolumn, ih ((fits_cons_zero hc _).mp hfits) (by omega)]
        | succ line =>
            rw [offset_cons_succ hc] at h ⊢
            rw [ih ((fits_cons_succ hc _).mp hfits) (by omega)]

lemma unitsOf_le_utf8Size (c : Char) : unitsOf c ≤ c.utf8Size := by
  have hpos := c.utf8Size_pos
  rw [unitsOf]
  split
  · exact hpos
  case isFalse hwide =>
    -- a character of two units is past all bounds up to which fewer than four bytes do
    have hpast : ∀ bound : UInt32, bound.toNat < 0x10000 → ¬ c.val ≤ bound := by
      intro bound hbound hle
      have : c.toNat ≤ bound.toNat := UInt32.le_iff_toNat_le.mp hle
      omega
    rw [Char.utf8Size, if_neg (hpast _ (by decide)), if_neg (hpast _ (by decide)),
      if_neg (hpast _ (by decide))]
    decide

/-- **Lines and columns that exist are no more than bytes.** -/
lemma Fits.le_bytes {text : Text} (h : text.Fits line column) :
    line ≤ text.bytes ∧ column ≤ text.bytes := by
  induction text generalizing line column with
  | nil =>
      obtain ⟨rfl, rfl⟩ := fits_nil.mp h
      exact ⟨le_rfl, le_rfl⟩
  | cons c cs ih =>
      have hpos := c.utf8Size_pos
      have hunits := unitsOf_le_utf8Size c
      rw [bytes_cons]
      by_cases hc : c = '\n'
      · subst hc
        cases line with
        | zero =>
            obtain rfl := (fits_newline_zero cs).mp h
            omega
        | succ line =>
            have := ih ((fits_newline_succ cs).mp h)
            omega
      · cases line with
        | zero =>
            have := ih ((fits_cons_zero hc cs).mp h)
            omega
        | succ line =>
            have := ih ((fits_cons_succ hc cs).mp h)
            omega

/-- What is put at or behind a place does not move it. -/
lemma offset_weave {text : Text} (h : text.Fits line column) {anchored : List (Nat × Text)}
    (hanchored : ∀ a ∈ anchored, text.offset line column ≤ a.1) :
    (weave anchored 0 text).offset line column = text.offset line column := by
  obtain ⟨before, rest, rfl, hbytes⟩ := isBoundary_offset text line column
  rw [← hbytes] at hanchored
  rw [weave_append_left rest (by simpa using hanchored), ← hbytes]
  exact offset_eq_of_fits h hbytes.symm _

end Fits

end Text

open Text

/-! ### The replacements of an editor -/

/-- The change that an editor makes for an insertion that it is sent. -/
def Insertion.sent (edit : Insertion) : Change := (Replacement.ofInsertion edit).toChange

/-- An insertion whose line and column can be written down is made where it is meant. -/
lemma Insertion.sent_apply {edit : Insertion} (hline : edit.line ≤ Replacement.largest)
    (hcolumn : edit.column ≤ Replacement.largest) (text : Text) :
    edit.sent.apply text = text.insertAt (text.offset edit.line edit.column) edit.text := by
  simp only [sent, Replacement.ofInsertion, Replacement.toChange, Change.apply, min_eq_left hline,
    min_eq_left hcolumn, max_self, insertAt]

section Run

variable {text : Text} (hsmall : text.bytes < Replacement.largest)

include hsmall

/-- One change: an insertion before all that is there already is one more anchor. -/
lemma apply_weave {edit : Insertion} (hfits : text.Fits edit.line edit.column)
    {anchored : List (Nat × Text)} (hbelow : ∀ a ∈ anchored, (anchor text edit).1 ≤ a.1) :
    edit.sent.apply (weave anchored 0 text) = weave (anchor text edit :: anchored) 0 text := by
  obtain ⟨hline, hcolumn⟩ := hfits.le_bytes
  have hoffset : (weave anchored 0 text).offset edit.line edit.column = (anchor text edit).1 :=
    offset_weave hfits hbelow
  rw [Insertion.sent_apply (by omega) (by omega), hoffset]
  obtain ⟨before, rest, htext, hbytes⟩ := isBoundary_offset text edit.line edit.column
  have hplace : (anchor text edit).1 = before.bytes := hbytes.symm
  have hanchor : anchor text edit = (before.bytes, edit.text) := Prod.ext hplace rfl
  rw [hanchor, htext]
  exact insertAt_weave rest edit.text fun a ha => hplace ▸ hbelow a ha

/-- All changes, from the last place to the first. -/
lemma foldl_apply_weave (anchored : List (Nat × Text)) (places : List Insertion)
    (hsorted : places.Pairwise fun a b => (anchor text b).1 ≤ (anchor text a).1)
    (hfits : ∀ e ∈ places, text.Fits e.line e.column)
    (hbelow : ∀ e ∈ places, ∀ a ∈ anchored, (anchor text e).1 ≤ a.1) :
    (places.map Insertion.sent).foldl (fun result change => change.apply result)
        (weave anchored 0 text)
      = weave ((places.map (anchor text)).reverse ++ anchored) 0 text := by
  induction places generalizing anchored with
  | nil => rfl
  | cons e places ih =>
      obtain ⟨hfirst, hsorted⟩ := List.pairwise_cons.mp hsorted
      rw [List.map_cons, List.foldl_cons,
        apply_weave hsmall (hfits e (by simp)) (hbelow e (by simp)),
        ih _ hsorted (fun e' he' => hfits e' (by simp [he'])) ?_]
      · simp
      · intro e' he' a ha
        rcases List.mem_cons.mp ha with rfl | ha
        · exact hfirst e' he'
        · exact hbelow e' (by simp [he']) a ha

end Run

/-! ### From the last to the first -/

/-- The rank of a numbered insertion in its batch: the place first, and then the number. -/
def rank (text : Text) (edit : Insertion × Nat) : Nat ×ₗ Nat :=
  toLex ((anchor text edit.1).1, edit.2)

/-- The insertions of a batch with their indices, by descending rank. -/
def numberedLastFirst (text : Text) (edits : List Insertion) : List (Insertion × Nat) :=
  edits.zipIdx.mergeSort fun a b => decide (rank text b ≤ rank text a)

/-- The insertions of a batch by descending place, and at one place by descending index. -/
def lastFirst (text : Text) (edits : List Insertion) : List Insertion :=
  (numberedLastFirst text edits).map (·.1)

section Order

variable (text : Text) (edits : List Insertion)

lemma numberedLastFirst_perm : (numberedLastFirst text edits).Perm edits.zipIdx :=
  List.mergeSort_perm _ _

lemma pairwise_numberedLastFirst :
    (numberedLastFirst text edits).Pairwise fun a b => rank text b ≤ rank text a := by
  have hsorted : (numberedLastFirst text edits).Pairwise fun a b =>
      decide (rank text b ≤ rank text a) = true := by
    refine List.pairwise_mergeSort (fun a b c hab hbc => ?_) (fun a b => ?_) edits.zipIdx
    · simp only [decide_eq_true_eq] at hab hbc ⊢
      exact hbc.trans hab
    · simp only [Bool.or_eq_true, decide_eq_true_eq]
      exact le_total _ _
  exact hsorted.imp fun h => of_decide_eq_true h

lemma pairwise_zipIdx : edits.zipIdx.Pairwise fun a b => a.2 < b.2 := by
  rw [← List.pairwise_map (f := Prod.snd) (R := fun a b => a < b), List.zipIdx_map_snd]
  exact List.pairwise_lt_range'

/-- Two entries of one rank are the same. -/
lemma eq_of_rank_eq {a b : Insertion × Nat} (ha : a ∈ edits.zipIdx) (hb : b ∈ edits.zipIdx)
    (h : rank text a = rank text b) : a = b := by
  have hindex : a.2 = b.2 := congrArg (fun r => (ofLex r).2) h
  have hfirst := List.mem_zipIdx_iff_getElem?.mp ha
  have hsecond := List.mem_zipIdx_iff_getElem?.mp hb
  rw [hindex, hsecond] at hfirst
  exact Prod.ext (Option.some.inj hfirst).symm hindex

/-- **What belongs to one place is turned around.** Both sides hold the same entries by descending
rank, and no two entries have one rank. -/
lemma filter_lastFirst (o : Nat) :
    ((lastFirst text edits).map (anchor text)).filter (·.1 = o)
      = ((edits.map (anchor text)).filter (·.1 = o)).reverse := by
  let here : Insertion × Nat → Bool := fun a => decide ((anchor text a.1).1 = o)
  have hnumbered : (numberedLastFirst text edits).filter here
      = (edits.zipIdx.filter here).reverse := by
    have hperm : ((numberedLastFirst text edits).filter here).Perm
        (edits.zipIdx.filter here).reverse :=
      ((numberedLastFirst_perm text edits).filter _).trans (List.reverse_perm _).symm
    refine hperm.eq_of_pairwise ?_ ((pairwise_numberedLastFirst text edits).filter _) ?_
    · intro a b ha hb hab hba
      have ha' := (numberedLastFirst_perm text edits).mem_iff.mp (List.mem_filter.mp ha).1
      have hb' := (List.mem_filter.mp (List.mem_reverse.mp hb)).1
      exact eq_of_rank_eq text edits ha' hb' (le_antisymm hba hab)
    · rw [List.pairwise_reverse]
      refine ((pairwise_zipIdx edits).filter here).imp_of_mem fun ha hb hlt => ?_
      have hoa := of_decide_eq_true (List.mem_filter.mp ha).2
      have hob := of_decide_eq_true (List.mem_filter.mp hb).2
      rw [rank, rank, Prod.Lex.toLex_le_toLex, hoa, hob]
      exact .inr ⟨rfl, hlt.le⟩
  have hplain : edits.map (anchor text) = edits.zipIdx.map fun a => anchor text a.1 := by
    rw [← Function.comp_def (anchor text) Prod.fst, ← List.map_map, List.zipIdx_map_fst]
  rw [lastFirst, hplain, List.map_map, List.filter_map, List.filter_map, ← List.map_reverse]
  exact congrArg _ hnumbered

end Order

/-! ### The three ways -/

/-- **A batch of insertions is the same text, whoever applies it.** It is one pass over the text
that writes before each character what the batch places there, in list order. And where all lines
and columns exist, and the text is short enough for them to be written down, an editor that applies
what it is sent from the last place to the first ends with that text too. -/
theorem applyInsertions_threeWays (text : Text) (edits : List Insertion) :
    applyInsertions text edits = weave (edits.map (anchor text)) 0 text
    ∧ (text.bytes < Replacement.largest →
        (∀ edit ∈ edits, text.Fits edit.line edit.column) →
        ((lastFirst text edits).map Insertion.sent).foldl (fun result change => change.apply result)
            text
          = applyInsertions text edits) := by
  refine ⟨applyInsertions_eq_weave text edits, fun hsmall hfits => ?_⟩
  have hsorted : (lastFirst text edits).Pairwise fun a b =>
      (anchor text b).1 ≤ (anchor text a).1 := by
    rw [lastFirst, List.pairwise_map]
    exact (pairwise_numberedLastFirst text edits).imp fun h => Prod.Lex.monotone_fst _ _ h
  have hplaces : ∀ e ∈ lastFirst text edits, text.Fits e.line e.column := by
    intro e he
    obtain ⟨a, ha, rfl⟩ := List.mem_map.mp he
    exact hfits _ (List.fst_mem_of_mem_zipIdx ((numberedLastFirst_perm text edits).mem_iff.mp ha))
  have hempty : weave [] 0 text = text := weave_eq_self (by simp)
  have hrun := foldl_apply_weave hsmall [] _ hsorted hplaces (by simp)
  rw [hempty, List.append_nil] at hrun
  rw [hrun, applyInsertions_eq_weave]
  refine weave_congr (fun n _ => ?_) text
  rw [textsAt, textsAt, List.filter_reverse, filter_lastFirst, List.reverse_reverse]

/-- `applyInsertions_threeWays` where a column between the two units of a character means the end of
its line, where another insertion goes, and the first of the two brings a line feed. -/
theorem applyInsertions_threeWays_sameAnchor :
    let text : Text := "é😀\nb".toList
    let edits : List Insertion :=
      [⟨0, 2, "x\n".toList⟩, ⟨1, 0, "y".toList⟩, ⟨0, 3, "z".toList⟩, ⟨0, 0, "w".toList⟩]
    text.bytes < Replacement.largest ∧ (∀ edit ∈ edits, text.Fits edit.line edit.column)
      ∧ ((lastFirst text edits).map Insertion.sent).foldl (fun result change => change.apply result)
          text
        = "wé😀x\nz\nyb".toList := by
  intro text edits
  have hsmall : text.bytes < Replacement.largest := by decide
  have hfits : ∀ edit ∈ edits, text.Fits edit.line edit.column := by decide
  exact ⟨hsmall, hfits,
    ((applyInsertions_threeWays text edits).2 hsmall hfits).trans (by decide)⟩

/-- A column past the end of its line moves with what is put there, so that the ways differ. -/
example : let text : Text := "a\nb".toList
    let edits : List Insertion := [⟨0, 5, "x".toList⟩, ⟨0, 9, "y".toList⟩]
    applyInsertions text edits = "axy\nb".toList
      ∧ (edits.reverse.map Insertion.sent).foldl (fun result change => change.apply result) text
        = "ayx\nb".toList := by decide

end ComponentFile
