import ComponentFile.Proofs.Text.Boundary

/-!
A batch of insertions as one pass over the text.

`applyInsertions` sorts a batch and works from the last place to the first. `Text.weave` walks the
text once instead: before each character it writes what is anchored there, in list order.

* `applyInsertions_eq_weave`: the two agree for every batch. Its parts are `insertAt_weave`, the
  step of the fold, and `anchorDescending_spec`, that sorting keeps what belongs to one place in
  order.
* `weave_append_left`, `weave_append_right`: the parts of a text before the first and after the
  last anchor stay as they are, and `weave_around` takes the text apart at any one anchor.
  `exists_weave_append` says how a text goes on behind the part before the first anchor.
* `Text.Inserted`: a text is another one with given texts inserted, said without offsets.
  `exists_inserted_weave`: weaving inserts every anchored text once and drops nothing.
-/

namespace ComponentFile

namespace Text

/-! ### Weaving -/

/-- The texts anchored at an offset, in list order. -/
def textsAt (anchored : List (Nat × Text)) (offset : Nat) : Text :=
  (anchored.filter (·.1 = offset)).flatMap (·.2)

/-- The text that begins at `offset`, with all that is anchored in it. -/
def weave (anchored : List (Nat × Text)) : (offset : Nat) → Text → Text
  | offset, [] => textsAt anchored offset
  | offset, c :: cs => textsAt anchored offset ++ c :: weave anchored (offset + c.utf8Size) cs

variable {anchored : List (Nat × Text)} {o : Nat}

lemma textsAt_eq_nil (h : ∀ a ∈ anchored, a.1 ≠ o) : textsAt anchored o = [] := by
  have hnone : anchored.filter (fun a => decide (a.1 = o)) = [] := by
    rw [List.filter_eq_nil_iff]
    intro a ha
    simpa using h a ha
  rw [textsAt, hnone, List.flatMap_nil]

lemma textsAt_cons (a : Nat × Text) (anchored : List (Nat × Text)) (o : Nat) :
    textsAt (a :: anchored) o = (if a.1 = o then a.2 else []) ++ textsAt anchored o := by
  by_cases h : a.1 = o <;> simp [textsAt, h]

lemma textsAt_append (anchored others : List (Nat × Text)) (o : Nat) :
    textsAt (anchored ++ others) o = textsAt anchored o ++ textsAt others o := by
  simp [textsAt]

/-- A choice of places leaves what belongs to a chosen place as it is. -/
lemma textsAt_filter (p : Nat → Bool) (anchored : List (Nat × Text)) (o : Nat) :
    textsAt (anchored.filter fun a => p a.1) o = if p o then textsAt anchored o else [] := by
  rw [textsAt, List.filter_filter]
  split
  case isTrue hp =>
    rw [textsAt]
    congr 1
    refine List.filter_congr fun a _ => ?_
    by_cases h : a.1 = o <;> simp [h, hp]
  case isFalse hp =>
    rw [List.flatMap_eq_nil_iff]
    intro a ha
    obtain ⟨-, ha⟩ := List.mem_filter.mp ha
    simp only [Bool.and_eq_true, decide_eq_true_eq] at ha
    exact absurd (ha.1 ▸ ha.2) hp

/-- Weaving depends only on what is anchored from the beginning of the text on. -/
lemma weave_congr {others : List (Nat × Text)}
    (h : ∀ n, o ≤ n → textsAt anchored n = textsAt others n) (s : Text) :
    weave anchored o s = weave others o s := by
  induction s generalizing o with
  | nil => exact h o le_rfl
  | cons c s ih => rw [weave, weave, h o le_rfl, ih fun n hn => h n (by omega)]

/-- A text that begins past all anchors stays as it is. -/
lemma weave_eq_self {s : Text} (h : ∀ a ∈ anchored, a.1 < o) : weave anchored o s = s := by
  have hnone : textsAt anchored o = [] := textsAt_eq_nil fun a ha => by have := h a ha; omega
  induction s generalizing o with
  | nil => exact hnone
  | cons c s ih =>
      have hlater : ∀ a ∈ anchored, a.1 < o + c.utf8Size := fun a ha => by have := h a ha; omega
      rw [weave, hnone, ih hlater (textsAt_eq_nil fun a ha => by have := hlater a ha; omega)]
      rfl

/-- What stands before all anchors stays as it is. -/
lemma weave_append_left {s : Text} (t : Text) (h : ∀ a ∈ anchored, o + s.bytes ≤ a.1) :
    weave anchored o (s ++ t) = s ++ weave anchored (o + s.bytes) t := by
  induction s generalizing o with
  | nil => rfl
  | cons c s ih =>
      have hc := c.utf8Size_pos
      simp only [bytes_cons] at h
      have hnone : textsAt anchored o = [] :=
        textsAt_eq_nil fun a ha => by have := h a ha; omega
      rw [List.cons_append, weave, hnone, ih fun a ha => by have := h a ha; omega, bytes_cons,
        Nat.add_assoc]
      rfl

/-- What is anchored at one place begins as each of its texts does. -/
lemma textsAt_head? {c : Char} (h : ∀ a ∈ anchored, a.1 = o → a.2.head? = some c) :
    textsAt anchored o = [] ∨ (textsAt anchored o).head? = some c := by
  induction anchored with
  | nil => exact .inl rfl
  | cons a anchored ih =>
      rw [textsAt_cons]
      split
      case isTrue hhere => exact .inr (by rw [List.head?_append, h a (by simp) hhere]; rfl)
      case isFalse => exact ih fun b hb => h b (List.mem_cons_of_mem _ hb)

/-- What stands before all anchors stays as it is, and the rest goes on as it did or with what is
anchored at its beginning. -/
lemma exists_weave_append {s : Text} {c : Char} (t : Text)
    (h : ∀ a ∈ anchored, o + s.bytes ≤ a.1 ∧ (a.1 = o + s.bytes → a.2.head? = some c)) :
    ∃ t', weave anchored o (s ++ t) = s ++ t'
      ∧ (t'.head? = t.head? ∨ t'.head? = some c) := by
  refine ⟨_, weave_append_left t fun a ha => (h a ha).1, ?_⟩
  rcases textsAt_head? fun a ha => (h a ha).2 with hnone | hfirst
  · refine .inl ?_
    cases t with
    | nil => rw [weave, hnone]
    | cons d t => rw [weave, hnone, List.nil_append, List.head?_cons, List.head?_cons]
  · refine .inr ?_
    cases t with
    | nil => exact hfirst
    | cons d t => rw [weave, List.head?_append, hfirst, Option.some_or]

/-- What stands after all anchors stays as it is. -/
lemma weave_append_right {s : Text} (t : Text) (h : ∀ a ∈ anchored, a.1 ≤ o + s.bytes) :
    weave anchored o (s ++ t) = weave anchored o s ++ t := by
  induction s generalizing o with
  | nil =>
      cases t with
      | nil => simp [weave]
      | cons c t =>
          have hc := c.utf8Size_pos
          have hlater : ∀ a ∈ anchored, a.1 < o + c.utf8Size := fun a ha => by
            have := h a ha
            simp only [bytes_nil] at this
            omega
          simp only [List.nil_append, weave, weave_eq_self hlater]
  | cons c s ih =>
      have hs : ∀ a ∈ anchored, a.1 ≤ o + c.utf8Size + bytes s := fun a ha => by
        have := h a ha
        rw [bytes_cons] at this
        omega
      simp only [List.cons_append, weave, ih hs, List.append_assoc]

/-- What is anchored up to a place and what is anchored from there on are woven apart. -/
lemma weave_append {left right : List (Nat × Text)} {o : Nat} {s : Text} (t : Text)
    (hleft : ∀ a ∈ left, a.1 ≤ o + s.bytes) (hright : ∀ a ∈ right, o + s.bytes ≤ a.1) :
    weave (left ++ right) o (s ++ t) = weave left o s ++ weave right (o + s.bytes) t := by
  induction s generalizing o with
  | nil =>
      simp only [bytes_nil, Nat.add_zero] at hleft hright
      cases t with
      | nil => simp [weave, textsAt_append]
      | cons c t =>
          have hc := c.utf8Size_pos
          have hpast : weave (left ++ right) (o + c.utf8Size) t
              = weave right (o + c.utf8Size) t := by
            refine weave_congr (fun n hn => ?_) t
            rw [textsAt_append, textsAt_eq_nil fun a ha => by have := hleft a ha; omega]
            rfl
          simp [weave, textsAt_append, hpast]
  | cons c s ih =>
      have hc := c.utf8Size_pos
      rw [bytes_cons] at hleft hright
      have hnone : textsAt right o = [] :=
        textsAt_eq_nil fun a ha => by have := hright a ha; omega
      rw [List.cons_append, weave, weave, textsAt_append, hnone, List.append_nil,
        ih (fun a ha => by have := hleft a ha; omega) (fun a ha => by have := hright a ha; omega),
        bytes_cons, Nat.add_assoc, List.append_assoc, List.cons_append]

/-- What is anchored first at the beginning of a text comes first. -/
lemma weave_cons_self (o : Nat) (t : Text) (anchored : List (Nat × Text)) (s : Text) :
    weave ((o, t) :: anchored) o s = t ++ weave anchored o s := by
  cases s with
  | nil => simp [weave, textsAt_cons]
  | cons c s =>
      have hc := c.utf8Size_pos
      -- past its own place the new anchor writes nothing
      have hlater : weave ((o, t) :: anchored) (o + c.utf8Size) s
          = weave anchored (o + c.utf8Size) s := by
        refine weave_congr (fun n hn => ?_) s
        rw [textsAt_cons, if_neg (by simp; omega), List.nil_append]
      simp [weave, textsAt_cons, hlater]

/-! ### Around one anchor -/

/-- What is anchored before the place `o`, where `xs` are listed before what is anchored there and
`ys` behind it. -/
def anchoredBefore (o : Nat) (xs ys : List (Nat × Text)) : List (Nat × Text) :=
  xs.filter (fun p => decide (p.1 ≤ o)) ++ ys.filter fun p => decide (p.1 < o)

/-- What is anchored behind the place `o`, likewise. -/
def anchoredBehind (o : Nat) (xs ys : List (Nat × Text)) : List (Nat × Text) :=
  xs.filter (fun p => !decide (p.1 ≤ o)) ++ ys.filter fun p => !decide (p.1 < o)

section Around

variable {o : Nat} {xs ys : List (Nat × Text)} {p : Nat × Text}

lemma mem_anchoredBefore :
    p ∈ anchoredBefore o xs ys ↔ p ∈ xs ∧ p.1 ≤ o ∨ p ∈ ys ∧ p.1 < o := by
  simp [anchoredBefore]

lemma mem_anchoredBehind :
    p ∈ anchoredBehind o xs ys ↔ p ∈ xs ∧ o < p.1 ∨ p ∈ ys ∧ o ≤ p.1 := by
  simp [anchoredBehind]

/-- Nothing is lost. -/
lemma anchored_perm (o : Nat) (p : Nat × Text) (xs ys : List (Nat × Text)) :
    (anchoredBefore o xs ys ++ p :: anchoredBehind o xs ys).Perm (xs ++ p :: ys) := by
  have hxs := List.filter_append_perm (fun q => decide (q.1 ≤ o)) xs
  have hys := List.filter_append_perm (fun q => decide (q.1 < o)) ys
  refine List.perm_middle.trans (.trans ?_ List.perm_middle.symm)
  refine List.Perm.cons p (.trans ?_ (hxs.append hys))
  rw [anchoredBefore, anchoredBehind, List.append_assoc, List.append_assoc]
  refine List.Perm.append_left _ ?_
  rw [← List.append_assoc, ← List.append_assoc]
  exact List.perm_append_comm.append_right _

/-- What is anchored at a place is woven between what is anchored before it and behind it. -/
lemma weave_around {n : Nat} {s : Text} (t : Text) (hs : n + s.bytes = o) (r : Text)
    (xs ys : List (Nat × Text)) :
    weave (xs ++ (o, r) :: ys) n (s ++ t)
      = weave (anchoredBefore o xs ys) n s ++ (r ++ weave (anchoredBehind o xs ys) o t) := by
  have hsame : ∀ m, textsAt (xs ++ (o, r) :: ys) m
      = textsAt (anchoredBefore o xs ys ++ (o, r) :: anchoredBehind o xs ys) m := by
    intro m
    rw [anchoredBefore, anchoredBehind]
    simp only [textsAt_append, textsAt_cons]
    rw [textsAt_filter (fun k => decide (k ≤ o)), textsAt_filter (fun k => decide (k < o)),
      textsAt_filter (fun k => !decide (k ≤ o)), textsAt_filter (fun k => !decide (k < o))]
    rcases lt_trichotomy m o with hlt | rfl | hgt
    · simp [hlt, hlt.le, hlt.ne']
    · simp
    · simp [hgt.ne, not_lt.mpr hgt.le, not_le.mpr hgt]
  rw [weave_congr (fun m _ => hsame m), weave_append t, hs, weave_cons_self]
  · intro p hp
    rcases mem_anchoredBefore.mp hp with ⟨-, hle⟩ | ⟨-, hlt⟩ <;> omega
  · intro p hp
    rcases List.mem_cons.mp hp with rfl | hp
    · exact hs.le
    · rcases mem_anchoredBehind.mp hp with ⟨-, hlt⟩ | ⟨-, hle⟩ <;> omega

end Around

/-! ### A batch of insertions -/

/-- An insertion before all anchors is one more anchor. -/
lemma insertAt_weave {before : Text} (rest t : Text) (h : ∀ a ∈ anchored, before.bytes ≤ a.1) :
    (weave anchored 0 (before ++ rest)).insertAt before.bytes t
      = weave ((before.bytes, t) :: anchored) 0 (before ++ rest) := by
  rw [weave_append_left rest (by simpa using h), Nat.zero_add, insertAt_append,
    weave_append_left rest (by simpa using h), Nat.zero_add, weave_cons_self, List.append_assoc]

/-- Insertions from the last to the first place are anchors. -/
lemma foldl_insertAt_weave (anchored places : List (Nat × Text)) (text : Text)
    (hsorted : places.Pairwise fun a b => b.1 ≤ a.1) (hplaces : ∀ a ∈ places, text.IsBoundary a.1)
    (hbelow : ∀ a ∈ places, ∀ b ∈ anchored, a.1 ≤ b.1) :
    places.foldl (fun result (offset, inserted) => result.insertAt offset inserted)
        (weave anchored 0 text)
      = weave (places.reverse ++ anchored) 0 text := by
  induction places generalizing anchored with
  | nil => rfl
  | cons a places ih =>
      obtain ⟨before, rest, htext, hbytes⟩ := hplaces a (by simp)
      have hstep : (weave anchored 0 text).insertAt a.1 a.2 = weave (a :: anchored) 0 text := by
        rw [htext, ← hbytes, insertAt_weave rest a.2 fun b hb => hbytes ▸ hbelow a (by simp) b hb,
          hbytes]
      obtain ⟨hfirst, hsorted⟩ := List.pairwise_cons.mp hsorted
      rw [List.foldl_cons]
      show places.foldl _ ((weave anchored 0 text).insertAt a.1 a.2) = _
      rw [hstep, ih _ hsorted (fun b hb => hplaces b (by simp [hb])) ?_]
      · simp
      · intro b hb d hd
        rcases List.mem_cons.mp hd with rfl | hd
        · exact hfirst b hb
        · exact hbelow b (by simp [hb]) d hd

end Text

open Text

/-- The place of an insertion in a text, and what is inserted. -/
def anchor (text : Text) (edit : Insertion) : Nat × Text :=
  (text.offset edit.line edit.column, edit.text)

lemma mem_insertDescending {a b : Nat × Text} {places : List (Nat × Text)} :
    b ∈ insertDescending a places ↔ b = a ∨ b ∈ places := by
  induction places with
  | nil => simp [insertDescending]
  | cons d places ih =>
      rw [insertDescending]
      split
      · simp
      · simp only [List.mem_cons, ih]
        tauto

lemma pairwise_insertDescending {a : Nat × Text} {places : List (Nat × Text)}
    (h : places.Pairwise fun a b => b.1 ≤ a.1) :
    (insertDescending a places).Pairwise fun a b => b.1 ≤ a.1 := by
  induction places with
  | nil => simp [insertDescending]
  | cons d places ih =>
      obtain ⟨hd, hplaces⟩ := List.pairwise_cons.mp h
      rw [insertDescending]
      split
      case isTrue hle =>
        refine List.pairwise_cons.mpr ⟨fun b hb => ?_, h⟩
        rcases List.mem_cons.mp hb with rfl | hb
        · exact hle
        · exact (hd b hb).trans hle
      case isFalse hgt =>
        refine List.pairwise_cons.mpr ⟨fun b hb => ?_, ih hplaces⟩
        rcases mem_insertDescending.mp hb with rfl | hb
        · omega
        · exact hd b hb

/-- An anchored text goes before those at its own place and leaves all others in order. -/
lemma filter_insertDescending (a : Nat × Text) (places : List (Nat × Text)) (o : Nat) :
    (insertDescending a places).filter (·.1 = o)
      = if a.1 = o then a :: places.filter (·.1 = o) else places.filter (·.1 = o) := by
  induction places with
  | nil => by_cases h : a.1 = o <;> simp [insertDescending, h]
  | cons d places ih =>
      rw [insertDescending]
      split
      · by_cases h : a.1 = o <;> simp [h]
      case isFalse hgt =>
        rw [List.filter_cons, ih, List.filter_cons]
        by_cases h : a.1 = o
        · have hd : d.1 ≠ o := by omega
          simp [h, hd]
        · simp [h]

/-- What sorting a batch gives: the places in descending order, each with its own texts reversed. -/
lemma anchorDescending_spec (text : Text) (edits : List Insertion) :
    (anchorDescending text edits).Pairwise (fun a b => b.1 ≤ a.1)
      ∧ (∀ b, b ∈ anchorDescending text edits ↔ b ∈ edits.map (anchor text))
      ∧ ∀ o, (anchorDescending text edits).filter (·.1 = o)
          = ((edits.map (anchor text)).filter (·.1 = o)).reverse := by
  induction edits using List.reverseRecOn with
  | nil => simp [anchorDescending]
  | append_singleton edits edit ih =>
      obtain ⟨hsorted, hmem, hfilter⟩ := ih
      have hlast : anchorDescending text (edits ++ [edit])
          = insertDescending (anchor text edit) (anchorDescending text edits) := by
        simp [anchorDescending, anchor]
      rw [hlast]
      refine ⟨pairwise_insertDescending hsorted, fun b => ?_, fun o => ?_⟩
      · rw [mem_insertDescending, hmem]
        simp [or_comm]
      · rw [filter_insertDescending, hfilter]
        by_cases h : (anchor text edit).1 = o <;> simp [h]

/-- **A batch of insertions is one pass over the text**: before each character stands what the
batch places there, in list order. -/
theorem applyInsertions_eq_weave (text : Text) (edits : List Insertion) :
    applyInsertions text edits = weave (edits.map (anchor text)) 0 text := by
  obtain ⟨hsorted, hmem, hfilter⟩ := anchorDescending_spec text edits
  have hplaces : ∀ a ∈ anchorDescending text edits, text.IsBoundary a.1 := by
    intro a ha
    obtain ⟨edit, -, rfl⟩ := List.mem_map.mp ((hmem a).mp ha)
    exact isBoundary_offset text _ _
  have hempty : weave [] 0 text = text := weave_eq_self (by simp)
  have hfold := foldl_insertAt_weave [] _ text hsorted hplaces (by simp)
  rw [hempty, List.append_nil] at hfold
  rw [applyInsertions, hfold]
  refine weave_congr (fun n _ => ?_) text
  rw [textsAt, textsAt, List.filter_reverse, hfilter, List.reverse_reverse]

namespace Text

/-! ### Insertion without offsets -/

/-- `Inserted old texts new`: `new` is `old` with the given texts inserted somewhere, in this order
and each of them once. -/
inductive Inserted : Text → List Text → Text → Prop
  | nil : Inserted [] [] []
  | keep {old new : Text} {texts : List Text} (c : Char) (h : Inserted old texts new) :
      Inserted (c :: old) texts (c :: new)
  | put {old new : Text} {texts : List Text} (t : Text) (h : Inserted old texts new) :
      Inserted old (t :: texts) (t ++ new)

lemma Inserted.put_all {old new : Text} {texts : List Text} (h : Inserted old texts new)
    (more : List Text) : Inserted old (more ++ texts) (more.flatten ++ new) := by
  induction more with
  | nil => exact h
  | cons t more ih => simpa using ih.put t

/-- Weaving inserts every anchored text once, as long as all anchors are boundaries. -/
lemma exists_inserted_weave {anchored : List (Nat × Text)} {o : Nat} {s : Text}
    (h : ∀ a ∈ anchored, ∃ n, s.IsBoundary n ∧ a.1 = o + n) :
    ∃ texts, texts.Perm (anchored.map (·.2)) ∧ Inserted s texts (weave anchored o s) := by
  induction s generalizing o anchored with
  | nil =>
      have hall : anchored.filter (fun a => decide (a.1 = o)) = anchored := by
        refine List.filter_eq_self.mpr fun a ha => ?_
        obtain ⟨n, hn, hao⟩ := h a ha
        have := hn.le
        simp at this
        simp; omega
      refine ⟨anchored.map (·.2), List.Perm.refl _, ?_⟩
      have hput := Inserted.nil.put_all (anchored.map (·.2))
      rw [weave, textsAt, hall]
      simpa [List.flatMap] using hput
  | cons c s ih =>
      have hc := c.utf8Size_pos
      -- what is anchored before `c`, and what is anchored later
      set here := anchored.filter fun a => decide (a.1 = o) with hhere
      set later := anchored.filter fun a => !decide (a.1 = o) with hlater
      have hsame : weave anchored (o + c.utf8Size) s = weave later (o + c.utf8Size) s := by
        refine weave_congr (fun n hn => ?_) s
        rw [textsAt, textsAt, hlater, List.filter_filter]
        congr 1
        refine List.filter_congr fun a _ => ?_
        by_cases han : a.1 = n
        · have : a.1 ≠ o := by omega
          simp [han]; omega
        · simp [han]
      have hplaces : ∀ a ∈ later, ∃ n, IsBoundary s n ∧ a.1 = o + c.utf8Size + n := by
        intro a ha
        obtain ⟨hmem, hne⟩ := List.mem_filter.mp ha
        simp only [Bool.not_eq_true', decide_eq_false_iff_not] at hne
        obtain ⟨n, ⟨before, rest, hs, hb⟩, hao⟩ := h a hmem
        cases before with
        | nil =>
            simp at hb
            omega
        | cons d before =>
            simp only [List.cons_append, List.cons.injEq] at hs
            obtain ⟨rfl, hs⟩ := hs
            exact ⟨bytes before, ⟨before, rest, hs, rfl⟩, by rw [hao, ← hb, bytes_cons]; omega⟩
      obtain ⟨texts, hperm, hins⟩ := ih hplaces
      refine ⟨here.map (·.2) ++ texts, ?_, ?_⟩
      · have hall : (here.map (·.2) ++ later.map (·.2)).Perm (anchored.map (·.2)) := by
          rw [← List.map_append]
          exact (List.filter_append_perm _ _).map _
        exact (hperm.append_left _).trans hall
      · have hput := (hins.keep c).put_all (here.map (·.2))
        rw [weave, hsame, textsAt, ← hhere]
        simpa [List.flatMap] using hput

end Text

end ComponentFile
