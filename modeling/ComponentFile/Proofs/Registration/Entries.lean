import Mathlib.Tactic
import ComponentFile.Proofs.Registration.Anchors

/-!
An entry that is added to an object literal is separated from the others by one comma, and one comma
follows it, unless the comma behind the last entry is hidden.

* `commas?` counts the commas in the text between two entries: those in comments do not count, and
  there is no answer if anything else stands there.
* `LiteralText` is the source of an object literal, cut into its entries and what stands between
  them. `LiteralText.Separated k` says that single commas separate the entries and `k` commas follow
  the last one; `LiteralText.Writes` that a syntax tree is the one of the literal.
* Only blanks are passed over in search of the comma behind the last entry. `HidesComma` says that
  something else stands before it, a comment or a mark of no width. Then the search does not find
  it, and the literal ends with two commas: `appendEntry_separated`.
-/

namespace ComponentFile

open Text

namespace Script

/-! ### The text between entries -/

/-- Where a reader of the text between two entries stands. -/
inductive Spot where
  /-- Outside comments. -/
  | gap
  /-- Behind a slash outside comments. -/
  | slash
  /-- In a comment that ends with its line. -/
  | lineComment
  /-- In a comment that ends with `*/`. -/
  | blockComment
  /-- In such a comment, behind an asterisk. -/
  | asterisk
  deriving DecidableEq, Repr

/-- The spot behind a character. Outside comments there are only blanks, commas and slashes. -/
def Spot.next? : Spot → Char → Option Spot
  | .gap, c =>
    if c = '/' then some .slash else if c = ',' || isGapBlank c then some .gap else none
  | .slash, c =>
    if c = '/' then some .lineComment else if c = '*' then some .blockComment else none
  | .lineComment, c => some (if endsLine c then .gap else .lineComment)
  | .blockComment, c => some (if c = '*' then .asterisk else .blockComment)
  | .asterisk, c =>
    some (if c = '/' then .gap else if c = '*' then .asterisk else .blockComment)

/-- The number of commas outside comments, from a spot on to the end of a text that ends outside
comments. -/
def commasFrom? : Spot → Text → Option Nat
  | .gap, [] => some 0
  | _, [] => none
  | spot, c :: cs => (spot.next? c).bind fun next => (commasFrom? next cs).map
      fun later => if spot = .gap ∧ c = ',' then later + 1 else later

/-- The number of commas outside comments in a text of blanks, commas and finished comments. -/
def commas? (s : Text) : Option Nat := commasFrom? .gap s

/-- A comma follows, but something other than blanks stands before it. -/
def HidesComma (tail : Text) : Prop :=
  ∃ gap rest, tail = gap ++ ',' :: rest ∧ commas? gap = some 0 ∧ ∃ c ∈ gap, isBlank c = false

lemma commasFrom?_cons (spot : Spot) (c : Char) (cs : Text) :
    commasFrom? spot (c :: cs) = (spot.next? c).bind fun next => (commasFrom? next cs).map
      fun later => if spot = .gap ∧ c = ',' then later + 1 else later := by
  cases spot <;> rfl

lemma commasFrom?_cons_eq_some {spot : Spot} {c : Char} {cs : Text} {k : Nat} :
    commasFrom? spot (c :: cs) = some k ↔ ∃ next, spot.next? c = some next
      ∧ ∃ later, commasFrom? next cs = some later
        ∧ (if spot = .gap ∧ c = ',' then later + 1 else later) = k := by
  simp only [commasFrom?_cons, Option.bind_eq_some_iff, Option.map_eq_some_iff]

/-- Behind a text that ends outside comments, a reader stands outside comments. -/
lemma commasFrom?_append {spot : Spot} {s : Text} {k : Nat} (hs : commasFrom? spot s = some k)
    (t : Text) : commasFrom? spot (s ++ t) = (commas? t).map (k + ·) := by
  induction s generalizing spot k with
  | nil =>
      cases spot <;> simp [commasFrom?] at hs
      simp [← hs, commas?]
  | cons c s ih =>
      obtain ⟨next, hnext, later, hlater, rfl⟩ := commasFrom?_cons_eq_some.mp hs
      rw [List.cons_append, commasFrom?_cons, hnext, Option.bind_some, ih hlater, Option.map_map]
      congr 1
      funext l
      simp only [Function.comp_apply]
      split <;> omega

/-- Commas add up. -/
lemma commas?_append {s t : Text} {k l : Nat} (hs : commas? s = some k) (ht : commas? t = some l) :
    commas? (s ++ t) = some (k + l) := by
  rw [commas?, commasFrom?_append hs, ht]
  rfl

/-- A text with a comma is cut at the first one. -/
lemma exists_comma {spot : Spot} {s : Text} {k : Nat} (h : commasFrom? spot s = some (k + 1)) :
    ∃ gap rest, s = gap ++ ',' :: rest ∧ commasFrom? spot gap = some 0
      ∧ commas? rest = some k := by
  induction s generalizing spot with
  | nil => cases spot <;> simp [commasFrom?] at h
  | cons c s ih =>
      obtain ⟨next, hnext, later, hlater, hk⟩ := commasFrom?_cons_eq_some.mp h
      split at hk
      case isTrue hcomma =>
        obtain ⟨rfl, rfl⟩ := hcomma
        obtain rfl : Spot.gap = next := Option.some.inj hnext
        obtain rfl : later = k := by omega
        exact ⟨[], s, rfl, rfl, hlater⟩
      case isFalse hother =>
        subst hk
        obtain ⟨gap, rest, rfl, hgap, hrest⟩ := ih hlater
        exact ⟨c :: gap, rest, rfl,
          commasFrom?_cons_eq_some.mpr ⟨next, hnext, 0, hgap, if_neg hother⟩, hrest⟩

lemma commas?_comma {s : Text} {k : Nat} :
    commas? (',' :: s) = some k ↔ ∃ later, commas? s = some later ∧ k = later + 1 := by
  rw [commas?, commasFrom?_cons, show Spot.gap.next? ',' = some .gap from rfl, Option.bind_some,
    Option.map_eq_some_iff]
  exact ⟨fun ⟨later, h, hk⟩ => ⟨later, h, hk.symm⟩, fun ⟨later, h, hk⟩ => ⟨later, h, hk.symm⟩⟩

/-- A blank between tokens is neither a comma nor a slash. -/
lemma commas?_cons_of_isGapBlank {c : Char} (hc : isGapBlank c = true) (s : Text) :
    commas? (c :: s) = commas? s := by
  have hslash : c ≠ '/' := by
    rintro rfl
    exact absurd hc (by decide)
  have hcomma : c ≠ ',' := by
    rintro rfl
    exact absurd hc (by decide)
  have hnext : Spot.gap.next? c = some .gap := by simp [Spot.next?, hslash, hc]
  simp [commas?, commasFrom?, hnext, hcomma]

lemma commas?_blanks {s : Text} (h : ∀ c ∈ s, isGapBlank c = true) : commas? s = some 0 := by
  induction s with
  | nil => rfl
  | cons c s ih =>
      rw [commas?_cons_of_isGapBlank (h c List.mem_cons_self)]
      exact ih fun d hd => h d (List.mem_cons_of_mem c hd)

/-- Blanks that stand between entries are blanks between tokens. -/
lemma commas?_blanks_append {blanks s : Text} {k : Nat} (hblanks : ∀ c ∈ blanks, isBlank c = true)
    (h : commas? (blanks ++ s) = some k) : commas? blanks = some 0 ∧ commas? s = some k := by
  induction blanks with
  | nil => exact ⟨rfl, h⟩
  | cons c blanks ih =>
      have hblank := hblanks c List.mem_cons_self
      have hgap : isGapBlank c = true := by
        obtain ⟨next, hnext, -⟩ := commasFrom?_cons_eq_some.mp h
        have hslash : c ≠ '/' := by
          rintro rfl
          exact absurd hblank (by decide)
        have hcomma : c ≠ ',' := by
          rintro rfl
          exact absurd hblank (by decide)
        by_contra hnot
        simp [Spot.next?, hslash, hcomma, hnot] at hnext
      rw [List.cons_append, commas?_cons_of_isGapBlank hgap] at h
      rw [commas?_cons_of_isGapBlank hgap]
      exact ih (fun d hd => hblanks d (List.mem_cons_of_mem c hd)) h

lemma exists_blanks {s : Text} {d : Char} (h : (s.dropWhile isBlank).head? = some d) :
    ∃ blanks rest, s = blanks ++ d :: rest ∧ ∀ c ∈ blanks, isBlank c = true := by
  obtain ⟨rest, hrest⟩ := List.head?_eq_some_iff.mp h
  refine ⟨s.takeWhile isBlank, rest, ?_, fun c hc => List.mem_takeWhile_imp hc⟩
  rw [← hrest, List.takeWhile_append_dropWhile]

/-- Where a comma follows, it is hidden if it is not the first character that is not blank. -/
lemma hidesComma_iff {tail : Text} (h : commas? tail = some 1) :
    HidesComma tail ↔ (tail.dropWhile isBlank).head? ≠ some ',' := by
  constructor
  · rintro ⟨gap, rest, rfl, hgap, c, hc, hblank⟩ hhead
    have hne : List.dropWhile isBlank gap ≠ [] := by
      intro hnil
      have := List.dropWhile_eq_nil_iff.mp hnil c hc
      rw [hblank] at this
      cases this
    rw [List.dropWhile_append, if_neg (by simpa using hne), List.head?_append_of_ne_nil _ hne]
      at hhead
    -- the comma would stand in the gap
    obtain ⟨blanks, m, rfl, hblanks⟩ := exists_blanks hhead
    obtain ⟨-, hcomma⟩ := commas?_blanks_append hblanks hgap
    obtain ⟨later, -, hlater⟩ := commas?_comma.mp hcomma
    omega
  · intro hhead
    obtain ⟨gap, rest, rfl, hgap, -⟩ := exists_comma h
    refine ⟨gap, rest, rfl, hgap, ?_⟩
    by_contra hblanks
    simp only [not_exists, not_and, Bool.not_eq_false] at hblanks
    rw [List.dropWhile_append_of_pos hblanks] at hhead
    exact hhead rfl

lemma HidesComma.ne_zero {tail : Text} {k : Nat} (hhides : HidesComma tail)
    (h : commas? tail = some k) : k ≠ 0 := by
  obtain ⟨gap, rest, rfl, hgap, -⟩ := hhides
  rw [commas?, commasFrom?_append hgap] at h
  obtain ⟨l, hl, rfl⟩ := Option.map_eq_some_iff.mp h
  obtain ⟨later, -, rfl⟩ := commas?_comma.mp hl
  omega

/-! ### Object literals as they are written -/

/-- An entry of an object literal, with the text up to the next entry or the closing brace. -/
structure LiteralEntry where
  /-- The text of the entry. -/
  text : Text
  /-- The text behind it. -/
  tail : Text
  deriving DecidableEq, Repr

/-- The source of an object literal. -/
structure LiteralText where
  /-- The text behind the opening brace. -/
  lead : Text
  /-- The entries, in order. -/
  entries : List LiteralEntry
  deriving DecidableEq, Repr

/-- Entries with the texts behind them. -/
def LiteralEntry.renderAll (entries : List LiteralEntry) : Text :=
  entries.flatMap fun e => e.text ++ e.tail

/-- Where entries stand that begin at an offset. -/
def LiteralEntry.ranges : (offset : Nat) → List LiteralEntry → List (Nat × Nat)
  | _, [] => []
  | offset, e :: es =>
    (offset, offset + e.text.bytes) :: ranges (offset + e.text.bytes + e.tail.bytes) es

namespace LiteralText

/-- The literal with its braces. -/
def render (literal : LiteralText) : Text :=
  '\x7b' :: (literal.lead ++ (LiteralEntry.renderAll literal.entries ++ ['\x7d']))

/-- Single commas separate the entries, and the given number of commas follows the last one. -/
structure Separated (trailing : Nat) (literal : LiteralText) : Prop where
  lead : commas? literal.lead = some 0
  inner : ∀ e ∈ literal.entries.dropLast, commas? e.tail = some 1
  last : ∀ e, literal.entries.getLast? = some e → commas? e.tail = some trailing

/-- The comma behind the last entry is hidden. -/
def HidesLast (literal : LiteralText) : Prop :=
  ∃ e, literal.entries.getLast? = some e ∧ HidesComma e.tail

end LiteralText

/-- Whether a tree is an entry of an object literal with a key or a name. -/
def Tree.isEntry (tree : Tree) : Bool :=
  match tree.kind with
  | .pair => (tree.child? .key).isSome
  | .shorthand => true
  | .method => (tree.child? .name).isSome
  | _ => false

/-- The tree of an object literal that is written at an offset: its children are the entries. -/
structure LiteralText.Writes (literal : LiteralText) (start : Nat) (tree : Tree) : Prop where
  kind : tree.kind = .object
  start_eq : tree.start = start
  stop_eq : tree.stop = start + literal.render.bytes
  ranges : tree.children.map (fun t => (t.start, t.stop))
    = LiteralEntry.ranges (start + 1 + literal.lead.bytes) literal.entries
  entries : ∀ t ∈ tree.children, t.isEntry = true

instance (literal : LiteralText) (start : Nat) (tree : Tree) :
    Decidable (literal.Writes start tree) :=
  decidable_of_iff (tree.kind = .object ∧ tree.start = start
    ∧ tree.stop = start + literal.render.bytes
    ∧ tree.children.map (fun t => (t.start, t.stop))
      = LiteralEntry.ranges (start + 1 + literal.lead.bytes) literal.entries
    ∧ ∀ t ∈ tree.children, t.isEntry = true)
    ⟨fun ⟨h1, h2, h3, h4, h5⟩ => ⟨h1, h2, h3, h4, h5⟩,
      fun h => ⟨h.kind, h.start_eq, h.stop_eq, h.ranges, h.entries⟩⟩

namespace LiteralText

lemma render_concat (lead : Text) (init : List LiteralEntry) (e : LiteralEntry) :
    render ⟨lead, init ++ [e]⟩
      = '\x7b' :: (lead ++ LiteralEntry.renderAll init ++ e.text) ++ (e.tail ++ ['\x7d']) := by
  simp [render, LiteralEntry.renderAll]

lemma ranges_append (offset : Nat) (a b : List LiteralEntry) :
    LiteralEntry.ranges offset (a ++ b) = LiteralEntry.ranges offset a
      ++ LiteralEntry.ranges (offset + (LiteralEntry.renderAll a).bytes) b := by
  induction a generalizing offset with
  | nil => rfl
  | cons e a ih =>
      have hbytes : offset + e.text.bytes + e.tail.bytes + (LiteralEntry.renderAll a).bytes
          = offset + (LiteralEntry.renderAll (e :: a)).bytes := by
        simp only [LiteralEntry.renderAll, List.flatMap_cons, bytes_append]
        omega
      rw [List.cons_append, LiteralEntry.ranges, ih, hbytes]
      rfl

lemma separated_concat {k : Nat} {lead : Text} {init : List LiteralEntry} {e : LiteralEntry} :
    Separated k ⟨lead, init ++ [e]⟩ ↔ commas? lead = some 0
      ∧ (∀ d ∈ init, commas? d.tail = some 1) ∧ commas? e.tail = some k := by
  constructor
  · rintro ⟨hlead, hinner, hlast⟩
    exact ⟨hlead, by simpa using hinner, hlast e (by simp)⟩
  · rintro ⟨hlead, hinner, hlast⟩
    exact ⟨hlead, by simpa using hinner, by simpa using hlast⟩

end LiteralText

section Trees

variable {site : Site}

lemma exists_propertyOf? {tree : Tree} (h : tree.isEntry = true) :
    ∃ property, propertyOf? site tree = some property := by
  obtain ⟨kind, role, start, stop, children⟩ := tree
  rw [← Option.isSome_iff_exists, propertyOf?.eq_def]
  unfold Tree.isEntry at h
  cases kind <;> simp_all [Tree.kind]

/-- Every entry is a property, at its place. -/
lemma map_span_propertiesOf {trees : List Tree} (h : ∀ t ∈ trees, t.isEntry = true) :
    (propertiesOf site trees).map (·.span) = trees.map site.span := by
  induction trees with
  | nil => simp [propertiesOf]
  | cons t trees ih =>
      obtain ⟨property, hproperty⟩ : ∃ property, propertyOf? site t = some property :=
        exists_propertyOf? (h t List.mem_cons_self)
      rw [propertiesOf, hproperty, List.map_append, List.map_cons,
        ih fun u hu => h u (List.mem_cons_of_mem t hu), ← (propertyOf?_eq_some hproperty).1]
      rfl

lemma LiteralText.Writes.asObject? {literal : LiteralText} {start : Nat} {tree : Tree}
    (h : literal.Writes start tree) :
    (valueOf site tree).asObject? = some ⟨site.span tree, propertiesOf site tree.children⟩ := by
  obtain ⟨kind, role, start, stop, children⟩ := tree
  obtain rfl : kind = .object := h.kind
  rw [valueOf, if_pos rfl]
  rfl

end Trees

end Script

namespace Registration

open Script Script.LiteralText

/-! ### Adding an entry -/

lemma commas?_newLine (text : Text) (line : Nat) :
    commas? ('\n' :: text.indentation line) = some 0 := by
  refine commas?_blanks fun c hc => ?_
  rcases List.mem_cons.mp hc with rfl | hc
  · decide
  · have hindent : isIndent c = true := List.mem_takeWhile_imp hc
    simp only [isIndent, Bool.or_eq_true, decide_eq_true_eq] at hindent
    rcases hindent with rfl | rfl <;> decide

lemma applyInsertions_placed (s t inserted : Text) :
    applyInsertions (s ++ t) [.placed ((s ++ t).position s.bytes) inserted]
      = s ++ (inserted ++ t) := by
  rw [position_append]
  exact applyInsertions_singleton (Insertion.placed_at s t inserted)

/-- The first entry of a literal goes behind the opening brace. -/
lemma appendEntry_first {s : Text} (object : ObjectLiteral) (hnone : object.properties = [])
    (hstart : object.span.start.offset + 1 = s.bytes) (t name : Text) :
    ∃ lead tail, commas? lead = some 0 ∧ commas? tail = some 1
      ∧ applyInsertions (s ++ t) [appendEntry (s ++ t) object name]
        = s ++ (lead ++ (name ++ (tail ++ t))) := by
  rw [appendEntry, hnone]
  dsimp only [List.getLast?_nil]
  rw [hstart, applyInsertions_placed]
  split
  · exact ⟨[' '], ", ".toList, by decide, by decide, by simp⟩
  · have htab : commas? ['\t'] = some 0 := by decide
    exact ⟨'\n' :: (s ++ t).indentation object.span.start.line ++ ['\t'], [','],
      commas?_append (commas?_newLine _ _) htab, by decide, by simp⟩

lemma trailingComma?_blanks {s blanks : Text} (hblanks : ∀ c ∈ blanks, isBlank c = true)
    (rest u : Text) :
    trailingComma? (s ++ (blanks ++ ',' :: rest ++ u)) s.bytes
      (s.bytes + bytes (blanks ++ ',' :: rest)) = some (s ++ (blanks ++ [','])).bytes := by
  have hcomma : isBlank ',' = false := by decide
  rw [trailingComma?, slice_append, List.dropWhile_append_of_pos hblanks,
    List.takeWhile_append_of_pos hblanks, List.dropWhile_cons_of_neg (by simp [hcomma]),
    List.takeWhile_cons_of_neg (by simp [hcomma]), List.append_nil, bytes_append, bytes_append,
    ← Nat.add_assoc]
  rfl

lemma trailingComma?_eq_none {s tail : Text} (h : (tail.dropWhile isBlank).head? ≠ some ',')
    (u : Text) : trailingComma? (s ++ (tail ++ u)) s.bytes (s.bytes + tail.bytes) = none := by
  rw [trailingComma?, slice_append]
  split
  case h_1 rest hrest =>
    rw [hrest] at h
    exact absurd rfl h
  case h_2 => rfl

/-- Another entry goes behind the last one, or behind the comma that follows it. A comma that is
hidden is not found, and another one is added. -/
lemma appendEntry_next {s tail : Text} (object : ObjectLiteral) {last : Property Value} {k : Nat}
    (hlast : object.properties.getLast? = some last) (hstop : last.span.stop.offset = s.bytes)
    (hclose : object.span.stop.offset - 1 = s.bytes + tail.bytes) (htail : commas? tail = some k)
    (hk : k ≤ 1) (u name : Text) :
    ∃ inner outer, commas? inner = some 1
      ∧ (HidesComma tail → commas? outer = some 2) ∧ (¬ HidesComma tail → commas? outer = some 1)
      ∧ applyInsertions (s ++ (tail ++ u)) [appendEntry (s ++ (tail ++ u)) object name]
        = s ++ (inner ++ (name ++ (outer ++ u))) := by
  set separator := if object.span.isSingleLine then [' ']
    else '\n' :: (s ++ (tail ++ u)).indentation last.span.start.line with hseparator
  have hgap : commas? separator = some 0 := by
    rw [hseparator]
    split
    · decide
    · exact commas?_newLine _ _
  have hafter : commas? (',' :: separator) = some 1 := commas?_comma.mpr ⟨0, hgap, rfl⟩
  rw [appendEntry, hlast]
  dsimp only
  rw [← hseparator, hstop, hclose]
  by_cases hhead : (tail.dropWhile isBlank).head? = some ','
  · obtain ⟨blanks, rest, rfl, hblanks⟩ := exists_blanks hhead
    obtain ⟨hnone, hone⟩ := commas?_blanks_append hblanks htail
    obtain ⟨later, -, hlater⟩ := commas?_comma.mp hone
    obtain rfl : k = 1 := by omega
    have hshown : ¬ HidesComma (blanks ++ ',' :: rest) :=
      fun hhides => (hidesComma_iff htail).mp hhides hhead
    have htext : s ++ (blanks ++ ',' :: rest ++ u) = s ++ (blanks ++ [',']) ++ (rest ++ u) := by
      simp
    refine ⟨blanks ++ ',' :: separator, ',' :: rest, commas?_append hnone hafter,
      fun hhides => absurd hhides hshown, fun _ => hone, ?_⟩
    rw [trailingComma?_blanks hblanks, htext, applyInsertions_placed]
    simp
  · rw [trailingComma?_eq_none hhead]
    have hmore : commas? (',' :: tail) = some (k + 1) := commas?_comma.mpr ⟨k, htail, rfl⟩
    refine ⟨',' :: separator, ',' :: tail, hafter, fun hhides => ?_, fun hshown => ?_, ?_⟩
    · have hnot := hhides.ne_zero htail
      obtain rfl : k = 1 := by omega
      exact hmore
    · have hnot : k ≠ 1 := by
        rintro rfl
        exact hshown ((hidesComma_iff htail).mpr hhead)
      obtain rfl : k = 0 := by omega
      exact hmore
    · rw [applyInsertions_placed]
      simp

section Literals

variable {site : Site} {before a b : Text} {literal : LiteralText} {tree : Tree}

/-- The last entry of a literal is its last property. -/
lemma exists_last {lead : Text} {init : List LiteralEntry} {e : LiteralEntry}
    (horigin : site.origin = Position.origin.after before)
    (hcontent : site.content = a ++ (render ⟨lead, init ++ [e]⟩ ++ b))
    (htree : Writes ⟨lead, init ++ [e]⟩ a.bytes tree) :
    ∃ last, (propertiesOf site tree.children).getLast? = some last
      ∧ last.span.stop.offset = (before ++ (a ++ '\x7b' :: lead
        ++ LiteralEntry.renderAll init ++ e.text)).bytes := by
  have hspans : ((propertiesOf site tree.children).map (·.span)).getLast?
      = (tree.children.map site.span).getLast? :=
    congrArg List.getLast? (map_span_propertiesOf htree.entries)
  have hranges := congrArg List.getLast? htree.ranges
  rw [LiteralText.ranges_append, LiteralEntry.ranges, LiteralEntry.ranges, List.getLast?_concat,
    List.getLast?_map, Option.map_eq_some_iff] at hranges
  obtain ⟨child, hchild, hrange⟩ := hranges
  rw [List.getLast?_map, List.getLast?_map, hchild, Option.map_some, Option.map_eq_some_iff]
    at hspans
  obtain ⟨last, hlast, hspan⟩ := hspans
  refine ⟨last, hlast, ?_⟩
  set s := a ++ '\x7b' :: lead ++ LiteralEntry.renderAll init ++ e.text with hs
  have hstop : child.stop = s.bytes := by
    have hbrace : ('\x7b' : Char).utf8Size = 1 := rfl
    rw [(Prod.mk.inj hrange).2]
    simp only [hs, bytes_append, bytes_cons]
    omega
  rw [hspan, bytes_append, ← hstop]
  refine Site.position_offset horigin ⟨s, e.tail ++ '\x7d' :: b, ?_, hstop.symm⟩
  simp [hs, hcontent, render_concat]

/-- What a literal is after an entry has been added. -/
lemma exists_listed (horigin : site.origin = Position.origin.after before)
    (hcontent : site.content = a ++ (literal.render ++ b)) {trailing : Nat}
    (hliteral : literal.Separated trailing) (htrailing : trailing ≤ 1)
    (htree : literal.Writes a.bytes tree) (after name : Text) :
    ∃ lead init tail, applyInsertions (before ++ (site.content ++ after))
          [appendEntry (before ++ (site.content ++ after))
            ⟨site.span tree, propertiesOf site tree.children⟩ name]
        = before ++ (a ++ (render ⟨lead, init ++ [⟨name, tail⟩]⟩ ++ b) ++ after)
      ∧ init.map (·.text) = literal.entries.map (·.text) ∧ commas? lead = some 0
      ∧ (∀ e ∈ init, commas? e.tail = some 1) ∧ (literal.HidesLast → commas? tail = some 2)
      ∧ (¬ literal.HidesLast → commas? tail = some 1) := by
  have hstart : (site.span tree).start.offset = before.bytes + a.bytes := by
    rw [← htree.start_eq]
    exact Site.position_offset horigin ⟨a, literal.render ++ b, hcontent, htree.start_eq.symm⟩
  obtain ⟨lead, entries⟩ := literal
  rcases List.eq_nil_or_concat' entries with rfl | ⟨init, e, rfl⟩
  · -- what stood between the braces comes to stand behind the new entry
    have hnone : propertiesOf site tree.children = [] := by
      rw [List.map_eq_nil_iff.mp htree.ranges, propertiesOf]
    have hopen : (site.span tree).start.offset + 1 = (before ++ (a ++ ['\x7b'])).bytes := by
      rw [hstart, bytes_append, bytes_append, Nat.add_assoc]
      rfl
    have htext : before ++ (site.content ++ after)
        = before ++ (a ++ ['\x7b']) ++ (lead ++ '\x7d' :: (b ++ after)) := by
      simp [hcontent, render, LiteralEntry.renderAll]
    obtain ⟨first, tail, hfirst, htail, happly⟩ := appendEntry_first
      ⟨site.span tree, _⟩ hnone hopen (lead ++ '\x7d' :: (b ++ after)) name
    refine ⟨first, [], tail ++ lead, ?_, rfl, hfirst, by simp, ?_, ?_⟩
    · rw [htext, happly]
      simp [render, LiteralEntry.renderAll]
    · rintro ⟨e, he, -⟩
      cases he
    · intro
      exact commas?_append htail hliteral.lead
  · -- the text behind the last entry is shared out between it and the new one
    have hstop : (site.span tree).stop.offset
        = before.bytes + (a.bytes + (render ⟨lead, init ++ [e]⟩).bytes) := by
      rw [← htree.stop_eq]
      refine Site.position_offset horigin ⟨a ++ render ⟨lead, init ++ [e]⟩, b, ?_, ?_⟩
      · rw [hcontent, List.append_assoc]
      · rw [bytes_append, htree.stop_eq]
    obtain ⟨last, hlast, hend⟩ := exists_last horigin hcontent htree
    obtain ⟨hlead, hinner, htail⟩ := separated_concat.mp hliteral
    set s := before ++ (a ++ '\x7b' :: lead ++ LiteralEntry.renderAll init ++ e.text) with hs
    have htext : before ++ (site.content ++ after)
        = s ++ (e.tail ++ '\x7d' :: (b ++ after)) := by
      simp [hs, hcontent, render_concat]
    have hclose : (site.span tree).stop.offset - 1 = s.bytes + e.tail.bytes := by
      have hbrace : ('\x7d' : Char).utf8Size = 1 := rfl
      simp only [hstop, hs, render_concat, bytes_append, bytes_cons, bytes_nil]
      omega
    obtain ⟨inner, outer, hone, hhidden, hshown, happly⟩ := appendEntry_next
      ⟨site.span tree, _⟩ hlast hend hclose htail htrailing
      ('\x7d' :: (b ++ after)) name
    have hhides : HidesLast ⟨lead, init ++ [e]⟩ ↔ HidesComma e.tail := by simp [HidesLast]
    refine ⟨lead, init ++ [⟨e.text, inner⟩], outer, ?_, by simp, hlead, ?_, ?_, ?_⟩
    · rw [htext, happly]
      simp [hs, render, LiteralEntry.renderAll]
    · simpa [or_imp, forall_and] using ⟨hinner, hone⟩
    · rwa [hhides]
    · rwa [hhides]

/-- **A new entry is separated from the others by one comma, and one comma follows it**, in any
literal whose entries are separated by single commas; unless the comma behind the last entry is
hidden, when two commas follow the new entry. -/
theorem appendEntry_separated (horigin : site.origin = Position.origin.after before)
    (hcontent : site.content = a ++ (literal.render ++ b)) {trailing : Nat}
    (hliteral : literal.Separated trailing) (htrailing : trailing ≤ 1)
    (htree : literal.Writes a.bytes tree) (after name : Text) :
    ∃ object, (valueOf site tree).asObject? = some object ∧ ∃ listed : LiteralText,
      applyInsertions (before ++ (site.content ++ after))
          [appendEntry (before ++ (site.content ++ after)) object name]
        = before ++ (a ++ (listed.render ++ b) ++ after)
      ∧ listed.entries.map (·.text) = literal.entries.map (·.text) ++ [name]
      ∧ (literal.HidesLast → listed.Separated 2) ∧ (¬ literal.HidesLast → listed.Separated 1)
      ∧ ((∃ k ≤ 1, listed.Separated k) ↔ ¬ literal.HidesLast) := by
  obtain ⟨lead, init, tail, happly, htexts, hlead, hinner, hhidden, hshown⟩ :=
    exists_listed horigin hcontent hliteral htrailing htree after name
  have hseparated (k : Nat) :
      Separated k ⟨lead, init ++ [⟨name, tail⟩]⟩ ↔ commas? tail = some k :=
    separated_concat.trans ⟨fun h => h.2.2, fun h => ⟨hlead, hinner, h⟩⟩
  refine ⟨_, htree.asObject?, ⟨lead, init ++ [⟨name, tail⟩]⟩, ?_, ?_, ?_⟩
  · exact happly
  · rw [List.map_append, htexts]
    rfl
  · simp only [hseparated]
    refine ⟨hhidden, hshown, ?_, fun h => ⟨1, le_rfl, hshown h⟩⟩
    rintro ⟨k, hk, hcommas⟩ hhides
    rw [hhidden hhides, Option.some.injEq] at hcommas
    omega

/-- A comment before the trailing comma: two commas follow the new entry. -/
theorem appendEntry_separated_commented :
    let content := "export default \x7b A /* a */, \x7d".toList
    let literal : LiteralText := ⟨[' '], [⟨['A'], " /* a */, ".toList⟩]⟩
    ∃ tree object, (Script.parse content).children.head?.bind (·.child? .value) = some tree
      ∧ literal.Writes 15 tree ∧ literal.Separated 1
      ∧ (valueOf ⟨content, Position.origin⟩ tree).asObject? = some object
      ∧ ∃ listed : LiteralText, applyInsertions content [appendEntry content object ['B']]
          = "export default ".toList ++ listed.render
        ∧ listed.entries.map (·.text) = [['A'], ['B']] ∧ listed.Separated 2
        ∧ ¬ ∃ k ≤ 1, listed.Separated k := by
  intro content literal
  obtain ⟨tree, htree, hwrites⟩ : ∃ tree,
      (Script.parse content).children.head?.bind (·.child? .value) = some tree
        ∧ literal.Writes 15 tree := by
    have hany : ((Script.parse content).children.head?.bind (·.child? .value)).any
        (fun tree => decide (literal.Writes 15 tree)) = true := by decide +kernel
    simpa [Option.any_eq_true] using hany
  have hseparated : literal.Separated 1 := by
    refine ⟨by decide, by decide, ?_⟩
    rintro e ⟨⟩
    decide
  have hhides : literal.HidesLast := ⟨_, rfl, (hidesComma_iff (by decide)).mpr (by decide)⟩
  obtain ⟨object, hobject, listed, happly, htexts, hhidden, -, hwell⟩ :=
    @appendEntry_separated ⟨content, Position.origin⟩ [] "export default ".toList [] literal tree
      rfl (by decide) 1 hseparated le_rfl hwrites [] ['B']
  have hwhole : [] ++ (content ++ []) = content := by simp
  rw [hwhole, List.append_nil, List.append_nil, List.nil_append] at happly
  exact ⟨tree, object, htree, hwrites, hseparated, hobject, listed, happly, htexts, hhidden hhides,
    fun h => hwell.mp h hhides⟩

end Literals

end Registration

end ComponentFile
