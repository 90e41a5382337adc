import ComponentFile.Repair.Production
import ComponentFile.Repair.TerminalSet
import ComponentFile.Text.Basic

/-!
The rulebook: the grammar prepared for reading.

It lists all productions, and for each part

* the tokens it may begin with (`firstSets`);
* the parts it may begin with, and what follows them there (`beginningsOf`).

An `Item` is a production with a point in it, up to which it has been read. What has been read no
longer matters, so productions that are the same from the point on have the same item.
-/

namespace ComponentFile

namespace Repair

/-- Repeats a step until nothing changes, at most `fuel` times. -/
def untilStable {α : Type} [BEq α] (step : α → α) : (fuel : Nat) → α → α
  | 0, value => value
  | fuel + 1, value =>
    let next := step value
    if next == value then value else untilStable step fuel next

/-! ### First tokens -/

/-- The tokens that may begin a symbol, given those that may begin each part. -/
def firstOf (first : Array TerminalSet) : Symbol → TerminalSet
  | .terminal index => TerminalSet.single index
  | .part index => first.getD index 0

/-- The tokens that may begin each part. No production but that of an empty script is empty, so
only first steps matter. -/
def firstSets (count : Nat) (productions : List Production) : Array TerminalSet :=
  let round (first : Array TerminalSet) : Array TerminalSet :=
    productions.foldl (fun first production =>
      match production.steps[0]? with
      | some step =>
        first.modify production.head fun set => set.union (firstOf first step.symbol)
      | none => first) first
  untilStable round count (Array.replicate count 0)

/-! ### Beginnings -/

/-- How a part may begin with another: the tokens that follow the inner one for certain, and whether
it may also be followed by what follows the outer one. -/
structure Beginning where
  /-- The tokens that follow in any case. -/
  follow : TerminalSet
  /-- Whether the outer part's tokens follow too. -/
  inherits : Bool
  deriving DecidableEq, Repr

/-- What either way of beginning allows. -/
def Beginning.union (a b : Beginning) : Beginning :=
  ⟨a.follow.union b.follow, a.inherits || b.inherits⟩

/-- The tokens that follow the inner part if the given ones follow the outer one. -/
def Beginning.followed (beginning : Beginning) (outer : TerminalSet) : TerminalSet :=
  if beginning.inherits then beginning.follow.union outer else beginning.follow

/-- The parts that a part begins with directly. -/
def directBeginnings (first : Array TerminalSet) (productions : List Production) :
    List (Nat × Beginning) :=
  productions.foldl (fun known production =>
    match production.steps[0]?.map Step.symbol with
    | some (.part index) =>
      let beginning : Beginning := match production.steps[1]? with
        | some step => ⟨firstOf first step.symbol, false⟩
        | none => ⟨0, true⟩
      if known.any (·.1 = index) then
        known.map fun (i, b) => if i = index then (i, b.union beginning) else (i, b)
      else (index, beginning) :: known
    | _ => known) []

/-- Adds what is reached through the parts on the list, in at most `fuel` steps. -/
def spreadBeginnings (direct : Array (List (Nat × Beginning))) :
    (fuel : Nat) → List Nat → Array (Option Beginning) → Array (Option Beginning)
  | 0, _, known => known
  | _ + 1, [], known => known
  | fuel + 1, index :: rest, known =>
    match known.getD index none with
    | none => spreadBeginnings direct fuel rest known
    | some outer =>
      let (known, changed) := (direct.getD index []).foldl (fun (known, changed) (inner, b) =>
        let b : Beginning :=
          if b.inherits then ⟨b.follow.union outer.follow, outer.inherits⟩ else b
        let old := known.getD inner none
        let new := match old with
          | some o => o.union b
          | none => b
        if old = some new then (known, changed)
        else (known.setIfInBounds inner (some new), inner :: changed)) (known, rest)
      spreadBeginnings direct fuel changed known

/-- The parts that a part may begin with, itself included. -/
def beginningsOf (direct : Array (List (Nat × Beginning))) (index : Nat) :
    List (Nat × Beginning) :=
  let known := (Array.replicate direct.size none).setIfInBounds index (some ⟨0, true⟩)
  (spreadBeginnings direct (direct.size * direct.size) [index] known).toList.zipIdx.filterMap
    fun (beginning, i) => beginning.map (i, ·)

/-! ### Items -/

/-- How far a production has been read. -/
structure Item where
  /-- The production; of several that are the same from the point on, the first. -/
  production : Nat
  /-- The number of symbols read. -/
  point : Nat
  /-- The part that the production stands for. -/
  head : Nat
  /-- The symbol that comes next; none if the production is complete. -/
  next : Option Symbol
  /-- The number of the item after that symbol. -/
  after : Nat
  /-- The tokens that may follow that symbol, unless it is the last one. -/
  behind : Option TerminalSet
  /-- The rank of what has been read. -/
  rank : Option Rank
  /-- The side of what has been read. -/
  side : Option Side

/-- Numbers for what is left of productions. -/
structure Numbering where
  /-- The numbers. -/
  numbers : Std.HashMap Remainder Nat := ∅
  /-- For each number a production and the point in it. -/
  places : Array (Production × Nat × Nat) := #[]

/-- Numbers what is left of a production from a point on. -/
def Numbering.add (point : Nat) (numbering : Numbering) (entry : Production × Nat) : Numbering :=
  let (production, index) := entry
  if production.steps.size < point then numbering
  else
    let remainder := production.remainder point
    if numbering.numbers.contains remainder then numbering
    else
      ⟨numbering.numbers.insert remainder numbering.places.size,
        numbering.places.push (production, index, point)⟩

/-- Numbers all remainders, those with less read first. -/
def Numbering.ofProductions (productions : List Production) : Numbering :=
  let longest := productions.foldl (fun n production => max n production.steps.size) 0
  let entries := productions.zipIdx
  (List.range (longest + 1)).foldl (fun numbering point =>
    entries.foldl (Numbering.add point) numbering) {}

/-- The number of the item of a production at a point. -/
def Numbering.item (numbering : Numbering) (production : Production) (point : Nat) : Nat :=
  numbering.numbers.getD (production.remainder point) 0

/-- All items. -/
def Numbering.items (numbering : Numbering) (first : Array TerminalSet) : Array Item :=
  numbering.places.map fun (production, index, point) =>
    let passed := if point = 0 then none else production.steps[point - 1]?
    { production := index
      point
      head := production.head
      next := production.steps[point]?.map Step.symbol
      after := numbering.item production (point + 1)
      behind := production.steps[point + 1]?.map fun step => firstOf first step.symbol
      rank := passed.bind Step.rank
      side := passed.bind Step.side }

/-! ### All tables -/

/-- The number of a symbol: first the tokens are numbered, then the parts. -/
def Symbol.code (terminals : Nat) : Symbol → Nat
  | .terminal index => index
  | .part index => terminals + index

/-- The set of the given tokens. -/
def terminalSet (index : Std.HashMap Terminal Nat) (list : List Terminal) : TerminalSet :=
  TerminalSet.ofList (list.filterMap (index[·]?))

/-- The tokens that depend on their place, or that tell those who look for them what the place is
like. -/
def placeTerminals : List Terminal :=
  [.lineEnd, .signatureEnd, .templateChars, .questionMark, .escape, .patternBody, .mark "||"]

/-- The grammar prepared for reading. -/
structure Rulebook where
  /-- The tokens. -/
  terminals : Array Terminal
  /-- The numbers of the tokens. -/
  terminalIndex : Std.HashMap Terminal Nat
  /-- The parts, repetitions included. -/
  parts : Array Part
  /-- The number of parts that are no repetitions. -/
  plainParts : Nat
  /-- All productions; the last one stands for a whole script. -/
  productions : Array Production
  /-- The tokens that may begin each part. -/
  first : Array TerminalSet
  /-- The items. -/
  items : Array Item
  /-- The number of the item at the beginning of a whole script. -/
  start : Nat
  /-- The parts that each part may begin with. -/
  beginnings : Array (List (Nat × Beginning))
  /-- The numbers of the symbols that the productions of each part begin with, and of the items
  after them. -/
  openings : Array (List (Nat × Nat))
  /-- The parts that may be empty, with the items that complete them. -/
  empties : List (Nat × Nat)
  /-- The tokens that may stand anywhere. -/
  extras : TerminalSet
  /-- The tokens that depend on their place. -/
  placeBound : TerminalSet
  /-- A token that goes on with an expression and one like it that begins a statement. -/
  lookalikes : TerminalSet
  /-- The marks with their characters. -/
  marks : List (Nat × Text)
  /-- The tokens that look like names. -/
  nameLike : TerminalSet

namespace Rulebook

/-- Prepares the grammar. -/
def prepare (_ : Unit) : Rulebook :=
  let (plain, repetitions) := (partsWithoutRepetition Repair.parts).run []
  let all := (plain ++ repetitions.map repetitionPart).toArray
  let terminalIndex := Std.HashMap.ofList (Repair.terminals.zipIdx)
  let lookup : Lookup :=
    ⟨terminalIndex, Std.HashMap.ofList (all.toList.zipIdx.map fun (part, i) => (part.name, i))⟩
  let byHead := all.mapIdx fun i part => part.productions lookup i
  let script : Production := ⟨all.size, 0, #[⟨.part 0, none, none, none⟩]⟩
  let listed := byHead.toList.flatten
  let first := firstSets all.size listed
  let direct := byHead.map (directBeginnings first)
  let numbering := Numbering.ofProductions (listed ++ [script])
  { terminals := Repair.terminals.toArray
    terminalIndex
    parts := all
    plainParts := plain.length
    productions := (listed ++ [script]).toArray
    first
    items := numbering.items first
    start := numbering.item script 0
    beginnings := (Array.range all.size).map (beginningsOf direct)
    openings := byHead.map fun productions =>
      (productions.filterMap fun production =>
        (production.steps[0]?).map fun step =>
          (step.symbol.code Repair.terminals.length, numbering.item production 1)).eraseDups
    empties := (byHead.toList.zipIdx.flatMap fun (productions, i) =>
      (productions.filter (·.steps.isEmpty)).map fun production => (i, numbering.item production 0))
    extras := terminalSet terminalIndex [.comment, .pageComment]
    placeBound := terminalSet terminalIndex placeTerminals
    lookalikes := terminalSet terminalIndex [.word "as", .word "async"]
    marks := Repair.terminals.zipIdx.filterMap fun (terminal, i) =>
      match terminal with
      | .mark text => some (i, text.toList)
      | _ => none
    nameLike := terminalSet terminalIndex (Repair.terminals.filter Terminal.isNameLike) }

/-- The number of a token. -/
def index (book : Rulebook) (terminal : Terminal) : Nat := book.terminalIndex.getD terminal 0

/-- A production by number. -/
def production (book : Rulebook) (index : Nat) : Production :=
  book.productions.getD index ⟨0, 0, #[]⟩

/-- An item by number. -/
def item (book : Rulebook) (index : Nat) : Item :=
  book.items.getD index ⟨0, 0, 0, none, 0, none, none, none⟩

/-- The tokens that may begin a symbol. -/
def firstOf (book : Rulebook) (symbol : Symbol) : TerminalSet := Repair.firstOf book.first symbol

/-- The number of a symbol. -/
def code (book : Rulebook) (symbol : Symbol) : Nat := symbol.code book.terminals.size

/-- The number of symbols. -/
def symbolCount (book : Rulebook) : Nat := book.terminals.size + book.parts.size

end Rulebook

end Repair

end ComponentFile
