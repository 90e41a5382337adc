import ComponentFile.Repair.Automaton

/-!
States: what a reader does next.

A `State` answers three questions: which tokens are `expected`, what to do with one of them
(`actions`), and which state comes after a symbol (`after`).

Where a token allows more than one action, ranks and sides decide; what they leave open is followed
up in all directions.
-/

namespace ComponentFile

namespace Repair

/-- What to do with a token. -/
inductive Action where
  /-- Take it. If `repeats`, a reduction that comes first makes this superfluous. -/
  | shift (repeats : Bool)
  /-- Complete a production. -/
  | reduce (production : Nat)
  /-- The script is complete. -/
  | accept
  deriving DecidableEq, Repr

/-! ### Ranks -/

/-- Whether a rung names the given rank or one of the given parts. -/
def Rung.holds (book : Rulebook) (rank : Option Rank) (heads : List Nat) : Rung → Bool
  | .rank name => rank = some (.named name)
  | .part name => heads.any fun head => (book.parts[head]?.map Part.name) = some name

/-- Compares two readings on one ladder: the one that comes first is greater. -/
def climb (left right : Rung → Bool) : List Rung → (sawLeft sawRight : Bool) → Ordering
  | [], _, _ => .eq
  | rung :: rest, sawLeft, sawRight =>
    if left rung then if sawRight then .lt else climb left right rest true sawRight
    else if right rung then if sawLeft then .gt else climb left right rest sawLeft true
    else climb left right rest sawLeft sawRight

/-- The first ladder on which two readings differ decides. -/
def climbAll (left right : Rung → Bool) : List (List Rung) → Ordering
  | [] => .eq
  | ladder :: rest =>
    match climb left right ladder false false with
    | .eq => climbAll left right rest
    | decided => decided

/-- Compares the ranks of two readings, given the parts that they read. -/
def compareRanks (book : Rulebook) (left : Option Rank) (leftHeads : List Nat)
    (right : Option Rank) (rightHeads : List Nat) : Ordering :=
  let byLadder := climbAll (Rung.holds book left leftHeads) (Rung.holds book right rightHeads)
    ladders
  match left, right with
  | some (.level a), some (.level b) => if a ≠ 0 || b ≠ 0 then compare a b else byLadder
  | some (.level a), none => if a ≠ 0 then compare a 0 else byLadder
  | none, some (.level b) => if b ≠ 0 then compare 0 b else byLadder
  | _, _ => byLadder

/-- The reductions that are left after comparing them with each other. -/
structure Reductions where
  /-- The complete items. -/
  items : List Item := []
  /-- Their rank. -/
  rank : Option Rank := none
  /-- The parts that they read. -/
  heads : List Nat := []
  /-- Their sides. -/
  sides : List (Option Side) := []

/-- Adds a complete item to the reductions unless it ranks below them. -/
def Reductions.add (book : Rulebook) (reductions : Reductions) (item : Item) : Reductions :=
  let alone : Reductions := ⟨[item], item.rank, [item.head], [item.side]⟩
  if reductions.items.isEmpty then alone
  else match compareRanks book item.rank [item.head] reductions.rank reductions.heads with
    | .gt => alone
    | .lt => reductions
    | .eq =>
      { items := reductions.items ++ [item]
        rank := item.rank
        heads := if reductions.heads.contains item.head then reductions.heads
          else reductions.heads ++ [item.head]
        sides := reductions.sides ++ [item.side] }

/-! ### Actions -/

/-- The action that completes an item. -/
def completing (book : Rulebook) (item : Item) : Action :=
  if item.production + 1 = book.productions.size then .accept else .reduce item.production

/-- Whether several items all read the same repetition. -/
def sameRepetition (book : Rulebook) : List Item → Bool
  | [] => false
  | item :: rest => book.plainParts ≤ item.head && rest.all (·.head = item.head)

/-- Decides between completing items and going on with others. -/
def decideShift (book : Rulebook) (reductions : Reductions) (going all : List Item) :
    List Action :=
  let completed := reductions.items.map (completing book)
  if sameRepetition book (going ++ all) then completed ++ [.shift true]
  else
    let orders := going.map fun item =>
      compareRanks book item.rank [item.head] reductions.rank reductions.heads
    match orders.contains .gt, orders.contains .lt with
    | true, false => [.shift false]
    | false, true => completed
    | true, true => completed ++ [.shift false]
    | false, false =>
      if reductions.sides.all (· = some .left) then completed
      else if reductions.sides.all (· = some .right) then [.shift false]
      else completed ++ [.shift false]

/-- What a token allows, given the complete items that it may follow and those that it goes on
with. -/
def resolve (book : Rulebook) (complete going : List Item) : List Action :=
  if complete.isEmpty then if going.isEmpty then [] else [.shift false]
  else
    let reductions := complete.foldl (Reductions.add book) {}
    if going.isEmpty then reductions.items.map (completing book)
    else decideShift book reductions (going.filter (0 < ·.point)) complete

/-! ### Tables -/

/-- What is known of a state. -/
structure StateFacts where
  /-- The tokens that are expected, apart from those that may stand anywhere. -/
  expected : TerminalSet
  /-- What each token allows, worked out on demand. -/
  actions : Thunk (Array (Thunk (List Action)))
  /-- The state after each symbol, by the symbol's number. -/
  next : Std.HashMap Nat Nat

/-- Works out what is known of a state. -/
def StateFacts.ofKernel (book : Rulebook) (kernel : Kernel) (moves : Moves) : StateFacts :=
  let complete := (kernel.complete book ++ moves.empties).map fun (item, follow) =>
    (book.item item, follow)
  let going := kernel.filterMap fun (index, _) =>
    let item := book.item index
    item.next.map fun symbol => (item, book.firstOf symbol)
  let having (terminal : Nat) (list : List (Item × TerminalSet)) : List Item :=
    (list.filter (·.2.has terminal)).map (·.1)
  { expected := (complete ++ going).foldl (fun set (_, tokens) => set.union tokens) 0
    actions := Thunk.mk fun _ => (Array.range book.terminals.size).map fun terminal =>
      Thunk.mk fun _ => resolve book (having terminal complete) (having terminal going)
    next := moves.next }

/-- The grammar and the states of its reader. -/
structure Tables extends Rulebook where
  /-- What is known of each state. -/
  states : Array StateFacts

/-- Works out the tables. -/
def Tables.prepare (_ : Unit) : Tables :=
  let book := Rulebook.prepare ()
  let draft := Draft.finish book
  { book with states := Array.zipWith (StateFacts.ofKernel book) draft.kernels draft.moves }

/-- The tables; they are only worked out when a broken script asks for them. -/
def tables : Thunk Tables := Thunk.mk Tables.prepare

/-! ### States -/

/-- A state of a reader, by number. -/
structure State where
  /-- The number. -/
  number : Nat
  deriving DecidableEq, Repr

namespace State

/-- The state of a reader that has lost its place. -/
def lost : State := ⟨0⟩

/-- The state at the beginning of a script. -/
def initial : State := ⟨1⟩

/-- Whether the reader has lost its place. -/
def isLost (state : State) : Bool := state = lost

/-- What a token allows. -/
def actions (tables : Tables) (state : State) (terminal : Nat) : List Action :=
  match (tables.states[state.number]?).bind (·.actions.get[terminal]?) with
  | some actions => actions.get
  | none => []

/-- The tokens that are expected, those that may stand anywhere included. -/
def expected (tables : Tables) (state : State) : TerminalSet :=
  match tables.states[state.number]? with
  | some facts => facts.expected.union tables.extras
  | none => tables.extras

/-- The state after a symbol; the reader has lost its place if there is none. -/
def after (tables : Tables) (state : State) (symbol : Symbol) : State :=
  match (tables.states[state.number]?).bind (·.next[tables.code symbol]?) with
  | some number => ⟨number⟩
  | none => lost

end State

end Repair

end ComponentFile
