import ComponentFile.Repair.Rulebook

/-!
The states of a reader, and how it gets from one to another.

A state holds the items that may be under way at a place of the script, each with the tokens that
may follow when it is complete. All states are listed in advance: `Draft.finish` starts from the
beginning of a script and adds whatever state a symbol leads to.

States with the same items are one if their places are of the same kind (`Likeness`); what may
follow in one of them may then follow in the other. So a reader does not always see at once that a
token is out of place, but it never goes past it.
-/

namespace ComponentFile

namespace Repair

/-- Items by number, in order, with the tokens that may follow them. -/
abbrev Kernel := List (Nat × TerminalSet)

namespace Kernel

/-- The complete items. -/
def complete (book : Rulebook) (kernel : Kernel) : Kernel :=
  kernel.filter fun (item, _) => (book.item item).next.isNone

/-- The tokens that may come next. -/
def expected (book : Rulebook) (kernel : Kernel) : TerminalSet :=
  kernel.foldl (fun set (item, follow) =>
    set.union <| match (book.item item).next with
      | some symbol => book.firstOf symbol
      | none => follow) 0

/-- Puts items in order and joins those that are the same. -/
def ofUnsorted (items : Kernel) : Kernel :=
  let add (entry : Nat × TerminalSet) (kernel : Kernel) : Kernel :=
    match kernel with
    | (item, follow) :: rest =>
      if item = entry.1 then (item, follow.union entry.2) :: rest else entry :: kernel
    | [] => [entry]
  (items.mergeSort fun a b => a.1 ≤ b.1).foldr add []

/-- Adds the tokens that may follow the items of a second kernel with the same items. -/
def join (kernel other : Kernel) : Kernel :=
  List.zipWith (fun a b => (a.1, a.2.union b.2)) kernel other

end Kernel

/-! ### Kinds of places -/

/-- The kind of a place where the given tokens may follow: which tokens that depend on their place
are among them, and whether a statement may begin where an expression may go on. -/
def placeKind (book : Rulebook) (tokens : TerminalSet) : TerminalSet :=
  let special := tokens.inter book.placeBound
  if tokens.inter book.lookalikes = book.lookalikes then special.union book.lookalikes else special

/-- The tokens of each set that are in one of the others as well. -/
def shared : List TerminalSet → List TerminalSet
  | [] => []
  | [_] => [0]
  | sets => sets.zipIdx.map fun (set, i) =>
    set.inter ((sets.eraseIdx i).foldl TerminalSet.union 0)

/-- What states that are kept apart differ in. -/
structure Likeness where
  /-- The items. -/
  items : List Nat
  /-- The kind of the place as a whole, and of the places after each item. -/
  kinds : List TerminalSet
  /-- The tokens that complete more than one item. -/
  contested : List TerminalSet
  deriving DecidableEq, Hashable

/-- The likeness of a kernel. -/
def Kernel.likeness (book : Rulebook) (kernel : Kernel) : Likeness :=
  { items := kernel.map (·.1)
    kinds := (kernel.expected book :: kernel.map (·.2)).map (placeKind book)
    contested := shared ((kernel.complete book).map (·.2)) }

/-! ### What a symbol leads to -/

/-- The parts that come next in a state, with the tokens that may follow them. -/
def nextParts (book : Rulebook) (kernel : Kernel) : List (Nat × TerminalSet) :=
  Kernel.ofUnsorted <| kernel.filterMap fun (index, follow) =>
    let item := book.item index
    match item.next with
    | some (.part part) => some (part, item.behind.getD follow)
    | _ => none

/-- What may begin in a state: for each part the tokens that may follow it there. -/
def begunParts (book : Rulebook) (kernel : Kernel) : Array (Option TerminalSet) :=
  (nextParts book kernel).foldl (fun begun (outer, follow) =>
    (book.beginnings.getD outer []).foldl (fun begun (inner, beginning) =>
      begun.modify inner fun known =>
        let new := beginning.followed follow
        match known with
        | some old => some (old.union new)
        | none => some new) begun) (Array.replicate book.parts.size none)

/-- The items after each symbol, in no order. -/
def itemsAfter (book : Rulebook) (kernel : Kernel) (begun : Array (Option TerminalSet)) :
    Array Kernel :=
  let after := kernel.foldl (fun after (index, follow) =>
    let item := book.item index
    match item.next with
    | some symbol => after.modify (book.code symbol) ((item.after, follow) :: ·)
    | none => after) (Array.replicate book.symbolCount [])
  (begun.size).fold (fun part _ after =>
    match begun.getD part none with
    | some follow =>
      (book.openings.getD part []).foldl (fun after (symbol, item) =>
        after.modify symbol ((item, follow) :: ·)) after
    | none => after) after

/-- Where a state leads to. -/
structure Moves where
  /-- The state after each symbol, by the symbol's number. -/
  next : Std.HashMap Nat Nat := ∅
  /-- The empty parts that may be complete in the state. -/
  empties : Kernel := []

/-! ### All states -/

/-- The states found so far. -/
structure Draft where
  /-- What each state holds. -/
  kernels : Array Kernel := #[]
  /-- Where each state leads to. -/
  moves : Array Moves := #[]
  /-- The numbers of the states. -/
  numbers : Std.HashMap Likeness Nat := ∅
  /-- Whether a state waits to be visited. -/
  waits : Array Bool := #[]
  /-- The states that wait, the latest first. -/
  waiting : List Nat := []

namespace Draft

/-- Adds a state. -/
def push (draft : Draft) (kernel : Kernel) (likeness : Likeness) : Draft :=
  let number := draft.kernels.size
  { kernels := draft.kernels.push kernel
    moves := draft.moves.push {}
    numbers := draft.numbers.insert likeness number
    waits := draft.waits.push true
    waiting := number :: draft.waiting }

/-- Has a state visited again after what may follow in it has grown. -/
def grow (draft : Draft) (number : Nat) (kernel : Kernel) : Draft :=
  let waited := draft.waits.getD number true
  { draft with
    kernels := draft.kernels.setIfInBounds number kernel
    waits := draft.waits.setIfInBounds number true
    waiting := if waited then draft.waiting else number :: draft.waiting }

/-- Adds to what may follow in a state. -/
def extend (draft : Draft) (number : Nat) (kernel : Kernel) : Draft :=
  let known := draft.kernels.getD number []
  let joined := known.join kernel
  if joined == known then draft else draft.grow number joined

/-- The number of the state of a kernel, which is added if it is new. -/
def enter (book : Rulebook) (kernel : Kernel) : StateM Draft Nat := fun draft =>
  let likeness := kernel.likeness book
  match draft.numbers[likeness]? with
  | some number => (number, draft.extend number kernel)
  | none => (draft.kernels.size, draft.push kernel likeness)

/-- Finds out where a state leads to, or adds to what may follow there. -/
def visit (book : Rulebook) (number : Nat) : StateM Draft Unit := do
  let draft ← get
  let kernel := draft.kernels.getD number []
  let old := (draft.moves.getD number {}).next
  set { draft with waits := draft.waits.setIfInBounds number false }
  let begun := begunParts book kernel
  let mut next := old
  let mut code := 0
  for items in itemsAfter book kernel begun do
    unless items.isEmpty do
      let kernel := Kernel.ofUnsorted items
      match old[code]? with
      | some number => modify (·.extend number kernel)
      | none => next := next.insert code (← enter book kernel)
    code := code + 1
  let empties := book.empties.filterMap fun (part, item) =>
    (begun.getD part none).map (item, ·)
  let moves : Moves := ⟨next, empties⟩
  modify fun draft => { draft with moves := draft.moves.setIfInBounds number moves }

/-- Visits all states that wait and those they lead to, in at most `fuel` rounds. -/
def visitAll (book : Rulebook) : (fuel : Nat) → StateM Draft Unit
  | 0 => return
  | fuel + 1 => do
    let waiting := (← get).waiting
    unless waiting.isEmpty do
      modify fun draft => { draft with waiting := [] }
      for number in waiting.reverse do
        visit book number
      visitAll book fuel

/-- All states. The first holds nothing; it is the state of a reader that has lost its place. The
second is that at the beginning of a script. -/
def finish (book : Rulebook) : Draft :=
  let lost : Draft := { kernels := #[[]], moves := #[{}], waits := #[false] }
  let start : Kernel := [(book.start, TerminalSet.single 0)]
  ((visitAll book book.items.size).run (lost.push start (start.likeness book))).2

end Draft

end Repair

end ComponentFile
