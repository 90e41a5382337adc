import ComponentFile.Repair.Piece
import ComponentFile.Repair.State

/-!
Stacks: the constructs that are under way, for all readings at once.

Several readings of a script are followed side by side, each in a `Branch`. A branch stands on a
node; below a node are the pieces that have been read and the nodes they were read from. Branches
that come to the same state at the same place are joined, so a node may have several links down, and
a piece that is completed may be found along several paths.
-/

namespace ComponentFile

namespace Repair

open Script (Cursor)

/-- A way down from a node. -/
structure Link where
  /-- The node below. -/
  below : Nat
  /-- The piece between; there is none where the reader lost its place. -/
  piece : Option Piece

/-- A place that a reading has come to. -/
structure Node where
  /-- What may come next. -/
  state : State
  /-- Where the text read so far ends. -/
  cursor : Cursor
  /-- The number of line breaks read so far. -/
  row : Nat := 0
  /-- The ways down. -/
  links : List Link := []
  /-- The cost of all repairs so far. -/
  cost : Nat := 0
  /-- How much has been read so far. -/
  progress : Nat := 0
  /-- The weight of all pieces so far. -/
  weight : Int := 0

/-- Whether a branch goes on. -/
inductive Status where
  /-- It goes on. -/
  | active
  /-- It waits because a token is not expected. -/
  | paused (token : Piece)
  /-- It is given up. -/
  | halted

/-- A state further down to which a branch that has lost its place may go back. -/
structure Retreat where
  /-- The state. -/
  state : State
  /-- The number of pieces above it. -/
  depth : Nat
  /-- Where the text read by then ends. -/
  offset : Nat
  /-- The number of line breaks read by then. -/
  row : Nat

/-- One of the readings that are followed. -/
structure Branch where
  /-- The node that the branch stands on. -/
  top : Nat
  /-- How much had been read when the place was lost last. -/
  progressAtLoss : Nat := 0
  /-- Whether the branch goes on. -/
  status : Status := .active
  /-- Where the branch may go back to. -/
  retreats : List Retreat := []

/-- All readings that are followed. -/
structure Board where
  /-- The nodes. -/
  nodes : Array Node := #[]
  /-- The branches, from the most promising one on. -/
  branches : Array Branch := #[]
  /-- The best complete reading. -/
  finished : Option Piece := none
  /-- The number of complete readings. -/
  finishes : Nat := 0

/-- Whether a branch is active. -/
def Branch.isActive (branch : Branch) : Bool :=
  match branch.status with
  | .active => true
  | _ => false

/-- Whether a branch is given up. -/
def Branch.isHalted (branch : Branch) : Bool :=
  match branch.status with
  | .halted => true
  | _ => false

/-- Whether a branch waits. -/
def Branch.isPaused (branch : Branch) : Bool :=
  match branch.status with
  | .paused _ => true
  | _ => false

namespace Board

/-- A node by number. -/
def node (board : Board) (index : Nat) : Node :=
  board.nodes.getD index ⟨.lost, ⟨[], 0⟩, 0, [], 0, 0, 0⟩

/-- A branch by number. -/
def branch (board : Board) (index : Nat) : Branch := board.branches.getD index ⟨0, 0, .halted, []⟩

/-- The node that a branch stands on. -/
def top (board : Board) (index : Nat) : Node := board.node (board.branch index).top

/-! ### Ways down -/

/-- A way down from the top of a branch. -/
structure Path where
  /-- The node that the path has come to. -/
  node : Nat
  /-- The pieces above it, in the order of the text. -/
  pieces : List Piece := []
  /-- The number of pieces above it that count. -/
  depth : Nat := 0

/-- The path one link further down. -/
def Path.extend (path : Path) (link : Link) : Path :=
  match link.piece with
  | some piece =>
    ⟨link.below, piece :: path.pieces, if piece.facts.isExtra then path.depth else path.depth + 1⟩
  | none => ⟨link.below, path.pieces, path.depth + 1⟩

/-- The greatest number of paths that are followed at once. -/
def pathLimit : Nat := 64

/-- The paths one link further down: first the first link of each, then all others. -/
def extendAll (board : Board) (paths : List Path) : List Path :=
  let straight := paths.filterMap fun path =>
    (board.node path.node).links.head?.map path.extend
  let others := paths.flatMap fun path => (board.node path.node).links.tail.map path.extend
  straight ++ others.take (pathLimit - straight.length)

/-- The paths down to where the test holds, the shortest first, in at most `fuel` steps. -/
def pathsTo (board : Board) (test : Path → Bool) : (fuel : Nat) → List Path → List Path
  | 0, _ => []
  | fuel + 1, paths =>
    if paths.isEmpty then []
    else paths.filter test
      ++ board.pathsTo test fuel (board.extendAll (paths.filter (!test ·)))

/-- Puts what was found along several paths together by the node that they lead to. -/
def groupByNode (paths : List Path) : List (Nat × List (List Piece)) :=
  paths.foldl (fun groups path =>
    if groups.any (·.1 = path.node) then
      groups.map fun (node, readings) =>
        (node, if node = path.node then readings ++ [path.pieces] else readings)
    else groups ++ [(path.node, [path.pieces])]) []

/-- What lies above the node `depth` pieces down from the top of a branch. -/
def pop (board : Board) (index depth : Nat) : List (Nat × List (List Piece)) :=
  groupByNode (board.pathsTo (·.depth = depth) (board.nodes.size + 1)
    [{ node := (board.branch index).top }])

/-- All that lies below the top of a branch. -/
def popAll (board : Board) (index : Nat) : List (Nat × List (List Piece)) :=
  groupByNode (board.pathsTo (fun path => (board.node path.node).links.isEmpty)
    (board.nodes.size + 1) [{ node := (board.branch index).top }])

/-- The greatest depth that a branch goes back to. -/
def retreatLimit : Nat := 16

/-- Adds the state at the end of a path to those already found, latest first. -/
def addRetreat (board : Board) (found : List Retreat) (path : Path) : List Retreat :=
  let node := board.node path.node
  if (found.takeWhile (path.depth ≤ ·.depth)).any fun retreat =>
      retreat.depth = path.depth && retreat.state = node.state then found
  else ⟨node.state, path.depth, node.cursor.offset, node.row⟩ :: found

/-- The states further down along the paths, latest first, in at most `fuel` steps. -/
def retreatsFrom (board : Board) : (fuel : Nat) → List Path → List Retreat → List Retreat
  | 0, _, found => found
  | fuel + 1, paths, found =>
    let paths := paths.filter (·.depth ≤ retreatLimit)
    if paths.isEmpty then found
    else board.retreatsFrom fuel (board.extendAll paths) (paths.foldl board.addRetreat found)

/-- The states that a branch may go back to. -/
def retreats (board : Board) (index : Nat) : List Retreat :=
  (board.retreatsFrom (board.nodes.size + 1) [{ node := (board.branch index).top }] []).reverse

/-! ### Costs and progress -/

/-- The cost of all repairs on a branch. -/
def cost (board : Board) (index : Nat) : Nat :=
  let branch := board.branch index
  let top := board.node branch.top
  let justLost := top.state.isLost && (top.links.head?.any (·.piece.isNone))
  if branch.isPaused || justLost then top.cost + repairCost else top.cost

/-- How much a branch has read since its place was lost. -/
def progressSinceLoss (board : Board) (index : Nat) : Nat :=
  (board.top index).progress - (board.branch index).progressAtLoss

/-- Whether some text has been read since the place was lost last; `fuel` bounds the way down. -/
def advancedFrom (board : Board) (branch : Branch) : (fuel : Nat) → Nat → Bool
  | 0, _ => false
  | fuel + 1, index =>
    let node := board.node index
    match node.links.head? with
    | some ⟨below, some piece⟩ =>
      if 0 < piece.bytes then true
      else if branch.progressAtLoss < node.progress && piece.cost = 0 then
        board.advancedFrom branch fuel below
      else false
    | _ => false

/-- Whether a branch has read some text since its place was lost. -/
def hasAdvanced (board : Board) (index : Nat) : Bool :=
  let branch := board.branch index
  (board.node branch.top).cost = 0 || board.advancedFrom branch (board.nodes.size + 1) branch.top

/-- Whether two branches have come to the same state at the same place and cost. -/
def canJoin (board : Board) (a b : Nat) : Bool :=
  let x := board.top a
  let y := board.top b
  (board.branch a).isActive && (board.branch b).isActive
    && x.cursor.offset = y.cursor.offset && x.cost = y.cost && x.state = y.state

end Board

/-! ### Changing the board -/

/-- A step of the search. -/
abbrev Search := StateM Board

namespace Search

/-- Changes a branch. -/
def changeBranch (index : Nat) (change : Branch → Branch) : Search Unit :=
  modify fun board => { board with branches := board.branches.modify index change }

/-- Removes a branch. -/
def remove (index : Nat) : Search Unit :=
  modify fun board => { board with branches := board.branches.eraseIdxIfInBounds index }

/-- Gives up a branch. -/
def halt (index : Nat) : Search Unit := changeBranch index fun branch =>
  { branch with status := .halted }

/-- Adds a branch and answers its number. -/
def addBranch (branch : Branch) : Search Nat := do
  let board ← get
  set { board with branches := board.branches.push branch }
  return board.branches.size

/-- Puts a branch in the place of an earlier one. -/
def replace (index earlier : Nat) : Search Unit := do
  let board ← get
  let branch := board.branch index
  let old := board.branch earlier
  let branch :=
    if branch.retreats.isEmpty then { branch with retreats := old.retreats } else branch
  set { board with
    branches := (board.branches.setIfInBounds earlier branch).eraseIdxIfInBounds index }

/-- Puts a piece on top of a branch; without one the reader has lost its place. -/
def push (tables : Tables) (index : Nat) (piece : Option Piece) (state : State) : Search Unit := do
  let board ← get
  let branch := board.branch index
  let below := board.node branch.top
  let node : Node :=
    match piece with
    | some piece =>
      { state
        cursor := piece.facts.stop
        row := below.row + piece.allRows
        links := [⟨branch.top, some piece⟩]
        cost := below.cost + piece.cost
        progress := below.progress + piece.progress tables
        weight := below.weight + piece.facts.weight }
    | none => { below with state, links := [⟨branch.top, none⟩] }
  let branch := { branch with
    top := board.nodes.size
    progressAtLoss := if piece.isNone then node.progress else branch.progressAtLoss }
  set { board with
    nodes := board.nodes.push node
    branches := board.branches.setIfInBounds index branch }

/-- Whether two links carry pieces that are as good as the same. -/
def alike (a b : Link) : Bool :=
  match a.piece, b.piece with
  | some x, some y => x.isLike y
  | none, none => true
  | _, _ => false

/-- Whether two nodes are in the same state at the same place and cost. -/
def sameNode (board : Board) (a b : Nat) : Bool :=
  let x := board.node a
  let y := board.node b
  x.cursor.offset = y.cursor.offset && x.cost = y.cost && x.state = y.state

/-- The weight of a piece, if there is one. -/
def weightOf (piece : Option Piece) : Int := (piece.map (·.facts.weight)).getD 0

/-- The greatest number of links of a node. -/
def linkLimit : Nat := 8

/-- Adds a link to a node. A link like one that is there already adds only what lies below it. -/
def addLink (tables : Tables) : (fuel : Nat) → (self : Nat) → Link → Search Unit
  | 0, _, _ => return
  | fuel + 1, self, link => do
    let board ← get
    let node := board.node self
    let total := (board.node link.below).weight + weightOf link.piece
    let setNode (node : Node) : Search Unit :=
      modify fun board => { board with nodes := board.nodes.setIfInBounds self node }
    if link.below = self then return
    else match node.links.find? fun old =>
        alike old link && (old.below = link.below || sameNode board old.below link.below) with
    | some old =>
      if old.below = link.below then
        if weightOf old.piece < weightOf link.piece then
          let links := node.links.map fun l =>
            if l.below = old.below && alike l link then link else l
          setNode { node with links, weight := total }
      else
        for inner in (board.node link.below).links do
          addLink tables fuel old.below inner
        modify fun board => { board with
          nodes := board.nodes.modify self fun node =>
            { node with weight := max node.weight total } }
    | none =>
      if node.links.length < linkLimit then
        let progress := (board.node link.below).progress
          + ((link.piece.map (Piece.progress tables)).getD 0)
        setNode { node with
          links := node.links ++ [link]
          progress := max node.progress progress
          weight := max node.weight total }

/-- Joins a later branch to an earlier one if they have come to the same state. -/
def joinBranches (tables : Tables) (earlier later : Nat) : Search Bool := do
  let board ← get
  if board.canJoin earlier later then
    let self := (board.branch earlier).top
    for link in (board.top later).links do
      addLink tables (board.nodes.size + 1) self link
    if (board.node self).state.isLost then
      let board ← get
      changeBranch earlier fun branch =>
        { branch with progressAtLoss := (board.node self).progress }
    remove later
    return true
  else return false

/-- Joins a branch to the first of the given ones that it can be joined to. -/
def joinToFirst (tables : Tables) (later : Nat) : List Nat → Search Bool
  | [] => return false
  | earlier :: rest => do
    if ← joinBranches tables earlier later then return true
    else joinToFirst tables later rest

end Search

end Repair

end ComponentFile
