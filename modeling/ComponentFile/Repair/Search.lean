import ComponentFile.Repair.Stack
import ComponentFile.Repair.Token

/-!
The search for the best reading of a broken script.

All readings go through the script side by side, one token at a time. Where a token is not expected,
a reading is repaired in every way that may pay: by a missing token that completes what has been
read (`insertMissing`), by going back to an earlier state and leaving out what was read since
(`goBack`), or by passing over the token (`passOver`). Readings that cost much more than others are
given up. The reading of least cost is the answer.
-/

namespace ComponentFile

namespace Repair

open Script (Cursor)

namespace Search

/-! ### Comparing branches -/

/-- How a branch is doing. -/
structure Standing where
  /-- The cost of its repairs. -/
  cost : Nat
  /-- How much it has read since its place was lost. -/
  progress : Nat
  /-- The weight of its pieces. -/
  weight : Int
  /-- Whether it has lost its place. -/
  isLost : Bool

/-- The outcome of comparing two branches. -/
inductive Verdict where
  /-- The first one is so much better that the other can be given up. -/
  | takeFirst
  /-- The first one is better. -/
  | preferFirst
  /-- Neither is better. -/
  | even
  /-- The second one is better. -/
  | preferSecond
  /-- The second one is so much better that the other can be given up. -/
  | takeSecond
  deriving DecidableEq

/-- The greatest difference of costs that a branch may make good. -/
def costMargin : Nat := 18 * passedPieceCost

/-- The greatest number of branches. -/
def branchLimit : Nat := 6

/-- Compares two branches. A difference of costs weighs more the further the cheaper one has
come. -/
def compareStandings (a b : Standing) : Verdict :=
  if !a.isLost && b.isLost then if a.cost < b.cost then .takeFirst else .preferFirst
  else if a.isLost && !b.isLost then if b.cost < a.cost then .takeSecond else .preferSecond
  else if a.cost < b.cost then
    if costMargin < (b.cost - a.cost) * (1 + a.progress) then .takeFirst else .preferFirst
  else if b.cost < a.cost then
    if costMargin < (a.cost - b.cost) * (1 + b.progress) then .takeSecond else .preferSecond
  else if b.weight < a.weight then .preferFirst
  else if a.weight < b.weight then .preferSecond
  else .even

/-- How much a branch has read since its place was lost; it counts from where it stands if that is
further back. -/
def progressSinceLoss (index : Nat) : Search Nat := do
  let progress := ((← get).top index).progress
  changeBranch index fun branch =>
    { branch with progressAtLoss := min branch.progressAtLoss progress }
  return (← get).progressSinceLoss index

/-- How a branch is doing. -/
def standing (index : Nat) : Search Standing := do
  let progress ← progressSinceLoss index
  let board ← get
  let isPaused := (board.branch index).isPaused
  return {
    cost := board.cost index + (if isPaused then passedPieceCost else 0)
    progress
    weight := (board.top index).weight
    isLost := isPaused || (board.top index).state.isLost }

/-- Whether one of the branches from `other` on, or a finished reading, is clearly better than the
given branch would be at the given cost. -/
def betterAmong (index cost : Nat) : (count : Nat) → Search Bool
  | 0 => do
    match (← get).finished with
    | some piece => return piece.cost ≤ cost
    | none => return false
  | other + 1 => do
    if ← betterAmong index cost other then return true
    let board ← get
    if other = index || !(board.branch other).isActive
        || (board.top other).cursor.offset < (board.top index).cursor.offset then return false
    let standingThere : Standing :=
      ⟨cost, ← progressSinceLoss index, (board.top index).weight, false⟩
    match compareStandings standingThere (← standing other) with
    | .takeSecond => return true
    | .preferSecond => return board.canJoin other index
    | _ => return false

/-- Whether some reading is clearly better than a branch would be at the given cost. -/
def betterExists (index cost : Nat) : Search Bool := do
  betterAmong index cost (← get).branches.size

/-! ### Completing productions -/

/-- Takes the pieces off the end that may stand anywhere. -/
def splitExtras (pieces : List Piece) : List Piece × List Piece :=
  let extras := (pieces.reverse.takeWhile (·.facts.isExtra)).reverse
  (pieces.take (pieces.length - extras.length), extras)

/-- A completed production with the extra pieces after it. -/
def complete (tables : Tables) (place : Cursor) (production : Production) (reading : List Piece) :
    Piece × List Piece :=
  let (children, extras) := splitExtras reading
  (Piece.join tables place (.part production.head) production.names children, extras)

/-- The best of several ways to complete a production. -/
def bestCompletion (tables : Tables) (place : Cursor) (production : Production) :
    List (List Piece) → Option (Piece × List Piece)
  | [] => none
  | reading :: readings =>
    some (readings.foldl (fun best reading =>
      let next := complete tables place production reading
      if best.1.prefers tables next.1 then next else best)
      (complete tables place production reading))

/-- The greatest number of branches while one token is dealt with. -/
def overflowLimit : Nat := branchLimit + 4

/-- Puts a completed production on top of the node that it was read from, in a new branch. -/
def pushCompleted (tables : Tables) (index : Nat) (production : Production) (below halted : Nat)
    (readings : List (List Piece)) : Search Unit := do
  let board ← get
  let node := board.node below
  let count := board.branches.size
  if overflowLimit + halted < count then return
  match bestCompletion tables node.cursor production readings with
  | none => return
  | some (piece, extras) =>
    let piece := piece.withFacts fun facts =>
      { facts with weight := facts.weight + production.weight }
    let state := node.state.after tables (.part production.head)
    let new ← addBranch ⟨below, (board.branch index).progressAtLoss, .active, []⟩
    push tables new (some piece) state
    for extra in extras do
      push tables new (some extra) state
    let _ ← joinToFirst tables new ((List.range new).filter (· ≠ index))

/-- Completes a production on top of a branch, in new branches. Answers the number of the first one,
if there is any. -/
def reduce (tables : Tables) (index production : Nat) : Search (Option Nat) := do
  let board ← get
  let rule := tables.production production
  let count := board.branches.size
  let halted := (board.branches.filter Branch.isHalted).size
  for (below, readings) in board.pop index rule.steps.size do
    pushCompleted tables index rule below halted readings
  return if count < (← get).branches.size then some count else none

/-- The productions that may be completed in a state, each part and length once, and whether a token
may be taken. Without a token all tokens are considered. -/
def prospects (tables : Tables) (state : State) (token : Option Nat) : Bool × List Nat :=
  let tokens := match token with
    | some terminal => [terminal]
    | none => (List.range tables.terminals.size).tail.filter (state.expected tables).has
  tokens.foldl (fun known terminal =>
    (state.actions tables terminal).foldl (fun (takes, productions) action =>
      match action with
      | .shift repeats => (takes || !repeats, productions)
      | .reduce production =>
        let rule := tables.production production
        let same (other : Nat) : Bool :=
          (tables.production other).head = rule.head
            && (tables.production other).steps.size = rule.steps.size
        if rule.steps.isEmpty || productions.any same then (takes, productions)
        else (takes, productions ++ [production])
      | .accept => (takes, productions)) known) (false, [])

/-- Completes several productions on top of a branch. Answers what the last one does. -/
def reduceAll (tables : Tables) (index : Nat) (productions : List Nat) : Search (Option Nat) := do
  let mut last := none
  for production in productions do
    last ← reduce tables index production
  return last

/-- Completes all that may be complete on top of a branch, whatever token follows, or before a given
token. Answers whether a token may be taken in the end. `count` is the number of branches at the
beginning, `round` that of the rounds so far. -/
def completeFrom (tables : Tables) (start count : Nat) (token : Option Nat) :
    (fuel round index : Nat) → (takes : Bool) → Search Bool
  | 0, _, _, takes => return takes
  | fuel + 1, round, index, takes => do
    let branches := (← get).branches.size
    if branches ≤ index then return takes
    if ← joinToFirst tables index ((List.range index).drop count) then
      completeFrom tables start count token fuel (round + 1) index takes
    else
      let (canTake, productions) := prospects tables ((← get).top index).state token
      let last ← reduceAll tables index productions
      let next := if index = start then branches else index + 1
      if canTake then completeFrom tables start count token fuel (round + 1) next true
      else
        match last with
        | some new =>
          if round < branchLimit then
            replace new index
            completeFrom tables start count token fuel (round + 1) index takes
          else
            if token.isSome then remove index
            completeFrom tables start count token fuel (round + 1) next takes
        | none =>
          if token.isSome then remove index
          completeFrom tables start count token fuel (round + 1) next takes

/-- A bound for the number of rounds in which all that may be complete is completed. -/
def completionRounds : Nat := 1000

/-- Completes all that may be complete on top of a branch. -/
def completeAll (tables : Tables) (start : Nat) (token : Option Nat) : Search Bool := do
  completeFrom tables start (← get).branches.size token completionRounds 0 start false

/-! ### Finishing -/

/-- The whole script, given all pieces: the last part takes the others in. -/
def wholeScript (tables : Tables) (place : Cursor) (pieces : List Piece) : Option Piece :=
  let (front, extras) := splitExtras pieces
  match front.getLast? with
  | some last =>
    some (Piece.join tables place last.shape last.facts.names
      (front.dropLast ++ last.children ++ extras))
  | none => none

/-- Finishes a branch at the end of the script. -/
def finish (tables : Tables) (index : Nat) (token : Piece) : Search Unit := do
  push tables index (some token) .initial
  let board ← get
  for (below, readings) in board.popAll index do
    for reading in readings do
      match wholeScript tables (board.node below).cursor reading with
      | some piece =>
        modify fun board => { board with
          finished := match board.finished with
            | some old => some (if old.prefers tables piece then piece else old)
            | none => some piece
          finishes := board.finishes + 1 }
      | none => pure ()
  halt index

/-! ### Repairs -/

/-- The number of a piece's token. -/
def terminalOf (piece : Piece) : Option Nat :=
  match piece.shape with
  | .token terminal => some terminal
  | _ => none

/-- Whether a token is expected in a state. -/
def allows (tables : Tables) (state : State) (token : Piece) : Bool :=
  match terminalOf token with
  | some terminal => (state.expected tables).has terminal
  | none => false

/-- Makes one fault of the pieces that are left out, together with a fault right before them. -/
def pushFault (tables : Tables) (index : Nat) (pieces : List Piece) (state : State) :
    Search Unit := do
  let board ← get
  let top := board.top index
  let pieces ← match top.links.find? (·.piece.any Piece.isFault) with
    | some ⟨below, some fault⟩ =>
      changeBranch index fun branch => { branch with top := below }
      pure (fault.children ++ pieces)
    | _ => pure pieces
  let (left, extras) := splitExtras pieces
  unless left.isEmpty do
    let fault := Piece.join tables top.cursor .fault [] left
    push tables index (some (fault.withFacts fun facts => { facts with isExtra := true })) state
  for extra in extras do
    push tables index (some extra) state

/-- Goes back to a state further down in new branches. -/
def goBackTo (tables : Tables) (index depth : Nat) (goal : State) : Search Bool := do
  let board ← get
  let mut went := false
  for (below, readings) in board.pop index depth do
    if (board.node below).state = goal then
      let new ← addBranch ⟨below, (board.branch index).progressAtLoss, .active, []⟩
      pushFault tables new (readings.headD []) goal
      went := true
  return went

/-- Goes back to the nearest state in which the token is expected. -/
def goBack (tables : Tables) (index count cost : Nat) (passedSome : Bool) (token : Piece) :
    List Retreat → Search Bool
  | [] => return false
  | retreat :: rest => do
    let board ← get
    let top := board.top index
    let taken := (List.range count).any fun other =>
      (board.top other).cursor.offset = top.cursor.offset
        && (board.top other).state = retreat.state
    if retreat.state.isLost || retreat.offset = top.cursor.offset || taken then
      goBack tables index count cost passedSome token rest
    else
      let newCost := cost + retreat.depth * passedPieceCost
        + passedTextCost (top.cursor.offset - retreat.offset) (top.row - retreat.row)
      if ← betterExists index newCost then return false
      if allows tables retreat.state token then
        let depth := if passedSome then retreat.depth + 1 else retreat.depth
        if ← goBackTo tables index depth retreat.state then return true
      goBack tables index count cost passedSome token rest

/-- Passes over a token. -/
def passOver (tables : Tables) (index : Nat) (passedSome : Bool) (token : Piece) :
    Search Unit := do
  let token := match terminalOf token with
    | some terminal =>
      if tables.extras.has terminal then
        token.withFacts fun facts => { facts with isExtra := true }
      else token
    | none => token
  let passed := Piece.join tables token.facts.stop .passed [] [token]
  let board ← get
  match board.pop index 1, passedSome with
  | (below, reading :: _) :: _, true =>
    changeBranch index fun branch => { branch with top := below }
    push tables index
      (some (Piece.join tables token.facts.stop .passed [] (reading ++ [passed]))) .lost
  | _, _ => push tables index (some passed) .lost

/-- Deals with a token on a branch that has lost its place. -/
def recover (tables : Tables) (index : Nat) (token : Piece) : Search Unit := do
  let passedSome := 0 < (← progressSinceLoss index)
  let board ← get
  let count := board.branches.size
  let cost := board.cost index
  let retreats := if token.isFault then [] else (board.branch index).retreats
  let went ← goBack tables index count cost passedSome token retreats
  if token.shape = .token 0 then
    let place := (board.top index).cursor
    push tables index (some (Piece.join tables place .fault [] [])) .initial
    finish tables index token
  else if went && branchLimit < (← get).branches.size then halt index
  else if ← betterExists index
      (cost + passedPieceCost + passedTextCost token.bytes token.allRows) then halt index
  else passOver tables index passedSome token

/-- A token that is missing at a cursor. -/
def missingPiece (terminal : Nat) (place : Cursor) : Piece :=
  .mk
    { shape := .token terminal
      origin := place.offset
      start := place.offset
      stop := place
      isMissing := true } []

/-- Tries tokens that may be missing on top of a branch, in order. Answers whether one helps. -/
def insertMissing (tables : Tables) (index : Nat) (token : Piece) : List Nat → Search Bool
  | [] => return false
  | missing :: rest => do
    let board ← get
    let branch := board.branch index
    let top := board.top index
    let next := top.state.after tables (.terminal missing)
    let canShift := (top.state.actions tables missing).any fun action =>
      match action with
      | .shift _ => true
      | _ => false
    let completes := match terminalOf token with
      | some terminal => match next.actions tables terminal with
        | .reduce _ :: _ => true
        | _ => false
      | none => false
    if canShift && next ≠ top.state && completes then
      let new ← addBranch { branch with retreats := [] }
      push tables new (some (missingPiece missing top.cursor)) next
      let terminal := (terminalOf token).filter (· ≠ 0)
      if ← completeAll tables new terminal then return true
    insertMissing tables index token rest

/-- Repairs the branches from `index` on and those that complete them. -/
def loseAll (tables : Tables) (token : Piece) : List Nat → (inserted : Bool) → Search Unit
  | [], _ => return
  | index :: rest, inserted => do
    let expected := ((← get).top index).state.expected tables
    let candidates := (List.range tables.terminals.size).tail.filter expected.has
    let inserted ← if inserted then pure true else insertMissing tables index token candidates
    push tables index none .lost
    loseAll tables token rest inserted

/-- Joins the branches from `first` on to a branch, `count` times. -/
def gather (tables : Tables) (index first : Nat) : (count : Nat) → Search Unit
  | 0 => return
  | count + 1 => do
    let _ ← joinBranches tables index first
    gather tables index first count

/-- Deals with a token that is not expected on a branch. -/
def lose (tables : Tables) (index : Nat) (token : Piece) : Search Unit := do
  let before := (← get).branches.size
  let _ ← completeAll tables index none
  let after := (← get).branches.size
  loseAll tables token (index :: (List.range after).drop before) false
  gather tables index before (after - before)
  let board ← get
  changeBranch index fun branch => { branch with retreats := board.retreats index }
  recover tables index token

/-! ### One token on a branch -/

/-- The tokens that can be made out by a reader that has lost its place. -/
def recognizable (tables : Tables) : TerminalSet :=
  (TerminalSet.ofList (List.range tables.terminals.size)).diff
    (terminalSet tables.terminalIndex
      [.doubleQuoted, .singleQuoted, .patternBody, .patternEnd, .patternFlags])

/-- The number of line breaks between two cursors. -/
def rowsBetween (a b : Cursor) : Nat :=
  (a.rest.take (a.rest.length - b.rest.length)).count '\n'

/-- A piece of text from `start` up to `stop`, after blanks from `origin` on. -/
def leaf (shape : Shape) (origin start stop : Cursor) : Piece :=
  .mk
    { shape
      origin := origin.offset
      start := start.offset
      stop
      rowsBefore := rowsBetween origin start
      rows := rowsBetween start stop
      isExtra := shape = .token 0 } []

/-- Text in which no token can be made out, up to the next token. -/
def unreadable (tables : Tables) (origin start : Cursor) : (fuel : Nat) → Cursor → Piece
  | 0, stop => leaf .fault origin start stop
  | fuel + 1, stop =>
    match find? tables (recognizable tables) stop with
    | some _ => leaf .fault origin start stop
    | none =>
      let next := Script.skipBlanks stop
      if next.offset ≠ stop.offset then unreadable tables origin start fuel next
      else if stop.rest.isEmpty then leaf .fault origin start stop
      else unreadable tables origin start fuel (stop.skip 1)

/-- The token that a name stands for: a reserved word where that is expected. -/
def asWord (tables : Tables) (expected : TerminalSet) (found : Found) : Nat × Bool :=
  let text := String.ofList
    (found.start.rest.take (found.start.rest.length - found.stop.rest.length))
  match tables.terminalIndex[Terminal.word text]? with
  | some word => if expected.has word then (word, true) else (found.terminal, true)
  | none => (found.terminal, false)

/-- The piece of a token that was found. -/
def tokenPiece (tables : Tables) (expected : TerminalSet) (origin : Cursor) (found : Found) :
    Piece :=
  let (terminal, isWord) :=
    if found.terminal = tables.index .identifier then asWord tables expected found
    else (found.terminal, false)
  (leaf (.token terminal) origin found.start found.stop).withFacts fun facts =>
    { facts with isWord }

/-- The next token on a branch. -/
def nextToken (tables : Tables) (index : Nat) : Search Piece := do
  let board ← get
  let top := board.top index
  let cursor := top.cursor
  let isLost := top.state.isLost
  let expected := if isLost then recognizable tables else top.state.expected tables
  let byPlace := if isLost then none
    else (findByPlace? tables (fun t => expected.has (tables.index t)) cursor).filter fun found =>
      0 < found.size || board.hasAdvanced index
  match byPlace <|> find? tables expected cursor <|> find? tables (recognizable tables) cursor with
  | some found => return tokenPiece tables expected cursor found
  | none =>
    let start := Script.skipBlanks cursor
    if start.rest.isEmpty then return leaf .fault cursor start start
    else return unreadable tables cursor start (2 * start.rest.length + 2) (start.skip 1)

/-- Does with a token what the state allows, until it is taken, not expected or dealt with. -/
def takeToken (tables : Tables) (index : Nat) : (fuel : Nat) → Piece → Search Unit
  | 0, _ => halt index
  | fuel + 1, token => do
    let state := ((← get).top index).state
    if state.isLost then recover tables index token
    else
      let own := match terminalOf token with
        | some terminal => state.actions tables terminal
        | none => []
      match own, terminalOf token with
      | [], some terminal =>
        if tables.extras.has terminal then
          push tables index (some (token.withFacts fun facts => { facts with isExtra := true }))
            state
        else if token.facts.isWord && terminal ≠ tables.index .identifier
            && !(state.actions tables (tables.index .identifier)).isEmpty then
          takeToken tables index fuel
            (token.withFacts fun facts => { facts with shape := .token (tables.index .identifier) })
        else changeBranch index fun branch => { branch with status := .paused token }
      | [], none => changeBranch index fun branch => { branch with status := .paused token }
      | _, none => halt index
      | actions, some terminal =>
        let mut last := none
        let mut isTaken := false
        for action in actions do
          if !isTaken then
            match action with
            | .shift repeats =>
              if !repeats then
                let token := token.withFacts fun facts => { facts with isExtra := false }
                push tables index (some token) (state.after tables (.terminal terminal))
                isTaken := true
            | .reduce production =>
              match ← reduce tables index production with
              | some new => last := some new
              | none => pure ()
            | .accept =>
              finish tables index token
              isTaken := true
        if isTaken then return
        match last with
        | some new =>
          replace new index
          takeToken tables index fuel token
        | none => changeBranch index fun branch => { branch with status := .paused token }

/-- A bound for the number of productions that one token completes. -/
def tokenRounds : Nat := 100000

/-- Takes a branch on by one token. -/
def advance (tables : Tables) (index : Nat) : Search Unit := do
  takeToken tables index tokenRounds (← nextToken tables index)

/-! ### Rounds -/

/-- Takes a branch on until it is past all others. -/
def runBranch (tables : Tables) (index : Nat) : (fuel last : Nat) → Search Nat
  | 0, last => return last
  | fuel + 1, last => do
    let board ← get
    if index < board.branches.size && (board.branch index).isActive then
      advance tables index
      let offset := ((← get).top index).cursor.offset
      if last < offset || (0 < index && offset = last) then return offset
      else runBranch tables index fuel last
    else return last

/-- Takes all branches from the given one on by a token. -/
def runBranches (tables : Tables) : (fuel index last : Nat) → Search Nat
  | 0, _, last => return last
  | fuel + 1, index, last => do
    if index < (← get).branches.size then
      let last ← runBranch tables index tokenRounds last
      runBranches tables fuel (index + 1) last
    else return last

/-- Swaps two branches. -/
def swap (a b : Nat) : Search Unit :=
  modify fun board => { board with
    branches := (board.branches.setIfInBounds a (board.branch b)).setIfInBounds b (board.branch a) }

/-- Compares a branch with those before it, from `other` on, and removes or joins what is not worth
following. Answers the number of the branch that comes next. -/
def sortBranch (tables : Tables) (standing₀ : Standing) :
    (fuel index other : Nat) → Search Nat
  | 0, index, _ => return index + 1
  | fuel + 1, index, other => do
    if index ≤ other then return index + 1
    else match compareStandings (← standing other) standing₀ with
      | .takeFirst =>
        remove index
        return index
      | .preferFirst | .even =>
        if ← joinBranches tables other index then return index
        else sortBranch tables standing₀ fuel index (other + 1)
      | .preferSecond =>
        if ← joinBranches tables other index then return index
        else
          swap index other
          sortBranch tables standing₀ fuel index (other + 1)
      | .takeSecond =>
        remove other
        sortBranch tables standing₀ fuel (index - 1) other

/-- Sorts all branches from the given one on. Answers the least cost of those that have not lost
their place. -/
def sortBranches (tables : Tables) : (fuel index : Nat) → (least : Option Nat) → Search (Option Nat)
  | 0, _, least => return least
  | fuel + 1, index, least => do
    let board ← get
    if board.branches.size ≤ index then return least
    else if (board.branch index).isHalted then
      remove index
      sortBranches tables fuel index least
    else
      let here ← standing index
      let least := if here.isLost then least else
        some (match least with
          | some cost => min cost here.cost
          | none => here.cost)
      let next ← sortBranch tables here (board.branches.size * board.branches.size + 1) index 0
      sortBranches tables fuel next least

/-- Repairs the first branch that waits if none before it goes on, and removes all others that
wait. -/
def resume (tables : Tables) : (fuel index count : Nat) → (goesOn : Bool) → (least : Option Nat) →
    Search (Option Nat)
  | 0, _, _, _, least => return least
  | fuel + 1, index, count, goesOn, least => do
    if count ≤ index then return least
    else
      let board ← get
      match (board.branch index).status with
      | .paused token =>
        if !goesOn && board.finishes < branchLimit then
          let least := some (board.cost index)
          changeBranch index fun branch => { branch with status := .active }
          lose tables index token
          resume tables fuel (index + 1) count true least
        else
          remove index
          resume tables fuel index (count - 1) goesOn least
      | _ => resume tables fuel (index + 1) count true least

/-- Sorts the branches, drops the least promising ones and repairs the best if it waits. -/
def condense (tables : Tables) : Search (Option Nat) := do
  let least ← sortBranches tables (2 * (← get).branches.size + 1) 0 none
  modify fun board => { board with branches := board.branches.take branchLimit }
  let count := (← get).branches.size
  resume tables (2 * count + 1) 0 count false least

/-- Takes all branches on until none is left or the best reading is finished. -/
def runAll (tables : Tables) : (fuel last : Nat) → Search Unit
  | 0, _ => return
  | fuel + 1, last => do
    if (← get).branches.isEmpty then return
    let last ← runBranches tables tokenRounds 0 last
    let least ← condense tables
    match (← get).finished, least with
    | some piece, some cost => if piece.cost < cost then return else runAll tables fuel last
    | some _, none => return
    | none, _ => runAll tables fuel last

end Search

/-- The best reading of a script, repaired where it has to be. -/
def bestReading? (tables : Tables) (content : Text) : Option Piece :=
  let start : Node := { state := .initial, cursor := ⟨content, 0⟩ }
  let board : Board := { nodes := #[start], branches := #[{ top := 0 }] }
  ((Search.runAll tables (20 * content.length + 1000) 0).run board).2.finished

end Repair

end ComponentFile
