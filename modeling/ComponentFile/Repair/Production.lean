import ComponentFile.Repair.Language.Basic
import ComponentFile.Text.Basic
import Std.Data.HashMap

/-!
Productions: the rules of the grammar spelled out.

A rule with choices stands for several plain sequences of symbols; `Part.productions` lists them.
Repetitions become parts of their own, which consist of one round or of two shorter repetitions.
-/

namespace ComponentFile

namespace Repair

/-! ### Repetitions -/

/-- A rule that is repeated somewhere, with the part that stands for the repetition. -/
abbrev Repetitions := List (Rule × String)

mutual

/-- Puts parts in the place of repetitions. -/
def Rule.withoutRepetition : Rule → StateM Repetitions Rule
  | .token terminal => return .token terminal
  | .part name => return .part name
  | .seq rules => return .seq (← withoutRepetitions rules)
  | .choice rules => return .choice (← withoutRepetitions rules)
  | .rep1 rule => do
    let round ← rule.withoutRepetition
    let known ← get
    match known.find? (·.1 == round) with
    | some (_, name) => return .part name
    | none =>
      let name := s!"repetition {known.length}"
      set (known ++ [(round, name)])
      return .part name
  | .rated rank side rule => return .rated rank side (← rule.withoutRepetition)
  | .weighted weight rule => return .weighted weight (← rule.withoutRepetition)
  | .renamed name rule => return .renamed name (← rule.withoutRepetition)

/-- Puts parts in the place of repetitions in several rules. -/
def withoutRepetitions : List Rule → StateM Repetitions (List Rule)
  | [] => return []
  | rule :: rules => return (← rule.withoutRepetition) :: (← withoutRepetitions rules)

end

/-- Puts parts in the place of repetitions in several parts. -/
def partsWithoutRepetition : List Part → StateM Repetitions (List Part)
  | [] => return []
  | part :: rest =>
    return { part with rule := ← part.rule.withoutRepetition } :: (← partsWithoutRepetition rest)

/-- The part that stands for a repetition. -/
def repetitionPart (entry : Rule × String) : Part :=
  hidden entry.2 (.choice [.seq [.part entry.2, .part entry.2], entry.1])

/-! ### Symbols and steps -/

/-- A symbol: a token or a part, by number. -/
inductive Symbol where
  /-- A token. -/
  | terminal (index : Nat)
  /-- A part. -/
  | part (index : Nat)
  deriving DecidableEq, Hashable, Repr

/-- One step of a production. -/
structure Step where
  /-- The symbol. -/
  symbol : Symbol
  /-- The rank of the production up to this step. -/
  rank : Option Rank
  /-- The side of the production up to this step. -/
  side : Option Side
  /-- The name that the symbol appears under. -/
  shownAs : Option String
  deriving DecidableEq, Hashable, Repr

/-- A part spelled out as a sequence of symbols. -/
structure Production where
  /-- The part. -/
  head : Nat
  /-- The weight. -/
  weight : Int
  /-- The symbols. -/
  steps : Array Step
  deriving DecidableEq, Repr

/-- The names that the symbols of a production appear under. -/
def Production.names (production : Production) : List (Option String) :=
  production.steps.toList.map (·.shownAs)

/-! ### What is left of a production -/

/-- What matters of a production once it has been read up to a point: the symbols before the point
no longer do. -/
structure Remainder where
  /-- The part. -/
  head : Nat
  /-- The weight. -/
  weight : Int
  /-- The rank and the side at the point. -/
  rated : Option (Option Rank × Option Side)
  /-- The names of the symbols before the point. -/
  names : List (Option String)
  /-- The steps after the point. -/
  steps : List Step
  deriving DecidableEq, Hashable, Repr

/-- What is left of a production from a point on. -/
def Production.remainder (production : Production) (point : Nat) : Remainder :=
  let steps := production.steps.toList
  { head := production.head
    weight := production.weight
    rated := (steps.take point).getLast?.map fun step => (step.rank, step.side)
    names := (steps.take point).map (·.shownAs)
    steps := steps.drop point }

/-- The points of a production. -/
def Production.points (production : Production) : List Nat :=
  List.range (production.steps.size + 1)

/-! ### Sequences of a rule -/

/-- The weight that counts of two: the one further from zero. -/
def heavier (a b : Int) : Int := if a.natAbs < b.natAbs then b else a

/-- Gives the last step the rank and side of the rule around it. -/
def settle (rank : Option Rank → Option Rank) (side : Option Side → Option Side) :
    List Step → List Step
  | [] => []
  | [step] => [{ step with rank := rank step.rank, side := side step.side }]
  | step :: steps => step :: settle rank side steps

/-- Looks up symbols by name. -/
structure Lookup where
  /-- The numbers of the tokens. -/
  terminals : Std.HashMap Terminal Nat
  /-- The numbers of the parts. -/
  parts : Std.HashMap String Nat

mutual

/-- The sequences of a rule, with their weights. What stands around the rule is in `outer`; `final`
tells whether the rule ends the production. -/
def Rule.sequences (lookup : Lookup) (outer : Step) (final : Bool) :
    Rule → List (List Step × Int)
  | .token terminal =>
    [([{ outer with symbol := .terminal (lookup.terminals.getD terminal 0) }], 0)]
  | .part name => [([{ outer with symbol := .part (lookup.parts.getD name 0) }], 0)]
  | .seq rules => sequencesOfAll lookup outer final rules
  | .choice rules => sequencesOfAny lookup outer final rules
  | .rep1 rule => rule.sequences lookup outer final
  | .rated rank side rule =>
    let inner := { outer with rank := rank <|> outer.rank, side := side <|> outer.side }
    let sequences := rule.sequences lookup inner final
    if final then sequences
    else sequences.map fun (steps, weight) =>
      (settle (if rank.isSome then fun _ => outer.rank else id)
        (if side.isSome then fun _ => outer.side else id) steps, weight)
  | .weighted weight rule =>
    (rule.sequences lookup outer final).map fun (steps, inner) => (steps, heavier weight inner)
  | .renamed name rule => rule.sequences lookup { outer with shownAs := some name } final

/-- The sequences of several rules one after the other. -/
def sequencesOfAll (lookup : Lookup) (outer : Step) (final : Bool) :
    List Rule → List (List Step × Int)
  | [] => [([], 0)]
  | rule :: rules =>
    let first := rule.sequences lookup outer (final && rules.isEmpty)
    let rest := sequencesOfAll lookup outer final rules
    first.flatMap fun (steps, weight) =>
      rest.map fun (more, other) => (steps ++ more, heavier weight other)

/-- The sequences of any of several rules. -/
def sequencesOfAny (lookup : Lookup) (outer : Step) (final : Bool) :
    List Rule → List (List Step × Int)
  | [] => []
  | rule :: rules =>
    rule.sequences lookup outer final ++ sequencesOfAny lookup outer final rules

end

/-- The productions of a part, each once. -/
def Part.productions (lookup : Lookup) (head : Nat) (part : Part) : List Production :=
  let outer : Step := ⟨.part 0, none, none, none⟩
  ((part.rule.sequences lookup outer true).map fun (steps, weight) =>
    (⟨head, weight, steps.toArray⟩ : Production)).eraseDups

end Repair

end ComponentFile
