/-!
Sets of tokens, each token by its number.
-/

namespace ComponentFile

namespace Repair

/-- A set of tokens, as the bits of a number. -/
abbrev TerminalSet := Nat

namespace TerminalSet

/-- Whether a token is in the set. -/
def has (set : TerminalSet) (terminal : Nat) : Bool := Nat.testBit set terminal

/-- The set of one token. -/
def single (terminal : Nat) : TerminalSet := 1 <<< terminal

/-- The tokens of either set. -/
def union (a b : TerminalSet) : TerminalSet := a ||| b

/-- The tokens of both sets. -/
def inter (a b : TerminalSet) : TerminalSet := a &&& b

/-- The tokens of the first set that are not in the second. -/
def diff (a b : TerminalSet) : TerminalSet := a ^^^ (a &&& b)

/-- The set of the given tokens. -/
def ofList (list : List Nat) : TerminalSet := list.foldl (fun set t => union set (single t)) 0

end TerminalSet

end Repair

end ComponentFile
