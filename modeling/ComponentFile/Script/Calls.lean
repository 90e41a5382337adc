import ComponentFile.Script.Recovery

/-!
Which compiler functions a script already calls. They are looked for anywhere in the tree, and also
in the parts of broken scripts that could be made out.
-/

namespace ComponentFile

namespace Script

/-- Whether a node is a call of the given name. -/
def isCallOf (content name : Text) (tree : Tree) : Bool :=
  tree.kind = .call &&
    match tree.child? .callee with
    | some callee => callee.kind = .identifier && callee.text content = name
    | none => false

/-- The compiler functions that a script calls. -/
structure DefinedParts where
  /-- Whether properties are defined. -/
  props : Bool := false
  /-- Whether events are defined. -/
  emits : Bool := false
  /-- Whether slots are defined. -/
  slots : Bool := false
  deriving DecidableEq, Repr

/-- Whether the part of the given label is defined. -/
def DefinedParts.has (parts : DefinedParts) (label : Text) : Bool :=
  if label = "props".toList then parts.props
  else if label = "emits".toList then parts.emits
  else if label = "slots".toList then parts.slots
  else false

/-- The parts that a script defines. -/
def definedParts (content : Text) : DefinedParts :=
  let tree := parse content
  { props := tree.anyNode (isCallOf content "defineProps")
    emits := tree.anyNode (isCallOf content "defineEmits")
    slots := tree.anyNode (isCallOf content "defineSlots") }

end Script

end ComponentFile
