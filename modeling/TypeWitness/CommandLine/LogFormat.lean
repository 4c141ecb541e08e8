import TypeWitness.Text.Blank
import TypeWitness.Text.CaseMapping

/-! # Log formats
How the steps of a run are logged. -/

namespace TypeWitness

/-- A format of logs. -/
inductive LogFormat where
  | text
  | tree
  | json
  deriving DecidableEq, Repr

/-- The format that a text names, whatever its case and the white space around it. Anything unknown
names the plain one. -/
def LogFormat.ofName (name : String) : LogFormat :=
  let plain := lowerCaseText (trimBlank name)
  if plain = "tree" then tree else if plain = "json" then json else text

end TypeWitness
