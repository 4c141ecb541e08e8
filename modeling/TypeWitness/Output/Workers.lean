import TypeWitness.Output.Emission

/-! # Handing out generated files by several workers
Workers hand files to a store at the same time. The store takes one file after the other, in the
order in which the workers come to it. What became of the files is told in the order of the files
all the same. -/

namespace TypeWitness

variable {m : Type → Type} [Monad m]

/-- Hand files to a store in the order in which workers come, and note at the place of each file
what became of it. -/
def writeInOrder (write : OutputTarget → m (Except WriteError Unit)) :
    List (OutputTarget × Nat) → m (List (Nat × Except WriteError Unit))
  | [] => return []
  | (target, place) :: order => do
    let result ← write target
    let rest ← writeInOrder write order
    return (place, result) :: rest

/-- What became of files, by the notes at their places. -/
def Emission.ofNotes (notes : List (Nat × Except WriteError Unit)) :
    List (OutputTarget × Nat) → Emission
  | [] => .empty
  | (target, place) :: rest =>
    match notes.lookup place with
    | some result => (ofNotes notes rest).add target result
    | none => ofNotes notes rest

/-- Hand files to a store in some order of the files and their places. -/
def emitInOrder (write : OutputTarget → m (Except WriteError Unit)) (targets : List OutputTarget)
    (order : List (OutputTarget × Nat)) : m Emission := do
  let notes ← writeInOrder write order
  return .ofNotes notes targets.zipIdx

end TypeWitness
