/-! # Sorted names
Names in increasing order of their code points, each once. -/

namespace TypeWitness

/-- The names in increasing order, each once. -/
def sortedNames (names : List String) : List String :=
  names.eraseDups.mergeSort fun a b => a ≤ b

theorem mem_sortedNames {names : List String} {name : String} :
    name ∈ sortedNames names ↔ name ∈ names := by
  simp [sortedNames, List.mem_mergeSort]

end TypeWitness
