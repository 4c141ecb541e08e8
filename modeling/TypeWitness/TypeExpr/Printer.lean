import TypeWitness.TypeExpr.Basic

/-! # Writing type expressions
The text of a type expression, with arguments set apart by a comma and a space. -/

namespace TypeWitness.TypeExpr

mutual
/-- The text of a type. -/
def render : TypeExpr → String
  | primitive name => name
  | named name [] => name
  | named name (first :: rest) => name ++ "<" ++ first.render ++ renderRest rest ++ ">"
  | array element => element.render ++ "[]"
  | wildcard => "?"
  | wildcardExtends bound => "? extends " ++ bound.render
  | wildcardSuper bound => "? super " ++ bound.render

/-- The text of the arguments after the first, each with its comma. -/
def renderRest : List TypeExpr → String
  | [] => ""
  | type :: types => ", " ++ type.render ++ renderRest types
end

@[simp] theorem render_named_nil (name : String) : (named name []).render = name := by
  simp [render]

end TypeWitness.TypeExpr
