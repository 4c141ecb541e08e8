import TypeWitness.Source.Layout

/-! # Options of generation
What may be chosen about generated files, and what is chosen unless told otherwise. -/

namespace TypeWitness

/-- How a cast shows the type parameters that it does not pin. -/
inductive SignatureStyle where
  /-- They are wildcards before and after, and only what the cast needs is declared. -/
  | wildcard
  /-- They are declared on the cast and stay as they are. -/
  | passthrough
  deriving DecidableEq, Repr, Inhabited

/-- The choices that generation depends on. -/
structure GenerationOptions where
  signatureStyle : SignatureStyle
  /-- The class that holds the casts of a package. -/
  holderName : String
  /-- The cast that takes all witnesses of a type. -/
  castName : String
  /-- What comes before the token name in a cast that takes one witness. -/
  partialCastPrefix : String
  /-- Whether generated methods suppress warnings about unchecked casts. -/
  suppressUnchecked : Bool
  layout : Layout
  deriving DecidableEq, Repr

/-- The choices that are made unless told otherwise. -/
def GenerationOptions.standard : GenerationOptions where
  signatureStyle := .wildcard
  holderName := "SafeCast"
  castName := "cast"
  partialCastPrefix := "castBy"
  suppressUnchecked := true
  layout := .standard

instance : Inhabited GenerationOptions := ⟨.standard⟩

/-- The annotations of a generated method that ends in a cast. -/
def GenerationOptions.castAnnotations (options : GenerationOptions) : List String :=
  if options.suppressUnchecked then ["SuppressWarnings(\"unchecked\")"] else []

end TypeWitness
