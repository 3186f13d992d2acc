import ValueSchema.Schema.Validate

/-!
Entry points: validation with a caller's options.

`parse` stops at the first issue. `safeParse` reports every issue, unless the options say otherwise. `isValid` only tells
whether there is one. All answer nothing when names lead on without end.
-/

namespace ValueSchema.Schema

/-- stops at the first issue -/
def parseWith (defs : Definitions) (options : Options) (s : Schema) (v : Value) : Option Outcome :=
  s.validate defs ⟨options.catalog, .failFast⟩ v

def parse (defs : Definitions) (s : Schema) (v : Value) : Option Outcome := s.parseWith defs .standard v

/-- reports every issue, or the first one only if the options ask for that -/
def safeParseWith (defs : Definitions) (options : Options) (s : Schema) (v : Value) : Option Outcome :=
  s.validate defs ⟨options.catalog, if options.abortEarly then .failFast else .collect⟩ v

def safeParse (defs : Definitions) (s : Schema) (v : Value) : Option Outcome := s.safeParseWith defs .standard v

/-- whether a value is accepted -/
def isValid (defs : Definitions) (s : Schema) (v : Value) : Option Bool :=
  (s.validate defs ⟨Catalog.english, .failFast⟩ v).map fun
    | .ok _ => true
    | .error _ => false

end ValueSchema.Schema
