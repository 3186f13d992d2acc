import ValueSchema.Message

/-!
Settings of one call, and what validation answers.

Schemas never change; what varies from call to call, the catalog and whether to stop at the first issue, travels beside the
input.
-/

namespace ValueSchema

/-- settings that a caller chooses -/
structure Options where
  catalog : Catalog
  /-- whether reporting calls stop at the first issue too -/
  abortEarly : Bool

/-- English words, every issue reported -/
def Options.standard : Options := ⟨Catalog.english, false⟩

/-- whether schemas with several parts stop at the first issue -/
inductive Mode where
  | failFast
  | collect
  deriving DecidableEq

/-- what travels beside the input -/
structure Context where
  catalog : Catalog
  mode : Mode

/-- the output, or the issues found -/
abbrev Outcome := Except (List Issue) Value

namespace Context

/-- an issue at the root of the value in hand; a text of the schema's own stands in for the catalog's -/
def issue (ctx : Context) (m : Message) (own : Option String) : Issue where
  code := m.code
  path := []
  message := own.getD (ctx.catalog.render m)
  params := m.params
  nested := []

/-- failure with a single issue -/
def fail {α : Type} (ctx : Context) (m : Message) (own : Option String) : Except (List Issue) α :=
  .error [ctx.issue m own]

/-- the value is of the wrong kind -/
def wrongKind (ctx : Context) (expected : String) (v : Value) (own : Option String) : Outcome :=
  ctx.fail (.invalidType expected v.typeName) own

/-- the value stands for nothing of the wanted kind -/
def notConverted (ctx : Context) (target : String) (v : Value) (own : Option String) : Outcome :=
  ctx.fail (.coercionFailed target v.typeName) own

end Context

end ValueSchema
