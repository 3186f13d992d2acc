import ValueSchema.Context
import ValueSchema.Value.Coerce
import ValueSchema.Value.Same

/-!
Truth values, literals and enumerations.
-/

namespace ValueSchema

structure BooleanSchema where
  /-- whether values of other kinds are converted -/
  coerced : Bool
  message : Option String

namespace BooleanSchema

def plain : BooleanSchema := ⟨false, none⟩

/-- converts values of other kinds first -/
def converting : BooleanSchema := ⟨true, none⟩

def validate (s : BooleanSchema) (ctx : Context) (v : Value) : Outcome :=
  match v with
  | .bool b => .ok (.bool b)
  | v =>
    if s.coerced then
      match v.toBool? with
      | some b => .ok (.bool b)
      | none => ctx.notConverted "boolean" v s.message
    else ctx.wrongKind "boolean" v s.message

end BooleanSchema

/-- accepts what is the same as one value -/
structure LiteralSchema where
  value : Value
  message : Option String

def LiteralSchema.validate (s : LiteralSchema) (ctx : Context) (v : Value) : Outcome :=
  if v.same s.value then .ok v else ctx.fail (.invalidLiteral s.value) s.message

/-- accepts one of some texts, each listed once -/
structure EnumSchema where
  options : List String
  nodup : options.Nodup
  message : Option String

namespace EnumSchema

/-- texts in order, without repetitions -/
def once (texts : List String) : List String :=
  texts.foldl (fun acc o => if acc.contains o then acc else acc ++ [o]) []

theorem nodup_once (texts : List String) : (once texts).Nodup := by
  have hfold : ∀ (rest acc : List String), acc.Nodup →
      (rest.foldl (fun acc o => if acc.contains o then acc else acc ++ [o]) acc).Nodup := by
    intro rest
    induction rest with
    | nil => exact fun acc h => h
    | cons o rest ih =>
      intro acc h
      refine ih _ ?_
      by_cases hmem : o ∈ acc
      · simpa [hmem] using h
      · simpa [hmem, List.nodup_append] using ⟨h, fun a ha hao => hmem (hao ▸ ha)⟩
  exact hfold texts [] List.nodup_nil

/-- the enumeration of some texts, each taken once -/
def ofList (options : List String) : EnumSchema := ⟨once options, nodup_once options, none⟩

/-- the options that pass a test -/
def filtered (s : EnumSchema) (keep : String → Bool) : EnumSchema :=
  { s with options := s.options.filter keep, nodup := List.Pairwise.filter keep s.nodup }

/-- the options that are among some texts -/
def extract (s : EnumSchema) (keep : List String) : EnumSchema := s.filtered keep.contains

/-- the options that are not among some texts -/
def exclude (s : EnumSchema) (drop : List String) : EnumSchema := s.filtered (!drop.contains ·)

def validate (s : EnumSchema) (ctx : Context) (v : Value) : Outcome :=
  if v.text?.any s.options.contains then .ok v else ctx.fail (.invalidEnumValue s.options v) s.message

end EnumSchema

end ValueSchema
