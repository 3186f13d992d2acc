import ValueSchema.Schema.Basic

/-!
What can be told of a schema without running it: the exact values it lists, and the kinds of values it could accept.
-/

namespace ValueSchema.Schema

/-- the exact values accepted, for literals and enumerations -/
def literalValues? : Schema → Option (List Value)
  | .leaf l => l.literalValues?
  | _ => none

mutual

/-- kinds of the values that could be accepted; none if that is not known -/
def inputKinds? : Schema → Option (List Kind)
  | .leaf l => l.inputKinds?
  | .object _ => some [.object]
  | .record .. => some [.object]
  | .discriminated .. => some [.object]
  | .array .. => some [.array]
  | .tuple _ => some [.array]
  | .set .. => some [.set]
  | .map .. => some [.map]
  | .union options => anyInputKinds? options
  | .intersection left right =>
    match left.inputKinds?, right.inputKinds? with
    | some ks, some ls => some (ks.filter ls.contains)
    | some ks, none => some ks
    | none, ls => ls
  | .optional inner => inner.inputKinds?.map (.undefined :: ·)
  | .nullable inner => inner.inputKinds?.map (.null :: ·)
  | .defaulting inner _ => inner.inputKinds?.map (.undefined :: ·)
  | .catching .. => none
  | .refine inner _ _ _ => inner.inputKinds?
  | .transform inner _ => inner.inputKinds?
  | .pipe first _ => first.inputKinds?
  | .lazy _ => none
termination_by structural s => s

/-- kinds of the values that some schema of a list could accept -/
def anyInputKinds? : List Schema → Option (List Kind)
  | [] => some []
  | s :: rest =>
    match s.inputKinds?, anyInputKinds? rest with
    | some ks, some ls => some (ks ++ ls)
    | _, _ => none
termination_by structural ss => ss

end

end ValueSchema.Schema
