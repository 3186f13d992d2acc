import ValueSchema.Proofs.Codec.EntryPoints
import ValueSchema.Proofs.Stability.Schemas

/-!
Decoding, encoding and decoding again.

A codec validates on both sides of its conversion, and each validation may change the value. So the value that comes back
from a round trip is not the caller's but what the input schema made of it. If both schemas accept their own outputs as
they are, and the one conversion undoes the other on these outputs, encoding gives exactly this value, and decoding it
gives the same result again.

Results:
- `runAsync_eq_ok_iff`, `run_eq_ok_iff`: one direction succeeds exactly when its three stages do.
- `Normalizes.stableAt`: schemas that only normalise accept their own outputs.
- `decoding_comes_back`: round trips through each pair of entry points.
-/

namespace ValueSchema

/-- the schema accepts its own outputs as they are -/
def Schema.StableAt (defs : Definitions) (ctx : Context) (s : Schema) : Prop :=
  ∀ v w, s.validate defs ctx v = some (.ok w) → s.validate defs ctx w = some (.ok w)

/-- in every setting, schemas that only normalise do -/
theorem Schema.Normalizes.stableAt {defs : Definitions} (hdefs : ∀ d ∈ defs, d.2.Normalizes) {s : Schema}
    (hs : s.Normalizes) (ctx : Context) : s.StableAt defs ctx := by
  intro v w h
  obtain ⟨n, hn⟩ := validate_eq_some_iff.1 h
  exact validate_eq_of_run (run_stable hdefs n hs ctx v w hn)

namespace Codec

variable {defs : Definitions} {c : Codec} {mode : Mode}

/-! ## One direction -/

/-- **One direction**: the value is accepted, what it becomes is converted, and the result is accepted. -/
theorem runAsync_eq_ok_iff {direction : Direction} {v w : Value} :
    c.runAsync defs direction mode v = some (.ok w) ↔
      ∃ a u, (c.stages direction).1.validate defs ⟨Catalog.english, mode⟩ v = some (.ok a) ∧
        (c.stages direction).2.1.wait a = .ok u ∧
        (c.stages direction).2.2.validate defs ⟨Catalog.english, mode⟩ u = some (.ok w) := by
  rw [runAsync_eq_some_iff]
  constructor
  · rintro ⟨stage, o, h, ho⟩
    cases h with
    | converted ha hu hw =>
      cases ho
      exact ⟨_, _, ha, hu, hw⟩
    | _ => cases ho
  · rintro ⟨a, u, ha, hu, hw⟩
    exact ⟨none, .ok w, .converted ha hu hw, rfl⟩

/-- nothing is given without waiting by a codec that has to wait -/
theorem run_eq_ok_iff {direction : Direction} {v w : Value} :
    c.run defs direction mode v = some (.ok w) ↔ c.isAsync = false ∧ c.runAsync defs direction mode v = some (.ok w) := by
  cases h : c.isAsync with
  | true => simp [run_of_isAsync h]
  | false => simp [run_eq_runAsync h]

/-! ## There and back -/

/-- both schemas accept their own outputs as they are, and encoding undoes decoding: from what the output schema made of
a decoded value it gives back the value that was decoded -/
structure Reversible (defs : Definitions) (mode : Mode) (c : Codec) : Prop where
  input : c.input.StableAt defs ⟨Catalog.english, mode⟩
  output : c.output.StableAt defs ⟨Catalog.english, mode⟩
  undone : ∀ v a u w, c.input.validate defs ⟨Catalog.english, mode⟩ v = some (.ok a) → c.decode.wait a = .ok u →
    c.output.validate defs ⟨Catalog.english, mode⟩ u = some (.ok w) → c.encode.wait w = .ok a

/-- what is decoded is encoded to the value that the input schema accepted, from which the same is decoded again -/
def ComesBack (accept : Value → Option Outcome) (decode encode : Value → Option (Except CodecError Value)) : Prop :=
  ∀ v w, decode v = some (.ok w) →
    ∃ a, accept v = some (.ok a) ∧ encode w = some (.ok a) ∧ decode a = some (.ok w)

theorem Reversible.comesBack_waiting (h : c.Reversible defs mode) :
    ComesBack (c.input.validate defs ⟨Catalog.english, mode⟩) (c.runAsync defs .decode mode)
      (c.runAsync defs .encode mode) := by
  intro v w hw
  obtain ⟨a, u, ha, hu, hw⟩ := runAsync_eq_ok_iff.1 hw
  have hagain : c.input.validate defs ⟨Catalog.english, mode⟩ a = some (.ok a) := h.input v a ha
  have hundone : c.encode.wait w = .ok a := h.undone v a u w ha hu hw
  refine ⟨a, ha, ?_, ?_⟩
  · exact runAsync_eq_ok_iff.2 ⟨w, a, h.output u w hw, hundone, hagain⟩
  · exact runAsync_eq_ok_iff.2 ⟨a, u, hagain, hu, hw⟩

theorem Reversible.comesBack (h : c.Reversible defs mode) :
    ComesBack (c.input.validate defs ⟨Catalog.english, mode⟩) (c.run defs .decode mode) (c.run defs .encode mode) := by
  intro v w hw
  obtain ⟨hnow, hw⟩ := run_eq_ok_iff.1 hw
  obtain ⟨a, ha, hback, hagain⟩ := h.comesBack_waiting v w hw
  exact ⟨a, ha, run_eq_ok_iff.2 ⟨hnow, hback⟩, run_eq_ok_iff.2 ⟨hnow, hagain⟩⟩

/-- **Decoding comes back.** If both schemas accept their own outputs and encoding undoes decoding, then what is decoded is
encoded to the value that the input schema accepted, and the same is decoded from that again: when the first issue
decides, when all issues are reported, and with conversions that are awaited. -/
theorem decoding_comes_back (defs : Definitions) (c : Codec) :
    (c.Reversible defs .failFast →
      ComesBack (c.input.validate defs ⟨Catalog.english, .failFast⟩) (c.parse defs) (c.encodeValue defs) ∧
      ∀ other, c.SameConversions other →
        ComesBack (c.input.validate defs ⟨Catalog.english, .failFast⟩) (other.parseAsync defs) (other.encodeAsync defs)) ∧
    (c.Reversible defs .collect →
      ComesBack (c.input.validate defs ⟨Catalog.english, .collect⟩) (c.safeParse defs) (c.safeEncode defs)) := by
  refine ⟨fun h => ⟨h.comesBack, fun other hsame v w hw => ?_⟩, fun h => h.comesBack⟩
  -- waiting, the same conversions have the same results
  obtain ⟨a, ha, hback, hagain⟩ :=
    h.comesBack_waiting v w ((hsame.runAsync_eq defs .decode .failFast v).symm.trans hw)
  exact ⟨a, ha, (hsame.runAsync_eq defs .encode .failFast w).trans hback,
    (hsame.runAsync_eq defs .decode .failFast a).trans hagain⟩

/-- texts without the blanks around them, told to the output schema with a note that it drops -/
def label : Codec :=
  .ofConversions (.leaf (.string ⟨[.trim], .empty, false⟩)) (.object (.ofFields [("label", .leaf .any)]))
    (fun v => .ok (.object (Object.ofList [("note", .null), ("label", v)])))
    fun w => match w.get? "label" with
      | some v => .ok v
      | none => .error "no label"

theorem label_reversible (mode : Mode) : label.Reversible [] mode where
  input := by
    have hinput : label.input.Normalizes := by
      refine .intro ?_ nofun
      intro n hn
      exact List.mem_singleton.1 hn
    exact hinput.stableAt (by simp) _
  output := by
    have hfield : (Schema.leaf .any).Normalizes := .intro trivial (by simp [Schema.parts])
    have houtput : label.output.Normalizes := .intro trivial (List.forall_mem_singleton.2 hfield)
    exact houtput.stableAt (by simp) _
  undone := by
    intro v a u w _ hu hw
    cases hu
    have hdropped : label.output.validate [] ⟨Catalog.english, mode⟩
        (.object (Object.ofList [("note", .null), ("label", a)])) =
          some (.ok (.object (Object.ofList [("label", a)]))) :=
      Schema.validate_eq_of_run (n := 0) (by cases mode <;> rfl)
    rw [hdropped] at hw
    cases hw
    rfl

/-- a text with blanks around it comes back without them -/
theorem label_comes_back :
    label.encodeValue [] (.object (Object.ofList [("label", .string "a")])) = some (.ok (.string "a")) ∧
      label.parse [] (.string "a") = some (.ok (.object (Object.ofList [("label", .string "a")]))) := by
  have h := (decoding_comes_back [] label).1 (label_reversible .failFast)
  have hinput : label.input.validate [] ⟨Catalog.english, .failFast⟩ (.string " a ") = some (.ok (.string "a")) :=
    Schema.validate_eq_of_run (n := 0) rfl
  have houtput : label.output.validate [] ⟨Catalog.english, .failFast⟩
      (.object (Object.ofList [("note", .null), ("label", .string "a")])) =
        some (.ok (.object (Object.ofList [("label", .string "a")]))) := Schema.validate_eq_of_run (n := 0) rfl
  have hdecode : label.parse [] (.string " a ") = some (.ok (.object (Object.ofList [("label", .string "a")]))) :=
    run_eq_ok_iff.2 ⟨rfl, runAsync_eq_ok_iff.2 ⟨_, _, hinput, rfl, houtput⟩⟩
  obtain ⟨a, ha, hback, hagain⟩ := h.1 _ _ hdecode
  rw [hinput] at ha
  cases ha
  exact ⟨hback, hagain⟩

end Codec

end ValueSchema
