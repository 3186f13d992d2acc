import Mathlib.Data.List.DropRight
import Mathlib.Data.List.TakeWhile
import ValueSchema.Proofs.Leaf.Reading

/-!
Leaves are stable: what a leaf makes of a value, it accepts as it is.

A converted value is of the leaf's own kind, and the checks have seen the output, not the input. A text is trimmed only
once, since trimming twice is trimming; changes of case are another matter, and are left out.

Results:
- `trimBy_trimBy`: trimming twice is trimming.
- `Leaf.stable`: stability of every leaf whose normalisers only trim.
-/

namespace ValueSchema

/-! ## Trimming -/

namespace Text

theorem dropStart_dropEnd {p : Char → Bool} {cs : List Char} (h : dropStart p cs = cs) :
    dropStart p (dropEnd p cs) = dropEnd p cs := by
  have hprefix : dropEnd p cs <+: cs := List.rdropWhile_prefix p cs
  unfold dropStart at h ⊢
  rw [List.dropWhile_eq_self_iff] at h ⊢
  intro hlen
  obtain ⟨rest, hrest⟩ := hprefix
  have hlen' : 0 < cs.length := by
    rw [← hrest, List.length_append]
    omega
  -- the first character is the same with and without the end
  have hfirst : (dropEnd p cs)[0] = cs[0] := by
    conv_rhs => rw [List.getElem_of_eq hrest.symm hlen']
    rw [List.getElem_append_left hlen]
  rw [hfirst]
  exact h hlen'

theorem trimBy_trimBy (p : Char → Bool) (cs : List Char) : trimBy p (trimBy p cs) = trimBy p cs := by
  have hstart : dropStart p (dropStart p cs) = dropStart p cs := List.dropWhile_idempotent p cs
  unfold trimBy
  rw [dropStart_dropEnd hstart]
  exact List.rdropWhile_idempotent p _

end Text

theorem Normalizer.trim_trim (s : String) : Normalizer.trim.apply (Normalizer.trim.apply s) = Normalizer.trim.apply s := by
  simp only [Normalizer.apply, Text.trim, String.toList_ofList, Text.trimBy_trimBy]

namespace TextSchema

/-- normalisers that only trim leave a trimmed text as it is -/
theorem foldl_trim {ns : List Normalizer} (h : ∀ n ∈ ns, n = .trim) {s : String} (hs : Normalizer.trim.apply s = s) :
    ns.foldl (fun t n => n.apply t) s = s := by
  induction ns with
  | nil => rfl
  | cons n ns ih =>
    rw [List.foldl_cons, h n List.mem_cons_self, hs]
    exact ih fun m hm => h m (List.mem_cons_of_mem _ hm)

theorem normalized_normalized {s : TextSchema} (h : ∀ n ∈ s.normalizers, n = .trim) (text : String) :
    s.normalized (s.normalized text) = s.normalized text := by
  unfold normalized
  cases hn : s.normalizers with
  | nil => rfl
  | cons n ns =>
    rw [hn] at h
    have hrest : ∀ m ∈ ns, m = .trim := fun m hm => h m (List.mem_cons_of_mem _ hm)
    have htrimmed : (n :: ns).foldl (fun t n => n.apply t) text = Normalizer.trim.apply text := by
      rw [List.foldl_cons, h n List.mem_cons_self]
      exact foldl_trim hrest (Normalizer.trim_trim text)
    rw [htrimmed]
    exact foldl_trim h (Normalizer.trim_trim text)

end TextSchema

/-! ## Leaves -/

theorem Checks.run_eq_ok_iff {κ α : Type} {c : Checks κ} {failure : κ → α → Option Message} {ctx : Context} {a : α}
    {output w : Value} : c.run failure ctx a output = .ok w ↔ c.firstIssue failure ctx a = none ∧ output = w := by
  unfold run
  cases c.firstIssue failure ctx a <;> simp

theorem TextSchema.stable {s : TextSchema} (h : ∀ n ∈ s.normalizers, n = .trim) {ctx : Context} {v w : Value}
    (hv : s.validate ctx v = .ok w) : s.validate ctx w = .ok w := by
  rw [validate_eq] at hv
  cases hread : readAs Value.text? Value.toText? "string" s.coerced v with
  | error m =>
    rw [hread] at hv
    cases hv
  | ok text =>
    rw [hread] at hv
    obtain ⟨-, rfl⟩ := Checks.run_eq_ok_iff.1 hv
    simp only [validate, normalized_normalized h]
    exact hv

theorem NumberSchema.stable {s : NumberSchema} {ctx : Context} {v w : Value} (hv : s.validate ctx v = .ok w) :
    s.validate ctx w = .ok w := by
  rw [validate_eq] at hv
  cases hread : readAs Value.number? Value.toNumber? "number" s.coerced v with
  | error m =>
    rw [hread] at hv
    cases hv
  | ok n =>
    rw [hread] at hv
    have hw : .number n = w := by
      simp only at hv
      split_ifs at hv
      · cases hv
      · exact (Checks.run_eq_ok_iff.1 hv).2
    subst hw
    exact hv

theorem BigIntSchema.stable {s : BigIntSchema} {ctx : Context} {v w : Value} (hv : s.validate ctx v = .ok w) :
    s.validate ctx w = .ok w := by
  rw [validate_eq] at hv
  cases hread : readAs Value.bigint? Value.toBigInt? "bigint" s.coerced v with
  | error m =>
    rw [hread] at hv
    cases hv
  | ok n =>
    rw [hread] at hv
    obtain ⟨-, rfl⟩ := Checks.run_eq_ok_iff.1 hv
    exact hv

theorem BooleanSchema.stable {s : BooleanSchema} {ctx : Context} {v w : Value} (hv : s.validate ctx v = .ok w) :
    s.validate ctx w = .ok w := by
  rw [validate_eq] at hv
  cases hread : readAs Value.bool? Value.toBool? "boolean" s.coerced v with
  | error m =>
    rw [hread] at hv
    cases hv
  | ok b =>
    rw [hread] at hv
    cases hv
    rfl

theorem DateSchema.stable {s : DateSchema} {ctx : Context} {v w : Value} (hv : s.validate ctx v = .ok w) :
    s.validate ctx w = .ok w := by
  unfold validate at hv
  cases hread : v.readDate with
  | instant t =>
    rw [hread] at hv
    obtain rfl : .date t = w := (Checks.run_eq_ok_iff.1 hv).2
    exact hv
  | unreadable =>
    rw [hread] at hv
    simp [Context.fail] at hv
  | wrongKind =>
    rw [hread] at hv
    simp only at hv
    split_ifs at hv <;> simp [Context.notConverted, Context.wrongKind, Context.fail] at hv

theorem LiteralSchema.output_eq {s : LiteralSchema} {ctx : Context} {v w : Value} (hv : s.validate ctx v = .ok w) :
    w = v := by
  unfold validate at hv
  split_ifs at hv
  · exact (Except.ok.inj hv).symm
  · simp [Context.fail] at hv

theorem EnumSchema.output_eq {s : EnumSchema} {ctx : Context} {v w : Value} (hv : s.validate ctx v = .ok w) : w = v := by
  unfold validate at hv
  split_ifs at hv
  · exact (Except.ok.inj hv).symm
  · simp [Context.fail] at hv

theorem Leaf.ofKind_output_eq {kind : Kind} {ctx : Context} {v w : Value} (hv : ofKind kind ctx v = .ok w) : w = v := by
  unfold ofKind at hv
  split_ifs at hv
  · exact (Except.ok.inj hv).symm
  · simp [Context.wrongKind, Context.fail] at hv

/-- a leaf that lists its values gives the value it accepts -/
theorem Leaf.output_eq_of_literalValues {l : Leaf} {values : List Value} (hl : l.literalValues? = some values)
    {ctx : Context} {v w : Value} (hv : l.validate ctx v = .ok w) : w = v := by
  cases l with
  | literal s => exact LiteralSchema.output_eq hv
  | enumeration s => exact EnumSchema.output_eq hv
  | _ => cases hl

/-- the normalisers of a text do nothing but trim; any other leaf will do -/
def Leaf.TrimsOnly : Leaf → Prop
  | .string s => ∀ n ∈ s.normalizers, n = .trim
  | _ => True

/-- **Leaves are stable.** -/
theorem Leaf.stable {l : Leaf} (h : l.TrimsOnly) {ctx : Context} {v w : Value} (hv : l.validate ctx v = .ok w) :
    l.validate ctx w = .ok w := by
  -- a leaf that gives the value it accepts accepts what it gives
  have same (heq : w = v) : l.validate ctx w = .ok w := by
    rw [heq] at hv ⊢
    exact hv
  cases l with
  | string s => exact TextSchema.stable h hv
  | number s => exact NumberSchema.stable hv
  | boolean s => exact BooleanSchema.stable hv
  | bigint s => exact BigIntSchema.stable hv
  | date s => exact DateSchema.stable hv
  | literal s => exact same (LiteralSchema.output_eq hv)
  | enumeration s => exact same (EnumSchema.output_eq hv)
  | symbol | null | undefined => exact same (ofKind_output_eq hv)
  | any | unknown => rfl
  | never => simp [validate, Context.wrongKind, Context.fail] at hv

end ValueSchema
