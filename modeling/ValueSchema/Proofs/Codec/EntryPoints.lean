import ValueSchema.Codec
import ValueSchema.Proofs.Modes.EntryPoints

/-!
All entry points of a codec run one pipeline.

A direction of a codec has three stages: the first schema, the conversion, the second schema. `Ends` says at which of them
it ends and with what, apart from the drivers. The driver that waits ends where it says, in both directions; the driver that
does not wait does the same where nothing is awaited, and refuses otherwise. The stage does not depend on how many issues
are asked for; if it fails, the first issue is the same.

Results:
- `runAsync_eq_some_iff`: the driver that waits comes to an end exactly as the stages do.
- `run_eq_runAsync`, `run_of_isAsync`: the driver that does not wait beside it.
- `run_flip`, `runAsync_flip`: with schemas and conversions exchanged, both drivers go the other way.
- `Ends.unique`: there is one stage at which a direction ends.
- `Ends.early`: it ends at the same stage when the first issue decides.
- `codec_entry_points_agree`: what this says of the six entry points.
-/

namespace ValueSchema

/-- of an outcome with all issues, validation that stops at the first one has the outcome cut short -/
theorem Schema.validate_cutShort {defs : Definitions} {catalog : Catalog} {s : Schema} {v : Value} {full : Outcome}
    (h : s.validate defs ⟨catalog, .collect⟩ v = some full) :
    ∃ early, s.validate defs ⟨catalog, .failFast⟩ v = some early ∧ CutShort early full := by
  obtain ⟨n, hn⟩ := validate_eq_some_iff.1 h
  obtain ⟨early, hearly, habridges⟩ := run_abridged ⟨catalog, .failFast⟩ catalog defs n s v full hn
  exact ⟨early, validate_eq_of_run hearly, cutShort_of_abridges habridges⟩

namespace Codec

/-! ## Stages -/

/-- what one direction goes through -/
inductive Stage where
  | source
  | conversion
  | target
  deriving DecidableEq

/-- the stage at which one direction fails, none if it succeeds, and what it ends with: a schema's issues, a single issue
at the root for a conversion, or the value that the second schema made -/
inductive Ends (defs : Definitions) (source target : Schema) (conversion : Value → Except String Value) (mode : Mode)
    (v : Value) : Option Stage → Outcome → Prop
  | refused {issues : List Issue} : source.validate defs ⟨Catalog.english, mode⟩ v = some (.error issues) →
    Ends defs source target conversion mode v (some .source) (.error issues)
  | unconverted {a : Value} {reason : String} : source.validate defs ⟨Catalog.english, mode⟩ v = some (.ok a) →
    conversion a = .error reason → Ends defs source target conversion mode v (some .conversion)
      (.error [{
        code := .transformFailed
        path := []
        message := Catalog.english.render (.transformFailed reason)
        params := Message.params (.transformFailed reason)
        nested := [] }])
  | rejected {a u : Value} {issues : List Issue} : source.validate defs ⟨Catalog.english, mode⟩ v = some (.ok a) →
    conversion a = .ok u → target.validate defs ⟨Catalog.english, mode⟩ u = some (.error issues) →
    Ends defs source target conversion mode v (some .target) (.error issues)
  | converted {a u w : Value} : source.validate defs ⟨Catalog.english, mode⟩ v = some (.ok a) → conversion a = .ok u →
    target.validate defs ⟨Catalog.english, mode⟩ u = some (.ok w) →
    Ends defs source target conversion mode v none (.ok w)

variable {defs : Definitions} {source target : Schema} {conversion : Value → Except String Value} {mode : Mode} {v : Value}

/-- a value goes one way through the stages -/
theorem Ends.unique {stage stage' : Option Stage} {o o' : Outcome} (h : Ends defs source target conversion mode v stage o)
    (h' : Ends defs source target conversion mode v stage' o') : stage = stage' ∧ o = o' := by
  cases h <;> cases h' <;> simp_all

/-- **Fewer issues, the same stage.** Where a direction ends when all issues are reported, it ends when the first one
decides, with the same value or with the first issue. -/
theorem Ends.early {stage : Option Stage} {full : Outcome}
    (h : Ends defs source target conversion .collect v stage full) :
    ∃ early, Ends defs source target conversion .failFast v stage early ∧ CutShort early full := by
  cases h with
  | refused ha =>
    obtain ⟨early, hearly, hshort⟩ := Schema.validate_cutShort ha
    cases hshort with
    | error code path message params nested => exact ⟨_, .refused hearly, .error code path message params nested⟩
  | unconverted ha hu =>
    obtain ⟨early, hearly, hshort⟩ := Schema.validate_cutShort ha
    cases hshort with
    | ok a => exact ⟨_, .unconverted hearly hu, .error rfl rfl rfl rfl le_rfl⟩
  | rejected ha hu hw =>
    obtain ⟨_, hfirst, hshort⟩ := Schema.validate_cutShort ha
    cases hshort
    obtain ⟨early, hearly, hshort⟩ := Schema.validate_cutShort hw
    cases hshort with
    | error code path message params nested => exact ⟨_, .rejected hfirst hu hearly, .error code path message params nested⟩
  | converted ha hu hw =>
    obtain ⟨_, hfirst, hshort⟩ := Schema.validate_cutShort ha
    cases hshort
    obtain ⟨_, hearly, hshort⟩ := Schema.validate_cutShort hw
    cases hshort with
    | ok => exact ⟨_, .converted hfirst hu hearly, .ok _⟩

/-! ## Drivers -/

/-- what validation of a stage gives: issues are the reason to give no value -/
theorem check_eq {s : Schema} {ctx : Context} {o : Outcome} (h : s.validate defs ctx v = some o) :
    check defs s ctx v = some (o.mapError .invalid) := by
  rw [check, h]
  cases o <;> rfl

/-- **The driver that waits, stage by stage**: it comes to an end exactly as the stages of the direction do. -/
theorem runAsync_eq_some_iff {c : Codec} {direction : Direction} {r : Except CodecError Value} :
    c.runAsync defs direction mode v = some r ↔
      ∃ stage o, Ends defs (c.stages direction).1 (c.stages direction).2.2 (c.stages direction).2.1.wait mode v stage o ∧
        r = o.mapError .invalid := by
  rcases hstages : c.stages direction with ⟨source, conversion, target⟩
  simp only [runAsync, hstages]
  constructor
  · intro h
    obtain ⟨checked, hchecked, h⟩ := Option.bind_eq_some_iff.1 h
    obtain ⟨o, ha, -⟩ := Option.map_eq_some_iff.1 hchecked
    obtain rfl : o.mapError .invalid = checked := Option.some.inj ((check_eq ha).symm.trans hchecked)
    cases o with
    | error issues =>
      cases h
      exact ⟨_, _, .refused ha, rfl⟩
    | ok a =>
      cases hu : conversion.wait a with
      | error reason =>
        simp only [Except.mapError, hu] at h
        cases h
        exact ⟨_, _, .unconverted ha hu, rfl⟩
      | ok u =>
        simp only [Except.mapError, hu] at h
        obtain ⟨o, hw, -⟩ := Option.map_eq_some_iff.1 h
        obtain rfl : o.mapError .invalid = r := Option.some.inj ((check_eq hw).symm.trans h)
        cases o with
        | error issues => exact ⟨_, _, .rejected ha hu hw, rfl⟩
        | ok w => exact ⟨_, _, .converted ha hu hw, rfl⟩
  · rintro ⟨stage, o, h, rfl⟩
    cases h with
    | refused ha =>
      rw [check_eq ha]
      rfl
    | unconverted ha hu =>
      simp only [check_eq ha, Except.mapError, Option.bind_some, hu]
      rfl
    | rejected ha hu hw => simp only [check_eq ha, Except.mapError, Option.bind_some, hu, check_eq hw]
    | converted ha hu hw => simp only [check_eq ha, Except.mapError, Option.bind_some, hu, check_eq hw]

/-- the conversion of either direction is awaited exactly if the codec is one that has to wait -/
theorem isAwaited_stages (c : Codec) (direction : Direction) : (c.stages direction).2.1.isAwaited = c.isAsync := by
  have htogether := c.together
  cases direction with
  | decode => rw [isAsync, ← htogether, Bool.or_self, stages]
  | encode => rw [isAsync, htogether, Bool.or_self, stages]

/-- where nothing is awaited, the driver that does not wait goes through the same stages -/
theorem run_eq_runAsync {c : Codec} (h : c.isAsync = false) (defs : Definitions) (direction : Direction) (mode : Mode)
    (v : Value) : c.run defs direction mode v = c.runAsync defs direction mode v := by
  rw [← isAwaited_stages c direction] at h
  rcases hstages : c.stages direction with ⟨source, conversion, target⟩
  rw [hstages] at h
  simp only [run, runAsync, hstages]
  cases conversion with
  | atOnce convert => rfl
  | awaited convert => cases h

/-- it refuses what it would have to wait for, whatever the value -/
theorem run_of_isAsync {c : Codec} (h : c.isAsync = true) (defs : Definitions) (direction : Direction) (mode : Mode)
    (v : Value) : c.run defs direction mode v = some (.error .asyncRequired) := by
  rw [← isAwaited_stages c direction] at h
  rcases hstages : c.stages direction with ⟨source, conversion, target⟩
  rw [hstages] at h
  simp only [run, hstages]
  cases conversion with
  | atOnce convert => cases h
  | awaited convert => rfl

theorem stages_flip (c : Codec) (direction : Direction) : c.flip.stages direction = c.stages direction.other := by
  cases direction <;> rfl

/-- with schemas and conversions exchanged, a driver goes the other way -/
theorem run_flip (defs : Definitions) (c : Codec) (direction : Direction) (mode : Mode) (v : Value) :
    c.flip.run defs direction mode v = c.run defs direction.other mode v := by
  simp only [run, stages_flip]

theorem runAsync_flip (defs : Definitions) (c : Codec) (direction : Direction) (mode : Mode) (v : Value) :
    c.flip.runAsync defs direction mode v = c.runAsync defs direction.other mode v := by
  simp only [runAsync, stages_flip]

/-- the other codec has the same schemas, and its conversions have the same results, there at once or awaited -/
structure SameConversions (c other : Codec) : Prop where
  input : other.input = c.input
  output : other.output = c.output
  decode : ∀ v, other.decode.wait v = c.decode.wait v
  encode : ∀ v, other.encode.wait v = c.encode.wait v

/-- the driver that waits does not tell results that are there at once from results that are awaited -/
theorem SameConversions.runAsync_eq {c other : Codec} (h : c.SameConversions other) (defs : Definitions)
    (direction : Direction) (mode : Mode) (v : Value) :
    other.runAsync defs direction mode v = c.runAsync defs direction mode v := by
  cases direction with
  | decode => simp only [runAsync, stages, h.input, h.output, h.decode]
  | encode => simp only [runAsync, stages, h.input, h.output, h.encode]

/-! ## Entry points -/

/-- where decoding ends: the input schema, the conversion, the output schema -/
abbrev Decodes (defs : Definitions) (c : Codec) : Mode → Value → Option Stage → Outcome → Prop :=
  Ends defs c.input c.output c.decode.wait

/-- where encoding ends: the same from the other side -/
abbrev Encodes (defs : Definitions) (c : Codec) : Mode → Value → Option Stage → Outcome → Prop :=
  Ends defs c.output c.input c.encode.wait

/-- an entry point comes to an end exactly where a direction does, and with the same -/
def EndsAs (entry : Value → Option (Except CodecError Value)) (ends : Value → Option Stage → Outcome → Prop) : Prop :=
  ∀ v r, entry v = some r ↔ ∃ stage o, ends v stage o ∧ r = o.mapError .invalid

/-- whenever the entry point that reports all issues comes to an end, so does the one that stops at the first, at the same
stage: with the first issue, or with the same value, and each of them with a value only if the other one does -/
def Shortens (ends : Mode → Value → Option Stage → Outcome → Prop) (first all : Value → Option (Except CodecError Value)) :
    Prop :=
  ∀ v r, all v = some r →
    (∃ stage early full, first v = some (early.mapError .invalid) ∧ r = full.mapError .invalid ∧
      ends .failFast v stage early ∧ ends .collect v stage full ∧ CutShort early full) ∧
    ∀ w, r = .ok w ↔ first v = some (.ok w)

/-- how the entry points of a codec hang together -/
structure EntryPointsAgree (defs : Definitions) (c : Codec) : Prop where
  /-- waiting makes no difference where nothing has to be awaited -/
  atOnce : c.isAsync = false → ∀ v, c.parseAsync defs v = c.parse defs v ∧ c.encodeAsync defs v = c.encodeValue defs v
  /-- with conversions that have to be awaited, only the entry points that wait look at the value -/
  awaited : c.isAsync = true → ∀ v, c.parse defs v = some (.error .asyncRequired) ∧
    c.safeParse defs v = some (.error .asyncRequired) ∧ c.encodeValue defs v = some (.error .asyncRequired) ∧
    c.safeEncode defs v = some (.error .asyncRequired)
  /-- entry points that wait give the same for the same conversions, awaited or not -/
  either : ∀ other, c.SameConversions other → ∀ v, other.parseAsync defs v = c.parseAsync defs v ∧
    other.encodeAsync defs v = c.encodeAsync defs v
  /-- both are the stages of their directions -/
  decodesAwaiting : EndsAs (c.parseAsync defs) (c.Decodes defs .failFast)
  encodesAwaiting : EndsAs (c.encodeAsync defs) (c.Encodes defs .failFast)
  /-- so are those that do not wait -/
  decodes : c.isAsync = false → EndsAs (c.parse defs) (c.Decodes defs .failFast) ∧
    EndsAs (c.safeParse defs) (c.Decodes defs .collect)
  encodes : c.isAsync = false → EndsAs (c.encodeValue defs) (c.Encodes defs .failFast) ∧
    EndsAs (c.safeEncode defs) (c.Encodes defs .collect)
  /-- a value goes one way through the stages of a direction, and so fails at one of them at most -/
  oneWay : ∀ mode v stage stage' o o',
    (c.Decodes defs mode v stage o → c.Decodes defs mode v stage' o' → stage = stage' ∧ o = o') ∧
    (c.Encodes defs mode v stage o → c.Encodes defs mode v stage' o' → stage = stage' ∧ o = o')
  /-- all issues come from the stage that the first one comes from -/
  decodesShort : c.isAsync = false → Shortens (c.Decodes defs) (c.parse defs) (c.safeParse defs)
  encodesShort : c.isAsync = false → Shortens (c.Encodes defs) (c.encodeValue defs) (c.safeEncode defs)
  /-- encoding is decoding with schemas and conversions exchanged -/
  exchanged : ∀ v, c.encodeValue defs v = c.flip.parse defs v ∧ c.safeEncode defs v = c.flip.safeParse defs v ∧
    c.encodeAsync defs v = c.flip.parseAsync defs v

/-- in both directions, the driver that waits ends as the stages do -/
theorem runAsync_endsAs (defs : Definitions) (c : Codec) (mode : Mode) :
    EndsAs (c.runAsync defs .decode mode) (c.Decodes defs mode) ∧
      EndsAs (c.runAsync defs .encode mode) (c.Encodes defs mode) :=
  ⟨fun _ _ => runAsync_eq_some_iff, fun _ _ => runAsync_eq_some_iff⟩

/-- so does the one that does not wait, where nothing is awaited -/
theorem run_endsAs {c : Codec} (h : c.isAsync = false) (defs : Definitions) (mode : Mode) :
    EndsAs (c.run defs .decode mode) (c.Decodes defs mode) ∧ EndsAs (c.run defs .encode mode) (c.Encodes defs mode) := by
  have hdecode := funext (run_eq_runAsync h defs .decode mode)
  have hencode := funext (run_eq_runAsync h defs .encode mode)
  rw [hdecode, hencode]
  exact runAsync_endsAs defs c mode

/-- entry points that end as the stages do, with the first issue and with all issues, agree -/
theorem EndsAs.shortens {first all : Value → Option (Except CodecError Value)}
    (hfirst : EndsAs first (Ends defs source target conversion .failFast))
    (hall : EndsAs all (Ends defs source target conversion .collect)) :
    Shortens (Ends defs source target conversion) first all := by
  intro v r hr
  obtain ⟨stage, full, hfull, rfl⟩ := (hall v r).1 hr
  obtain ⟨early, hearly, hshort⟩ := hfull.early
  have hv : first v = some (early.mapError .invalid) := (hfirst v _).2 ⟨stage, early, hearly, rfl⟩
  refine ⟨⟨stage, early, full, hv, rfl, hearly, hfull, hshort⟩, fun w => ?_⟩
  rw [hv]
  cases hshort with
  | ok u => simp [Except.mapError]
  | error => simp [Except.mapError]

/-- **The entry points of a codec agree.** Whatever its schemas and conversions, decoding and encoding, at once or waiting,
up to the first issue or with all issues, go through the same three stages. A codec that has to wait refuses what does not
wait, on every value. Encoding is decoding by the codec with its directions exchanged. -/
theorem codec_entry_points_agree (defs : Definitions) (c : Codec) : EntryPointsAgree defs c where
  atOnce h v := ⟨(run_eq_runAsync h defs .decode .failFast v).symm, (run_eq_runAsync h defs .encode .failFast v).symm⟩
  awaited h v := ⟨run_of_isAsync h defs .decode .failFast v, run_of_isAsync h defs .decode .collect v,
    run_of_isAsync h defs .encode .failFast v, run_of_isAsync h defs .encode .collect v⟩
  either _ h v := ⟨h.runAsync_eq defs .decode .failFast v, h.runAsync_eq defs .encode .failFast v⟩
  decodesAwaiting := (runAsync_endsAs defs c .failFast).1
  encodesAwaiting := (runAsync_endsAs defs c .failFast).2
  decodes h := ⟨(run_endsAs h defs .failFast).1, (run_endsAs h defs .collect).1⟩
  encodes h := ⟨(run_endsAs h defs .failFast).2, (run_endsAs h defs .collect).2⟩
  oneWay _ _ _ _ _ _ := ⟨Ends.unique, Ends.unique⟩
  decodesShort h := (run_endsAs h defs .failFast).1.shortens (run_endsAs h defs .collect).1
  encodesShort h := (run_endsAs h defs .failFast).2.shortens (run_endsAs h defs .collect).2
  exchanged v := ⟨(run_flip defs c .decode .failFast v).symm, (run_flip defs c .decode .collect v).symm,
    (runAsync_flip defs c .decode .failFast v).symm⟩

/-- an object of two texts -/
def twoTexts : Schema :=
  .object (.ofFields [("a", .leaf (.string ⟨[], .empty, false⟩)), ("b", .leaf (.string ⟨[], .empty, false⟩))])

/-- two texts, told as they are -/
def pair : Codec := ofConversions twoTexts (.leaf .any) .ok .ok

/-- the same, told later -/
def pairLater : Codec := ofTasks twoTexts (.leaf .any) (fun v => .pure (.ok v)) fun v => .pure (.ok v)

/-- of two texts that are missing, one is reported when the first issue decides, and none if the codec has to wait; waiting,
both codecs report the one -/
theorem missing_texts_reported :
    (∃ early full, pair.parse [] (.object .empty) = some (early.mapError .invalid) ∧
      pair.safeParse [] (.object .empty) = some (full.mapError .invalid) ∧ (Part.issues full).length = 2 ∧
      CutShort early full) ∧
    pairLater.parse [] (.object .empty) = some (.error .asyncRequired) ∧
    pairLater.parseAsync [] (.object .empty) = pair.parse [] (.object .empty) := by
  have h := codec_entry_points_agree [] pair
  have hlater : pair.SameConversions pairLater := ⟨rfl, rfl, fun _ => rfl, fun _ => rfl⟩
  have hall := ((h.decodes rfl).2 (.object .empty) _).2 ⟨_, _, .refused (Schema.validate_eq_of_run (n := 0) rfl), rfl⟩
  refine ⟨?_, ((codec_entry_points_agree [] pairLater).awaited rfl (.object .empty)).1, ?_⟩
  · obtain ⟨⟨stage, early, full, hfirst, hfull, -, -, hshort⟩, -⟩ := h.decodesShort rfl (.object .empty) _ hall
    refine ⟨early, full, hfirst, hall.trans (congrArg some hfull), ?_, hshort⟩
    cases full with
    | ok w => cases hfull
    | error issues =>
      cases hfull
      rfl
  · exact (h.either pairLater hlater (.object .empty)).1.trans (h.atOnce rfl (.object .empty)).1

end Codec

end ValueSchema
