import ValueSchema.Report
import ValueSchema.Schema.Validate

/-!
Codecs: two schemas and the conversions between what they accept.

Decoding validates the input, converts it and validates the result; encoding goes the other way. There are two drivers: one
waits for a conversion that has to be awaited, the other one refuses it before it looks at the value.
-/

namespace ValueSchema

/-- a conversion whose result is there at once, or one whose result is awaited: a value, or the reason why there is none -/
inductive Awaitable where
  | atOnce (convert : Value → Except String Value)
  | awaited (convert : Value → Task (Except String Value))

namespace Awaitable

def isAwaited : Awaitable → Bool
  | .atOnce _ => false
  | .awaited _ => true

/-- the result, waiting for it where that is needed -/
def wait : Awaitable → Value → Except String Value
  | .atOnce convert, v => convert v
  | .awaited convert, v => (convert v).get

end Awaitable

structure Codec where
  input : Schema
  output : Schema
  decode : Awaitable
  encode : Awaitable
  /-- both conversions are awaited, or none is -/
  together : decode.isAwaited = encode.isAwaited

/-- the two ways to use a codec -/
inductive Direction where
  | decode
  | encode
  deriving DecidableEq

def Direction.other : Direction → Direction
  | .decode => .encode
  | .encode => .decode

/-- why a codec gives no value -/
inductive CodecError where
  | invalid (issues : List Issue)
  | asyncRequired

def CodecError.message : CodecError → String
  | .invalid issues => Report.summary issues
  | .asyncRequired => "codec has an async conversion; use parse_async or encode_async"

namespace Codec

/-- the codec of two conversions whose results are there at once -/
def ofConversions (input output : Schema) (decode encode : Value → Except String Value) : Codec :=
  ⟨input, output, .atOnce decode, .atOnce encode, rfl⟩

/-- the codec of two conversions whose results are awaited -/
def ofTasks (input output : Schema) (decode encode : Value → Task (Except String Value)) : Codec :=
  ⟨input, output, .awaited decode, .awaited encode, rfl⟩

/-- whether a conversion has to be awaited -/
def isAsync (c : Codec) : Bool := c.decode.isAwaited || c.encode.isAwaited

/-- the codec with its schemas and its conversions exchanged -/
def flip (c : Codec) : Codec := ⟨c.output, c.input, c.encode, c.decode, c.together.symm⟩

/-- the schema that a direction starts from, its conversion, and the schema that it leads to -/
def stages (c : Codec) : Direction → Schema × Awaitable × Schema
  | .decode => (c.input, c.decode, c.output)
  | .encode => (c.output, c.encode, c.input)

/-- validates, the issues being the reason to give no value -/
def check (defs : Definitions) (s : Schema) (ctx : Context) (v : Value) : Option (Except CodecError Value) :=
  (s.validate defs ctx v).map fun
    | .ok w => .ok w
    | .error issues => .error (.invalid issues)

/-- a conversion that fails is one issue at the root -/
def conversionFailed (ctx : Context) (reason : String) : CodecError :=
  .invalid [ctx.issue (.transformFailed reason) none]

/-- goes through the stages of a direction without waiting -/
def run (defs : Definitions) (c : Codec) (direction : Direction) (mode : Mode) (v : Value) :
    Option (Except CodecError Value) :=
  match c.stages direction with
  | (_, .awaited _, _) => some (.error .asyncRequired)
  | (source, .atOnce convert, target) =>
    let ctx : Context := ⟨Catalog.english, mode⟩
    (check defs source ctx v).bind fun
      | .error e => some (.error e)
      | .ok accepted => match convert accepted with
        | .error reason => some (.error (conversionFailed ctx reason))
        | .ok converted => check defs target ctx converted

/-- goes through the stages of a direction and waits for the conversion -/
def runAsync (defs : Definitions) (c : Codec) (direction : Direction) (mode : Mode) (v : Value) :
    Option (Except CodecError Value) :=
  let (source, conversion, target) := c.stages direction
  let ctx : Context := ⟨Catalog.english, mode⟩
  (check defs source ctx v).bind fun
    | .error e => some (.error e)
    | .ok accepted => match conversion.wait accepted with
      | .error reason => some (.error (conversionFailed ctx reason))
      | .ok converted => check defs target ctx converted

/-- decodes up to the first issue -/
def parse (defs : Definitions) (c : Codec) (v : Value) : Option (Except CodecError Value) :=
  c.run defs .decode .failFast v

/-- decodes and reports every issue of the stage that fails -/
def safeParse (defs : Definitions) (c : Codec) (v : Value) : Option (Except CodecError Value) :=
  c.run defs .decode .collect v

/-- encodes up to the first issue -/
def encodeValue (defs : Definitions) (c : Codec) (v : Value) : Option (Except CodecError Value) :=
  c.run defs .encode .failFast v

/-- encodes and reports every issue of the stage that fails -/
def safeEncode (defs : Definitions) (c : Codec) (v : Value) : Option (Except CodecError Value) :=
  c.run defs .encode .collect v

/-- decodes up to the first issue and waits for the conversion -/
def parseAsync (defs : Definitions) (c : Codec) (v : Value) : Option (Except CodecError Value) :=
  c.runAsync defs .decode .failFast v

/-- encodes up to the first issue and waits for the conversion -/
def encodeAsync (defs : Definitions) (c : Codec) (v : Value) : Option (Except CodecError Value) :=
  c.runAsync defs .encode .failFast v

end Codec

end ValueSchema
