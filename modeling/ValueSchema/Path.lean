/-!
Places inside a value: paths of names and positions.
-/

namespace ValueSchema

/-- one step into a value -/
inductive Segment where
  | key (name : String)
  | index (position : Nat)
  deriving DecidableEq

/-- steps from the root of a value; the empty path is the root -/
abbrev Path := List Segment

def Segment.text : Segment → String
  | .key name => name
  | .index position => toString position

/-- a segment after what is already written: positions in brackets, names after a dot unless nothing stands before them -/
def Segment.follow (written : List Char) : Segment → List Char
  | .key name => if written = [] then name.toList else written ++ '.' :: name.toList
  | .index position => written ++ '[' :: (Nat.toDigits 10 position ++ [']'])

/-- a path as `user.tags[0]` -/
def Path.text (path : Path) : String := String.ofList (path.foldl Segment.follow [])

end ValueSchema
