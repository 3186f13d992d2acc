import ValueSchema.Issue
import ValueSchema.Json.Basic

/-!
Reports on issues: a short text, a view for forms, lines for people and JSON.
-/

namespace ValueSchema

/-- messages for forms: those about the whole, and those under each first step of a path -/
structure FlattenedIssues where
  form : List String
  fields : List (String × List String)
  deriving DecidableEq

namespace Report

/-- the message of a single issue, or how many there are -/
def summary : List Issue → String
  | [issue] => issue.message
  | issues => toString issues.length ++ " validation issues"

/-- adds a message under a name, in place or at the end -/
def addMessage (name message : String) : List (String × List String) → List (String × List String)
  | [] => [(name, [message])]
  | entry :: rest =>
    if entry.1 = name then (name, entry.2 ++ [message]) :: rest else entry :: addMessage name message rest

/-- sorts a message under the first step of its path -/
def addIssue (f : FlattenedIssues) (issue : Issue) : FlattenedIssues :=
  match issue.path with
  | [] => { f with form := f.form ++ [issue.message] }
  | segment :: _ => { f with fields := addMessage segment.text issue.message f.fields }

def flatten (issues : List Issue) : FlattenedIssues := issues.foldl addIssue ⟨[], []⟩

def indent (depth : Nat) : String := String.ofList (List.replicate (2 * depth) ' ')

mutual

/-- an issue, its place and the issues inside it, each step in indented by two -/
def lines (depth : Nat) : Issue → String
  | ⟨_, path, message, _, nested⟩ =>
    indent depth ++ "✖ " ++ message ++
      (if path = [] then "" else "\n" ++ indent (depth + 1) ++ "→ at " ++ Path.text path) ++ "\n" ++
      allLines (depth + 1) nested
termination_by structural issue => issue

def allLines (depth : Nat) : List Issue → String
  | [] => ""
  | issue :: rest => lines depth issue ++ allLines depth rest
termination_by structural issues => issues

end

/-- one line for each issue, those inside it below -/
def text (issues : List Issue) : String := allLines 0 issues

def segmentJson : Segment → Json
  | .key name => .string name
  | .index position => .number (.integer position)

/-- details as an object, of a repeated name the last -/
def paramsJson (params : List (String × String)) : Json := Json.ofMembers (params.map fun p => (p.1, .string p.2))

mutual

/-- an issue as an object; details and issues inside it only where there are some -/
def issueJson : Issue → Json
  | ⟨code, path, message, params, nested⟩ =>
    let inner := allJson nested
    Json.ofMembers
      ([("code", .string code.name), ("path", .array (path.map segmentJson)), ("message", .string message)] ++
        (if params = [] then [] else [("params", paramsJson params)]) ++
        (if inner.isEmpty then [] else [("nested", .array inner)]))
termination_by structural issue => issue

def allJson : List Issue → List Json
  | [] => []
  | issue :: rest => issueJson issue :: allJson rest
termination_by structural issues => issues

end

def json (issues : List Issue) : Json := .array (allJson issues)

end Report

end ValueSchema
