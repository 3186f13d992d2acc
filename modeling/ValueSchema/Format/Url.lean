import ValueSchema.Format.Host
import ValueSchema.Text.Blank

/-!
Absolute URLs.

A scheme decides how the rest is read. The schemes of the web need a host behind any number of slashes and take backslashes
for slashes; files may have a host; any other scheme has one only behind two slashes. What follows the host always reads.
-/

namespace ValueSchema.Format

open Text

inductive SchemeKind where
  | web
  | file
  | other
  deriving DecidableEq

def SchemeKind.ofName (name : List Char) : SchemeKind :=
  if ["http", "https", "ws", "wss", "ftp"].contains (String.ofList name) then .web
  else if name = "file".toList then .file
  else .other

def isSchemeChar (c : Char) : Bool := c.isAlphanum || c = '+' || c = '-' || c = '.'

/-- a scheme in lower case and what stands behind its colon -/
def readScheme? (cs : List Char) : Option (List Char × List Char) :=
  match cs, cs.dropWhile isSchemeChar with
  | c :: _, ':' :: rest => if c.isAlpha then some ((cs.takeWhile isSchemeChar).map Char.toLower, rest) else none
  | _, _ => none

/-- slashes, and for some schemes backslashes -/
def isSlash (kind : SchemeKind) (c : Char) : Bool := c = '/' || kind != .other && c = '\\'

/-- signs that end the authority -/
def endsAuthority (kind : SchemeKind) (c : Char) : Bool := isSlash kind c || c = '?' || c = '#'

/-- the host at the start of a text: up to a colon outside of brackets -/
def spanHost (inBrackets : Bool) : List Char → List Char × List Char
  | [] => ([], [])
  | c :: rest =>
    if c = ':' && !inBrackets then ([], c :: rest)
    else
      let r := spanHost (if c = '[' then true else if c = ']' then false else inBrackets) rest
      (c :: r.1, r.2)

/-- digits of a number below 65536, none for the usual one; what follows them ends the authority -/
def isPortNumber (cs : List Char) : Bool :=
  let (digits, rest) := spanDigits cs
  Nat.ofDigitChars 10 digits 0 < 65536 && (rest = [] || rest.head? = some '\\')

/-- what stands before the last at sign and after it -/
def splitUser (cs : List Char) : Option (List Char) × List Char :=
  let host := (cs.reverse.takeWhile (· ≠ '@')).reverse
  if host.length = cs.length then (none, cs) else (some (cs.take (cs.length - host.length - 1)), host)

/-- user, host and a number behind a colon; neither a user nor a colon goes without a host -/
def isAuthority (kind : SchemeKind) (authority : List Char) (isFollowed : Bool) : Bool :=
  let (user, rest) := splitUser authority
  let (host, service) := spanHost false rest
  let isServiceRead := match service with
    | _ :: digits => isPortNumber digits
    | [] => true
  if host = [] then
    kind == .other && service = [] &&
      (match user with
        | none => true
        | some [] => !isFollowed
        | some user => user == [':'])
  else (if kind == .other then isOpaqueHost host else isHost host) && isServiceRead

/-- a file's host, which is not missing if it is a letter of a drive -/
def isFileHost (host : List Char) : Bool :=
  match host with
  | [] => true
  | [letter, sign] => letter.isAlpha && (sign = ':' || sign = '|') || isHost host
  | _ => isHost host

/-- the part of a URL behind the colon of its scheme -/
def isSchemeSpecific (kind : SchemeKind) (cs : List Char) : Bool :=
  let authority (cs : List Char) : Bool :=
    let rest := cs.dropWhile (!endsAuthority kind ·)
    isAuthority kind (cs.takeWhile (!endsAuthority kind ·)) (rest ≠ [])
  match kind with
  | .web => authority (cs.dropWhile (isSlash .web))
  | .file =>
    match cs with
    | a :: b :: rest =>
      if isSlash .file a && isSlash .file b then isFileHost (rest.takeWhile (!endsAuthority .file ·)) else true
    | _ => true
  | .other =>
    match dropHead? ['/', '/'] cs with
    | some rest => authority rest
    | none => true

/-- an absolute URL, with controls and blanks around it and line ends and tabs in it ignored -/
def isUrl (cs : List Char) : Bool :=
  let kept := (trimBy (fun c => c.toNat ≤ 32) cs).filter fun c => c ≠ '\t' && c ≠ '\n' && c ≠ '\r'
  (readScheme? kept).any fun (scheme, rest) => isSchemeSpecific (.ofName scheme) rest

end ValueSchema.Format
