import SqlProbe.Url.Host

/-!
# URLs

A URL taken apart. User name, password and path are kept as they are written, so that they still
have to be percent-decoded; the path has its dot segments resolved, and the query is percent-encoded
where it has to be. The schemes that browsers know have stricter rules for hosts and take a
backslash for a slash.
-/

namespace SqlProbe

/-- A URL. -/
structure Url where
  /-- The scheme, in lower case. -/
  scheme : List Char
  username : List Char := []
  password : Option (List Char) := none
  /-- The host; an empty one is none. -/
  host : Option (List Char) := none
  port : Option UInt16 := none
  path : List Char := []
  query : Option (List Char) := none
  deriving DecidableEq, Repr

namespace Url

/-- What rules a scheme follows. -/
inductive SchemeKind where
  | file
  | network
  | other
  deriving DecidableEq, Repr

/-- The rules of a scheme. -/
def kindOf (scheme : List Char) : SchemeKind :=
  match String.ofList scheme with
  | "file" => .file
  | "http" | "https" | "ws" | "wss" | "ftp" => .network
  | _ => .other

/-- A character that separates segments. -/
def SchemeKind.isSlash (kind : SchemeKind) (c : Char) : Bool :=
  c = '/' || (c = '\\' && kind != .other)

/-- A character that ends an authority. -/
def SchemeKind.endsAuthority (kind : SchemeKind) (c : Char) : Bool :=
  kind.isSlash c || c = '?' || c = '#'

/-- The text of a URL without controls and blanks around it and without line breaks and tabs. -/
def clean (cs : List Char) : List Char :=
  let outer (c : Char) : Bool := c.toNat ≤ 0x20
  (((cs.dropWhile outer).reverse.dropWhile outer).reverse).filter fun c =>
    c != '\t' && c != '\n' && c != '\r'

/-- A character behind the first of a scheme. -/
def isSchemeChar (c : Char) : Bool := c.isAlphanum || c = '+' || c = '-' || c = '.'

/-- The scheme in lower case, and the text behind its colon. -/
def cutScheme? (cs : List Char) : Option (List Char × List Char) :=
  match cs.span isSchemeChar with
  | (c :: scheme, ':' :: rest) => if c.isAlpha then some (Text.lower (c :: scheme), rest) else none
  | _ => none

/-- User name and password; a password begins at the first colon and is missing if it is empty. -/
def credentials (userinfo : List Char) : List Char × Option (List Char) :=
  match Text.cutAt? ':' userinfo with
  | some (name, []) => (name, none)
  | some (name, password) => (name, some password)
  | none => (userinfo, none)

/-- The text before the end of the host, and the rest: a colon between brackets belongs to it. -/
def spanHost (kind : SchemeKind) (bracket : Bool) : List Char → List Char × List Char
  | [] => ([], [])
  | c :: cs =>
    if (c = ':' && !bracket) || kind.endsAuthority c then ([], c :: cs)
    else
      let bracket := if c = '[' then true else if c = ']' then false else bracket
      let (host, rest) := spanHost kind bracket cs
      (c :: host, rest)

/-- A character that may follow a port. -/
def endsPort (c : Char) : Bool := c = '/' || c = '\\' || c = '?' || c = '#'

/-- The port at the head of a text, if it has digits, and the rest. -/
def cutPort (cs : List Char) : Except ParseError (Option UInt16 × List Char) :=
  let (digits, rest) := cs.span Char.isDigit
  let n := Nat.ofDigitChars 10 digits 0
  if 65535 < n ∨ !(rest.head?.all endsPort) then .error .invalidPort
  else .ok (if digits = [] then none else some n.toUInt16, rest)

/-- A segment that stands for the one above. -/
def isDoubleDot (segment : List Char) : Bool :=
  ["..", "%2e%2e", "%2e.", ".%2e"].contains (String.ofList (Text.lower segment))

/-- A segment that stands for nothing. -/
def isSingleDot (segment : List Char) : Bool :=
  [".", "%2e"].contains (String.ofList (Text.lower segment))

/-- A letter with a colon or a bar, which no dot segment takes away. -/
def isDriveLetter : List Char → Bool
  | [letter, mark] => letter.isAlpha && (mark = ':' || mark = '|')
  | _ => false

/-- Takes away the last of the segments, which are in reverse order. -/
def shorten : List (List Char) → List (List Char)
  | [] => []
  | segment :: above => if isDriveLetter segment then segment :: above else above

/-- Resolves dot segments behind the given segments, which are in reverse order. -/
def resolve (above : List (List Char)) : List (List Char) → List (List Char)
  | [] => above.reverse
  | segment :: rest =>
    if isDoubleDot segment then
      resolve (if rest = [] then [] :: shorten above else shorten above) rest
    else if isSingleDot segment then resolve (if rest = [] then [] :: above else above) rest
    else resolve (segment :: above) rest

/-- The path that a text writes, which is empty or begins with a slash. -/
def pathOf (kind : SchemeKind) (cs : List Char) : List Char :=
  match cs with
  | [] => []
  | c :: rest =>
    let body := (if kind.isSlash c then rest else cs).map fun c =>
      if kind.isSlash c then '/' else c
    '/' :: ['/'].intercalate (resolve [] (Text.splitAtChar '/' body))

/-- A character that stands for itself in a query. -/
def isQueryChar (c : Char) : Bool :=
  !(isControl c) && c != ' ' && c != '"' && c != '#' && c != '<' && c != '>'

/-- The path and the query of a text that begins behind the authority. -/
def pathAndQuery (kind : SchemeKind) (cs : List Char) : List Char × Option (List Char) :=
  let (path, rest) := cs.span fun c => c != '?' && c != '#'
  let query := match rest with
    | '?' :: rest => some (Text.Percent.encode isQueryChar (rest.takeWhile (· != '#')))
    | _ => none
  (pathOf kind path, query)

/-- The host of a text, by the rules of its scheme. -/
def hostOf (kind : SchemeKind) (cs : List Char) : Except ParseError (List Char) :=
  match kind with
  | .other => opaqueHost cs
  | .network => domainHost cs
  | .file => if cs = [] ∨ isDriveLetter cs then .ok [] else domainHost cs

/-- The URL with a text behind its two slashes. -/
def parseAuthority (scheme : List Char) (cs : List Char) : Except ParseError Url := do
  let kind := kindOf scheme
  let authority := cs.takeWhile fun c => !kind.endsAuthority c
  let behind := cs.drop authority.length
  let (userinfo, hostText) ← match Text.cutAtLast? '@' authority with
    | none => pure ([], cs)
    | some ([], host) =>
      if host = [] ∧ behind ≠ [] then throw .emptyHost else pure ([], host ++ behind)
    | some (userinfo, host) => pure (userinfo, host ++ behind)
  let (username, password) := credentials userinfo
  let (host, rest) := spanHost kind false hostText
  let host ← hostOf kind host
  let hasCredentials := username ≠ [] ∨ password.isSome
  if host = [] ∧ (rest.head? = some ':' ∨ kind = .network) then throw .emptyHost
  let (port, rest) ← match rest with
    | ':' :: rest => cutPort rest
    | rest => pure (none, rest)
  if host = [] ∧ hasCredentials then throw .emptyHost
  let (path, query) := pathAndQuery kind rest
  pure {
    scheme, username, password
    host := if host = [] then none else some host
    port, path, query }

/-- The URL that a text writes. -/
def parse (text : List Char) : Except ParseError Url :=
  match cutScheme? (clean text) with
  | none => .error .noScheme
  | some (scheme, rest) =>
    match kindOf scheme with
    | .network => parseAuthority scheme (rest.dropWhile (SchemeKind.network.isSlash ·))
    | .file =>
      match rest with
      | a :: b :: rest =>
        if SchemeKind.file.isSlash a && SchemeKind.file.isSlash b then parseFile rest
        else .ok { scheme }
      | _ => .ok { scheme }
    | .other =>
      match rest with
      | '/' :: '/' :: rest => parseAuthority scheme rest
      | _ =>
        let (path, query) := pathAndQuery .other rest
        .ok { scheme, path, query }
where
  /-- The URL of a file with a text behind its two slashes; it has neither credentials nor port. -/
  parseFile (cs : List Char) : Except ParseError Url := do
    let host := cs.takeWhile fun c => !SchemeKind.file.endsAuthority c
    let (path, query) := pathAndQuery .file (cs.drop host.length)
    let host ← hostOf .file host
    pure {
      scheme := ['f', 'i', 'l', 'e']
      host := if host = [] then none else some host
      path, query }

end Url

end SqlProbe
