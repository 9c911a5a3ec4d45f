import TenantReports.Net.Host

/-!
# Web addresses

`Url.ofText?` reads addresses of the schemes `http`, `https` and `file` as browsers do: blanks
around the text, and tabs and line ends in it, mean nothing, letters of the scheme and the host may
have any case, backslashes count as slashes, and `.` and `..` are taken out of the path.
`WebUrl.text` is what a request is sent to.
-/

namespace TenantReports.Net

/-- An address of the schemes `http` and `https`. -/
structure WebUrl where
  /-- The scheme is `https`. -/
  secure : Bool
  /-- The name and password of a user, as they stand in the text. -/
  user : String
  password : String
  host : Host
  /-- The port, if it is not the scheme's own. -/
  port : Option Nat
  /-- The segments of the path. -/
  path : List String
  query : Option String
  deriving DecidableEq, Inhabited

/-- An address; of a `file` address only that it is one. -/
inductive Url
  | web (url : WebUrl)
  | file
  deriving DecidableEq, Inhabited

/-! ### Writing -/

namespace WebUrl

/-- The text of the scheme. -/
def schemeText (url : WebUrl) : String :=
  if url.secure then "https" else "http"

/-- The host, and the port if it is not the scheme's own. -/
def authority (url : WebUrl) : String :=
  url.host.text ++ (url.port.map fun port => ":" ++ Number.decimal port).getD ""

/-- The path and the query. -/
def target (url : WebUrl) : String :=
  String.join (url.path.map ("/" ++ ·)) ++ (url.query.map ("?" ++ ·)).getD ""

/-- The text of what a request is sent to. -/
def text (url : WebUrl) : String :=
  url.schemeText ++ "://" ++ url.authority ++ url.target

/-- The address with one more name and value in its query. -/
def withPair (url : WebUrl) (name value : String) : WebUrl :=
  let pair := Percent.formText name ++ "=" ++ Percent.formText value
  let before := (url.query.getD "")
  { url with query := some (if before.isEmpty then pair else before ++ "&" ++ pair) }

end WebUrl

/-! ### Reading -/

/-- Whether a character at the ends of a text means nothing. -/
def isUrlBlank (c : Char) : Bool :=
  c.toNat ≤ 0x20

/-- The characters of a text that mean something. -/
def urlChars (s : List Char) : List Char :=
  let body := ((s.dropWhile isUrlBlank).reverse.dropWhile isUrlBlank).reverse
  body.filter fun c => !(c == '\t' || c == '\n' || c == '\r')

/-- Whether a character separates the parts of a path. -/
def isSlash (c : Char) : Bool :=
  c == '/' || c == '\\'

/-- Whether a character ends the part of an address that names the host. -/
def endsAuthority (c : Char) : Bool :=
  isSlash c || c == '?' || c == '#'

/-- The scheme in small letters, and what follows its colon. -/
def scheme? (s : List Char) : Option (String × List Char) :=
  let letters := s.takeWhile fun c => c.isAlphanum || c == '+' || c == '-' || c == '.'
  match letters, s.drop letters.length with
  | first :: _, ':' :: rest =>
    if first.isAlpha then some (String.ofList (letters.map Char.toLower), rest) else none
  | _, _ => none

/-- Whether a segment of a path means the one that holds it. -/
def isDotSegment (segment : List Char) : Bool :=
  [".", "%2e"].contains (String.ofList (segment.map Char.toLower))

/-- Whether a segment of a path means the one above. -/
def isUpSegment (segment : List Char) : Bool :=
  ["..", ".%2e", "%2e.", "%2e%2e"].contains (String.ofList (segment.map Char.toLower))

/-- The segments of a path after those that are already kept. -/
def resolveSegments : List String → List (List Char) → List String
  | kept, [] => kept
  | kept, segment :: rest =>
    let end? := if rest.isEmpty then [""] else []
    if isUpSegment segment then resolveSegments (kept.dropLast ++ end?) rest
    else if isDotSegment segment then resolveSegments (kept ++ end?) rest
    else resolveSegments (kept ++ [String.ofList (Percent.encode Percent.pathSet segment)]) rest

/-- The path and the query of a text that starts where the host ends; `slash` tells what separates
segments, and `set` what is encoded in the query. -/
def pathAndQuery (slash set : Char → Bool) (s : List Char) : List String × Option String :=
  let path := s.takeWhile fun c => c != '?' && c != '#'
  let body := match path with
    | c :: rest => if slash c then rest else c :: rest
    | [] => []
  let query := match s.drop path.length with
    | '?' :: rest => some (String.ofList (Percent.encode set (rest.takeWhile (· != '#'))))
    | _ => none
  (resolveSegments [] (Text.splitWhen slash body), query)

/-- The name and the password of a user. -/
def userInfo (s : List Char) : String × String :=
  let name := s.takeWhile (· != ':')
  (String.ofList (Percent.encode Percent.userSet name),
    String.ofList (Percent.encode Percent.userSet ((s.drop name.length).drop 1)))

/-- What stands before the last at sign, if there is one, and after it. -/
def splitUser (s : List Char) : Option (List Char) × List Char :=
  let host := (s.reverse.takeWhile (· != '@')).reverse
  if host.length = s.length then (none, s) else (some (s.take (s.length - host.length - 1)), host)

/-- The length of the host at the start of a text: up to a colon that is not between brackets. -/
def hostLength : Bool → List Char → Nat
  | _, [] => 0
  | inside, c :: rest =>
    if c == ':' && !inside then 0
    else 1 + hostLength (c == '[' || (inside && c != ']')) rest

/-- A port after its colon; none of it if it is the scheme's own or missing. -/
def portOf? (own : Option Nat) : List Char → Option (Option Nat)
  | [] => some none
  | ':' :: ds =>
    if ds.isEmpty then some none
    else
      match Number.natural? ds with
      | some n => if 65536 ≤ n then none else some (if own = some n then none else some n)
      | none => none
  | _ => none

/-- A web address after the slashes that follow its scheme, whose own port is given. -/
def webUrl? (secure : Bool) (own : Nat) (s : List Char) : Option WebUrl := do
  let before := s.takeWhile (!endsAuthority ·)
  let (user?, hostAndPort) := splitUser before
  let (user, password) := userInfo (user?.getD [])
  let hostText := hostAndPort.take (hostLength false hostAndPort)
  let host ← if hostText.isEmpty then none else Host.ofText? hostText
  let port ← portOf? (some own) (hostAndPort.drop hostText.length)
  let (path, query) := pathAndQuery isSlash Percent.webQuerySet (s.drop before.length)
  return ⟨secure, user, password, host, port, path, query⟩

/-- Whether a text is a letter and a colon or bar. -/
def isDrive : List Char → Bool
  | [letter, mark] => letter.isAlpha && (mark == ':' || mark == '|')
  | _ => false

/-- Whether a `file` address is one, after its colon. -/
def isFileUrl : List Char → Bool
  | a :: b :: rest =>
    if isSlash a && isSlash b then
      let host := rest.takeWhile (!endsAuthority ·)
      host.isEmpty || isDrive host || (Host.ofText? host).isSome
    else true
  | _ => true

/-- The address that a text stands for. -/
def Url.ofText? (s : String) : Option Url := do
  let (scheme, rest) ← scheme? (urlChars s.toList)
  match scheme with
  | "http" => (webUrl? false 80 (rest.dropWhile isSlash)).map .web
  | "https" => (webUrl? true 443 (rest.dropWhile isSlash)).map .web
  | "file" => if isFileUrl rest then some .file else none
  | _ => none

end TenantReports.Net
