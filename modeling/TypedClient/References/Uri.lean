import TypedClient.References.Authority

/-!
# Addresses

The address of a document has a scheme, an authority, a path, parameters of its last segment, a query and
a fragment. A reference in a document is an address in which parts are left out: `resolve?` takes them
from the address of the document. A path that is not given from the root begins in the directory of the
document's path, and points in it lead to the directory itself or to the one above. A text with an
authority that cannot be one is no address.
-/

namespace TypedClient.References

/-- An address by its parts, each empty when it is left out. -/
structure Uri where
  scheme : List Char := []
  authority : List Char := []
  path : List Char := []
  parameters : List Char := []
  query : List Char := []
  fragment : List Char := []
deriving DecidableEq, Repr, Inhabited

namespace Uri

/-- A character of a scheme. -/
def isSchemeChar (c : Char) : Bool := c.isAlphanum || c == '+' || c == '-' || c == '.'

/-- The scheme at the front of an address, in lower case, and what follows it. -/
def splitScheme (cs : List Char) : List Char × List Char :=
  let scheme := cs.takeWhile (· != ':')
  match cs.dropWhile (· != ':') with
  | [] => ([], cs)
  | _ :: rest =>
    if scheme.head?.any Char.isAlpha && scheme.all isSchemeChar then (scheme.map Char.toLower, rest)
    else ([], cs)

/-- The text before a mark, and the text after it. -/
def splitAt (mark : Char) (cs : List Char) : List Char × List Char :=
  (cs.takeWhile (· != mark), (cs.dropWhile (· != mark)).drop 1)

/-- The authority at the front of an address without its scheme, and what follows it. -/
def splitAuthority : List Char → List Char × List Char
  | '/' :: '/' :: rest =>
    let ends (c : Char) : Bool := c == '/' || c == '?' || c == '#'
    (rest.takeWhile (!ends ·), rest.dropWhile (!ends ·))
  | cs => ([], cs)

/-- An address as it is read: control characters and blanks at its front, and tabs and line ends
anywhere, do not count. -/
def cleaned (s : String) : List Char :=
  (s.toList.dropWhile fun c => c.toNat ≤ 0x20).filter fun c => c != '\t' && c != '\r' && c != '\n'

/-- The address that a text states, its parameters left in its path. -/
def ofText? (s : String) : Option Uri :=
  let (scheme, rest) := splitScheme (cleaned s)
  let (authority, rest) := splitAuthority rest
  let (rest, fragment) := splitAt '#' rest
  let (path, query) := splitAt '?' rest
  if isAuthority authority then some { scheme, authority, path, query, fragment } else none

/-- The schemes of addresses that have an authority, even if it is empty. -/
def hierarchical : List String := ["file", "http", "https"]

/-- Whether an address can be relative to another one of the same scheme. -/
def isRelative (scheme : List Char) : Bool :=
  scheme.isEmpty || hierarchical.contains (String.ofList scheme)

/-- Whether addresses of a scheme have parameters. -/
def hasParameters (scheme : List Char) : Bool :=
  scheme.isEmpty || ["http", "https"].contains (String.ofList scheme)

/-- A path and what stands behind the first semicolon of its last segment. -/
def splitParameters (path : List Char) : List Char × List Char :=
  let segment := (path.reverse.takeWhile (· != '/')).reverse
  let above := path.take (path.length - segment.length)
  let (last, parameters) := splitAt ';' segment
  (above ++ last, parameters)

/-- An address with its parameters apart from its path, if its scheme has any. -/
def separated (u : Uri) : Uri :=
  if hasParameters u.scheme then
    let (path, parameters) := splitParameters u.path
    { u with path, parameters }
  else u

/-- A part of an address behind its mark, nothing when it is empty. -/
def marked (mark : Char) (part : List Char) : List Char :=
  if part.isEmpty then [] else mark :: part

/-- The text of an address. -/
def text (u : Uri) : String :=
  let path := u.path ++ marked ';' u.parameters
  let isBare := u.authority.isEmpty
    && !(hierarchical.contains (String.ofList u.scheme) && path.take 2 != ['/', '/'])
  let rooted := if path.isEmpty || path.head? == some '/' then path else '/' :: path
  let place := if isBare then path else '/' :: '/' :: u.authority ++ rooted
  let scheme := if u.scheme.isEmpty then [] else u.scheme ++ [':']
  String.ofList (scheme ++ place ++ marked '?' u.query ++ marked '#' u.fragment)

/-- The segments of a path after each other: two points take the last one away, a single point counts
for nothing. -/
def follow (segments : List (List Char)) : List (List Char) :=
  segments.foldl (fun kept segment =>
    if segment = ['.', '.'] then kept.dropLast
    else if segment = ['.'] then kept
    else kept ++ [segment]) []

/-- The segments of a path without the empty ones inside it. -/
def withoutGaps (segments : List (List Char)) : List (List Char) :=
  match segments with
  | [] => []
  | first :: rest =>
    match rest.getLast? with
    | none => [first]
    | some last => first :: (rest.dropLast.filter (!·.isEmpty) ++ [last])

/-- The path that a path leads to from another. -/
def resolvePath (base path : List Char) : List Char :=
  let segments :=
    if path.head? = some '/' then Text.split '/' path
    else
      let above := Text.split '/' base
      let above := if above.getLast? = some [] then above else above.dropLast
      withoutGaps (above ++ Text.split '/' path)
  let found := follow segments
  let last := segments.getLast?
  let found := if last = some ['.'] ∨ last = some ['.', '.'] then found ++ [[]] else found
  let resolved := ['/'].intercalate found
  if resolved.isEmpty then ['/'] else resolved

/-- An address of the same scheme as that of a document, with the parts that it leaves out. -/
def complete (base u : Uri) : Uri :=
  if !u.authority.isEmpty then u
  else
    let u := { u with authority := base.authority }
    if u.path.isEmpty && u.parameters.isEmpty then
      { u with
        path := base.path
        parameters := base.parameters
        query := if u.query.isEmpty then base.query else u.query }
    else { u with path := resolvePath base.path u.path }

/-- The address that a reference leads to from the document at `base`. A reference with a scheme of its
own is an address already, and so is one in a document whose address has no directories. -/
def resolve? (base reference : String) : Option String := do
  if reference = "" then return base
  let b ← ofText? base
  let u ← ofText? reference
  let u := { u with scheme := if u.scheme.isEmpty then b.scheme else u.scheme }
  if u.scheme = b.scheme ∧ isRelative u.scheme then return (complete b.separated u.separated).text
  return reference

/-- The document that an address leads to, and the fragment. Without a fragment the address is that of
the document as it stands. -/
def splitFragment? (address : String) : Option (String × List Char) := do
  if !address.toList.contains '#' then return (address, [])
  let u := (← ofText? address).separated
  return ({ u with fragment := [] }.text, u.fragment)

/-- The one spelling of an address by which documents are known. -/
def spelling? (address : String) : Option String := (ofText? address).map text

end Uri

end TypedClient.References
