import TypedClient.References.Base64
import TypedClient.References.Percent
import TypedClient.Text.Blank

/-!
# Locators

Where the text of a document is to be had. An address of a file gives its path, from the root or from the
working directory; an address of data has the text in itself, behind a comma, as it is or in Base64. Other
addresses lead nowhere: nothing is fetched to follow a reference. Blanks around an address, angle brackets
and the letters `URL:` in front of it do not count.
-/

namespace TypedClient.References

/-- Where the text of a document is to be had. -/
inductive Locator where
  | file (path : List Char)
  | data (bytes : List UInt8)
deriving DecidableEq, Repr

namespace Locator

/-- A text without blanks at its ends. -/
def stripped (cs : List Char) : List Char := Text.stripChars Text.isBlank cs

/-- An address without what may be put around it. -/
def unwrapped (cs : List Char) : List Char :=
  let cs := stripped cs
  let cs :=
    if cs.head? = some '<' ∧ cs.getLast? = some '>' then stripped (cs.drop 1).dropLast else cs
  if "URL:".toList.isPrefixOf cs then stripped (cs.drop 4) else cs

/-- The path of a file behind its scheme: after an empty authority, or given without one. -/
def filePath? : List Char → Option (List Char)
  | '/' :: '/' :: rest => if rest.head? = some '/' then some (decode rest) else none
  | rest => some (decode rest)

/-- The bytes of data behind its scheme. -/
def dataBytes? (rest : List Char) : Option (List UInt8) :=
  match rest.dropWhile (· != ',') with
  | [] => none
  | _ :: text =>
    let media := rest.takeWhile (· != ',')
    let bytes := decodeBytes text
    if ";base64".toList.isSuffixOf media then Base64.decode? bytes else some bytes

/-- Where the document of an address is to be had. -/
def ofAddress? (address : String) : Option Locator :=
  let cs := unwrapped address.toList
  let scheme := cs.takeWhile (· != ':')
  match cs.dropWhile (· != ':') with
  | [] => none
  | _ :: rest =>
    let scheme := String.ofList (scheme.map Char.toLower)
    if scheme = "file" then (filePath? rest).map .file
    else if scheme = "data" then (dataBytes? rest).map .data
    else none

end Locator

end TypedClient.References
