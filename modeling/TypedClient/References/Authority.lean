import TypedClient.Text.Digit
import TypedClient.Text.Ranges
import TypedClient.Text.Split

/-!
# The authority of an address

An authority names the host that has a document. A host in brackets is an IPv6 address or, behind the
letter `v`, an address of a version to come; an IPv6 address has eight groups of hexadecimal digits, of
which two colons in a row leave out some zeros, and its last two groups may be written as an IPv4 address.
An authority must not have a character either that stands for one of the marks by which addresses are
taken apart, such as a full-width slash.
-/

namespace TypedClient.References

/-- A hexadecimal digit. -/
def isHexDigit (c : Char) : Bool := (Text.hexValue? c).isSome

/-- A group of an IPv6 address: one to four hexadecimal digits. -/
def isGroup (cs : List Char) : Bool := !cs.isEmpty && cs.length ≤ 4 && cs.all isHexDigit

/-- A byte of an IPv4 address: a number up to 255 without zeros in front. -/
def isOctet (cs : List Char) : Bool :=
  !cs.isEmpty && cs.length ≤ 3 && cs.all Char.isDigit && (cs == ['0'] || cs.head? != some '0')
    && cs.foldl (fun n c => 10 * n + (c.toNat - '0'.toNat)) 0 ≤ 255

/-- An IPv4 address: four bytes between points. -/
def isIPv4 (cs : List Char) : Bool :=
  let octets := Text.split '.' cs
  octets.length == 4 && octets.all isOctet

/-- How many groups a part of an IPv6 address has, none when it is not one. An IPv4 address at its end
counts as two. -/
def groupCount? (isLast : Bool) (cs : List Char) : Option Nat :=
  if cs.isEmpty then some 0
  else
    let groups := Text.split ':' cs
    match groups.getLast? with
    | some last =>
      if isLast && isIPv4 last && groups.dropLast.all isGroup then some (groups.length + 1)
      else if groups.all isGroup then some groups.length
      else none
    | none => none

/-- Whether an IPv6 address has all groups, or leaves out some at one place. -/
def hasAllGroups (cs : List Char) : Bool :=
  match Text.splitSeq [':', ':'] cs with
  | [whole] => groupCount? true whole == some 8
  | [front, back] =>
    match groupCount? false front, groupCount? true back with
    | some n, some m => n + m < 8
    | _, _ => false
  | _ => false

/-- An IPv6 address, with the name of its zone behind a percent sign if it has one. -/
def isIPv6 (cs : List Char) : Bool :=
  match cs.dropWhile (· != '%') with
  | [] => hasAllGroups cs
  | _ :: zone => !zone.isEmpty && !zone.contains '%' && hasAllGroups (cs.takeWhile (· != '%'))

/-- An address of a version to come: its number, a point and something behind. -/
def isLaterAddress : List Char → Bool
  | 'v' :: rest =>
    !(rest.takeWhile isHexDigit).isEmpty
      && match rest.dropWhile isHexDigit with
        | '.' :: name => !name.isEmpty
        | _ => false
  | _ => false

/-- What may stand between the brackets of an authority. -/
def isBracketedHost (cs : List Char) : Bool :=
  if cs.head? == some 'v' then isLaterAddress cs else isIPv6 cs

/-- Whether the brackets of an authority belong together and hold a host. -/
def hasSoundBrackets (cs : List Char) : Bool :=
  if cs.contains '[' && cs.contains ']' then
    isBracketedHost (((cs.dropWhile (· != '[')).drop 1).takeWhile (· != ']'))
  else !(cs.contains '[' || cs.contains ']')

/-- The characters from 128 on that stand for a slash, a question mark, a number sign, an at sign or a
colon, on its own or among others. -/
def hiddenMarkRanges : Text.Ranges :=
  [(0x2047, 0x2049), (0x2100, 0x2101), (0x2105, 0x2106), (0x2A74, 0x2A74), (0xFE13, 0xFE13),
   (0xFE16, 0xFE16), (0xFE55, 0xFE56), (0xFE5F, 0xFE5F), (0xFE6B, 0xFE6B), (0xFF03, 0xFF03),
   (0xFF0F, 0xFF0F), (0xFF1A, 0xFF1A), (0xFF1F, 0xFF20)]

/-- Whether an authority can stand in an address. -/
def isAuthority (cs : List Char) : Bool :=
  hasSoundBrackets cs && cs.all fun c => !hiddenMarkRanges.has c.toNat

end TypedClient.References
