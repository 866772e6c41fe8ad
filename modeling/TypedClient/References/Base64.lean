/-!
# Base64

Four characters of a 64-letter alphabet spell three bytes, six bits each; equals signs fill the last
group. `decode?` reads what such characters spell and passes over all others. It stops where signs fill
a group that has begun, and fails on a group that is neither whole nor filled.
-/

namespace TypedClient.References.Base64

/-- The six bits that a character spells. -/
def value? (b : UInt8) : Option Nat :=
  let n := b.toNat
  if 'A'.toNat ≤ n ∧ n ≤ 'Z'.toNat then some (n - 'A'.toNat)
  else if 'a'.toNat ≤ n ∧ n ≤ 'z'.toNat then some (n - 'a'.toNat + 26)
  else if '0'.toNat ≤ n ∧ n ≤ '9'.toNat then some (n - '0'.toNat + 52)
  else if n = '+'.toNat then some 62
  else if n = '/'.toNat then some 63
  else none

/-- The bytes that a row of six-bit values spells; bits that fill no byte are left out. -/
def bytes : List Nat → List UInt8
  | a :: b :: c :: d :: rest =>
    .ofNat (a * 4 + b / 16) :: .ofNat (b % 16 * 16 + c / 4) :: .ofNat (c % 4 * 64 + d) :: bytes rest
  | [a, b, c] => [.ofNat (a * 4 + b / 16), .ofNat (b % 16 * 16 + c / 4)]
  | [a, b] => [.ofNat (a * 4 + b / 16)]
  | _ => []

/-- The six-bit values up to the end of the last group; `position` is how many the group at hand has and
`signs` how many equals signs follow each other in it. -/
def values? (position signs : Nat) : List UInt8 → Option (List Nat)
  | [] => if position = 0 then some [] else none
  | b :: rest =>
    if b.toNat = '='.toNat then
      if 2 ≤ position then
        if 4 ≤ position + signs + 1 then some [] else values? position (signs + 1) rest
      else values? position signs rest
    else
      match value? b with
      | some n => (values? ((position + 1) % 4) 0 rest).map (n :: ·)
      | none => values? position signs rest

/-- The bytes that a text spells. -/
def decode? (text : List UInt8) : Option (List UInt8) := (values? 0 0 text).map bytes

end TypedClient.References.Base64
