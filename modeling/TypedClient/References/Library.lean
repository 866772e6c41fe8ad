import TypedClient.Links
import TypedClient.Number.IntegerText
import TypedClient.References.Linked
import TypedClient.References.Percent
import TypedClient.References.Uri
import TypedClient.Text.Split

/-!
# Following links

The target of a link is the address of a document with a pointer into it as its fragment. The pointer
leads from the root of the document by names of fields and positions of items; a position may count from
the end. On the way other links are followed. A link that meets itself stands for its own object, not
for what it leads to. A link that leads to another link stands for what that one stands for; one that
leads to itself, or to nothing, is broken. Links that lead to each other in a circle have no end, which
shows when more of them have been followed than a budget allows.

A document has to be linked as a whole before anything in it can be found. So a link that is followed
while its document is being linked is broken when it needs that document, directly or through others.
-/

namespace TypedClient.References

/-- A document with its links, and its address. -/
structure Linked where
  address : String
  root : Value

/-- The documents that links can lead to: the one that was loaded first, if it has an address that links
can lead to, and by their addresses the contents of the others. -/
structure Library where
  first? : Option Linked := none
  content? : String → Option Value

/-- The steps of a pointer. Slashes in front of it do not count. -/
def pointerSteps (pointer : List Char) : List String :=
  if pointer.isEmpty then []
  else
    (Text.split '/' (decode (pointer.dropWhile (· == '/')))).map fun step =>
      String.ofList
        (Text.replaceSeq ['~', '0'] ['~'] (Text.replaceSeq ['~', '1'] ['/'] step))

/-- The item at a position, counted from the end when it is negative. -/
def itemAt? {α : Type} (items : List α) (position : Int) : Option α :=
  let position := if position < 0 then position + items.length else position
  if position < 0 then none else items[position.toNat]?

/-- What a step of a pointer leads to inside a value. -/
def stepInto (v : Value) (step : String) : Except Fault Value :=
  let found := match v with
    | .object fields => Fields.get? fields step
    | .list items => (Number.readInteger? step).bind (itemAt? items)
    | .str s =>
      ((Number.readInteger? step).bind (itemAt? s.toList)).map fun c => .str (String.singleton c)
    | _ => none
  match found with
  | some v => .ok v
  | none => .error .brokenReference

/-- Goes along the steps of a pointer; `inside` gives what is inside a value. -/
def walk (inside : Value → Except Fault Value) : Value → List String → Except Fault Value
  | v, [] => .ok v
  | v, step :: rest => do walk inside (← stepInto (← inside v) step) rest

/-- What an address must be to go on with it. -/
def addressed {α : Type} (found : Option α) : Except Fault α :=
  match found with
  | some a => .ok a
  | none => .error .invalidAddress

namespace Library

variable (library : Library)

/-- The document at an address with its links, unless it is being linked: `around` are the addresses of
the documents that are. -/
def document (follow : List String → Follow) (around : List String) (address : String) :
    Except Fault Value := do
  let spelling ← addressed (Uri.spelling? address)
  if around.contains spelling then throw .brokenReference
  match library.first?.filter fun first => Uri.spelling? first.address = some spelling with
  | some first => return first.root
  | none =>
    match library.content? address with
    | some content => linked (follow (spelling :: around)) address [] content
    | none => throw .brokenReference

/-- The value that a link stands for, found while the documents `around` are being linked. A link into
the document that it stands in does not leave it. -/
def follow : Nat → List String → Place → String → Except Fault Value
  | 0, _, _, _ => .error .endlessReference
  | budget + 1, around, place, target => do
    let target ← addressed (Uri.resolve? place.document target)
    let (address, pointer) ← addressed (Uri.splitFragment? target)
    let stays := Uri.spelling? address = Uri.spelling? place.document
    let root ← library.document (follow budget) around (if stays then place.document else address)
    let inside : Value → Except Fault Value
      | .link other target fields =>
        if other = place then .ok (.object fields) else follow budget around other target
      | v => .ok v
    match ← walk inside root (pointerSteps pointer) with
    | .link other target _ =>
      if other = place then .error .brokenReference else follow budget around other target
    | v => return v

/-- The links of the documents, followed up to a budget. -/
def links (budget : Nat) : Links where
  follow place target _ := library.follow budget [] place target
  budget := budget

end Library

end TypedClient.References
