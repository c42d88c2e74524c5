import DeviceRegistry.Json.Form
/-!
# Tagged unions

A value that is one of several structures says which by a tag.

With the tag beside it, the value is an object with the tag and the structure as two
members. Where the structure comes first it is put aside and read once the tag is
known. Such a value may also be an array of the two, with a text for the tag.

With the tag among its fields, all other members are put aside until the object ends.
Such a value may also be an array that begins with the tag.
-/

namespace DeviceRegistry.Json

/-- How the structure with a tag is read, if there is one. -/
abbrev Variants (α : Type) := String → Option (Outline → Except Fault α)

/-- The reader that the member with the tag selects: a text, or the only name of an object. -/
def Variants.select {α : Type} (variants : Variants α) :
    Outline → Except Fault (Outline → Except Fault α)
  | .text (some tag) | .object [(some tag, .null)] true =>
    match variants tag with
    | some reader => .ok reader
    | none => .error .malformed
  | _ => .error .malformed

/-- The reader that a plain tag selects. -/
def Variants.selectText {α : Type} (variants : Variants α) :
    Outline → Except Fault (Outline → Except Fault α)
  | .text (some tag) =>
    match variants tag with
    | some reader => .ok reader
    | none => .error .malformed
  | _ => .error .malformed

/-- How much of a value with its tag beside it was read. -/
inductive Beside (α : Type) where
  | nothing
  /-- The tag came first. -/
  | selected (reader : Outline → Except Fault α)
  /-- The structure came first and waits for the tag. -/
  | waiting (outline : Outline)
  | whole (value : α)

/-- Takes a member of an object that holds a tag and a structure. -/
def Beside.take {α : Type} (variants : Variants α) (tagName contentName : String)
    (progress : Beside α) (name : String) (outline : Outline) : Except Fault (Beside α) :=
  if name = tagName then
    match progress with
    | .nothing => (variants.select outline).map .selected
    | .waiting content => do
      let reader ← variants.select outline
      let value ← reader content
      return .whole value
    | _ => .error .malformed
  else if name = contentName then
    match progress with
    | .nothing => if outline.canWait then .ok (.waiting outline) else .error .malformed
    | .selected reader => (reader outline).map .whole
    | _ => .error .malformed
  else .ok progress

def Beside.takeAll {α : Type} (variants : Variants α) (tagName contentName : String) :
    Beside α → List (Option String × Outline) → Except Fault (Beside α)
  | progress, [] => .ok progress
  | _, (none, _) :: _ => .error .malformed
  | progress, (some name, outline) :: members => do
    let progress ← progress.take variants tagName contentName name outline
    takeAll variants tagName contentName progress members

def Variants.ofOutlineBeside {α : Type} (variants : Variants α) (tagName contentName : String) :
    Outline → Except Fault α
  | .object members closed => do
    match ← Beside.takeAll variants tagName contentName .nothing members, closed with
    | .whole value, true => return value
    | _, _ => throw .malformed
  | .array (tag :: content :: excess) closed => do
    let reader ← variants.selectText tag
    let value ← reader content
    if excess.isEmpty && closed then return value else throw .malformed
  | _ => .error .malformed

def isTag (tagName : String) (member : Option String × Outline) : Bool :=
  member.1 = some tagName

/-- Reads a value with its tag among its fields. -/
def Variants.ofOutlineAmong {α : Type} (variants : Variants α) (tagName : String) :
    Outline → Except Fault α
  | .object members closed =>
    let fields := members.filter fun member => !isTag tagName member
    if closed && fields.all fun (name, outline) => name.isSome && outline.canWait then
      match members.filter (isTag tagName) with
      | [(_, tag)] => do
        let reader ← variants.selectText tag
        reader (.object fields true)
      | _ => .error .malformed
    else .error .malformed
  | .array (tag :: fields) closed =>
    if closed && fields.all Outline.canWait then do
      let reader ← variants.selectText tag
      reader (.array fields true)
    else .error .malformed
  | _ => .error .malformed

end DeviceRegistry.Json
