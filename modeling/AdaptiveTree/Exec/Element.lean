import AdaptiveTree.Exec.Channel

/-!
# Reading and storing elements

An element is read from or stored to a target under a key. Texts, patterns and list formats have a
few readable properties; nothing can be stored to them.
-/

set_option autoImplicit false

namespace AdaptiveTree.Element

/-- A property of a text: one of its characters, or its length. -/
def ofString (s : String) : Key → Value
  | .index i =>
    match s.toList[i.toNat]? with
    | some c => .string c.toString
    | none => .undefined
  | .name "length" => Value.number (Number.ofInt s.toList.length)
  | .name _ => .undefined

/-- A property of a pattern. -/
def ofPattern (p : Pattern) : Key → Value
  | .name "source" => .string p.source
  | .name "flags" => .string p.flags.text
  | _ => .undefined

/-- A property of a list format. -/
def ofListFormat (f : Locale.ListFormat) : Key → Value
  | .name "locale" => .string f.locale
  | .name "type" => .string f.type.name
  | .name "style" => .string f.style.name
  | _ => .undefined

/-- Reads the element of a target under a key. -/
def read (h : Heap) (target : Value) (key : Key) : Except Fault Value :=
  match target with
  | .object id => .ok ((h.get id).get key)
  | .undefined | .null => .error (.unreadable target.typeName key)
  | .string s => .ok (ofString s key)
  | .pattern p => .ok (ofPattern p.value key)
  | .listFormat f => .ok (ofListFormat f.value key)
  | .bool _ | .int _ | .double _ => .ok .undefined

/-- Stores a value to a target under a key; gives the value and the heap after the store. -/
def store (flags : StoreFlags) (h : Heap) (target : Value) (key : Key) (v : Value) :
    Except Fault Heap :=
  match target with
  | .object id => ((h.get id).put key v flags).map fun o => h.set id o
  | .undefined | .null => .error (.unwritable target.typeName key)
  | _ =>
    if flags.fails then .error (.primitiveTarget key target.typeName (h.display target))
    else .ok h

/-- Reads an element of the machine. -/
def runRead (target : Value) (key : Key) : Exec Value := fun m =>
  (read m.heap target key, m)

/-- Stores an element of the machine; gives the value. -/
def runStore (flags : StoreFlags) (target : Value) (key : Key) (v : Value) : Exec Value := fun m =>
  match store flags m.heap target key v with
  | .ok h => (.ok v, { m with heap := h })
  | .error e => (.error e, m)

/-- The evaluation of an element read. -/
def readRunner (target index : Runner) : Runner :=
  .ofGeneric do
    let t ← target.generic
    let i ← index.generic
    let key ← Exec.key i
    runRead t key

end AdaptiveTree.Element
