import Companion.Toml.Reader
import Companion.Toml.Value

/-!
From the expressions of a text to one table. Keys and scalars are decoded in the order in which they are written, and a
key may be set only once. A table that was made on the way to another may get a head of its own later; one that was made
by dots grows by dots only, and an inline table does not grow at all.
-/

set_option autoImplicit false

namespace Companion.Toml

namespace Entries

def fail {α : Type} (key : Key) (malformation : Malformation) : Except Flaw α :=
  .error (.malformed key.span malformation)

/-- The origin of the tables that are made on the way along a key. -/
def originOnPath (byDots : Bool) : TableOrigin :=
  if byDots then .dots else .onTheWay

def enter (byDots : Bool) (key : Key) (origin : TableOrigin) : Except Flaw Unit :=
  match origin with
  | .inline => fail key (.closedToKeys "inline table")
  | .head => if byDots then fail key .duplicateKey else .ok ()
  | .onTheWay | .dots => .ok ()

/-- Changes the table to which a path leads. Tables that are missing are made on the way, and of an array of tables the
last one counts. `change` gets the origin of the table and its entries. -/
def changeAt (byDots : Bool) (change : TableOrigin → Entries → Except Flaw Entries) (origin : TableOrigin) :
    List Key → Entries → Except Flaw Entries
  | [], entries => change origin entries
  | key :: path, entries =>
      match find? key.name entries with
      | none => do
          let inner ← changeAt byDots change (originOnPath byDots) path []
          return entries.insert key (.table key.span (originOnPath byDots) inner)
      | some (_, .table span origin inner) => do
          enter byDots key origin
          let inner ← changeAt byDots change origin path inner
          return entries.set key.name (.table span origin inner)
      | some (_, .array span true items) =>
          match items.reverse with
          | .table inside origin inner :: before => do
              let inner ← changeAt byDots change origin path inner
              return entries.set key.name (.array span true (before.reverse ++ [.table inside origin inner]))
          | _ => fail key (.closedToKeys "array")
      | some (_, value) => fail key (.closedToKeys value.typeName)

/-- Adds an entry to a table. Behind dots it can only be added to a table that was made by dots. -/
def add (byDots : Bool) (key : Key) (value : Value) (origin : TableOrigin) (entries : Entries) :
    Except Flaw Entries :=
  if byDots && origin != .dots then fail key .duplicateKey
  else
    match find? key.name entries with
    | none => .ok (entries.insert key value)
    | some _ => fail key .duplicateKey

def assign (path : List Key) (key : Key) (value : Value) (origin : TableOrigin) (entries : Entries) :
    Except Flaw Entries :=
  entries.changeAt (!path.isEmpty) (add (!path.isEmpty) key value) origin path

end Entries

/-- A dotted key that has been decoded: the parts in front of the last one, and that. -/
structure KeyPath where
  path : List Key
  last : Key
  deriving DecidableEq, Repr

def KeyText.decodeAll : DottedKey → Except Flaw (List Key)
  | [] => .ok []
  | part :: parts => do
      let name ← StringValue.ofKey part
      let others ← decodeAll parts
      return ⟨name, part.span⟩ :: others

def KeyPath.ofText (key : DottedKey) : Except Flaw KeyPath := do
  let parts ← KeyText.decodeAll key
  match parts.reverse with
  | last :: before => return ⟨before.reverse, last⟩
  | [] => return ⟨[], ⟨"", .point 0⟩⟩

namespace ValueText

mutual

def decode : ValueText → Except Flaw Value
  | scalar style span text => do
      let content ← Scalar.decode style span text
      return .scalar span content
  | array span items => do
      let items ← decodeItems items
      return .array span false items
  | table span entries => do
      let entries ← decodeEntries [] entries
      return .table span .inline entries

def decodeItems : List ValueText → Except Flaw (List Value)
  | [] => .ok []
  | item :: items => do
      let first ← decode item
      let others ← decodeItems items
      return first :: others

/-- Decodes the entries of an inline table behind some that are there already. -/
def decodeEntries (found : Entries) : List (DottedKey × ValueText) → Except Flaw Entries
  | [] => .ok found
  | (key, content) :: others => do
      let key ← KeyPath.ofText key
      let value ← decode content
      let found ← found.assign key.path key.last value .inline
      decodeEntries found others

end

end ValueText

structure Head where
  ofArray : Bool
  span : Span
  key : KeyPath
  deriving DecidableEq, Repr

/-- A document while it is read: the outermost table, and the table of the last head if there has been one. -/
structure Document where
  root : Entries
  current : Option (Head × Entries)
  deriving Repr

namespace Document

/-- Puts a table at the end of the array that a name has. -/
def push (head : Head) (table : Value) (entries : Entries) : Except Flaw Entries :=
  match entries.find? head.key.last.name with
  | none => .ok (entries.insert head.key.last (.array head.span true [table]))
  | some (_, .array span true items) => .ok (entries.set head.key.last.name (.array span true (items ++ [table])))
  | some _ => Entries.fail head.key.last .duplicateKey

def close (document : Document) : Except Flaw Entries :=
  match document.current with
  | none => .ok document.root
  | some (head, entries) =>
      let table := Value.table head.span .head entries
      let change (_ : TableOrigin) (around : Entries) : Except Flaw Entries :=
        if head.ofArray then push head table around else .ok (around.insert head.key.last table)
      document.root.changeAt false change .head head.key.path

/-- The entries that the table of a head has before any is added, and the table around it without them. -/
def takeOver (key : Key) (around : Entries) : Except Flaw (Entries × Entries) :=
  match around.find? key.name with
  | none => .ok ([], around)
  | some (_, .table _ .onTheWay entries) => .ok (entries, around.erase key.name)
  | some _ => Entries.fail key .duplicateKey

/-- What stands at a path of names; nothing where the path leads to no table. -/
def entriesAt : List Key → Entries → Entries
  | [], entries => entries
  | key :: path, entries =>
      match entries.find? key.name with
      | some (_, .table _ _ inner) => entriesAt path inner
      | some (_, .array _ _ items) =>
          match items.getLast? with
          | some (.table _ _ inner) => entriesAt path inner
          | _ => []
      | _ => []

def start (root : Entries) (head : Head) : Except Flaw Document :=
  if head.ofArray then .ok ⟨root, some (head, [])⟩
  else do
    let change (_ : TableOrigin) (around : Entries) : Except Flaw Entries :=
      (takeOver head.key.last around).map (·.2)
    let changed ← root.changeAt false change .head head.key.path
    let (entries, _) ← takeOver head.key.last (entriesAt head.key.path root)
    return ⟨changed, some (head, entries)⟩

def add (document : Document) (key : KeyPath) (value : Value) : Except Flaw Document :=
  match document.current with
  | none => (document.root.assign key.path key.last value .head).map fun root => ⟨root, none⟩
  | some (head, entries) =>
      (entries.assign key.path key.last value .head).map fun entries => ⟨document.root, some (head, entries)⟩

def step (document : Document) : Expression → Except Flaw Document
  | .head ofArray span key => do
      let root ← document.close
      let key ← KeyPath.ofText key
      start root ⟨ofArray, span, key⟩
  | .entry key content => do
      let key ← KeyPath.ofText key
      let value ← content.decode
      document.add key value

def steps (document : Document) : List Expression → Except Flaw Document
  | [] => .ok document
  | expression :: others => do
      let next ← document.step expression
      next.steps others

def read (text : String) : Except Flaw Value := do
  let expressions ← Expression.all text.toList
  let document ← Document.steps ⟨[], none⟩ expressions
  let root ← document.close
  return .table ⟨0, text.length⟩ .head root

end Document

end Companion.Toml
