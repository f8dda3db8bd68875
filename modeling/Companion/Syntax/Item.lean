import Companion.Syntax.Item.Associated
import Companion.Syntax.Item.Data

set_option autoImplicit false

namespace Companion.Syntax

open Companion.Syntax.Parser

/-- What an item turns out to be, apart from the attributes in front of it. Attributes at its start are part of it. -/
inductive ItemBody where
  | record (name : String) (isGeneric : Bool) (members : List Member)
  | named (kind : ItemKind) (name : String) (inner : List Attribute)
  | implementation (target : String) (inner : List Attribute)
  | module (name : String) (content : List Item) (inner : List Attribute)
  | other
  /-- A form that the compiler reads but has no use for; it is kept as it stands. -/
  | kept

def ItemBody.item (body : ItemBody) (outer : List Attribute) (place : Position) : Item :=
  match body with
  | record name isGeneric members => .record ⟨outer, place⟩ name isGeneric members
  | named kind name inner => .named ⟨outer ++ inner, place⟩ kind name
  | implementation target inner => .implementation ⟨outer ++ inner, place⟩ target
  | module name content inner => .module ⟨outer ++ inner, place⟩ name content
  | other | kept => .other

/-- A function. One without a body is kept as it stands. -/
def functionItem (g : Grammar) : Parser ItemBody := do
  let (name, _) ← signature g false
  if ← optionalSign ";" then return .kept
  return .named .function name (← body g)

/-- A static value. One without a type or without a value is kept as it stands. -/
def staticItem (g : Grammar) : Parser ItemBody := do
  word "static"
  let _ ← optionalWord "mut"
  let name ← identifier
  if ← optionalSign "=" then
    let _ ← g.expression true
    sign ";"
    return .kept
  sign ":"
  let _ ← g.type true
  if ← optionalSign ";" then return .kept
  sign "="
  let _ ← g.expression true
  sign ";"
  return .named .static name []

/-- A constant. One without a value, or with parameters or clauses, is kept as it stands. -/
def constantItem (g : Grammar) : Parser ItemBody := do
  word "const"
  let form ← constantRest g
  if form.hasValue && form.isPlain then return .named .constant form.name []
  return .kept

/-- The name behind `as`. -/
def importAlias : Parser Unit := do
  if ← sees (fun trees => Look.identifier trees || Look.word "_" trees) then
    let _ ← anyWord
  else missing .renameExpected

/-- What an import brings in, up to `depth` groups and names deep. `rootAllowed` tells whether two colons may stand in
front of a name within a group. Tells whether they do. -/
def importTree : (depth : Nat) → (rootAllowed : Bool) → Parser Bool
  | 0, _ => noneOf []
  | depth + 1, rootAllowed => do
      if ← sees startsName then
        let _ ← anyWord
        if ← optionalSign "::" then importTree depth false
        else if ← optionalWord "as" then
          importAlias
          return false
        else return false
      else if ← sees (Look.sign "*") then
        sign "*"
        return false
      else if ← sees (Look.group .brace) then
        let roots ← group .brace <| separated .commas do
          let root ← if rootAllowed then optionalSign "::" else pure false
          return root || (← importTree depth (rootAllowed && !root))
        return roots.any id
      else
        expectedOneOf [.identifier, .word "self", .word "super", .word "crate", .word "try", .sign "*",
          .group .brace]
where
  /-- Whether a name of an import stands next. -/
  startsName : Look := fun trees =>
    Look.identifier trees || Look.oneOf ["self", "super", "crate", "try"] trees

/-- An import. One that leads to a root within a group is kept as it stands. -/
def importItem : Parser ItemBody := do
  word "use"
  let absolute ← optionalSign "::"
  let root ← fun stream => importTree (Tree.sizeAll stream.trees + 1) (!absolute) stream
  sign ";"
  return if root then .kept else .other

def libraryItem : Parser ItemBody := do
  word "extern"
  word "crate"
  let _ ← if ← sees (Look.word "self") then anyWord else identifier
  if ← optionalWord "as" then
    let _ ← if ← sees (Look.word "_") then anyWord else identifier
  sign ";"
  return .other

def moduleItem (g : Grammar) : Parser ItemBody := do
  let _ ← optionalWord "unsafe"
  word "mod"
  let name ← if ← sees (Look.word "try") then anyWord else identifier
  if ← sees (Look.sign ";") then
    sign ";"
    return .module name [] []
  if ← sees (Look.group .brace) then
    group .brace do
      let inner ← innerAttributes g
      let content ← itemsUntil Look.atEnd g.item
      return .module name content inner
  else expectedOneOf [.sign ";", .group .brace]

def foreignItem (g : Grammar) : Parser ItemBody := do
  let _ ← optionalWord "unsafe"
  word "extern"
  if ← sees Look.stringLiteral then stringLiteral
  group .brace do
    let _ ← innerAttributes g
    let _ ← itemsUntil Look.atEnd (foreignPart g)
    return .other

/-- A name for a type. One without a definition or with bounds is kept as it stands. -/
def typeItem (g : Grammar) : Parser ItemBody := do
  let form ← namedType g .inFront
  if form.hasDefinition && !form.hasBounds then return .named .typeAlias form.name []
  return .kept

def traitRest (g : Grammar) (name : String) : Parser ItemBody := do
  boundsUpTo g (fun trees => Look.word "where" trees || Look.group .brace trees) boundsOnly
  let _ ← clauses g
  group .brace do
    let inner ← innerAttributes g
    let _ ← itemsUntil Look.atEnd (traitPart g)
    return .named .trait name inner

def traitItem (g : Grammar) : Parser ItemBody := do
  let _ ← optionalWord "unsafe"
  let _ ← optionalWord "auto"
  word "trait"
  let name ← identifier
  let _ ← parameters g
  traitRest g name

def traitOrAlias (g : Grammar) : Parser ItemBody := do
  word "trait"
  let name ← identifier
  let _ ← parameters g
  if ← sees startsRest then traitRest g name
  else if ← sees (Look.sign "=") then
    sign "="
    let stop : Look := fun trees => Look.word "where" trees || Look.sign ";" trees
    let _ ← separated ⟨stop, fun trees => !stop trees, "+"⟩ (bound g ⟨false, false⟩)
    let _ ← clauses g
    sign ";"
    return .other
  else expectedOneOf [.group .brace, .sign ":", .word "where", .sign "="]
where
  /-- Whether the rest of a trait stands next. -/
  startsRest : Look := fun trees =>
    Look.group .brace trees || Look.sign ":" trees || Look.word "where" trees

def optionalConstImplementation : Parser Bool := do
  if ← sees (fun trees => Look.sign "?" trees && Look.second (Look.word "const") trees) then
    sign "?"
    word "const"
    return true
  optionalWord "const"

/-- An implementation. `visible` tells whether a visibility stands in front. One that is visible, asks for constness, or
is of something that is no trait, is kept as it stands. -/
def implementationItem (g : Grammar) (visible : Bool) : Parser ItemBody := do
  let _ ← optionalWord "default"
  let _ ← optionalWord "unsafe"
  word "impl"
  if ← sees opensParameters then
    let _ ← parameters g
  let constant ← optionalConstImplementation
  let mark ← place
  let negative ← sees fun trees => Look.sign "!" trees && !Look.second (Look.group .brace) trees
  if negative then sign "!"
  let (first, words) ← captured (g.type true)
  writeAll words
  let (target, isTrait) ←
    if ← optionalWord "for" then
      let (_, target) ← captured (g.type true)
      writeAll target
      let isPath := match first.shape with
        | .path _ _ => true
        | _ => false
      pure (target, isPath)
    else if negative then broken mark .negativeInherent
    else pure (words, true)
  let _ ← clauses g
  group .brace do
    let inner ← innerAttributes g
    let _ ← itemsUntil Look.atEnd (implementationPart g)
    if visible || constant || !isTrait then return .kept
    return .implementation (String.intercalate " " target) inner

def ruleDefinition : Parser ItemBody := do
  word "macro"
  let _ ← identifier
  let hasInputs ← sees (Look.group .parenthesis)
  if hasInputs then group .parenthesis remainder
  if ← sees (Look.group .brace) then
    group .brace remainder
    return .kept
  expectedOneOf ((if hasInputs then [] else [.group .parenthesis]) ++ [.group .brace])

def startsOfItem : List Alternative :=
  ["fn", "extern", "use", "static", "const", "unsafe", "mod", "type", "struct", "enum", "union", "trait",
    "auto", "impl", "default", "macro"].map .word

/-- An item that begins with `extern`; `visible` is the place of a visibility in front of it. -/
def externItem (g : Grammar) (visible : Option Position) : Parser ItemBody := do
  let stream ← get
  let behind := stream.trees.drop 1
  if Look.word "crate" behind then libraryItem
  else
    let isBlock := Look.group .brace behind ||
      (Look.stringLiteral behind && Look.second (Look.group .brace) behind)
    if isBlock then
      match visible with
      | some place => complain place (.expected ["`extern`"] false)
      | none => foreignItem g
    else
      word "extern"
      if ← sees Look.stringLiteral then
        stringLiteral
        expectedOneOf [.group .brace]
      else expectedOneOf [.word "crate", .group .brace, .stringLiteral]

/-- An item that begins with `unsafe`; `visible` is the place of a visibility in front of it. -/
def exemptItem (g : Grammar) (visible : Option Position) : Parser ItemBody := do
  let stream ← get
  let behind := stream.trees.drop 1
  if Look.word "trait" behind || (Look.word "auto" behind && Look.second (Look.word "trait") behind) then
    traitItem g
  else if Look.word "impl" behind then implementationItem g visible.isSome
  else if Look.word "extern" behind then
    match visible with
    | some place => complain place (.expected ["`extern`"] false)
    | none => foreignItem g
  else if Look.word "mod" behind then moduleItem g
  else
    word "unsafe"
    expectedOneOf [.word "trait", .word "auto", .word "impl", .word "extern", .word "mod"]

/-- An item behind its attributes and its visibility. `visible` is the place of the visibility. -/
def itemBody (g : Grammar) (visible : Option Position) : Parser ItemBody := do
  if ← sees (startsSignature false) then functionItem g
  else if ← sees (Look.word "extern") then externItem g visible
  else if ← sees (Look.word "use") then importItem
  else if ← sees (Look.word "static") then staticItem g
  else if ← sees (Look.word "const") then constantItem g
  else if ← sees (Look.word "unsafe") then exemptItem g visible
  else if ← sees (Look.word "mod") then moduleItem g
  else if ← sees (Look.word "type") then typeItem g
  else if ← sees (Look.word "struct") then
    let (name, isGeneric, members) ← record g
    return .record name isGeneric members
  else if ← sees (Look.word "enum") then return .named .enumeration (← enumeration g) []
  else if ← sees (fun trees => Look.word "union" trees && Look.second Look.identifier trees) then
    return .named .union (← union g) []
  else if ← sees (Look.word "trait") then traitOrAlias g
  else if ← sees (fun trees => Look.word "auto" trees && Look.second (Look.word "trait") trees) then
    traitItem g
  else if ← sees startsImplementation then implementationItem g visible.isSome
  else if ← sees (Look.word "macro") then ruleDefinition
  else if visible.isNone && (← sees startsRule) then
    ruleCall true
    return .other
  else expectedOneOf (startsOfItem ++ if visible.isNone then ruleStarts else [])
where
  /-- Whether an implementation stands next. -/
  startsImplementation : Look := fun trees =>
    Look.word "impl" trees || (Look.word "default" trees && !Look.second (Look.sign "!") trees)

def item (g : Grammar) : Parser Item := do
  let begun ← get
  let place ← place
  let outer ← outerAttributes g
  let visibilityPlace ← Parser.place
  let visible ← visibility
  let body ← itemBody g (if visible then some visibilityPlace else none)
  if body matches .kept then keepSince begun
  return body.item outer place

end Companion.Syntax
