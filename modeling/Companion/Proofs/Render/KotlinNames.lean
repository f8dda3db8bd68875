import Companion.Proofs.Naming
import Companion.Proofs.Text.Split
import Companion.Render.Kotlin

/-!
The names in a Kotlin file. A file is cut into pieces, of which some are names and all others are fixed words, comments
and the names of the class and its functions; put together again the pieces are the file. Which of the names Kotlin takes
for identifiers is told by the names that they come from.
-/

set_option autoImplicit false

namespace Companion.Render.Kotlin

/-- What counts as a letter and what as a digit. Among the ASCII characters these are the usual ones. -/
structure Alphabet where
  letter : Char → Bool
  digit : Char → Bool
  letter_of_ascii : ∀ c, c.toNat < 128 → letter c = c.isAlpha
  digit_of_ascii : ∀ c, c.toNat < 128 → digit c = c.isDigit

namespace Alphabet

def ascii : Alphabet :=
  ⟨Char.isAlpha, Char.isDigit, fun _ _ => rfl, fun _ _ => rfl⟩

variable (alphabet : Alphabet)

def starts (c : Char) : Bool :=
  alphabet.letter c || c == '_'

def continues (c : Char) : Bool :=
  alphabet.starts c || alphabet.digit c

/-- Whether a text is a plain identifier, or a keyword: a letter or an underscore, and then letters, digits and
underscores. -/
def Plain (text : String) : Prop :=
  ∃ first rest, text.toList = first :: rest ∧ alphabet.starts first = true ∧ ∀ c ∈ rest, alphabet.continues c = true

end Alphabet

def Quoted (text : String) : Prop :=
  ∃ inner, inner ≠ "" ∧ '`' ∉ inner.toList ∧ '\n' ∉ inner.toList ∧ text = "`" ++ inner ++ "`"

/-- Whether a text can stand for an identifier: it is plain and no hard keyword, or enclosed in back-quotes. -/
def Alphabet.Legal (alphabet : Alphabet) (text : String) : Prop :=
  (alphabet.Plain text ∧ text ∉ hardKeywords) ∨ Quoted text

inductive Role where
  | package
  | property
  | parameter
  | read
  | assignment
  | type
  deriving DecidableEq, Repr

inductive Piece where
  | fixed (text : String)
  | name (role : Role) (text : String)
  deriving DecidableEq, Repr

def Piece.text : Piece → String
  | fixed text => text
  | name _ text => text

def spell : List Piece → String
  | [] => ""
  | piece :: others => piece.text ++ spell others

def joined (separator : String) : List (List Piece) → List Piece
  | [] => []
  | [group] => group
  | group :: next :: others => group ++ .fixed separator :: joined separator (next :: others)

@[simp] theorem spell_nil : spell [] = "" := rfl

@[simp] theorem spell_cons (piece : Piece) (others : List Piece) : spell (piece :: others) = piece.text ++ spell others :=
  rfl

@[simp] theorem spell_append (pieces others : List Piece) : spell (pieces ++ others) = spell pieces ++ spell others := by
  induction pieces with
  | nil => simp
  | cons piece pieces ih => simp [ih, String.append_assoc]

@[simp] theorem text_fixed (text : String) : (Piece.fixed text).text = text := rfl

@[simp] theorem text_name (role : Role) (text : String) : (Piece.name role text).text = text := rfl

theorem spell_joined (separator : String) (groups : List (List Piece)) :
    spell (joined separator groups) = String.intercalate separator (groups.map spell) := by
  induction groups with
  | nil => rfl
  | cons group others ih =>
      cases others with
      | nil => simp [joined]
      | cons next others =>
          rw [List.map_cons] at ih
          rw [joined, spell_append, spell_cons, text_fixed, ih, List.map_cons, List.map_cons,
            String.intercalate_cons_cons, String.append_assoc]

theorem name_mem_joined {separator : String} {groups : List (List Piece)} {role : Role} {text : String} :
    .name role text ∈ joined separator groups ↔ ∃ group ∈ groups, .name role text ∈ group := by
  induction groups with
  | nil => simp [joined]
  | cons group others ih =>
      cases others with
      | nil => simp [joined]
      | cons next others => simp [joined, ih]

theorem name_mem_joined_map {α : Type} {separator : String} {values : List α} {f : α → List Piece} {role : Role}
    {text : String} : .name role text ∈ joined separator (values.map f) ↔ ∃ value ∈ values, .name role text ∈ f value := by
  rw [name_mem_joined]
  constructor
  · rintro ⟨_, isGroup, inside⟩
    obtain ⟨value, member, rfl⟩ := List.mem_map.mp isGroup
    exact ⟨value, member, inside⟩
  · rintro ⟨value, member, inside⟩
    exact ⟨f value, List.mem_map_of_mem member, inside⟩

def appliedPieces (name : String) (arguments : List (List Piece)) : List Piece :=
  if arguments.isEmpty then [.name .type name]
  else .name .type name :: .fixed "<" :: joined ", " arguments ++ [.fixed ">"]

def namedPieces (path : List String) (arguments : List (List Piece)) : List Piece :=
  match path.getLast? with
  | none => [.name .type "Any"]
  | some last =>
      match ruleFor last arguments.length, arguments with
      | .pointer, inner :: _ => inner
      | .collection name, _ => appliedPieces name arguments
      | .plain name, _ => appliedPieces name arguments
      | .pointer, [] => [.name .type last]

def nullablePieces (pieces : List Piece) : List Piece :=
  if (spell pieces).toList.getLast? == some '?' then pieces else pieces ++ [.fixed "?"]

mutual

def typePieces : TypeRef → List Piece
  | .scalar primitive => [.name .type (scalarName primitive)]
  | .string => [.name .type "String"]
  | .list element => .name .type "List" :: .fixed "<" :: typePieces element ++ [.fixed ">"]
  | .optional value => nullablePieces (typePieces value)
  | .named path arguments => namedPieces path (typesPieces arguments)
  | .verbatim _ => [.name .type "Any"]

def typesPieces : List TypeRef → List (List Piece)
  | [] => []
  | type :: others => typePieces type :: typesPieces others

end

theorem spell_appliedPieces (name : String) (arguments : List (List Piece)) :
    spell (appliedPieces name arguments) = applied name (arguments.map spell) := by
  unfold appliedPieces applied
  cases arguments with
  | nil => simp
  | cons argument others => simp [spell_joined, String.append_assoc]

theorem spell_namedPieces (path : List String) (arguments : List (List Piece)) :
    spell (namedPieces path arguments) = namedText path (arguments.map spell) := by
  unfold namedPieces namedText
  rw [List.length_map]
  cases path.getLast? with
  | none => rfl
  | some last =>
      dsimp only
      cases ruleFor last arguments.length with
      | pointer =>
          cases arguments with
          | nil => exact String.append_empty
          | cons inner others => rfl
      | collection name => exact spell_appliedPieces name arguments
      | plain name => exact spell_appliedPieces name arguments

theorem spell_nullablePieces (pieces : List Piece) : spell (nullablePieces pieces) = nullableText (spell pieces) := by
  unfold nullablePieces nullableText
  split
  · rfl
  · simp

mutual

theorem spell_typePieces (type : TypeRef) : spell (typePieces type) = typeText type := by
  cases type with
  | scalar primitive => simp [typePieces, typeText]
  | string => simp [typePieces, typeText]
  | list element =>
      rw [typePieces, typeText, List.cons_append, List.cons_append, spell_cons, spell_cons, spell_append,
        spell_typePieces element, text_name, text_fixed, ← String.append_assoc, ← String.append_assoc]
      rfl
  | optional value => rw [typePieces, typeText, spell_nullablePieces, spell_typePieces value]
  | named path arguments => rw [typePieces, typeText, spell_namedPieces, spell_typesPieces arguments]
  | verbatim text => simp [typePieces, typeText]

theorem spell_typesPieces (types : List TypeRef) : (typesPieces types).map spell = typeTexts types := by
  cases types with
  | nil => rfl
  | cons type others => rw [typesPieces, typeTexts, List.map_cons, spell_typePieces type, spell_typesPieces others]

end

def propertyPieces (property : Property) : List Piece :=
  .fixed (docComment property) :: .fixed "  private var " :: .name .property (identifier property.name) :: .fixed ": " ::
    typePieces property.type ++ [.fixed " = null\n"]

/-- The pieces of the function that returns a property. -/
def accessorPieces (property : Property) : List Piece :=
  .fixed "  fun " :: .fixed property.accessor :: .fixed "(): " :: typePieces property.type ++
    [.fixed " \x7b\n", .fixed "    return ", .name .read (identifier property.name), .fixed "\n", .fixed "  \x7d\n"]

/-- The pieces of the function that replaces a property. -/
def mutatorPieces (property : Property) : List Piece :=
  .fixed "  fun " :: .fixed property.mutator :: .fixed "(" :: .name .parameter (identifier property.name) :: .fixed ": " ::
    typePieces property.type ++
      [.fixed ") \x7b\n", .fixed "    this.", .name .assignment (identifier property.name), .fixed " = ",
        .name .read (identifier property.name), .fixed "\n", .fixed "  \x7d\n"]

def memberPieces : Member → List Piece
  | .property p => propertyPieces p
  | .accessor p => accessorPieces p
  | .mutator p => mutatorPieces p

/-- The names that a segment of a namespace stands for in the package line. Points divide names there. -/
def segmentNames (segment : String) : List String :=
  Text.split (· == '.') (identifier segment)

def packagePieces (space : Namespace) : List Piece :=
  if space.isRoot then []
  else .fixed "package " ::
    joined "." (space.segments.map fun segment => joined "." ((segmentNames segment).map fun name => [.name .package name])) ++
      [.fixed "\n"]

def preamblePieces (type : CompanionType) : List Piece :=
  .fixed (header type) :: packagePieces type.space ++
    [.fixed (importLines (importsOf (type.properties.map (·.type)))), .fixed "\n"]

def pieces (type : CompanionType) : List Piece :=
  if type.isEmpty then preamblePieces type ++ [.fixed "class ", .fixed type.name, .fixed "\n"]
  else preamblePieces type ++ .fixed "class " :: .fixed type.name :: .fixed " \x7b\n" ::
    joined "\n" (type.members.map memberPieces) ++ [.fixed "\x7d\n"]

theorem spell_memberPieces (member : Member) : spell (memberPieces member) = Kotlin.member member := by
  cases member with
  | property p =>
      simp only [memberPieces, propertyPieces, Kotlin.member, property, spell_cons, spell_append, spell_nil, text_fixed,
        text_name, spell_typePieces, String.append_assoc, String.append_empty]
  | accessor p =>
      simp only [memberPieces, accessorPieces, Kotlin.member, accessor, spell_cons, spell_append, spell_nil, text_fixed,
        text_name, spell_typePieces, String.append_assoc, String.append_empty]
  | mutator p =>
      unfold memberPieces mutatorPieces Kotlin.member mutator
      simp only [spell_cons, spell_append, spell_nil, text_fixed, text_name, spell_typePieces, String.append_assoc,
        String.append_empty]

/-- The names of a segment, with points between them, are what the package line has for it. -/
theorem intercalate_segmentNames (segment : String) :
    String.intercalate "." (segmentNames segment) = identifier segment :=
  Text.intercalate_split '.' (identifier segment)

theorem spell_packagePieces (space : Namespace) : spell (packagePieces space) = packageLine space := by
  unfold packagePieces packageLine
  split
  · rfl
  · have ofSegment : ∀ segment, spell (joined "." ((segmentNames segment).map fun name => [.name .package name])) =
        identifier segment := by
      intro segment
      rw [spell_joined, List.map_map]
      have alone : spell ∘ (fun name => [Piece.name .package name]) = id := by
        funext name
        simp
      rw [alone, List.map_id, intercalate_segmentNames]
    rw [spell_append, spell_cons, spell_joined, List.map_map]
    have all : spell ∘ (fun segment => joined "." ((segmentNames segment).map fun name => [.name .package name])) =
        identifier := funext ofSegment
    simp [all, String.append_assoc]

/-- Put together, the pieces of a file are the file. -/
theorem spell_pieces (type : CompanionType) : spell (pieces type) = file type := by
  have members : (type.members.map memberPieces).map spell = type.members.map Kotlin.member := by
    rw [List.map_map]
    exact List.map_congr_left fun member _ => spell_memberPieces member
  unfold pieces file preamblePieces preamble
  split
  · simp only [spell_cons, spell_append, spell_nil, text_fixed, spell_packagePieces, String.append_assoc,
      String.append_empty]
  · simp only [spell_cons, spell_append, spell_nil, text_fixed, spell_packagePieces, spell_joined, members,
      String.append_assoc, String.append_empty]

mutual

def ownNames : TypeRef → List String
  | .scalar _ | .string | .verbatim _ => []
  | .list element => ownNames element
  | .optional value => ownNames value
  | .named path arguments =>
      match path.getLast? with
      | none => []
      | some last =>
          match ruleFor last arguments.length with
          | .plain name => name :: ownNamesOf arguments
          | .pointer | .collection _ => ownNamesOf arguments

/-- The names in several types that are taken over from Rust. -/
def ownNamesOf : List TypeRef → List String
  | [] => []
  | type :: others => ownNames type ++ ownNamesOf others

end

def givenNames : List String :=
  ["Any", "String", "List", "Map", "Set"] ++ Primitive.all.map scalarName

theorem length_typesPieces (types : List TypeRef) : (typesPieces types).length = types.length := by
  induction types with
  | nil => rfl
  | cons type others ih => simp [typesPieces, ih]

theorem ruleFor_pointer {name : String} {arguments : Nat} (isPointer : ruleFor name arguments = .pointer) :
    arguments = 1 := by
  unfold ruleFor at isPointer
  split at isPointer
  · rfl
  · split at isPointer <;> cases isPointer
  · cases isPointer

theorem ruleFor_collection {name given : String} {arguments : Nat} (isCollection : ruleFor name arguments = .collection given) :
    given ∈ givenNames := by
  unfold ruleFor at isCollection
  split at isCollection
  · split at isCollection
    · cases isCollection
    · split at isCollection
      · cases isCollection
        decide
      · split at isCollection
        · cases isCollection
          decide
        · cases isCollection
  · split at isCollection
    · cases isCollection
      decide
    · cases isCollection
  · cases isCollection

theorem name_mem_nullablePieces {pieces : List Piece} {role : Role} {text : String} :
    .name role text ∈ nullablePieces pieces ↔ .name role text ∈ pieces := by
  unfold nullablePieces
  split <;> simp

theorem name_mem_appliedPieces {name : String} {arguments : List (List Piece)} {role : Role} {text : String} :
    .name role text ∈ appliedPieces name arguments ↔
      (role = .type ∧ text = name) ∨ .name role text ∈ arguments.flatten := by
  unfold appliedPieces
  cases arguments with
  | nil => simp
  | cons argument others => simp [name_mem_joined]

/-- Whether the names among pieces are some that types have in Kotlin, and all of certain others. -/
structure Mixes (names : List String) (pieces : List Piece) : Prop where
  sound : ∀ role text, .name role text ∈ pieces → role = .type ∧ (text ∈ givenNames ∨ text ∈ names)
  complete : ∀ text ∈ names, .name .type text ∈ pieces

theorem mixes_given {name : String} (given : name ∈ givenNames) : Mixes [] [.name .type name] := by
  refine ⟨fun role text member => ?_, by simp⟩
  obtain ⟨rfl, rfl⟩ : role = .type ∧ text = name := by simpa using member
  exact ⟨rfl, .inl given⟩

theorem Mixes.applied {names : List String} {arguments : List (List Piece)} (mixes : Mixes names arguments.flatten)
    {name : String} (given : name ∈ givenNames) : Mixes names (appliedPieces name arguments) := by
  constructor
  · intro role text member
    obtain ⟨rfl, rfl⟩ | inside := name_mem_appliedPieces.mp member
    · exact ⟨rfl, .inl given⟩
    · exact mixes.sound role text inside
  · intro text member
    exact name_mem_appliedPieces.mpr (.inr (mixes.complete text member))

theorem Mixes.appliedOwn {names : List String} {arguments : List (List Piece)} (mixes : Mixes names arguments.flatten)
    (name : String) : Mixes (name :: names) (appliedPieces name arguments) := by
  constructor
  · intro role text member
    obtain ⟨rfl, rfl⟩ | inside := name_mem_appliedPieces.mp member
    · exact ⟨rfl, .inr (List.mem_cons_self ..)⟩
    · obtain ⟨isType, given | own⟩ := mixes.sound role text inside
      · exact ⟨isType, .inl given⟩
      · exact ⟨isType, .inr (List.mem_cons_of_mem _ own)⟩
  · intro text member
    obtain rfl | inside := List.mem_cons.mp member
    · exact name_mem_appliedPieces.mpr (.inl ⟨rfl, rfl⟩)
    · exact name_mem_appliedPieces.mpr (.inr (mixes.complete text inside))

theorem mixes_named {path : List String} {arguments : List TypeRef}
    (mixes : Mixes (ownNamesOf arguments) (typesPieces arguments).flatten) :
    Mixes (ownNames (.named path arguments)) (typePieces (.named path arguments)) := by
  rw [ownNames, typePieces]
  unfold namedPieces
  cases path.getLast? with
  | none => exact mixes_given (by decide)
  | some last =>
      dsimp only
      rw [length_typesPieces]
      cases ruled : ruleFor last arguments.length with
      | pointer =>
          obtain ⟨argument, rfl⟩ := List.length_eq_one_iff.mp (ruleFor_pointer ruled)
          simpa [typesPieces] using mixes
      | collection name => exact mixes.applied (ruleFor_collection ruled)
      | plain name => exact mixes.appliedOwn name

mutual

/-- The names in a type are names that types have in Kotlin, and all that are taken over from Rust. -/
theorem mixes_typePieces (type : TypeRef) : Mixes (ownNames type) (typePieces type) := by
  cases type with
  | scalar primitive =>
      refine mixes_given (List.mem_append_right _ (List.mem_map_of_mem ?_))
      cases primitive <;> decide
  | string => exact mixes_given (by decide)
  | list element =>
      have inner := mixes_typePieces element
      have alone : Mixes (ownNames element) [typePieces element].flatten := by simpa using inner
      have given : "List" ∈ givenNames := by decide
      exact alone.applied given
  | optional value =>
      have inner := mixes_typePieces value
      exact ⟨fun role text member => inner.sound role text (name_mem_nullablePieces.mp member),
        fun text member => name_mem_nullablePieces.mpr (inner.complete text member)⟩
  | named path arguments => exact mixes_named (mixes_typesPieces arguments)
  | verbatim text => exact mixes_given (by decide)

theorem mixes_typesPieces (types : List TypeRef) : Mixes (ownNamesOf types) (typesPieces types).flatten := by
  cases types with
  | nil => exact ⟨fun role text member => by simp [typesPieces] at member, by simp [ownNamesOf]⟩
  | cons type others =>
      have first := mixes_typePieces type
      have rest := mixes_typesPieces others
      rw [ownNamesOf, typesPieces, List.flatten_cons]
      constructor
      · intro role text member
        obtain inFirst | inRest := List.mem_append.mp member
        · obtain ⟨isType, kind⟩ := first.sound role text inFirst
          exact ⟨isType, kind.imp_right (List.mem_append_left _)⟩
        · obtain ⟨isType, kind⟩ := rest.sound role text inRest
          exact ⟨isType, kind.imp_right (List.mem_append_right _)⟩
      · intro text member
        obtain inFirst | inRest := List.mem_append.mp member
        · exact List.mem_append_left _ (first.complete text inFirst)
        · exact List.mem_append_right _ (rest.complete text inRest)

end

theorem name_mem_packagePieces {space : Namespace} {role : Role} {text : String} :
    .name role text ∈ packagePieces space ↔ role = .package ∧ ∃ segment ∈ space.segments, text ∈ segmentNames segment := by
  unfold packagePieces
  split
  · rename_i isRoot
    have none : space.segments = [] := by simpa [Namespace.isRoot] using isRoot
    simp [none]
  · have inJoined : .name role text ∈ joined "." (space.segments.map fun segment =>
          joined "." ((segmentNames segment).map fun name => [.name .package name])) ↔
        ∃ segment ∈ space.segments, ∃ name ∈ segmentNames segment, role = .package ∧ text = name := by
      simp only [name_mem_joined_map, List.mem_singleton, Piece.name.injEq]
    simp only [List.mem_append, List.mem_cons, inJoined]
    constructor
    · rintro ((_ | ⟨segment, isSegment, name, isName, rfl, rfl⟩) | _ | _)
      · contradiction
      · exact ⟨rfl, segment, isSegment, isName⟩
      · contradiction
      · contradiction
    · rintro ⟨rfl, segment, isSegment, isName⟩
      exact .inl (.inr ⟨segment, isSegment, text, isName, rfl, rfl⟩)

def Role.ofProperty : Role → Bool
  | property | parameter | read | assignment => true
  | package | type => false

theorem name_mem_memberPieces {type : CompanionType} {role : Role} {text : String} :
    (∃ member ∈ type.members, .name role text ∈ memberPieces member) ↔
      ∃ property ∈ type.properties, (role.ofProperty = true ∧ text = identifier property.name) ∨
        .name role text ∈ typePieces property.type := by
  constructor
  · rintro ⟨member, isMember, inside⟩
    obtain isProperty | isMethod := List.mem_append.mp isMember
    · obtain ⟨property, isOf, rfl⟩ := List.mem_map.mp isProperty
      refine ⟨property, isOf, ?_⟩
      obtain ⟨rfl, rfl⟩ | inType : (role = .property ∧ text = identifier property.name) ∨
          .name role text ∈ typePieces property.type := by
        simpa [memberPieces, propertyPieces] using inside
      · exact .inl ⟨rfl, rfl⟩
      · exact .inr inType
    · obtain ⟨property, isOf, isMethod⟩ := List.mem_flatMap.mp isMethod
      refine ⟨property, isOf, ?_⟩
      obtain rfl | rfl : member = .accessor property ∨ member = .mutator property := by
        simpa [CompanionType.methodsOf] using isMethod
      · obtain inType | ⟨rfl, rfl⟩ : .name role text ∈ typePieces property.type ∨
            (role = .read ∧ text = identifier property.name) := by
          simpa [memberPieces, accessorPieces] using inside
        · exact .inr inType
        · exact .inl ⟨rfl, rfl⟩
      · obtain ⟨rfl, rfl⟩ | inType | ⟨rfl, rfl⟩ | ⟨rfl, rfl⟩ : (role = .parameter ∧ text = identifier property.name) ∨
            .name role text ∈ typePieces property.type ∨ (role = .assignment ∧ text = identifier property.name) ∨
              (role = .read ∧ text = identifier property.name) := by
          simpa [memberPieces, mutatorPieces] using inside
        · exact .inl ⟨rfl, rfl⟩
        · exact .inr inType
        · exact .inl ⟨rfl, rfl⟩
        · exact .inl ⟨rfl, rfl⟩
  · rintro ⟨property, isOf, inside⟩
    have asProperty : Member.property property ∈ type.members := List.mem_append_left _ (List.mem_map_of_mem isOf)
    have asMutator : Member.mutator property ∈ type.members :=
      List.mem_append_right _ (List.mem_flatMap.mpr ⟨property, isOf, by simp [CompanionType.methodsOf]⟩)
    obtain ⟨ofProperty, rfl⟩ | inType := inside
    · cases role with
      | property => exact ⟨_, asProperty, by simp [memberPieces, propertyPieces]⟩
      | parameter => exact ⟨_, asMutator, by simp [memberPieces, mutatorPieces]⟩
      | read => exact ⟨_, asMutator, by simp [memberPieces, mutatorPieces]⟩
      | assignment => exact ⟨_, asMutator, by simp [memberPieces, mutatorPieces]⟩
      | package => contradiction
      | type => contradiction
    · exact ⟨_, asProperty, by simp [memberPieces, propertyPieces, inType]⟩

/-- The names in a file: those of the package, those of properties where they are declared and used, and those in types. -/
theorem name_mem_pieces {type : CompanionType} {role : Role} {text : String} :
    .name role text ∈ pieces type ↔
      (role = .package ∧ ∃ segment ∈ type.space.segments, text ∈ segmentNames segment) ∨
        ∃ property ∈ type.properties, (role.ofProperty = true ∧ text = identifier property.name) ∨
          .name role text ∈ typePieces property.type := by
  rw [← name_mem_memberPieces, ← name_mem_packagePieces]
  unfold pieces preamblePieces
  split
  · rename_i isEmpty
    have none : type.members = [] := by
      have noProperties : type.properties = [] := by simpa [CompanionType.isEmpty] using isEmpty
      simp [CompanionType.members, noProperties]
    simp [none]
  · simp [name_mem_joined_map]

namespace Alphabet

variable (alphabet : Alphabet) {text : String}

theorem starts_of_ascii {c : Char} (ascii : c.toNat < 128) : alphabet.starts c = Naming.isWordStart c := by
  rw [starts, alphabet.letter_of_ascii c ascii, Naming.isWordStart]

theorem continues_of_ascii {c : Char} (ascii : c.toNat < 128) : alphabet.continues c = Naming.isWordPart c := by
  rw [continues, starts, alphabet.letter_of_ascii c ascii, alphabet.digit_of_ascii c ascii, Naming.isWordPart,
    Char.isAlphanum, Bool.or_right_comm]

theorem plain_iff_of_ascii (ascii : ∀ c ∈ text.toList, c.toNat < 128) :
    alphabet.Plain text ↔ Naming.isIdentifier text = true := by
  unfold Plain Naming.isIdentifier
  cases chars : text.toList with
  | nil => simp
  | cons first others =>
      rw [chars] at ascii
      have continues : ∀ c ∈ others, alphabet.continues c = Naming.isWordPart c :=
        fun c member => alphabet.continues_of_ascii (ascii c (List.mem_cons_of_mem _ member))
      rw [Bool.and_eq_true_iff, List.all_eq_true, ← alphabet.starts_of_ascii (ascii first (List.mem_cons_self ..))]
      constructor
      · rintro ⟨_, _, same, startsFirst, continuesOthers⟩
        obtain ⟨rfl, rfl⟩ := List.cons.inj same
        exact ⟨startsFirst, fun c member => continues c member ▸ continuesOthers c member⟩
      · rintro ⟨startsFirst, parts⟩
        exact ⟨first, others, rfl, startsFirst, fun c member => (continues c member).symm ▸ parts c member⟩

theorem plain_of_isIdentifier (isIdentifier : Naming.isIdentifier text = true) : alphabet.Plain text :=
  (alphabet.plain_iff_of_ascii fun _ member => Naming.ascii_of_isIdentifier isIdentifier member).mpr isIdentifier

theorem plain_of_mem_hardKeywords (isKeyword : text ∈ hardKeywords) : alphabet.Plain text := by
  have all : ∀ keyword ∈ hardKeywords, Naming.isIdentifier keyword = true := by decide
  exact alphabet.plain_of_isIdentifier (all text isKeyword)

theorem legal_of_mem_givenNames (given : text ∈ givenNames) : alphabet.Legal text := by
  have all : ∀ name ∈ givenNames, Naming.isIdentifier name = true ∧ name ∉ hardKeywords := by decide
  obtain ⟨isIdentifier, notKeyword⟩ := all text given
  exact .inl ⟨alphabet.plain_of_isIdentifier isIdentifier, notKeyword⟩

theorem not_plain_of_mem {c : Char} (member : c ∈ text.toList) (ascii : c.toNat < 128)
    (never : Naming.isWordPart c = false) : ¬ alphabet.Plain text := by
  rintro ⟨first, others, chars, starts, continues⟩
  rw [chars] at member
  have part : alphabet.continues c = true := by
    obtain rfl | inside := List.mem_cons.mp member
    · rw [Alphabet.continues, starts, Bool.true_or]
    · exact continues c inside
  rw [alphabet.continues_of_ascii ascii, never] at part
  contradiction

end Alphabet

theorem not_quoted_of_not_mem {text : String} (noQuote : '`' ∉ text.toList) : ¬ Quoted text := by
  rintro ⟨inner, -, -, -, rfl⟩
  exact noQuote (by simp)

theorem Alphabet.not_legal_of_raw (alphabet : Alphabet) {name : String} (noQuote : '`' ∉ name.toList) :
    ¬ alphabet.Legal ("r#" ++ name) := by
  have mark : '#' ∈ ("r#" ++ name).toList := by simp
  rintro (⟨plain, -⟩ | quoted)
  · exact alphabet.not_plain_of_mem mark (by decide) (by decide) plain
  · exact not_quoted_of_not_mem (by simpa using noQuote) quoted

/-- A name without back-quotes can be made an identifier exactly if it is plain. -/
theorem Alphabet.legal_identifier_iff (alphabet : Alphabet) {name : String} (noQuote : '`' ∉ name.toList) :
    alphabet.Legal (identifier name) ↔ alphabet.Plain name := by
  unfold identifier
  by_cases isKeyword : name ∈ hardKeywords
  · have plain := alphabet.plain_of_mem_hardKeywords isKeyword
    have nonempty : name ≠ "" := by
      rintro rfl
      revert isKeyword
      decide
    have noLine : '\n' ∉ name.toList := fun member =>
      alphabet.not_plain_of_mem member (by decide) (by decide) plain
    rw [if_pos (List.contains_iff_mem.mpr isKeyword)]
    exact ⟨fun _ => plain, fun _ => .inr ⟨name, nonempty, noQuote, noLine, rfl⟩⟩
  · rw [if_neg (mt List.contains_iff_mem.mp isKeyword)]
    constructor
    · rintro (⟨plain, -⟩ | quoted)
      · exact plain
      · exact absurd quoted (not_quoted_of_not_mem noQuote)
    · exact fun plain => .inl ⟨plain, isKeyword⟩

/-- What the package line has for a segment is made of identifiers exactly if the segment is a hard keyword, or is made of
identifiers as it stands. -/
theorem Alphabet.legal_segmentNames_iff (alphabet : Alphabet) (segment : String) :
    (∀ name ∈ segmentNames segment, alphabet.Legal name) ↔
      segment ∈ hardKeywords ∨ ∀ part ∈ Text.split (· == '.') segment, alphabet.Legal part := by
  unfold segmentNames identifier
  by_cases isKeyword : segment ∈ hardKeywords
  · have all : ∀ keyword ∈ hardKeywords, Text.split (· == '.') ("`" ++ keyword ++ "`") = ["`" ++ keyword ++ "`"] := by
      decide
    have noQuote : ∀ keyword ∈ hardKeywords, '`' ∉ keyword.toList := by decide
    have legal := (alphabet.legal_identifier_iff (noQuote segment isKeyword)).mpr
      (alphabet.plain_of_mem_hardKeywords isKeyword)
    rw [identifier, if_pos (List.contains_iff_mem.mpr isKeyword)] at legal
    rw [if_pos (List.contains_iff_mem.mpr isKeyword), all segment isKeyword]
    exact ⟨fun _ => .inl isKeyword, fun _ name member => List.mem_singleton.mp member ▸ legal⟩
  · rw [if_neg (mt List.contains_iff_mem.mp isKeyword)]
    exact ⟨.inr, fun kind => kind.resolve_left isKeyword⟩

/-- A segment without points and back-quotes makes identifiers exactly if it is plain. -/
theorem Alphabet.legal_segmentNames_iff_plain (alphabet : Alphabet) {segment : String} (noPoint : '.' ∉ segment.toList)
    (noQuote : '`' ∉ segment.toList) :
    (∀ name ∈ segmentNames segment, alphabet.Legal name) ↔ alphabet.Plain segment := by
  rw [← alphabet.legal_identifier_iff noQuote]
  have undivided : segmentNames segment = [identifier segment] := by
    refine Text.split_of_none fun c member => ?_
    refine Bool.eq_false_iff.mpr fun isPoint => noPoint ?_
    rw [← eq_of_beq isPoint]
    unfold identifier at member
    split at member
    · simp only [String.toList_append, List.mem_append] at member
      obtain (quote | inside) | quote := member
      · rw [eq_of_beq isPoint] at quote
        exact absurd quote (by decide)
      · exact inside
      · rw [eq_of_beq isPoint] at quote
        exact absurd quote (by decide)
    · exact member
  rw [undivided]
  simp

/-- The names in a type are identifiers exactly if those that are taken over from Rust are. -/
theorem Alphabet.legal_typePieces_iff (alphabet : Alphabet) (type : TypeRef) :
    (∀ text, .name .type text ∈ typePieces type → alphabet.Legal text) ↔ ∀ name ∈ ownNames type, alphabet.Legal name := by
  have mixes := mixes_typePieces type
  constructor
  · exact fun legal name member => legal name (mixes.complete name member)
  · intro legal text member
    obtain ⟨-, given | own⟩ := mixes.sound .type text member
    · exact alphabet.legal_of_mem_givenNames given
    · exact legal text own

end Companion.Render.Kotlin
