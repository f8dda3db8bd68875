import Companion.Proofs.Syntax.Forms
import Companion.Proofs.Syntax.TypeNames

set_option autoImplicit false

namespace Companion.Syntax

open Companion.Syntax.Parser
open Companion.Syntax.Form (AllFit Front Fits frontOf texts)

def colons : List Form := [.sign ':' true, .sign ':' false]

/-- Names of a path, with two colons behind each of them. -/
def leadingForms : List String → List Form
  | [] => []
  | name :: names => .word name :: colons ++ leadingForms names

def pathForms (absolute : Bool) (leading : List String) (last : String) : List Form :=
  (if absolute then colons else []) ++ leadingForms leading ++ [.word last]

namespace TypeSyntax

def isAbsolute : TypeSyntax → Bool
  | path absolute _ _ _ => absolute
  | _ => false

mutual

/-- The forms of a type made of paths; `joint` tells whether a sign stands behind it. -/
def forms (joint : Bool) : TypeSyntax → List Form
  | path absolute leading last arguments => pathForms absolute leading last ++ argumentForms joint arguments
  | parenthesized _ | other _ => []

def argumentForms (joint : Bool) : List TypeSyntax → List Form
  | [] => []
  | type :: types => .sign '<' type.isAbsolute :: (forms true type ++ (furtherForms types ++ [.sign '>' joint]))

def furtherForms : List TypeSyntax → List Form
  | [] => []
  | type :: types => .sign ',' false :: .blank " " :: (forms true type ++ furtherForms types)

end

mutual

def Plain : TypeSyntax → Prop
  | path _ _ _ arguments => AllPlain arguments
  | parenthesized _ | other _ => False

def AllPlain : List TypeSyntax → Prop
  | [] => True
  | type :: types => Plain type ∧ AllPlain types

end

theorem allPlain_iff {types : List TypeSyntax} : AllPlain types ↔ ∀ type ∈ types, type.Plain := by
  induction types with
  | nil => simp [AllPlain]
  | cons type types ih => simp [AllPlain, ih]

end TypeSyntax

theorem isWord_of_isPathName {name : String} (isName : IsPathName name) : IsWord name := by
  rcases isName with isSegment | isBare
  · exact isSegment.1
  · have words : ∀ name ∈ bareNames, IsIdentifier name := by decide +kernel
    exact .inl (words name isBare)

namespace TypeSyntax

def front (type : TypeSyntax) : Front :=
  if type.isAbsolute then .sign ':' else .word

theorem frontOf_forms {type : TypeSyntax} (plain : type.Plain) (joint : Bool) (behind : Front) (others : List Form) :
    frontOf behind (type.forms joint ++ others) = type.front := by
  cases type with
  | path absolute leading last arguments =>
      cases absolute with
      | true => rfl
      | false => cases leading <;> rfl
  | parenthesized => contradiction
  | other => contradiction

theorem frontOf_leadingForms (names : List String) (last : String) (forms : List Form) (behind : Front) :
    frontOf behind (leadingForms names ++ .word last :: forms) = .word := by
  cases names <;> rfl

theorem allFit_colons {forms : List Form} {behind : Front} (front : frontOf behind forms = .word) (fit : AllFit behind forms) :
    AllFit behind (colons ++ forms) :=
  ⟨⟨by decide, rfl⟩, ⟨by decide, (congrArg Front.isSign front).symm⟩, fit⟩

theorem allFit_leadingForms {names : List String} (areNames : ∀ name ∈ names, IsPathName name) {last : String}
    {forms : List Form} {behind : Front} (fit : AllFit behind (.word last :: forms)) :
    AllFit behind (leadingForms names ++ .word last :: forms) := by
  induction names with
  | nil => exact fit
  | cons name names ih =>
      have others := ih fun other member => areNames other (List.mem_cons_of_mem _ member)
      have isWord := isWord_of_isPathName (areNames name List.mem_cons_self)
      have whole : leadingForms (name :: names) ++ .word last :: forms =
          .word name :: (colons ++ (leadingForms names ++ .word last :: forms)) := by simp [leadingForms]
      rw [whole]
      exact ⟨⟨isWord, rfl⟩, allFit_colons (frontOf_leadingForms names last forms behind) others⟩

theorem allFit_pathForms {absolute : Bool} {leading : List String} {last : String}
    (areNames : ∀ name ∈ leading ++ [last], IsPathName name) {forms : List Form} {behind : Front}
    (ends : (frontOf behind forms).endsWord = true) (fit : AllFit behind forms) :
    AllFit behind (pathForms absolute leading last ++ forms) := by
  have isLast := isWord_of_isPathName (areNames last (by simp))
  have names := allFit_leadingForms (fun name member => areNames name (List.mem_append_left _ member))
    (show AllFit behind (.word last :: forms) from ⟨⟨isLast, ends⟩, fit⟩)
  have whole : pathForms absolute leading last ++ forms =
      (if absolute then colons else []) ++ (leadingForms leading ++ .word last :: forms) := by simp [pathForms]
  rw [whole]
  cases absolute with
  | true => exact allFit_colons (frontOf_leadingForms leading last forms behind) names
  | false => exact names

theorem front_isSign (type : TypeSyntax) : type.front.isSign = type.isAbsolute := by
  unfold front
  cases type.isAbsolute <;> rfl

mutual

/-- A type that is written fits what stands behind it, if that ends a word. -/
theorem allFit_forms {type : TypeSyntax} (plain : type.Plain) (sound : type.Sound) {forms : List Form} {behind : Front}
    (ends : (frontOf behind forms).endsWord = true) (fit : AllFit behind forms) :
    AllFit behind (type.forms (frontOf behind forms).isSign ++ forms) := by
  cases type with
  | parenthesized => contradiction
  | other => contradiction
  | path absolute leading last arguments =>
      rcases sound with ⟨areNames, -, -, argumentsSound⟩
      rw [TypeSyntax.forms, List.append_assoc]
      cases arguments with
      | nil => exact allFit_pathForms areNames ends fit
      | cons first others =>
          have closed : AllFit behind (.sign '>' (frontOf behind forms).isSign :: forms) := ⟨⟨by decide, rfl⟩, fit⟩
          rcases allFit_furtherForms plain.2 argumentsSound.2 closed rfl rfl with ⟨further, furtherEnds, furtherSign⟩
          have firstFits := allFit_forms plain.1 argumentsSound.1 furtherEnds further
          rw [furtherSign] at firstFits
          have opens : first.isAbsolute = (frontOf behind (first.forms true ++ (furtherForms others ++
              .sign '>' (frontOf behind forms).isSign :: forms))).isSign := by
            rw [frontOf_forms plain.1, front_isSign]
          have whole : argumentForms (frontOf behind forms).isSign (first :: others) ++ forms =
              .sign '<' first.isAbsolute :: (first.forms true ++ (furtherForms others ++
                .sign '>' (frontOf behind forms).isSign :: forms)) := by simp [argumentForms]
          rw [whole]
          exact allFit_pathForms areNames rfl ⟨⟨by decide, opens⟩, firstFits⟩

theorem allFit_furtherForms {types : List TypeSyntax} (plain : AllPlain types) (sound : AllSound types) {forms : List Form}
    {behind : Front} (fit : AllFit behind forms) (ends : (frontOf behind forms).endsWord = true)
    (isSign : (frontOf behind forms).isSign = true) :
    AllFit behind (furtherForms types ++ forms) ∧ (frontOf behind (furtherForms types ++ forms)).endsWord = true ∧
      (frontOf behind (furtherForms types ++ forms)).isSign = true := by
  cases types with
  | nil => exact ⟨fit, ends, isSign⟩
  | cons type types =>
      rcases allFit_furtherForms plain.2 sound.2 fit ends isSign with ⟨further, furtherEnds, furtherSign⟩
      have firstFits := allFit_forms plain.1 sound.1 furtherEnds further
      rw [furtherSign] at firstFits
      have whole : furtherForms (type :: types) ++ forms =
          .sign ',' false :: .blank " " :: (type.forms true ++ (furtherForms types ++ forms)) := by simp [furtherForms]
      rw [whole]
      exact ⟨⟨⟨by decide, rfl⟩, ⟨by decide, by simp⟩, firstFits⟩, rfl, rfl⟩

end

end TypeSyntax

end Companion.Syntax
