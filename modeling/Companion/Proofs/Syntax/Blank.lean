import Companion.Proofs.Syntax.FunctionReads

/-!
The blank as a name. It can stand for a member of a structure and for an input of a function, but behind a point it is no
field: the value is not read, nor is what it stands in, up to the block of functions.
-/

set_option autoImplicit false

namespace Companion.Syntax

open Companion.Syntax.Parser

variable {g : Grammar} {name : String} {trees middle rest : List Tree}

/-- A member that is called by the blank is read, unless it is a group of members. -/
theorem reads_blankMember {marks : List Attribute} {type : TypeSyntax} {place second : Position}
    (marked : ReadsMarks g trees (.word "_" place :: .sign ':' false second :: middle) marks)
    (noMembers : startsInnerMembers middle = false) (reads : Reads (g.type true) middle rest (·.type = type)) (depth : Nat) :
    Reads (namedMember g (depth + 1)) trees rest
      fun member => member.attributes = marks ∧ member.name = some "_" ∧ member.type = type := by
  have isBlank : Look.word "_" (.word "_" place :: .sign ':' false second :: middle) = true := by simp [Look.word]
  unfold namedMember
  refine .bind (.place _) fun _ _ => .bind marked.reads fun attributes isMarks => ?_
  refine .bind (reads_private (by simp [Look.word])) fun _ _ => .bind (.sees _ _) fun blank seen => ?_
  rw [seen, isBlank]
  refine .bind (.anyWord "_" place _) fun found isName => .bind (.sign rfl) fun _ _ => ?_
  refine .bind (.sees _ _) fun inner noInner => ?_
  rw [noInner, show startsInnerMembers (List.drop ":".length (.sign ':' false second :: middle)) = false from noMembers]
  refine .bind reads fun form isType => .pure ?_
  exact ⟨isMarks, congrArg some isName, isType⟩

theorem fails_blankField (place : Position) (rest : List Tree) : Fails (member g) (.word "_" place :: rest) := by
  have noField : Fails fieldName (.word "_" place :: rest) := by
    unfold fieldName
    exact .no (by simp [Look.identifier, Look.keywords]) (.no rfl (.missing _ _))
  unfold member
  refine .bind (.optionalWord_no (by simp [Look.word])) fun awaited notAwaited => ?_
  rw [notAwaited]
  exact .behind noField _

theorem fails_blankPoint (place second : Position) (rest : List Tree) :
    Fails (trailers.step g .other) (.sign '.' false place :: .word "_" second :: rest) := by
  unfold trailers.step
  refine .no rfl (.yes rfl (.bind (.sign rfl) fun _ _ => .bind (.sees _ _) fun indexed notIndexed => ?_))
  rw [notIndexed]
  have goesOn : Reads (pure true) (.word "_" second :: rest) (.word "_" second :: rest) (· = true) := .pure rfl
  refine .bind goesOn fun more isMore => ?_
  rw [isMore]
  exact .behind (fails_blankField second rest) _

/-- What is called by the blank is no field of a value. -/
theorem fails_blankStatements (first second third : Position) (rest : List Tree) (depth : Nat) :
    Fails (grammar (depth + 3)).statements (.word "self" first :: .sign '.' false second :: .word "_" third :: rest) := by
  have behind : Fails (trailers (grammar (depth + 1)) .other) (.sign '.' false second :: .word "_" third :: rest) := by
    unfold trailers
    exact .behind (FailsToCollect.first (fails_blankPoint second third rest)).fails _
  have value : Fails (operand ⟨grammar (depth + 1), true⟩)
      (.word "self" first :: .sign '.' false second :: .word "_" third :: rest) := by
    unfold operand
    refine .bind (.itemsWhile_nil _ rfl) fun marks _ => .no rfl (.no rfl ?_)
    refine .bind (reads_nameAtom isPathName_self (by decide) first rfl true) fun form isForm => ?_
    rw [isForm]
    exact .behind behind _
  have bounded : Fails (grammar (depth + 2)).boundedExpression
      (.word "self" first :: .sign '.' false second :: .word "_" third :: rest) := by
    show Fails (boundedExpression (grammar (depth + 1))) _
    unfold boundedExpression
    refine .bind (.itemsWhile_nil _ rfl) fun marks _ => .bind (.sees _ _) fun labelled notLabelled => ?_
    refine .bind (.sees _ _) fun block noBlock => ?_
    rw [notLabelled, noBlock]
    exact .behind value _
  have ofSelf : Fails (statement (grammar (depth + 2)))
      (.word "self" first :: .sign '.' false second :: .word "_" third :: rest) := by
    unfold statement
    refine .bind (.get _) fun begun _ => .bind (.captured (.itemsWhile_nil _ rfl)) fun marks _ => ?_
    refine .bind (reads_noCallStart first second) fun start isNone => ?_
    rw [isNone]
    refine .no rfl (.bind (.sees _ _) fun item noItem => ?_)
    rw [noItem]
    exact .bind (.writeAll _ _) fun _ _ => .behind bounded _
  have next : Fails (nextStatement (grammar (depth + 2)))
      (.word "self" first :: .sign '.' false second :: .word "_" third :: rest) := by
    unfold nextStatement
    refine .bind (.optionalSign_no rfl) fun alone notAlone => ?_
    rw [notAlone]
    exact .no rfl (.behind ofSelf _)
  show Fails (statements (grammar (depth + 2))) _
  exact .behind (FailsToCollect.first next).fails _

section Functions

variable {inner : List Tree} {first second opened closed : Position}

theorem fails_method (free : name ∉ Look.keywords) (inputs : ReadsInputs g true false inner) {body : List Tree}
    {third start stop : Position}
    (result : Reads (optionalResult g true) middle (.group .brace body start stop :: rest) fun _ => True)
    (noMark : Look.sign "#" body = false) (statements : Fails g.statements body) :
    Fails (implementationPart g) (.word "pub" third :: .word "fn" first :: .word name second ::
      .group .parenthesis inner opened closed :: middle) := by
  have content : Fails (Syntax.body g) (.group .brace body start stop :: rest) :=
    .group (.bind (.itemsWhile_nil _ (by simp [noMark])) fun _ _ => .behind statements _) .brace start stop rest
  have function : Fails (implementedFunction g)
      (.word "fn" first :: .word name second :: .group .parenthesis inner opened closed :: middle) := by
    refine .bind (reads_signature free inputs result rfl) fun _ _ => .bind (.optionalSign_no rfl) fun ended notEnded => ?_
    rw [notEnded]
    exact .behind content _
  unfold implementationPart
  refine .bind (.get _) fun begun _ => .bind (.itemsWhile_nil _ rfl) fun _ _ => .bind (reads_public third rfl) fun visible isPublic => ?_
  have notDefault : Reads (pure false) (.word "fn" first :: .word name second :: .group .parenthesis inner opened closed :: middle)
      (.word "fn" first :: .word name second :: .group .parenthesis inner opened closed :: middle) (· = false) := .pure rfl
  refine .no rfl (.bind notDefault fun _ _ => .bind (.sees _ _) fun starts isFunction => ?_)
  refine .bind (.sees _ _) fun _ _ => .bind (.sees _ _) fun _ _ => .bind (.sees _ _) fun _ _ => ?_
  rw [isFunction]
  exact .behind function _

theorem fails_implementationItem (free : name ∉ Look.keywords)
    (reads : Reads (g.type true) (.word name second :: .group .brace inner opened closed :: rest)
      (.group .brace inner opened closed :: rest) fun _ => True)
    (noMark : Look.sign "#" inner = false)
    (parts : FailsToCollect (unlessStopped Look.atEnd (implementationPart g)) inner) {marks : List Attribute}
    (marked : ReadsMarks g trees (.word "impl" first :: .word name second :: .group .brace inner opened closed :: rest) marks) :
    Fails (item g) trees := by
  have noConst : Reads optionalConstImplementation (.word name second :: .group .brace inner opened closed :: rest)
      (.word name second :: .group .brace inner opened closed :: rest) (· = false) :=
    .no rfl (.optionalWord_no (word_of_free free (by decide) second))
  have block : Fails (implementationItem g false)
      (.word "impl" first :: .word name second :: .group .brace inner opened closed :: rest) := by
    unfold implementationItem
    refine .bind (.optionalWord_no rfl) fun _ _ => .bind (.optionalWord_no rfl) fun _ _ => .bind (.word "impl" first _) fun _ _ => ?_
    refine .no rfl (.bind noConst fun constant notConstant => .bind (.place _) fun mark _ => ?_)
    refine .bind (.sees _ _) fun negative notNegative => ?_
    rw [notNegative]
    refine .bind (.captured reads) fun found _ => .bind (.writeAll _ _) fun _ _ => ?_
    refine .bind (.optionalWord_no rfl) fun isFor notFor => ?_
    rw [notFor]
    have own : Reads (pure (found.2, true)) (.group .brace inner opened closed :: rest)
        (.group .brace inner opened closed :: rest) (· = (found.2, true)) := .pure rfl
    refine .bind own fun target isTarget => .bind (reads_noClauses rfl) fun _ _ => .group ?_ .brace opened closed rest
    exact .bind (.itemsWhile_nil _ (by simp [noMark])) fun marks _ => .behind parts.fails _
  have body : Fails (itemBody g none) (.word "impl" first :: .word name second :: .group .brace inner opened closed :: rest) := by
    unfold itemBody
    refine .no rfl (.no rfl (.no rfl (.no rfl (.no rfl (.no rfl (.no rfl (.no rfl (.no rfl (.no rfl ?_)))))))))
    exact .no rfl (.no rfl (.no rfl (.yes rfl block)))
  unfold item
  refine .bind (.get _) fun _ _ => .bind (.place _) fun place _ => .bind marked.reads fun outer isMarks => ?_
  refine .bind (.place _) fun _ _ => .bind (reads_private rfl) fun visible notVisible => ?_
  rw [notVisible]
  exact .behind body _

end Functions

end Companion.Syntax
