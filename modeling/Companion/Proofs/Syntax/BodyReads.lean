import Companion.Proofs.Syntax.RecordReads

set_option autoImplicit false

namespace Companion.Syntax

open Companion.Syntax.Parser

variable {g : Grammar} {name : String} {place : Position} {trees rest : List Tree}

/-- Whether a value ends here: with a point, an equals sign or a semicolon that is a sign of its own, or with the group. -/
def endsValue : Look
  | [] => true
  | .sign char joint _ :: _ => ".=;".toList.contains char && !joint
  | _ => false

/-- What stands behind a value is no operator of several signs, and opens nothing. -/
theorem endsValue_cases (ends : endsValue rest = true) :
    rest = [] ∨ ∃ char place others, char ∈ ".=;".toList ∧ rest = .sign char false place :: others := by
  cases rest with
  | nil => exact .inl rfl
  | cons tree others =>
      cases tree with
      | sign char joint place =>
          obtain ⟨isEnd, alone⟩ := Bool.and_eq_true_iff.mp ends
          obtain rfl : joint = false := by simpa using alone
          exact .inr ⟨char, place, others, List.contains_iff_mem.mp isEnd, rfl⟩
      | word | lifetime | literal | group => contradiction

/-- Whether an operator is none of the signs that end a value. -/
def endsNoValue (text : String) : Bool :=
  match text.toList with
  | [] => false
  | char :: others => !others.isEmpty || !".=;".toList.contains char

theorem sign_of_endsValue (ends : endsValue rest = true) {text : String} (other : endsNoValue text = true) :
    Look.sign text rest = false := by
  unfold Look.sign
  unfold endsNoValue at other
  split at other
  · contradiction
  · rename_i char others chars
    rw [chars]
    rcases endsValue_cases ends with rfl | ⟨found, place, behind, isEnd, rfl⟩
    · cases others <;> rfl
    · cases others with
      | nil =>
          have different : found ≠ char := by
            rintro rfl
            exact absurd isEnd (by simpa using other)
          simp [Look.signs, different]
      | cons => simp [Look.signs]

theorem group_of_endsValue (ends : endsValue rest = true) (delimiter : Delimiter) : Look.group delimiter rest = false := by
  rcases endsValue_cases ends with rfl | ⟨found, place, behind, -, rfl⟩ <;> rfl

/-- What begins a type can also begin the path of a value. -/
theorem StartsType.pathExpression (starts : StartsType trees) : startsPathExpression trees = true := by
  have path := starts.path
  cases starts with
  | name =>
      simp only [startsPath, startsPathExpression, Look.oneOf, List.contains_eq_mem, Bool.or_eq_true, decide_eq_true_eq,
        List.mem_cons, List.not_mem_nil] at path ⊢
      grind
  | root => rfl

theorem reads_barePath (isName : IsPathName name) (place : Position) (noColons : Look.sign "::" rest = false) :
    Reads (path g .inExpression) (.word name place :: rest) rest (· = ⟨false, [⟨name, .none⟩]⟩) := by
  have alone : opensAngle .inExpression rest = false := by simp [opensAngle, noColons]
  refine .bind (.optionalSign_no rfl) fun absolute isRelative => ?_
  refine .bind (reads_bareSegment isName .inExpression place alone) fun segment isSegment => ?_
  refine .bind (.itemsWhile_nil _ (by simp [noColons])) fun others none => .pure ?_
  rw [isRelative, isSegment, none]

theorem reads_nameAtom (isName : IsPathName name) (noTry : name ≠ "try") (place : Position) (ends : endsValue rest = true)
    (fieldsAllowed : Bool) : Reads (atom ⟨g, fieldsAllowed⟩) (.word name place :: rest) rest (· = .other) := by
  have starts : StartsType (.word name place :: rest) := .name isName noTry place rest
  have noColons : Look.sign "::" rest = false := sign_of_endsValue ends rfl
  have noCall : Look.sign "!" rest = false := sign_of_endsValue ends rfl
  have noMark : Look.sign "#" rest = false := sign_of_endsValue ends rfl
  have noWord : ∀ keyword ∈ ["async", "move", "for", "const", "static"],
      Look.word keyword (.word name place :: rest) = false := by
    have reserved : ∀ keyword ∈ ["async", "move", "for", "const", "static"],
        keyword ∈ Look.keywords ∧ keyword ∉ "Self" :: bareNames := by decide
    exact fun keyword member => starts.word (reserved keyword member).1 (reserved keyword member).2
  have noClosure : startsClosure (.word name place :: rest) = false := by
    simp [startsClosure, noWord, show Look.sign "|" (.word name place :: rest) = false from rfl]
  have expression : Reads (pathExpression ⟨g, fieldsAllowed⟩) (.word name place :: rest) rest (· = .other) := by
    have path : Reads (qualifiedPath g .inExpression) (.word name place :: rest) rest
        (· = some ⟨false, [⟨name, .none⟩]⟩) :=
      .no rfl (.bind (reads_barePath isName place noColons) fun form same => .pure (congrArg some same))
    refine .bind path fun form same => ?_
    rw [same]
    refine .bind (.sees _ _) fun calls notCalled => ?_
    rw [notCalled, startsCall, noCall]
    refine .bind (.sees _ _) fun opens notOpened => ?_
    rw [notOpened, group_of_endsValue ends, Bool.and_false]
    exact .pure rfl
  unfold atom
  refine .no starts.literal (.no (by simp [startsAsyncBlock, noWord]) (.no ?_ (.no noClosure (.no ?_ (.yes starts.pathExpression expression)))))
  · simp [Look.word, noTry]
  · simp [Look.second, noMark]

theorem reads_fieldName (free : name ∉ Look.keywords) (place : Position) (rest : List Tree) :
    Reads fieldName (.word name place :: rest) rest (· = true) :=
  .yes (by simp [Look.identifier, free]) (.bind (.identifier free place rest) fun _ _ => .pure rfl)

theorem reads_field (free : name ∉ Look.keywords) (place : Position) (ends : endsValue rest = true) :
    Reads (member g) (.word name place :: rest) rest fun _ => True := by
  have noColons : Look.sign "::" rest = false := sign_of_endsValue ends rfl
  unfold member
  refine .bind (.optionalWord_no (word_of_free free (by decide) place)) fun awaited notAwaited => ?_
  rw [notAwaited]
  refine .bind (reads_fieldName free place rest) fun named isNamed => .bind (.sees _ _) fun turbo noTurbo => ?_
  rw [isNamed, noTurbo, noColons]
  have none : Reads (pure false) rest rest (· = false) := .pure rfl
  refine .bind none fun arguments isNone => .bind (.sees _ _) fun called notCalled => ?_
  rw [isNone, notCalled, group_of_endsValue ends]
  exact .pure trivial

/-- A call without arguments is read behind the point. -/
theorem reads_call (free : name ∉ Look.keywords) (place opened closed : Position) (rest : List Tree) :
    Reads (member g) (.word name place :: .group .parenthesis [] opened closed :: rest) rest fun _ => True := by
  have nothing : Reads (separated .commas (g.expression true)) [] [] fun _ => True :=
    (ReadsPieces.nil _ rfl).separated fun _ _ => trivial
  unfold member
  refine .bind (.optionalWord_no (word_of_free free (by decide) place)) fun awaited notAwaited => ?_
  rw [notAwaited]
  refine .bind (reads_fieldName free place _) fun named isNamed => .bind (.sees _ _) fun turbo noTurbo => ?_
  rw [isNamed, noTurbo]
  have none : Reads (pure false) (.group .parenthesis [] opened closed :: rest)
      (.group .parenthesis [] opened closed :: rest) (· = false) := .pure rfl
  refine .bind none fun arguments isNone => .bind (.sees _ _) fun called isCalled => ?_
  rw [isNone, isCalled]
  exact .bind (.group nothing .parenthesis opened closed rest) fun _ _ => .pure trivial

/-- A field or a method of a value that is no range. -/
theorem reads_point {inner : Position} (reads : Reads (member g) (.word name inner :: trees) rest fun _ => True)
    (place : Position) : Reads (trailers.step g .other) (.sign '.' false place :: .word name inner :: trees) rest
      fun found => ∃ value, found = some value ∧ True := by
  unfold trailers.step
  refine .no rfl (.yes rfl (.bind (.sign rfl) fun _ _ => .bind (.sees _ _) fun indexed notIndexed => ?_))
  rw [notIndexed]
  have goesOn : Reads (pure true) (.word name inner :: trees) (.word name inner :: trees) (· = true) := .pure rfl
  refine .bind goesOn fun more isMore => ?_
  rw [isMore]
  exact .bind reads fun _ _ => .pure ⟨(), rfl, trivial⟩

theorem reads_noTrailer (ends : endsValue rest = true) (noPoint : Look.sign "." rest = false) :
    Reads (trailers.step g .other) rest rest (· = none) := by
  have noQuestion : Look.sign "?" rest = false := sign_of_endsValue ends rfl
  unfold trailers.step
  exact .no (group_of_endsValue ends _) (.no (by simp [noPoint]) (.no (group_of_endsValue ends _)
    (.no (by simp [noQuestion]) (.pure rfl))))

theorem reads_operand (isName : IsPathName name) (noTry : name ≠ "try") (place : Position) (ends : endsValue trees = true)
    {holds : List Unit → Prop} (collects : Collects (trailers.step g .other) trees rest holds) (fieldsAllowed : Bool) :
    Reads (operand ⟨g, fieldsAllowed⟩) (.word name place :: trees) rest (· = .other) := by
  have behind : Reads (trailers g .other) trees rest (· = .other) :=
    .bind collects.reads fun found _ => .pure (by simp)
  unfold operand
  refine .bind (.itemsWhile_nil _ rfl) fun marks noMarks => .no rfl (.no rfl ?_)
  refine .bind (reads_nameAtom isName noTry place ends fieldsAllowed) fun first isFirst => ?_
  rw [isFirst]
  refine .bind behind fun form isForm => ?_
  rw [isForm]
  exact .pure rfl

section Operators

variable {here : Surroundings}

theorem next?_of_endsValue (ends : endsValue rest = true) : Operator.next? rest = none := by
  have others : ∀ operator ∈ Operator.all, endsNoValue operator.signs = true := by decide
  refine List.find?_eq_none.mpr fun operator member => ?_
  simp [sign_of_endsValue ends (others operator member)]

theorem word_of_endsValue (ends : endsValue rest = true) (text : String) : Look.word text rest = false := by
  rcases endsValue_cases ends with rfl | ⟨found, place, behind, -, rfl⟩ <;> rfl

/-- Whether an operand is the last one: no operator stands behind it, not even an assignment. -/
structure EndsOperand (rest : List Tree) : Prop where
  value : endsValue rest = true
  noEquals : Look.sign "=" rest = false

namespace EndsOperand

theorem noAssignment (ends : EndsOperand rest) : startsAssignment rest = false := by
  simp [startsAssignment, ends.noEquals]

theorem nextPrecedence (ends : EndsOperand rest) : nextPrecedence rest = .weakest := by
  simp [Syntax.nextPrecedence, next?_of_endsValue ends.value, ends.noAssignment, sign_of_endsValue ends.value,
    word_of_endsValue ends.value, endsNoValue]

end EndsOperand

theorem reads_noOperator (ends : EndsOperand rest) (fuel : Nat) :
    Reads (operatorsWithin here (fuel + 1) .other .weakest) rest rest (· = .other) := by
  have noDots : Look.sign ".." rest = false := sign_of_endsValue ends.value rfl
  unfold operatorsWithin
  refine .bind (.get rest) fun stream isRest => ?_
  rw [isRest, next?_of_endsValue ends.value]
  simp only [ends.noAssignment, noDots, word_of_endsValue ends.value]
  exact .pure rfl

theorem reads_assigned (reads : Reads here.operand trees rest (· = .other))
    (ends : EndsOperand rest) (fuel : Nat) :
    Reads (rightSideWithin here (fuel + 2) .assignment) trees rest fun _ => True := by
  unfold rightSideWithin
  refine .bind reads fun first _ => ?_
  unfold strongerWithin
  refine .bind (.get rest) fun stream isRest => ?_
  rw [isRest, ends.nextPrecedence]
  exact .pure trivial

theorem reads_assignment (reads : Reads here.operand trees rest (· = .other)) (ends : EndsOperand rest) (fuel : Nat)
    (place : Position) :
    Reads (operatorsWithin here (fuel + 3) .other .weakest) (.sign '=' false place :: trees) rest (· = .other) := by
  have begins : startsAssignment (.sign '=' false place :: trees) = true := rfl
  unfold operatorsWithin
  refine .bind (.get _) fun stream isTrees => ?_
  rw [isTrees, next?_of_endsValue rfl]
  simp only [begins]
  refine .bind (.sign rfl) fun _ _ => .bind (reads_assigned reads ends fuel) fun _ _ => ?_
  exact reads_noOperator ends (fuel + 1)

/-- Operators are read with as many steps as there are trees. -/
theorem reads_operators {form : ExpressionForm}
    (reads : ∀ fuel, Reads (operatorsWithin here (fuel + 3) form .weakest) trees rest (· = .other)) :
    Reads (operators here form) trees rest (· = .other) := by
  intro before isTrees whole
  exact reads (4 * before.trees.length + 1) before isTrees whole

end Operators

/-- No call of a named rule begins with `self` and a point. -/
theorem reads_noCallStart (place second : Position) :
    Reads callStart (.word "self" place :: .sign '.' false second :: trees) (.word "self" place :: .sign '.' false second :: trees)
      (· = none) := by
  have name : Reads (do
      let _ ← namePath
      let stream ← get
      return stream.trees) (.word "self" place :: .sign '.' false second :: trees) (.sign '.' false second :: trees)
      (· = .sign '.' false second :: trees) :=
    .bind (reads_namePath rfl rfl) fun _ _ => .bind (.get _) fun stream same => .pure same
  unfold callStart
  refine .bind (.ahead name) fun behind found => ?_
  rcases found with ⟨_, rfl, rfl⟩
  exact .pure rfl

/-- A statement that begins with `self` and a point, and is no binding, no item and no call of a named rule. -/
theorem reads_selfStatement {form : StatementForm} (place second : Position)
    (reads : Reads (expressionStatement g) (.word "self" place :: .sign '.' false second :: trees) rest (· = form)) :
    Reads (statement g) (.word "self" place :: .sign '.' false second :: trees) rest (· = form) := by
  unfold statement
  refine .bind (.get _) fun begun _ => .bind (.captured (.itemsWhile_nil _ rfl)) fun marks _ => ?_
  refine .bind (reads_noCallStart place second) fun start isNone => ?_
  rw [isNone]
  refine .no rfl (.bind (.sees _ _) fun item noItem => ?_)
  rw [noItem]
  exact .bind (.writeAll _ _) fun _ _ => reads

/-- An expression that begins with `self` is read as a statement's. -/
theorem reads_boundedExpression (place : Position) {middle : List Tree}
    (first : Reads (operand ⟨g, true⟩) (.word "self" place :: trees) middle (· = .other))
    (others : Reads (operators ⟨g, true⟩ .other) middle rest (· = .other)) :
    Reads (boundedExpression g) (.word "self" place :: trees) rest (· = .other) := by
  unfold boundedExpression
  refine .bind (.itemsWhile_nil _ rfl) fun marks _ => .bind (.sees _ _) fun labelled notLabelled => ?_
  refine .bind (.sees _ _) fun block noBlock => ?_
  rw [notLabelled, noBlock]
  refine .bind first fun form isForm => ?_
  rw [isForm]
  exact others

theorem reads_lastExpression (reads : Reads g.boundedExpression trees [] (· = .other)) :
    Reads (expressionStatement g) trees [] (· = .needsSemicolon) := by
  refine .bind reads fun form isForm => .bind (.optionalSign_no rfl) fun ended notEnded => ?_
  rw [isForm, notEnded]
  exact .pure rfl

theorem reads_endedExpression {joint : Bool} {place : Position}
    (reads : Reads g.boundedExpression trees (.sign ';' joint place :: rest) (· = .other)) :
    Reads (expressionStatement g) trees rest (· = .complete) := by
  refine .bind reads fun form isForm => .bind (.optionalSign_yes rfl) fun ended isEnded => ?_
  rw [isEnded]
  exact .pure rfl

/-- The next statement of a block, or a semicolon that stands alone. -/
def nextStatement (g : Grammar) : Parser (Option Unit) := do
  if ← optionalSign ";" then return some ()
  if ← sees Look.atEnd then return none
  let form ← statement g
  if form == .needsSemicolon && !(← sees Look.atEnd) then broken (← Parser.place) .statementEnds
  return some ()

/-- A single statement is read as the content of a block. -/
theorem reads_statements {form : StatementForm} {tree : Tree} (noSemicolon : Look.sign ";" (tree :: trees) = false)
    (reads : Reads (statement g) (tree :: trees) [] (· = form)) : Reads (statements g) (tree :: trees) [] fun _ => True := by
  have first : Reads (nextStatement g) (tree :: trees) [] fun found => ∃ value, found = some value ∧ True := by
    refine .bind (.optionalSign_no noSemicolon) fun alone notAlone => ?_
    rw [notAlone]
    refine .no rfl (.bind reads fun form _ => .bind (.sees _ _) fun atEnd isAtEnd => ?_)
    rw [isAtEnd, show Look.atEnd [] = true from rfl, Bool.not_true, Bool.and_false]
    exact .pure ⟨(), rfl, trivial⟩
  have last : Reads (nextStatement g) [] [] (· = none) := by
    refine .bind (.optionalSign_no rfl) fun alone notAlone => ?_
    rw [notAlone]
    exact .yes rfl (.pure rfl)
  have collected : Reads (collecting (nextStatement g)) (tree :: trees) [] _ :=
    (Collects.cons first (Nat.succ_pos _) (.nil last)).reads
  exact .bind collected fun _ _ => .pure trivial

section Bodies

variable {field : String} {first second third fourth fifth sixth seventh : Position}

theorem isPathName_self : IsPathName "self" := .inr (by decide)

theorem isPathName_of_free (isWord : IsWord field) (free : field ∉ Look.keywords) : IsPathName field :=
  .inl ⟨isWord, .inl free⟩

/-- A call on a field of `self` is read as the content of a block. -/
theorem reads_lending (free : field ∉ Look.keywords) (depth : Nat) :
    Reads (grammar (depth + 3)).statements [.word "self" first, .sign '.' false second, .word field third,
      .sign '.' false fourth, .word "as_ref" fifth, .group .parenthesis [] sixth seventh] [] fun _ => True := by
  have points : Collects (trailers.step (grammar (depth + 1)) .other) [.sign '.' false second, .word field third,
      .sign '.' false fourth, .word "as_ref" fifth, .group .parenthesis [] sixth seventh] [] _ :=
    .cons (reads_point (reads_field free third rfl) second) (by simp)
      (.cons (reads_point (reads_call (by decide) fifth sixth seventh []) fourth) (by simp)
        (.nil (reads_noTrailer rfl rfl)))
  have value := reads_operand isPathName_self (by decide) first rfl points true
  have others : Reads (operators ⟨grammar (depth + 1), true⟩ .other) [] [] (· = .other) :=
    reads_operators fun fuel => reads_noOperator ⟨rfl, rfl⟩ (fuel + 2)
  have bounded : Reads (grammar (depth + 2)).boundedExpression _ [] (· = .other) :=
    reads_boundedExpression first value others
  exact reads_statements rfl (reads_selfStatement first second (reads_lastExpression bounded))

/-- An assignment to a field of `self` is read as the content of a block. -/
theorem reads_storing (isWord : IsWord field) (free : field ∉ Look.keywords) (depth : Nat) :
    Reads (grammar (depth + 3)).statements [.word "self" first, .sign '.' false second, .word field third,
      .sign '=' false fourth, .word field fifth, .sign ';' false sixth] [] fun _ => True := by
  have points : Collects (trailers.step (grammar (depth + 1)) .other) [.sign '.' false second, .word field third,
      .sign '=' false fourth, .word field fifth, .sign ';' false sixth] [.sign '=' false fourth, .word field fifth,
      .sign ';' false sixth] _ :=
    .cons (reads_point (reads_field free third rfl) second) (by simp) (.nil (reads_noTrailer rfl rfl))
  have value := reads_operand isPathName_self (by decide) first rfl points true
  have stored : Reads (Surroundings.operand ⟨grammar (depth + 1), true⟩) [.word field fifth, .sign ';' false sixth]
      [.sign ';' false sixth] (· = .other) :=
    reads_operand (isPathName_of_free isWord free) (ne_of_free free (by decide)) fifth rfl (.nil (reads_noTrailer rfl rfl)) true
  have others := reads_operators fun fuel => reads_assignment stored ⟨rfl, rfl⟩ fuel fourth
  have bounded : Reads (grammar (depth + 2)).boundedExpression _ [.sign ';' false sixth] (· = .other) :=
    reads_boundedExpression first value others
  exact reads_statements rfl (reads_selfStatement first second (reads_endedExpression bounded))

end Bodies

end Companion.Syntax
