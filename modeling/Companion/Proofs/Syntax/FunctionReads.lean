import Companion.Proofs.Syntax.BodyReads

set_option autoImplicit false

namespace Companion.Syntax

open Companion.Syntax.Parser

variable {g : Grammar} {name : String} {trees middle rest : List Tree}

/-- A reference to the value that a method belongs to. -/
theorem reads_receiver {place : Position} (noLifetime : Look.lifetime trees = false)
    (mutable : Reads (optionalWord "mut") trees (.word "self" place :: rest) fun _ => True) (joint : Bool) (opened : Position) :
    Reads (receiver g) (.sign '&' joint opened :: trees) rest fun found => ∃ place, found = .receiver place := by
  unfold receiver
  refine .bind (.optionalSign_yes (by simp [Look.sign, Look.signs])) fun reference isReference => ?_
  rw [isReference]
  refine .bind (.optionalLifetime_no noLifetime) fun _ _ => .bind mutable fun _ _ => .bind (.place _) fun place _ => ?_
  exact .bind (.word "self" _ rest) fun _ _ => .pure ⟨place, rfl⟩

/-- An input that is a reference to the value that a method belongs to. -/
theorem reads_receiverInput {place : Position} (noLifetime : Look.lifetime trees = false)
    (mutable : Reads (optionalWord "mut") trees (.word "self" place :: rest) fun _ => True) (joint : Bool) (opened : Position) :
    Reads (input g) (.sign '&' joint opened :: trees) rest fun found => ∃ place, found = .receiver place := by
  have noDots : Look.sign "..." (.sign '&' joint opened :: trees) = false := by simp [Look.sign, Look.signs]
  unfold input
  refine .bind (.itemsWhile_nil _ (by simp [Look.sign, Look.signs])) fun _ _ => .bind (.optionalSign_no noDots) fun isOpen notOpen => ?_
  rw [notOpen]
  refine .bind (.attempt (reads_receiver noLifetime mutable joint opened)) fun found something => ?_
  rcases something with ⟨value, rfl, isReceiver⟩
  exact .pure isReceiver

theorem reads_namePattern (free : name ∉ Look.keywords) (place second : Position) :
    Reads (singlePattern g) (.word name place :: .sign ':' false second :: rest) (.sign ':' false second :: rest)
      fun _ => True := by
  have noWord : ∀ keyword ∈ Look.keywords, Look.word keyword (.word name place :: .sign ':' false second :: rest) = false :=
    fun keyword reserved => word_of_free free reserved place
  have noOneOf : ∀ keywords, (∀ keyword ∈ keywords, keyword ∈ Look.keywords) →
      Look.oneOf keywords (.word name place :: .sign ':' false second :: rest) = false := by
    intro keywords reserved
    refine Bool.eq_false_iff.mpr fun found => free (reserved name (List.contains_iff_mem.mp found))
  have isIdentifier : Look.identifier (.word name place :: .sign ':' false second :: rest) = true := by
    simp [Look.identifier, free]
  have noSelf := noWord "self" (by decide)
  have noPath : startsPathPattern (.word name place :: .sign ':' false second :: rest) = false := by
    simp [startsPathPattern, noOneOf ["Self", "super", "crate"] (by decide), noSelf, Look.sign, Look.signs, Look.group]
  have noValue : singlePattern.startsValue (.word name place :: .sign ':' false second :: rest) = false := by
    have noTrue := ne_of_free free (show "true" ∈ Look.keywords by decide)
    have noFalse := ne_of_free free (show "false" ∈ Look.keywords by decide)
    simp [singlePattern.startsValue, noWord "const" (by decide), Look.sign, Look.signs, Look.literal, noTrue, noFalse]
  have isBinding : singlePattern.startsBinding (.word name place :: .sign ':' false second :: rest) = true := by
    simp [singlePattern.startsBinding, isIdentifier]
  unfold singlePattern
  refine .no noPath (.no (noWord "_" (by decide)) (.no (noWord "box" (by decide)) (.no noValue (.yes isBinding ?_))))
  refine .bind (.optionalWord_no (noWord "ref" (by decide))) fun _ _ => ?_
  refine .bind (.optionalWord_no (noWord "mut" (by decide))) fun _ _ => .bind (.sees _ _) fun isSelf notSelf => ?_
  rw [notSelf, noSelf]
  refine .bind (.identifier free place _) fun _ _ => .bind (.optionalSign_no rfl) fun inner noInner => ?_
  rw [noInner]
  exact .pure trivial

theorem reads_namedInput (free : name ∉ Look.keywords) (place second : Position)
    (pattern : Reads g.singlePattern (.word name place :: .sign ':' false second :: trees) (.sign ':' false second :: trees)
      fun _ => True) (noDots : Look.sign "..." trees = false) (type : Reads (g.type true) trees rest fun _ => True) :
    Reads (input g) (.word name place :: .sign ':' false second :: trees) rest (· = .plain) := by
  have noReceiver : Fails (receiver g) (.word name place :: .sign ':' false second :: trees) := by
    refine .bind (.optionalSign_no rfl) fun reference notReference => ?_
    rw [notReference]
    refine .bind (.optionalWord_no (word_of_free free (by decide) place)) fun _ _ => .bind (.place _) fun _ _ => ?_
    exact .behind (.word (word_of_free free (by decide) place)) _
  have plain : Reads (plainInput g) (.word name place :: .sign ':' false second :: trees) rest (· = .plain) := by
    unfold plainInput
    refine .no (by simp [Look.second, Look.sign, Look.signs]) (.bind pattern fun _ _ => .bind (.sign rfl) fun _ _ => ?_)
    refine .bind (.optionalSign_no noDots) fun isOpen notOpen => ?_
    rw [notOpen]
    exact .bind type fun _ _ => .pure rfl
  unfold input
  refine .bind (.itemsWhile_nil _ rfl) fun _ _ => .bind (.optionalSign_no rfl) fun isOpen notOpen => ?_
  rw [notOpen]
  refine .bind (.attempt_of_fails noReceiver) fun found nothing => ?_
  rw [nothing]
  exact plain

/-- The inputs that are left are read, however many more of them than trees there may be. -/
def ReadsInputs (g : Grammar) (isFirst hasReceiver : Bool) (trees : List Tree) : Prop :=
  ∀ count, trees.length < count → Reads (inputs g count isFirst hasReceiver) trees [] fun _ => True

namespace ReadsInputs

variable {hasReceiver : Bool} {tree : Tree}

theorem receiver (reads : Reads (input g) (tree :: trees) [] fun found => ∃ place, found = .receiver place) :
    ReadsInputs g true false (tree :: trees) := by
  intro count enough
  rcases Nat.exists_eq_add_one_of_ne_zero (show count ≠ 0 by omega) with ⟨count, rfl⟩
  unfold inputs
  refine .no rfl (.bind reads fun found isReceiver => ?_)
  rcases isReceiver with ⟨place, rfl⟩
  unfold inputs.further
  exact .yes rfl (.pure trivial)

/-- A receiver, a comma, and what follows the comma. -/
theorem receiver_further {joint : Bool} {place : Position} (reads : Reads (input g) (tree :: trees)
      (.sign ',' joint place :: middle) fun found => ∃ place, found = .receiver place)
    (shorter : middle.length ≤ trees.length) (others : ReadsInputs g false true middle) :
    ReadsInputs g true false (tree :: trees) := by
  intro count enough
  rcases Nat.exists_eq_add_one_of_ne_zero (show count ≠ 0 by omega) with ⟨count, rfl⟩
  rw [List.length_cons] at enough
  unfold inputs
  refine .no rfl (.bind reads fun found isReceiver => ?_)
  rcases isReceiver with ⟨place, rfl⟩
  unfold inputs.further
  exact .no rfl (.bind (.sign rfl) fun _ _ => others count (by omega))

theorem plain (reads : Reads (input g) (tree :: trees) [] (· = .plain)) (isFirst : Bool) :
    ReadsInputs g isFirst hasReceiver (tree :: trees) := by
  intro count enough
  rcases Nat.exists_eq_add_one_of_ne_zero (show count ≠ 0 by omega) with ⟨count, rfl⟩
  unfold inputs
  refine .no rfl (.bind reads fun found isPlain => ?_)
  rw [isPlain]
  unfold inputs.further
  exact .yes rfl (.pure trivial)

end ReadsInputs

section Functions

variable {inner : List Tree} {first second opened closed : Position}

theorem reads_noResult (ends : Look.sign "->" trees = false) : Reads (optionalResult g true) trees trees fun _ => True := by
  refine .bind (.optionalSign_no ends) fun found notFound => ?_
  rw [notFound]
  exact .pure trivial

theorem reads_signature (free : name ∉ Look.keywords) (inputs : ReadsInputs g true false inner)
    (result : Reads (optionalResult g true) middle rest fun _ => True) (noClauses : Look.word "where" rest = false) :
    Reads (signature g false) (.word "fn" first :: .word name second :: .group .parenthesis inner opened closed :: middle) rest
      fun _ => True := by
  have between : Reads (fun stream => Syntax.inputs g (stream.trees.length + 1) true false stream) inner [] fun _ => True :=
    .of_trees (fun trees => Syntax.inputs g (trees.length + 1) true false) (inputs _ (Nat.lt_succ_self _))
  have noConvention : Reads optionalConvention
      (.word "fn" first :: .word name second :: .group .parenthesis inner opened closed :: middle)
      (.word "fn" first :: .word name second :: .group .parenthesis inner opened closed :: middle) fun _ => True := by
    refine .bind (.optionalWord_no rfl) fun foreign notForeign => ?_
    rw [notForeign]
    exact .pure trivial
  unfold signature
  refine .bind (.optionalWord_no rfl) fun _ _ => .bind (.optionalWord_no rfl) fun _ _ => .bind (.optionalWord_no rfl) fun _ _ => ?_
  have notSafe : Reads (pure false) (.word "fn" first :: .word name second :: .group .parenthesis inner opened closed :: middle)
      (.word "fn" first :: .word name second :: .group .parenthesis inner opened closed :: middle) (· = false) := .pure rfl
  refine .bind notSafe fun _ _ => .bind noConvention fun _ _ => .bind (.word "fn" first _) fun _ _ => ?_
  refine .bind (.identifier free second _) fun _ _ => .bind (reads_noParameters rfl) fun _ _ => ?_
  refine .bind (.group between .parenthesis opened closed middle) fun _ _ => .bind result fun _ _ => ?_
  exact .bind (reads_noClauses noClauses) fun _ _ => .pure trivial

theorem reads_method (free : name ∉ Look.keywords) (inputs : ReadsInputs g true false inner) {tree : Tree}
    {body : List Tree} {third start stop : Position}
    (result : Reads (optionalResult g true) middle (.group .brace (tree :: body) start stop :: rest) fun _ => True)
    (noMark : Look.sign "#" (tree :: body) = false) (statements : Reads g.statements (tree :: body) [] fun _ => True) :
    Reads (implementationPart g) (.word "pub" third :: .word "fn" first :: .word name second ::
      .group .parenthesis inner opened closed :: middle) rest fun _ => True := by
  have content : Reads (Syntax.body g) (.group .brace (tree :: body) start stop :: rest) rest fun _ => True :=
    .group (.bind (.itemsWhile_nil _ (by simp [noMark])) fun _ _ => .bind statements fun _ _ => .pure trivial) .brace start stop rest
  have function : Reads (implementedFunction g)
      (.word "fn" first :: .word name second :: .group .parenthesis inner opened closed :: middle) rest (· = false) := by
    refine .bind (reads_signature free inputs result rfl) fun _ _ => .bind (.optionalSign_no rfl) fun ended notEnded => ?_
    rw [notEnded]
    exact .bind content fun _ _ => .pure rfl
  unfold implementationPart
  refine .bind (.get _) fun begun _ => .bind (.itemsWhile_nil _ rfl) fun _ _ => .bind (reads_public third rfl) fun visible isPublic => ?_
  have notDefault : Reads (pure false) (.word "fn" first :: .word name second :: .group .parenthesis inner opened closed :: middle)
      (.word "fn" first :: .word name second :: .group .parenthesis inner opened closed :: middle) (· = false) := .pure rfl
  refine .no rfl (.bind notDefault fun _ _ => .bind (.sees _ _) fun starts isFunction => ?_)
  refine .bind (.sees _ _) fun _ _ => .bind (.sees _ _) fun _ _ => .bind (.sees _ _) fun _ _ => ?_
  rw [isFunction]
  refine .bind function fun kept notKept => ?_
  rw [notKept]
  exact .pure trivial

def ReadsParts (g : Grammar) (trees : List Tree) : Prop :=
  Collects (unlessStopped Look.atEnd (implementationPart g)) trees [] fun _ => True

theorem ReadsParts.nil : ReadsParts g [] := fun count enough =>
  (Collects.ended (implementationPart g) count enough).mono fun _ _ => trivial

theorem ReadsParts.cons (first : Reads (implementationPart g) trees middle fun _ => True)
    (shorter : middle.length < trees.length) (others : ReadsParts g middle) : ReadsParts g trees := fun count enough =>
  (Collects.further first shorter others count enough).mono fun _ _ => trivial

theorem reads_implementation (free : name ∉ Look.keywords)
    (reads : Reads (g.type true) (.word name second :: .group .brace inner opened closed :: rest)
      (.group .brace inner opened closed :: rest) fun _ => True)
    (noMark : Look.sign "#" inner = false) (parts : ReadsParts g inner) :
    Reads (implementationItem g false) (.word "impl" first :: .word name second :: .group .brace inner opened closed :: rest)
      rest fun body => ∃ target, body = .implementation target [] := by
  have noConst : Reads optionalConstImplementation (.word name second :: .group .brace inner opened closed :: rest)
      (.word name second :: .group .brace inner opened closed :: rest) (· = false) :=
    .no rfl (.optionalWord_no (word_of_free free (by decide) second))
  unfold implementationItem
  refine .bind (.optionalWord_no rfl) fun _ _ => .bind (.optionalWord_no rfl) fun _ _ => .bind (.word "impl" first _) fun _ _ => ?_
  refine .no rfl (.bind noConst fun constant notConstant => .bind (.place _) fun mark _ => ?_)
  refine .bind (.sees _ _) fun negative notNegative => ?_
  rw [notNegative]
  refine .bind (.captured reads) fun found _ => .bind (.writeAll _ _) fun _ _ => ?_
  refine .bind (.optionalWord_no rfl) fun isFor notFor => ?_
  rw [notFor]
  have own : Reads (pure (found.2, true)) (.group .brace inner opened closed :: rest) (.group .brace inner opened closed :: rest)
      (· = (found.2, true)) := .pure rfl
  refine .bind own fun target isTarget => ?_
  rw [isTarget]
  refine .bind (reads_noClauses rfl) fun _ _ => .group ?_ .brace opened closed rest
  refine .bind (.itemsWhile_nil _ (by simp [noMark])) fun marks noMarks => .bind (Collects.reads parts) fun _ _ => ?_
  rw [notConstant, noMarks]
  exact .pure ⟨_, rfl⟩

theorem reads_implementationItem (free : name ∉ Look.keywords)
    (reads : Reads (g.type true) (.word name second :: .group .brace inner opened closed :: rest)
      (.group .brace inner opened closed :: rest) fun _ => True)
    (noMark : Look.sign "#" inner = false) (parts : ReadsParts g inner) {marks : List Attribute}
    (marked : ReadsMarks g trees (.word "impl" first :: .word name second :: .group .brace inner opened closed :: rest) marks) :
    Reads (item g) trees rest fun item => ∃ place target, item = .implementation ⟨marks, place⟩ target := by
  have body : Reads (itemBody g none) (.word "impl" first :: .word name second :: .group .brace inner opened closed :: rest)
      rest fun body => ∃ target, body = .implementation target [] := by
    unfold itemBody
    refine .no rfl (.no rfl (.no rfl (.no rfl (.no rfl (.no rfl (.no rfl (.no rfl (.no rfl (.no rfl ?_)))))))))
    exact .no rfl (.no rfl (.no rfl (.yes rfl (reads_implementation free reads noMark parts))))
  unfold item
  refine .bind (.get _) fun _ _ => .bind (.place _) fun place _ => .bind marked.reads fun outer isMarks => ?_
  refine .bind (.place _) fun _ _ => .bind (reads_private rfl) fun visible notVisible => ?_
  rw [notVisible]
  refine .bind body fun found isBody => ?_
  rcases isBody with ⟨target, rfl⟩
  exact .pure ⟨place, target, by rw [isMarks, ItemBody.item, List.append_nil]⟩

end Functions

end Companion.Syntax
