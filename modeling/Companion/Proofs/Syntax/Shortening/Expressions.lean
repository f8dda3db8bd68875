import Companion.Proofs.Syntax.Shortening.Rules

set_option autoImplicit false

namespace Companion.Syntax.Shortens

variable {g : Grammar} {here : Surroundings}

@[grind ←] theorem callRest : Shortens callRest := by
  unfold Syntax.callRest
  grind

@[grind ←] theorem rangeDots : Shortens rangeDots := by
  unfold Syntax.rangeDots
  grind

@[grind ←] theorem patternDots : Shortens patternDots := by
  unfold Syntax.patternDots
  grind

@[grind ←] theorem blockWithAttributes (g : Grammar) : Shortens (blockWithAttributes g) := by
  unfold Syntax.blockWithAttributes
  grind

@[grind ←] theorem block (g : Grammar) : Shortens (block g) :=
  group .brace g.statements

@[grind ←] theorem patternValue (shortens : g.Shortens) : Shortens (patternValue g) := by
  unfold Syntax.patternValue
  grind

@[grind ←] theorem rangeEnd (shortens : g.Shortens) : Shortens (rangeEnd g) := by
  unfold Syntax.rangeEnd
  grind

@[grind ←] theorem rangeRest (shortens : g.Shortens) : Shortens (rangeRest g) := by
  unfold Syntax.rangeRest
  grind

@[grind ←] theorem startlessRange (shortens : g.Shortens) : Shortens (startlessRange g) := by
  unfold Syntax.startlessRange
  grind

@[grind ←] theorem fieldIndex : Shortens fieldName.fieldIndex := fun _ _ _ read => by
  unfold Syntax.fieldName.fieldIndex Parser.missing at read
  grind

@[grind ←] theorem fieldName : Shortens fieldName := by
  unfold Syntax.fieldName
  grind

@[grind ←] theorem pathPattern (shortens : g.Shortens) : Shortens (pathPattern g) := by
  unfold Syntax.pathPattern
  grind

@[grind ←] theorem valuePattern (shortens : g.Shortens) : Shortens (valuePattern g) := by
  unfold Syntax.valuePattern
  grind

@[grind ←] theorem singlePattern (shortens : g.Shortens) : Shortens (singlePattern g) := by
  unfold Syntax.singlePattern slicePattern
  refine choose ?_ (choose ?_ (choose ?_ (choose ?_ (choose ?_ ?_)))) <;> grind

@[grind ←] theorem patterns (shortens : g.Shortens) : Shortens (patterns g) := by
  unfold Syntax.patterns
  grind

@[grind ←] theorem optionalLabel : Shortens optionalLabel := by
  unfold Syntax.optionalLabel
  grind

@[grind ←] theorem headExpression (shortens : g.Shortens) : Shortens (headExpression g) := by
  unfold Syntax.headExpression
  grind

theorem branches (shortens : g.Shortens) (count : Nat) : Shortens (branches g count) := by
  induction count with
  | zero => exact pure ()
  | succ count ih =>
      unfold Syntax.branches
      grind

@[grind ←] theorem branch (shortens : g.Shortens) : Shortens (branch g) :=
  fun _ _ _ read => branches shortens _ _ _ _ read

@[grind ←] theorem iteration (shortens : g.Shortens) : Shortens (iteration g) := by
  unfold Syntax.iteration
  grind

@[grind ←] theorem endlessLoop (g : Grammar) : Shortens (endlessLoop g) := by
  unfold Syntax.endlessLoop
  grind

@[grind ←] theorem conditionalLoop (shortens : g.Shortens) : Shortens (conditionalLoop g) := by
  unfold Syntax.conditionalLoop
  grind

@[grind ←] theorem labelled (shortens : g.Shortens) : Shortens (labelled g) := by
  unfold Syntax.labelled labelledBlock
  grind

@[grind ←] theorem keywordBlock (g : Grammar) (keyword : String) (attributed : Bool) :
    Shortens (keywordBlock g keyword attributed) := by
  unfold Syntax.keywordBlock
  grind

@[grind ←] theorem choice (shortens : g.Shortens) : Shortens (choice g) := by
  unfold Syntax.choice
  grind

@[grind ←] theorem freeExpression (shortens : g.Shortens) : Shortens (freeExpression g) := by
  unfold Syntax.freeExpression
  grind

@[grind ←] theorem optionalExpression (shortens : g.Shortens) : Shortens (optionalExpression g) := by
  unfold Syntax.optionalExpression
  grind

@[grind ←] theorem pathExpression (shortens : here.grammar.Shortens) : Shortens (pathExpression here) := by
  unfold Syntax.pathExpression
  grind

@[grind ←] theorem tuple (g : Grammar) : Shortens (tuple g) := by
  unfold Syntax.tuple
  grind

@[grind ←] theorem array (g : Grammar) : Shortens (array g) := by
  unfold Syntax.array
  grind

@[grind ←] theorem loopExit (shortens : here.grammar.Shortens) : Shortens (loopExit here) := by
  unfold Syntax.loopExit
  grind

@[grind ←] theorem jump (shortens : g.Shortens) (keyword : String) : Shortens (jump g keyword) := by
  unfold Syntax.jump
  grind

@[grind ←] theorem closureInput (shortens : g.Shortens) : Shortens (closureInput g) := by
  unfold Syntax.closureInput
  grind

@[grind ←] theorem closure (shortens : here.grammar.Shortens) : Shortens (closure here) := by
  unfold Syntax.closure Surroundings.expression
  refine behind (optionalBinder shortens) fun _ => behind ?_ fun _ => ?_
  · refine forIn fun keyword _ => ?_
    grind
  · grind

@[grind ←] theorem castRest (shortens : g.Shortens) : Shortens (castRest g) := by
  unfold Syntax.castRest
  grind

/-- The four rules of operators, which take turns. -/
theorem operatorRules (shortens : here.grammar.Shortens) (fuel : Nat) :
    (∀ left base, Shortens (operatorsWithin here fuel left base)) ∧
      (∀ precedence, Shortens (rightSideWithin here fuel precedence)) ∧
      (∀ left precedence, Shortens (strongerWithin here fuel left precedence)) ∧
      (∀ limits, Shortens (upperEndWithin here fuel limits)) := by
  induction fuel with
  | zero =>
      refine ⟨fun _ _ => ?_, fun _ => ?_, fun _ _ => ?_, fun _ => ?_⟩
      · unfold operatorsWithin
        grind
      · unfold rightSideWithin
        grind
      · unfold strongerWithin
        grind
      · unfold upperEndWithin
        grind
  | succ fuel ih =>
      obtain ⟨operators, rightSide, stronger, upperEnd⟩ := ih
      refine ⟨fun left base => ?_, fun _ => ?_, fun _ _ => ?_, fun _ => ?_⟩
      · unfold operatorsWithin
        grind
      · unfold rightSideWithin Surroundings.operand
        grind
      · unfold strongerWithin
        grind
      · unfold upperEndWithin
        grind

@[grind ←] theorem operators (shortens : here.grammar.Shortens) (left : ExpressionForm) :
    Shortens (operators here left) :=
  fun _ _ _ read => (operatorRules shortens _).1 _ _ _ _ _ read

@[grind ←] theorem comparisons (shortens : here.grammar.Shortens) (left : ExpressionForm) :
    Shortens (comparisons here left) :=
  fun _ _ _ read => (operatorRules shortens _).1 _ _ _ _ _ read

@[grind ←] theorem upperEnd (shortens : here.grammar.Shortens) (limits : RangeLimits) :
    Shortens (upperEnd here limits) :=
  fun _ _ _ read => (operatorRules shortens _).2.2.2 _ _ _ _ read

@[grind ←] theorem condition (shortens : here.grammar.Shortens) : Shortens (condition here) := by
  unfold Syntax.condition Surroundings.operand
  grind

@[grind ←] theorem elementIndices : Shortens elementIndices := fun before _ after read => by
  unfold Syntax.elementIndices at read
  split at read
  · rename_i text place rest trees
    simp only [Bind.bind, Except.bind] at read
    split at read
    · contradiction
    · cases read
      rw [trees]
      exact List.suffix_cons _ _
  · cases read
    exact List.suffix_refl _

@[grind ←] theorem member (shortens : g.Shortens) : Shortens (member g) := by
  unfold Syntax.member
  grind

@[grind ←] theorem trailer (shortens : g.Shortens) (first : ExpressionForm) : Shortens (trailers.step g first) := by
  unfold trailers.step
  refine choose ?_ (choose ?_ ?_) <;> grind

@[grind ←] theorem trailers (shortens : g.Shortens) (first : ExpressionForm) : Shortens (trailers g first) := by
  unfold Syntax.trailers
  grind

@[grind ←] theorem providedFunction : Shortens providedFunction := by
  unfold Syntax.providedFunction
  grind

@[grind ←] theorem controlExpression (shortens : g.Shortens) : Shortens (controlExpression g) := by
  unfold Syntax.controlExpression
  grind

@[grind ←] theorem atom (shortens : here.grammar.Shortens) : Shortens (atom here) := by
  unfold Syntax.atom
  refine choose ?_ (choose ?_ (choose ?_ (choose ?_ (choose ?_ (choose ?_ (choose ?_ (choose ?_ (choose ?_ ?_))))))))
    <;> try grind
  refine choose ?_ (choose ?_ (choose ?_ (choose ?_ ?_))) <;> try grind
  refine behind (controlExpression shortens) fun found => ?_
  cases found with
  | some _ => grind
  | none =>
      refine choose ?_ (choose ?_ (choose ?_ (choose ?_ (choose ?_ ?_)))) <;> grind

@[grind ←] theorem operand (here : Surroundings) (shortens : here.grammar.Shortens) : Shortens (operand here) := by
  unfold Syntax.operand Surroundings.operand
  refine behind (outerAttributes _) fun _ => choose ?_ (choose ?_ ?_) <;> grind

@[grind ←] theorem expression (shortens : g.Shortens) (fieldsAllowed : Bool) :
    Shortens (expression g fieldsAllowed) := by
  unfold Syntax.expression
  grind

end Companion.Syntax.Shortens
