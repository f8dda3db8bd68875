import Companion.Proofs.Syntax.Shortening

/-!
The rules of the grammar read from the front. Rules that are only read inside groups do not matter for that.
-/

set_option autoImplicit false

namespace Companion.Syntax

/-- The rules of a grammar that are read outside of groups, or one behind another inside of them, read from the front. -/
structure Grammar.Shortens (g : Grammar) : Prop where
  type : ∀ several, Syntax.Shortens (g.type several)
  bound : ∀ rules, Syntax.Shortens (g.bound rules)
  singlePattern : Syntax.Shortens g.singlePattern
  pattern : Syntax.Shortens g.pattern
  operand : ∀ fieldsAllowed, Syntax.Shortens (g.operand fieldsAllowed)
  expression : ∀ fieldsAllowed, Syntax.Shortens (g.expression fieldsAllowed)
  item : Syntax.Shortens g.item

attribute [grind ←] Grammar.Shortens.type Grammar.Shortens.bound Grammar.Shortens.singlePattern
  Grammar.Shortens.pattern Grammar.Shortens.operand Grammar.Shortens.expression

namespace Shortens

variable {g : Grammar}

@[grind ←] theorem namePath : Shortens namePath := by
  unfold Syntax.namePath
  grind

@[grind ←] theorem outerAttributes (g : Grammar) : Shortens (outerAttributes g) := by
  unfold Syntax.outerAttributes Syntax.outerAttribute
  grind

@[grind ←] theorem innerAttributes (g : Grammar) : Shortens (innerAttributes g) := by
  unfold Syntax.innerAttributes
  grind

@[grind ←] theorem constantArgument (g : Grammar) : Shortens (constantArgument g) := by
  unfold Syntax.constantArgument blockWithAttributes
  grind

@[grind ←] theorem argument (shortens : g.Shortens) : Shortens (argument g) := by
  unfold Syntax.argument argumentBounds
  refine choose ?_ (choose ?_ ?_) <;> grind

@[grind ←] theorem angleArguments (shortens : g.Shortens) : Shortens (angleArguments g) := by
  unfold Syntax.angleArguments
  refine behind (optionalSign "::") fun _ => behind (sign "<") fun _ => ?_
  refine behind (pieces _ (argument shortens)) fun _ => ?_
  grind

@[grind ←] theorem pathSegment (shortens : g.Shortens) (style : PathStyle) : Shortens (pathSegment g style) := by
  unfold Syntax.pathSegment
  refine choose (behind anyWord fun _ => pure _) (behind (sees _) fun _ => ?_)
  have arguments : ∀ name, Shortens (do return Segment.mk name (← Syntax.angleArguments g)) := fun _ =>
    behind (angleArguments shortens) fun _ => pure _
  dsimp only
  split
  · exact behind anyWord fun name => choose (arguments name) (pure _)
  · exact behind identifier fun name => choose (arguments name) (pure _)

@[grind ←] theorem path (shortens : g.Shortens) (style : PathStyle) : Shortens (path g style) := by
  unfold Syntax.path
  refine behind (optionalSign "::") fun _ => behind (pathSegment shortens style) fun _ => ?_
  exact behind (itemsWhile _ (behind (sign "::") fun _ => pathSegment shortens style)) fun _ => pure _

@[grind ←] theorem qualifiedPath (shortens : g.Shortens) (style : PathStyle) :
    Shortens (qualifiedPath g style) := by
  unfold Syntax.qualifiedPath
  refine choose ?_ (behind (path shortens style) fun _ => pure _)
  refine behind (sign "<") fun _ => behind (shortens.type true) fun _ => ?_
  grind

@[grind ←] theorem visibility : Shortens visibility := by
  unfold Syntax.visibility
  grind

@[grind ←] theorem optionalBounds {α : Type} (separation : Parser.Separation) {item : Parser α}
    (shortens : Shortens item) :
    Shortens (optionalBounds separation item) := by
  unfold Syntax.optionalBounds
  grind

@[grind ←] theorem lifetimeParameter : Shortens lifetimeParameter := by
  unfold Syntax.lifetimeParameter
  grind

@[grind ←] theorem typeParameter (shortens : g.Shortens) : Shortens (typeParameter g) := by
  unfold Syntax.typeParameter
  grind

@[grind ←] theorem valueParameter (shortens : g.Shortens) : Shortens (valueParameter g) := by
  unfold Syntax.valueParameter
  grind

@[grind ←] theorem parameter (shortens : g.Shortens) : Shortens (parameter g) := by
  unfold Syntax.parameter
  refine behind (outerAttributes g) fun _ => choose lifetimeParameter (choose (typeParameter shortens) ?_)
  refine choose (valueParameter shortens) (choose ?_ (expectedOneOf _))
  exact behind anyWord fun _ => pure _

@[grind ←] theorem binderParameter (shortens : g.Shortens) : Shortens (binderParameter g) := by
  unfold Syntax.binderParameter
  refine behind (outerAttributes g) fun _ => choose (typeParameter shortens) (choose lifetimeParameter ?_)
  exact choose (valueParameter shortens) (expectedOneOf _)

@[grind ←] theorem parameters (shortens : g.Shortens) : Shortens (parameters g) := by
  unfold Syntax.parameters
  refine choose (behind (unwritten (sign "<")) fun _ => behind (pieces _ (parameter shortens)) fun _ => ?_) (pure _)
  grind

@[grind ←] theorem binder (shortens : g.Shortens) : Shortens (binder g) := by
  unfold Syntax.binder
  refine behind (word "for") fun _ => behind (sign "<") fun _ => ?_
  exact behind (separated _ (binderParameter shortens)) fun _ => sign ">"

@[grind ←] theorem optionalBinder (shortens : g.Shortens) : Shortens (optionalBinder g) := by
  unfold Syntax.optionalBinder
  exact choose (behind (binder shortens) fun _ => pure _) (pure _)

@[grind ←] theorem capturedParameter : Shortens capturedParameter := by
  unfold Syntax.capturedParameter
  grind

@[grind ←] theorem capturedParameters : Shortens capturedParameters := by
  unfold Syntax.capturedParameters
  grind

@[grind ←] theorem optionalConstness : Shortens optionalConstness := by
  unfold Syntax.optionalConstness
  grind

@[grind ←] theorem functionArguments (shortens : g.Shortens) : Shortens (functionArguments g) := by
  unfold Syntax.functionArguments
  grind

@[grind ←] theorem traitBound (shortens : g.Shortens) (constnessAllowed : Bool) :
    Shortens (traitBound g constnessAllowed) := by
  unfold Syntax.traitBound
  refine behind (optionalBinder shortens) fun _ => behind optionalConstness fun _ => ?_
  split
  · exact broken_bind _ _ _
  · exact broken_bind _ _ _
  · refine behind place fun _ => behind (optionalSign "?") fun _ => ?_
    split
    · refine behind (optionalBinder shortens) fun _ => behind (path shortens _) fun _ => ?_
      grind
    · refine behind (pure _) fun _ => behind (path shortens _) fun _ => ?_
      grind

@[grind ←] theorem bound (shortens : g.Shortens) (rules : BoundRules) : Shortens (bound g rules) := by
  unfold Syntax.bound
  refine choose ?_ (choose ?_ (behind get fun begun => choose ?_ ?_))
  · exact behind lifetime fun _ => pure _
  · grind
  · refine behind (group _ _) fun _ => ?_
    grind
  · refine behind (traitBound shortens _) fun _ => ?_
    grind

@[grind ←] theorem bounds (shortens : g.Shortens) (several : Bool) (rules : BoundRules) :
    Shortens (bounds g several rules) := by
  unfold Syntax.bounds
  refine behind (chain (bound shortens rules) ?_) fun _ => pure _
  grind

@[grind ←] theorem clause (shortens : g.Shortens) : Shortens (clause g) := by
  unfold Syntax.clause
  refine choose ?_ (behind (optionalBinder shortens) fun _ => behind (shortens.type true) fun _ => ?_)
  · grind
  · exact behind (sign ":") fun _ => behind (separated _ (bound shortens _)) fun _ => pure _

@[grind ←] theorem clauses (shortens : g.Shortens) : Shortens (clauses g) := by
  unfold Syntax.clauses
  refine choose (behind (captured (word "where")) fun keyword => ?_) (pure _)
  have found := pieces ⟨endsClause, Look.sign ",", ","⟩ (clause shortens)
  refine choose (behind (missing _) fun _ => behind found fun _ => ?_) (behind found fun _ => ?_) <;> grind

@[grind ←] theorem spelledType (shape : TypeShape) {parser : Parser Unit} (shortens : Shortens parser) :
    Shortens (spelledType shape parser) := by
  unfold Syntax.spelledType
  grind

@[grind ←] theorem optionalResult (shortens : g.Shortens) (several : Bool) : Shortens (optionalResult g several) := by
  unfold Syntax.optionalResult
  grind

@[grind ←] theorem optionalConvention : Shortens optionalConvention := by
  unfold Syntax.optionalConvention
  grind

@[grind ←] theorem functionPointer (shortens : g.Shortens) : Shortens (functionPointer g) := by
  unfold Syntax.functionPointer
  refine behind (optionalBinder shortens) fun _ => ?_
  grind

@[grind ←] theorem objectBounds (shortens : g.Shortens) (several : Bool) (place : Position) :
    Shortens (objectBounds g several place) := by
  unfold Syntax.objectBounds
  refine behind (bounds shortens several _) fun _ => ?_
  grind

@[grind ←] theorem furtherBounds (shortens : g.Shortens) : Shortens (furtherBounds g) := by
  unfold Syntax.furtherBounds
  exact behind (itemsWhile _ (behind (sign "+") fun _ => bound shortens _)) fun _ => pure _

@[grind ←] theorem parenthesizedType (shortens : g.Shortens) (several : Bool) :
    Shortens (parenthesizedType g several) := by
  unfold Syntax.parenthesizedType
  refine behind (captured (behind (group _ _) fun content => ?_)) fun _ => ?_
  · cases content <;> grind
  · grind

@[grind ←] theorem furtherPathBounds (shortens : g.Shortens) : Shortens (pathType.further g) := by
  unfold Syntax.pathType.further
  refine behind (itemsWhile _ (behind (sign "+") fun _ => choose ?_ (pure _))) fun _ => pure _
  exact behind (bound shortens _) fun _ => pure _

@[grind ←] theorem pathType (shortens : g.Shortens) (several hasBinder : Bool) :
    Shortens (pathType g several hasBinder) := by
  unfold Syntax.pathType
  refine behind (captured (qualifiedPath shortens _)) fun ⟨form, words⟩ => ?_
  cases form with
  | none => grind
  | some form =>
      refine behind (sees _) fun _ => ?_
      split <;> grind

@[grind ←] theorem pointerType (shortens : g.Shortens) : Shortens (pointerType g) := by
  unfold Syntax.pointerType
  grind

@[grind ←] theorem referenceType (shortens : g.Shortens) : Shortens (referenceType g) := by
  unfold Syntax.referenceType
  grind

@[grind ←] theorem boundedType (shortens : g.Shortens) (several : Bool) : Shortens (boundedType g several) := by
  unfold Syntax.boundedType
  refine behind place fun _ => behind (word "impl") fun _ => behind (bounds shortens several _) fun _ => ?_
  grind

@[grind ←] theorem objectType (shortens : g.Shortens) (several : Bool) : Shortens (objectType g several) := by
  unfold Syntax.objectType
  refine behind get fun _ => behind place fun place => behind (word "dyn") fun _ => behind (optionalSign "*") fun _ => ?_
  refine behind (objectBounds shortens several place) fun _ => ?_
  grind

@[grind ←] theorem boundType (shortens : g.Shortens) (several : Bool) : Shortens (boundType g several) := by
  unfold Syntax.boundType
  refine behind (captured (behind (binder shortens) fun _ => choose ?_ (choose ?_ (expectedOneOf _)))) fun _ => ?_
  · exact behind (functionPointer shortens) fun _ => pure _
  · exact behind (pathType shortens several true) fun _ => pure _
  · grind

@[grind ←] theorem type (shortens : g.Shortens) (several : Bool) : Shortens (type g several) := by
  unfold Syntax.type bracketedType
  refine choose (boundType shortens several) (choose (parenthesizedType shortens several) ?_)
  refine choose (spelledType _ (functionPointer shortens)) (choose (pathType shortens several false) ?_)
  refine choose (spelledType _ (objectType shortens several)) (choose (spelledType _ (group _ _)) ?_)
  refine choose (spelledType _ (pointerType shortens)) (choose (spelledType _ (referenceType shortens)) ?_)
  refine choose (spelledType _ (sign "!")) (choose (spelledType _ (boundedType shortens several)) ?_)
  refine choose (spelledType _ underscore) (choose (behind place fun place => ?_) (expectedOneOf _))
  exact spelledType _ (objectBounds shortens true place)

end Shortens

end Companion.Syntax
