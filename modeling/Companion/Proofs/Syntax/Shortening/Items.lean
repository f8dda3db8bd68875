import Companion.Proofs.Syntax.Shortening.Expressions

set_option autoImplicit false

namespace Companion.Syntax

namespace Shortens

variable {g : Grammar}

@[grind ←] theorem ruleCall (withName : Bool) : Shortens (ruleCall withName) := by
  unfold Syntax.ruleCall
  grind

@[grind ←] theorem constantRest (shortens : g.Shortens) : Shortens (constantRest g) := by
  unfold Syntax.constantRest nameOrBlank
  refine behind ?_ fun _ => behind (sees _) fun _ => behind (parameters shortens) fun _ => ?_ <;> grind

@[grind ←] theorem boundsUpTo (shortens : g.Shortens) (stop : Look) (rules : BoundRules) :
    Shortens (boundsUpTo g stop rules) :=
  optionalBounds _ (bound shortens rules)

@[grind ←] theorem namedType (shortens : g.Shortens) (clausePlace : ClausePlace) :
    Shortens (namedType g clausePlace) := by
  unfold Syntax.namedType
  refine behind (word "type") fun _ => behind identifier fun _ => behind (parameters shortens) fun _ => ?_
  refine behind (sees _) fun _ => behind (boundsUpTo shortens _ _) fun _ => ?_
  grind

@[grind ←] theorem signature (shortens : g.Shortens) (safeAllowed : Bool) : Shortens (signature g safeAllowed) := by
  unfold Syntax.signature
  refine behind (optionalWord "const") fun _ => behind (optionalWord "async") fun _ => ?_
  refine behind (optionalWord "unsafe") fun _ => ?_
  split
  · refine behind (optionalWord "safe") fun _ => behind optionalConvention fun _ => behind (word "fn") fun _ => ?_
    grind
  · refine behind (pure _) fun _ => behind optionalConvention fun _ => behind (word "fn") fun _ => ?_
    grind

@[grind ←] theorem body (g : Grammar) : Shortens (body g) :=
  group _ _

@[grind ←] theorem namedMember (shortens : g.Shortens) (depth : Nat) : Shortens (namedMember g depth) := by
  cases depth with
  | zero => exact noneOf _
  | succ depth =>
      unfold Syntax.namedMember
      refine behind place fun _ => behind (outerAttributes g) fun _ => behind visibility fun _ => behind (sees _) fun blank => ?_
      split
      · refine behind anyWord fun _ => behind (sign _) fun _ => behind (sees _) fun _ => ?_
        split <;> grind
      · refine behind identifier fun _ => behind (sign _) fun _ => behind (sees _) fun _ => ?_
        split <;> grind

@[grind ←] theorem braceMembers (g : Grammar) : Shortens (braceMembers g) :=
  fun _ _ _ read => group _ _ _ _ _ read

@[grind ←] theorem positionalMember (shortens : g.Shortens) : Shortens (positionalMember g) := by
  unfold Syntax.positionalMember
  grind

@[grind ←] theorem recordBody (shortens : g.Shortens) : Shortens (recordBody g) := by
  unfold Syntax.recordBody parenthesisMembers
  refine behind (clauses shortens) fun _ => ?_
  split <;> refine behind (sees _) fun _ => ?_ <;> grind

@[grind ←] theorem record (shortens : g.Shortens) : Shortens (record g) := by
  unfold Syntax.record
  grind

@[grind ←] theorem enumeration (shortens : g.Shortens) : Shortens (enumeration g) := by
  unfold Syntax.enumeration
  grind

@[grind ←] theorem union (shortens : g.Shortens) : Shortens (union g) := by
  unfold Syntax.union
  grind

@[grind ←] theorem functionItem (shortens : g.Shortens) : Shortens (functionItem g) := by
  unfold Syntax.functionItem
  grind

@[grind ←] theorem staticItem (shortens : g.Shortens) : Shortens (staticItem g) := by
  unfold Syntax.staticItem
  refine behind (word "static") fun _ => behind (optionalWord "mut") fun _ => behind identifier fun _ => ?_
  refine behind (optionalSign "=") fun _ => ?_
  split <;> grind

@[grind ←] theorem constantItem (shortens : g.Shortens) : Shortens (constantItem g) := by
  unfold Syntax.constantItem
  grind

@[grind ←] theorem importAlias : Shortens importAlias := by
  unfold Syntax.importAlias
  grind

theorem importTree (depth : Nat) (rootAllowed : Bool) : Shortens (importTree depth rootAllowed) := by
  induction depth generalizing rootAllowed with
  | zero => exact noneOf []
  | succ depth ih =>
      unfold Syntax.importTree
      grind

@[grind ←] theorem importItem : Shortens importItem := by
  unfold Syntax.importItem
  refine behind (word "use") fun _ => behind (optionalSign "::") fun _ => behind ?_ fun _ => ?_
  · exact fun _ _ _ read => importTree _ _ _ _ _ read
  · grind

@[grind ←] theorem libraryItem : Shortens libraryItem := by
  unfold Syntax.libraryItem
  refine behind (word "extern") fun _ => behind (word "crate") fun _ => behind (sees _) fun _ => ?_
  split <;> grind

@[grind ←] theorem moduleItem (g : Grammar) : Shortens (moduleItem g) := by
  unfold Syntax.moduleItem
  grind

@[grind ←] theorem foreignItem (g : Grammar) : Shortens (foreignItem g) := by
  unfold Syntax.foreignItem
  grind

@[grind ←] theorem typeItem (shortens : g.Shortens) : Shortens (typeItem g) := by
  unfold Syntax.typeItem
  grind

@[grind ←] theorem traitRest (shortens : g.Shortens) (name : String) : Shortens (traitRest g name) := by
  unfold Syntax.traitRest
  grind

@[grind ←] theorem traitItem (shortens : g.Shortens) : Shortens (traitItem g) := by
  unfold Syntax.traitItem
  grind

@[grind ←] theorem traitOrAlias (shortens : g.Shortens) : Shortens (traitOrAlias g) := by
  unfold Syntax.traitOrAlias
  refine behind (word "trait") fun _ => behind identifier fun _ => behind (parameters shortens) fun _ => ?_
  refine choose ?_ (choose ?_ ?_) <;> grind

@[grind ←] theorem optionalConstImplementation : Shortens optionalConstImplementation := by
  unfold Syntax.optionalConstImplementation
  grind

@[grind ←] theorem implementationItem (shortens : g.Shortens) (visible : Bool) :
    Shortens (implementationItem g visible) := by
  unfold Syntax.implementationItem
  refine behind (optionalWord "default") fun _ => behind (optionalWord "unsafe") fun _ => ?_
  refine behind (word "impl") fun _ => behind (sees _) fun _ => ?_
  split
  case' isTrue => refine behind (parameters shortens) fun _ => ?_
  all_goals
    refine behind optionalConstImplementation fun _ => behind place fun _ => behind (sees _) fun _ => ?_
    split
    case' isTrue => refine behind (sign "!") fun _ => ?_
    all_goals
      refine behind (captured (shortens.type true)) fun _ => behind (writeAll _) fun _ => ?_
      grind

@[grind ←] theorem ruleDefinition : Shortens ruleDefinition := by
  unfold Syntax.ruleDefinition
  grind

@[grind ←] theorem externItem (g : Grammar) (visible : Option Position) : Shortens (externItem g visible) := by
  unfold Syntax.externItem
  grind

@[grind ←] theorem exemptItem (shortens : g.Shortens) (visible : Option Position) : Shortens (exemptItem g visible) := by
  unfold Syntax.exemptItem
  grind

@[grind ←] theorem itemBody (shortens : g.Shortens) (visible : Option Position) : Shortens (itemBody g visible) := by
  unfold Syntax.itemBody
  refine choose ?_ (choose ?_ (choose ?_ (choose ?_ (choose ?_ (choose ?_ (choose ?_ (choose ?_ ?_))))))) <;> try grind
  refine choose ?_ (choose ?_ (choose ?_ (choose ?_ (choose ?_ (choose ?_ (choose ?_ ?_)))))) <;> grind

@[grind ←] theorem item (shortens : g.Shortens) : Shortens (item g) := by
  unfold Syntax.item
  grind

end Shortens

theorem shortens_grammar (depth : Nat) : (grammar depth).Shortens := by
  induction depth with
  | zero =>
      exact ⟨fun _ => .noneOf [], fun _ => .noneOf [], .noneOf [], .noneOf [], fun _ => .noneOf [], fun _ => .noneOf [],
        .noneOf []⟩
  | succ depth ih =>
      exact ⟨fun several => .type ih several, fun rules => .bound ih rules, .singlePattern ih, .patterns ih,
        fun fieldsAllowed => .operand ⟨grammar depth, fieldsAllowed⟩ ih,
        fun fieldsAllowed => .expression ih fieldsAllowed, .item ih⟩

end Companion.Syntax
