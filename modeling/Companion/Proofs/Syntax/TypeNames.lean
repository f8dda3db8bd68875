import Companion.Proofs.Syntax.Names

set_option autoImplicit false

namespace Companion.Syntax

open Companion.Syntax.Parser

variable {α β : Type} {g : Grammar}

def bareNames : List String := ["super", "self", "crate", "try"]

/-- Whether a word can be a name of a path with arguments. -/
def IsSegment (name : String) : Prop :=
  IsWord name ∧ (name ∉ Look.keywords ∨ name = "Self")

def IsPathName (name : String) : Prop :=
  IsSegment name ∨ name ∈ bareNames

namespace TypeSyntax

mutual

/-- Whether the names of the paths in a type can stand there, and no path begins with a keyword that cannot begin one. -/
def Sound : TypeSyntax → Prop
  | path absolute leading last arguments =>
      (∀ name ∈ leading ++ [last], IsPathName name) ∧ (absolute = false → (leading ++ [last]).head? ≠ some "try") ∧
        (arguments ≠ [] → IsSegment last) ∧ AllSound arguments
  | parenthesized inner => Sound inner
  | other _ => True

def AllSound : List TypeSyntax → Prop
  | [] => True
  | type :: types => Sound type ∧ AllSound types

end

theorem allSound_iff {types : List TypeSyntax} : AllSound types ↔ ∀ type ∈ types, Sound type := by
  induction types with
  | nil => simp [AllSound]
  | cons type types ih => simp [AllSound, ih]

end TypeSyntax

/-- Whether a name of a path with its arguments can stand there. -/
def Segment.Sound (segment : Segment) : Prop :=
  match segment.arguments with
  | .none => IsPathName segment.name
  | .types types => IsSegment segment.name ∧ TypeSyntax.AllSound types
  | .mixed => True

def Argument.Sound (argument : Argument) : Prop :=
  ∀ type, argument.type? = some type → type.Sound

theorem anyWord_ok {before after : Stream} {text : String} (read : anyWord before = .ok (text, after)) :
    ∃ place, before.trees = .word text place :: after.trees := by
  unfold Parser.anyWord Parser.missing at read
  split at read
  · rename_i trees
    cases read
    exact ⟨_, trees⟩
  · contradiction

theorem identifier_ok {before after : Stream} {text : String} (read : identifier before = .ok (text, after)) :
    ∃ place, before.trees = .word text place :: after.trees ∧ text ∉ Look.keywords := by
  unfold Parser.identifier Parser.noneOf at read
  split at read
  · rename_i trees
    split at read
    · contradiction
    · rename_i free
      cases read
      exact ⟨_, trees, by simpa using free⟩
  · contradiction

namespace Finds

variable {holds : β → Prop}

/-- What a parser finds behind a question, given that what is asked for stands next. -/
theorem chooseSeen {look : Look} {yes no : Parser β}
    (finds : ∀ before value after, look before.trees = true → Tree.AllWorded before.trees →
      yes before = .ok (value, after) → holds value) (otherFinds : Finds no holds) :
    Finds (do if ← sees look then yes else no) holds := by
  intro before value after worded read
  rcases choose_ok read with ⟨seen, chosen⟩ | ⟨-, other⟩
  · exact finds before value after seen worded chosen
  · exact otherFinds before value after worded other

/-- What a parser finds that depends on whether something stands next. -/
theorem whenSeen {look : Look} {next : Bool → Parser β}
    (finds : ∀ before value after, look before.trees = true → Tree.AllWorded before.trees →
      next true before = .ok (value, after) → holds value) (otherFinds : Finds (next false) holds) :
    Finds (sees look >>= next) holds := by
  intro before value after worded read
  obtain ⟨_, _, ⟨⟩, chosen⟩ := bind_ok read
  cases seen : look before.trees with
  | true => exact finds before value after seen worded (by rwa [seen] at chosen)
  | false => exact otherFinds before value after worded (by rwa [seen] at chosen)

theorem gathered {parser : Parser α} {met : α → Prop} {made : α → β} (finds : Finds parser met)
    (implies : ∀ value, met value → holds (made value)) : Finds (do return made (← parser)) holds := by
  intro before value after worded read
  obtain ⟨found, middle, begun, given⟩ := bind_ok read
  cases given
  exact implies found (finds _ _ _ worded begun)

theorem freeIdentifier : Finds Parser.identifier fun name => IsWord name ∧ name ∉ Look.keywords :=
  fun _ _ _ worded read => by
    obtain ⟨_, -, free⟩ := identifier_ok read
    exact ⟨identifier _ _ _ worded read, free⟩

theorem ite {asked : Prop} [Decidable asked] {yes no : Parser β} (finds : Finds yes holds) (otherFinds : Finds no holds) :
    Finds (if asked then yes else no) holds := by
  split
  · exact finds
  · exact otherFinds

theorem argument (shortens : g.Shortens) (finds : ∀ several, Finds (g.type several) (·.type.Sound)) :
    Finds (argument g) Argument.Sound := by
  have noType : ∀ argument : Argument, argument.type? = none → argument.Sound := by
    intro argument nothing type isType
    rw [nothing] at isType
    contradiction
  unfold Syntax.argument
  refine choose (behind .lifetime fun _ => pure (noType _ rfl)) ?_
  refine choose (behind (.constantArgument g) fun _ => pure (noType _ rfl)) ?_
  refine bind (shortens.type true) (finds true) fun form sound => ?_
  have plain : Finds (Pure.pure (.plain form.type) : Parser Argument) Argument.Sound := by
    refine pure fun type isType => ?_
    cases isType
    exact sound
  dsimp only
  split
  · refine behind (.optionalSign "=") fun _ => ?_
    split
    · refine behind (.sees _) fun _ => ?_
      split
      · exact behind (.constantArgument g) fun _ => pure (noType _ rfl)
      · exact behind (shortens.type true) fun _ => pure (noType _ rfl)
    · refine behind (.optionalSign ":") fun _ => ?_
      split
      · exact of_gives (.behind fun _ => .pure (noType _ rfl))
      · exact plain
  · exact plain

theorem pieces (separation : Separation) {item : Parser β} (shortens : Shortens item) (finds : Finds item holds) :
    Finds (pieces separation item) fun found => ∀ piece ∈ found, holds piece.value :=
  fun _ _ _ worded read => piecesWithin separation shortens finds _ _ _ _ worded read

theorem angleArguments (shortens : g.Shortens) (finds : ∀ several, Finds (g.type several) (·.type.Sound)) :
    Finds (angleArguments g) fun found => ∀ types, found = .types types → TypeSyntax.AllSound types := by
  unfold Syntax.angleArguments
  refine behind (.optionalSign "::") fun _ => behind (.sign "<") fun _ => ?_
  refine bind (.pieces _ (.argument shortens)) (pieces _ (.argument shortens) (argument shortens finds)) fun found sound => ?_
  refine behind (.writeAll _) fun _ => behind (.sign ">") fun _ => ?_
  dsimp only
  split
  · refine pure fun types same => ?_
    cases same
    apply TypeSyntax.allSound_iff.mpr
    intro type member
    rcases List.mem_filterMap.mp member with ⟨piece, isPiece, isType⟩
    exact sound piece isPiece type isType
  · refine pure fun types same => ?_
    contradiction

theorem pathSegment (shortens : g.Shortens) (finds : ∀ several, Finds (g.type several) (·.type.Sound)) (style : PathStyle) :
    Finds (pathSegment g style) Segment.Sound := by
  unfold Syntax.pathSegment
  refine chooseSeen (fun before segment after seen worded read => ?_) ?_
  · rcases bind_ok read with ⟨name, _, taken, given⟩
    rcases anyWord_ok taken with ⟨place, trees⟩
    cases given
    rw [trees] at seen
    exact .inr (List.contains_iff_mem.mp seen)
  · have rest : ∀ name, IsSegment name → Finds (do
        if ← sees (fun trees => (style == .inType && Look.sign "<" trees && !Look.sign "<=" trees) ||
            (Look.sign "::" trees && Look.third (Look.sign "<") trees)) then
          return ⟨name, ← Syntax.angleArguments g⟩
        return ⟨name, .none⟩) Segment.Sound := by
      intro name isSegment
      refine choose (bind (.angleArguments shortens) (angleArguments shortens finds) fun found sound => pure ?_)
        (pure (.inl isSegment))
      cases found with
      | none => exact .inl isSegment
      | types types => exact ⟨isSegment, sound types rfl⟩
      | mixed => trivial
    refine chooseSeen (fun before segment after seen worded read => ?_) fun before segment after worded read => ?_
    · rcases bind_ok read with ⟨name, middle, taken, given⟩
      rcases anyWord_ok taken with ⟨place, trees⟩
      rw [trees] at seen worded
      obtain rfl : name = "Self" := beq_iff_eq.mp seen
      exact rest "Self" ⟨worded.1, .inr rfl⟩ middle segment after worded.2 given
    · rcases bind_ok read with ⟨name, middle, taken, given⟩
      rcases identifier_ok taken with ⟨place, trees, free⟩
      rw [trees] at worded
      exact rest name ⟨worded.1, .inl free⟩ middle segment after worded.2 given

theorem path (shortens : g.Shortens) (finds : ∀ several, Finds (g.type several) (·.type.Sound)) (style : PathStyle) :
    Finds (path g style) fun form => ∀ segment ∈ form.segments, segment.Sound := by
  have item : Finds (do sign "::"; Syntax.pathSegment g style) Segment.Sound :=
    behind (.sign "::") fun _ => pathSegment shortens finds style
  unfold Syntax.path
  refine behind (.optionalSign "::") fun absolute => ?_
  refine bind (.pathSegment shortens style) (pathSegment shortens finds style) fun first sound => ?_
  refine bind (.itemsWhile _ (.behind (.sign "::") fun _ => .pathSegment shortens style))
    (itemsUntil _ (.behind (.sign "::") fun _ => .pathSegment shortens style) item) fun others othersSound => pure ?_
  intro segment member
  rcases List.mem_cons.mp member with rfl | member
  · exact sound
  · exact othersSound segment member

theorem qualifiedPath (shortens : g.Shortens) (finds : ∀ several, Finds (g.type several) (·.type.Sound)) (style : PathStyle) :
    Finds (qualifiedPath g style) fun found => ∀ form, found = some form → ∀ segment ∈ form.segments, segment.Sound := by
  unfold Syntax.qualifiedPath
  refine choose (of_gives (.behind fun _ => .behind fun _ => .behind fun _ => ?_)) ?_
  · split
    · exact .behind fun _ => .behind fun _ => .behind fun _ => .behind fun _ => .behind fun _ => .pure (by simp)
    · exact .behind fun _ => .behind fun _ => .behind fun _ => .behind fun _ => .pure (by simp)
  · refine bind (.path shortens style) (path shortens finds style) fun form sound => pure fun other same => ?_
    cases same
    exact sound

end Finds

/-- A name of a path is the word that stands next. -/
theorem pathSegment_ok {style : PathStyle} {before after : Stream} {segment : Segment}
    (read : pathSegment g style before = .ok (segment, after)) :
    ∃ place rest, before.trees = .word segment.name place :: rest := by
  have rest : ∀ name, Gives (do
      if ← sees (fun trees => (style == .inType && Look.sign "<" trees && !Look.sign "<=" trees) ||
          (Look.sign "::" trees && Look.third (Look.sign "<") trees)) then
        return ⟨name, ← angleArguments g⟩
      return ⟨name, .none⟩ : Parser Segment) (·.name = name) := by
    refine fun name => .behind fun seen => ?_
    split
    · exact .behind fun _ => .pure rfl
    · exact .pure rfl
  unfold pathSegment at read
  rcases choose_ok read with ⟨-, keyword⟩ | ⟨-, named⟩
  · rcases bind_ok keyword with ⟨name, middle, taken, given⟩
    rcases anyWord_ok taken with ⟨place, trees⟩
    cases given
    exact ⟨place, _, trees⟩
  · rcases choose_ok named with ⟨-, self⟩ | ⟨-, other⟩
    · rcases bind_ok self with ⟨name, middle, taken, given⟩
      rcases anyWord_ok taken with ⟨place, trees⟩
      exact ⟨place, middle.trees, (rest name middle segment after given) ▸ trees⟩
    · rcases bind_ok other with ⟨name, middle, taken, given⟩
      rcases identifier_ok taken with ⟨place, trees, -⟩
      exact ⟨place, middle.trees, (rest name middle segment after given) ▸ trees⟩

/-- A path that does not begin at the root begins with the word that stands next. -/
theorem path_ok {style : PathStyle} {before after : Stream} {form : PathForm} (read : path g style before = .ok (form, after))
    (relative : form.absolute = false) :
    ∃ first others place rest, form.segments = first :: others ∧ before.trees = .word first.name place :: rest := by
  unfold path at read
  rcases bind_ok read with ⟨absolute, middle, opened, read⟩
  rcases bind_ok read with ⟨first, _, begun, read⟩
  rcases bind_ok read with ⟨others, _, -, given⟩
  cases given
  have unmoved : middle = before := by
    unfold optionalSign at opened
    rcases choose_ok opened with ⟨-, taken⟩ | ⟨-, given⟩
    · rcases bind_ok taken with ⟨_, _, -, given⟩
      cases given
      contradiction
    · cases given
      rfl
  rcases pathSegment_ok begun with ⟨place, rest, trees⟩
  exact ⟨first, others, place, rest, rfl, unmoved ▸ trees⟩

theorem PathForm.sound_type {form : PathForm} (sound : ∀ segment ∈ form.segments, segment.Sound)
    (begins : form.absolute = false → form.segments.head?.map (·.name) ≠ some "try") (spelling : String) :
    (form.type spelling).Sound := by
  unfold PathForm.type
  cases isLast : form.segments.getLast? with
  | none => trivial
  | some last =>
      rcases List.getLast?_eq_some_iff.mp isLast with ⟨leading, whole⟩
      rw [whole] at sound begins ⊢
      rw [List.dropLast_concat]
      dsimp only
      split
      · rename_i bare
        have leadingNames : ∀ name ∈ leading.map (·.name), IsPathName name := by
          intro name member
          rcases List.mem_map.mp member with ⟨segment, isLeading, rfl⟩
          have held := sound segment (List.mem_append_left _ isLeading)
          have isBare := List.all_eq_true.mp bare segment isLeading
          unfold Segment.isBare at isBare
          unfold Segment.Sound at held
          split at isBare
          · simp_all
          · contradiction
        have first : form.absolute = false → (leading.map (·.name) ++ [last.name]).head? ≠ some "try" := by
          intro relative
          simpa [List.head?_append, List.head?_map] using begins relative
        have lastSound := sound last (List.mem_append_right _ (List.mem_singleton_self _))
        have names : IsPathName last.name → ∀ name ∈ leading.map (·.name) ++ [last.name], IsPathName name := by
          intro isName name member
          rcases List.mem_append.mp member with member | member
          · exact leadingNames name member
          · exact List.mem_singleton.mp member ▸ isName
        unfold Segment.Sound at lastSound
        split
        · rename_i none
          rw [none] at lastSound
          exact ⟨names lastSound, first, by simp, trivial⟩
        · rename_i types
          rw [types] at lastSound
          exact ⟨names (.inl lastSound.1), first, fun _ => lastSound.1, lastSound.2⟩
        · trivial
      · trivial

theorem captured_ok {parser : Parser α} {before after : Stream} {found : α × List String}
    (read : captured parser before = .ok (found, after)) :
    ∃ inner, parser { before with written := [] } = .ok (found.1, inner) := by
  unfold captured at read
  split at read
  · rename_i inner begun
    cases read
    exact ⟨inner, begun⟩
  · contradiction

theorem qualifiedPath_ok {style : PathStyle} {before after : Stream} {form : PathForm}
    (read : qualifiedPath g style before = .ok (some form, after)) : path g style before = .ok (form, after) := by
  rcases choose_ok read with ⟨-, angled⟩ | ⟨-, plain⟩
  · suffices nothing : Gives _ fun found : Option PathForm => found = none from nomatch nothing _ _ _ angled
    refine .behind fun _ => .behind fun _ => .behind fun _ => ?_
    split
    · exact .behind fun _ => .behind fun _ => .behind fun _ => .behind fun _ => .behind fun _ => .pure rfl
    · exact .behind fun _ => .behind fun _ => .behind fun _ => .behind fun _ => .pure rfl
  · rcases bind_ok plain with ⟨found, _, begun, given⟩
    cases given
    exact begun

theorem gives_spelledType (shape : TypeShape) (parser : Parser Unit) : Gives (spelledType shape parser) (·.type.Sound) :=
  .behind fun _ => .behind fun _ => .pure trivial

/-- A path that a type is made of is sound, since no type begins with `try`. -/
theorem sound_pathType (shortens : g.Shortens) (finds : ∀ several, Finds (g.type several) (·.type.Sound)) (several : Bool)
    {before after : Stream} {form : TypeForm} (starts : startsPath before.trees = true)
    (worded : Tree.AllWorded before.trees) (read : pathType g several false before = .ok (form, after)) : form.type.Sound := by
  unfold pathType at read
  rcases bind_ok read with ⟨⟨found, words⟩, middle, taken, read⟩
  rcases captured_ok taken with ⟨inner, begun⟩
  dsimp only at begun
  cases found with
  | none =>
      suffices gives : Gives _ fun form : TypeForm => form.type.Sound from gives _ _ _ read
      exact .behind fun _ => .pure trivial
  | some path =>
      have sound : ∀ segment ∈ path.segments, segment.Sound :=
        Finds.qualifiedPath shortens finds .inType { before with written := [] } _ _ worded begun path rfl
      have begins : path.absolute = false → path.segments.head?.map (·.name) ≠ some "try" := by
        intro relative
        rcases path_ok (qualifiedPath_ok begun) relative with ⟨first, others, place, rest, segments, trees⟩
        dsimp only at trees
        rw [segments]
        intro isTry
        have isFirst : first.name = "try" := by simpa using isTry
        rw [trees, isFirst] at starts
        contradiction
      have typeSound := PathForm.sound_type sound begins (String.intercalate " " words)
      suffices gives : Gives _ fun form : TypeForm => form.type.Sound from gives _ _ _ read
      refine .behind fun _ => ?_
      split
      · exact gives_spelledType _ _
      · refine .behind fun _ => ?_
        dsimp only
        split
        · exact .behind fun _ => .behind fun _ => .pure trivial
        · exact .behind fun _ => .pure typeSound

namespace Finds

theorem parenthesizedType (shortens : g.Shortens) (finds : ∀ several, Finds (g.type several) (·.type.Sound)) (several : Bool) :
    Finds (parenthesizedType g several) (·.type.Sound) := by
  have inside : Finds (enclosed g) fun found => ∀ form, found = .parenthesized form → form.type.Sound := by
    unfold Syntax.enclosed
    refine choose (pure (by simp)) ?_
    refine choose (behind .place fun _ => bind (.spelledType _ (.objectBounds shortens _ _)) (of_gives (gives_spelledType _ _))
      fun form sound => pure ?_) ?_
    · intro other same
      cases same
      exact sound
    · refine choose (behind (.traitBound shortens _) fun _ => pure (by simp)) ?_
      refine bind (shortens.type true) (finds true) fun form sound => ?_
      refine choose (of_gives (.behind fun _ => .pure (by simp))) (pure fun other same => ?_)
      cases same
      exact sound
  unfold Syntax.parenthesizedType
  refine bind (.captured (.behind (.group _ _) fun content => ?_))
    (captured (?_ : Finds _ fun found => ∀ form, found = some form → form.type.Sound)) fun found sound => ?_
  · cases content <;> grind
  · refine bind (.group _ _) (group _ inside) fun found sound => ?_
    cases found with
    | tuple => exact pure (by simp)
    | maybe => exact of_gives (.behind fun _ => .pure (by simp))
    | parenthesized form =>
        have isForm : Finds (Pure.pure (some form) : Parser (Option TypeForm))
            fun found => ∀ form, found = some form → form.type.Sound := by
          refine pure fun other same => ?_
          cases same
          exact sound form rfl
        exact ite (choose (of_gives (.behind fun _ => .pure (by simp))) isForm) isForm
  · refine behind (.writeAll _) fun _ => ?_
    split
    · rename_i form isForm
      exact pure (sound form isForm)
    · exact pure trivial

theorem type (shortens : g.Shortens) (finds : ∀ several, Finds (g.type several) (·.type.Sound)) (several : Bool) :
    Finds (type g several) (·.type.Sound) := by
  have spelled : ∀ parser : Parser Unit, Finds (spelledType .other parser) (·.type.Sound) :=
    fun parser => of_gives (gives_spelledType .other parser)
  have bound : Gives (boundType g several) (·.type.Sound) := .behind fun _ => .behind fun _ => .pure trivial
  unfold Syntax.type
  refine choose (of_gives bound) (choose (parenthesizedType shortens finds several) (choose (spelled _) ?_))
  refine chooseSeen (fun _ _ _ seen worded read => sound_pathType shortens finds several seen worded read) ?_
  refine choose (spelled _) (choose (spelled _) (choose (spelled _) (choose (spelled _) (choose (spelled _)
    (choose (spelled _) (choose (spelled _) (choose ?_ ?_)))))))
  · exact behind .place fun _ => spelled _
  · exact of_gives (.expectedOneOf _)

end Finds

/-- The types that the grammar reads among words have names that can stand there. The induction is on the depth of the
grammar. -/
theorem finds_type (depth : Nat) (several : Bool) : Finds ((grammar depth).type several) (·.type.Sound) := by
  induction depth generalizing several with
  | zero => exact .of_gives (.of_fails fun _ => ⟨_, rfl⟩)
  | succ depth ih => exact .type (shortens_grammar depth) ih several

/-- The names in a type that is read from a text can stand in types. -/
theorem sound_readType {text : String} {type : TypeSyntax} (read : readType text = .ok type) : type.Sound := by
  unfold readType treesOf at read
  cases divided : treesFrom .start text.toList with
  | error place => simp [divided, Bind.bind, Except.bind] at read
  | ok trees =>
      cases parsed : parseAll (fun g => Syntax.type g true) trees with
      | error reason => simp [divided, parsed, Bind.bind, Except.bind] at read
      | ok found =>
          rcases parse_of_parseAll parsed with ⟨after, begun, -⟩
          have same : found.1.type = type := by
            simpa [divided, parsed, Bind.bind, Except.bind, Pure.pure, Except.pure] using read
          rw [← same]
          exact Finds.type (shortens_grammar _) (finds_type _) true _ _ _ (allWorded_treesFrom divided) begun

end Companion.Syntax
