import Companion.Proofs.Syntax.Reads
import Companion.Proofs.Syntax.TypeForms

set_option autoImplicit false

namespace Companion.Syntax

open Companion.Syntax.Parser
open Companion.Syntax.Form (texts)

/-- Whether nothing stands next that goes on with a type. -/
def endsType : List Tree → Bool
  | .sign char _ _ :: _ => !":<!+=".toList.contains char
  | _ => true

theorem sign_of_endsType {rest : List Tree} (ends : endsType rest = true) {text : String} {char : Char} {others : List Char}
    (chars : text.toList = char :: others) (goesOn : char ∈ ":<!+=".toList) : Look.sign text rest = false := by
  unfold Look.sign
  rw [chars]
  cases rest with
  | nil => cases others <;> rfl
  | cons tree rest =>
      cases tree with
      | sign found joint place =>
          have different : found ≠ char := by
            rintro rfl
            simp [endsType] at ends
            simp at goesOn
            simp_all
          cases others <;> simp [Look.signs, different]
      | word | lifetime | literal | group => cases others <;> rfl

/-- Trees that begin with a path that can be a type. -/
inductive StartsType : List Tree → Prop
  | name {first : String} (isName : IsPathName first) (noTry : first ≠ "try") (place : Position) (rest : List Tree) :
      StartsType (.word first place :: rest)
  | root (first second : Position) (rest : List Tree) :
      StartsType (.sign ':' true first :: .sign ':' false second :: rest)

theorem ne_of_isPathName {name keyword : String} (isName : IsPathName name) (reserved : keyword ∈ Look.keywords)
    (other : keyword ∉ "Self" :: bareNames) : name ≠ keyword := by
  rintro rfl
  rcases isName with ⟨-, free | rfl⟩ | isBare
  · exact free reserved
  · exact other List.mem_cons_self
  · exact other (List.mem_cons_of_mem _ isBare)

namespace StartsType

variable {trees : List Tree}

theorem word (starts : StartsType trees) {keyword : String} (reserved : keyword ∈ Look.keywords)
    (other : keyword ∉ "Self" :: bareNames) : Look.word keyword trees = false := by
  cases starts with
  | name isName => simpa [Look.word] using ne_of_isPathName isName reserved other
  | root => rfl

theorem oneOf (starts : StartsType trees) {keywords : List String}
    (reserved : ∀ keyword ∈ keywords, keyword ∈ Look.keywords ∧ keyword ∉ "Self" :: bareNames) :
    Look.oneOf keywords trees = false := by
  cases starts with
  | @name first isName =>
      apply Bool.eq_false_iff.mpr
      intro found
      rcases reserved first (List.contains_iff_mem.mp found) with ⟨isKeyword, other⟩
      exact ne_of_isPathName isName isKeyword other rfl
  | root => rfl

theorem group (starts : StartsType trees) (delimiter : Delimiter) : Look.group delimiter trees = false := by
  cases starts <;> rfl

theorem lifetime (starts : StartsType trees) : Look.lifetime trees = false := by
  cases starts <;> rfl

theorem sign (starts : StartsType trees) {text : String} {char : Char} {others : List Char}
    (chars : text.toList = char :: others) (other : char ≠ ':') : Look.sign text trees = false := by
  unfold Look.sign
  rw [chars]
  cases starts with
  | name => cases others <;> rfl
  | root => cases others <;> simp [Look.signs, other.symm]

theorem literal (starts : StartsType trees) : Look.literal trees = false := by
  cases starts with
  | @name first isName =>
      have noTrue := ne_of_isPathName isName (show "true" ∈ Look.keywords by decide) (by decide)
      have noFalse := ne_of_isPathName isName (show "false" ∈ Look.keywords by decide) (by decide)
      simp [Look.literal, noTrue, noFalse]
  | root => rfl

theorem path (starts : StartsType trees) : startsPath trees = true := by
  cases starts with
  | name isName noTry =>
      rcases isName with ⟨-, free | rfl⟩ | isBare
      · simp [startsPath, Look.identifier, free]
      · rfl
      · simp only [bareNames, List.mem_cons, List.not_mem_nil, or_false] at isBare
        rcases isBare with rfl | rfl | rfl | rfl
        · rfl
        · rfl
        · rfl
        · contradiction
  | root => rfl

end StartsType

variable {g : Grammar}

/-- The question whether arguments stand behind a name. -/
def opensAngle (style : PathStyle) : Look := fun trees =>
  (style == .inType && Look.sign "<" trees && !Look.sign "<=" trees) ||
    (Look.sign "::" trees && Look.third (Look.sign "<") trees)

def segmentRest (g : Grammar) (style : PathStyle) (name : String) : Parser Segment := do
  if ← sees (opensAngle style) then
    return ⟨name, ← angleArguments g⟩
  return ⟨name, .none⟩

/-- A name that can have arguments is read, and then its arguments are. -/
theorem reads_segmentName {name : String} (isSegment : IsSegment name) {style : PathStyle} (place : Position)
    {trees rest : List Tree} {holds : Segment → Prop} (reads : Reads (segmentRest g style name) trees rest holds) :
    Reads (pathSegment g style) (.word name place :: trees) rest holds := by
  have noKeyword : Look.oneOf ["super", "self", "crate", "try"] (.word name place :: trees) = false := by
    have keywords : ∀ keyword ∈ "Self" :: bareNames, keyword ∈ Look.keywords := by decide
    apply Bool.eq_false_iff.mpr
    intro found
    have isBare : name ∈ bareNames := List.contains_iff_mem.mp found
    rcases isSegment.2 with free | rfl
    · exact free (keywords name (List.mem_cons_of_mem _ isBare))
    · contradiction
  have next : ∀ found, found = name → Reads (segmentRest g style found) trees rest holds := by
    rintro found rfl
    exact reads
  unfold pathSegment
  refine .no noKeyword ?_
  rcases isSegment.2 with free | rfl
  · have noSelf : Look.word "Self" (.word name place :: trees) = false := by
      have different : name ≠ "Self" := by
        rintro rfl
        exact free (by decide)
      simpa [Look.word] using different
    exact .no noSelf (.bind (.identifier free place trees) next)
  · exact .yes rfl (.bind (.anyWord _ place trees) next)

theorem reads_bareSegment {name : String} (isName : IsPathName name) (style : PathStyle) (place : Position) {rest : List Tree}
    (alone : opensAngle style rest = false) : Reads (pathSegment g style) (.word name place :: rest) rest (· = ⟨name, .none⟩) := by
  rcases isName with isSegment | isBare
  · exact reads_segmentName isSegment place (.no alone (.pure rfl))
  · have keyword : Look.oneOf ["super", "self", "crate", "try"] (.word name place :: rest) = true :=
      List.contains_iff_mem.mpr isBare
    unfold pathSegment
    refine .yes keyword (.bind (.anyWord name place rest) fun found same => ?_)
    rw [same]
    exact .pure rfl

theorem reads_segment {name : String} (isSegment : IsSegment name) {style : PathStyle} (place : Position) {trees rest : List Tree}
    {found : Arguments} (opens : opensAngle style trees = true) (reads : Reads (angleArguments g) trees rest (· = found)) :
    Reads (pathSegment g style) (.word name place :: trees) rest (· = ⟨name, found⟩) := by
  apply reads_segmentName isSegment place
  refine .yes opens (.bind reads fun arguments same => ?_)
  rw [same]
  exact .pure rfl

/-- The trees of two colons that stand in front of others. -/
def colonTrees (first second : Position) (rest : List Tree) : List Tree :=
  .sign ':' true first :: .sign ':' false second :: rest

theorem trees_colons (place : Position) (forms : List Form) :
    ∃ first second next, Form.trees place (colons ++ forms) = colonTrees first second (Form.trees next forms) :=
  ⟨_, _, _, rfl⟩

def goesOn : Look := fun trees => Look.sign "::" trees && !Look.third (Look.group .parenthesis) trees

def furtherSegment (g : Grammar) (style : PathStyle) : Parser Segment := do
  sign "::"
  pathSegment g style

theorem reads_furtherSegment {style : PathStyle} {first second : Position} {trees rest : List Tree} {segment : Segment}
    (reads : Reads (pathSegment g style) trees rest (· = segment)) :
    Reads (furtherSegment g style) (colonTrees first second trees) rest (· = segment) :=
  .bind (.sign rfl) fun _ _ => reads

theorem trees_leadingForms (place : Position) (name : String) (names : List String) (last : String) (more : List Form) :
    ∃ first second next, Form.trees place (leadingForms (name :: names) ++ .word last :: more) =
      .word name place :: colonTrees first second (Form.trees next (leadingForms names ++ .word last :: more)) := by
  have split : leadingForms (name :: names) ++ .word last :: more =
      .word name :: (colons ++ (leadingForms names ++ .word last :: more)) := by simp [leadingForms]
  rcases trees_colons (place.after name.toList) (leadingForms names ++ .word last :: more) with ⟨first, second, next, same⟩
  exact ⟨first, second, next, by rw [split, Form.trees_word, same]⟩

theorem opensAngle_colonTrees (style : PathStyle) (first second place : Position) (names : List String) (last : String)
    (more : List Form) (rest : List Tree) :
    opensAngle style (colonTrees first second (Form.trees place (leadingForms names ++ .word last :: more) ++ rest)) = false := by
  cases names <;> cases style <;> rfl

section Names

variable {style : PathStyle} {names : List String} {last : String} {more : List Form} {rest : List Tree} {segment : Segment}

/-- Further names, of which the last one may have arguments. The induction is on the names in front of it. -/
theorem collects_names (areNames : ∀ name ∈ names, IsPathName name)
    (reads : ∀ place, Reads (pathSegment g style) (Form.trees place (.word last :: more) ++ rest) rest (· = segment))
    (ends : Look.sign "::" rest = false) (first second place : Position) :
    Collects (unlessStopped (fun trees => !goesOn trees) (furtherSegment g style))
      (colonTrees first second (Form.trees place (leadingForms names ++ .word last :: more) ++ rest)) rest
      (· = names.map (⟨·, .none⟩) ++ [segment]) := by
  induction names generalizing first second place with
  | nil =>
      have stops : Reads (unlessStopped (fun trees => !goesOn trees) (furtherSegment g style)) rest rest (· = none) :=
        unlessStopped_stopped _ (by simp [goesOn, ends])
      have step : Reads (unlessStopped (fun trees => !goesOn trees) (furtherSegment g style))
          (colonTrees first second (Form.trees place (.word last :: more) ++ rest)) rest
          fun found => ∃ value, found = some value ∧ value = segment :=
        unlessStopped_going rfl (reads_furtherSegment (reads place))
      have shorter : rest.length < (colonTrees first second (Form.trees place (.word last :: more) ++ rest)).length := by
        simp [colonTrees]
        omega
      intro count enough
      refine (Collects.cons step shorter (.nil stops) count enough).mono ?_
      rintro _ ⟨value, _, rfl, rfl, rfl⟩
      rfl
  | cons name names ih =>
      rcases trees_leadingForms place name names last more with ⟨third, fourth, next, same⟩
      have others := ih (fun other member => areNames other (List.mem_cons_of_mem _ member)) third fourth next
      have bare := reads_bareSegment (g := g) (areNames name List.mem_cons_self) style place
        (opensAngle_colonTrees style third fourth next names last more rest)
      rw [same]
      have step : Reads (unlessStopped (fun trees => !goesOn trees) (furtherSegment g style)) (colonTrees first second
          (.word name place :: colonTrees third fourth (Form.trees next (leadingForms names ++ .word last :: more) ++ rest))) _
          fun found => ∃ value, found = some value ∧ value = ⟨name, .none⟩ :=
        unlessStopped_going rfl (reads_furtherSegment bare)
      intro count enough
      refine (Collects.cons step (by simp [colonTrees]) others count enough).mono ?_
      rintro _ ⟨value, _, rfl, rfl, rfl⟩
      rfl

theorem reads_path (areNames : ∀ name ∈ names, IsPathName name)
    (reads : ∀ place, Reads (pathSegment g style) (Form.trees place (.word last :: more) ++ rest) rest (· = segment))
    (ends : Look.sign "::" rest = false) (absolute : Bool) (place : Position) :
    Reads (path g style) (Form.trees place (pathForms absolute names last ++ more) ++ rest) rest
      (· = ⟨absolute, names.map (⟨·, .none⟩) ++ [segment]⟩) := by
  have relative : ∀ place, Reads (do
      let first ← pathSegment g style
      let others ← itemsWhile goesOn (furtherSegment g style)
      return ⟨absolute, first :: others⟩) (Form.trees place (leadingForms names ++ .word last :: more) ++ rest) rest
      (· = (⟨absolute, names.map (⟨·, .none⟩) ++ [segment]⟩ : PathForm)) := by
    intro place
    cases names with
    | nil =>
        refine .bind (reads place) fun first same => ?_
        refine .bind (.itemsWhile_nil _ (by simp [goesOn, ends])) fun others none => .pure ?_
        rw [same, none]
        rfl
    | cons name names =>
        rcases trees_leadingForms place name names last more with ⟨third, fourth, next, same⟩
        have areOthers : ∀ name ∈ names, IsPathName name := fun other member => areNames other (List.mem_cons_of_mem _ member)
        have bare := reads_bareSegment (g := g) (areNames name List.mem_cons_self) style place
          (opensAngle_colonTrees style third fourth next names last more rest)
        rw [same]
        refine .bind bare fun first isFirst => ?_
        refine .bind (collects_names areOthers reads ends third fourth next).reads fun others areOthers => .pure ?_
        rw [isFirst, areOthers]
        rfl
  have whole : pathForms absolute names last ++ more =
      (if absolute then colons else []) ++ (leadingForms names ++ .word last :: more) := by simp [pathForms]
  rw [whole]
  unfold path
  cases absolute with
  | true =>
      rcases trees_colons place (leadingForms names ++ .word last :: more) with ⟨first, second, next, same⟩
      rw [if_pos rfl, same]
      refine .bind (.optionalSign_yes rfl) fun found isAbsolute => ?_
      rw [isAbsolute]
      exact relative next
  | false =>
      have noColons : Look.sign "::" (Form.trees place (leadingForms names ++ .word last :: more) ++ rest) = false := by
        cases names <;> rfl
      refine .bind (.optionalSign_no noColons) fun found isRelative => ?_
      rw [isRelative]
      exact relative place

end Names

/-- The arguments that types between angles are; without types there are no angles. -/
def Arguments.ofTypes : List TypeSyntax → Arguments
  | [] => .none
  | first :: others => .types (first :: others)

theorem PathForm.type_eq (absolute : Bool) (names : List String) (last : String) (arguments : List TypeSyntax)
    (spelling : String) :
    (PathForm.mk absolute (names.map (⟨·, .none⟩) ++ [⟨last, .ofTypes arguments⟩])).type spelling =
      .path absolute names last arguments := by
  have bare : (names.map fun name => Segment.mk name .none).all Segment.isBare = true := by simp [Segment.isBare]
  have same : (names.map fun name => Segment.mk name .none).map (·.name) = names := by
    simp [Function.comp_def]
  unfold PathForm.type
  simp only [List.getLast?_concat, List.dropLast_concat, bare, same, if_true]
  cases arguments <;> rfl

theorem startsType_forms {type : TypeSyntax} (plain : type.Plain) (sound : type.Sound) (joint : Bool) (place : Position)
    (rest : List Tree) : StartsType (Form.trees place (type.forms joint) ++ rest) := by
  cases type with
  | parenthesized => contradiction
  | other => contradiction
  | path absolute leading last arguments =>
      rcases sound with ⟨areNames, noTry, -, -⟩
      cases absolute with
      | true => exact .root _ _ _
      | false =>
          have begins := noTry rfl
          cases leading with
          | nil => exact .name (areNames last (by simp)) (by simpa using begins) _ _
          | cons name names => exact .name (areNames name (by simp)) (by simpa using begins) _ _

/-- Whether a rule reads back each type that is written. -/
def ReadsBack (parser : Parser TypeForm) (type : TypeSyntax) : Prop :=
  ∀ joint place rest, endsType rest = true →
    Reads parser (Form.trees place (type.forms joint) ++ rest) rest (·.type = type)

theorem reads_plainArgument {trees rest : List Tree} {holds : TypeForm → Prop} (noLifetime : Look.lifetime trees = false)
    (noConstant : startsConstant trees = false) (reads : Reads (g.type true) trees rest holds) (ends : endsType rest = true) :
    Reads (argument g) trees rest fun found => ∃ form, holds form ∧ found = .plain form.type := by
  have noEquals : Look.sign "=" rest = false := sign_of_endsType ends rfl (by decide)
  have noColon : Look.sign ":" rest = false := sign_of_endsType ends rfl (by decide)
  unfold argument
  refine .no (by simp [noLifetime]) (.no noConstant (.bind reads fun form held => ?_))
  dsimp only
  split
  · refine .bind (.optionalSign_no noEquals) fun _ no => ?_
    rw [no]
    refine .bind (.optionalSign_no noColon) fun _ no => ?_
    rw [no]
    exact .pure ⟨form, held, rfl⟩
  · exact .pure ⟨form, held, rfl⟩

theorem reads_argument {type : TypeSyntax} (plain : type.Plain) (sound : type.Sound) (reads : ReadsBack (g.type true) type)
    (joint : Bool) (place : Position) {rest : List Tree} (ends : endsType rest = true) :
    Reads (argument g) (Form.trees place (type.forms joint) ++ rest) rest (· = .plain type) := by
  have starts := startsType_forms plain sound joint place rest
  have noConstant : startsConstant (Form.trees place (type.forms joint) ++ rest) = false := by
    simp [startsConstant, starts.literal, starts.group]
  refine (reads_plainArgument starts.lifetime noConstant (reads joint place rest ends) ends).mono ?_
  rintro _ ⟨form, rfl, rfl⟩
  rfl

/-- The arguments between angles are read, each of which is. The induction is on the arguments behind the first. -/
theorem reads_pieces {type : TypeSyntax} {types : List TypeSyntax} (plain : TypeSyntax.AllPlain (type :: types))
    (sound : TypeSyntax.AllSound (type :: types)) (reads : ∀ one ∈ type :: types, ReadsBack (g.type true) one)
    (joint : Bool) (rest : List Tree) (place next : Position) :
    ∃ closed, ReadsPieces (.commasUpTo ">") (argument g)
      (Form.trees place (type.forms true) ++
        (Form.trees next (TypeSyntax.furtherForms types ++ [.sign '>' joint]) ++ rest))
      (.sign '>' joint closed :: rest) fun found => found.map (·.value) = (type :: types).map .plain := by
  have going : ∀ behind, (Separation.commasUpTo ">").stop (Form.trees place (type.forms true) ++ behind) = false :=
    fun behind => (startsType_forms plain.1 sound.1 true place behind).sign rfl (by decide)
  have first : ∀ behind, endsType behind = true →
      Reads (argument g) (Form.trees place (type.forms true) ++ behind) behind (· = .plain type) :=
    fun behind ends => reads_argument plain.1 sound.1 (reads type List.mem_cons_self) true place ends
  cases types with
  | nil =>
      refine ⟨next, fun count enough => ?_⟩
      refine ((ReadsPieces.last (going _) (first (.sign '>' joint next :: rest) rfl) rfl) count enough).mono ?_
      rintro _ ⟨piece, rfl, isFirst, -⟩
      simp [isFirst]
  | cons second types =>
      have behind : ∃ later, Form.trees next (TypeSyntax.furtherForms (second :: types) ++ [.sign '>' joint]) =
          .sign ',' false next :: Form.trees later (second.forms true ++ (TypeSyntax.furtherForms types ++
            [.sign '>' joint])) := by
        rw [TypeSyntax.furtherForms, List.cons_append, List.cons_append, List.append_assoc]
        exact ⟨_, rfl⟩
      rcases behind with ⟨later, same⟩
      rw [same, Form.trees_append, List.cons_append, List.append_assoc]
      rcases reads_pieces plain.2 sound.2 (fun one member => reads one (List.mem_cons_of_mem _ member)) joint rest later
        (later.after (texts (second.forms true)).toList) with ⟨closed, others⟩
      refine ⟨closed, fun count enough => ?_⟩
      have all := ReadsPieces.cons rfl (going _) (first (.sign ',' false next :: _) rfl) rfl (by grind) others
      refine (all count enough).mono ?_
      rintro _ ⟨piece, found, rfl, isFirst, areOthers⟩
      simpa [isFirst] using areOthers

def Arguments.ofPieces (found : List (Piece Argument)) : Arguments :=
  let types := found.filterMap fun piece => piece.value.type?
  if types.length == found.length then .types types else .mixed

theorem Arguments.ofPieces_types {found : List (Piece Argument)} {types : List TypeSyntax}
    (values : found.map (·.value) = types.map .plain) : ofPieces found = .types types := by
  have same : found.filterMap (fun piece => piece.value.type?) = types := by
    have given : found.filterMap (fun piece => piece.value.type?) = (found.map (·.value)).filterMap Argument.type? := by
      rw [List.filterMap_map]
      rfl
    rw [given, values, List.filterMap_map]
    simp [Function.comp_def, Argument.type?]
  have length : types.length = found.length := by
    simpa using (congrArg List.length values).symm
  unfold ofPieces
  simp only [same, length, beq_self_eq_true, if_true]

theorem reads_angles {trees rest : List Tree} {joint closing : Bool} {opened closed : Position}
    {holds : List (Piece Argument) → Prop}
    (pieces : ReadsPieces (.commasUpTo ">") (argument g) trees (.sign '>' closing closed :: rest) holds) :
    Reads (angleArguments g) (.sign '<' joint opened :: trees) rest
      fun arguments => ∃ found, holds found ∧ arguments = .ofPieces found := by
  unfold angleArguments
  refine .bind (.optionalSign_no rfl) fun _ _ => .bind (.sign rfl) fun _ _ => .bind pieces.reads fun found held => ?_
  refine .bind (.writeAll _ _) fun _ _ => .bind (.sign rfl) fun _ _ => ?_
  have same : Arguments.ofPieces found = if (found.filterMap fun piece => piece.value.type?).length == found.length then
      .types (found.filterMap fun piece => piece.value.type?) else .mixed := rfl
  dsimp only
  split
  · rename_i isTypes
    exact .pure ⟨found, held, by rw [same, if_pos isTypes]⟩
  · rename_i isMixed
    exact .pure ⟨found, held, by rw [same, if_neg isMixed]⟩

theorem reads_angleArguments {types : List TypeSyntax} (some : types ≠ []) (plain : TypeSyntax.AllPlain types)
    (sound : TypeSyntax.AllSound types) (reads : ∀ one ∈ types, ReadsBack (g.type true) one) (joint : Bool)
    (rest : List Tree) (place : Position) :
    Reads (angleArguments g) (Form.trees place (TypeSyntax.argumentForms joint types) ++ rest) rest (· = .ofTypes types) := by
  cases types with
  | nil => contradiction
  | cons first others =>
      rcases reads_pieces plain sound reads joint rest (place.after '<'.toString.toList)
        ((place.after '<'.toString.toList).after (texts (first.forms true)).toList) with ⟨closed, pieces⟩
      rw [TypeSyntax.argumentForms, Form.trees_sign, Form.trees_append, List.cons_append, List.append_assoc]
      refine (reads_angles pieces).mono ?_
      rintro _ ⟨found, values, rfl⟩
      exact Arguments.ofPieces_types values

theorem reads_lastSegment {last : String} {arguments : List TypeSyntax} (isName : IsPathName last)
    (isSegment : arguments ≠ [] → IsSegment last) (plain : TypeSyntax.AllPlain arguments)
    (sound : TypeSyntax.AllSound arguments) (reads : ∀ one ∈ arguments, ReadsBack (g.type true) one) (joint : Bool)
    {rest : List Tree} (ends : endsType rest = true) (place : Position) :
    Reads (pathSegment g .inType) (Form.trees place (.word last :: TypeSyntax.argumentForms joint arguments) ++ rest) rest
      (· = ⟨last, .ofTypes arguments⟩) := by
  cases arguments with
  | nil =>
      have noAngle : Look.sign "<" rest = false := sign_of_endsType ends rfl (by decide)
      have noColons : Look.sign "::" rest = false := sign_of_endsType ends rfl (by decide)
      have alone : opensAngle .inType rest = false := by simp [opensAngle, noAngle, noColons]
      exact reads_bareSegment isName .inType place alone
  | cons first others =>
      have inside := reads_angleArguments (List.cons_ne_nil first others) plain sound reads joint rest
        (place.after last.toList)
      have opens : opensAngle .inType (Form.trees (place.after last.toList)
          (TypeSyntax.argumentForms joint (first :: others)) ++ rest) = true := by
        have noEquals : ∀ later behind, Look.signs ['='] (Form.trees later (first.forms true ++ behind) ++ rest) = false := by
          intro later behind
          rw [Form.trees_append, List.append_assoc]
          exact (startsType_forms plain.1 sound.1 true later _).sign (show "=".toList = ['='] from rfl) (by decide)
        simp [opensAngle, TypeSyntax.argumentForms, Look.sign, Look.signs, noEquals]
      exact reads_segment (isSegment (List.cons_ne_nil first others)) place opens inside

theorem reads_pathType {trees rest : List Tree} {met : PathForm → Prop} (starts : StartsType trees)
    (path : Reads (path g .inType) trees rest met) (ends : endsType rest = true) (several : Bool) :
    Reads (type g several) trees rest fun found => ∃ form spelling, met form ∧ found.type = form.type spelling := by
  have noCall : Look.sign "!" rest = false := sign_of_endsType ends rfl (by decide)
  have noPlus : Look.sign "+" rest = false := sign_of_endsType ends rfl (by decide)
  have qualified : Reads (qualifiedPath g .inType) trees rest fun found => ∃ form, found = some form ∧ met form :=
    .no (starts.sign rfl (by decide)) (.bind path fun form held => .pure ⟨form, rfl, held⟩)
  unfold type
  refine .no (starts.word (by decide) (by decide)) (.no (starts.group _) (.no (starts.oneOf (by decide)) ?_))
  refine .yes starts.path ?_
  unfold pathType
  refine .bind (.captured qualified) fun found something => ?_
  rcases found with ⟨found, words⟩
  rcases something with ⟨form, isForm, held⟩
  obtain rfl : found = some form := isForm
  dsimp only
  refine .bind (.sees _ _) fun called notCalled => ?_
  rw [notCalled, noCall]
  refine .bind (.sees _ _) fun more noMore => ?_
  rw [noMore, noPlus, Bool.and_false, Bool.or_false]
  exact .bind (.writeAll _ _) fun _ _ => .pure ⟨form, _, held, rfl⟩

/-- A type is read back by the rule of types, if its arguments are. -/
theorem readsBack_type {absolute : Bool} {leading : List String} {last : String} {arguments : List TypeSyntax}
    (plain : (TypeSyntax.path absolute leading last arguments).Plain)
    (sound : (TypeSyntax.path absolute leading last arguments).Sound)
    (reads : ∀ one ∈ arguments, ReadsBack (g.type true) one) (several : Bool) :
    ReadsBack (type g several) (.path absolute leading last arguments) := by
  intro joint place rest ends
  have starts := startsType_forms plain sound joint place rest
  have noColons : Look.sign "::" rest = false := sign_of_endsType ends rfl (by decide)
  rcases sound with ⟨areNames, -, isSegment, argumentsSound⟩
  have path := reads_path (fun name member => areNames name (List.mem_append_left _ member))
    (reads_lastSegment (areNames last (by simp)) isSegment plain argumentsSound reads joint ends) noColons absolute place
  refine (reads_pathType starts path ends several).mono ?_
  rintro found ⟨form, spelling, rfl, same⟩
  rw [same]
  exact PathForm.type_eq absolute leading last arguments spelling

theorem sizes_furtherForms {type : TypeSyntax} {types : List TypeSyntax} (member : type ∈ types) :
    Form.sizes (type.forms true) ≤ Form.sizes (TypeSyntax.furtherForms types) := by
  induction types with
  | nil => contradiction
  | cons first others ih =>
      simp only [TypeSyntax.furtherForms, Form.sizes, Form.sizes_append]
      rcases List.mem_cons.mp member with rfl | member
      · omega
      · have inOthers := ih member
        omega

theorem sizes_argument {type : TypeSyntax} {arguments : List TypeSyntax} (member : type ∈ arguments) (absolute : Bool)
    (leading : List String) (last : String) (joint : Bool) :
    Form.sizes (type.forms true) < Form.sizes ((TypeSyntax.path absolute leading last arguments).forms joint) := by
  cases arguments with
  | nil => contradiction
  | cons first others =>
      simp only [TypeSyntax.forms, TypeSyntax.argumentForms, Form.sizes, Form.sizes_append, Form.size]
      rcases List.mem_cons.mp member with rfl | member
      · omega
      · have inOthers := sizes_furtherForms member
        omega

/-- A type that is written is read back by the grammar, if the grammar is as deep as the type has tokens. The induction is
on the depth, since the arguments of a type have fewer tokens. -/
theorem readsBack_grammar {type : TypeSyntax} (plain : type.Plain) (sound : type.Sound) {depth : Nat}
    (enough : Form.sizes (type.forms true) ≤ depth) (several : Bool) : ReadsBack ((grammar depth).type several) type := by
  cases type with
  | parenthesized => contradiction
  | other => contradiction
  | path absolute leading last arguments =>
      induction depth generalizing absolute leading last arguments several with
      | zero =>
          simp only [TypeSyntax.forms, pathForms, Form.sizes, Form.sizes_append, Form.size] at enough
          omega
      | succ depth ih =>
          refine readsBack_type plain sound (fun one member => ?_) several
          have fewer := sizes_argument member absolute leading last true
          have onePlain := TypeSyntax.allPlain_iff.mp plain one member
          cases one with
          | parenthesized => contradiction
          | other => contradiction
          | path => exact ih true _ _ _ _ onePlain (TypeSyntax.allSound_iff.mp sound.2.2.2 _ member) (by omega)

theorem reads_reference {trees rest : List Tree} {holds : TypeForm → Prop} (starts : StartsType trees)
    (reads : Reads (g.type false) trees rest holds) (joint : Bool) (place : Position) (several : Bool) :
    Reads (type g several) (.sign '&' joint place :: trees) rest fun _ => True := by
  have noStar : Look.sign "*" (.sign '&' joint place :: trees) = false := by simp [Look.sign, Look.signs]
  have isReference : Reads (referenceType g) (.sign '&' joint place :: trees) rest fun _ => True := by
    refine .bind (.sign (by simp [Look.sign, Look.signs])) fun _ _ => ?_
    refine .bind (.optionalLifetime_no starts.lifetime) fun _ _ => ?_
    refine .bind (.optionalWord_no (starts.word (by decide) (by decide))) fun _ _ => ?_
    exact .bind reads fun _ _ => .pure trivial
  have noPath : startsPath (.sign '&' joint place :: trees) = false := by
    simp [startsPath, Look.identifier, Look.oneOf, Look.sign, Look.signs]
  unfold type
  refine .no rfl (.no rfl (.no rfl (.no noPath (.no rfl (.no rfl (.no noStar (.yes (by simp [Look.sign, Look.signs]) ?_)))))))
  exact .bind (.captured isReference) fun _ _ => .bind (.writeAll _ _) fun _ _ => .pure trivial

/-- A name with one argument between angles is read as a type, if the argument is. -/
theorem reads_applied {name : String} (isSegment : IsSegment name) (noTry : name ≠ "try") {trees rest : List Tree}
    {holds : TypeForm → Prop} {joint closing : Bool} {opened closed : Position} (noLifetime : Look.lifetime trees = false)
    (noConstant : startsConstant trees = false) (going : Look.sign ">" trees = false)
    (opens : Look.sign "<=" (.sign '<' joint opened :: trees) = false)
    (reads : Reads (g.type true) trees (.sign '>' closing closed :: rest) holds) (ends : endsType rest = true)
    (place : Position) (several : Bool) :
    Reads (type g several) (.word name place :: .sign '<' joint opened :: trees) rest fun _ => True := by
  have noColons : Look.sign "::" rest = false := sign_of_endsType ends rfl (by decide)
  have angle : opensAngle .inType (.sign '<' joint opened :: trees) = true := by
    simp [opensAngle, opens, show Look.sign "<" (.sign '<' joint opened :: trees) = true from rfl]
  have pieces : ReadsPieces (.commasUpTo ">") (argument g) trees (.sign '>' closing closed :: rest) _ := .last going
    (reads_plainArgument noLifetime noConstant reads (show endsType (.sign '>' closing closed :: rest) = true from rfl)) rfl
  have segment : Reads (pathSegment g .inType) (.word name place :: .sign '<' joint opened :: trees) rest fun _ => True :=
    reads_segmentName isSegment place (.yes angle (.bind (reads_angles pieces) fun _ _ => .pure trivial))
  have path : Reads (path g .inType) (.word name place :: .sign '<' joint opened :: trees) rest fun _ => True := by
    refine .bind (.optionalSign_no rfl) fun _ _ => .bind segment fun _ _ => ?_
    exact .bind (.itemsWhile_nil _ (by simp [noColons])) fun _ _ => .pure trivial
  exact (reads_pathType (.name (.inl isSegment) noTry place _) path ends several).mono fun _ _ => trivial

end Companion.Syntax
