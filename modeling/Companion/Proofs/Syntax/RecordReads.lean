import Companion.Proofs.Syntax.Literals
import Companion.Proofs.Syntax.TypeReads

set_option autoImplicit false

namespace Companion.Syntax

open Companion.Syntax.Parser

variable {g : Grammar} {trees middle rest : List Tree}

theorem reads_namePath {name : String} {place : Position} (starts : startsName (.word name place :: rest) = true)
    (ends : Look.sign "::" rest = false) : Reads namePath (.word name place :: rest) rest (· = (false, [name])) := by
  have pieces : ReadsPieces ⟨fun trees => !startsName trees, Look.sign "::", "::"⟩ anyWord (.word name place :: rest) rest _ :=
    .last (by simp [starts]) (.anyWord name place rest) ends
  unfold namePath
  refine .bind (.optionalSign_no rfl) fun absolute isRelative => .bind pieces.reads fun found isName => ?_
  rcases isName with ⟨piece, rfl, same, alone⟩
  refine .bind (.writeAll _ _) fun _ _ => ?_
  simp only [List.getLast?_singleton, alone, List.map_cons, List.map_nil, same, isRelative]
  exact .pure rfl

theorem startsName_of_free {name : String} (free : name ∉ Look.keywords) (place : Position) :
    startsName (.word name place :: rest) = true := by
  simp [startsName, Look.identifier, free]

theorem ne_of_free {name keyword : String} (free : name ∉ Look.keywords) (reserved : keyword ∈ Look.keywords) :
    name ≠ keyword := by
  rintro rfl
  exact free reserved

theorem word_of_free {name keyword : String} (free : name ∉ Look.keywords) (reserved : keyword ∈ Look.keywords)
    (place : Position) : Look.word keyword (.word name place :: rest) = false := by
  simpa [Look.word] using ne_of_free free reserved

/-- Whether given attributes are read in front of what they belong to. -/
def ReadsMarks (g : Grammar) (trees rest : List Tree) (marks : List Attribute) : Prop :=
  Collects (unlessStopped (fun trees => !Look.sign "#" trees) (outerAttribute g)) trees rest (· = marks)

namespace ReadsMarks

theorem nil (ends : Look.sign "#" rest = false) : ReadsMarks g rest rest [] :=
  Collects.nil (unlessStopped_stopped _ (by simp [ends]))

theorem cons {inner : List Tree} {mark : Attribute} {marks : List Attribute}
    (first : Reads (attributeBody g) inner [] (· = mark)) (joint : Bool) (place opened closed : Position)
    (others : ReadsMarks g middle rest marks) :
    ReadsMarks g (.sign '#' joint place :: .group .bracket inner opened closed :: middle) rest (mark :: marks) := by
  have read : Reads (outerAttribute g) (.sign '#' joint place :: .group .bracket inner opened closed :: middle) middle
      (· = mark) := .bind (.sign rfl) fun _ _ => .group first .bracket opened closed middle
  have step : Reads (unlessStopped (fun trees => !Look.sign "#" trees) (outerAttribute g))
      (.sign '#' joint place :: .group .bracket inner opened closed :: middle) middle _ := unlessStopped_going rfl read
  intro count enough
  refine (Collects.cons step (by grind) others count enough).mono ?_
  rintro _ ⟨_, _, rfl, rfl, rfl⟩
  rfl

theorem reads {marks : List Attribute} (marked : ReadsMarks g trees rest marks) :
    Reads (outerAttributes g) trees rest (· = marks) :=
  Collects.reads marked

end ReadsMarks

theorem reads_documentation (text : String) (first second third : Position) :
    Reads (attributeBody g) [.word "doc" first, .sign '=' false second, .literal (Text.stringLiteral text) third] []
      (· = ⟨false, ["doc"], some text⟩) := by
  have value : Reads (attributeValue g) [.literal (Text.stringLiteral text) third] [] (· = some text) := by
    have read : literalText [.literal (Text.stringLiteral text) third] = some text := by
      simp [literalText, Literal.stringValue_stringLiteral]
    have ofLiteral : Reads attributeValue.attributeText [.literal (Text.stringLiteral text) third]
        [.literal (Text.stringLiteral text) third] (· = some text) :=
      fun before isTrees whole => ⟨literalText before.trees, before, rfl, isTrees, whole, by rw [isTrees, read]⟩
    unfold attributeValue
    refine .yes rfl (.bind ofLiteral fun found same => .bind (.literal _ third []) fun _ _ => ?_)
    rw [same]
    exact .pure rfl
  unfold attributeBody
  refine .no rfl (.bind (reads_namePath rfl rfl) fun names same => ?_)
  rw [same]
  exact .no rfl (.yes rfl (.bind (.sign rfl) fun _ _ => .bind value fun found isText => .pure (by rw [isText])))

theorem reads_listed {name : String} (free : name ∉ Look.keywords) (delimiter : Delimiter) (inner : List Tree)
    (place opened closed : Position) :
    Reads (attributeBody g) [.word name place, .group delimiter inner opened closed] [] (· = ⟨false, [name], none⟩) := by
  unfold attributeBody
  refine .no (word_of_free free (by decide) place) (.bind (reads_namePath (startsName_of_free free place) rfl) fun names same => ?_)
  rw [same]
  exact .yes rfl (.bind (.rawGroup delimiter inner opened closed []) fun _ _ => .pure rfl)

theorem reads_public (place : Position) (unlimited : Look.group .parenthesis rest = false) :
    Reads visibility (.word "pub" place :: rest) rest (· = true) :=
  .yes rfl (.bind (.word "pub" place rest) fun _ _ => .no unlimited (.pure rfl))

theorem reads_private (hidden : Look.word "pub" trees = false) : Reads visibility trees trees (· = false) :=
  .no hidden (.pure rfl)

theorem reads_noParameters (ends : Look.sign "<" trees = false) : Reads (parameters g) trees trees (· = false) :=
  .no ends (.pure rfl)

theorem reads_noClauses (ends : Look.word "where" trees = false) : Reads (clauses g) trees trees (· = false) :=
  .no ends (.pure rfl)

/-- What a parser reads that is chosen by the trees that are left. -/
theorem Reads.of_trees {α : Type} (choose : List Tree → Parser α) {holds : α → Prop}
    (reads : Reads (choose trees) trees rest holds) : Reads (fun stream => choose stream.trees stream) trees rest holds := by
  intro before isTrees whole
  have read := reads before isTrees whole
  rwa [← isTrees] at read

theorem reads_namedMember {name : String} (free : name ∉ Look.keywords) {marks : List Attribute} {type : TypeSyntax}
    {place second : Position} (marked : ReadsMarks g trees (.word name place :: .sign ':' false second :: middle) marks)
    (reads : Reads (g.type true) middle rest (·.type = type)) (depth : Nat) :
    Reads (namedMember g (depth + 1)) trees rest
      fun member => member.attributes = marks ∧ member.name = some name ∧ member.type = type := by
  have noBlank : Look.word "_" (.word name place :: .sign ':' false second :: middle) = false :=
    word_of_free free (by decide) place
  unfold namedMember
  refine .bind (.place _) fun _ _ => .bind marked.reads fun attributes isMarks => ?_
  refine .bind (reads_private (word_of_free free (by decide) place)) fun _ _ => .bind (.sees _ _) fun blank notBlank => ?_
  rw [notBlank, noBlank]
  refine .bind (.identifier free place _) fun found isName => .bind (.sign rfl) fun _ _ => ?_
  refine .bind (.sees _ _) fun _ _ => .bind reads fun form isType => .pure ?_
  exact ⟨isMarks, congrArg some isName, isType⟩

section Struct

variable {name : String} {inner : List Tree} {holds : List (Piece Member) → Prop} {first second opened closed : Position}

theorem reads_record (free : name ∉ Look.keywords)
    (pieces : ∀ depth, ReadsPieces .commas (namedMember g (depth + 1)) inner [] holds) :
    Reads (record g) (.word "struct" first :: .word name second :: .group .brace inner opened closed :: rest) rest
      fun found => ∃ pieces, holds pieces ∧ found = (name, false, pieces.map (·.value)) := by
  have deep : ∃ depth, Tree.sizeAll (.group .brace inner opened closed :: rest) = depth + 1 :=
    Nat.exists_eq_add_one_of_ne_zero (by simp [Tree.sizeAll, Tree.size])
  rcases deep with ⟨depth, same⟩
  have between : Reads (group .brace (separated .commas
      (namedMember g (Tree.sizeAll (.group .brace inner opened closed :: rest)))))
      (.group .brace inner opened closed :: rest) rest fun members => ∃ found, holds found ∧ members = found.map (·.value) := by
    rw [same]
    exact .group ((pieces depth).separated fun found held => ⟨found, held, rfl⟩) .brace opened closed rest
  have members : Reads (braceMembers g) (.group .brace inner opened closed :: rest) rest
      fun members => ∃ found, holds found ∧ members = found.map (·.value) :=
    .of_trees (fun trees => group .brace (separated .commas (namedMember g (Tree.sizeAll trees)))) between
  have body : Reads (recordBody g) (.group .brace inner opened closed :: rest) rest
      fun members => ∃ found, holds found ∧ members = found.map (·.value) := by
    unfold recordBody
    refine .bind (reads_noClauses rfl) fun early notEarly => ?_
    rw [notEarly]
    exact .no rfl (.yes rfl members)
  unfold record
  refine .bind (.word "struct" first _) fun _ _ => .bind (.identifier free second _) fun found isName => ?_
  refine .bind (reads_noParameters rfl) fun generic notGeneric => .bind body fun members areMembers => .pure ?_
  rcases areMembers with ⟨pieces, held, rfl⟩
  exact ⟨pieces, held, by rw [isName, notGeneric]⟩

theorem reads_structItem (free : name ∉ Look.keywords) {third : Position} {marks : List Attribute}
    (marked : ReadsMarks g trees
      (.word "pub" third :: .word "struct" first :: .word name second :: .group .brace inner opened closed :: rest) marks)
    (pieces : ∀ depth, ReadsPieces .commas (namedMember g (depth + 1)) inner [] holds) :
    Reads (item g) trees rest fun item =>
      ∃ place found, holds found ∧ item = .record ⟨marks, place⟩ name false (found.map (·.value)) := by
  unfold item
  refine .bind (.get _) fun _ _ => .bind (.place _) fun place _ => .bind marked.reads fun outer isMarks => ?_
  refine .bind (.place _) fun _ _ => .bind (reads_public third rfl) fun visible isPublic => ?_
  have body : ∀ visible, Reads (itemBody g visible)
      (.word "struct" first :: .word name second :: .group .brace inner opened closed :: rest) rest
      fun body => ∃ found, holds found ∧ body = .record name false (found.map (·.value)) := by
    intro visible
    unfold itemBody
    refine .no rfl (.no rfl (.no rfl (.no rfl (.no rfl (.no rfl (.no rfl (.no rfl (.yes rfl ?_))))))))
    refine .bind (reads_record free pieces) fun found held => ?_
    rcases held with ⟨pieces, held, rfl⟩
    exact .pure ⟨pieces, held, rfl⟩
  refine .bind (body _) fun found held => ?_
  rcases held with ⟨pieces, held, rfl⟩
  exact .pure ⟨place, pieces, held, by rw [isMarks]; rfl⟩

end Struct

end Companion.Syntax
