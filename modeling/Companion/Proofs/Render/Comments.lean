import Companion.Proofs.Render.Documentation

/-!
Documentation in Kotlin files. It stands in a comment of its own, directly above the property that it belongs to, and nothing
else in the file depends on it. Comments nest in Kotlin, so a text that opened one inside would comment out what follows, and
a text that closed it would turn the rest into code; the text of documentation does neither, whatever it is made from.
-/

set_option autoImplicit false

namespace Companion.Render.Kotlin

open Companion.Text (Contains Lacks ended endedLines occurrences)

/-- What stands behind the place at which as many comments are closed as were opened, given how many are open in front of the
text. -/
def afterComments (depth : Nat) : List Char → Option (List Char)
  | [] => none
  | '/' :: '*' :: rest => afterComments (depth + 1) rest
  | '*' :: '/' :: rest => if depth ≤ 1 then some rest else afterComments (depth - 1) rest
  | _ :: rest => afterComments depth rest

/-- Whether a text neither opens nor closes a comment. -/
structure IsHarmless (text : String) : Prop where
  noOpening : ¬ Contains text "/*"
  noClosing : ¬ Contains text "*/"

/-- A harmless text is passed over, up to a character that is in no delimiter. -/
theorem afterComments_append {text : List Char} (noOpening : ¬ ['/', '*'] <:+: text) (noClosing : ¬ ['*', '/'] <:+: text)
    {c : Char} (notSlash : c ≠ '/') (notStar : c ≠ '*') (depth : Nat) (rest : List Char) :
    afterComments depth (text ++ c :: rest) = afterComments depth rest := by
  induction text with
  | nil =>
      rw [List.nil_append, afterComments]
      · exact fun _ slash => absurd slash notSlash
      · exact fun _ star => absurd star notStar
  | cons d text ih =>
      have opening : ¬ ['/', '*'] <+: d :: (text ++ c :: rest) := fun leads =>
        noOpening ((Text.prefix_append_separator (by simp [notSlash, notStar]) (d :: text) rest).mp leads).isInfix
      have closing : ¬ ['*', '/'] <+: d :: (text ++ c :: rest) := fun leads =>
        noClosing ((Text.prefix_append_separator (by simp [notSlash, notStar]) (d :: text) rest).mp leads).isInfix
      rw [List.cons_append, afterComments]
      · exact ih (fun inside => noOpening (List.infix_cons inside)) fun inside => noClosing (List.infix_cons inside)
      · rintro others rfl same
        exact opening (by simp [same])
      · rintro others rfl same
        exact closing (by simp [same])

theorem afterComments_ended {lines : List String} (harmless : ∀ line ∈ lines, IsHarmless line) (depth : Nat) (rest : List Char) :
    afterComments depth ((ended lines).toList ++ rest) = afterComments depth rest := by
  induction lines with
  | nil => simp
  | cons line others ih =>
      obtain ⟨first, further⟩ := List.forall_mem_cons.mp harmless
      have divided : (ended (line :: others)).toList ++ rest = line.toList ++ '\n' :: ((ended others).toList ++ rest) := by simp
      rw [divided, afterComments_append first.noOpening first.noClosing (by decide) (by decide), ih further]

/-- Induction along the places at which two characters stand next to each other. -/
@[elab_as_elim]
theorem pairs (a b : Char) {motive : List Char → Prop} (nil : motive []) (found : ∀ rest, motive rest → motive (a :: b :: rest))
    (other : ∀ c rest, ¬ [a, b] <+: c :: rest → motive rest → motive (c :: rest)) : ∀ text, motive text
  | [] => nil
  | [c] => other c [] (by simp [List.cons_prefix_cons]) nil
  | c :: d :: rest =>
      if same : c = a ∧ d = b then same.1 ▸ same.2 ▸ found rest (pairs a b nil found other rest)
      else other c (d :: rest) (by simpa [List.cons_prefix_cons, eq_comm] using same) (pairs a b nil found other (d :: rest))

section Replace

variable {a b : Char} {replacement : List Char}

theorem replaceFrom_found (rest : List Char) : Text.replaceFrom [a, b] replacement 0 (a :: b :: rest) =
    replacement ++ Text.replaceFrom [a, b] replacement 0 rest := by
  simp [Text.replaceFrom]

theorem replaceFrom_other {c : Char} {rest : List Char} (absent : ¬ [a, b] <+: c :: rest) :
    Text.replaceFrom [a, b] replacement 0 (c :: rest) = c :: Text.replaceFrom [a, b] replacement 0 rest := by
  have noPrefix : [a, b].isPrefixOf (c :: rest) = false := Bool.eq_false_iff.mpr fun leads =>
    absent (List.isPrefixOf_iff_prefix.mp leads)
  simp [Text.replaceFrom, noPrefix]

theorem head?_replaceFrom (someReplacement : replacement ≠ []) (text : List Char) :
    (Text.replaceFrom [a, b] replacement 0 text).head? = text.head? ∨
      (Text.replaceFrom [a, b] replacement 0 text).head? = replacement.head? := by
  induction text using pairs a b with
  | nil => exact .inl rfl
  | found rest =>
      rw [replaceFrom_found]
      exact .inr (List.head?_append_of_ne_nil _ someReplacement)
  | other c rest absent =>
      rw [replaceFrom_other absent]
      exact .inl rfl

theorem pair_prefix_iff {c : Char} {rest : List Char} : [a, b] <+: c :: rest ↔ a = c ∧ rest.head? = some b := by
  cases rest with
  | nil => simp [List.cons_prefix_cons]
  | cons d rest => simp [List.cons_prefix_cons, eq_comm]

end Replace

/-- When the closing delimiters are broken up, none is left. -/
theorem not_closing_replaceFrom (text : List Char) : ¬ ['*', '/'] <:+: Text.replaceFrom ['*', '/'] "*&#47;".toList 0 text := by
  induction text using pairs '*' '/' with
  | nil => decide
  | found rest ih =>
      have divided : "*&#47;".toList ++ Text.replaceFrom ['*', '/'] "*&#47;".toList 0 rest =
          "*&#47".toList ++ ';' :: Text.replaceFrom ['*', '/'] "*&#47;".toList 0 rest := rfl
      rw [replaceFrom_found, divided, Text.infix_append_separator (by decide) (by decide)]
      rintro (inside | inside)
      · exact absurd inside (by decide)
      · exact ih inside
  | other c rest absent ih =>
      rw [replaceFrom_other absent, List.infix_cons_iff, pair_prefix_iff]
      rintro (⟨same, slash⟩ | inside)
      · have someReplacement : "*&#47;".toList ≠ [] := by decide
        obtain kept | replaced := head?_replaceFrom (a := '*') (b := '/') someReplacement rest
        · exact absent (pair_prefix_iff.mpr ⟨same, kept ▸ slash⟩)
        · rw [replaced] at slash
          exact absurd slash (by decide)
      · exact ih inside

/-- When the opening delimiters are broken up as well, neither is left: no closing one comes about behind the star of a
replacement, since no slash stood behind that star before. -/
theorem harmless_replaceFrom {text : List Char} (noClosing : ¬ ['*', '/'] <:+: text) :
    ¬ ['/', '*'] <:+: Text.replaceFrom ['/', '*'] "&#47;*".toList 0 text ∧
      ¬ ['*', '/'] <:+: Text.replaceFrom ['/', '*'] "&#47;*".toList 0 text := by
  have head : ∀ {c : Char} {rest : List Char}, c ≠ '&' →
      (Text.replaceFrom ['/', '*'] "&#47;*".toList 0 rest).head? = some c → rest.head? = some c := by
    intro c rest other begins
    have someReplacement : "&#47;*".toList ≠ [] := by decide
    obtain kept | replaced := head?_replaceFrom (a := '/') (b := '*') someReplacement rest
    · exact kept ▸ begins
    · rw [replaced] at begins
      exact absurd (Option.some.inj begins).symm other
  induction text using pairs '/' '*' with
  | nil => decide
  | found rest ih =>
      have noSlash : rest.head? ≠ some '/' := fun slash =>
        noClosing (List.infix_cons (pair_prefix_iff.mpr ⟨rfl, slash⟩).isInfix)
      obtain ⟨noOpeningBehind, noClosingBehind⟩ := ih fun inside => noClosing (List.infix_cons (List.infix_cons inside))
      have divided : "&#47;*".toList ++ Text.replaceFrom ['/', '*'] "&#47;*".toList 0 rest =
          "&#47".toList ++ ';' :: '*' :: Text.replaceFrom ['/', '*'] "&#47;*".toList 0 rest := rfl
      rw [replaceFrom_found, divided, Text.infix_append_separator (by decide) (by decide),
        Text.infix_append_separator (by decide) (by decide), List.infix_cons_iff, List.infix_cons_iff, pair_prefix_iff,
        pair_prefix_iff]
      constructor
      · rintro (inside | ⟨same, -⟩ | inside)
        · exact absurd inside (by decide)
        · exact absurd same (by decide)
        · exact noOpeningBehind inside
      · rintro (inside | ⟨-, slash⟩ | inside)
        · exact absurd inside (by decide)
        · exact noSlash (head (by decide) slash)
        · exact noClosingBehind inside
  | other c rest absent ih =>
      obtain ⟨noOpeningBehind, noClosingBehind⟩ := ih fun inside => noClosing (List.infix_cons inside)
      rw [replaceFrom_other absent, List.infix_cons_iff, List.infix_cons_iff, pair_prefix_iff, pair_prefix_iff]
      constructor
      · rintro (⟨same, star⟩ | inside)
        · exact absent (pair_prefix_iff.mpr ⟨same, head (by decide) star⟩)
        · exact noOpeningBehind inside
      · rintro (⟨same, slash⟩ | inside)
        · exact noClosing (pair_prefix_iff.mpr ⟨same, head (by decide) slash⟩).isInfix
        · exact noClosingBehind inside

theorem isHarmless_commentText (line : String) : IsHarmless (commentText line) := by
  have noClosing := not_closing_replaceFrom line.toList
  obtain ⟨noOpening, stillNoClosing⟩ := harmless_replaceFrom noClosing
  exact ⟨by simpa [Contains, commentText, Text.replace] using noOpening,
    by simpa [Contains, commentText, Text.replace] using stillNoClosing⟩

/-- The lines of a comment, without the one that opens it and the one that closes it. -/
def starredLines (property : Property) : List String :=
  (docPieces property).map fun piece => "   * " ++ commentText piece

theorem docLines_of_undocumented {property : Property} (undocumented : docPieces property = []) : docLines property = [] := by
  rw [docLines, propertyDocs_eq, undocumented]
  rfl

theorem docLines_of_documented {property : Property} (documented : docPieces property ≠ []) :
    docLines property = ["  /**"] ++ starredLines property ++ ["   */"] := by
  obtain ⟨first, others, pieces⟩ := List.exists_cons_of_ne_nil documented
  rw [docLines, propertyDocs_eq, starredLines, pieces]
  simp

theorem isHarmless_starredLines (property : Property) : ∀ line ∈ starredLines property, IsHarmless line := by
  refine List.forall_mem_map.mpr fun piece _ => ?_
  have harmless := isHarmless_commentText piece
  have divided : "   * " ++ commentText piece = "   *" ++ (String.singleton ' ' ++ commentText piece) :=
    String.toList_injective (by simp)
  rw [divided]
  constructor
  · rw [Text.contains_append_separator (by decide) (by decide)]
    exact not_or.mpr ⟨by decide, harmless.noOpening⟩
  · rw [Text.contains_append_separator (by decide) (by decide)]
    exact not_or.mpr ⟨by decide, harmless.noClosing⟩

/-- A comment is closed at its end and not before. -/
theorem exists_comment {property : Property} (documented : docPieces property ≠ []) :
    ∃ inner : String, ended (docLines property) = "  /**" ++ inner ++ " */\n" ∧
      ∀ rest : String, afterComments 0 ("/**" ++ inner ++ " */" ++ rest).toList = some rest.toList := by
  refine ⟨"\n" ++ ended (starredLines property) ++ "  ", ?_, fun rest => ?_⟩
  · rw [docLines_of_documented documented]
    apply String.toList_injective
    simp
  · -- The delimiter is read up to its first star; the second one is then the whole of a line, and opens nothing.
    have harmless : ∀ line ∈ "*" :: starredLines property, IsHarmless line :=
      List.forall_mem_cons.mpr ⟨⟨by decide, by decide⟩, isHarmless_starredLines property⟩
    have opened : ("/**" ++ ("\n" ++ ended (starredLines property) ++ "  ") ++ " */" ++ rest).toList =
        '/' :: '*' :: ((ended ("*" :: starredLines property)).toList ++ ("   */".toList ++ rest.toList)) := by
      simp
    have closed : afterComments 1 ("   */".toList ++ rest.toList) = some rest.toList := by simp [afterComments]
    rw [opened, afterComments, afterComments_ended harmless, closed]

/-- Lines in which a pattern does not stand add nothing to the places at which it stands. -/
theorem occurrences_ended_append {pattern : String} (nonempty : pattern ≠ "") (oneLine : Text.IsOneLine pattern)
    {lines : List String} (absent : ∀ line ∈ lines, ¬ Contains line pattern) (rest : List Char) :
    occurrences pattern ((ended lines).toList ++ rest) = occurrences pattern rest := by
  induction lines with
  | nil => simp
  | cons line others ih =>
      obtain ⟨first, further⟩ := List.forall_mem_cons.mp absent
      have divided : (ended (line :: others)).toList ++ rest = line.toList ++ '\n' :: ((ended others).toList ++ rest) := by simp
      rw [divided, Text.occurrences_append_separator nonempty oneLine, Text.occurrences_eq_zero first, Nat.zero_add, ih further]

/-- A comment holds one opening delimiter and one closing delimiter. -/
theorem occurrences_docLines {property : Property} (documented : docPieces property ≠ []) :
    occurrences "/*" (ended (docLines property)).toList = 1 ∧ occurrences "*/" (ended (docLines property)).toList = 1 := by
  have harmless := isHarmless_starredLines property
  have divided : (ended (docLines property)).toList =
      "  /**".toList ++ '\n' :: ((ended (starredLines property)).toList ++ "   */\n".toList) := by
    simp [docLines_of_documented documented]
  rw [divided]
  constructor
  · rw [Text.occurrences_append_separator (by decide) (by decide),
      occurrences_ended_append (by decide) (by decide) fun line member => (harmless line member).noOpening]
    decide
  · rw [Text.occurrences_append_separator (by decide) (by decide),
      occurrences_ended_append (by decide) (by decide) fun line member => (harmless line member).noClosing]
    decide

def topLines (type : CompanionType) : List String :=
  preambleLines type ++ [classLine type]

def bottomLines (type : CompanionType) : List String :=
  if type.isEmpty then []
  else "" :: [""].intercalate ((type.properties.flatMap CompanionType.methodsOf).map memberLines) ++ ["\x7d"]

theorem intercalate_append {parts others : List (List String)} (someParts : parts ≠ []) (someOthers : others ≠ []) :
    [""].intercalate (parts ++ others) = [""].intercalate parts ++ "" :: [""].intercalate others := by
  induction parts with
  | nil => contradiction
  | cons part rest ih =>
      cases rest with
      | nil =>
          rw [List.singleton_append, List.intercalate_cons_of_ne_nil someOthers]
          simp
      | cons next rest =>
          rw [List.cons_append, List.intercalate_cons_of_ne_nil (by simp), List.intercalate_cons_of_ne_nil (by simp),
            ih (by simp)]
          simp

theorem fileLines_eq (type : CompanionType) : fileLines type =
    topLines type ++ [""].intercalate (type.properties.map fun property => docLines property ++ [propertyLine property]) ++
      bottomLines type := by
  unfold fileLines bodyLines topLines classLine bottomLines
  split
  · rename_i isEmpty
    have none : type.properties = [] := List.isEmpty_iff.mp isEmpty
    simp [none]
  · rename_i notEmpty
    obtain ⟨first, others, properties⟩ := List.exists_cons_of_ne_nil (mt List.isEmpty_iff.mpr notEmpty)
    have methods : (type.properties.flatMap CompanionType.methodsOf).map memberLines ≠ [] := by
      simp [properties, CompanionType.methodsOf]
    have members : [""].intercalate (type.members.map memberLines) =
        [""].intercalate (type.properties.map fun property => docLines property ++ [propertyLine property]) ++
          "" :: [""].intercalate ((type.properties.flatMap CompanionType.methodsOf).map memberLines) := by
      rw [CompanionType.members, List.map_append, List.map_map, intercalate_append (by simp [properties]) methods]
      rfl
    rw [members]
    simp

theorem topLines_withoutDocs (type : CompanionType) : topLines type.withoutDocs = topLines type := by
  have isEmpty : type.withoutDocs.isEmpty = type.isEmpty := List.isEmpty_map
  have types : type.withoutDocs.properties.map (·.type) = type.properties.map (·.type) := by
    rw [CompanionType.withoutDocs, List.map_map]
    rfl
  unfold topLines preambleLines classLine
  rw [isEmpty, types]
  rfl

theorem bottomLines_withoutDocs (type : CompanionType) : bottomLines type.withoutDocs = bottomLines type := by
  have isEmpty : type.withoutDocs.isEmpty = type.isEmpty := List.isEmpty_map
  have methods : (type.withoutDocs.properties.flatMap CompanionType.methodsOf).map memberLines =
      (type.properties.flatMap CompanionType.methodsOf).map memberLines := by
    rw [CompanionType.withoutDocs, List.flatMap_map, List.map_flatMap, List.map_flatMap]
    rfl
  unfold bottomLines
  rw [isEmpty, methods]

/-- The lines of a file without documentation: nothing stands above a property. -/
theorem fileLines_withoutDocs (type : CompanionType) : fileLines type.withoutDocs =
    topLines type ++ [""].intercalate (type.properties.map fun property => [propertyLine property]) ++ bottomLines type := by
  have properties : (type.withoutDocs.properties.map fun property => docLines property ++ [propertyLine property]) =
      type.properties.map fun property => [propertyLine property] := by
    rw [CompanionType.withoutDocs, List.map_map]
    rfl
  rw [fileLines_eq, topLines_withoutDocs, bottomLines_withoutDocs, properties]

theorem lacksInKotlin_withoutDocs {c : Char} {type : CompanionType} (lacks : type.LacksInKotlin c) :
    type.withoutDocs.LacksInKotlin c where
  name := lacks.name
  sourceName := lacks.sourceName
  segments := lacks.segments
  names := List.forall_mem_map.mpr lacks.names
  accessors := List.forall_mem_map.mpr lacks.accessors
  mutators := List.forall_mem_map.mpr lacks.mutators
  paths := List.forall_mem_map.mpr lacks.paths

/-- Without documentation no star is in a file, and so no delimiter of a comment. -/
theorem lacks_star_withoutDocs {type : CompanionType} (starFree : type.LacksInKotlin '*') :
    Lacks '*' (type.withoutDocs.render .kotlin) := by
  have noDocs : ∀ property ∈ type.withoutDocs.properties, ∀ line ∈ docLines property, Lacks '*' line :=
    List.forall_mem_map.mpr fun property _ => by
      rw [docLines_of_undocumented rfl]
      simp
  have text : ended (fileLines type.withoutDocs) = type.withoutDocs.render .kotlin := ended_fileLines type.withoutDocs
  rw [← text]
  exact Text.lacks_ended (by decide) (lacks_of_mem_fileLines (.inr rfl) (lacksInKotlin_withoutDocs starFree) noDocs)

/-- The Kotlin file of a type is that of the type without documentation, with a comment directly above the line of each
property that has documentation. A comment ends where it closes itself, whatever stands behind it, and holds no other
delimiter; outside of these comments there is none. -/
theorem render_comments {type : CompanionType} (oneLine : type.LacksInKotlin '\n') (starFree : type.LacksInKotlin '*') :
    let lines := endedLines (type.render .kotlin)
    let plain := endedLines (type.withoutDocs.render .kotlin)
    ended lines = type.render .kotlin ∧ ended plain = type.withoutDocs.render .kotlin ∧
      (∃ top bottom,
        lines = top ++ [""].intercalate (type.properties.map fun property => docLines property ++ [propertyLine property]) ++ bottom ∧
        plain = top ++ [""].intercalate (type.properties.map fun property => [propertyLine property]) ++ bottom) ∧
      Lacks '*' (type.withoutDocs.render .kotlin) ∧
      ∀ property ∈ type.properties,
        (docPieces property = [] → docLines property = []) ∧
        (docPieces property ≠ [] →
          docLines property = ["  /**"] ++ starredLines property ++ ["   */"] ∧
          ∃ inner : String, ended (docLines property) = "  /**" ++ inner ++ " */\n" ∧
            (∀ rest : String, afterComments 0 ("/**" ++ inner ++ " */" ++ rest).toList = some rest.toList) ∧
            occurrences "/*" (ended (docLines property)).toList = 1 ∧ occurrences "*/" (ended (docLines property)).toList = 1) := by
  intro lines plain
  have whole : lines = fileLines type := endedLines_render oneLine
  have bare : plain = fileLines type.withoutDocs := endedLines_render (lacksInKotlin_withoutDocs oneLine)
  refine ⟨?_, ?_, ⟨topLines type, bottomLines type, ?_, ?_⟩, lacks_star_withoutDocs starFree, fun property _ =>
    ⟨docLines_of_undocumented, fun documented => ⟨docLines_of_documented documented, ?_⟩⟩⟩
  · rw [whole]
    exact ended_fileLines type
  · rw [bare]
    exact ended_fileLines type.withoutDocs
  · rw [whole, fileLines_eq]
  · rw [bare, fileLines_withoutDocs]
  · obtain ⟨inner, text, closed⟩ := exists_comment documented
    exact ⟨inner, text, closed, occurrences_docLines documented⟩

def delimitedType : CompanionType :=
  ⟨"ExtractFieldUser", .ofSegments ["app"], "User",
    [⟨"name", .optional .string, "getThename", "setThename", ["ends */\r/*/ **// */*", " \n", "*/"]⟩,
      ⟨"age", .optional (.verbatim "u8 /* \n"), "getTheage", "setTheage", []⟩]⟩

theorem render_comments_delimited :
    delimitedType.LacksInKotlin '\n' ∧ delimitedType.LacksInKotlin '*' ∧
      delimitedType.properties.map docLines =
        [["  /**", "   * ends *&#47;", "   * &#47;*&#47; **&#47;/ *&#47;*", "   * *&#47;", "   */"], []] ∧
      Lacks '*' (delimitedType.withoutDocs.render .kotlin) ∧
      ∀ property ∈ delimitedType.properties, docPieces property ≠ [] →
        occurrences "/*" (ended (docLines property)).toList = 1 ∧ occurrences "*/" (ended (docLines property)).toList = 1 := by
  have oneLine : delimitedType.LacksInKotlin '\n' := {
    name := by decide
    sourceName := by decide
    segments := by decide
    names := by decide
    accessors := by decide
    mutators := by decide
    paths := by decide }
  have starFree : delimitedType.LacksInKotlin '*' := {
    name := by decide
    sourceName := by decide
    segments := by decide
    names := by decide
    accessors := by decide
    mutators := by decide
    paths := by decide }
  obtain ⟨-, -, -, noStar, comments⟩ := render_comments oneLine starFree
  refine ⟨oneLine, starFree, by decide +kernel, noStar, fun property member documented => ?_⟩
  obtain ⟨-, inner, -, -, delimiters⟩ := (comments property member).2 documented
  exact delimiters

end Companion.Render.Kotlin
