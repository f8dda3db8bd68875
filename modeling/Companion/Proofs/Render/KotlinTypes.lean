import Companion.Proofs.Render.KotlinNames
import Companion.Proofs.Text.Occurrences
import Companion.Proofs.TypeRef.Nesting

/-!
The texts of types in Kotlin. Each of them is a word of a small grammar, in which a type is a name, with arguments in angle
brackets or without, and with a mark behind it if it admits the absent value. Whether a type is marked already is read off
its text, and so it is marked once however the types inside it are nested.
-/

set_option autoImplicit false

namespace Companion.Render.Kotlin

open Companion.Text (Contains)

/-- The words of the grammar `Type ::= Name [ '<' Type (', ' Type)* '>' ] ['?']`. -/
inductive IsTypeText (isName : String → Prop) : String → Prop where
  | plain {name mark : String} (named : isName name) (isMark : mark ∈ ["", "?"]) : IsTypeText isName (name ++ mark)
  | applied {name mark : String} {arguments : List String} (named : isName name) (someArguments : arguments ≠ [])
      (areTypes : ∀ argument ∈ arguments, IsTypeText isName argument) (isMark : mark ∈ ["", "?"]) :
      IsTypeText isName (name ++ "<" ++ String.intercalate ", " arguments ++ ">" ++ mark)

/-- How many angle brackets are open behind a text, given how many are open in front of it. There is no such number if a
bracket is closed that was not opened. -/
def openBehind (depth : Nat) : List Char → Option Nat
  | [] => some depth
  | c :: rest =>
      if c = '<' then openBehind (depth + 1) rest
      else if c = '>' then if depth = 0 then none else openBehind (depth - 1) rest
      else openBehind depth rest

theorem openBehind_of_lacks {text : List Char} (noOpening : '<' ∉ text) (noClosing : '>' ∉ text) (depth : Nat) (rest : List Char) :
    openBehind depth (text ++ rest) = openBehind depth rest := by
  induction text with
  | nil => rfl
  | cons c text ih =>
      rw [List.mem_cons, not_or] at noOpening noClosing
      rw [List.cons_append, openBehind, if_neg (Ne.symm noOpening.1), if_neg (Ne.symm noClosing.1), ih noOpening.2 noClosing.2]

/-- Texts between which nothing is opened or closed leave the number of open brackets as it is, if each of them does. -/
theorem openBehind_intercalate {parts : List String}
    (each : ∀ part ∈ parts, ∀ depth rest, openBehind depth (part.toList ++ rest) = openBehind depth rest) (depth : Nat)
    (rest : List Char) :
    openBehind depth ((String.intercalate ", " parts).toList ++ rest) = openBehind depth rest := by
  induction parts with
  | nil => simp
  | cons part others ih =>
      obtain ⟨first, further⟩ := List.forall_mem_cons.mp each
      cases others with
      | nil => simpa using first depth rest
      | cons next others =>
          have separator : ∀ rest, openBehind depth (", ".toList ++ rest) = openBehind depth rest :=
            openBehind_of_lacks (by decide) (by decide) depth
          rw [String.intercalate_cons_cons, String.toList_append, String.toList_append, List.append_assoc, List.append_assoc,
            first, separator, ih further]

/-- What stands between separators has a pattern if one of the parts has. -/
theorem contains_intercalate {pattern : String} (nonempty : pattern ≠ "") (noComma : ',' ∉ pattern.toList)
    (noBlank : ' ' ∉ pattern.toList) {parts : List String} :
    Contains (String.intercalate ", " parts) pattern ↔ ∃ part ∈ parts, Contains part pattern := by
  induction parts with
  | nil => simp [Contains, nonempty]
  | cons part others ih =>
      cases others with
      | nil => simp
      | cons next others =>
          have divided : part ++ ", " ++ String.intercalate ", " (next :: others) =
              part ++ (String.singleton ',' ++ ("" ++ (String.singleton ' ' ++ String.intercalate ", " (next :: others)))) :=
            String.toList_injective (by simp)
          have nothing : ¬ Contains "" pattern := by simp [Contains, nonempty]
          rw [String.intercalate_cons_cons, divided, Text.contains_append_separator nonempty noComma,
            Text.contains_append_separator nonempty noBlank, ih, List.exists_mem_cons_iff (a := part)]
          simp only [nothing, false_or]

/-- What stands in front of angle brackets or between them has a pattern if the whole has. -/
theorem contains_angled {pattern : String} (nonempty : pattern ≠ "") (noOpening : '<' ∉ pattern.toList)
    (noClosing : '>' ∉ pattern.toList) (name inner : String) :
    Contains (name ++ "<" ++ inner ++ ">") pattern ↔ Contains name pattern ∨ Contains inner pattern := by
  have divided : name ++ "<" ++ inner ++ ">" = name ++ (String.singleton '<' ++ (inner ++ (String.singleton '>' ++ ""))) :=
    String.toList_injective (by simp)
  have nothing : ¬ Contains "" pattern := by simp [Contains, nonempty]
  rw [divided, Text.contains_append_separator nonempty noOpening, Text.contains_append_separator nonempty noClosing]
  simp only [nothing, or_false]

theorem contains_applied {pattern : String} (nonempty : pattern ≠ "") (apart : ∀ c ∈ ['<', '>', ',', ' '], c ∉ pattern.toList)
    (name : String) (arguments : List String) :
    Contains (applied name arguments) pattern ↔ Contains name pattern ∨ ∃ argument ∈ arguments, Contains argument pattern := by
  unfold applied
  cases arguments with
  | nil => simp
  | cons first others =>
      rw [List.isEmpty_cons, if_neg Bool.false_ne_true,
        contains_angled nonempty (apart '<' (by simp)) (apart '>' (by simp)),
        contains_intercalate nonempty (apart ',' (by simp)) (apart ' ' (by simp))]

theorem contains_nullableText {pattern : String} (nonempty : pattern ≠ "") (noMark : '?' ∉ pattern.toList) (text : String) :
    Contains (nullableText text) pattern ↔ Contains text pattern := by
  have divided : text ++ "?" = text ++ (String.singleton '?' ++ "") := String.toList_injective (by simp)
  have nothing : ¬ Contains "" pattern := by simp [Contains, nonempty]
  unfold nullableText
  split
  · rfl
  · rw [divided, Text.contains_append_separator nonempty noMark]
    simp only [nothing, or_false]

/-- A mark behind a text that has none at its end is not doubled. -/
theorem not_doubled_append {core : String} (once : ¬ Contains core "??") (noMark : core.toList.getLast? ≠ some '?') :
    ∀ mark ∈ ["", "?"], ¬ Contains (core ++ mark) "??" := by
  have behind : ¬ Contains (core ++ "?") "??" := by
    intro doubled
    have whole : ['?', '?'] <:+: core.toList ++ ['?'] := by simpa [Contains] using doubled
    obtain atEnd | inside := List.infix_concat_iff.mp whole
    · obtain ⟨front, whole⟩ := atEnd
      have same : front ++ ['?'] = core.toList := List.append_cancel_right (by simpa using whole)
      exact noMark (by simp [← same])
    · exact once inside
  intro mark isMark
  obtain rfl | rfl : mark = "" ∨ mark = "?" := by simpa using isMark
  · rwa [String.append_empty]
  · exact behind

section Words

variable {alphabet : Alphabet} {text : String}

theorem Alphabet.Plain.lacks (plain : alphabet.Plain text) {c : Char} (ascii : c.toNat < 128)
    (never : Naming.isWordPart c = false) : c ∉ text.toList :=
  fun inside => alphabet.not_plain_of_mem inside ascii never plain

/-- Every word is one without a mark, or such a word with a mark. -/
theorem IsTypeText.exists_core (isType : IsTypeText alphabet.Plain text) :
    ∃ core, core.toList.getLast? ≠ some '?' ∧ (text = core ∨ text = core ++ "?") ∧
      ∀ mark ∈ ["", "?"], IsTypeText alphabet.Plain (core ++ mark) := by
  have marked : ∀ (core : String) {mark : String}, mark ∈ ["", "?"] → core ++ mark = core ∨ core ++ mark = core ++ "?" := by
    intro core mark isMark
    obtain rfl | rfl : mark = "" ∨ mark = "?" := by simpa using isMark
    · exact .inl String.append_empty
    · exact .inr rfl
  cases isType with
  | @plain name mark named isMark =>
      refine ⟨name, fun ends => ?_, marked name isMark, fun mark isMark => .plain named isMark⟩
      exact named.lacks (by decide) (by decide) (List.mem_of_getLast? ends)
  | @applied name mark arguments named someArguments areTypes isMark =>
      refine ⟨name ++ "<" ++ String.intercalate ", " arguments ++ ">", ?_, marked _ isMark,
        fun mark isMark => .applied named someArguments areTypes isMark⟩
      rw [String.toList_append, List.getLast?_append]
      simp

theorem IsTypeText.openBehind_append (isType : IsTypeText alphabet.Plain text) (depth : Nat) (rest : List Char) :
    openBehind depth (text.toList ++ rest) = openBehind depth rest := by
  have ofName : ∀ {name : String}, alphabet.Plain name → ∀ depth rest, openBehind depth (name.toList ++ rest) = openBehind depth rest :=
    fun named => openBehind_of_lacks (named.lacks (by decide) (by decide)) (named.lacks (by decide) (by decide))
  have ofMark : ∀ mark ∈ ["", "?"], ∀ depth rest, openBehind depth (mark.toList ++ rest) = openBehind depth rest := by
    intro mark isMark
    refine openBehind_of_lacks ?_ ?_
    · revert mark; decide
    · revert mark; decide
  induction isType generalizing depth rest with
  | @plain name mark named isMark =>
      rw [String.toList_append, List.append_assoc, ofName named, ofMark mark isMark]
  | @applied name mark arguments named someArguments areTypes isMark ih =>
      have opened : ∀ rest, openBehind depth ("<".toList ++ rest) = openBehind (depth + 1) rest := fun rest => by
        simp [openBehind]
      have closed : ∀ rest, openBehind (depth + 1) (">".toList ++ rest) = openBehind depth rest := fun rest => by
        simp [openBehind]
      simp only [String.toList_append, List.append_assoc]
      rw [ofName named, opened, openBehind_intercalate ih, closed, ofMark mark isMark]

/-- In a word no mark stands directly behind another, at any depth. -/
theorem IsTypeText.not_doubled (isType : IsTypeText alphabet.Plain text) : ¬ Contains text "??" := by
  have noMark : ∀ {name : String}, alphabet.Plain name → '?' ∉ name.toList := fun named => named.lacks (by decide) (by decide)
  have ofName : ∀ {name : String}, alphabet.Plain name → ¬ Contains name "??" :=
    fun named doubled => noMark named (doubled.subset (by decide))
  induction isType with
  | @plain name mark named isMark =>
      exact not_doubled_append (ofName named) (fun ends => noMark named (List.mem_of_getLast? ends)) mark isMark
  | @applied name mark arguments named someArguments areTypes isMark ih =>
      refine not_doubled_append ?_ ?_ mark isMark
      · rw [contains_angled (by decide) (by decide) (by decide), contains_intercalate (by decide) (by decide) (by decide)]
        rintro (inName | ⟨argument, member, inArgument⟩)
        · exact ofName named inName
        · exact ih argument member inArgument
      · rw [String.toList_append, List.getLast?_append]
        simp

end Words

theorem typeTexts_eq_map (types : List TypeRef) : typeTexts types = types.map typeText := by
  induction types with
  | nil => rfl
  | cons type others ih => rw [typeTexts, List.map_cons, ih]

theorem ruleFor_cases (name : String) (arguments : Nat) :
    ruleFor name arguments = .pointer ∨ ruleFor name arguments = .plain name ∨
      ∃ given ∈ ["Set", "List", "Map"], ruleFor name arguments = .collection given := by
  unfold ruleFor
  split
  · split
    · simp
    · split
      · simp
      · split <;> simp
  · split <;> simp
  · simp

/-- A named type without a path is `Any`, a smart pointer is what it points to, and every other named type has a name of its
own with all of its arguments: a name of its path, or that of a collection. -/
theorem namedText_cases (path arguments : List String) :
    (path = [] ∧ namedText path arguments = "Any") ∨
      (∃ inner, arguments = [inner] ∧ namedText path arguments = inner) ∨
      ∃ name, (name ∈ path ∨ name ∈ ["Set", "List", "Map"]) ∧ namedText path arguments = applied name arguments := by
  unfold namedText
  split
  · rename_i none
    exact .inl ⟨List.getLast?_eq_none_iff.mp none, rfl⟩
  · rename_i last isLast
    obtain rule | rule | ⟨given, isGiven, rule⟩ := ruleFor_cases last arguments.length
    · obtain ⟨inner, alone⟩ := List.length_eq_one_iff.mp (ruleFor_pointer rule)
      refine .inr (.inl ⟨inner, alone, ?_⟩)
      rw [rule, alone]
    · refine .inr (.inr ⟨last, .inl (List.mem_of_getLast? isLast), ?_⟩)
      rw [rule]
    · refine .inr (.inr ⟨given, .inr isGiven, ?_⟩)
      rw [rule]

/-- The text of a type is made of the names in its paths and of those that types have in Kotlin, by giving them arguments and
by marking the whole. What this preserves holds of the text of every type. -/
theorem typeText_made {isName isText : String → Prop} (given : ∀ name ∈ givenNames, isName name)
    (apply : ∀ name arguments, isName name → (∀ argument ∈ arguments, isText argument) → isText (applied name arguments))
    (mark : ∀ text, isText text → isText (nullableText text)) {type : TypeRef}
    (own : ∀ path ∈ type.paths, ∀ segment ∈ path, isName segment) : isText (typeText type) := by
  have ofGiven : ∀ name ∈ givenNames, isText name := fun name isGiven => apply name [] (given name isGiven) (by simp)
  induction type using TypeRef.nested with
  | scalar primitive => exact ofGiven _ (by cases primitive <;> decide)
  | string => exact ofGiven "String" (by decide)
  | list element ih =>
      exact apply "List" [typeText element] (given "List" (by decide)) (List.forall_mem_singleton.mpr (ih own))
  | optional value ih => exact mark _ (ih own)
  | named path arguments ih =>
      obtain ⟨ownPath, inside⟩ := TypeRef.forall_mem_paths_named.mp own
      have ofArguments : ∀ text ∈ arguments.map typeText, isText text :=
        List.forall_mem_map.mpr fun argument member => ih argument member (inside argument member)
      have areGiven : ∀ name ∈ ["Set", "List", "Map"], name ∈ givenNames := by decide
      rw [typeText, typeTexts_eq_map]
      obtain ⟨-, text⟩ | ⟨inner, alone, text⟩ | ⟨name, isOwn, text⟩ := namedText_cases path (arguments.map typeText)
      · rw [text]
        exact ofGiven "Any" (by decide)
      · rw [text]
        exact ofArguments inner (by simp [alone])
      · rw [text]
        exact apply name _ (isOwn.elim (ownPath name) fun isGiven => given name (areGiven name isGiven)) ofArguments
  | verbatim text => exact ofGiven "Any" (by decide)

section Types

variable {alphabet : Alphabet}

theorem nullableText_core {core text : String} (noMark : core.toList.getLast? ≠ some '?') (split : text = core ∨ text = core ++ "?") :
    nullableText text = core ++ "?" := by
  unfold nullableText
  obtain rfl | rfl := split
  · rw [if_neg (by simpa using noMark)]
  · rw [if_pos (by simp)]

theorem getLast?_nullableText (text : String) : (nullableText text).toList.getLast? = some '?' := by
  unfold nullableText
  split
  · rename_i marked
    simpa using marked
  · simp

/-- The text of the nullable type is that of the type, marked if it is not marked already. -/
theorem typeText_nullable (type : TypeRef) : typeText type.nullable = nullableText (typeText type) := by
  cases type with
  | optional value =>
      have stays : typeText (TypeRef.optional value).nullable = nullableText (typeText value) := rfl
      rw [stays, typeText, nullableText.eq_def (nullableText _), if_pos (by simp [getLast?_nullableText])]
  | scalar | string | list | named | verbatim => rfl

theorem plain_of_mem_givenNames {name : String} (given : name ∈ givenNames) : alphabet.Plain name := by
  have all : ∀ name ∈ givenNames, Naming.isIdentifier name = true := by decide
  exact alphabet.plain_of_isIdentifier (all name given)

theorem isTypeText_applied {name : String} {arguments : List String} (named : alphabet.Plain name)
    (areTypes : ∀ argument ∈ arguments, IsTypeText alphabet.Plain argument) : IsTypeText alphabet.Plain (applied name arguments) := by
  have noMark : "" ∈ ["", "?"] := by simp
  unfold applied
  split
  · simpa using IsTypeText.plain named noMark
  · rename_i someArguments
    simpa using IsTypeText.applied named (by simpa using someArguments) areTypes noMark

theorem isTypeText_nullableText {text : String} (isType : IsTypeText alphabet.Plain text) :
    IsTypeText alphabet.Plain (nullableText text) := by
  obtain ⟨core, noMark, split, isWord⟩ := isType.exists_core
  rw [nullableText_core noMark split]
  exact isWord "?" (by simp)

/-- The text of every type is a word, if the names in its paths are identifiers. -/
theorem isTypeText_typeText {type : TypeRef} (plain : ∀ path ∈ type.paths, ∀ segment ∈ path, alphabet.Plain segment) :
    IsTypeText alphabet.Plain (typeText type) :=
  typeText_made (fun _ isGiven => plain_of_mem_givenNames isGiven) (fun _ _ named areTypes => isTypeText_applied named areTypes)
    (fun _ isType => isTypeText_nullableText isType) plain

/-- The text of a type is a word of the grammar, whose names are identifiers. So its brackets match, no mark in it stands
behind another, and the text of the nullable type is the same one with one mark at its end. -/
theorem typeText_derives (alphabet : Alphabet) {type : TypeRef}
    (plain : ∀ path ∈ type.paths, ∀ segment ∈ path, alphabet.Plain segment) :
    IsTypeText alphabet.Plain (typeText type) ∧ openBehind 0 (typeText type).toList = some 0 ∧ ¬ Contains (typeText type) "??" ∧
      ∃ core, IsTypeText alphabet.Plain core ∧ core.toList.getLast? ≠ some '?' ∧
        (typeText type = core ∨ typeText type = core ++ "?") ∧ typeText type.nullable = core ++ "?" := by
  have isType := isTypeText_typeText plain
  obtain ⟨core, noMark, split, isWord⟩ := isType.exists_core
  refine ⟨isType, ?_, isType.not_doubled, core, ?_, noMark, split, ?_⟩
  · simpa [openBehind] using isType.openBehind_append 0 []
  · simpa using isWord "" (by simp)
  · rw [typeText_nullable, nullableText_core noMark split]

/-- A type that admits the absent value below smart pointers, with texts inside it that are kept as they stand. -/
def sharedType : TypeRef :=
  .optional (.named ["std", "sync", "Arc"]
    [.optional (.named ["HashMap"] [.named [] [.string], .named ["Box"] [.optional (.verbatim "(u8, u8)?>")]])])

theorem typeText_derives_shared :
    (∀ path ∈ sharedType.paths, ∀ segment ∈ path, Alphabet.ascii.Plain segment) ∧ typeText sharedType = "Map<Any, Any?>?" ∧
      IsTypeText Alphabet.ascii.Plain "Map<Any, Any?>?" ∧ ¬ Contains "Map<Any, Any?>?" "??" := by
  have plain : ∀ path ∈ sharedType.paths, ∀ segment ∈ path, Naming.isIdentifier segment = true := by decide
  have all : ∀ path ∈ sharedType.paths, ∀ segment ∈ path, Alphabet.ascii.Plain segment := fun path isPath segment member =>
    Alphabet.ascii.plain_of_isIdentifier (plain path isPath segment member)
  have text : typeText sharedType = "Map<Any, Any?>?" := by decide
  obtain ⟨isType, -, once, -⟩ := typeText_derives Alphabet.ascii all
  exact ⟨all, text, text ▸ isType, text ▸ once⟩

end Types

end Companion.Render.Kotlin
