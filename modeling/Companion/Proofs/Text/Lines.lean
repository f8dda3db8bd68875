import Companion.Proofs.Text.Split
import Companion.Text.Quoted

set_option autoImplicit false

namespace Companion.Text

def Lacks (c : Char) (text : String) : Prop :=
  c ∉ text.toList

instance (c : Char) (text : String) : Decidable (Lacks c text) :=
  inferInstanceAs (Decidable (c ∉ text.toList))

/-- Whether a character breaks a line, alone or together with another. -/
def IsBreak (c : Char) : Prop :=
  c = '\n' ∨ c = '\r'

def IsOneLine (text : String) : Prop :=
  '\n' ∉ text.toList

instance (text : String) : Decidable (IsOneLine text) :=
  inferInstanceAs (Decidable ('\n' ∉ text.toList))

def endedLines (text : String) : List String :=
  (split (· == '\n') text).dropLast

def furtherLines (text : String) : List String :=
  (split (· == '\n') text).tail

@[simp] theorem endedLines_empty : endedLines "" = [] := rfl

theorem IsBreak.lacks {c : Char} (isBreak : IsBreak c) {text : String} (fixed : Lacks '\n' text ∧ Lacks '\r' text) :
    Lacks c text := by
  obtain rfl | rfl := isBreak
  · exact fixed.1
  · exact fixed.2

@[simp] theorem lacks_append {c : Char} {text other : String} : Lacks c (text ++ other) ↔ Lacks c text ∧ Lacks c other := by
  simp [Lacks]

theorem lacks_intercalate {c : Char} {separator : String} (lacks : Lacks c separator) {parts : List String} :
    Lacks c (String.intercalate separator parts) ↔ ∀ part ∈ parts, Lacks c part := by
  induction parts with
  | nil => simp [Lacks]
  | cons part others ih =>
      cases others with
      | nil => simp
      | cons next others =>
          rw [String.intercalate_cons_cons, lacks_append, lacks_append, ih]
          constructor
          · rintro ⟨⟨first, -⟩, rest⟩
            exact List.forall_mem_cons.mpr ⟨first, rest⟩
          · intro all
            obtain ⟨first, rest⟩ := List.forall_mem_cons.mp all
            exact ⟨⟨first, lacks⟩, rest⟩

@[simp] theorem isOneLine_append {text other : String} :
    IsOneLine (text ++ other) ↔ IsOneLine text ∧ IsOneLine other :=
  lacks_append

theorem isOneLine_intercalate {separator : String} (oneLine : IsOneLine separator) {parts : List String} :
    IsOneLine (String.intercalate separator parts) ↔ ∀ part ∈ parts, IsOneLine part :=
  lacks_intercalate oneLine

theorem endedLines_append (text rest : String) :
    endedLines (text ++ "\n" ++ rest) = split (· == '\n') text ++ endedLines rest := by
  have divided : split (· == '\n') (text ++ (String.singleton '\n' ++ rest)) =
      split (· == '\n') text ++ split (· == '\n') rest := split_append_separator (by simp) text rest
  have some : split (· == '\n') rest ≠ [] := by simp [split, splitChars_ne_nil]
  unfold endedLines
  rw [String.append_assoc, show ("\n" : String) = String.singleton '\n' from rfl, divided,
    List.dropLast_append_of_ne_nil some]

/-- What has no line feed joins the first line of the text behind it. -/
theorem split_append_of_isOneLine {front : String} (oneLine : IsOneLine front) (text : String) :
    ∃ first, split (· == '\n') text = first :: furtherLines text ∧
      split (· == '\n') (front ++ text) = (front ++ first) :: furtherLines text := by
  suffices joined : ∀ chars : List Char, '\n' ∉ chars → ∃ first others,
      splitChars (· == '\n') text.toList = first :: others ∧
        splitChars (· == '\n') (chars ++ text.toList) = (chars ++ first) :: others by
    obtain ⟨first, others, pieces, divided⟩ := joined front.toList oneLine
    refine ⟨String.ofList first, ?_, ?_⟩
    · simp [split, furtherLines, pieces]
    · simp [split, furtherLines, pieces, divided]
  intro chars none
  induction chars with
  | nil =>
      cases pieces : splitChars (· == '\n') text.toList with
      | nil => exact absurd pieces (splitChars_ne_nil _)
      | cons first others => exact ⟨first, others, rfl, by simpa using pieces⟩
  | cons c chars ih =>
      obtain ⟨isOther, noneLeft⟩ : '\n' ≠ c ∧ '\n' ∉ chars := by simpa using none
      obtain ⟨first, others, pieces, divided⟩ := ih noneLeft
      exact ⟨first, others, pieces, splitChars_cons_other (by simpa using Ne.symm isOther) divided⟩

theorem furtherLines_append {front : String} (oneLine : IsOneLine front) (text : String) :
    furtherLines (front ++ text) = furtherLines text := by
  obtain ⟨first, -, divided⟩ := split_append_of_isOneLine oneLine text
  rw [furtherLines, divided, List.tail_cons]

theorem furtherLines_eq_nil_iff {text : String} : furtherLines text = [] ↔ IsOneLine text := by
  constructor
  · intro none inside
    obtain ⟨left, right, split⟩ := List.append_of_mem inside
    have divided : splitChars (· == '\n') (left ++ '\n' :: right) =
        splitChars (· == '\n') left ++ splitChars (· == '\n') right := splitChars_append_separator (by simp) left right
    unfold furtherLines Text.split at none
    rw [split, divided] at none
    cases leftPieces : splitChars (· == '\n') left with
    | nil => exact splitChars_ne_nil _ leftPieces
    | cons first others =>
        rw [leftPieces] at none
        have rightNone : splitChars (· == '\n') right = [] := by simp_all
        exact splitChars_ne_nil _ rightNone
  · intro oneLine
    have whole : split (· == '\n') text = [text] := split_of_none fun c inside => by
      simpa using fun same : c = '\n' => oneLine (same ▸ inside)
    rw [furtherLines, whole, List.tail_cons]

def ended (lines : List String) : String :=
  String.join (lines.map (· ++ "\n"))

@[simp] theorem ended_nil : ended [] = "" := rfl

@[simp] theorem ended_cons (line : String) (others : List String) :
    ended (line :: others) = line ++ "\n" ++ ended others := by
  simp [ended]

@[simp] theorem ended_append (lines others : List String) : ended (lines ++ others) = ended lines ++ ended others := by
  induction lines with
  | nil => simp
  | cons line lines ih => simp [ih, String.append_assoc]

theorem ended_flatten (parts : List (List String)) : ended parts.flatten = String.join (parts.map ended) := by
  induction parts with
  | nil => rfl
  | cons part others ih => simp [ih]

/-- Empty lines between groups of lines are line feeds between their texts. -/
theorem ended_intercalate (parts : List (List String)) :
    ended ([""].intercalate parts) = String.intercalate "\n" (parts.map ended) := by
  induction parts with
  | nil => simp
  | cons part others ih =>
      cases others with
      | nil => simp
      | cons next others =>
          rw [List.intercalate_cons_cons, List.map_cons, List.map_cons, String.intercalate_cons_cons, ended_append,
            ended_append, ih, List.map_cons]
          simp

theorem mem_intercalate {parts : List (List String)} {line : String} (member : line ∈ [""].intercalate parts) :
    line = "" ∨ ∃ part ∈ parts, line ∈ part := by
  induction parts with
  | nil => simp at member
  | cons part others ih =>
      cases others with
      | nil => exact .inr ⟨part, by simp, by simpa using member⟩
      | cons next others =>
          rw [List.intercalate_cons_cons, List.append_assoc, List.mem_append, List.mem_append,
            List.mem_singleton] at member
          obtain inPart | isEmpty | inOthers := member
          · exact .inr ⟨part, by simp, inPart⟩
          · exact .inl isEmpty
          · exact (ih inOthers).imp id fun ⟨other, isOther, inOther⟩ => ⟨other, List.mem_cons_of_mem _ isOther, inOther⟩

/-- What holds of the lines of several parts, and of an empty line, holds of the parts with empty lines between them. -/
theorem forall_mem_intercalate {holds : String → Prop} {parts : List (List String)} (blank : holds "")
    (each : ∀ part ∈ parts, ∀ line ∈ part, holds line) : ∀ line ∈ [""].intercalate parts, holds line := by
  intro line inside
  obtain rfl | ⟨part, isPart, inPart⟩ := mem_intercalate inside
  · exact blank
  · exact each part isPart line inPart

/-- A text made of lines has no character that breaks a line but line feeds, if no line has. -/
theorem lacks_ended {c : Char} (notFeed : c ≠ '\n') {lines : List String} (lack : ∀ line ∈ lines, Lacks c line) :
    Lacks c (ended lines) := by
  induction lines with
  | nil => simp [Lacks]
  | cons line others ih =>
      obtain ⟨first, rest⟩ := List.forall_mem_cons.mp lack
      rw [ended_cons, lacks_append, lacks_append]
      exact ⟨⟨first, by simpa [Lacks] using notFeed⟩, ih rest⟩

theorem endedLines_ended {lines : List String} (areLines : ∀ line ∈ lines, IsOneLine line) :
    endedLines (ended lines) = lines := by
  induction lines with
  | nil => rfl
  | cons line others ih =>
      have whole : split (· == '\n') line = [line] := split_of_none fun c inside => by
        simpa using fun same : c = '\n' => areLines line List.mem_cons_self (same ▸ inside)
      rw [ended_cons, endedLines_append, whole, ih fun other member => areLines other (List.mem_cons_of_mem _ member),
        List.singleton_append]

theorem isOneLine_of_mem_lines {text line : String} (member : line ∈ lines text) : IsOneLine line := by
  have pieceFree : ∀ piece ∈ splitChars (· == '\n') text.toList, '\n' ∉ piece := fun piece member inside => by
    simpa using not_separates_of_mem_splitChars member inside
  have returnFree : ∀ piece : List Char, '\n' ∉ piece → '\n' ∉ withoutReturn piece := by
    intro piece none
    unfold withoutReturn
    split
    · rename_i front reversed
      intro inside
      exact none (List.mem_reverse.mp (reversed ▸ List.mem_cons_of_mem _ (List.mem_reverse.mp inside)))
    · exact none
  have ended : ∀ line ∈ ((splitChars (· == '\n') text.toList).dropLast).map fun line => String.ofList (withoutReturn line),
      IsOneLine line := by
    intro line member
    obtain ⟨piece, isPiece, rfl⟩ := List.mem_map.mp member
    simpa [IsOneLine] using returnFree piece (pieceFree piece (List.dropLast_subset _ isPiece))
  unfold lines at member
  dsimp only at member
  split at member
  · exact ended line member
  · exact ended line member
  · rename_i last _ isLast
    rcases List.mem_append.mp member with member | member
    · exact ended line member
    · rw [List.mem_singleton.mp member]
      simpa [IsOneLine] using pieceFree last (List.mem_of_getLast? isLast)

theorem newline_notMem_toDigits (number : Nat) : '\n' ∉ Nat.toDigits 16 number := by
  induction number using Nat.strongRecOn with
  | ind number ih =>
      by_cases small : number < 16
      · rw [Nat.toDigits_of_lt_base small]
        simp
      · rw [Nat.toDigits_of_base_le (by omega) (by omega), List.mem_append, not_or]
        exact ⟨ih _ (by omega), by simp⟩

theorem newline_notMem_escapeChar (c : Char) : '\n' ∉ escapeChar c := by
  unfold escapeChar
  split
  · decide
  · decide
  · decide
  · decide
  · decide
  · decide
  · rename_i notFeed _ _ _
    split
    · simpa using Ne.symm notFeed
    · simpa [codeEscape, hexadecimal] using newline_notMem_toDigits c.toNat

theorem isOneLine_quoted (text : String) : IsOneLine (quoted text) := by
  simpa [IsOneLine, quoted] using fun c _ => newline_notMem_escapeChar c

end Companion.Text
