import Companion.Proofs.Syntax.Words

set_option autoImplicit false

namespace Companion.Syntax

open Companion.Text (continuesIdentifier startsIdentifier)

/-- The code points of white space, of signs, of brackets, of quotes and of digits. -/
def foreignCodes : List Nat :=
  [9, 10, 11, 12, 13, 0x20, 0x85, 0xA0, 0x1680, 0x2000, 0x2001, 0x2002, 0x2003, 0x2004, 0x2005, 0x2006, 0x2007, 0x2008,
    0x2009, 0x200A, 0x200E, 0x200F, 0x2028, 0x2029, 0x202F, 0x205F, 0x3000] ++
  (Lexeme.signs ++ "\"()[]\x7b\x7d0123456789".toList).map Char.toNat

theorem startsIdentifier_foreign {c : Char} (foreign : c.toNat ∈ foreignCodes) : startsIdentifier c = false := by
  have codes : ∀ code ∈ foreignCodes, Text.holdsAt Text.identifierStartChanges code = false ∧ code ≠ '_'.toNat := by
    decide +kernel
  rcases codes c.toNat foreign with ⟨noStart, noUnderscore⟩
  have different : c ≠ '_' := fun same => noUnderscore (congrArg Char.toNat same)
  simp [startsIdentifier, noStart, different]

theorem foreign_of_isSpace {c : Char} (isSpace : Lexeme.isSpace c = true) : c.toNat ∈ foreignCodes := by
  have cases : Text.isBlank c = true ∨ c = '\u200E' ∨ c = '\u200F' := by simpa [Lexeme.isSpace, or_assoc] using isSpace
  rcases cases with blank | rfl | rfl
  · simp only [Text.isBlank, Bool.or_eq_true, Bool.and_eq_true, decide_eq_true_eq, beq_iff_eq] at blank
    apply List.mem_append_left
    simp only [List.mem_cons, List.not_mem_nil, or_false]
    omega
  · decide
  · decide

theorem foreign_of_isDigit {c : Char} (isDigit : c.isDigit = true) : c.toNat ∈ foreignCodes := by
  have bounds : 48 ≤ c.toNat ∧ c.toNat ≤ 57 := by
    simp only [Char.isDigit, Bool.and_eq_true, decide_eq_true_eq] at isDigit
    exact ⟨UInt32.le_iff_toNat_le.mp isDigit.1, UInt32.le_iff_toNat_le.mp isDigit.2⟩
  have digits : ∀ digit : Fin 10, 48 + digit.val ∈ foreignCodes := by decide +kernel
  have same : 48 + (c.toNat - 48) = c.toNat := by omega
  exact same ▸ digits ⟨c.toNat - 48, by omega⟩

/-- What is known of a character that begins an identifier. -/
structure StartsWord (c : Char) : Prop where
  starts : startsIdentifier c = true
  noSpace : Lexeme.isSpace c = false
  noDigit : c.isDigit = false
  notAny : ∀ other : Char, other.toNat ∈ foreignCodes → c ≠ other

theorem startsWord {c : Char} (starts : startsIdentifier c = true) : StartsWord c := by
  have native : c.toNat ∉ foreignCodes := fun foreign => by simp [startsIdentifier_foreign foreign] at starts
  constructor
  · exact starts
  · exact Bool.eq_false_iff.mpr fun isSpace => native (foreign_of_isSpace isSpace)
  · exact Bool.eq_false_iff.mpr fun isDigit => native (foreign_of_isDigit isDigit)
  · rintro other foreign rfl
    exact native foreign

/-- Whether a text that stands behind a word does not belong to it, and makes no literal of it. -/
def EndsWord (text : List Char) : Prop :=
  ∀ c, text.head? = some c → continuesIdentifier c = false ∧ c ≠ '"' ∧ c ≠ '\'' ∧ c ≠ '#'

theorem endsWord_nil : EndsWord [] := fun _ found => nomatch found

theorem endsWord_cons {c : Char} (rest : List Char)
    (ends : continuesIdentifier c = false ∧ c ≠ '"' ∧ c ≠ '\'' ∧ c ≠ '#') : EndsWord (c :: rest) := fun other found => by
  obtain rfl := Option.some.inj found
  exact ends

theorem trivia_of_ne {c : Char} (noSlash : c ≠ '/') (rest : List Char) :
    Lexeme.trivia (c :: rest) = if Lexeme.isSpace c then some 1 else none := by
  have noLine : Lexeme.lineComment (c :: rest) = none := by
    unfold Lexeme.lineComment
    split <;> simp_all
  have noBlock : Lexeme.plainBlockComment (c :: rest) = none := by
    unfold Lexeme.plainBlockComment
    split <;> simp_all
  simp [Lexeme.trivia, noLine, noBlock]

theorem documentation_of_ne {c : Char} (noSlash : c ≠ '/') (rest : List Char) : Lexeme.documentation (c :: rest) = none := by
  unfold Lexeme.documentation
  split <;> simp_all

theorem le_digitValue {c : Char} (noDigit : c.isDigit = false) : 10 ≤ Lexeme.digitValue c := by
  simp only [Lexeme.digitValue, noDigit]
  split
  · contradiction
  · split <;> omega

/-- A text that begins with no digit is no number, so only quoted literals are left. -/
theorem literal_of_not_isDigit {c : Char} {rest : List Char} (noDigit : c.isDigit = false)
    (unquoted : Lexeme.quotedLiteral (c :: rest) = none) : Lexeme.literal (c :: rest) = none := by
  have noZero : c ≠ '0' := by
    rintro rfl
    contradiction
  have whole : Lexeme.wholeNumber (c :: rest) = none := by
    have digits : Lexeme.wholeDigits 10 false (c :: rest) = none := by
      simp [Lexeme.wholeDigits, noDigit, le_digitValue noDigit]
    unfold Lexeme.wholeNumber
    split
    · simp_all
    · simp_all
    · simp_all
    · exact digits
  simp [Lexeme.literal, unquoted, Lexeme.floatNumber, noDigit, whole, Lexeme.withSuffix]

def plainSigns : List Char := "~!@#$%^&*-=+|;:,<.>?".toList

theorem leaf_sign {c : Char} (isSign : c ∈ plainSigns) (rest : List Char) (place : Position) :
    leaf (c :: rest) place = some (1, .sign c (Lexeme.startsWithSign rest) place) := by
  have facts : ∀ c ∈ plainSigns, c.isDigit = false ∧ c ∉ "\"'bcr/".toList ∧ c ∈ Lexeme.signs :=
    List.all_iff_forall_prop.mp (by decide)
  rcases facts c isSign with ⟨noDigit, noOpening, known⟩
  have unquoted : Lexeme.quotedLiteral (c :: rest) = none := by
    unfold Lexeme.quotedLiteral
    split <;> simp_all
  have isSignText : Lexeme.startsWithSign (c :: rest) = true := by
    unfold Lexeme.startsWithSign
    split <;> simp_all
  have noQuote : c ≠ '\'' := by
    rintro rfl
    simp at noOpening
  unfold leaf
  rw [literal_of_not_isDigit noDigit unquoted]
  dsimp only
  split
  · simp_all
  · simp_all
  · simp_all

/-- Whether a text goes on with the rest of a word, and the word ends inside. -/
def GoesOn (text : List Char) : Prop :=
  ∃ inner rest, text = inner ++ rest ∧ (∀ c ∈ inner, continuesIdentifier c = true) ∧ EndsWord rest

theorem GoesOn.head {c : Char} {text : List Char} (goesOn : GoesOn (c :: text)) : c ≠ '"' ∧ c ≠ '\'' ∧ c ≠ '#' := by
  have marks : ∀ c ∈ ['"', '\'', '#'], continuesIdentifier c = false :=
    List.all_iff_forall_prop.mp (by decide +kernel)
  rcases goesOn with ⟨inner, rest, split, continues, ends⟩
  cases inner with
  | nil =>
      obtain rfl : c :: text = rest := split
      exact (ends c rfl).2
  | cons first others =>
      obtain rfl : c = first := (List.cons.inj split).1
      have isPart := continues c List.mem_cons_self
      have unmarked : c ∉ ['"', '\'', '#'] := fun mark => by simp [marks c mark] at isPart
      simpa using unmarked

theorem GoesOn.tail {c : Char} {text : List Char} (isPart : continuesIdentifier c = true) (goesOn : GoesOn (c :: text)) :
    GoesOn text := by
  rcases goesOn with ⟨inner, rest, split, continues, ends⟩
  cases inner with
  | nil =>
      obtain rfl : c :: text = rest := split
      exact absurd (isPart.symm.trans (ends c rfl).1) (by simp)
  | cons first others =>
      exact ⟨others, rest, (List.cons.inj split).2, fun other member => continues other (List.mem_cons_of_mem _ member),
        ends⟩

theorem GoesOn.raw (admits : Char → Bool) {text : List Char} (goesOn : GoesOn text) : Lexeme.raw admits text = none := by
  unfold Lexeme.raw
  cases text with
  | nil => rfl
  | cons c text =>
      rcases goesOn.head with ⟨noQuote, -, noMark⟩
      simp [noMark, noQuote]

theorem quotedLiteral_identifier {first : Char} {text : List Char} (starts : StartsWord first) (goesOn : GoesOn text) :
    Lexeme.quotedLiteral (first :: text) = none := by
  have isR : continuesIdentifier 'r' = true := by decide +kernel
  unfold Lexeme.quotedLiteral
  split
  · rename_i same
    exact absurd (List.cons.inj same).1 (starts.notAny '"' (by decide))
  · rename_i same
    exact absurd rfl ((List.cons.inj same).2 ▸ goesOn).head.1
  · rename_i same
    simp [(((List.cons.inj same).2 ▸ goesOn).tail isR).raw]
  · rename_i same
    exact absurd rfl ((List.cons.inj same).2 ▸ goesOn).head.2.1
  · rename_i same
    exact absurd rfl ((List.cons.inj same).2 ▸ goesOn).head.1
  · rename_i same
    simp [(((List.cons.inj same).2 ▸ goesOn).tail isR).raw]
  · rename_i same
    simp [((List.cons.inj same).2 ▸ goesOn).raw]
  · rename_i same
    exact absurd (List.cons.inj same).1 (starts.notAny '\'' (by decide))
  · rfl

theorem quotedLiteral_raw {first : Char} (starts : StartsWord first) (text : List Char) :
    Lexeme.quotedLiteral ('r' :: '#' :: first :: text) = none := by
  have noQuote : first ≠ '"' := starts.notAny '"' (by decide)
  have noMark : first ≠ '#' := starts.notAny '#' (by decide)
  simp [Lexeme.quotedLiteral, Lexeme.raw, noQuote, noMark]

/-- A word opens no literal: behind its first character, or behind an `r` there, a literal has a quote or a number sign. -/
theorem not_startsWith_literalFronts {first : Char} {text : List Char} (goesOn : GoesOn text) :
    (Lexeme.literalFronts.any fun front => Text.startsWith (first :: text) front) = false := by
  have isR : continuesIdentifier 'r' = true := by decide +kernel
  apply Bool.eq_false_iff.mpr
  intro found
  rcases List.any_eq_true.mp found with ⟨front, isFront, opens⟩
  rcases List.isPrefixOf_iff_prefix.mp opens with ⟨behind, same⟩
  simp only [Lexeme.literalFronts, List.map_cons, List.map_nil, List.mem_cons, List.not_mem_nil, or_false] at isFront
  rcases isFront with rfl | rfl | rfl | rfl | rfl | rfl | rfl | rfl | rfl | rfl
  all_goals
    replace goesOn := (List.cons.inj same).2.symm ▸ goesOn
    simp at goesOn
    first
    | exact absurd rfl goesOn.head.1
    | exact absurd rfl goesOn.head.2.1
    | exact absurd rfl goesOn.head.2.2
    | exact absurd rfl (goesOn.tail isR).head.1
    | exact absurd rfl (goesOn.tail isR).head.2.2

theorem identifier_append {first : Char} {inner rest : List Char} (starts : startsIdentifier first = true)
    (continues : ∀ c ∈ inner, continuesIdentifier c = true) (ends : EndsWord rest) :
    Lexeme.identifier (first :: (inner ++ rest)) = inner.length + 1 := by
  have stop : rest.takeWhile continuesIdentifier = [] := by
    cases rest with
    | nil => rfl
    | cons c others => simp [(ends c rfl).1]
  have whole : (inner ++ rest).takeWhile continuesIdentifier = inner := by
    rw [List.takeWhile_append_of_pos continues, stop, List.append_nil]
  simp [Lexeme.identifier, starts, whole]

theorem rawIdentifier_of_goesOn {first : Char} {text : List Char} (starts : StartsWord first) (goesOn : GoesOn text) :
    Lexeme.rawIdentifier (first :: text) = some (Lexeme.identifier (first :: text)) := by
  have some : Lexeme.identifier (first :: text) ≠ 0 := by simp [Lexeme.identifier, starts.starts]
  unfold Lexeme.rawIdentifier
  split
  · rename_i same
    exact absurd rfl ((List.cons.inj same).2 ▸ goesOn).head.2.2
  · simp [some]

theorem rawIdentifier_raw {first : Char} {inner rest : List Char} (starts : startsIdentifier first = true)
    (continues : ∀ c ∈ inner, continuesIdentifier c = true) (ends : EndsWord rest)
    (allowed : String.ofList (first :: inner) ∉ neverRaw) :
    Lexeme.rawIdentifier ('r' :: '#' :: first :: (inner ++ rest)) = some (inner.length + 3) := by
  have name : (first :: (inner ++ rest)).take (inner.length + 1) = first :: inner := by simp
  have notNever : (["_", "super", "self", "Self", "crate"].contains (String.ofList (first :: inner))) = false := by
    simpa [neverRaw] using allowed
  simp only [Lexeme.rawIdentifier, identifier_append starts continues ends, name, notNever]
  simp

theorem not_startsWith_literalFronts_raw {first : Char} (starts : StartsWord first) (text : List Char) :
    (Lexeme.literalFronts.any fun front => Text.startsWith ('r' :: '#' :: first :: text) front) = false := by
  have noQuote : '"' ≠ first := (starts.notAny '"' (by decide)).symm
  have noMark : '#' ≠ first := (starts.notAny '#' (by decide)).symm
  simp [Lexeme.literalFronts, Text.startsWith, List.isPrefixOf, noQuote, noMark]

theorem startsWithSign_of_startsWord {first : Char} (starts : StartsWord first) (text : List Char) :
    Lexeme.startsWithSign (first :: text) = false := by
  have noSlash : first ≠ '/' := starts.notAny '/' (by decide)
  have noSign : first ∉ Lexeme.signs := fun isSign => starts.notAny first
    (List.mem_append_right _ (List.mem_map_of_mem (List.mem_append_left _ isSign))) rfl
  unfold Lexeme.startsWithSign
  split
  · simp_all
  · simp_all
  · rename_i same
    obtain rfl := (List.cons.inj same).1
    simpa using noSign
  · rfl

/-- A text that begins with a letter, or with an underscore, and with no literal, begins with a word. -/
theorem leaf_of_startsWord {first : Char} {text : List Char} (starts : StartsWord first)
    (unquoted : Lexeme.quotedLiteral (first :: text) = none) {length : Nat}
    (found : Lexeme.word (first :: text) = some length) (place : Position) :
    leaf (first :: text) place = some (length, .word (String.ofList ((first :: text).take length)) place) := by
  have noQuote : first ≠ '\'' := starts.notAny '\'' (by decide)
  unfold leaf
  rw [literal_of_not_isDigit starts.noDigit unquoted]
  dsimp only
  split
  · simp_all
  · rename_i same
    rcases List.cons.inj same with ⟨rfl, rfl⟩
    simp [startsWithSign_of_startsWord starts, found]
  · contradiction

/-- Where a word stands in front of a text that does not go on with it, the lexer takes the word. -/
theorem leaf_word {word : String} (isWord : IsWord word) {rest : List Char} (ends : EndsWord rest) (place : Position) :
    leaf (word.toList ++ rest) place = some (word.toList.length, .word word place) := by
  rcases isWord with ⟨first, inner, chars, starts, continues⟩ | ⟨name, ⟨first, inner, chars, starts, continues⟩, allowed, rfl⟩
  · have goesOn : GoesOn (inner ++ rest) := ⟨inner, rest, rfl, continues, ends⟩
    have length : Lexeme.word (first :: (inner ++ rest)) = some (inner.length + 1) := by
      rw [Lexeme.word, not_startsWith_literalFronts goesOn, rawIdentifier_of_goesOn (startsWord starts) goesOn,
        identifier_append starts continues ends]
      rfl
    have same : String.ofList (first :: inner) = word := String.toList_injective (by simp [chars])
    rw [chars, List.cons_append, leaf_of_startsWord (startsWord starts)
      (quotedLiteral_identifier (startsWord starts) goesOn) length]
    simp [same]
  · have same : String.ofList (first :: inner) = name := String.toList_injective (by simp [chars])
    have length : Lexeme.word ('r' :: '#' :: first :: (inner ++ rest)) = some (inner.length + 3) := by
      rw [Lexeme.word, not_startsWith_literalFronts_raw (startsWord starts),
        rawIdentifier_raw starts continues ends (same ▸ allowed)]
      rfl
    have isR : StartsWord 'r' := startsWord (by decide +kernel)
    have whole : ("r#" ++ name).toList ++ rest = 'r' :: '#' :: first :: (inner ++ rest) := by simp [chars]
    rw [whole, leaf_of_startsWord isR (quotedLiteral_raw (startsWord starts) _) length]
    have word : String.ofList ('r' :: '#' :: first :: inner) = "r#" ++ name := String.toList_injective (by simp [chars])
    simp [chars, word]

theorem IsWord.exists_startsWord {word : String} (isWord : IsWord word) :
    ∃ first rest, word.toList = first :: rest ∧ StartsWord first := by
  rcases isWord with ⟨first, inner, chars, starts, -⟩ | ⟨name, -, -, rfl⟩
  · exact ⟨first, inner, chars, startsWord starts⟩
  · exact ⟨'r', '#' :: name.toList, by simp, startsWord (by decide +kernel)⟩

theorem lineLength_append (text : List Char) (noFeed : '\n' ∉ text) (whole : text.getLast? ≠ some '\r')
    (rest : List Char) : Lexeme.lineLength (text ++ '\n' :: rest) = text.length := by
  induction text with
  | nil => rfl
  | cons c text ih =>
      have noEnd : ∀ tail, c = '\r' → text ++ '\n' :: rest = '\n' :: tail → False := by
        intro tail isReturn same
        cases text with
        | nil => exact whole (by simp [isReturn])
        | cons d others => exact noFeed (by simp [(List.cons.inj same).1])
      have noFeedFirst : c ≠ '\n' := fun same => noFeed (by simp [same])
      have later : text.getLast? ≠ some '\r' := fun last => whole (by simp [List.getLast?_cons, last])
      rw [List.cons_append, Lexeme.lineLength, ih (fun found => noFeed (List.mem_cons_of_mem _ found)) later,
        List.length_cons]
      · exact noFeedFirst
      · exact noEnd

/-- A line comment reaches to the end of its line. The third character tells it from documentation. -/
theorem trivia_comment {third : Char} {text : List Char} (noFeed : '\n' ∉ third :: text)
    (whole : (third :: text).getLast? ≠ some '\r') (noMark : third ≠ '!') (noSlash : third ≠ '/') (rest : List Char) :
    Lexeme.trivia ('/' :: '/' :: third :: (text ++ '\n' :: rest)) = some (text.length + 3) := by
  have length : Lexeme.lineLength ('/' :: '/' :: third :: (text ++ '\n' :: rest)) = text.length + 3 :=
    lineLength_append ('/' :: '/' :: third :: text) (by simpa using noFeed) (by simpa using whole) rest
  have isComment : Lexeme.lineComment ('/' :: '/' :: third :: (text ++ '\n' :: rest)) = some (text.length + 3) := by
    simp [Lexeme.lineComment, noMark, noSlash, length]
  simp [Lexeme.trivia, isComment]

theorem lonelyReturn_of_none {text : List Char} (noReturn : '\r' ∉ text) :
    Lexeme.documentation.lonelyReturn text = true := by
  induction text with
  | nil => rfl
  | cons c text ih =>
      have different : c ≠ '\r' := fun same => noReturn (by simp [same])
      rw [Lexeme.documentation.lonelyReturn]
      · exact ih fun found => noReturn (List.mem_cons_of_mem _ found)
      · exact fun _ same _ => different same
      · exact different

/-- Documentation reaches to the end of its line, and is no comment unless a fourth slash follows. -/
theorem documentation_line {first : Char} {text : List Char} (noFeed : '\n' ∉ first :: text)
    (noReturn : '\r' ∉ first :: text) (noSlash : first ≠ '/') (rest : List Char) :
    Lexeme.trivia ('/' :: '/' :: '/' :: first :: (text ++ '\n' :: rest)) = none ∧
      Lexeme.documentation ('/' :: '/' :: '/' :: first :: (text ++ '\n' :: rest)) =
        some (text.length + 4, first :: text, false) := by
  have length : Lexeme.lineLength (first :: (text ++ '\n' :: rest)) = text.length + 1 :=
    lineLength_append _ noFeed (fun last => noReturn (List.mem_of_getLast? last)) rest
  have line : (first :: (text ++ '\n' :: rest)).take (text.length + 1) = first :: text := by simp
  have noSpace : Lexeme.isSpace '/' = false := by decide
  constructor
  · simp [Lexeme.trivia, Lexeme.lineComment, noSlash, Lexeme.plainBlockComment, noSpace]
  · unfold Lexeme.documentation
    dsimp only
    split
    · simp_all
    · simp_all
    · simp_all
    · rename_i same
      obtain rfl := (List.cons.inj (List.cons.inj (List.cons.inj same).2).2).2
      simp [length, line, lonelyReturn_of_none noReturn]
    · simp_all
    · simp_all
    · simp_all

end Companion.Syntax
