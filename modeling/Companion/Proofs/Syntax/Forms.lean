import Companion.Proofs.Syntax.Lexing

/-!
Texts made of forms. A form is white space, a comment, documentation, a word, a sign, or a group of forms. Where every
form fits what stands behind it, the lexer finds the trees of the forms, and nothing else.
-/

set_option autoImplicit false

namespace Companion.Syntax

open Companion.Text (continuesIdentifier)

section Steps

variable {text rest : List Char} {place : Position} {groups : List OpenGroup} {found : List Tree} {length fuel : Nat} {c : Char}
  {delimiter : Delimiter}

theorem scan_trivia (isTrivia : Lexeme.trivia text = some length) : scan (fuel + 1) text place groups found =
    scan fuel (text.drop length) (place.after (text.take length)) groups found := by
  simp only [scan, isTrivia]

theorem scan_documentation {comment : List Char} (noTrivia : Lexeme.trivia text = none)
    (isDocumentation : Lexeme.documentation text = some (length, comment, false)) : scan (fuel + 1) text place groups found =
    scan fuel (text.drop length) (place.after (text.take length)) groups
      ((docAttribute comment false place).reverse ++ found) := by
  simp only [scan, noTrivia, isDocumentation]

/-- A character that begins a token, or is a bracket. -/
structure Visible (c : Char) : Prop where
  noSlash : c ≠ '/'
  noSpace : Lexeme.isSpace c = false

theorem Visible.noTrivia (visible : Visible c) (rest : List Char) : Lexeme.trivia (c :: rest) = none := by
  rw [trivia_of_ne visible.noSlash, visible.noSpace]
  rfl

theorem scan_opening (visible : Visible c) (opens : Delimiter.ofOpening? c = some delimiter) :
    scan (fuel + 1) (c :: rest) place groups found =
      scan fuel rest (place.next c) (⟨delimiter, place, found⟩ :: groups) [] := by
  simp only [scan, visible.noTrivia, documentation_of_ne visible.noSlash, opens]

theorem scan_closing (visible : Visible c) (opens : Delimiter.ofOpening? c = none)
    (closes : Delimiter.ofClosing? c = some delimiter) {opened : Position} {before : List Tree} :
    scan (fuel + 1) (c :: rest) place (⟨delimiter, opened, before⟩ :: groups) found =
      scan fuel rest (place.next c) groups (.group delimiter found.reverse opened place :: before) := by
  simp only [scan, visible.noTrivia, documentation_of_ne visible.noSlash, opens, closes, if_true]

theorem scan_leaf (visible : Visible c) (opens : Delimiter.ofOpening? c = none) (closes : Delimiter.ofClosing? c = none)
    {tree : Tree} (isLeaf : leaf (c :: rest) place = some (length, tree)) : scan (fuel + 1) (c :: rest) place groups found =
    scan fuel ((c :: rest).drop length) (place.after ((c :: rest).take length)) groups (tree :: found) := by
  simp only [scan, visible.noTrivia, documentation_of_ne visible.noSlash, opens, closes, isLeaf]

end Steps

/-- The lexer takes a text in front of another, and finds trees in it, which depend on the place where the text stands. -/
def Lexes (text : List Char) (trees : Position → List Tree) (rest : List Char) : Prop :=
  ∀ fuel place groups found, (text ++ rest).length < fuel →
    ∃ left, rest.length < left ∧
      scan fuel (text ++ rest) place groups found = scan left rest (place.after text) groups ((trees place).reverse ++ found)

theorem Position.after_append (place : Position) (text rest : List Char) :
    place.after (text ++ rest) = (place.after text).after rest :=
  List.foldl_append ..

namespace Lexes

variable {text rest : List Char} {trees : Position → List Tree}

theorem nil (rest : List Char) : Lexes [] (fun _ => []) rest := fun fuel _ _ _ enough => ⟨fuel, enough, rfl⟩

theorem append {others : List Char} {otherTrees : Position → List Tree} (first : Lexes text trees (others ++ rest))
    (second : Lexes others otherTrees rest) :
    Lexes (text ++ others) (fun place => trees place ++ otherTrees (place.after text)) rest := by
  intro fuel place groups found enough
  rw [List.append_assoc] at enough ⊢
  rcases first fuel place groups found enough with ⟨middle, enoughLeft, begun⟩
  rcases second middle (place.after text) groups ((trees place).reverse ++ found) enoughLeft with ⟨left, some, done⟩
  refine ⟨left, some, ?_⟩
  rw [begun, done, Position.after_append, List.reverse_append, List.append_assoc]

theorem of_step (nonempty : text ≠ []) (step : ∀ fuel place groups found, scan (fuel + 1) (text ++ rest) place groups found =
    scan fuel ((text ++ rest).drop text.length) (place.after ((text ++ rest).take text.length)) groups
      ((trees place).reverse ++ found)) : Lexes text trees rest := by
  intro fuel place groups found enough
  have some : 0 < text.length := List.length_pos_iff.mpr nonempty
  rw [List.length_append] at enough
  rcases Nat.exists_eq_add_one_of_ne_zero (show fuel ≠ 0 by omega) with ⟨fuel, rfl⟩
  refine ⟨fuel, by omega, ?_⟩
  rw [step, List.drop_left, List.take_left]

theorem trivia (nonempty : text ≠ []) (isTrivia : Lexeme.trivia (text ++ rest) = some text.length) :
    Lexes text (fun _ => []) rest :=
  of_step nonempty fun _ _ _ _ => scan_trivia isTrivia

theorem documentation {comment : List Char} (nonempty : text ≠ []) (noTrivia : Lexeme.trivia (text ++ rest) = none)
    (isDocumentation : Lexeme.documentation (text ++ rest) = some (text.length, comment, false)) :
    Lexes text (docAttribute comment false) rest :=
  of_step nonempty fun _ _ _ _ => scan_documentation noTrivia isDocumentation

theorem leaf {c : Char} {inner : List Char} {tree : Position → Tree} (visible : Visible c)
    (noBracket : c ∉ "()[]\x7b\x7d".toList)
    (isLeaf : ∀ place, Syntax.leaf (c :: inner ++ rest) place = some ((c :: inner).length, tree place)) :
    Lexes (c :: inner) (fun place => [tree place]) rest := by
  have opens : Delimiter.ofOpening? c = none := by
    unfold Delimiter.ofOpening?
    split <;> simp_all
  have closes : Delimiter.ofClosing? c = none := by
    unfold Delimiter.ofClosing?
    split <;> simp_all
  exact of_step (List.cons_ne_nil _ _) fun _ place _ _ => scan_leaf visible opens closes (isLeaf place)

end Lexes

namespace Delimiter

def opening : Delimiter → Char
  | parenthesis => '('
  | bracket => '['
  | brace => '\x7b'

def closing : Delimiter → Char
  | parenthesis => ')'
  | bracket => ']'
  | brace => '\x7d'

theorem visible_opening (delimiter : Delimiter) : Visible delimiter.opening := by
  constructor <;> cases delimiter <;> decide

theorem visible_closing (delimiter : Delimiter) : Visible delimiter.closing := by
  constructor <;> cases delimiter <;> decide

theorem ofOpening?_opening (delimiter : Delimiter) : ofOpening? delimiter.opening = some delimiter := by
  cases delimiter <;> rfl

theorem ofOpening?_closing (delimiter : Delimiter) : ofOpening? delimiter.closing = none := by
  cases delimiter <;> rfl

theorem ofClosing?_closing (delimiter : Delimiter) : ofClosing? delimiter.closing = some delimiter := by
  cases delimiter <;> rfl

end Delimiter

theorem Lexes.group {body rest : List Char} {trees : Position → List Tree} {delimiter : Delimiter}
    (inside : Lexes body trees (delimiter.closing :: rest)) :
    Lexes (delimiter.opening :: (body ++ [delimiter.closing])) (fun place =>
      [.group delimiter (trees (place.next delimiter.opening)) place ((place.next delimiter.opening).after body)]) rest := by
  intro fuel place groups found enough
  have whole : delimiter.opening :: (body ++ [delimiter.closing]) ++ rest =
      delimiter.opening :: (body ++ delimiter.closing :: rest) := by simp
  rw [whole, List.length_cons] at enough
  rcases Nat.exists_eq_add_one_of_ne_zero (show fuel ≠ 0 by omega) with ⟨fuel, rfl⟩
  rcases inside fuel (place.next delimiter.opening) (⟨delimiter, place, found⟩ :: groups) [] (by omega) with
    ⟨middle, enoughLeft, done⟩
  rw [List.length_cons] at enoughLeft
  rcases Nat.exists_eq_add_one_of_ne_zero (show middle ≠ 0 by omega) with ⟨middle, rfl⟩
  refine ⟨middle, by omega, ?_⟩
  rw [whole, scan_opening delimiter.visible_opening delimiter.ofOpening?_opening, done,
    scan_closing delimiter.visible_closing delimiter.ofOpening?_closing delimiter.ofClosing?_closing]
  simp [Position.after, List.foldl_append]

/-- A piece of a text: white space, a comment, documentation, a word, a sign, or a group. -/
inductive Form where
  | blank (text : String)
  /-- A line comment, without its two slashes. -/
  | comment (text : String)
  /-- Documentation, without its three slashes. -/
  | doc (text : String)
  | word (text : String)
  | sign (char : Char) (joint : Bool)
  | group (delimiter : Delimiter) (body : List Form)

def Delimiter.enclose (delimiter : Delimiter) (text : String) : String :=
  match delimiter with
  | parenthesis => "(" ++ text ++ ")"
  | bracket => "[" ++ text ++ "]"
  | brace => "\x7b" ++ text ++ "\x7d"

@[simp] theorem Delimiter.toList_enclose (delimiter : Delimiter) (text : String) :
    (delimiter.enclose text).toList = delimiter.opening :: (text.toList ++ [delimiter.closing]) := by
  cases delimiter <;> simp [enclose, opening, closing]

namespace Form

mutual

def text : Form → String
  | blank text => text
  | comment text => "//" ++ text
  | doc text => "///" ++ text
  | word text => text
  | sign char _ => char.toString
  | group delimiter body => delimiter.enclose (texts body)

def texts : List Form → String
  | [] => ""
  | form :: forms => text form ++ texts forms

end

mutual

/-- The trees that the lexer finds in a form that stands at a place. -/
def tree (place : Position) : Form → List Tree
  | blank _ | comment _ => []
  | doc text => docAttribute text.toList false place
  | word text => [.word text place]
  | sign char joint => [.sign char joint place]
  | group delimiter body =>
      [.group delimiter (trees (place.next delimiter.opening) body) place
        ((place.next delimiter.opening).after (texts body).toList)]

/-- The trees that the lexer finds in several forms, of which the first stands at a place. -/
def trees (place : Position) : List Form → List Tree
  | [] => []
  | form :: forms => tree place form ++ trees (place.after (text form).toList) forms

end

@[simp] theorem trees_nil (place : Position) : trees place [] = [] := rfl

@[simp] theorem trees_word (place : Position) (text : String) (forms : List Form) :
    trees place (.word text :: forms) = .word text place :: trees (place.after text.toList) forms := rfl

@[simp] theorem trees_sign (place : Position) (char : Char) (joint : Bool) (forms : List Form) :
    trees place (.sign char joint :: forms) = .sign char joint place :: trees (place.after char.toString.toList) forms := rfl

@[simp] theorem trees_blank (place : Position) (text : String) (forms : List Form) :
    trees place (.blank text :: forms) = trees (place.after text.toList) forms := rfl

@[simp] theorem trees_comment (place : Position) (text : String) (forms : List Form) :
    trees place (.comment text :: forms) = trees (place.after ("//" ++ text).toList) forms := rfl

@[simp] theorem trees_doc (place : Position) (text : String) (forms : List Form) :
    trees place (.doc text :: forms) =
      docAttribute text.toList false place ++ trees (place.after ("///" ++ text).toList) forms := rfl

def closingPlace (place : Position) (delimiter : Delimiter) (body : List Form) : Position :=
  (place.next delimiter.opening).after (texts body).toList

@[simp] theorem trees_group (place : Position) (delimiter : Delimiter) (body forms : List Form) :
    trees place (.group delimiter body :: forms) =
      .group delimiter (trees (place.next delimiter.opening) body) place (closingPlace place delimiter body) ::
        trees (place.after (delimiter.enclose (texts body)).toList) forms := rfl

mutual

def size : Form → Nat
  | blank _ | comment _ => 0
  | doc _ => 5
  | word _ | sign _ _ => 1
  | group _ body => sizes body + 1

/-- How many tokens the lexer finds in several forms. -/
def sizes : List Form → Nat
  | [] => 0
  | form :: forms => size form + sizes forms

end

theorem sizes_append (forms others : List Form) : sizes (forms ++ others) = sizes forms + sizes others := by
  induction forms with
  | nil => simp [sizes]
  | cons form forms ih => simp [sizes, ih, Nat.add_assoc]

theorem sizes_le_of_mem {parts : List (List Form)} {part : List Form} (member : part ∈ parts) :
    sizes part ≤ sizes parts.flatten := by
  induction parts with
  | nil => contradiction
  | cons first others ih =>
      rw [List.flatten_cons, sizes_append]
      rcases List.mem_cons.mp member with rfl | member
      · omega
      · have inOthers := ih member
        omega

theorem sizeAll_append (trees others : List Tree) :
    Tree.sizeAll (trees ++ others) = Tree.sizeAll trees + Tree.sizeAll others := by
  induction trees with
  | nil => simp [Tree.sizeAll]
  | cons tree trees ih => simp [Tree.sizeAll, ih, Nat.add_assoc]

mutual

theorem sizeAll_tree (place : Position) (form : Form) : Tree.sizeAll (tree place form) = size form := by
  cases form with
  | blank | comment | doc | word | sign => rfl
  | group delimiter body =>
      simp [tree, Tree.sizeAll, Tree.size, size, sizeAll_trees]

theorem sizeAll_trees (place : Position) (forms : List Form) : Tree.sizeAll (trees place forms) = sizes forms := by
  cases forms with
  | nil => rfl
  | cons form forms => rw [trees, sizeAll_append, sizes, sizeAll_tree, sizeAll_trees]

end

/-- What a text begins with, as far as it matters to what stands in front of it. -/
inductive Front where
  | word
  | sign (char : Char)
  | line
  | other
  deriving DecidableEq

namespace Front

def Meets : Front → List Char → Prop
  | word, text => Lexeme.startsWithSign text = false
  | sign char, text => char ∈ plainSigns ∧ text.head? = some char
  | line, text => text.head? = some '\n'
  | other, text => Lexeme.startsWithSign text = false ∧ EndsWord text

def endsWord : Front → Bool
  | word => false
  | sign char => char != '#'
  | line | other => true

def isSign : Front → Bool
  | sign _ => true
  | _ => false

end Front

def front : Form → Front
  | blank text => if text.toList.head? = some '\n' then .line else .other
  | comment _ | doc _ | group _ _ => .other
  | word _ => .word
  | sign char _ => .sign char

def frontOf (behind : Front) : List Form → Front
  | [] => behind
  | form :: _ => form.front

/-- Whether a text can stand behind two slashes, so that all of it is a comment. -/
def IsComment (text : String) : Prop :=
  ∃ first rest, text.toList = first :: rest ∧ first ≠ '!' ∧ first ≠ '/' ∧ '\n' ∉ text.toList ∧
    text.toList.getLast? ≠ some '\r'

/-- Whether a text can stand behind three slashes, so that all of it is documentation. -/
def IsDoc (text : String) : Prop :=
  ∃ first rest, text.toList = first :: rest ∧ first ≠ '/' ∧ '\n' ∉ text.toList ∧ '\r' ∉ text.toList

mutual

def Fits (behind : Front) : Form → Prop
  | blank text => text ≠ "" ∧ text.toList.all fun c => c = ' ' ∨ c = '\n'
  | comment text => IsComment text ∧ behind = .line
  | doc text => IsDoc text ∧ behind = .line
  | word text => IsWord text ∧ behind.endsWord = true
  | sign char joint => char ∈ plainSigns ∧ joint = behind.isSign
  | group _ body => AllFit .other body

/-- Whether several forms are what they say, given what stands behind them. -/
def AllFit (behind : Front) : List Form → Prop
  | [] => True
  | form :: forms => Fits (frontOf behind forms) form ∧ AllFit behind forms

end

theorem texts_append (forms others : List Form) : texts (forms ++ others) = texts forms ++ texts others := by
  induction forms with
  | nil => simp [texts]
  | cons form forms ih => simp [texts, ih, String.append_assoc]

theorem trees_append (place : Position) (forms others : List Form) :
    trees place (forms ++ others) = trees place forms ++ trees (place.after (texts forms).toList) others := by
  induction forms generalizing place with
  | nil => simp [trees, texts, Position.after]
  | cons form forms ih => simp [trees, texts, ih, Position.after_append]

theorem length_lt_of_mem {forms : List Form} {text : String} (member : word text ∈ forms) (place : Position)
    (others : List Tree) : others.length < (trees place forms ++ others).length := by
  induction forms generalizing place with
  | nil => contradiction
  | cons form forms ih =>
      rw [trees, List.append_assoc, List.length_append]
      rcases List.mem_cons.mp member with rfl | member
      · simp only [tree, List.length_append, List.length_cons]
        omega
      · have shorter := ih member (place.after form.text.toList)
        omega

theorem allFit_append {behind : Front} {forms others : List Form} :
    AllFit behind (forms ++ others) ↔ AllFit (frontOf behind others) forms ∧ AllFit behind others := by
  induction forms with
  | nil => simp [AllFit]
  | cons form forms ih =>
      have front : frontOf behind (forms ++ others) = frontOf (frontOf behind others) forms := by cases forms <;> rfl
      simp [AllFit, ih, front, and_assoc]

theorem Front.meets_closing (delimiter : Delimiter) (rest : List Char) : Front.other.Meets (delimiter.closing :: rest) := by
  have ends : ∀ delimiter : Delimiter, continuesIdentifier delimiter.closing = false ∧ delimiter.closing ≠ '"' ∧
      delimiter.closing ≠ '\'' ∧ delimiter.closing ≠ '#' := by
    intro delimiter
    cases delimiter <;> decide +kernel
  constructor
  · cases delimiter <;> rfl
  · exact endsWord_cons rest (ends delimiter)

theorem Front.Meets.isSign {front : Front} {text : List Char} (meets : front.Meets text) :
    Lexeme.startsWithSign text = front.isSign := by
  cases front with
  | word => exact meets
  | sign char =>
      rcases meets with ⟨isSign, head⟩
      have facts : ∀ c ∈ plainSigns, c ∈ Lexeme.signs ∧ c ≠ '/' := List.all_iff_forall_prop.mp (by decide)
      rcases facts char isSign with ⟨known, noSlash⟩
      cases text with
      | nil => exact nomatch head
      | cons c rest =>
          obtain rfl : c = char := Option.some.inj head
          unfold Lexeme.startsWithSign
          split <;> simp_all [Front.isSign]
  | line =>
      cases text with
      | nil => contradiction
      | cons c rest =>
          obtain rfl : c = '\n' := Option.some.inj meets
          rfl
  | other => exact meets.1

theorem Front.Meets.endsWord {front : Front} {text : List Char} (meets : front.Meets text)
    (ends : front.endsWord = true) : EndsWord text := by
  cases front with
  | word => contradiction
  | sign char =>
      have facts : ∀ c ∈ plainSigns, c ≠ '#' → continuesIdentifier c = false ∧ c ≠ '"' ∧ c ≠ '\'' ∧ c ≠ '#' :=
        List.all_iff_forall_prop.mp (by decide +kernel)
      intro c head
      obtain rfl := Option.some.inj (meets.2.symm.trans head)
      exact facts char meets.1 (by simpa [Front.endsWord] using ends)
  | line =>
      intro c head
      obtain rfl := Option.some.inj (meets.symm.trans head)
      decide +kernel
  | other => exact meets.2

theorem Front.meets_opening (delimiter : Delimiter) (rest : List Char) : Front.other.Meets (delimiter.opening :: rest) := by
  have ends : ∀ delimiter : Delimiter, continuesIdentifier delimiter.opening = false ∧ delimiter.opening ≠ '"' ∧
      delimiter.opening ≠ '\'' ∧ delimiter.opening ≠ '#' := by
    intro delimiter
    cases delimiter <;> decide +kernel
  constructor
  · cases delimiter <;> rfl
  · exact endsWord_cons rest (ends delimiter)

/-- A comment or documentation is no sign, and ends a word. -/
theorem Front.meets_slashes (rest : List Char) : Front.other.Meets ('/' :: '/' :: rest) :=
  ⟨rfl, endsWord_cons _ (by decide +kernel)⟩

theorem meets_front {form : Form} {behind : Front} (fits : Fits behind form) (rest : List Char) :
    form.front.Meets ((text form).toList ++ rest) := by
  cases form with
  | blank text =>
      rcases fits with ⟨nonempty, blanks⟩
      cases chars : text.toList with
      | nil => exact absurd (String.toList_injective (by simpa using chars)) nonempty
      | cons c others =>
          rw [chars] at blanks
          rcases List.all_iff_forall_prop.mp blanks c List.mem_cons_self with rfl | rfl
          · have space : EndsWord (' ' :: (others ++ rest)) := endsWord_cons _ (by decide +kernel)
            simpa [front, Form.text, chars, Front.Meets] using ⟨rfl, space⟩
          · simp [front, Form.text, chars, Front.Meets]
  | comment text => simpa [front, Form.text] using Front.meets_slashes (text.toList ++ rest)
  | doc text => simpa [front, Form.text] using Front.meets_slashes ('/' :: (text.toList ++ rest))
  | word text =>
      rcases fits.1.exists_startsWord with ⟨first, others, chars, starts⟩
      simpa [front, Form.text, chars, Front.Meets] using startsWithSign_of_startsWord starts (others ++ rest)
  | sign char joint => simpa [front, Form.text, Front.Meets, Char.toString] using fits.1
  | group delimiter body =>
      simpa [front, Form.text] using Front.meets_opening delimiter ((texts body).toList ++ delimiter.closing :: rest)

theorem meets_frontOf {forms : List Form} {behind : Front} (fit : AllFit behind forms) {rest : List Char}
    (meets : behind.Meets rest) : (frontOf behind forms).Meets ((texts forms).toList ++ rest) := by
  cases forms with
  | nil => simpa [texts, frontOf] using meets
  | cons form forms => simpa [texts, frontOf] using meets_front fit.1 ((texts forms).toList ++ rest)

theorem lexes_blanks {text rest : List Char} (blanks : ∀ c ∈ text, c = ' ' ∨ c = '\n') : Lexes text (fun _ => []) rest := by
  induction text with
  | nil => exact .nil rest
  | cons c text ih =>
      have isSpace : c ≠ '/' ∧ Lexeme.isSpace c = true := by
        rcases blanks c List.mem_cons_self with rfl | rfl <;> decide
      have first : Lexes [c] (fun _ => []) (text ++ rest) := by
        apply Lexes.trivia (List.cons_ne_nil _ _)
        rw [List.singleton_append, trivia_of_ne isSpace.1, isSpace.2]
        rfl
      exact first.append (ih fun other member => blanks other (List.mem_cons_of_mem _ member))

theorem exists_of_meets_line {rest : List Char} (meets : Front.line.Meets rest) : ∃ others, rest = '\n' :: others := by
  cases rest with
  | nil => contradiction
  | cons c others => exact ⟨others, congrArg (· :: others) (Option.some.inj meets)⟩

theorem lexes_comment {text : String} {rest : List Char} (isComment : IsComment text) (line : Front.line.Meets rest) :
    Lexes ("//" ++ text).toList (fun _ => []) rest := by
  rcases isComment with ⟨third, inner, chars, noMark, noSlash, noFeed, whole⟩
  rcases exists_of_meets_line line with ⟨others, rfl⟩
  rw [chars] at noFeed whole
  have trivia := trivia_comment noFeed whole noMark noSlash others
  have spelled : ("//" ++ text).toList = '/' :: '/' :: third :: inner := by simp [chars]
  rw [spelled]
  exact .trivia (List.cons_ne_nil _ _) trivia

theorem lexes_doc {text : String} {rest : List Char} (isDoc : IsDoc text) (line : Front.line.Meets rest) :
    Lexes ("///" ++ text).toList (docAttribute text.toList false) rest := by
  rcases isDoc with ⟨first, inner, chars, noSlash, noFeed, noReturn⟩
  rcases exists_of_meets_line line with ⟨others, rfl⟩
  rw [chars] at noFeed noReturn ⊢
  rcases documentation_line noFeed noReturn noSlash others with ⟨noTrivia, isDocumentation⟩
  have spelled : ("///" ++ text).toList = '/' :: '/' :: '/' :: first :: inner := by simp [chars]
  rw [spelled]
  exact .documentation (List.cons_ne_nil _ _) noTrivia isDocumentation

theorem lexes_word {word : String} {rest : List Char} (isWord : IsWord word) (ends : EndsWord rest) :
    Lexes word.toList (fun place => [.word word place]) rest := by
  rcases isWord.exists_startsWord with ⟨first, inner, chars, starts⟩
  have isLeaf : ∀ place, leaf (first :: inner ++ rest) place = some ((first :: inner).length, .word word place) := by
    intro place
    rw [← chars]
    exact leaf_word isWord ends place
  have noBracket : first ∉ "()[]\x7b\x7d".toList := by
    intro isBracket
    have foreign : ∀ c ∈ "()[]\x7b\x7d".toList, c.toNat ∈ foreignCodes :=
      List.all_iff_forall_prop.mp (by decide)
    exact starts.notAny first (foreign first isBracket) rfl
  rw [chars]
  exact .leaf ⟨starts.notAny '/' (by decide), starts.noSpace⟩ noBracket isLeaf

theorem lexes_sign {c : Char} {rest : List Char} (isSign : c ∈ plainSigns) :
    Lexes [c] (fun place => [.sign c (Lexeme.startsWithSign rest) place]) rest := by
  have facts : ∀ c ∈ plainSigns, (c ≠ '/' ∧ Lexeme.isSpace c = false) ∧ c ∉ "()[]\x7b\x7d".toList :=
    List.all_iff_forall_prop.mp (by decide)
  rcases facts c isSign with ⟨⟨noSlash, noSpace⟩, noBracket⟩
  exact .leaf ⟨noSlash, noSpace⟩ noBracket fun place => leaf_sign isSign rest place

mutual

theorem lexes_form {form : Form} {behind : Front} (fits : Fits behind form) {rest : List Char} (meets : behind.Meets rest) :
    Lexes (text form).toList (fun place => tree place form) rest := by
  cases form with
  | blank text => exact lexes_blanks (List.all_iff_forall_prop.mp fits.2)
  | comment text => exact lexes_comment fits.1 (fits.2 ▸ meets)
  | doc text => exact lexes_doc fits.1 (fits.2 ▸ meets)
  | word text => exact lexes_word fits.1 (meets.endsWord fits.2)
  | sign char joint =>
      rcases fits with ⟨isSign, rfl⟩
      have found : Lexes [char] _ rest := lexes_sign isSign
      have chars : (text (sign char behind.isSign)).toList = [char] := by simp [text, Char.toString]
      rw [meets.isSign] at found
      rw [chars]
      exact found
  | group delimiter body =>
      have inside := lexes_forms fits (Front.meets_closing delimiter rest)
      simpa [text, tree] using inside.group

theorem lexes_forms {forms : List Form} {behind : Front} (fit : AllFit behind forms) {rest : List Char}
    (meets : behind.Meets rest) : Lexes (texts forms).toList (fun place => trees place forms) rest := by
  cases forms with
  | nil => simpa [texts, trees] using Lexes.nil rest
  | cons form forms =>
      have others := lexes_forms fit.2 meets
      have first := lexes_form fit.1 (meets_frontOf fit.2 meets)
      simpa [texts, trees] using first.append others

end

theorem treesFrom_texts {forms : List Form} (fit : AllFit .other forms) {c : Char} {others : List Char}
    (chars : (texts forms).toList = c :: others) (noMark : c ≠ byteOrderMark) (place : Position) :
    treesFrom place (texts forms).toList = .ok (trees place forms) := by
  have nothing : Front.other.Meets [] := ⟨rfl, endsWord_nil⟩
  have found := lexes_forms fit nothing ((texts forms).toList.length + 1) place [] []
  rw [List.append_nil, chars] at found
  rcases found (by omega) with ⟨left, some, scanned⟩
  rcases Nat.exists_eq_add_one_of_ne_zero (show left ≠ 0 by omega) with ⟨left, rfl⟩
  have done : scan (left + 1) [] (place.after (c :: others)) [] ((trees place forms).reverse ++ []) =
      .ok (trees place forms) := by
    rw [List.append_nil]
    exact congrArg Except.ok (List.reverse_reverse _)
  rw [chars, treesFrom]
  simp only [beq_iff_eq, noMark, if_false]
  rw [scanned, done]

end Form

end Companion.Syntax
