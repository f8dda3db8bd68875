import Companion.Proofs.Syntax.Shortening

/-!
Parsers that succeed. Where given trees are left, a parser reads up to given others, and what it gives has a property. This
is proved for each primitive parser from the tree that stands next, and composed along everything that puts parsers
together.
-/

set_option autoImplicit false

namespace Companion.Syntax

open Companion.Syntax.Parser

variable {α β : Type}

/-- A parser reads from given trees up to others, leaves nothing over inside groups, and gives what has a property. -/
def Reads (parser : Parser α) (trees back : List Tree) (holds : α → Prop) : Prop :=
  ∀ before : Stream, before.trees = trees → before.leftOver = none →
    ∃ value after, parser before = .ok (value, after) ∧ after.trees = back ∧ after.leftOver = none ∧ holds value

def Fails (parser : Parser α) (trees : List Tree) : Prop :=
  ∀ before : Stream, before.trees = trees → before.leftOver = none → ∃ reason, parser before = .error reason

theorem bind_eq_of_ok {first : Parser α} {next : α → Parser β} {before middle : Stream} {value : α}
    (begun : first before = .ok (value, middle)) : (first >>= next) before = next value middle := by
  simp [Bind.bind, StateT.bind, Except.bind, begun]

namespace Reads

variable {trees middle back : List Tree} {holds : β → Prop} {met : α → Prop}

theorem mono {parser : Parser β} {more : β → Prop} (reads : Reads parser trees back holds)
    (implies : ∀ value, holds value → more value) : Reads parser trees back more := by
  intro before isTrees whole
  rcases reads before isTrees whole with ⟨value, after, read, isBack, stillWhole, held⟩
  exact ⟨value, after, read, isBack, stillWhole, implies value held⟩

theorem pure {value : β} (held : holds value) : Reads (pure value) trees trees holds :=
  fun before isTrees whole => ⟨value, before, rfl, isTrees, whole, held⟩

theorem sees (look : Look) (trees : List Tree) : Reads (sees look) trees trees (· = look trees) :=
  fun before isTrees whole => ⟨look before.trees, before, rfl, isTrees, whole, by rw [isTrees]⟩

theorem place (trees : List Tree) : Reads place trees trees fun _ => True :=
  fun before isTrees whole => ⟨before.place, before, rfl, isTrees, whole, trivial⟩

theorem get (trees : List Tree) : Reads (get : Parser Stream) trees trees (·.trees = trees) :=
  fun before isTrees whole => ⟨before, before, rfl, isTrees, whole, isTrees⟩

theorem writeAll (words : List String) (trees : List Tree) : Reads (writeAll words) trees trees fun _ => True :=
  fun _ isTrees whole => ⟨(), _, rfl, isTrees, whole, trivial⟩

theorem word (text : String) (place : Position) (rest : List Tree) :
    Reads (word text) (.word text place :: rest) rest fun _ => True := by
  intro before isTrees whole
  refine ⟨(), { before with trees := rest, written := text :: before.written }, ?_, rfl, whole, trivial⟩
  simp [Parser.word, isTrees]

theorem anyWord (text : String) (place : Position) (rest : List Tree) :
    Reads anyWord (.word text place :: rest) rest (· = text) := by
  intro before isTrees whole
  refine ⟨text, { before with trees := rest, written := text :: before.written }, ?_, rfl, whole, rfl⟩
  simp [Parser.anyWord, isTrees]

theorem identifier {text : String} (free : text ∉ Look.keywords) (place : Position) (rest : List Tree) :
    Reads identifier (.word text place :: rest) rest (· = text) := by
  intro before isTrees whole
  refine ⟨text, { before with trees := rest, written := text :: before.written }, ?_, rfl, whole, rfl⟩
  simp [Parser.identifier, isTrees, free]

theorem sign {text : String} (seen : Look.sign text trees = true) :
    Reads (sign text) trees (trees.drop text.length) fun _ => True := by
  intro before isTrees whole
  refine ⟨(), { before with trees := trees.drop text.length, written := text :: before.written }, ?_, rfl, whole, trivial⟩
  simp [Parser.sign, isTrees, seen]

theorem literal (text : String) (place : Position) (rest : List Tree) :
    Reads literal (.literal text place :: rest) rest fun _ => True := by
  intro before isTrees whole
  refine ⟨(), { before with trees := rest, written := text :: before.written }, ?_, rfl, whole, trivial⟩
  simp [Parser.literal, isTrees]

theorem rawGroup (delimiter : Delimiter) (body : List Tree) (opened closed : Position) (rest : List Tree) :
    Reads rawGroup (.group delimiter body opened closed :: rest) rest fun _ => True := by
  intro before isTrees whole
  refine ⟨delimiter, { before with
    trees := rest, written := delimiter.wrap (Tree.words body) :: before.written }, ?_, rfl, whole, trivial⟩
  simp [Parser.rawGroup, isTrees]

theorem group {body : Parser β} {inner : List Tree} (reads : Reads body inner [] holds) (delimiter : Delimiter)
    (opened closed : Position) (rest : List Tree) :
    Reads (group delimiter body) (.group delimiter inner opened closed :: rest) rest holds := by
  intro before isTrees whole
  rcases reads ⟨inner, closed, before.leftOver, []⟩ rfl whole with ⟨value, after, read, isBack, stillWhole, held⟩
  refine ⟨value, { before with
    trees := rest, leftOver := none, written := delimiter.wrap after.written.reverse :: before.written },
    ?_, rfl, rfl, held⟩
  simp [Parser.group, isTrees, read, isBack, stillWhole]

theorem bind {first : Parser α} {next : α → Parser β} (reads : Reads first trees middle met)
    (nextReads : ∀ value, met value → Reads (next value) middle back holds) : Reads (first >>= next) trees back holds := by
  intro before isTrees whole
  rcases reads before isTrees whole with ⟨value, between, begun, isMiddle, stillWhole, met⟩
  rw [bind_eq_of_ok begun]
  exact nextReads value met between isMiddle stillWhole

/-- Behind a question the parser goes on that is asked for. -/
theorem yes {look : Look} {accepted refused : Parser β} (seen : look trees = true) (reads : Reads accepted trees back holds) :
    Reads (do if ← Parser.sees look then accepted else refused) trees back holds := by
  refine bind (.sees look trees) fun answer same => ?_
  rw [same, seen]
  exact reads

theorem no {look : Look} {accepted refused : Parser β} (unseen : look trees = false)
    (reads : Reads refused trees back holds) : Reads (do if ← Parser.sees look then accepted else refused) trees back holds := by
  refine bind (.sees look trees) fun answer same => ?_
  rw [same, unseen]
  exact reads

theorem optionalWord_no {text : String} (unseen : Look.word text trees = false) :
    Reads (optionalWord text) trees trees (· = false) :=
  no unseen (pure rfl)

theorem optionalWord_yes (text : String) (place : Position) (rest : List Tree) :
    Reads (optionalWord text) (.word text place :: rest) rest (· = true) :=
  yes (by simp [Look.word]) (bind (.word text place rest) fun _ _ => pure rfl)

theorem optionalSign_no {text : String} (unseen : Look.sign text trees = false) :
    Reads (optionalSign text) trees trees (· = false) :=
  no unseen (pure rfl)

theorem optionalSign_yes {text : String} (seen : Look.sign text trees = true) :
    Reads (optionalSign text) trees (trees.drop text.length) (· = true) :=
  yes seen (bind (.sign seen) fun _ _ => pure rfl)

theorem optionalLifetime_no (unseen : Look.lifetime trees = false) : Reads optionalLifetime trees trees (· = false) :=
  no unseen (pure rfl)

theorem captured {parser : Parser β} (reads : Reads parser trees back holds) :
    Reads (captured parser) trees back fun found => holds found.1 := by
  intro before isTrees whole
  rcases reads { before with written := [] } isTrees whole with ⟨value, after, read, isBack, stillWhole, held⟩
  refine ⟨(value, after.written.reverse), { after with written := before.written }, ?_, isBack, stillWhole, held⟩
  simp [Parser.captured, read]

theorem unwritten {parser : Parser β} (reads : Reads parser trees back holds) : Reads (unwritten parser) trees back holds :=
  bind (.captured reads) fun _ held => pure held

theorem ahead {parser : Parser β} (reads : Reads parser trees back holds) :
    Reads (ahead parser) trees trees fun found => ∃ value, found = some value ∧ holds value := by
  intro before isTrees whole
  rcases reads before isTrees whole with ⟨value, after, read, -, -, held⟩
  refine ⟨some value, before, ?_, isTrees, whole, value, rfl, held⟩
  simp [Parser.ahead, read]

theorem attempt {parser : Parser β} (reads : Reads parser trees back holds) :
    Reads (attempt parser) trees back fun found => ∃ value, found = some value ∧ holds value := by
  intro before isTrees whole
  rcases reads before isTrees whole with ⟨value, after, read, isBack, stillWhole, held⟩
  refine ⟨some value, after, ?_, isBack, stillWhole, value, rfl, held⟩
  simp [Parser.attempt, read]

theorem attempt_of_fails {parser : Parser β} (fails : Fails parser trees) :
    Reads (Parser.attempt parser) trees trees (· = none) := by
  intro before isTrees whole
  rcases fails before isTrees whole with ⟨reason, failed⟩
  refine ⟨none, before, ?_, isTrees, whole, rfl⟩
  simp [Parser.attempt, failed]

end Reads

namespace Fails

variable {trees middle : List Tree} {met : α → Prop}

theorem word {text : String} (unseen : Look.word text trees = false) : Fails (Parser.word text) trees := by
  intro before isTrees _
  unfold Parser.word
  split
  · rename_i found place rest chars
    rw [← isTrees, chars] at unseen
    simp only [Look.word] at unseen
    rw [unseen]
    exact ⟨_, rfl⟩
  · exact ⟨_, rfl⟩

theorem bind {first : Parser α} {next : α → Parser β} (reads : Reads first trees middle met)
    (fails : ∀ value, met value → Fails (next value) middle) : Fails (first >>= next) trees := by
  intro before isTrees whole
  rcases reads before isTrees whole with ⟨value, between, begun, isMiddle, stillWhole, met⟩
  rw [bind_eq_of_ok begun]
  exact fails value met between isMiddle stillWhole

theorem behind {first : Parser α} (fails : Fails first trees) (next : α → Parser β) : Fails (first >>= next) trees := by
  intro before isTrees whole
  rcases fails before isTrees whole with ⟨reason, failed⟩
  exact ⟨reason, by simp [Bind.bind, StateT.bind, Except.bind, failed]⟩

theorem yes {look : Look} {accepted refused : Parser β} (seen : look trees = true) (fails : Fails accepted trees) :
    Fails (do if ← sees look then accepted else refused) trees := by
  refine bind (.sees look trees) fun answer same => ?_
  rw [same, seen]
  exact fails

theorem no {look : Look} {accepted refused : Parser β} (unseen : look trees = false) (fails : Fails refused trees) :
    Fails (do if ← sees look then accepted else refused) trees := by
  refine bind (.sees look trees) fun answer same => ?_
  rw [same, unseen]
  exact fails

theorem missing (rule : Rule) (trees : List Tree) : Fails (missing rule : Parser β) trees :=
  fun _ _ _ => ⟨_, rfl⟩

theorem group {body : Parser β} {inner : List Tree} (fails : Fails body inner) (delimiter : Delimiter)
    (opened closed : Position) (rest : List Tree) :
    Fails (group delimiter body) (.group delimiter inner opened closed :: rest) := by
  intro before isTrees whole
  obtain ⟨reason, failed⟩ := fails ⟨inner, closed, before.leftOver, []⟩ rfl whole
  exact ⟨reason, by simp [Parser.group, isTrees, failed]⟩

end Fails

section Lists

variable {trees middle back : List Tree} {met : β → Prop} {holds : List β → Prop}

/-- Repeated, a step reads from given trees up to others, however often more than there are trees it may be repeated. -/
def Collects (step : Parser (Option β)) (trees back : List Tree) (holds : List β → Prop) : Prop :=
  ∀ count, trees.length < count → Reads (collectWithin count step) trees back holds

namespace Collects

variable {step : Parser (Option β)}

theorem nil (stops : Reads step trees back (· = none)) : Collects step trees back (· = []) := by
  intro count enough
  rcases Nat.exists_eq_add_one_of_ne_zero (show count ≠ 0 by omega) with ⟨count, rfl⟩
  refine .bind stops fun found nothing => ?_
  rw [nothing]
  exact .pure rfl

theorem cons (first : Reads step trees middle fun found => ∃ value, found = some value ∧ met value)
    (shorter : middle.length < trees.length) (others : Collects step middle back holds) :
    Collects step trees back fun values => ∃ value others, values = value :: others ∧ met value ∧ holds others := by
  intro count enough
  rcases Nat.exists_eq_add_one_of_ne_zero (show count ≠ 0 by omega) with ⟨count, rfl⟩
  refine .bind first fun found something => ?_
  rcases something with ⟨value, rfl, isValue⟩
  exact .bind (others count (by omega)) fun rest held => .pure ⟨value, rest, rfl, isValue, held⟩

theorem reads (collects : Collects step trees back holds) : Reads (collecting step) trees back holds := by
  intro before isTrees whole
  rw [← isTrees] at collects
  exact collects _ (Nat.lt_succ_self _) before rfl whole

end Collects

def unlessStopped (stop : Look) (item : Parser β) : Parser (Option β) := do
  if ← Parser.sees stop then return none
  return some (← item)

theorem unlessStopped_stopped {stop : Look} (item : Parser β) (stopped : stop trees = true) :
    Reads (unlessStopped stop item) trees trees (· = none) :=
  .yes stopped (.pure rfl)

theorem unlessStopped_going {stop : Look} {item : Parser β} (going : stop trees = false)
    (reads : Reads item trees back met) :
    Reads (unlessStopped stop item) trees back fun found => ∃ value, found = some value ∧ met value :=
  .no going (.bind reads fun value isValue => .pure ⟨value, rfl, isValue⟩)

theorem Collects.further {item : Parser β} (first : Reads item trees middle met) (shorter : middle.length < trees.length)
    (others : Collects (unlessStopped Look.atEnd item) middle back holds) :
    Collects (unlessStopped Look.atEnd item) trees back fun values =>
      ∃ value others, values = value :: others ∧ met value ∧ holds others := by
  have going : Look.atEnd trees = false := by
    cases trees with
    | nil => contradiction
    | cons => rfl
  exact .cons (unlessStopped_going going first) shorter others

theorem Collects.ended (item : Parser β) : Collects (unlessStopped Look.atEnd item) [] [] (· = []) :=
  .nil (unlessStopped_stopped item rfl)

/-- Repeated, a step fails in the end, however often more than there are trees it may be repeated. -/
def FailsToCollect (step : Parser (Option β)) (trees : List Tree) : Prop :=
  ∀ count, trees.length < count → Fails (collectWithin count step) trees

namespace FailsToCollect

variable {step : Parser (Option β)}

theorem first (fails : Fails step trees) : FailsToCollect step trees := by
  intro count enough
  obtain ⟨count, rfl⟩ := Nat.exists_eq_add_one_of_ne_zero (show count ≠ 0 by omega)
  exact .behind fails _

theorem further (reads : Reads step trees middle fun found => ∃ value, found = some value ∧ met value)
    (shorter : middle.length < trees.length) (others : FailsToCollect step middle) : FailsToCollect step trees := by
  intro count enough
  obtain ⟨count, rfl⟩ := Nat.exists_eq_add_one_of_ne_zero (show count ≠ 0 by omega)
  refine .bind reads fun found something => ?_
  obtain ⟨value, rfl, -⟩ := something
  exact .behind (others count (by omega)) _

theorem fails (collects : FailsToCollect step trees) : Fails (collecting step) trees := by
  intro before isTrees whole
  rw [← isTrees] at collects
  exact collects _ (Nat.lt_succ_self _) before rfl whole

theorem of_item {item : Parser β} (nonempty : trees ≠ []) (fails : Fails item trees) :
    FailsToCollect (unlessStopped Look.atEnd item) trees := by
  have going : Look.atEnd trees = false := List.isEmpty_eq_false_iff.mpr nonempty
  exact .first (.no going (.behind fails _))

theorem of_others {item : Parser β} (reads : Reads item trees middle met) (shorter : middle.length < trees.length)
    (others : FailsToCollect (unlessStopped Look.atEnd item) middle) :
    FailsToCollect (unlessStopped Look.atEnd item) trees := by
  have going : Look.atEnd trees = false := List.isEmpty_eq_false_iff.mpr (List.length_pos_iff.mp (Nat.zero_lt_of_lt shorter))
  exact .further (unlessStopped_going going reads) shorter others

end FailsToCollect

/-- No value is read where the place to stop is reached. -/
theorem Reads.itemsUntil_nil {stop : Look} (item : Parser β) (stopped : stop trees = true) :
    Reads (itemsUntil stop item) trees trees (· = []) :=
  (Collects.nil (unlessStopped_stopped item stopped)).reads

theorem Reads.itemsWhile_nil {goOn : Look} (item : Parser β) (stopped : goOn trees = false) :
    Reads (itemsWhile goOn item) trees trees (· = []) :=
  .itemsUntil_nil item (by simp [stopped])

/-- A list with separators is read from given trees up to others, however many more pieces than trees there may be. -/
def ReadsPieces (separation : Separation) (item : Parser β) (trees back : List Tree) (holds : List (Piece β) → Prop) : Prop :=
  ∀ count, trees.length < count → Reads (piecesWithin separation item count) trees back holds

namespace ReadsPieces

variable {separation : Separation} {item : Parser β} {holds : List (Piece β) → Prop}

theorem nil (item : Parser β) (stopped : separation.stop trees = true) :
    ReadsPieces separation item trees trees (· = []) := by
  intro count enough
  rcases Nat.exists_eq_add_one_of_ne_zero (show count ≠ 0 by omega) with ⟨count, rfl⟩
  exact .yes stopped (.pure rfl)

theorem last (going : separation.stop trees = false) (reads : Reads item trees back met)
    (ends : separation.goesOn back = false) :
    ReadsPieces separation item trees back fun found =>
      ∃ piece, found = [piece] ∧ met piece.value ∧ piece.separated = false := by
  intro count enough
  rcases Nat.exists_eq_add_one_of_ne_zero (show count ≠ 0 by omega) with ⟨count, rfl⟩
  refine .no going (.bind (.captured reads) fun found isValue => ?_)
  exact .no ends (.pure ⟨⟨found.1, found.2, false⟩, rfl, isValue, rfl⟩)

theorem cons {joint : Bool} {place : Position} {rest : List Tree} (commas : separation.separator = ",")
    (going : separation.stop trees = false) (reads : Reads item trees (.sign ',' joint place :: rest) met)
    (goesOn : separation.goesOn (.sign ',' joint place :: rest) = true) (shorter : rest.length < trees.length)
    (others : ReadsPieces separation item rest back holds) :
    ReadsPieces separation item trees back fun found =>
      ∃ piece others, found = piece :: others ∧ met piece.value ∧ holds others := by
  intro count enough
  rcases Nat.exists_eq_add_one_of_ne_zero (show count ≠ 0 by omega) with ⟨count, rfl⟩
  have comma : Reads (Parser.sign separation.separator) (.sign ',' joint place :: rest) rest fun _ => True := by
    rw [commas]
    exact .sign rfl
  refine .no going (.bind (.captured reads) fun found isValue => ?_)
  refine .yes goesOn (.bind (.unwritten comma) fun _ _ => ?_)
  exact .bind (others count (by omega)) fun rest held =>
    .pure ⟨⟨found.1, found.2, true⟩, rest, rfl, isValue, held⟩

theorem reads (read : ReadsPieces separation item trees back holds) : Reads (pieces separation item) trees back holds := by
  intro before isTrees whole
  rw [← isTrees] at read
  exact read _ (Nat.lt_succ_self _) before rfl whole

theorem separated {more : List β → Prop} (read : ReadsPieces separation item trees back holds)
    (implies : ∀ found, holds found → more (found.map (·.value))) : Reads (separated separation item) trees back more :=
  .bind read.reads fun found held => .bind (.writeAll _ _) fun _ _ => .pure (implies found held)

end ReadsPieces

end Lists

/-- What is read up to the end of a text is what reading the text gives. -/
theorem parseAll_of_reads {parser : Grammar → Parser α} {trees : List Tree} {holds : α → Prop}
    (reads : Reads (parser (grammar (enoughDepth trees))) trees [] holds) :
    ∃ value words, parseAll parser trees = .ok (value, words) ∧ holds value := by
  rcases reads (.ofTrees trees) rfl rfl with ⟨value, after, read, isBack, stillWhole, held⟩
  refine ⟨value, after.written.reverse, ?_, held⟩
  simp only [parseAll, read, isBack, stillWhole]

theorem parseAll_of_fails {parser : Grammar → Parser α} {trees : List Tree}
    (fails : Fails (parser (grammar (enoughDepth trees))) trees) : ∃ reason, parseAll parser trees = .error reason := by
  rcases fails (.ofTrees trees) rfl rfl with ⟨reason, failed⟩
  exact ⟨reason, by simp only [parseAll, failed]⟩

end Companion.Syntax
