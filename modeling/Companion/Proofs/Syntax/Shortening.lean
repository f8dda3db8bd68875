import Companion.Syntax.File

/-!
Parsers read from the front. What a parser leaves of a group is an end of what was left before; this holds of each
primitive parser, is kept by everything that puts parsers together, and so holds of all rules outside of statements.
Inside a group a parser can read what it likes, since the group is taken as a whole.
-/

set_option autoImplicit false

namespace Companion.Syntax

open Companion.Syntax.Parser

variable {α β : Type}

theorem ok_of_toOption {ε : Type} {result : Except ε α} {value : α} (isValue : result.toOption = some value) :
    result = .ok value := by
  cases result with
  | error => contradiction
  | ok => exact congrArg Except.ok (Option.some.inj isValue)

/-- Two parsers succeed together if the second one does where the first one leaves off. -/
theorem bind_ok {first : Parser α} {next : α → Parser β} {before after : Stream} {result : β}
    (read : (first >>= next) before = .ok (result, after)) :
    ∃ value middle, first before = .ok (value, middle) ∧ next value middle = .ok (result, after) := by
  cases begun : first before with
  | error reason => simp [Bind.bind, StateT.bind, Except.bind, begun] at read
  | ok found =>
      exact ⟨found.1, found.2, rfl, by simpa [Bind.bind, StateT.bind, Except.bind, begun] using read⟩

/-- Of two parsers the one runs that a look asks for. -/
theorem choose_ok {look : Look} {yes no : Parser α} {before after : Stream} {result : α}
    (read : (do if ← Parser.sees look then yes else no : Parser α) before = .ok (result, after)) :
    (look before.trees = true ∧ yes before = .ok (result, after)) ∨
      (look before.trees = false ∧ no before = .ok (result, after)) := by
  obtain ⟨_, _, ⟨⟩, chosen⟩ := bind_ok read
  cases seen : look before.trees with
  | true => exact .inl ⟨rfl, by simpa [seen] using chosen⟩
  | false => exact .inr ⟨rfl, by simpa [seen] using chosen⟩

theorem skip_ok {look : Look} {yes no : Parser α} {before after : Stream} {result : α}
    (read : (do if ← Parser.sees look then yes else no : Parser α) before = .ok (result, after))
    (unseen : look before.trees = false) : no before = .ok (result, after) := by
  obtain ⟨seen, _⟩ | ⟨_, other⟩ := choose_ok read
  · rw [unseen] at seen
    contradiction
  · exact other

/-- What is left behind a parser is an end of what was left in front of it. -/
def Shortens (parser : Parser α) : Prop :=
  ∀ before value after, parser before = .ok (value, after) → after.trees <:+ before.trees

namespace Shortens

theorem of_kept {parser : Parser α}
    (kept : ∀ before value after, parser before = .ok (value, after) → after.trees = before.trees) :
    Shortens parser := fun before value after read =>
  kept before value after read ▸ List.suffix_refl _

theorem of_fails {parser : Parser α} (fails : ∀ stream, ∃ reason, parser stream = .error reason) :
    Shortens parser := fun before _ _ read => by
  obtain ⟨reason, failed⟩ := fails before
  simp [failed] at read

@[grind ←] theorem sees (look : Look) : Shortens (sees look) :=
  of_kept fun _ _ _ read => by cases read; rfl

@[grind ←] theorem place : Shortens place :=
  of_kept fun _ _ _ read => by cases read; rfl

@[grind ←] theorem write (word : String) : Shortens (write word) :=
  of_kept fun _ _ _ read => by cases read; rfl

@[grind ←] theorem writeAll (words : List String) : Shortens (writeAll words) :=
  of_kept fun _ _ _ read => by cases read; rfl

@[grind ←] theorem keepSince (earlier : Stream) : Shortens (keepSince earlier) :=
  of_kept fun _ _ _ read => by cases read; rfl

@[grind ←] theorem get : Shortens (get : Parser Stream) :=
  of_kept fun _ _ _ read => by cases read; rfl

@[grind ←] theorem complain (place : Position) (complaint : Complaint) :
    Shortens (complain (α := α) place complaint) :=
  of_fails fun _ => ⟨_, rfl⟩

@[grind ←] theorem noneOf (names : List String) : Shortens (noneOf (α := α) names) :=
  of_fails fun _ => ⟨_, rfl⟩

@[grind ←] theorem expectedOneOf (alternatives : List Alternative) : Shortens (expectedOneOf (α := α) alternatives) :=
  of_fails fun _ => ⟨_, rfl⟩

@[grind ←] theorem missing (rule : Rule) : Shortens (missing (α := α) rule) :=
  of_fails fun _ => ⟨_, rfl⟩

@[grind ←] theorem broken (place : Position) (rule : Rule) : Shortens (broken (α := α) place rule) :=
  of_fails fun _ => ⟨_, rfl⟩

@[grind ←] theorem word (text : String) : Shortens (word text) := fun _ _ _ read => by
  unfold Parser.word Parser.noneOf at read
  grind

@[grind ←] theorem anyWord : Shortens anyWord := fun _ _ _ read => by
  unfold Parser.anyWord Parser.missing at read
  grind

@[grind ←] theorem identifier : Shortens identifier := fun _ _ _ read => by
  unfold Parser.identifier Parser.noneOf at read
  grind

@[grind ←] theorem sign (text : String) : Shortens (sign text) := fun _ _ _ read => by
  unfold Parser.sign at read
  split at read
  · cases read
    exact List.drop_suffix _ _
  · contradiction

@[grind ←] theorem lifetime : Shortens Parser.lifetime := fun _ _ _ read => by
  unfold Parser.lifetime Parser.noneOf at read
  grind

@[grind ←] theorem literal : Shortens literal := fun _ _ _ read => by
  unfold Parser.literal Parser.noneOf at read
  grind [List.suffix_cons_iff]

@[grind ←] theorem stringLiteral : Shortens stringLiteral := fun _ _ _ read => by
  unfold Parser.stringLiteral Parser.noneOf at read
  split at read
  · exact literal _ _ _ read
  · contradiction

@[grind ←] theorem underscore : Shortens underscore := fun _ _ _ read => by
  unfold Parser.underscore Parser.noneOf at read
  split at read
  · exact word "_" _ _ _ read
  · contradiction

@[grind ←] theorem rawGroup : Shortens rawGroup := fun _ _ _ read => by
  unfold Parser.rawGroup Parser.missing at read
  grind

/-- A group is taken as a whole, whatever reads its body. -/
@[grind ←] theorem group (delimiter : Delimiter) (body : Parser α) : Shortens (group delimiter body) :=
    fun _ _ _ read => by
  unfold Parser.group Parser.noneOf at read
  grind

@[grind ←] theorem remainder : Shortens remainder := fun _ _ _ read => by
  cases read
  exact List.nil_suffix

@[grind ←] theorem pure (value : α) : Shortens (pure value : Parser α) :=
  of_kept fun _ _ _ read => by cases read; rfl

/-- The second of two parsers need only shorten behind what the first one gives. -/
@[grind ←] theorem bind {first : Parser α} {next : α → Parser β} (shortens : Shortens first)
    (nextShortens : ∀ before value after, first before = .ok (value, after) → Shortens (next value)) :
    Shortens (first >>= next) := fun before result after read => by
  obtain ⟨value, middle, begun, rest⟩ := bind_ok read
  exact (nextShortens _ _ _ begun _ _ _ rest).trans (shortens _ _ _ begun)

@[grind ←] theorem broken_bind (place : Position) (rule : Rule) (next : α → Parser β) :
    Shortens (Parser.broken place rule >>= next) :=
  of_fails fun _ => ⟨_, rfl⟩

@[grind ←] theorem expectedOneOf_bind (alternatives : List Alternative) (next : α → Parser β) :
    Shortens (Parser.expectedOneOf alternatives >>= next) :=
  of_fails fun _ => ⟨_, rfl⟩

theorem choose {look : Look} {yes no : Parser α} (shortens : Shortens yes) (otherShortens : Shortens no) :
    Shortens (do if ← Parser.sees look then yes else no) := by
  grind

theorem behind {first : Parser α} {next : α → Parser β} (shortens : Shortens first)
    (nextShortens : ∀ value, Shortens (next value)) : Shortens (first >>= next) :=
  bind shortens fun _ value _ _ => nextShortens value

@[grind ←] theorem map {parser : Parser α} (f : α → β) (shortens : Shortens parser) : Shortens (f <$> parser) :=
    fun before result after read => by
  cases begun : parser before with
  | error reason => simp [Functor.map, StateT.map, Bind.bind, Except.bind, begun] at read
  | ok middle =>
      have rest : middle.2 = after := by
        have same : (Except.ok (f middle.1, middle.2) : Except SyntaxError (β × Stream)) = .ok (result, after) := by
          simpa [Functor.map, StateT.map, Bind.bind, Except.bind, Pure.pure, Except.pure, begun] using read
        exact congrArg Prod.snd (Except.ok.inj same)
      rw [← rest]
      exact shortens _ _ _ begun

@[grind ←] theorem captured {parser : Parser α} (shortens : Shortens parser) : Shortens (captured parser) :=
    fun before result after read => by
  unfold Parser.captured at read
  split at read
  · rename_i begun
    have inside := shortens _ _ _ begun
    cases read
    exact inside
  · contradiction

@[grind ←] theorem ahead (parser : Parser α) : Shortens (ahead parser) :=
  of_kept fun _ _ _ read => by
    unfold Parser.ahead at read
    split at read <;> cases read <;> rfl

@[grind ←] theorem attempt {parser : Parser α} (shortens : Shortens parser) : Shortens (attempt parser) :=
    fun before result after read => by
  unfold Parser.attempt at read
  split at read
  · rename_i begun
    cases read
    exact shortens _ _ _ begun
  · cases read
    exact List.suffix_refl _

@[grind ←] theorem unwritten {parser : Parser α} (shortens : Shortens parser) : Shortens (unwritten parser) := by
  unfold Parser.unwritten
  grind

@[grind ←] theorem optionalWord (text : String) : Shortens (optionalWord text) := by
  unfold Parser.optionalWord
  grind

@[grind ←] theorem optionalSign (text : String) : Shortens (optionalSign text) := by
  unfold Parser.optionalSign
  grind

@[grind ←] theorem optionalLifetime : Shortens optionalLifetime := by
  unfold Parser.optionalLifetime
  grind

@[grind ←] theorem forIn {items : List α} {begun : β} {step : α → β → Parser (ForInStep β)}
    (shortens : ∀ item value, Shortens (step item value)) : Shortens (forIn items begun step) := by
  induction items generalizing begun with
  | nil =>
      rw [List.forIn_nil]
      exact pure begun
  | cons item others ih =>
      rw [List.forIn_cons]
      refine behind (shortens item begun) fun result => ?_
      cases result with
      | done value => exact pure value
      | yield value => exact ih

theorem collectWithin (count : Nat) {step : Parser (Option α)} (shortens : Shortens step) :
    Shortens (collectWithin count step) := by
  induction count with
  | zero => exact pure []
  | succ count ih =>
      unfold Parser.collectWithin
      grind

@[grind ←] theorem collecting {step : Parser (Option α)} (shortens : Shortens step) : Shortens (collecting step) :=
  fun _ _ _ read => collectWithin _ shortens _ _ _ read

theorem chainWithin {item : Parser α} {next : Parser Bool} (shortens : Shortens item) (nextShortens : Shortens next)
    (count : Nat) : Shortens (chainWithin item next count) := by
  induction count with
  | zero => exact pure []
  | succ count ih =>
      unfold Parser.chainWithin
      grind

@[grind ←] theorem chain {item : Parser α} {next : Parser Bool} (shortens : Shortens item)
    (nextShortens : Shortens next) : Shortens (chain item next) :=
  fun _ _ _ read => chainWithin shortens nextShortens _ _ _ _ read

@[grind ←] theorem itemsUntil (stop : Look) {item : Parser α} (shortens : Shortens item) :
    Shortens (itemsUntil stop item) := by
  unfold Parser.itemsUntil
  grind

@[grind ←] theorem itemsWhile (goOn : Look) {item : Parser α} (shortens : Shortens item) :
    Shortens (itemsWhile goOn item) :=
  itemsUntil _ shortens

theorem piecesWithin (separation : Separation) {item : Parser α} (shortens : Shortens item) (count : Nat) :
    Shortens (piecesWithin separation item count) := by
  induction count with
  | zero => exact pure []
  | succ count ih =>
      unfold Parser.piecesWithin
      grind

@[grind ←] theorem pieces (separation : Separation) {item : Parser α} (shortens : Shortens item) :
    Shortens (pieces separation item) :=
  fun _ _ _ read => piecesWithin separation shortens _ _ _ _ read

@[grind ←] theorem separated (separation : Separation) {item : Parser α} (shortens : Shortens item) :
    Shortens (separated separation item) := by
  unfold Parser.separated
  grind

end Shortens

end Companion.Syntax
