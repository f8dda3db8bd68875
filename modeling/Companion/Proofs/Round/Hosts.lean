import Companion.Proofs.Source.Lookup

/-!
What a round reads of a source: of each declaration its name, namespace, kind and fields, and neither its number nor
its location. A source from memory that was told these of another source therefore leads to the same round.
-/

set_option autoImplicit false

namespace Companion

/-- Whether declarations of two sources agree in all that a round reads of them. -/
structure Twins (source other : Source) (declaration twin : Declaration) : Prop where
  name : twin.name = declaration.name
  space : twin.space = declaration.space
  kind : twin.kind = declaration.kind
  fields : other.fieldsOf twin = source.fieldsOf declaration

variable {source other : Source} {settings : Settings}

namespace Twins

variable {declaration twin : Declaration}

theorem qualifiedName (twins : Twins source other declaration twin) :
    twin.qualifiedName = declaration.qualifiedName := by
  rw [Declaration.qualifiedName, Declaration.qualifiedName, twins.name, twins.space]

theorem companion (twins : Twins source other declaration twin) :
    other.companion twin = source.companion declaration := by
  rw [Source.companion, Source.companion, Source.metadata, Source.metadata, twins.name, twins.space, twins.fields]

theorem rejection (twins : Twins source other declaration twin) : twin.rejection = declaration.rejection := by
  rw [Declaration.rejection, Declaration.rejection, twins.qualifiedName, twins.kind]

theorem announce (twins : Twins source other declaration twin) (work : Workspace) :
    other.announce work twin = source.announce work declaration := by
  have readEvent : other.readEvent twin = source.readEvent declaration := by
    rw [Source.readEvent, Source.readEvent, twins.qualifiedName, twins.fields]
  simp only [Source.announce, readEvent, twins.companion]

theorem result (twins : Twins source other declaration twin) (files : FileSystem) :
    (Attempt.mk twin files).result settings other = (Attempt.mk declaration files).result settings source := by
  simp only [Attempt.result, twins.companion]

theorem written? (twins : Twins source other declaration twin) (files : FileSystem) :
    (Attempt.mk twin files).written? settings other = (Attempt.mk declaration files).written? settings source := by
  unfold Attempt.written?
  rw [twins.result]

theorem failure? (twins : Twins source other declaration twin) (files : FileSystem) :
    (Attempt.mk twin files).failure? settings other = (Attempt.mk declaration files).failure? settings source := by
  unfold Attempt.failure?
  rw [twins.result, twins.qualifiedName]

theorem attempted (twins : Twins source other declaration twin) (work : Workspace) :
    other.attempted settings work twin = source.attempted settings work declaration := by
  unfold Source.attempted Source.tried Source.attemptOf Attempt.event
  rw [twins.announce, twins.result, twins.qualifiedName]

/-- The loop goes the same way over declarations that agree: each attempt has the same outcome, and so has the loop. -/
theorem attempts (settings : Settings) {declarations mirrored : List Declaration}
    (twins : List.Forall₂ (Twins source other) declarations mirrored) (work : Workspace) :
    let made := Companion.attempts settings source work declarations
    let repeated := Companion.attempts settings other work mirrored
    repeated.1 = made.1 ∧
      repeated.2.filterMap (Attempt.written? settings other) = made.2.filterMap (Attempt.written? settings source) ∧
      repeated.2.filterMap (Attempt.failure? settings other) = made.2.filterMap (Attempt.failure? settings source) := by
  induction twins generalizing work with
  | nil => simp [Companion.attempts]
  | @cons declaration twin others further same _ ih =>
      simp only [Companion.attempts, same.kind]
      split
      · obtain ⟨behind, written, failures⟩ := ih (source.attempted settings work declaration)
        rw [same.attempted]
        refine ⟨behind, ?_, ?_⟩
        · simp only [List.filterMap_cons, Source.attemptOf, same.announce, same.written?, written]
        · simp only [List.filterMap_cons, Source.attemptOf, same.announce, same.failure?, failures]
      · rw [same.rejection]
        exact ih (work.log declaration.rejection)

/-- What is rejected is rejected under the same names. -/
theorem misplaced {declarations mirrored : List Declaration}
    (twins : List.Forall₂ (Twins source other) declarations mirrored) :
    List.Forall₂ (Twins source other) (declarations.filter fun found => !found.kind.isClassLike)
      (mirrored.filter fun found => !found.kind.isClassLike) := by
  induction twins with
  | nil => exact .nil
  | @cons declaration twin others further same _ ih =>
      simp only [List.filter_cons, same.kind]
      split
      · exact .cons same ih
      · exact ih

/-- What depends on name, namespace and kind only is the same, one declaration after another. -/
theorem map_eq {α : Type} {f : Declaration → α} {declarations mirrored : List Declaration}
    (twins : List.Forall₂ (Twins source other) declarations mirrored)
    (same : ∀ declaration twin, Twins source other declaration twin → f twin = f declaration) :
    mirrored.map f = declarations.map f := by
  induction twins with
  | nil => rfl
  | cons head _ ih => rw [List.map_cons, List.map_cons, same _ _ head, ih]

end Twins

def Diagnostic.unplaced (diagnostic : Diagnostic) : Diagnostic :=
  { diagnostic with location := none }

/-- Rounds over sources whose declarations agree have the same report and leave the same workspace, and what they report
to the sources differs at most in locations. -/
theorem Driver.run_of_twins (states : DriverState × DriverState) (work : Workspace)
    (twins : List.Forall₂ (Twins source other) (source.declarationsWith settings.marker)
      (other.declarationsWith settings.marker)) :
    let round := (Driver.mk settings states.1).run source work
    let repeated := (Driver.mk settings states.2).run other work
    repeated.report = round.report ∧ repeated.work = round.work ∧
      ∃ added further, round.source.diagnostics = source.diagnostics ++ added ∧
        repeated.source.diagnostics = other.diagnostics ++ further ∧
        further.map Diagnostic.unplaced = added.map Diagnostic.unplaced := by
  have noneOrNone : source.declarationsWith settings.marker = [] ↔ other.declarationsWith settings.marker = [] := by
    rw [← List.length_eq_zero_iff, ← List.length_eq_zero_iff, twins.length_eq]
  by_cases nothing : source.declarationsWith settings.marker = []
  · have isNothing : other.declarationsWith settings.marker = [] := noneOrNone.mp nothing
    have first : (Driver.mk settings states.1).run source work = _ := run_of_nothing nothing
    have second : (Driver.mk settings states.2).run other work = _ := run_of_nothing isNothing
    dsimp only
    rw [first, second]
    exact ⟨rfl, rfl, [], [], by simp, by simp, rfl⟩
  · have begun : other.begun settings work = source.begun settings work := by
      rw [Source.begun, Source.begun, twins.length_eq]
    obtain ⟨behind, written, failures⟩ := Twins.attempts settings twins (source.begun settings work)
    have rejected := Twins.misplaced twins
    have names := Twins.map_eq rejected fun _ _ twins => twins.qualifiedName
    have unplaced := Twins.map_eq (f := fun found => (Diagnostic.against found onlyClassesMessage).unplaced) rejected
      fun _ _ twins => by simp only [Diagnostic.against, Diagnostic.unplaced, twins.qualifiedName]
    have report : Round.reportBehind settings other .begun (other.declarationsWith settings.marker)
          (other.attempts settings work) =
        Round.reportBehind settings source .begun (source.declarationsWith settings.marker)
          (source.attempts settings work) := by
      unfold Round.reportBehind Source.attempts
      rw [begun, written, failures, names]
    dsimp only
    rw [run_eq_of_some ⟨settings, states.1⟩ work nothing,
      run_eq_of_some ⟨settings, states.2⟩ work (mt noneOrNone.mpr nothing)]
    refine ⟨report, ?_, _, _, rfl, rfl, ?_⟩
    · dsimp only
      rw [begun, behind, report]
    · rw [List.map_map, List.map_map]
      exact unplaced

namespace Source

def callOf (source : Source) (tag : String) (declaration : Declaration) : Call :=
  ⟨tag, declaration.space, declaration.name, declaration.kind, source.fieldsOf declaration⟩

/-- The source from memory that was told of the declarations with a tag, in the order in which they were found. -/
def mirror (source : Source) (tag : String) : Source :=
  ofCalls ((source.declarationsWith tag).map (source.callOf tag))

variable (source : Source) (tag : String)

theorem entries_mirror :
    (source.mirror tag).entries =
      numberedFrom 0 ((source.declarationsWith tag).map fun found => (source.callOf tag found).finding) := by
  rw [mirror, entries_ofCalls, List.map_map]
  rfl

theorem diagnostics_ofCalls (calls : List Call) : (ofCalls calls).diagnostics = [] := by
  have kept : ∀ start : Source, (calls.foldl declareCall start).diagnostics = start.diagnostics := by
    induction calls with
    | nil => exact fun _ => rfl
    | cons call others ih => exact fun start => ih (start.declareCall call)
  exact kept empty

/-- All that a mirror was told of is found under the tag, numbered from zero and without location. -/
theorem declarationsWith_mirror :
    (source.mirror tag).declarationsWith tag = (source.declarationsWith tag).mapIdx fun index found =>
      ⟨index, found.name, found.space, found.kind, none⟩ := by
  have tagged : ∀ entry ∈ (source.mirror tag).entries, (entry.annotations.contains tag) = true := by
    intro entry member
    rw [entries_mirror, numberedFrom] at member
    obtain ⟨index, bound, rfl⟩ := List.mem_mapIdx.mp member
    simp [callOf, Call.finding]
  rw [declarationsWith, List.filter_eq_self.mpr tagged, entries_mirror, numberedFrom]
  refine List.ext_getElem (by simp) fun index _ _ => ?_
  simp [callOf, Call.finding]

theorem fieldsOf_mirror {index : Nat} {declaration : Declaration}
    (here : (source.declarationsWith tag)[index]? = some declaration) (twin : Declaration) (numbered : twin.id = index) :
    (source.mirror tag).fieldsOf twin = source.fieldsOf declaration := by
  rw [fieldsOf, entries_mirror, numberedFrom, numbered]
  simp [here, callOf, Call.finding, entryAt]

/-- A mirror agrees with its source in all that a round reads. -/
theorem twins_mirror :
    List.Forall₂ (Twins source (source.mirror tag)) (source.declarationsWith tag)
      ((source.mirror tag).declarationsWith tag) := by
  rw [List.forall₂_iff_get, declarationsWith_mirror]
  refine ⟨by simp, fun index bound _ => ?_⟩
  have here : (source.declarationsWith tag)[index]? = some (source.declarationsWith tag)[index] :=
    List.getElem?_eq_getElem bound
  simp only [List.get_eq_getElem, List.getElem_mapIdx]
  exact ⟨rfl, rfl, rfl, source.fieldsOf_mirror tag here _ rfl⟩

/-- Where an element that a test keeps stood, and how many of those in front of it the test kept. -/
private theorem exists_countP_of_getElem?_filter {α : Type} {test : α → Bool} {all : List α} {index : Nat} {one : α}
    (here : (all.filter test)[index]? = some one) :
    ∃ place, all[place]? = some one ∧ (all.take place).countP test = index := by
  induction all generalizing index with
  | nil => simp at here
  | cons first others ih =>
      rw [List.filter_cons] at here
      split at here
      · rename_i kept
        cases index with
        | zero => exact ⟨0, by simpa using here, rfl⟩
        | succ index =>
            obtain ⟨place, there, count⟩ := ih (by simpa using here)
            exact ⟨place + 1, by simpa using there, by simp [kept, count]⟩
      · rename_i dropped
        obtain ⟨place, there, count⟩ := ih here
        exact ⟨place + 1, by simpa using there, by simp [dropped, count]⟩

/-- In a numbered source, the number of a tagged declaration is greater than its position among these by the number of
entries in front that do not carry the tag. -/
theorem Numbered.id_eq {source : Source} (numbered : source.Numbered) {tag : String} {index : Nat}
    {declaration : Declaration} (here : (source.declarationsWith tag)[index]? = some declaration) :
    declaration.id = index + (source.entries.take declaration.id).countP fun entry => !entry.annotations.contains tag := by
  rw [declarationsWith, List.getElem?_map] at here
  obtain ⟨entry, filtered, rfl⟩ := Option.map_eq_some_iff.mp here
  obtain ⟨place, there, count⟩ := exists_countP_of_getElem?_filter filtered
  rw [numbered place entry there, ← count]
  have whole := List.length_eq_countP_add_countP (l := source.entries.take place)
    fun entry => entry.annotations.contains tag
  have bound := (List.getElem?_eq_some_iff.mp there).1
  rw [List.length_take, Nat.min_eq_left (Nat.le_of_lt bound)] at whole
  simpa using whole

/-- Whatever was done with a source of texts, a round over it and a round over its mirror have the same report and leave
the same workspace, and what they report to the sources differs at most in locations. The mirror has the same
declarations in the same order, under numbers that do not count the entries without the tag. -/
theorem run_mirror (operations : List Operation) (settings : Settings) (states : DriverState × DriverState)
    (work : Workspace) :
    let source := perform operations
    let mirror := source.mirror settings.marker
    let round := (Driver.mk settings states.1).run source work
    let mirrored := (Driver.mk settings states.2).run mirror work
    mirrored.report = round.report ∧ mirrored.work = round.work ∧
      (∃ added, round.source.diagnostics = source.diagnostics ++ added ∧
        mirrored.source.diagnostics.map Diagnostic.unplaced = added.map Diagnostic.unplaced) ∧
      (mirror.declarationsWith settings.marker).length = (source.declarationsWith settings.marker).length ∧
      ∀ index declaration, (source.declarationsWith settings.marker)[index]? = some declaration →
        ∃ twin, (mirror.declarationsWith settings.marker)[index]? = some twin ∧
          twin = ⟨index, declaration.name, declaration.space, declaration.kind, none⟩ ∧
          mirror.fieldsOf twin = source.fieldsOf declaration ∧
          declaration.id = twin.id +
            (source.entries.take declaration.id).countP fun entry => !entry.annotations.contains settings.marker := by
  intro source mirror round mirrored
  have numbered : source.Numbered := numbered_of_entries (entries_perform operations)
  have twins := source.twins_mirror settings.marker
  obtain ⟨report, same, added, further, grown, mirroredGrown, alike⟩ := Driver.run_of_twins states work twins
  refine ⟨report, same, ⟨added, grown, ?_⟩, twins.length_eq.symm, fun index declaration here => ?_⟩
  · have fresh : mirror.diagnostics = [] := diagnostics_ofCalls _
    rw [mirroredGrown, fresh, List.nil_append, alike]
  · refine ⟨_, ?_, rfl, source.fieldsOf_mirror settings.marker here _ rfl, numbered.id_eq here⟩
    rw [declarationsWith_mirror, List.getElem?_mapIdx, here]
    rfl

end Source

end Companion
