import Companion.Proofs.Source.Findings
import Companion.Source.Text

/-!
Loading that works on a source in place. It pushes one declaration after another while it visits the items of a text, and
writes to the log on the way; a file is recorded behind its declarations. This comes to the same as adding all that is found
at once, and a text or a file with which it fails leaves the source and the log as they were.
-/

set_option autoImplicit false

namespace Companion.Source

open Companion.Index (annotationNames plainName memberName kindOf locationIn)

/-- Work on a source and on what is around it. An error ends it, and what was done up to there stays. -/
abbrev Editing := ExceptT SourceError (StateM (Source × Workspace))

namespace Editing

def push (found : Finding) : Editing Unit :=
  modify fun (source, work) => (source.add found, work)

def note (event : Log.Event) : Editing Unit :=
  modify fun (source, work) => (source, work.log event)

def record (path : FilePath) : Editing Unit :=
  modify fun (source, work) => ({ source with files := source.files ++ [path] }, work)

/-- Pushes a declaration if it has an attribute that counts, with some work in front of that. -/
def declare (file : Option FilePath) (space : Namespace) (head : Syntax.ItemHead) (name : String)
    (kind : DeclarationKind) (fields : List Field) (before : Editing Unit) : Editing Unit :=
  let annotations := annotationNames head.attributes
  if annotations.isEmpty then pure ()
  else do
    before
    push ⟨annotations, name, space, kind, locationIn file head.place, fields⟩

def visitMembers (file : Option FilePath) (owner : Namespace) : List Syntax.Member → Nat → Editing Unit
  | [], _ => pure ()
  | member :: members, position => do
      declare file owner ⟨member.attributes, member.place⟩ (memberName member position) .field [] (pure ())
      visitMembers file owner members (position + 1)

mutual

def visitItem (file : Option FilePath) (space : Namespace) : Syntax.Item → Editing Unit
  | .record head name isGeneric members => do
      visitMembers file (space.child (plainName name)) members 0
      declare file space head (plainName name) .classLike (Index.fieldsOf members)
        (if isGeneric then note (.genericsDropped name) else pure ())
  | .named head kind name => declare file space head (plainName name) (kindOf kind) [] (pure ())
  | .implementation head target => declare file space head target .implementation [] (pure ())
  | .module head name content => do
      visitItems file (space.child (plainName name)) content
      declare file space head (plainName name) .module [] (pure ())
  | .other => pure ()

def visitItems (file : Option FilePath) (space : Namespace) : List Syntax.Item → Editing Unit
  | [] => pure ()
  | item :: items => do
      visitItem file space item
      visitItems file space items

end

/-- Adds the declarations of a text, and notes by how many entries the source has grown. -/
def addText (text : String) (space : Namespace) (file : Option FilePath) : Editing Unit :=
  match Syntax.readFile text with
  | .error error => throw (.ofSyntax (file.getD .empty) error)
  | .ok items => do
      let (before, _) ← get
      visitItems file space items
      let (after, _) ← get
      note (textEvent space file (after.entries.length - before.entries.length))

def addFile (path : FilePath) (space : Namespace) : Editing Unit := do
  let (_, work) ← get
  match work.files.readText path with
  | .error cause => throw (.unreadable path cause)
  | .ok text => do
      addText text space (some path)
      record path

def addFiles (root : FilePath) : List FilePath → Editing Unit
  | [] => pure ()
  | path :: paths => do
      addFile path (.ofFile root path)
      addFiles root paths

def addDirectory (root : FilePath) : Editing Unit := do
  let (_, work) ← get
  if work.files.isDirectory root then
    addFiles root (rustFiles work.files root)
    match (work.files.walk root).error with
    | some cause => throw (.unwalkable cause)
    | none => pure ()
  else throw (.notDirectory root)

/-- Whether work goes through, adds declarations at the end and writes events to the log. -/
def Does (editing : Editing Unit) (found : List Finding) (events : List Log.Event) : Prop :=
  ∀ source work, editing.run.run (source, work) = (.ok (), source.addAll found, work.logAll events)

theorem does_pure : Does (pure ()) [] [] := fun _ _ => rfl

theorem does_push (found : Finding) : Does (push found) [found] [] := fun _ _ => rfl

theorem does_note (event : Log.Event) : Does (note event) [] [event] := fun _ _ => rfl

theorem run_bind {α β : Type} (first : Editing α) (next : α → Editing β) (state : Source × Workspace) :
    (first >>= next).run.run state =
      match first.run.run state with
      | (.ok value, after) => (next value).run.run after
      | (.error reason, after) => (.error reason, after) := by
  rw [ExceptT.run_bind, StateT.run_bind]
  rcases first.run.run state with ⟨_ | _, after⟩ <;> rfl

theorem run_get_bind {α : Type} (next : Source × Workspace → Editing α) (state : Source × Workspace) :
    (get >>= next).run.run state = (next state).run.run state := rfl

variable {first second : Editing Unit} {found others : List Finding} {events later : List Log.Event}

theorem Does.seq (does : Does first found events) (doesNext : Does second others later) :
    Does (do first; second) (found ++ others) (events ++ later) := by
  intro source work
  rw [run_bind, does source work]
  dsimp only
  rw [doesNext]
  simp [addAll, Workspace.logAll]

theorem does_declare (file : Option FilePath) (space : Namespace) (head : Syntax.ItemHead) (name : String)
    (kind : DeclarationKind) (fields : List Field) (does : Does first [] events) :
    Does (declare file space head name kind fields first) (Index.finding file space head name kind fields)
      (if (Index.finding file space head name kind fields).isEmpty then [] else events) := by
  unfold declare Index.finding
  dsimp only
  split
  · exact does_pure
  · simpa using does.seq (does_push _)

theorem does_declare_alone (file : Option FilePath) (space : Namespace) (head : Syntax.ItemHead) (name : String)
    (kind : DeclarationKind) (fields : List Field) :
    Does (declare file space head name kind fields (pure ())) (Index.finding file space head name kind fields) [] := by
  simpa only [ite_self] using does_declare file space head name kind fields does_pure

theorem does_visitMembers (file : Option FilePath) (owner : Namespace) (members : List Syntax.Member) (position : Nat) :
    Does (visitMembers file owner members position)
      ((members.zipIdx position).flatMap fun (member, place) => Index.memberFinding file owner member place) [] := by
  induction members generalizing position with
  | nil => exact does_pure
  | cons member members ih =>
      rw [List.zipIdx_cons, List.flatMap_cons]
      exact (does_declare_alone file owner _ _ _ _).seq (ih (position + 1))

mutual

theorem does_visitItem (file : Option FilePath) (space : Namespace) (item : Syntax.Item) :
    Does (visitItem file space item) (Index.itemFindings file space item).declarations
      (Index.itemFindings file space item).events := by
  cases item with
  | record head name isGeneric members =>
      have drops : Does (if isGeneric then note (.genericsDropped name) else pure ()) []
          (if isGeneric then [.genericsDropped name] else []) := by
        split
        · exact does_note _
        · exact does_pure
      have whole := (does_visitMembers file (space.child (plainName name)) members 0).seq
        (does_declare file space head (plainName name) .classLike (Index.fieldsOf members) drops)
      have events : (Index.recordFindings file space head name isGeneric members).events = [] ++
          (if (Index.finding file space head (plainName name) .classLike (Index.fieldsOf members)).isEmpty then []
            else if isGeneric then [.genericsDropped name] else []) := by
        unfold Index.recordFindings
        cases isGeneric <;> simp
      unfold visitItem Index.itemFindings
      rw [events]
      exact whole
  | named head kind name =>
      unfold visitItem Index.itemFindings
      exact does_declare_alone file space head (plainName name) (kindOf kind) []
  | implementation head target =>
      unfold visitItem Index.itemFindings
      exact does_declare_alone file space head target .implementation []
  | module head name content =>
      unfold visitItem Index.itemFindings
      exact (does_visitItems file (space.child (plainName name)) content).seq (does_declare_alone file space head _ _ _)
  | other =>
      unfold visitItem Index.itemFindings
      exact does_pure

/-- A visit pushes all that is found in the items, and nothing else. -/
theorem does_visitItems (file : Option FilePath) (space : Namespace) (items : List Syntax.Item) :
    Does (visitItems file space items) (Index.itemsFindings file space items).declarations
      (Index.itemsFindings file space items).events := by
  cases items with
  | nil =>
      unfold visitItems Index.itemsFindings
      exact does_pure
  | cons item items =>
      unfold visitItems Index.itemsFindings
      exact (does_visitItem file space item).seq (does_visitItems file space items)

end

/-- Whether work in place comes to a result. An error leaves the source and the log as they were. -/
def ComesTo (editing : Editing Unit) (source : Source) (work : Workspace) :
    Except SourceError (Source × List Log.Event) → Prop
  | .ok (after, events) => editing.run.run (source, work) = (.ok (), after, work.logAll events)
  | .error reason => editing.run.run (source, work) = (.error reason, source, work)

theorem comesTo_addText (source : Source) (work : Workspace) (text : String) (space : Namespace) (file : Option FilePath) :
    ComesTo (addText text space file) source work (source.addText text space file) := by
  unfold addText Source.addText
  cases Syntax.readFile text with
  | error error => rfl
  | ok items =>
      have visited := does_visitItems file space items source work
      dsimp only [ComesTo]
      generalize Index.itemsFindings file space items = found at visited ⊢
      -- The source has grown by the declarations that were found, so their number is what is noted.
      have grown : (source.addAll found.declarations).entries.length - source.entries.length =
          found.declarations.length := by
        simp [entries_addAll]
      rw [run_get_bind, run_bind, visited]
      dsimp only
      rw [run_get_bind, grown, does_note]
      simp only [addAll, Workspace.logAll, List.foldl_append, List.foldl_nil]

theorem comesTo_addFile (source : Source) (work : Workspace) (path : FilePath) (space : Namespace) :
    ComesTo (addFile path space) source work (source.addFile work.files path space) := by
  unfold addFile Source.addFile
  cases read : work.files.readText path with
  | error cause =>
      dsimp only [ComesTo]
      rw [run_get_bind, read]
      rfl
  | ok text =>
      have added := comesTo_addText source work text space (some path)
      dsimp only
      cases result : source.addText text space (some path) with
      | error reason =>
          rw [result] at added
          dsimp only [ComesTo] at added ⊢
          rw [run_get_bind, read]
          dsimp only
          rw [run_bind, added]
      | ok both =>
          rw [result] at added
          dsimp only [ComesTo] at added ⊢
          rw [run_get_bind, read]
          dsimp only
          rw [run_bind, added]
          rfl

/-- Whether work in place ends as adding several files did: at the first one that cannot be loaded, if there is one. -/
def EndsAs (editing : Editing Unit) (source : Source) (work : Workspace) (loading : Loading) : Prop :=
  editing.run.run (source, work) =
    (match loading.error with | some reason => .error reason | none => .ok (), loading.source, loading.work)

theorem endsAs_addFiles (root : FilePath) (paths : List FilePath) (source : Source) (work : Workspace) :
    EndsAs (addFiles root paths) source work (Source.addFiles root paths source work) := by
  induction paths generalizing source work with
  | nil => rfl
  | cons path paths ih =>
      have added := comesTo_addFile source work path (.ofFile root path)
      unfold EndsAs addFiles Source.addFiles
      cases result : source.addFile work.files path (.ofFile root path) with
      | error reason =>
          rw [result] at added
          dsimp only [ComesTo] at added ⊢
          rw [run_bind, added]
      | ok both =>
          rw [result] at added
          dsimp only [ComesTo] at added ⊢
          rw [run_bind, added]
          exact ih both.1 (work.logAll both.2)

theorem endsAs_addDirectory (root : FilePath) (source : Source) (work : Workspace) :
    EndsAs (addDirectory root) source work (source.addDirectory work root) := by
  unfold EndsAs addDirectory Source.addDirectory
  rw [run_get_bind]
  dsimp only
  split
  · have added := endsAs_addFiles root (rustFiles work.files root) source work
    generalize Source.addFiles root (rustFiles work.files root) source work = loading at added ⊢
    rw [run_bind, added]
    obtain ⟨after, later, stopped⟩ := loading
    cases stopped with
    | some reason => rfl
    | none => cases (work.files.walk root).error <;> rfl
  · rfl

end Editing

end Companion.Source
