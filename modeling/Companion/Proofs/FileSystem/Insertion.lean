import Companion.Proofs.FileSystem.Naming
import Companion.Proofs.FileSystem.Plot

/-!
What stands below a directory in a tree in which something has come to a free name. All that stood there before does so in its
order, and what is at the name stands in one block among it; and what could be read or listed before can be so still.
-/

set_option autoImplicit false

namespace Companion

namespace Node

variable {root node : Node} {names : List String}

theorem IsSorted.get? (sorted : root.IsSorted) (found : root.get? names = some node) : node.IsSorted := by
  induction names generalizing root with
  | nil =>
      rw [get?_nil, Option.some.injEq] at found
      exact found ▸ sorted
  | cons name names ih =>
      cases root with
      | file content => contradiction
      | link target => contradiction
      | directory entries =>
          rw [get?_cons] at found
          obtain ⟨child, entered, inside⟩ := Option.bind_eq_some_iff.mp found
          have areSorted : AreSorted entries := by simpa [IsSorted] using sorted
          exact ih (areSorted.of_mem (mem_of_entry entered)) inside

end Node

namespace FileSystem

variable {files after : FileSystem} {root : FilePath} {place : List String}

def LeadsTo (files : FileSystem) (root : FilePath) (place : List String) : Prop :=
  ∃ entries, files.resolve .content root = .ok (.taken place (.directory entries))

theorem exists_leadsTo (isDirectory : files.isDirectory root = true) : ∃ place, files.LeadsTo root place := by
  unfold FileSystem.isDirectory at isDirectory
  generalize resolved : files.resolve .content root = resolution at isDirectory
  match resolution, isDirectory with
  | .ok (.taken place (.directory entries)), _ => exact ⟨place, entries, resolved⟩

namespace LeadsTo

variable (leads : files.LeadsTo root place)
include leads

theorem admissible : Admissible root := by
  obtain ⟨_, resolved⟩ := leads
  exact admissible_of_resolve resolved

theorem get? : ∃ entries, files.get? place = some (.directory entries) := by
  obtain ⟨entries, resolved⟩ := leads
  exact ⟨entries, get?_of_resolve resolved⟩

theorem nodeAt?_eq : files.nodeAt? root = files.get? place := by
  obtain ⟨entries, resolved⟩ := leads
  rw [get?_of_resolve resolved, nodeAt?, resolved]

theorem stopsBelow_eq {node : Node} (found : files.get? place = some node) : files.stopsBelow root = node.stops := by
  rw [stopsBelow, leads.nodeAt?_eq, found]

theorem isDirectory : files.isDirectory root = true := by
  obtain ⟨entries, resolved⟩ := leads
  simp [FileSystem.isDirectory, resolved, Node.isDirectory]

theorem enters : ∃ left, files.Enters 40 (files.startOf root) (stepsOf root.text) left place := by
  obtain ⟨entries, resolved⟩ := leads
  have followed : files.follow .content 40 (asksForDirectory root.text) (files.startOf root) (stepsOf root.text ++ []) =
      .ok (.taken place (.directory entries)) := by
    rw [List.append_nil]
    exact follow_of_resolve resolved
  obtain ⟨left, reached, asks, enters, stays⟩ := enters_of_follow followed (.inr ⟨by simp, trivial⟩)
  -- No step is left to be walked from the directory that was reached, so that it is the one that was found.
  obtain walked | ⟨_, _, _, _, -, -, redirected, -⟩ := follow_cases stays
  · unfold descend at walked
    split at walked
    · cases eq_of_arrive walked
      exact ⟨left, enters⟩
    · contradiction
  · unfold descend at redirected
    split at redirected
    · cases eq_of_arrive redirected
    · contradiction

theorem mono (extended : files.Extends after) : after.LeadsTo root place := by
  obtain ⟨entries, resolved⟩ := leads
  obtain ⟨other, -, face, resolvedAfter⟩ := extended.resolve resolved
  cases other with
  | directory others => exact ⟨others, resolvedAfter⟩
  | file content => contradiction
  | link target => contradiction

end LeadsTo

/-- What was read from a tree is read also from a tree that has more. -/
theorem Extends.readText (extended : files.Extends after) {path : FilePath} {text : String}
    (read : files.readText path = .ok text) : after.readText path = .ok text := by
  unfold FileSystem.readText readOctets at read ⊢
  cases resolved : files.resolve .content path with
  | error reason => simp [resolved] at read
  | ok found =>
      match found, resolved with
      | .taken names (.file content), resolved =>
          rw [resolved] at read
          rwa [extended.resolve_file resolved]
      | .taken names (.link target), resolved => simp [resolved] at read
      | .taken names (.directory entries), resolved => simp [resolved] at read
      | .free names, resolved => simp [resolved] at read

theorem readText_of_readOctets {path : FilePath} {text : String} (read : files.readOctets path = .ok text.toUTF8) :
    files.readText path = .ok text := by
  have decoded : String.fromUTF8? text.toUTF8 = some text := by
    simp [String.fromUTF8?, String.fromUTF8, String.toUTF8, text.isValidUTF8]
  unfold FileSystem.readText
  rw [read]
  simp only [decoded]

/-- Whether a path, and each of its steps, is not longer than the operations take. -/
structure WithinLimits (path : FilePath) : Prop where
  whole : path.text.utf8ByteSize ≤ longestPath
  steps : ∀ step ∈ stepsOf path.text, step.utf8ByteSize ≤ longestName

theorem IsShort.fits {step : String} (isShort : IsShort step) : step.utf8ByteSize ≤ longestName := by
  obtain rfl | rfl | fits := isShort
  · decide
  · decide
  · exact fits

theorem withinLimits_of_resolve {path : FilePath} {found : Place} (resolved : files.resolve .content path = .ok found) :
    WithinLimits path :=
  ⟨(admissible_of_resolve resolved).short, fun step member =>
    (isShort_of_follow (follow_of_resolve resolved) step member).fits⟩

theorem withinLimits_of_readText {path : FilePath} {text : String} (read : files.readText path = .ok text) :
    WithinLimits path := by
  unfold FileSystem.readText readOctets at read
  split at read
  · contradiction
  · rename_i content octets
    split at octets
    · contradiction
    · exact withinLimits_of_resolve ‹_›
    · contradiction
    · contradiction

/-- Unless it is a link, what stands below the place of a directory is come to by its names below the path of the directory. -/
theorem LeadsTo.resolve_below (leads : files.LeadsTo root place) {names : List String} (someNames : names ≠ [])
    (areNames : ∀ name ∈ names, IsName name) (limits : WithinLimits (root.below names)) {node : Node}
    (found : files.get? (place ++ names) = some node) (noLink : ∀ target, node ≠ .link target) :
    files.resolve .content (root.below names) = .ok (.taken (place ++ names) node) := by
  have areSteps := areSteps_of_areNames areNames
  have steps : stepsOf (root.below names).text = stepsOf root.text ++ names := FilePath.steps_below root areSteps
  have admissible : Admissible (root.below names) := by
    refine ⟨fun null => ?_, fun empty => ?_, limits.whole⟩
    · obtain ⟨step, member, inside⟩ := (FilePath.mem_text_iff (by decide) _).mp null
      rw [steps] at member
      obtain inRoot | inNames := List.mem_append.mp member
      · exact leads.admissible.null ((FilePath.mem_text_iff (by decide) _).mpr ⟨step, inRoot, inside⟩)
      · exact (areNames step inNames).null inside
    · rw [empty, FilePath.steps_empty] at steps
      exact someNames (List.append_eq_nil_iff.mp steps.symm).2
  have noSlash : asksForDirectory (root.below names).text = false := by
    rw [← List.dropLast_concat_getLast someNames, FilePath.below_append]
    exact FilePath.asksForDirectory_join _ (areSteps _ (List.getLast_mem someNames))
  have start : files.startOf (root.below names) = files.startOf root :=
    startOf_congr rfl (FilePath.isAbsolute_below root areSteps)
  have entries : ∀ name ∈ names, name ≠ "." ∧ name ≠ ".." ∧ name.utf8ByteSize ≤ longestName := fun name member =>
    ⟨(areNames name member).ne_current, (areNames name member).ne_parent,
      limits.steps name (steps ▸ List.mem_append_right _ member)⟩
  obtain ⟨left, enters⟩ := leads.enters
  rw [resolve_eq admissible, noSlash, start, steps, enters.follow (by simp) someNames, follow]
  simp only [descend_names entries found noLink someNames]

/-- A file that stands below the place of a directory is read by its names below the path of the directory. -/
theorem LeadsTo.readOctets_below (leads : files.LeadsTo root place) {names : List String} (someNames : names ≠ [])
    (areNames : ∀ name ∈ names, IsName name) (limits : WithinLimits (root.below names)) {content : ByteArray}
    (isFile : files.face? (place ++ names) = some (.file content)) :
    files.readOctets (root.below names) = .ok content := by
  rw [readOctets, leads.resolve_below someNames areNames limits (get?_of_face?_file isFile) (by simp)]

/-- A file that stands where a path of names spells is read by it. -/
theorem readOctets_of_names {path : FilePath} (admissible : Admissible path) (noSlash : asksForDirectory path.text = false)
    (someSteps : stepsOf path.text ≠ [])
    (entries : ∀ step ∈ stepsOf path.text, step ≠ "." ∧ step ≠ ".." ∧ step.utf8ByteSize ≤ longestName) {content : ByteArray}
    (isFile : files.face? (files.startOf path ++ stepsOf path.text) = some (.file content)) :
    files.readOctets path = .ok content := by
  have walked := descend_names entries (get?_of_face?_file isFile) (by simp) someSteps
  rw [← noSlash] at walked
  rw [readOctets, resolve_of_arrived admissible walked]

theorem listable_iff {path : FilePath} : files.Listable path ↔
    ∃ names entries, files.resolve .content path = .ok (.taken names (.directory entries)) ∧ names ∉ files.closed := by
  unfold Listable list
  constructor
  · rintro ⟨listed, isListed⟩
    split at isListed
    · contradiction
    · rename_i names entries resolved
      split at isListed
      · contradiction
      · rename_i isOpen
        exact ⟨names, entries, resolved, isOpen⟩
    · contradiction
    · contradiction
  · rintro ⟨names, entries, resolved, isOpen⟩
    simp only [resolved, if_neg isOpen]
    exact ⟨entries, rfl⟩

/-- What could be listed in a tree can be listed also in a tree that has more. -/
theorem Extends.listable (extended : files.Extends after) {path : FilePath} (listable : files.Listable path) :
    after.Listable path := by
  obtain ⟨names, entries, resolved, isOpen⟩ := listable_iff.mp listable
  obtain ⟨other, -, face, resolvedAfter⟩ := extended.resolve resolved
  cases other with
  | directory others => exact listable_iff.mpr ⟨names, others, resolvedAfter, by rwa [extended.closed]⟩
  | file content => contradiction
  | link target => contradiction

theorem Listable.withinLimits {path : FilePath} (listable : files.Listable path) : WithinLimits path := by
  obtain ⟨_, _, resolved, -⟩ := listable_iff.mp listable
  exact withinLimits_of_resolve resolved

/-- A directory that stands below the place of another one is listed by its names below the path of that one, if it may be. -/
theorem LeadsTo.listable_below (leads : files.LeadsTo root place) {names : List String}
    (areNames : ∀ name ∈ names, IsName name) (limits : WithinLimits (root.below names))
    (isDirectory : files.face? (place ++ names) = some .directory) (isOpen : place ++ names ∉ files.closed) :
    files.Listable (root.below names) := by
  by_cases none : names = []
  · obtain ⟨entries, resolved⟩ := leads
    rw [none, List.append_nil] at isOpen
    exact listable_iff.mpr ⟨place, entries, by rwa [none, FilePath.below_nil], isOpen⟩
  · obtain ⟨entries, found⟩ := exists_directory_of_face? isDirectory
    exact listable_iff.mpr ⟨_, entries, leads.resolve_below none areNames limits found (by simp), isOpen⟩

namespace Plot

variable {plot : Plot} {sub : Option Node}

/-- Whether something stands where something has come to a free name. -/
structure Among (plot : Plot) (sub : Option Node) (place : List String) (stop : List String × Node.Face) : Prop where
  exists_names : ∃ middle inner, plot.directory = place ++ middle ∧ stop.1 = middle ++ plot.name :: inner ∧
    (plot.apart sub).face? (plot.name :: inner) = some stop.2

/-- What stands there has names of entries that lead from the place of the directory to where nothing was. -/
theorem Among.stands {stop : List String × Node.Face} (among : plot.Among sub place stop) (leads : plot.files.LeadsTo root place)
    (named : plot.files.NamesBelow root) (ordinary : (plot.apart sub).IsOrdinary) :
    stop.1 ≠ [] ∧ (∀ name ∈ stop.1, IsName name) ∧ (plot.grown sub).face? (place ++ stop.1) = some stop.2 ∧
      plot.files.face? (place ++ stop.1) = none := by
  obtain ⟨middle, inner, directory, names, face⟩ := among.exists_names
  have whole : place ++ stop.1 = plot.directory ++ plot.name :: inner := by rw [names, directory, List.append_assoc]
  have middleNames : ∀ name ∈ middle, IsName name := by
    obtain ⟨entries, isPlot, -⟩ := plot.free
    rw [directory, FileSystem.get?, Node.get?_append] at isPlot
    obtain ⟨node, there, inside⟩ := Option.bind_eq_some_iff.mp isPlot
    exact Node.areNames_of_get? (named node (leads.nodeAt?_eq.trans there)) inside
  refine ⟨by simp [names], ?_, by rw [whole, face?_grown_inside, face], ?_⟩
  · rw [names]
    exact List.forall_mem_append.mpr ⟨middleNames, ordinary.areNames_of_face? face⟩
  · exact face?_inside_free ⟨inner, by rw [whole, Plot.place, List.append_assoc, List.singleton_append]⟩

theorem get?_grown_outside (sub : Option Node) {entries : List (String × Node)}
    (isDirectory : plot.files.get? place = some (.directory entries)) (outside : ¬ place <+: plot.directory) :
    (plot.grown sub).get? place = plot.files.get? place := by
  cases sub with
  | none => rfl
  | some new =>
      have notInside : ¬ plot.place <+: place := fun inside => by
        have nothing := face?_inside_free inside
        rw [face?_eq_map, isDirectory] at nothing
        contradiction
      obtain same | ⟨inside, -⟩ := Node.get?_put_outside new plot.files.root notInside
      · exact same
      · obtain isPlace | isFront := List.prefix_concat_iff.mp inside
        · exact absurd (isPlace ▸ List.prefix_rfl) notInside
        · exact absurd isFront outside

theorem isSorted_of_grown {new : Node} (sorted : (plot.grown (some new)).IsSorted) : new.IsSorted := by
  have found : (plot.grown (some new)).get? (plot.directory ++ [plot.name]) = some new := by
    rw [get?_grown]
    simp [apart, FileSystem.get?, Node.get?_cons, Node.entry?]
  exact sorted.root.get? found

/-- What stands below a directory in a grown tree is what stood there before, with what has come in one block. -/
theorem stopsBelow_grown (leads : plot.files.LeadsTo root place) (sorted : plot.files.IsSorted)
    (sortedAfter : (plot.grown sub).IsSorted) : ∃ front block back,
    plot.files.stopsBelow root = front ++ back ∧ (plot.grown sub).stopsBelow root = front ++ block ++ back ∧
      ∀ stop ∈ block, plot.Among sub place stop := by
  obtain ⟨entries, isDirectory⟩ := leads.get?
  have leadsAfter : (plot.grown sub).LeadsTo root place := leads.mono (extends_grown sub)
  have before := leads.stopsBelow_eq isDirectory
  by_cases outside : ¬ place <+: plot.directory
  · have after := leadsAfter.stopsBelow_eq (by rw [get?_grown_outside sub isDirectory outside, isDirectory])
    exact ⟨plot.files.stopsBelow root, [], [], by simp, by simp [before, after], by simp⟩
  obtain ⟨middle, whole⟩ := not_not.mp outside
  cases sub with
  | none => exact ⟨plot.files.stopsBelow root, [], [], by simp, by simp [grown], by simp⟩
  | some new =>
      obtain ⟨others, isPlot, isFree⟩ := plot.free
      have isMiddle : (Node.directory entries).get? middle = some (.directory others) := by
        rw [← whole, get?, Node.get?_append] at isPlot
        obtain ⟨node, there, inside⟩ := Option.bind_eq_some_iff.mp isPlot
        obtain rfl := Option.some.inj (isDirectory.symm.trans there)
        exact inside
      have grown : (plot.grown (some new)).get? place = some (Node.put new (.directory entries) (middle ++ [plot.name])) := by
        have placed := Node.get?_put_front isDirectory new (middle ++ [plot.name])
        rwa [← List.append_assoc, whole] at placed
      obtain ⟨front, back, stops, put⟩ := Node.stops_put_of_free (sorted.root.get? isDirectory) isMiddle isFree new
      refine ⟨front, _, back, before.trans stops, (leadsAfter.stopsBelow_eq grown).trans put, fun stop member => ?_⟩
      obtain ⟨⟨inner, face⟩, isStop, rfl⟩ := List.mem_map.mp member
      refine ⟨middle, inner, whole.symm, rfl, ?_⟩
      have found := Node.face?_of_mem_stops (isSorted_of_grown sortedAfter) isStop
      simpa [apart, FileSystem.face?, Node.face?_directory_cons, Node.entry?] using found

end Plot

end FileSystem

end Companion
