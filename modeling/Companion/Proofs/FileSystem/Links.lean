import Companion.Proofs.FileSystem.Directories

/-!
Steps through symbolic links. Steps *enter* a directory if each of them names a directory or a link that leads to one;
the number of links that may still be followed is part of it. What is entered in a tree is entered in every tree that
has grown out of it, and what lies behind the steps is resolved from the directory that they enter.
-/

set_option autoImplicit false

namespace Companion.FileSystem

variable {files after : FileSystem} {purpose : Purpose} {asksDirectory : Bool} {links left : Nat}
  {here place steps more : List String}

def linkStart (directory : List String) (target : String) : List String :=
  if (FilePath.mk target).isAbsolute then [] else directory

/-- Steps lead from a place to a directory with at most a number of links, of which some are left. -/
inductive Enters (files : FileSystem) : Nat → List String → List String → Nat → List String → Prop
  | here (links : Nat) (here : List String) : Enters files links here [] links here
  | through {links left : Nat} {here steps place : List String} {step : String}
      (isDirectory : files.face? here = some .directory) (isShort : IsShort step)
      (next : files.face? (advance here step) = some .directory)
      (rest : Enters files links (advance here step) steps left place) :
      Enters files links here (step :: steps) left place
  | along {links left : Nat} {here steps place : List String} {step target : String}
      (isDirectory : files.face? here = some .directory) (notCurrent : step ≠ ".") (notParent : step ≠ "..")
      (fits : step.utf8ByteSize ≤ longestName) (isLink : files.face? (here ++ [step]) = some (.link target))
      (nonempty : target ≠ "") (rest : Enters files links (linkStart here target) (stepsOf target ++ steps) left place) :
      Enters files (links + 1) here (step :: steps) left place

/-- One tree has all that another has, and the same directories may not be listed. -/
structure Extends (before after : FileSystem) : Prop where
  working : after.working = before.working
  closed : after.closed = before.closed
  faces : ∀ names face, before.face? names = some face → after.face? names = some face

namespace Enters

theorem mono (extended : files.Extends after) (enters : files.Enters links here steps left place) :
    after.Enters links here steps left place := by
  induction enters with
  | here links here => exact .here links here
  | through isDirectory isShort next _ ih =>
      exact .through (extended.faces _ _ isDirectory) isShort (extended.faces _ _ next) ih
  | along isDirectory notCurrent notParent fits isLink nonempty _ ih =>
      exact .along (extended.faces _ _ isDirectory) notCurrent notParent fits (extended.faces _ _ isLink) nonempty ih

theorem append {others : List String} {last : Nat} {end_ : List String} (first : files.Enters links here steps left place)
    (second : files.Enters left place others last end_) : files.Enters links here (steps ++ others) last end_ := by
  induction first with
  | here links here => exact second
  | through isDirectory isShort next _ ih => exact .through isDirectory isShort next (ih second)
  | along isDirectory notCurrent notParent fits isLink nonempty _ ih =>
      have whole := ih second
      rw [List.append_assoc] at whole
      exact .along isDirectory notCurrent notParent fits isLink nonempty whole

theorem front (enters : files.Enters links here steps left place) {front : List String} (isFront : front <+: steps) :
    ∃ others middle, files.Enters links here front others middle := by
  induction enters generalizing front with
  | here links here => exact ⟨links, here, by rw [List.prefix_nil.mp isFront]; exact .here links here⟩
  | @through links _ here _ _ step isDirectory isShort next _ ih =>
      cases front with
      | nil => exact ⟨links, here, .here links here⟩
      | cons first rest =>
          obtain ⟨rfl, isRest⟩ := List.cons_prefix_cons.mp isFront
          obtain ⟨others, middle, enters⟩ := ih isRest
          exact ⟨others, middle, .through isDirectory isShort next enters⟩
  | @along links _ here _ _ step target isDirectory notCurrent notParent fits isLink nonempty _ ih =>
      cases front with
      | nil => exact ⟨links + 1, here, .here (links + 1) here⟩
      | cons first rest =>
          obtain ⟨rfl, isRest⟩ := List.cons_prefix_cons.mp isFront
          obtain ⟨others, middle, enters⟩ := ih ((List.prefix_append_right_inj (stepsOf target)).mpr isRest)
          exact ⟨others, middle, .along isDirectory notCurrent notParent fits isLink nonempty enters⟩

end Enters

/-- Steps enter a directory, or up to one from which the next of them enters none. -/
theorem enters_or_stops (files : FileSystem) (links : Nat) (here steps : List String) :
    (∃ left place, files.Enters links here steps left place) ∨
      ∃ front step rest left place, steps = front ++ step :: rest ∧ files.Enters links here front left place ∧
        ¬ ∃ last end_, files.Enters left place [step] last end_ := by
  induction steps using List.reverseRecOn with
  | nil => exact .inl ⟨links, here, .here links here⟩
  | append_singleton steps step ih =>
      obtain ⟨left, place, enters⟩ | ⟨front, stop, rest, left, place, rfl, enters, stops⟩ := ih
      · by_cases further : ∃ last end_, files.Enters left place [step] last end_
        · obtain ⟨last, end_, next⟩ := further
          exact .inl ⟨last, end_, enters.append next⟩
        · exact .inr ⟨steps, step, [], left, place, rfl, enters, further⟩
      · exact .inr ⟨front, stop, rest ++ [step], left, place, by simp, enters, stops⟩

/-- Where a walk goes on as another does, so does what follows it. -/
theorem follow_congr {other others : List String} (links : Nat)
    (same : files.descend purpose asksDirectory here steps = files.descend purpose asksDirectory other others) :
    files.follow purpose links asksDirectory here steps = files.follow purpose links asksDirectory other others := by
  unfold follow
  rw [same]

theorem descend_through (allowed : ¬ (asksDirectory = true ∧ purpose = .creation)) {step : String}
    (isDirectory : files.face? here = some .directory) (isShort : IsShort step)
    (next : files.face? (advance here step) = some .directory) (others : List String) :
    files.descend purpose asksDirectory here (step :: others) =
      files.descend purpose asksDirectory (advance here step) others := by
  have paved : files.Paved here [step] := ⟨.through isDirectory isShort (.arrived _), next⟩
  exact descend_paved purpose asksDirectory allowed paved others

theorem get?_of_link {names : List String} {target : String} (isLink : files.face? names = some (.link target)) :
    files.get? names = some (.link target) := by
  rw [face?_eq_map] at isLink
  cases found : files.get? names with
  | none => simp [found] at isLink
  | some node => cases node <;> simp_all [Node.face]

/-- A walk that comes to a link goes on at the target, unless the link itself is asked for. -/
theorem descend_link (allowed : ¬ (asksDirectory = true ∧ purpose = .creation)) {step target : String}
    (isDirectory : files.face? here = some .directory) (notCurrent : step ≠ ".") (notParent : step ≠ "..")
    (fits : step.utf8ByteSize ≤ longestName) (isLink : files.face? (here ++ [step]) = some (.link target))
    (others : List String) :
    files.descend purpose asksDirectory here (step :: others) =
      if others.isEmpty ∧ purpose = .entry then .ok (.arrived (.taken (here ++ [step]) (.link target)))
      else .ok (.redirected here target others) := by
  obtain ⟨entries, found⟩ := exists_directory_of_face? isDirectory
  have entered := get?_of_link isLink
  rw [get?_append_singleton found] at entered
  rw [descend_name allowed found notCurrent notParent, if_neg (Nat.not_lt.mpr fits), entered]

theorem follow_link (allowed : ¬ (asksDirectory = true ∧ purpose = .creation)) {step target : String}
    (isDirectory : files.face? here = some .directory) (notCurrent : step ≠ ".") (notParent : step ≠ "..")
    (fits : step.utf8ByteSize ≤ longestName) (isLink : files.face? (here ++ [step]) = some (.link target))
    (nonempty : target ≠ "") {others : List String} (goesOn : ¬ (others.isEmpty ∧ purpose = .entry)) (links : Nat) :
    files.follow purpose (links + 1) asksDirectory here (step :: others) =
      files.follow purpose links (asksDirectory || (others.isEmpty && asksForDirectory target))
        (linkStart here target) (stepsOf target ++ others) := by
  have isEmpty : target.isEmpty = false := by simpa using nonempty
  rw [follow, descend_link allowed isDirectory notCurrent notParent fits isLink, if_neg goesOn]
  simp only [isEmpty, Bool.false_eq_true, if_false]
  rfl

/-- What lies behind steps is resolved from the directory that they enter. -/
theorem Enters.follow (allowed : ¬ (asksDirectory = true ∧ purpose = .creation))
    (enters : files.Enters links here steps left place) (behind : more ≠ []) :
    files.follow purpose links asksDirectory here (steps ++ more) = files.follow purpose left asksDirectory place more := by
  induction enters with
  | here links here => rfl
  | @through links _ _ _ _ _ isDirectory isShort next _ ih =>
      exact (follow_congr links (descend_through allowed isDirectory isShort next _)).trans ih
  | @along links _ _ steps _ _ _ isDirectory notCurrent notParent fits isLink nonempty _ ih =>
      have isEmpty : (steps ++ more).isEmpty = false := by simp [behind]
      rw [List.cons_append, follow_link allowed isDirectory notCurrent notParent fits isLink nonempty
        (by simp [isEmpty]), isEmpty, Bool.false_and, Bool.or_false, ← List.append_assoc]
      exact ih

/-- Where steps enter a directory there is no free name at their end. -/
theorem Enters.not_free (enters : files.Enters links here steps left place) (asksDirectory : Bool) (names : List String) :
    files.follow .entry links asksDirectory here steps ≠ .ok (.free names) := by
  induction enters generalizing asksDirectory with
  | here links here =>
      unfold FileSystem.follow descend arrive
      cases files.get? here with
      | none => simp
      | some node => simp
  | @through links _ _ _ _ _ isDirectory isShort next _ ih =>
      rw [follow_congr links (descend_through entry_allowed isDirectory isShort next _)]
      exact ih asksDirectory
  | @along links _ _ steps _ step target isDirectory notCurrent notParent fits isLink nonempty _ ih =>
      by_cases last : steps.isEmpty ∧ Purpose.entry = .entry
      · rw [FileSystem.follow, descend_link entry_allowed isDirectory notCurrent notParent fits isLink, if_pos last]
        simp
      · rw [follow_link entry_allowed isDirectory notCurrent notParent fits isLink nonempty last]
        exact ih _

def Place.IsDirectory : Place → Prop
  | .taken _ (.directory _) => True
  | _ => False

/-- How a walk takes a step that does not fail. It goes on in a directory, or at the target of a link; or it ends, at a
file, at a link that is itself asked for, or at a name that is free. -/
inductive Takes (files : FileSystem) (purpose : Purpose) (asksDirectory : Bool) (here : List String) (step : String)
    (steps : List String) : Passage → Prop
  | goesOn {passage : Passage} (next : files.face? (advance here step) = some .directory)
      (walked : files.descend purpose asksDirectory (advance here step) steps = .ok passage) :
      Takes files purpose asksDirectory here step steps passage
  | linked (target : String) (notCurrent : step ≠ ".") (notParent : step ≠ "..") (fits : step.utf8ByteSize ≤ longestName)
      (isLink : files.face? (here ++ [step]) = some (.link target)) :
      Takes files purpose asksDirectory here step steps (.redirected here target steps)
  | file (content : ByteArray) (isLast : steps = []) (notCurrent : step ≠ ".") (notParent : step ≠ "..")
      (fits : step.utf8ByteSize ≤ longestName) (isFile : files.face? (here ++ [step]) = some (.file content))
      (arrived : arrive purpose asksDirectory (here ++ [step]) (.file content) =
        .ok (.arrived (.taken (here ++ [step]) (.file content)))) :
      Takes files purpose asksDirectory here step steps (.arrived (.taken (here ++ [step]) (.file content)))
  | link (target : String) (isLast : steps = []) (asked : purpose = .entry)
      (isLink : files.face? (here ++ [step]) = some (.link target)) :
      Takes files purpose asksDirectory here step steps (.arrived (.taken (here ++ [step]) (.link target)))
  | free (isLast : steps = []) (notCurrent : step ≠ ".") (notParent : step ≠ "..")
      (fits : step.utf8ByteSize ≤ longestName) (missing : files.face? (here ++ [step]) = none) :
      Takes files purpose asksDirectory here step steps (.arrived (.free (here ++ [step])))

theorem eq_of_arrive {names : List String} {node : Node} {passage : Passage}
    (arrived : arrive purpose asksDirectory names node = .ok passage) : passage = .arrived (.taken names node) := by
  unfold arrive at arrived
  split at arrived
  · contradiction
  · exact (Except.ok.inj arrived).symm

theorem takes_of_descend {step : String} {passage : Passage}
    (walked : files.descend purpose asksDirectory here (step :: steps) = .ok passage) :
    files.face? here = some .directory ∧ IsShort step ∧ Takes files purpose asksDirectory here step steps passage := by
  simp only [descend] at walked
  split at walked
  · rename_i entries found
    have isDirectory : files.face? here = some .directory := by rw [face?_eq_map, found]; rfl
    refine ⟨isDirectory, ?_⟩
    split at walked
    · rename_i isCurrent
      have stays : advance here step = here := by simp [advance, isCurrent]
      exact ⟨.inl isCurrent, .goesOn (by rwa [stays]) (by rwa [stays])⟩
    rename_i notCurrent
    split at walked
    · rename_i isParent
      have up : advance here step = here.dropLast := by simp [advance, isParent]
      exact ⟨.inr (.inl isParent), .goesOn (by rw [up]; exact directory_dropLast isDirectory) (by rwa [up])⟩
    rename_i notParent
    split at walked
    · contradiction
    split at walked
    · contradiction
    rename_i notLong
    have fits := Nat.le_of_not_lt notLong
    have entry := get?_append_singleton found step
    refine ⟨.inr (.inr fits), ?_⟩
    split at walked
    · rename_i absent
      split at walked
      · rename_i last
        cases walked
        exact .free (by simpa using last) notCurrent notParent fits (by simp [face?_eq_map, entry, absent])
      · contradiction
    · rename_i target isLink
      split at walked
      · rename_i last
        cases walked
        exact .link target (by simpa using last.1) last.2 (by simp [face?_eq_map, entry, isLink, Node.face])
      · cases walked
        exact .linked target notCurrent notParent fits (by simp [face?_eq_map, entry, isLink, Node.face])
    · rename_i child notLink entered
      have there : files.get? (here ++ [step]) = some child := entry.trans entered
      cases child with
      | directory inner =>
          have ahead : advance here step = here ++ [step] := advance_name notCurrent notParent here
          exact .goesOn (by rw [ahead, face?_eq_map, there]; rfl) (by rwa [ahead])
      | link target => exact (notLink target rfl).elim
      | file content =>
          cases steps with
          | nil =>
              simp only [descend, there] at walked
              have isFile : files.face? (here ++ [step]) = some (.file content) := by rw [face?_eq_map, there]; rfl
              obtain rfl := eq_of_arrive walked
              exact .file content rfl notCurrent notParent fits isFile walked
          | cons next rest =>
              simp only [descend, there] at walked
              contradiction
  · contradiction
  · contradiction

theorem follow_cases {found : Place} (followed : files.follow purpose links asksDirectory here steps = .ok found) :
    files.descend purpose asksDirectory here steps = .ok (.arrived found) ∨
      ∃ fewer directory target rest, links = fewer + 1 ∧ target ≠ "" ∧
        files.descend purpose asksDirectory here steps = .ok (.redirected directory target rest) ∧
        files.follow purpose fewer (asksDirectory || (rest.isEmpty && asksForDirectory target))
          (linkStart directory target) (stepsOf target ++ rest) = .ok found := by
  unfold follow at followed
  split at followed
  · contradiction
  · rename_i place walked
    cases followed
    exact .inl walked
  · rename_i directory target rest walked
    split at followed
    · contradiction
    · rename_i fewer
      split at followed
      · contradiction
      · rename_i notEmpty
        exact .inr ⟨fewer, directory, target, rest, rfl, by simpa using notEmpty, walked, followed⟩

/-- Steps of a path enter a directory if something lies behind them, or if they lead to a directory themselves. The
induction is on the links that may be followed, and for each number of them on the steps. -/
theorem enters_of_follow {found : Place}
    (followed : files.follow purpose links asksDirectory here (steps ++ more) = .ok found)
    (isDirectory : more ≠ [] ∨ purpose ≠ .entry ∧ found.IsDirectory) :
    ∃ left place asks, files.Enters links here steps left place ∧
      files.follow purpose left asks place more = .ok found := by
  induction links using Nat.strong_induction_on generalizing asksDirectory here steps with
  | _ links fewerLinks =>
      induction steps generalizing here with
      | nil => exact ⟨links, here, asksDirectory, .here links here, followed⟩
      | cons step steps ih =>
          rw [List.cons_append] at followed
          obtain walked | ⟨fewer, directory, target, rest, rfl, nonempty, walked, further⟩ := follow_cases followed
          · obtain ⟨isHere, isShort, taken⟩ := takes_of_descend walked
            cases taken with
            | goesOn next walkedOn =>
                have same := follow_congr links ((walkedOn.trans walked.symm).symm)
                obtain ⟨left, place, asks, enters, behind⟩ := ih (same.symm.trans followed)
                exact ⟨left, place, asks, .through isHere isShort next enters, behind⟩
            | file _ isLast =>
                obtain behind | ⟨-, isPlace⟩ := isDirectory
                · exact absurd (List.append_eq_nil_iff.mp isLast).2 behind
                · exact isPlace.elim
            | link _ isLast asked =>
                obtain behind | ⟨notEntry, -⟩ := isDirectory
                · exact absurd (List.append_eq_nil_iff.mp isLast).2 behind
                · exact absurd asked notEntry
            | free isLast =>
                obtain behind | ⟨-, isPlace⟩ := isDirectory
                · exact absurd (List.append_eq_nil_iff.mp isLast).2 behind
                · exact isPlace.elim
          · obtain ⟨isHere, isShort, taken⟩ := takes_of_descend walked
            cases taken with
            | goesOn next walkedOn =>
                have same := follow_congr (fewer + 1) ((walkedOn.trans walked.symm).symm)
                obtain ⟨left, place, asks, enters, behind⟩ := ih (same.symm.trans followed)
                exact ⟨left, place, asks, .through isHere isShort next enters, behind⟩
            | linked target notCurrent notParent fits isLink =>
                rw [← List.append_assoc] at further
                obtain ⟨left, place, asks, enters, behind⟩ := fewerLinks fewer (Nat.lt_succ_self fewer) further
                exact ⟨left, place, asks, .along isHere notCurrent notParent fits isLink nonempty enters, behind⟩

/-- No step that is taken is longer than the operations take. -/
theorem isShort_of_follow {found : Place} (followed : files.follow purpose links asksDirectory here steps = .ok found) :
    ∀ step ∈ steps, IsShort step := by
  induction links using Nat.strong_induction_on generalizing asksDirectory here steps with
  | _ links fewerLinks =>
      induction steps generalizing here with
      | nil => simp
      | cons step steps ih =>
          obtain walked | ⟨fewer, directory, target, rest, rfl, -, walked, further⟩ := follow_cases followed
          · obtain ⟨-, isShort, taken⟩ := takes_of_descend walked
            refine List.forall_mem_cons.mpr ⟨isShort, ?_⟩
            cases taken with
            | goesOn _ walkedOn => exact ih ((follow_congr links (walkedOn.trans walked.symm)).trans followed)
            | file _ isLast => simp [isLast]
            | link _ isLast => simp [isLast]
            | free isLast => simp [isLast]
          · obtain ⟨-, isShort, taken⟩ := takes_of_descend walked
            refine List.forall_mem_cons.mpr ⟨isShort, ?_⟩
            cases taken with
            | goesOn _ walkedOn => exact ih ((follow_congr _ (walkedOn.trans walked.symm)).trans followed)
            | linked =>
                have behind := fewerLinks fewer (Nat.lt_succ_self fewer) further
                exact fun one member => behind one (List.mem_append_right _ member)

theorem get?_of_descend {names : List String} {node : Node}
    (walked : files.descend purpose asksDirectory here steps = .ok (.arrived (.taken names node))) :
    files.get? names = some node := by
  induction steps generalizing here with
  | nil =>
      unfold descend at walked
      split at walked
      · rename_i other found
        cases eq_of_arrive walked
        exact found
      · contradiction
  | cons step steps ih =>
      obtain ⟨-, -, taken⟩ := takes_of_descend walked
      cases taken with
      | goesOn _ walkedOn => exact ih walkedOn
      | file _ _ _ _ _ isFile => exact get?_of_face?_file isFile
      | link _ _ _ isLink => exact get?_of_link isLink

/-- What a path leads to stands at the place to which it leads. -/
theorem get?_of_follow {names : List String} {node : Node}
    (followed : files.follow purpose links asksDirectory here steps = .ok (.taken names node)) :
    files.get? names = some node := by
  induction links using Nat.strong_induction_on generalizing asksDirectory here steps with
  | _ links ih =>
      obtain walked | ⟨fewer, _, _, _, rfl, -, -, further⟩ := follow_cases followed
      · exact get?_of_descend walked
      · exact ih fewer (Nat.lt_succ_self fewer) further

/-- Only a path that the operations take leads anywhere. -/
theorem admissible_of_resolve {path : FilePath} {found : Place} (resolved : files.resolve purpose path = .ok found) :
    Admissible path := by
  unfold resolve at resolved
  split at resolved
  · contradiction
  · rename_i noNull
    split at resolved
    · contradiction
    · rename_i notEmpty
      split at resolved
      · contradiction
      · rename_i notLong
        exact ⟨by simpa using noNull, by simpa using notEmpty, Nat.le_of_not_lt notLong⟩

theorem follow_of_resolve {path : FilePath} {found : Place} (resolved : files.resolve purpose path = .ok found) :
    files.follow purpose 40 (asksForDirectory path.text) (files.startOf path) (stepsOf path.text) = .ok found :=
  (resolve_eq (admissible_of_resolve resolved) purpose).symm.trans resolved

theorem get?_of_resolve {path : FilePath} {names : List String} {node : Node}
    (resolved : files.resolve purpose path = .ok (.taken names node)) : files.get? names = some node :=
  get?_of_follow (follow_of_resolve resolved)

section Extends

variable (extended : files.Extends after)

include extended

theorem Extends.get? {names : List String} {node : Node} (found : files.get? names = some node) :
    ∃ other, after.get? names = some other ∧ other.face = node.face := by
  have same := extended.faces names node.face (by rw [face?_eq_map, found]; rfl)
  rw [face?_eq_map] at same
  exact Option.map_eq_some_iff.mp same

/-- A walk to the content of a place comes to that place also in a tree that has more. -/
theorem Extends.descend {names : List String} {node : Node}
    (walked : files.descend .content asksDirectory here steps = .ok (.arrived (.taken names node))) :
    ∃ other, after.descend .content asksDirectory here steps = .ok (.arrived (.taken names other)) := by
  induction steps generalizing here with
  | nil =>
      unfold FileSystem.descend at walked ⊢
      split at walked
      · rename_i old found
        obtain ⟨other, there, sameFace⟩ := extended.get? found
        have sameSort : other.isDirectory = old.isDirectory := by
          cases other <;> cases old <;> first | rfl | cases sameFace
        cases eq_of_arrive walked
        refine ⟨other, ?_⟩
        simp only [there]
        unfold arrive at walked ⊢
        rw [sameSort]
        split at walked
        · contradiction
        · rename_i allowed
          rw [if_neg allowed]
      · contradiction
  | cons step steps ih =>
      obtain ⟨isDirectory, isShort, taken⟩ := takes_of_descend walked
      have isHere := extended.faces _ _ isDirectory
      cases taken with
      | goesOn next walkedOn =>
          rw [descend_through (by simp) isHere isShort (extended.faces _ _ next)]
          exact ih walkedOn
      | file content isLast notCurrent notParent fits isFile arrived =>
          refine ⟨.file content, ?_⟩
          rw [descend_file (by simp) isHere notCurrent notParent fits (extended.faces _ _ isFile), isLast]
          exact arrived
      | link _ _ asked => contradiction

theorem Extends.descend_redirected {directory rest : List String} {target : String}
    (walked : files.descend .content asksDirectory here steps = .ok (.redirected directory target rest)) :
    after.descend .content asksDirectory here steps = .ok (.redirected directory target rest) := by
  induction steps generalizing here with
  | nil =>
      unfold FileSystem.descend at walked
      split at walked
      · cases eq_of_arrive walked
      · contradiction
  | cons step steps ih =>
      obtain ⟨isDirectory, isShort, taken⟩ := takes_of_descend walked
      have isHere := extended.faces _ _ isDirectory
      cases taken with
      | goesOn next walkedOn =>
          rw [descend_through (by simp) isHere isShort (extended.faces _ _ next)]
          exact ih walkedOn
      | linked target notCurrent notParent fits isLink =>
          rw [descend_link (by simp) isHere notCurrent notParent fits (extended.faces _ _ isLink), if_neg (by simp)]

theorem Extends.follow {names : List String} {node : Node}
    (followed : files.follow .content links asksDirectory here steps = .ok (.taken names node)) :
    ∃ other, after.follow .content links asksDirectory here steps = .ok (.taken names other) := by
  induction links using Nat.strong_induction_on generalizing asksDirectory here steps with
  | _ links ih =>
      obtain walked | ⟨fewer, directory, target, rest, rfl, nonempty, walked, further⟩ := follow_cases followed
      · obtain ⟨other, walkedThere⟩ := extended.descend walked
        refine ⟨other, ?_⟩
        unfold FileSystem.follow
        rw [walkedThere]
      · obtain ⟨other, followedThere⟩ := ih fewer (Nat.lt_succ_self fewer) further
        have isEmpty : target.isEmpty = false := by simpa using nonempty
        refine ⟨other, ?_⟩
        unfold FileSystem.follow
        rw [extended.descend_redirected walked]
        simp only [isEmpty, Bool.false_eq_true, if_false]
        exact followedThere

/-- A path that leads to the content of a place leads there also in a tree that has more. -/
theorem Extends.resolve {path : FilePath} {names : List String} {node : Node}
    (resolved : files.resolve .content path = .ok (.taken names node)) :
    ∃ other, after.get? names = some other ∧ other.face = node.face ∧
      after.resolve .content path = .ok (.taken names other) := by
  have admissible := admissible_of_resolve resolved
  obtain ⟨other, followed⟩ := extended.follow (follow_of_resolve resolved)
  obtain ⟨same, there, sameFace⟩ := extended.get? (get?_of_resolve resolved)
  obtain rfl := Option.some.inj (there.symm.trans (get?_of_follow followed))
  refine ⟨same, there, sameFace, ?_⟩
  rwa [resolve_eq admissible, startOf_congr extended.working rfl]

/-- A path that leads to a file leads to the same file in a tree that has more. -/
theorem Extends.resolve_file {path : FilePath} {names : List String} {content : ByteArray}
    (resolved : files.resolve .content path = .ok (.taken names (.file content))) :
    after.resolve .content path = .ok (.taken names (.file content)) := by
  obtain ⟨other, -, face, resolvedAfter⟩ := extended.resolve resolved
  cases other with
  | file same =>
      obtain rfl : same = content := by simpa [Node.face] using face
      exact resolvedAfter
  | link target => contradiction
  | directory entries => contradiction

end Extends

theorem directory_of_behind {name : String} {others : List String} {face : Node.Face}
    (found : files.face? (here ++ name :: others) = some face) : files.face? here = some .directory := by
  rw [face?_eq_map, get?, Node.get?_append, Option.map_eq_some_iff] at found
  obtain ⟨node, behind, -⟩ := found
  obtain ⟨directory, there, inside⟩ := Option.bind_eq_some_iff.mp behind
  rw [face?_eq_map, get?, there]
  cases directory with
  | directory entries => rfl
  | file content => contradiction
  | link target => contradiction

/-- Names of entries that lead to a file through directories lead to the place that they spell. -/
theorem descend_names {names : List String} (areNames : ∀ name ∈ names, name ≠ "." ∧ name ≠ ".." ∧ name.utf8ByteSize ≤ longestName)
    {node : Node} (found : files.get? (here ++ names) = some node) (noLink : ∀ target, node ≠ .link target)
    (someNames : names ≠ []) :
    files.descend .content false here names = .ok (.arrived (.taken (here ++ names) node)) := by
  induction names generalizing here with
  | nil => contradiction
  | cons name others ih =>
      obtain ⟨⟨notCurrent, notParent, fits⟩, othersAreNames⟩ := List.forall_mem_cons.mp areNames
      have face : files.face? (here ++ name :: others) = some node.face := by rw [face?_eq_map, found, Option.map_some]
      have isDirectory : files.face? here = some .directory := directory_of_behind face
      have step : advance here name = here ++ [name] := advance_name notCurrent notParent here
      cases others with
      | nil =>
          cases node with
          | file content =>
              rw [descend_file (by simp) isDirectory notCurrent notParent fits face]
              simp [arrive]
          | link target => exact absurd rfl (noLink target)
          | directory entries =>
              rw [descend_through (by simp) isDirectory (.inr (.inr fits)) (step.symm ▸ face), step, descend_nil found]
      | cons next rest =>
          have split : here ++ name :: next :: rest = (here ++ [name]) ++ next :: rest := by simp
          rw [split] at found face ⊢
          have isNext : files.face? (advance here name) = some .directory := step ▸ directory_of_behind face
          rw [descend_through (by simp) isDirectory (.inr (.inr fits)) isNext, step]
          exact ih othersAreNames found (by simp)

end Companion.FileSystem
