import Companion.Namespace
import Companion.Proofs.Text.Split
import Companion.Proofs.Text.Trim

set_option autoImplicit false

namespace Companion.Namespace

theorem segments_ofSegments {segments : List String} (noneEmpty : "" ∉ segments) :
    (ofSegments segments).segments = segments := by
  refine List.filter_eq_self.mpr fun segment member => ?_
  simpa using fun empty : segment = "" => noneEmpty (empty ▸ member)

@[simp] theorem ofSegments_segments (space : Namespace) : ofSegments space.segments = space :=
  Namespace.ext (segments_ofSegments space.noneEmpty)

/-- Whether a text can stand between dots as it is. -/
structure IsPlain (segment : String) : Prop where
  noDot : '.' ∉ segment.toList
  trimmed : Text.IsTrimmed segment

theorem isPlain_of_mem_ofDotted {text segment : String} (member : segment ∈ (ofDotted text).segments) : IsPlain segment := by
  have inPieces : segment ∈ (Text.split (· == '.') text).map Text.trim := (List.mem_filter.mp member).1
  obtain ⟨piece, isPiece, rfl⟩ := List.mem_map.mp inPieces
  obtain ⟨chars, isSplit, rfl⟩ := List.mem_map.mp isPiece
  refine ⟨fun inside => ?_, Text.isTrimmed_trim _⟩
  have inChars : '.' ∈ chars := by simpa using Text.mem_of_mem_trim inside
  simpa using Text.not_separates_of_mem_splitChars isSplit inChars

/-- Segments that can stand between dots are read from what is written of them. -/
theorem ofDotted_toDotted {space : Namespace} (plain : ∀ segment ∈ space.segments, IsPlain segment) :
    ofDotted space.toDotted = space := by
  obtain ⟨segments, noneEmpty⟩ := space
  by_cases none : segments = []
  · subst none
    rfl
  · have pieces : Text.split (· == '.') (String.intercalate "." segments) = segments :=
      Text.split_intercalate none fun segment member => (plain segment member).noDot
    have trimmed : segments.map Text.trim = segments :=
      (List.map_congr_left fun segment member => Text.trim_eq_self_iff.mpr (plain segment member).trimmed).trans
        (List.map_id' segments)
    rw [ofDotted, toDotted, pieces, trimmed]
    exact ofSegments_segments ⟨segments, noneEmpty⟩

/-- No namespace has an empty segment. Writing a namespace with dots and reading it again gives the namespace exactly if its
segments have neither dots nor white space at their ends; and what was read once is read again. -/
theorem ofDotted_toDotted_eq_iff :
    (∀ space : Namespace, "" ∉ space.segments ∧
      (ofDotted space.toDotted = space ↔ ∀ segment ∈ space.segments, '.' ∉ segment.toList ∧
        (∀ c ∈ segment.toList.head?, Text.isBlank c = false) ∧ ∀ c ∈ segment.toList.getLast?, Text.isBlank c = false)) ∧
      ∀ text, ofDotted (ofDotted text).toDotted = ofDotted text := by
  constructor
  · intro space
    refine ⟨space.noneEmpty, fun same segment member => ?_, fun plain => ?_⟩
    · rw [← same] at member
      have plain := isPlain_of_mem_ofDotted member
      exact ⟨plain.noDot, plain.trimmed.first, plain.trimmed.last⟩
    · refine ofDotted_toDotted fun segment member => ?_
      obtain ⟨noDot, first, last⟩ := plain segment member
      exact ⟨noDot, first, last⟩
  · exact fun text => ofDotted_toDotted fun segment => isPlain_of_mem_ofDotted

/-- A segment with a dot falls apart when it is read, and white space at the end of one is lost. -/
theorem ofDotted_toDotted_eq_iff_version :
    let space := (ofSegments ["app", "", "v1.2"]).child "model "
    "" ∉ space.segments ∧ ofDotted space.toDotted ≠ space := by
  obtain ⟨noneEmpty, same⟩ := ofDotted_toDotted_eq_iff.1 ((ofSegments ["app", "", "v1.2"]).child "model ")
  exact ⟨noneEmpty, fun unchanged => (same.mp unchanged "v1.2" (by decide)).1 (by decide)⟩

end Companion.Namespace
