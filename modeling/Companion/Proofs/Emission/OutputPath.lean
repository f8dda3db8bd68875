import Companion.Proofs.Emission

set_option autoImplicit false

namespace Companion

theorem FilePath.suffix_join (path : FilePath) (below : String) : below.toList <:+ (path.join below).text.toList := by
  unfold join
  split
  · exact List.suffix_rfl
  · split
    · rw [String.toList_append]
      exact List.suffix_append ..
    · rw [String.toList_append]
      exact List.suffix_append ..

theorem Language.extension_injective : Function.Injective Language.extension := by
  intro language other same
  cases language <;> cases other <;> first | rfl | exact absurd same (by decide)

theorem Language.length_extension (language : Language) : language.extension.toList.length = 2 := by
  cases language <;> rfl

theorem Naming.companion_injective : Function.Injective Naming.companion := by
  intro name other same
  exact String.append_right_inj _ |>.mp same

namespace CompanionType

variable {type other : CompanionType} {root otherRoot : FilePath} {language otherLanguage : Language}

/-- The path of a companion ends in the extension of its language, whatever the type and the output root. -/
theorem suffix_outputPath (type : CompanionType) (root : FilePath) (language : Language) :
    language.extension.toList <:+ (type.outputPath root language.extension).text.toList := by
  have ofName : language.extension.toList <:+ (type.fileName language.extension).toList := by
    rw [fileName, String.toList_append]
    exact List.suffix_append ..
  rw [outputPath_eq_join]
  exact ofName.trans (FilePath.suffix_join ..)

theorem language_eq_of_outputPath_eq
    (same : type.outputPath root language.extension = other.outputPath otherRoot otherLanguage.extension) :
    language = otherLanguage := by
  have isSuffix := suffix_outputPath type root language
  have otherIsSuffix := suffix_outputPath other otherRoot otherLanguage
  rw [same] at isSuffix
  have lengths : language.extension.toList.length = otherLanguage.extension.toList.length := by
    rw [Language.length_extension, Language.length_extension]
  have shared := List.suffix_of_suffix_length_le isSuffix otherIsSuffix (Nat.le_of_eq lengths)
  exact Language.extension_injective (String.toList_injective (shared.eq_of_length lengths))

theorem isStep_fileName (slashFree : '/' ∉ type.name.toList) (language : Language) :
    IsStep (type.fileName language.extension) := by
  have extension : '/' ∉ language.extension.toList := by
    cases language <;> decide
  constructor
  · intro isEmpty
    have chars := congrArg String.toList isEmpty
    simp [fileName] at chars
  · simp [fileName, slashFree, extension]

theorem areSteps_outputPath (areSteps : ∀ segment ∈ type.space.segments, IsStep segment)
    (slashFree : '/' ∉ type.name.toList) (language : Language) :
    ∀ step ∈ type.space.segments ++ [type.fileName language.extension], IsStep step :=
  List.forall_mem_append.mpr ⟨areSteps, List.forall_mem_singleton.mpr (isStep_fileName slashFree language)⟩

theorem fileName_injective {extension : String} (same : type.fileName extension = other.fileName extension) :
    type.name = other.name := by
  unfold fileName at same
  rw [String.append_assoc, String.append_assoc] at same
  exact (String.append_left_inj _).mp same

theorem outputPath_eq_below (areSteps : ∀ segment ∈ type.space.segments, IsStep segment)
    (slashFree : '/' ∉ type.name.toList) (root : FilePath) (language : Language) :
    type.outputPath root language.extension = root.below (type.space.segments ++ [type.fileName language.extension]) :=
  type.outputPath_eq areSteps (FilePath.isAbsolute_of_slashFree (isStep_fileName slashFree language).slash)

/-- Below one output root two companions have the same path only if they have the same name, in the same namespace. -/
theorem eq_of_outputPath_eq (areSteps : ∀ segment ∈ type.space.segments, IsStep segment) (slashFree : '/' ∉ type.name.toList)
    (othersAreSteps : ∀ segment ∈ other.space.segments, IsStep segment) (otherSlashFree : '/' ∉ other.name.toList)
    (same : type.outputPath root language.extension = other.outputPath root language.extension) :
    type.space.segments = other.space.segments ∧ type.name = other.name := by
  rw [outputPath_eq_below areSteps slashFree, outputPath_eq_below othersAreSteps otherSlashFree] at same
  have ofSteps := areSteps_outputPath areSteps slashFree language
  have ofOthers := areSteps_outputPath othersAreSteps otherSlashFree language
  obtain ⟨segments, names⟩ := List.append_singleton_inj.mp (root.below_injective ofSteps ofOthers same)
  exact ⟨segments, fileName_injective names⟩

end CompanionType

/-- Distinct types get distinct files. Below an output root the companions of two types have one path exactly if the types
have the same name in the same namespace, and the companions are written in the same language. In different languages the
paths differ, wherever the output roots are. -/
theorem outputPath_eq_iff {name otherName : String} {space otherSpace : Namespace} (slashFree : '/' ∉ name.toList)
    (otherSlashFree : '/' ∉ otherName.toList) (areSteps : ∀ segment ∈ space.segments, IsStep segment)
    (othersAreSteps : ∀ segment ∈ otherSpace.segments, IsStep segment) (fields otherFields : List Field) (root : FilePath)
    (language otherLanguage : Language) :
    let type := synthesize name space fields
    let other := synthesize otherName otherSpace otherFields
    (type.outputPath root language.extension = other.outputPath root otherLanguage.extension ↔
        language = otherLanguage ∧ space.segments = otherSpace.segments ∧ name = otherName) ∧
      ∀ otherRoot, language ≠ otherLanguage →
        type.outputPath root language.extension ≠ other.outputPath otherRoot otherLanguage.extension := by
  intro type other
  have noSlash : ∀ {name : String}, '/' ∉ name.toList → '/' ∉ (Naming.companion name).toList := fun slashFree => by
    simpa [Naming.companion] using slashFree
  refine ⟨⟨fun same => ?_, ?_⟩, fun _ differ same => differ (CompanionType.language_eq_of_outputPath_eq same)⟩
  · obtain rfl : language = otherLanguage := CompanionType.language_eq_of_outputPath_eq same
    have isFree : '/' ∉ type.name.toList := noSlash slashFree
    have otherIsFree : '/' ∉ other.name.toList := noSlash otherSlashFree
    obtain ⟨segments, names⟩ := CompanionType.eq_of_outputPath_eq areSteps isFree othersAreSteps otherIsFree same
    exact ⟨rfl, segments, Naming.companion_injective names⟩
  · rintro ⟨rfl, segments, rfl⟩
    obtain rfl : space = otherSpace := Namespace.ext segments
    rfl

theorem outputPath_eq_iff_nested :
    let type := synthesize "User" ⟨["app"], by decide⟩ []
    let nested := synthesize "User" ⟨["app", "ExtractFieldUser.rs"], by decide⟩ []
    type.outputPath ⟨"gen/"⟩ Language.rust.extension = ⟨"gen/app/ExtractFieldUser.rs"⟩ ∧
      nested.outputPath ⟨"gen/"⟩ Language.rust.extension = ⟨"gen/app/ExtractFieldUser.rs/ExtractFieldUser.rs"⟩ ∧
      type.outputPath ⟨"gen/"⟩ Language.rust.extension ≠ nested.outputPath ⟨"gen/"⟩ Language.rust.extension ∧
      type.outputPath ⟨"gen/"⟩ Language.rust.extension ≠ nested.outputPath ⟨""⟩ Language.kotlin.extension := by
  intro type nested
  have steps : ∀ segment ∈ ["app", "ExtractFieldUser.rs"], IsStep segment := by
    intro segment member
    constructor
    · revert segment; decide
    · revert segment; decide
  have slashFree : '/' ∉ "User".toList := by decide
  have first : ∀ segment ∈ Namespace.segments ⟨["app"], by decide⟩, IsStep segment :=
    List.forall_mem_singleton.mpr (steps "app" (by simp))
  have both : ∀ segment ∈ Namespace.segments ⟨["app", "ExtractFieldUser.rs"], by decide⟩, IsStep segment := steps
  have distinct := outputPath_eq_iff slashFree slashFree first both [] [] ⟨"gen/"⟩
  refine ⟨by decide, by decide, fun same => ?_, (distinct .rust .kotlin).2 ⟨""⟩ (by decide)⟩
  obtain ⟨-, segments, -⟩ := (distinct .rust .rust).1.mp same
  exact absurd segments (by decide)

end Companion
