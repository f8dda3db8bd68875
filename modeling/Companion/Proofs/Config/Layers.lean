import Companion.Proofs.Build.Stages
import Companion.Proofs.Naming

/-!
Layers of a configuration. Host options and single settings are put on top of a configuration one after another, and each
field has the value of the last layer that sets it. Host options whose language cannot be read are refused; what they say
of the other fields counts all the same, and the layers above them are put on top as ever.
-/

set_option autoImplicit false

namespace Companion.Config

/-- What is put on top of a configuration: host options, or a single setting. -/
inductive Layer where
  | options (host : HostOptions)
  | directory (path : FilePath)
  | marker (tag : String)
  | language (chosen : Language)
  deriving DecidableEq, Repr

namespace Layer

def directory? : Layer → Option FilePath
  | .options host => (host.lookup HostOptions.generatedDirectory).map FilePath.mk
  | .directory path => some path
  | .marker _ | .language _ => none

def marker? : Layer → Option String
  | .options host => host.lookup HostOptions.marker
  | .marker tag => some tag
  | .directory _ | .language _ => none

def language? : Layer → Option Language
  | .options host => host.language?
  | .language chosen => some chosen
  | .directory _ | .marker _ => none

def flaw? : Layer → Option ConfigError
  | .options host => host.flaw?
  | .directory _ | .marker _ | .language _ => none

/-- A layer that is refused leaves the language as it is. -/
theorem language?_of_flaw? {layer : Layer} {reason : ConfigError} (flawed : layer.flaw? = some reason) :
    layer.language? = none := by
  cases layer with
  | options host =>
      obtain ⟨name, unknown, given, unread, -⟩ := HostOptions.exists_of_flaw? flawed
      simp [language?, HostOptions.language?, given, unread, Except.toOption]
  | directory path => rfl
  | marker tag => rfl
  | language chosen => exact nomatch flawed

end Layer

def put (config : Config) : Layer → Config × Option ConfigError
  | .options host => config.applyOptions host
  | .directory path => (config.withDirectory path, none)
  | .marker tag => (config.withMarker tag, none)
  | .language chosen => (config.withLanguage chosen, none)

/-- Puts layers on top of a configuration, each on top of those before it, and tells of each why it is refused, if it is. -/
def putAll (config : Config) : List Layer → Config × List (Option ConfigError)
  | [] => (config, [])
  | layer :: above =>
      let (next, flaw) := config.put layer
      let (final, flaws) := next.putAll above
      (final, flaw :: flaws)

/-- A layer sets the fields that it has a value for, and no other. -/
theorem put_eq (config : Config) (layer : Layer) :
    config.put layer =
      (⟨layer.directory?.or config.generatedDirectory, layer.marker?.getD config.marker,
        layer.language?.getD config.language⟩, layer.flaw?) := by
  cases layer with
  | options host => exact applyOptions_eq config host
  | directory path => rfl
  | marker tag => rfl
  | language chosen => rfl

/-- Whether a value is that of the last layer that sets one, or the initial value if none of the layers does. -/
inductive LastSet {α : Type} (sets : Layer → Option α) (initial : α) : List Layer → α → Prop
  | layer (below : List Layer) {last : Layer} {above : List Layer} {value : α} (isSet : sets last = some value)
      (kept : ∀ other ∈ above, sets other = none) : LastSet sets initial (below ++ last :: above) value
  | initial {layers : List Layer} (kept : ∀ other ∈ layers, sets other = none) : LastSet sets initial layers initial

/-- A field that every layer sets or keeps has, behind all layers, the value of the last that sets it. -/
theorem lastSet_putAll {α : Type} {sets : Layer → Option α} {field : Config → α}
    (step : ∀ config layer, field (config.put layer).1 = (sets layer).getD (field config)) (config : Config)
    (layers : List Layer) : LastSet sets (field config) layers (field (config.putAll layers).1) := by
  induction layers generalizing config with
  | nil => exact .initial (by simp)
  | cons layer above ih =>
      change LastSet sets (field config) (layer :: above) (field ((config.put layer).1.putAll above).1)
      have stepped := step config layer
      have further := ih (config.put layer).1
      generalize field ((config.put layer).1.putAll above).1 = final at further ⊢
      cases further with
      | layer below isSet kept => exact .layer (layer :: below) isSet kept
      | initial kept =>
          -- Nothing above sets the field, so the lowest layer decides whether the initial value stands.
          rw [stepped]
          cases value : sets layer with
          | none => exact .initial (List.forall_mem_cons.mpr ⟨value, kept⟩)
          | some found => exact .layer [] value kept

theorem flaws_putAll (config : Config) (layers : List Layer) : (config.putAll layers).2 = layers.map Layer.flaw? := by
  induction layers generalizing config with
  | nil => rfl
  | cons layer above ih => simp only [putAll, List.map_cons, ih, put_eq]

/-- Whether a configuration says where to put what is generated. -/
def HasDirectory (config : Config) : Prop :=
  ∃ path, config.generatedDirectory = some path ∧ path.text ≠ ""

/-- How a configuration is validated. It is accepted, with its values as they are, exactly if it has a directory and its
marker is a plain identifier. A missing directory is told before a marker that is none. -/
structure Judged (config : Config) : Prop where
  accepted : ∀ settings, config.validate = .ok settings ↔ ∃ path, config.generatedDirectory = some path ∧ path.text ≠ "" ∧
    Naming.Matches config.marker Naming.identifierPattern ∧ settings = ⟨path, config.marker, config.language⟩
  undirected : ¬ config.HasDirectory → config.validate = .error (.missingOutput "extractfield.generated")
  unmarked : config.HasDirectory → ¬ Naming.Matches config.marker Naming.identifierPattern →
    config.validate = .error (.invalidMarker config.marker)

theorem judged (config : Config) : config.Judged := by
  constructor
  case accepted =>
    intro settings
    rw [validate_eq_ok_iff, Naming.isIdentifier_iff]
  case undirected =>
    intro undirected
    unfold validate
    split
    · rfl
    · rename_i path given
      have isEmpty : path.text = "" := by
        by_contra nonempty
        exact undirected ⟨path, given, nonempty⟩
      simp [isEmpty, HostOptions.generatedDirectory]
  case unmarked =>
    rintro ⟨path, given, nonempty⟩ unmarked
    rw [← Naming.isIdentifier_iff] at unmarked
    simp [validate, given, nonempty, unmarked]

/-- What layers on top of a configuration make of it: each field has the value of the last layer that sets it, the layers with
a flaw are told and leave the language as it is, and validation goes by the values that there are in the end. -/
structure Layered (start : Config) (layers : List Layer) (final : Config) (flaws : List (Option ConfigError)) : Prop where
  directory : LastSet (fun layer => layer.directory?.map some) start.generatedDirectory layers final.generatedDirectory
  marker : LastSet Layer.marker? start.marker layers final.marker
  language : LastSet Layer.language? start.language layers final.language
  flaws : flaws = layers.map Layer.flaw?
  refused : ∀ layer ∈ layers, ∀ reason, layer.flaw? = some reason → layer.language? = none
  validated : final.Judged

/-- Whatever configuration is started from, the default one or one that was read, its layers settle it, the last of them first
of all. -/
theorem putAll_layered (start : Config) (layers : List Layer) :
    Layered start layers (start.putAll layers).1 (start.putAll layers).2 where
  directory := lastSet_putAll (fun config layer => by rw [put_eq]; cases layer.directory? <;> rfl) start layers
  marker := lastSet_putAll (fun config layer => by rw [put_eq]) start layers
  language := lastSet_putAll (fun config layer => by rw [put_eq]) start layers
  flaws := flaws_putAll start layers
  refused := fun _ _ _ flawed => Layer.language?_of_flaw? flawed
  validated := judged _

/-- Options with a language that is not known set the marker, and leave the language to the layers around them. -/
example :
    let layers : List Layer := [.language .kotlin, .options [("extractfield.language", "cobol"), ("extractfield.annotation", "model")],
      .options [("unrelated", ""), ("extractfield.generated", "gen")]]
    Config.default.putAll layers =
      (⟨some ⟨"gen"⟩, "model", .kotlin⟩, [none, some (.unknownLanguage "cobol"), none]) := by
  decide

end Companion.Config
