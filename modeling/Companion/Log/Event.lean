import Companion.Log.Level

set_option autoImplicit false

namespace Companion.Log

inductive Event where
  | genericsDropped (declaration : String)
  | textParsed (file space : String) (indexed : Nat)
  | sourcesLoaded (files : Nat)
  | nothingAnnotated (marker : String)
  | roundStarted (marker : String) (declarations : Nat) (outputRoot : String)
  | metadataRead (declaration : String) (fields : Nat)
  | typeSynthesized (name : String) (properties methods : Nat)
  | fileGenerated (declaration path : String)
  | declarationRejected (reason declaration kind : String)
  | generationFailed (declaration error : String)
  | roundFinished (generated rejected failed : Nat)
  deriving DecidableEq, Repr

namespace Event

def level : Event → Level
  | genericsDropped _ | declarationRejected .. | generationFailed .. => .warn
  | roundStarted .. | roundFinished .. => .info
  | sourcesLoaded _ | nothingAnnotated _ | fileGenerated .. => .debug
  | textParsed .. | metadataRead .. | typeSynthesized .. => .trace

def origin : Event → String
  | genericsDropped _ | textParsed .. => "extractfield_syn::source"
  | sourcesLoaded _ => "extractfield::generate"
  | metadataRead .. => "extractfield_core::reader"
  | _ => "extractfield_core::driver"

def message : Event → String
  | genericsDropped _ => "generic parameters are not carried over to the generated type"
  | textParsed .. => "parsed source"
  | sourcesLoaded _ => "loaded sources"
  | nothingAnnotated _ => "no annotated declarations"
  | roundStarted .. => "generation round started"
  | metadataRead .. => "read declaration metadata"
  | typeSynthesized .. => "synthesized"
  | fileGenerated .. => "generated"
  | declarationRejected reason _ _ => reason
  | generationFailed .. => "generation failed"
  | roundFinished .. => "generation round finished"

def values : Event → List (String × String)
  | genericsDropped declaration => [("declaration", declaration)]
  | textParsed file space indexed =>
      [("file", file), ("namespace", space), ("indexed", toString indexed)]
  | sourcesLoaded files => [("files", toString files)]
  | nothingAnnotated marker => [("annotation", marker)]
  | roundStarted marker declarations outputRoot =>
      [("annotation", marker), ("declarations", toString declarations), ("output_root", outputRoot)]
  | metadataRead declaration fields => [("declaration", declaration), ("fields", toString fields)]
  | typeSynthesized name properties methods =>
      [("name", name), ("properties", toString properties), ("methods", toString methods)]
  | fileGenerated declaration path => [("declaration", declaration), ("path", path)]
  | declarationRejected _ declaration kind => [("declaration", declaration), ("kind", kind)]
  | generationFailed declaration error => [("declaration", declaration), ("error", error)]
  | roundFinished generated rejected failed =>
      [("generated", toString generated), ("rejected", toString rejected), ("failed", toString failed)]

def levelColumn (event : Event) : String :=
  let text := event.level.display
  String.ofList (List.replicate (5 - text.length) ' ') ++ text

def line (event : Event) : String :=
  event.levelColumn ++ " " ++ event.origin ++ ": " ++ event.message
    ++ String.join (event.values.map fun value => " " ++ value.1 ++ "=" ++ value.2) ++ "\n"

end Event

end Companion.Log
