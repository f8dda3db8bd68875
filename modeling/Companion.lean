import Companion.Build
import Companion.Main
import Companion.Marker
import Companion.Proofs.Round.Confinement
import Companion.Proofs.Marker.Agreement
import Companion.Proofs.Source.Indexing
import Companion.Proofs.Round.Order
import Companion.Proofs.Render.KotlinNames
import Companion.Proofs.Render.KotlinSources
import Companion.Proofs.Syntax.Literals
import Companion.Proofs.Syntax.Forms
import Companion.Proofs.Syntax.Reads
import Companion.Proofs.Syntax.TypeNames
import Companion.Proofs.Syntax.TypeForms
import Companion.Proofs.Render.RustTypes
import Companion.Proofs.Render.RustForms
import Companion.Proofs.Syntax.TypeReads
import Companion.Proofs.Syntax.RecordReads
import Companion.Proofs.Build.Overrides
import Companion.Proofs.Build.Stages
import Companion.Proofs.FileSystem.Causes
import Companion.Proofs.Build.Directives
import Companion.Proofs.Emission.Repetition
import Companion.Proofs.Round.Repetition
import Companion.Proofs.Syntax.BodyReads
import Companion.Proofs.Syntax.FunctionReads
import Companion.Proofs.Text.Runs
import Companion.Proofs.Render.RustReads
import Companion.Proofs.Source.ReadBack
import Companion.Proofs.Source.Lookup
import Companion.Proofs.Round.Hosts
import Companion.Proofs.Render.Shape
import Companion.Proofs.Build.Divergence
import Companion.Proofs.TypeRef.ReadBack
import Companion.Proofs.TypeRef.Paths
import Companion.Proofs.Render.Documentation
import Companion.Proofs.Command.Flags
import Companion.Proofs.Round.Alike
import Companion.Proofs.Command.Agreement
import Companion.Proofs.Render.Comments
import Companion.Proofs.Render.Imports
import Companion.Proofs.Emission.OutputPath
import Companion.Proofs.Source.Trees
import Companion.Proofs.Namespace.Dotted
import Companion.Proofs.Synthesis
import Companion.Proofs.Config.Layers
import Companion.Proofs.Command.Forecast
