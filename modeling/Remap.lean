import Remap.Datum.Json
import Remap.Main
import Remap.Proofs.Convert.IntegerText
import Remap.Proofs.Convert.Thousands
import Remap.Proofs.Definition.Declared
import Remap.Proofs.Definition.Document
import Remap.Proofs.Definition.Entries
import Remap.Proofs.Definition.Fitting
import Remap.Proofs.Definition.Repeat
import Remap.Proofs.Definition.Trees
import Remap.Proofs.Definition.WellFormed
import Remap.Proofs.Expression.FullMatch
import Remap.Proofs.Expression.Offender
import Remap.Proofs.Expression.Renderings
import Remap.Proofs.Expression.Towers
import Remap.Proofs.Json.RoundTrip
import Remap.Proofs.Mapping.Assembly
import Remap.Proofs.Mapping.Binding
import Remap.Proofs.Mapping.CopyAll
import Remap.Proofs.Mapping.ReadOnly
import Remap.Proofs.Model.Conformance
import Remap.Proofs.Model.Instances
import Remap.Proofs.Path.Names
import Remap.Proofs.Path.TwoWrites
