import TypeProjection.Main
import TypeProjection.Proofs.Projection.Accessors
import TypeProjection.Proofs.Projection.Emission
import TypeProjection.Proofs.Registry.Loading
import TypeProjection.Proofs.Registry.Indexed
import TypeProjection.Proofs.Registry.Flattening
import TypeProjection.Proofs.Schema.Meaning
import TypeProjection.Proofs.Override.Meaning
import TypeProjection.Proofs.Document.Acceptance
import TypeProjection.Proofs.Projection.Definitions
import TypeProjection.Proofs.Projection.EmptyNames
import TypeProjection.Proofs.Projection.Worklist
import TypeProjection.Proofs.Projection.Shown
import TypeProjection.Proofs.Projection.DeclarationOrder
import TypeProjection.Proofs.Projection.Locality
import TypeProjection.Proofs.Projection.PlainData
import TypeProjection.Proofs.Registry.Rearranged
import TypeProjection.Proofs.Projection.Unused
import TypeProjection.Proofs.Registry.Added
import TypeProjection.Proofs.Registry.Members
import TypeProjection.Proofs.Layout.Breaks
import TypeProjection.Proofs.Projection.Configurations
import TypeProjection.Proofs.Schema.Writing
import TypeProjection.Proofs.Layout.Shifted
import TypeProjection.Proofs.Projection.Sinks
import TypeProjection.Proofs.Projection.Unions
import TypeProjection.Proofs.Document.Respelled
import TypeProjection.Proofs.Document.Mended
import TypeProjection.Proofs.Schema.Violations
import TypeProjection.Proofs.Command.Modes
import TypeProjection.Proofs.Projection.Journal
import TypeProjection.Proofs.Layout.Depth
import TypeProjection.Proofs.Document.WholeElements
import TypeProjection.Proofs.NameStyle
