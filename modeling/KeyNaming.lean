import KeyNaming.Diagnostic.Finding
import KeyNaming.Display
import KeyNaming.Pattern.Parameters
import KeyNaming.Workspace
import KeyNaming.Proofs.Key.Significant
import KeyNaming.Proofs.Pattern.KeyIdentity
import KeyNaming.Proofs.Pattern.Pieces
import KeyNaming.Proofs.Pattern.Recognition
import KeyNaming.Proofs.Pattern.RoundTrip
import KeyNaming.Proofs.Key.WrittenForm
import KeyNaming.Proofs.Key.Equivalence
import KeyNaming.Proofs.Template.Grammar
import KeyNaming.Proofs.Outcome
import KeyNaming.Proofs.Template.Reading
import KeyNaming.Proofs.Pattern.Derivation
import KeyNaming.Proofs.Pattern.Rejection
import KeyNaming.Proofs.Pattern.Compilation
import KeyNaming.Proofs.Entries
import KeyNaming.Proofs.Key.Table
import KeyNaming.Proofs.Pattern.Captured
import KeyNaming.Proofs.Pattern.Success
import KeyNaming.Proofs.Pattern.Narrowing
import KeyNaming.Proofs.Pattern.Multiplicity
import KeyNaming.Proofs.Key.Representation
import KeyNaming.Proofs.Key.Rearrangement
import KeyNaming.Proofs.Key.Hash
import KeyNaming.Proofs.Pattern.Layout
import KeyNaming.Proofs.Template.Collision
import KeyNaming.Proofs.Pattern.Pinned
import KeyNaming.Proofs.Pattern.Acceptance
import KeyNaming.Proofs.Pattern.SharingFrame
import KeyNaming.Proofs.Pattern.Extension
import KeyNaming.Proofs.Pattern.Relevance
import KeyNaming.Proofs.Key.NumberedEscape
import KeyNaming.Proofs.Key.Tokens
import KeyNaming.Proofs.Key.Composition
import KeyNaming.Proofs.Key.Sensitivity
import KeyNaming.Proofs.Diagnostic.Span
import KeyNaming.Proofs.Key.Faults
import KeyNaming.Proofs.Template.Faults
import KeyNaming.Proofs.Pattern.Faults
import KeyNaming.Proofs.Key.Deletion
import KeyNaming.Proofs.Pattern.Lookup
import KeyNaming.Proofs.Pattern.Positions
import KeyNaming.Proofs.Pattern.Mention
import KeyNaming.Proofs.Key.Registration
import KeyNaming.Proofs.Pattern.Building
import KeyNaming.Proofs.Pattern.Verbatim
import KeyNaming.Proofs.Pattern.ValueOrder
import KeyNaming.Proofs.Diagnostic.Batch
import KeyNaming.Proofs.Diagnostic.Carets
import KeyNaming.Proofs.Pattern.Anchors
