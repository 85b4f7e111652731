import NodeFlags.Main
import NodeFlags.Proofs.Gates
import NodeFlags.Proofs.Utf8Order
import NodeFlags.Proofs.Listing
import NodeFlags.Proofs.Filling
import NodeFlags.Proofs.Rendering
import NodeFlags.Proofs.Layers
import NodeFlags.Proofs.Numeral
import NodeFlags.Proofs.Outcome
import NodeFlags.Proofs.Digits
import NodeFlags.Proofs.MinorRelease
import NodeFlags.Proofs.VersionOrder
import NodeFlags.Proofs.VersionText
import NodeFlags.Proofs.Pass
import NodeFlags.Proofs.Upgrade
import NodeFlags.Proofs.Repetition
import NodeFlags.Proofs.Chain
import NodeFlags.Proofs.Precedence
import NodeFlags.Proofs.Composite
import NodeFlags.Proofs.PidLimit
import NodeFlags.Proofs.Distinct
import NodeFlags.Proofs.Independence
import NodeFlags.Proofs.JsonToken
import NodeFlags.Proofs.JsonValue
import NodeFlags.Proofs.JsonLayout
import NodeFlags.Proofs.JsonReport
import NodeFlags.Proofs.Release
import NodeFlags.Proofs.Comment
import NodeFlags.Proofs.CommentRemoval
import NodeFlags.Proofs.Document
import NodeFlags.Proofs.JsonRecord
import NodeFlags.Proofs.Stored
import NodeFlags.Proofs.Arguments
import NodeFlags.Proofs.Selection
import NodeFlags.Proofs.References
