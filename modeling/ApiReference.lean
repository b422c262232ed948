import ApiReference.Main
import ApiReference.Proofs.Document.Attribution
import ApiReference.Proofs.Document.Catalog
import ApiReference.Proofs.Document.Exclusion
import ApiReference.Proofs.Document.LoadOrder
import ApiReference.Proofs.Document.MemberListing
import ApiReference.Proofs.Document.Redaction
import ApiReference.Proofs.Document.Renaming
import ApiReference.Proofs.Envelope.Building
import ApiReference.Proofs.Envelope.RoundTrip
import ApiReference.Proofs.Graph.Hiding
import ApiReference.Proofs.Graph.ImportLine
import ApiReference.Proofs.Graph.OptOut
import ApiReference.Proofs.Graph.Routing
import ApiReference.Proofs.Graph.Traversal
import ApiReference.Proofs.Run.Envelope
import ApiReference.Proofs.Run.Render
import ApiReference.Proofs.Settings.Override
import ApiReference.Proofs.Settings.RoundTrip
import ApiReference.Proofs.Symbol.Document
import ApiReference.Proofs.Run.Precedence
import ApiReference.Proofs.CommandLine.Argument
import ApiReference.Proofs.CommandLine.Spelling
import ApiReference.Proofs.Settings.VariableValues
