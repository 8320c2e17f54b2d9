import DataContract.Declaration.Decode
import DataContract.Declaration.Encode
import DataContract.Document.Json.Read
import DataContract.Document.Json.Write
import DataContract.Generator
import DataContract.Host.Directory
import DataContract.Host.Memory
import DataContract.Proofs.UnitName.Injective
import DataContract.Proofs.Cache.Parts
import DataContract.Proofs.Generation.Relevant
import DataContract.Proofs.Pass.Run
import DataContract.Proofs.Cache.Separation
import DataContract.Proofs.Pass.Delivery
import DataContract.Proofs.Cache.Provenance
import DataContract.Proofs.Source.Lines
import DataContract.Proofs.Source.Indentation
import DataContract.Proofs.Cache.Confusion
import DataContract.Proofs.Cache.Transparency
import DataContract.Proofs.Text.Lowercase
import DataContract.Proofs.UnitName.Folding
import DataContract.Proofs.Pass.Submission
import DataContract.Proofs.Host.Directory
import DataContract.Proofs.Generator.Reached
import DataContract.Proofs.Generator.Survival
import DataContract.Proofs.Source.Capture
import DataContract.Proofs.Cache.Eviction
import DataContract.Proofs.Pass.LifeCycle
import DataContract.Proofs.Pass.Reference
import DataContract.Proofs.Document.Json.Scalar
import DataContract.Proofs.Document.Json.RoundTrip
import DataContract.Proofs.Document.Record
import DataContract.Proofs.Declaration.RoundTrip
import DataContract.Proofs.Host.Recording
import DataContract.Proofs.Pass.Refusal
import DataContract.Proofs.Pass.Story
import DataContract.Proofs.Cache.Accounting
import DataContract.Proofs.Source.Nesting
import DataContract.Proofs.Generation.Verdict
import DataContract.Proofs.Marker.Values
import DataContract.Proofs.Marker.Faults
import DataContract.Proofs.Marker.Typing
import DataContract.Proofs.Marker.Leaves
import DataContract.Proofs.Marker.Spelling
import DataContract.Proofs.Marker.Taking
import DataContract.Proofs.Marker.Parsing
import DataContract.Proofs.Marker.Agreement
import DataContract.Proofs.Source.Depth
import DataContract.Proofs.Text.Ascii
import DataContract.Proofs.UnitName.CaseBits
import DataContract.Proofs.UnitName.Decoding
import DataContract.Proofs.Generation.Edits
import DataContract.Proofs.Source.Headers
import DataContract.Proofs.Source.Reopening
import DataContract.Proofs.Text.Trim
import DataContract.Proofs.Text.Words
import DataContract.Proofs.Generation.Provider
import DataContract.Proofs.Generation.Canonical
import DataContract.Proofs.Declaration.Keywords
import DataContract.Proofs.Declaration.Modifiers
import DataContract.Proofs.Marker.MemberSpelling
import DataContract.Proofs.Marker.MemberParsing
import DataContract.Proofs.Marker.Nameof
import DataContract.Proofs.Declaration.QualifiedName
import DataContract.Proofs.Generation.Target
import DataContract.Proofs.UnitName.Groups
import DataContract.Proofs.UnitName.CaseSignature
