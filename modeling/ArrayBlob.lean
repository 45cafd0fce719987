import ArrayBlob.Blob.Inspection
import ArrayBlob.Json.RoundTrip
import ArrayBlob.Proofs.Blob.Aliases
import ArrayBlob.Proofs.Blob.CharacterArrays
import ArrayBlob.Proofs.Blob.Composites
import ArrayBlob.Proofs.Blob.HeaderCanonical
import ArrayBlob.Proofs.Blob.HeaderGrammar
import ArrayBlob.Proofs.Blob.HeaderWriting
import ArrayBlob.Proofs.Blob.Limits
import ArrayBlob.Proofs.Blob.Lossless
import ArrayBlob.Proofs.Blob.Lossy
import ArrayBlob.Proofs.Blob.Metrics
import ArrayBlob.Proofs.Blob.Noninterference
import ArrayBlob.Proofs.Blob.Readers
import ArrayBlob.Proofs.Blob.Refusals
import ArrayBlob.Proofs.Blob.Repacking
import ArrayBlob.Proofs.Blob.Report
import ArrayBlob.Proofs.Blob.Reservation
import ArrayBlob.Proofs.Blob.Shape
import ArrayBlob.Proofs.Blob.ShapeInvariant
import ArrayBlob.Proofs.Blob.StreamGate
import ArrayBlob.Proofs.Frame.Guard
import ArrayBlob.Proofs.Frame.HeaderInverse
import ArrayBlob.Proofs.Framing
import ArrayBlob.Proofs.Lz4.Table
import ArrayBlob.Proofs.Planes
import ArrayBlob.Proofs.Quantizer.Codes
import ArrayBlob.Proofs.Quantizer.Compression
import ArrayBlob.Proofs.Quantizer.Domain
import ArrayBlob.Proofs.Quantizer.Exact
import ArrayBlob.Proofs.Quantizer.Invariance
import ArrayBlob.Proofs.Settings.Documents
import ArrayBlob.Proofs.Settings.Variables
