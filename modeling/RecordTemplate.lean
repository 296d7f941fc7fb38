import RecordTemplate.MissingField.Highlighting
import RecordTemplate.Record.Table
import RecordTemplate.Session
import RecordTemplate.Proofs.Bytes
import RecordTemplate.Proofs.Tokens
import RecordTemplate.Proofs.Escaping
import RecordTemplate.Proofs.Pieces
import RecordTemplate.Proofs.Reading
import RecordTemplate.Proofs.Positions
import RecordTemplate.Proofs.ClosingBraces
import RecordTemplate.Proofs.Parsing
import RecordTemplate.Proofs.Rendering
import RecordTemplate.Proofs.Tiling
import RecordTemplate.Proofs.Grammar
import RecordTemplate.Proofs.Evaluation
import RecordTemplate.Proofs.Constants
import RecordTemplate.Proofs.Meaning
import RecordTemplate.Proofs.PercentEncoding
import RecordTemplate.Proofs.Identifiers
import RecordTemplate.Proofs.Lines
import RecordTemplate.Proofs.Writing
import RecordTemplate.Proofs.Highlighting
import RecordTemplate.Proofs.Composition
import RecordTemplate.Proofs.JsonStrings
import RecordTemplate.Proofs.Exchange
import RecordTemplate.Proofs.Sessions
import RecordTemplate.Proofs.Joining
import RecordTemplate.Proofs.StrayBraces
import RecordTemplate.Proofs.EncodedOutput
import RecordTemplate.Proofs.Records
import RecordTemplate.Proofs.Batches
import RecordTemplate.Proofs.Messages
import RecordTemplate.Proofs.Offsets
import RecordTemplate.Proofs.Writers
import RecordTemplate.Proofs.MemberOrder
