import BinaryRecords.Extract.Catalogue
import BinaryRecords.Host.Table
import BinaryRecords.Proofs.Decode.Alike
import BinaryRecords.Proofs.Decode.Blaming
import BinaryRecords.Proofs.Decode.Calls
import BinaryRecords.Proofs.Decode.Composition
import BinaryRecords.Proofs.Decode.Consuming
import BinaryRecords.Proofs.Decode.Establishing
import BinaryRecords.Proofs.Decode.Failures
import BinaryRecords.Proofs.Decode.FixedSize
import BinaryRecords.Proofs.Decode.InPlace
import BinaryRecords.Proofs.Decode.InTurn
import BinaryRecords.Proofs.Decode.Items
import BinaryRecords.Proofs.Decode.Parts
import BinaryRecords.Proofs.Decode.Redeclaring
import BinaryRecords.Proofs.Decode.Refusing
import BinaryRecords.Proofs.Decode.Scheduled
import BinaryRecords.Proofs.Decode.SelfContained
import BinaryRecords.Proofs.Decode.Structs
import BinaryRecords.Proofs.Decode.Unnamed
import BinaryRecords.Proofs.Decode.Unrolling
import BinaryRecords.Proofs.Extract.Members
import BinaryRecords.Proofs.Extract.Writing
import BinaryRecords.Proofs.Format.Conformance
import BinaryRecords.Proofs.Format.Conforming
import BinaryRecords.Proofs.Format.Decoding
import BinaryRecords.Proofs.Format.EmptyRepeats
import BinaryRecords.Proofs.Format.Encoding
import BinaryRecords.Proofs.Format.RoundTrip
import BinaryRecords.Proofs.Format.Written
import BinaryRecords.Proofs.Host.Alike
import BinaryRecords.Proofs.Host.Tables
import BinaryRecords.Proofs.Layout.FieldPhrases
import BinaryRecords.Proofs.Layout.ItemPhrases
import BinaryRecords.Proofs.Layout.Joining
import BinaryRecords.Proofs.Layout.Phrases
import BinaryRecords.Proofs.Layout.Remembering
import BinaryRecords.Proofs.Layout.Rendering
import BinaryRecords.Proofs.Layout.Scanning
import BinaryRecords.Proofs.Layout.Sharing
import BinaryRecords.Proofs.Layout.Spelling
import BinaryRecords.Proofs.Schema.ClampedSize
import BinaryRecords.Proofs.Schema.Deciding
import BinaryRecords.Proofs.Schema.Description
import BinaryRecords.Proofs.Schema.ExactSize
import BinaryRecords.Proofs.Schema.FromTexts
import BinaryRecords.Proofs.Schema.Nesting
import BinaryRecords.Proofs.Schema.Reachable
import BinaryRecords.Proofs.Schema.Schedule
import BinaryRecords.Proofs.Schema.Searching
import BinaryRecords.Proofs.Session.Failure
import BinaryRecords.Proofs.Session.Indistinguishable
import BinaryRecords.Proofs.Session.Memoless
import BinaryRecords.Proofs.Session.Names
import BinaryRecords.Proofs.Session.Operations
import BinaryRecords.Proofs.Session.ShapeReads
import BinaryRecords.Proofs.Session.StructReads
import BinaryRecords.Proofs.Source.Finding
import BinaryRecords.Proofs.Source.InPlace
import BinaryRecords.Proofs.Source.InPlaceReads
import BinaryRecords.Proofs.Source.Integers
import BinaryRecords.Proofs.Source.Locators
import BinaryRecords.Proofs.Source.Operations
import BinaryRecords.Proofs.Source.Passing
import BinaryRecords.Proofs.Source.StringReads
import BinaryRecords.Proofs.Source.Strings
import BinaryRecords.Proofs.Text.Numeral
import BinaryRecords.Proofs.Text.Quoted
import BinaryRecords.Proofs.Text.Words
import BinaryRecords.Proofs.Value.Rendering
import BinaryRecords.Session
import BinaryRecords.Source.BareMachine
import BinaryRecords.Value.Text
