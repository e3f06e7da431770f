import GraphSchema.Clause
import GraphSchema.Encoding.Statement
import GraphSchema.Statement.Built
import GraphSchema.Statement.Dump
import GraphSchema.Statement.Erasure
import GraphSchema.Statement.PlainEquality
import GraphSchema.Statement.Renaming
import GraphSchema.Statement.Traversal
import GraphSchema.Proofs.Matching
import GraphSchema.Proofs.Parts
import GraphSchema.Proofs.Related
import GraphSchema.Proofs.PlainEquality
import GraphSchema.Proofs.Identity
import GraphSchema.Proofs.History
import GraphSchema.Proofs.EqualityLaws
import GraphSchema.Proofs.BuildOrder
import GraphSchema.Proofs.Traversal
import GraphSchema.Statement.Walk
import GraphSchema.Proofs.Listing
import GraphSchema.Proofs.Erasure
import GraphSchema.Proofs.Reading.Document
import GraphSchema.Proofs.Reading.Date
import GraphSchema.Proofs.Reading.Decoding
import GraphSchema.Statement.Likeness
import GraphSchema.Proofs.Likeness
import GraphSchema.Proofs.BlockText
import GraphSchema.Proofs.DocumentOrder
import GraphSchema.Proofs.Pairing
import GraphSchema.Proofs.AnyCase
import GraphSchema.Proofs.Arguments
import GraphSchema.Proofs.Clauses
import GraphSchema.Proofs.OwnedAttribute
import GraphSchema.Proofs.QuotedText
import GraphSchema.Proofs.DisplayedValue
import GraphSchema.Statement.Pieces
import GraphSchema.Proofs.Pieces
import GraphSchema.Proofs.Log
import GraphSchema.Proofs.Reading.Nesting
import GraphSchema.Proofs.Reading.Records
import GraphSchema.Proofs.RegexText
import GraphSchema.Proofs.FreshNames
