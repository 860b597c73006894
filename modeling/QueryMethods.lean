import QueryMethods.Text.Ascii
import QueryMethods.Text.Search
import QueryMethods.Text.Utf8
import QueryMethods.Text.Range
import QueryMethods.Text.Quoted
import QueryMethods.Text.Similarity
import QueryMethods.Text.Cluster.Table
import QueryMethods.Text.Cluster.Basic
import QueryMethods.Text.Casing.Table
import QueryMethods.Text.Casing.Basic
import QueryMethods.Text.SnakeCase
import QueryMethods.Text.NameChar.Table
import QueryMethods.Text.NameChar.Basic
import QueryMethods.Float.Binary
import QueryMethods.Uuid
import QueryMethods.Value.Type
import QueryMethods.Value.Basic
import QueryMethods.Shape
import QueryMethods.Value.Fault
import QueryMethods.Value.Codec
import QueryMethods.Dialect
import QueryMethods.Entity
import QueryMethods.Row
import QueryMethods.Output
import QueryMethods.MethodName.Basic
import QueryMethods.MethodName.Parser
import QueryMethods.Condition.Basic
import QueryMethods.Condition.Stack
import QueryMethods.Condition.Predicate
import QueryMethods.Condition.Matches
import QueryMethods.Document
import QueryMethods.Config
import QueryMethods.Method
import QueryMethods.Template.Piece
import QueryMethods.Template.Mask
import QueryMethods.Template.Column
import QueryMethods.Template.Binding
import QueryMethods.Template.Bytes.Scanner
import QueryMethods.Template.Bytes.Columns
import QueryMethods.Template.Bytes.Binding
import QueryMethods.Statement
import QueryMethods.Session.Fault
import QueryMethods.Error
import QueryMethods.Notice
import QueryMethods.Session.Database
import QueryMethods.Session.Run
import QueryMethods.Registry.Resolution
import QueryMethods.Registry.Basic
import QueryMethods.Registry.Invocation
import QueryMethods.Declaration.Token
import QueryMethods.Declaration.Identifier
import QueryMethods.Declaration.Lexeme.Basic
import QueryMethods.Declaration.Lexeme.Comment
import QueryMethods.Declaration.Lexeme.Quoted
import QueryMethods.Declaration.Lexeme.Number
import QueryMethods.Declaration.Lexeme.Text
import QueryMethods.Declaration.Grammar.Fault
import QueryMethods.Declaration.Grammar.Cue
import QueryMethods.Declaration.Grammar.Reader
import QueryMethods.Declaration.Grammar.Basic
import QueryMethods.Declaration.Grammar.Attribute
import QueryMethods.Declaration.Grammar.Path
import QueryMethods.Declaration.Grammar.Bound
import QueryMethods.Declaration.Grammar.Type
import QueryMethods.Declaration.Grammar.Pattern
import QueryMethods.Declaration.Grammar.Operator
import QueryMethods.Declaration.Grammar.Control
import QueryMethods.Declaration.Grammar.Expression
import QueryMethods.Declaration.Grammar.Statement
import QueryMethods.Declaration.Grammar.Signature
import QueryMethods.Declaration.Grammar.Data
import QueryMethods.Declaration.Grammar.Member
import QueryMethods.Declaration.Grammar.Item
import QueryMethods.Declaration.Grammar.Whole
import QueryMethods.Declaration.Type
import QueryMethods.Declaration.Attribute
import QueryMethods.Declaration.Repository
import QueryMethods.Declaration.Entity
import QueryMethods.Expansion.Trait
import QueryMethods.Expansion.Registration
import QueryMethods.Expansion.Delegation
import QueryMethods.Expansion.RowMapping
import QueryMethods.Typed.Meaning
import QueryMethods.Typed.Record
import QueryMethods.Typed.Fields
import QueryMethods.Typed.Call
import QueryMethods.Example.Users
import QueryMethods.Proofs.Condition.Slots
import QueryMethods.Proofs.Registry.History
import QueryMethods.Proofs.Registry.Resolution
import QueryMethods.Proofs.Checked
import QueryMethods.Proofs.Template.Slots
import QueryMethods.Proofs.Registry.Prepared
import QueryMethods.Proofs.Session.Lifecycle
import QueryMethods.Proofs.Registry.NullArguments
import QueryMethods.Proofs.Condition.Meaning
import QueryMethods.Proofs.Template.Arguments
import QueryMethods.Proofs.Session.Scope
import QueryMethods.Proofs.Registry.Invariant
import QueryMethods.Proofs.Registry.Noninterference
import QueryMethods.Proofs.Sql.Lexer
import QueryMethods.Proofs.Template.Cuts
import QueryMethods.Proofs.Template.Isolation
import QueryMethods.Proofs.Registry.Contents
import QueryMethods.Proofs.Registry.Rearrangement
import QueryMethods.Proofs.MethodName.Reading
import QueryMethods.Proofs.Declaration.Accepted
import QueryMethods.Proofs.Registry.Faults
import QueryMethods.Proofs.Declaration.Names
import QueryMethods.Proofs.Typed.Values
import QueryMethods.Proofs.Typed.Wiring
import QueryMethods.Proofs.Template.Regions
import QueryMethods.Proofs.Template.Bytes.Scanner
import QueryMethods.Proofs.Template.Bytes.Marks
import QueryMethods.Proofs.Template.Bytes.Scan
import QueryMethods.Proofs.Template.Stretched.Basic
import QueryMethods.Proofs.Template.Stretched.Insert
import QueryMethods.Proofs.Template.Bytes.Columns
import QueryMethods.Proofs.Template.Bytes.Insert
import QueryMethods.Proofs.Template.Bytes.Targets
import QueryMethods.Proofs.Template.Bytes.Spread
import QueryMethods.Proofs.Template.Bytes.Edits
import QueryMethods.Proofs.Template.Comments
import QueryMethods.Proofs.Template.Bytes.Substitution
import QueryMethods.Proofs.Template.Markers
import QueryMethods.Proofs.Template.Embedded
import QueryMethods.Proofs.Template.Indifference
import QueryMethods.Proofs.Template.RowWords
import QueryMethods.Proofs.Template.Checks
import QueryMethods.Proofs.Template.Escaped
import QueryMethods.Proofs.Template.Compared
import QueryMethods.Proofs.Template.Inserted
import QueryMethods.Proofs.Template.Targets
import QueryMethods.Proofs.Template.Mismatches
import QueryMethods.Proofs.Template.Phrases
import QueryMethods.Proofs.Condition.LeftFold
import QueryMethods.Proofs.Registry.Signatures
import QueryMethods.Proofs.Registry.CheckedArguments
import QueryMethods.Proofs.Declaration.QueryAttributes
import QueryMethods.Proofs.Declaration.Signatures
import QueryMethods.Proofs.Declaration.Acceptance
import QueryMethods.Proofs.Registry.Evaluation
import QueryMethods.Proofs.Template.Bytes.Parentheses
import QueryMethods.Proofs.Typed.Rows
import QueryMethods.Proofs.Float.Widening
import QueryMethods.Proofs.Typed.RoundTrip
import QueryMethods.Proofs.Expansion.Registration
import QueryMethods.Proofs.Expansion.Delegation
import QueryMethods.Proofs.Expansion.RowMapping
