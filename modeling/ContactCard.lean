import ContactCard.Buckets
import ContactCard.Card
import ContactCard.Description.Card
import ContactCard.Desk
import ContactCard.Gate
import ContactCard.JCard
import ContactCard.JValue
import ContactCard.Json
import ContactCard.Json.Reader
import ContactCard.Main
import ContactCard.Mode
import ContactCard.Moment
import ContactCard.Moment.Layout
import ContactCard.Number.Decimal
import ContactCard.Number.Shortest
import ContactCard.Parameters
import ContactCard.Parameters.Accessor
import ContactCard.Parameters.Attribute
import ContactCard.Parameters.Line
import ContactCard.Path
import ContactCard.PlainText
import ContactCard.Property.Attribute
import ContactCard.Property.Basic
import ContactCard.Property.Json
import ContactCard.Property.Text
import ContactCard.Session
import ContactCard.Session.Template
import ContactCard.Session.Template.Part
import ContactCard.Session.Template.Shape
import ContactCard.Settings
import ContactCard.Text.Blank
import ContactCard.Text.Caret
import ContactCard.Text.Case
import ContactCard.Text.Case.Stable
import ContactCard.Text.Digit
import ContactCard.Text.Fields
import ContactCard.Text.Printable
import ContactCard.Version
import ContactCard.XCard
import ContactCard.Xml.Document
import ContactCard.Xml.Legal
import ContactCard.Yaml.Base64
import ContactCard.Yaml.Block
import ContactCard.Yaml.Build
import ContactCard.Yaml.Key
import ContactCard.Yaml.Label
import ContactCard.Yaml.Node
import ContactCard.Yaml.Node.Reading
import ContactCard.Yaml.Number
import ContactCard.Yaml.Tag
import ContactCard.Yaml.Time
import ContactCard.Yaml.Word
import ContactCard.Proofs.Text.Breaks
import ContactCard.Proofs.Text.Caret
import ContactCard.Proofs.Text.Words
import ContactCard.Proofs.Text.Escapes
import ContactCard.Proofs.Text.Fields
import ContactCard.Proofs.Text.Cutting
import ContactCard.Proofs.Fold
import ContactCard.Proofs.Grouping
import ContactCard.Proofs.Emission
import ContactCard.Proofs.XCard
import ContactCard.Proofs.Agreement
import ContactCard.Proofs.Accounting
import ContactCard.Proofs.Description
import ContactCard.Proofs.Framing
import ContactCard.Proofs.Reading
import ContactCard.Proofs.History
import ContactCard.Proofs.Entry
import ContactCard.Proofs.Completion
import ContactCard.Proofs.ReadBack
import ContactCard.Proofs.Holders
import ContactCard.Proofs.Legality
import ContactCard.Proofs.Shape
import ContactCard.Proofs.Stream
import ContactCard.Proofs.Rereading
import ContactCard.Proofs.Ledger
import ContactCard.Proofs.Table
import ContactCard.Proofs.Container
import ContactCard.Proofs.Membership
import ContactCard.Proofs.Description.Piece
import ContactCard.Proofs.Description.Contents
import ContactCard.Proofs.Description.Strays
import ContactCard.Proofs.Description.Faults
import ContactCard.Proofs.Keeping
import ContactCard.Proofs.JValue
import ContactCard.Proofs.Sameness
import ContactCard.Proofs.PlainKeys
import ContactCard.Proofs.Settings.Checks
import ContactCard.Proofs.Yaml.Keys
import ContactCard.Proofs.Yaml.Pairs
import ContactCard.Proofs.Settings.Layers
import ContactCard.Proofs.Settings.References
import ContactCard.Proofs.Settings.Ending
import ContactCard.Proofs.Text.Escaped
import ContactCard.Proofs.Integer
import ContactCard.Proofs.Accessors
import ContactCard.Proofs.Writes
