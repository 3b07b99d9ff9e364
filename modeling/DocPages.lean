import DocPages.Association
import DocPages.Benchmark
import DocPages.CommandLine.Arguments
import DocPages.CommandLine.Run
import DocPages.Comment
import DocPages.Concrete.Basic
import DocPages.Concrete.Comments
import DocPages.Concrete.Sketch
import DocPages.Concrete.Tree
import DocPages.Doclet.Basic
import DocPages.Doclet.Braced
import DocPages.Doclet.Gutter
import DocPages.Doclet.Reader
import DocPages.Example
import DocPages.Grouping
import DocPages.Library.Basic
import DocPages.Library.Extract
import DocPages.Library.Value
import DocPages.Main
import DocPages.Markup.Anchor
import DocPages.Markup.Atom
import DocPages.Markup.Block
import DocPages.Markup.Element
import DocPages.Markup.Emphasis
import DocPages.Markup.Escape
import DocPages.Markup.Fence
import DocPages.Markup.Inline
import DocPages.Markup.ItemBlock
import DocPages.Markup.Links
import DocPages.Markup.Markdown
import DocPages.Markup.RawBlock
import DocPages.Markup.Stash
import DocPages.Markup.Tag
import DocPages.Namespace
import DocPages.Notice
import DocPages.Page.Layout
import DocPages.Page.Slot
import DocPages.Page.Template
import DocPages.Pair
import DocPages.Path
import DocPages.Pattern.Basic
import DocPages.Pattern.Reader
import DocPages.Proofs.Doclet.Balance
import DocPages.Proofs.Text.Lines
import DocPages.Proofs.TypeExpr.Grammar
import DocPages.QualifiedName
import DocPages.Record.Basic
import DocPages.Record.Extract
import DocPages.Record.Value
import DocPages.Script.Cover
import DocPages.Script.Cursor
import DocPages.Script.Declaration
import DocPages.Script.Expression
import DocPages.Script.Group
import DocPages.Script.Member
import DocPages.Script.Operator
import DocPages.Script.Reader
import DocPages.Script.Semicolon
import DocPages.Script.Statement
import DocPages.Script.Token
import DocPages.Settings.Basic
import DocPages.Settings.Read
import DocPages.Site
import DocPages.Text.Blank
import DocPages.Text.Case
import DocPages.Text.Cased
import DocPages.Text.Decode
import DocPages.Text.Digit
import DocPages.Text.Hex
import DocPages.Text.Identifier
import DocPages.Text.Printable
import DocPages.Text.Quoted
import DocPages.Text.Rest
import DocPages.Text.Search
import DocPages.Text.Utf8
import DocPages.Text.Word
import DocPages.Text.Wrap
import DocPages.Tree.Basic
import DocPages.Tree.Naming
import DocPages.Tree.Walk
import DocPages.TypeExpr.Basic
import DocPages.TypeExpr.Format
import DocPages.TypeExpr.Reader
import DocPages.Value.Basic
import DocPages.Value.Binary64
import DocPages.Value.Json
import DocPages.Value.Key
import DocPages.Yaml.Cursor
import DocPages.Yaml.Moment
import DocPages.Yaml.Node
import DocPages.Yaml.Reader
import DocPages.Yaml.Scalar
import DocPages.Yaml.ScalarText
import DocPages.Yaml.Token
import DocPages.Proofs.Doclet.Encoding
import DocPages.Proofs.Grouping
import DocPages.Proofs.QualifiedName
import DocPages.Proofs.TypeExpr.Shape
import DocPages.Proofs.TypeExpr.Source
import DocPages.Proofs.Tree.Forest
import DocPages.Proofs.Tree.Trail
import DocPages.Proofs.Concrete.Layout
import DocPages.Proofs.Concrete.Forest
import DocPages.Proofs.Namespace
import DocPages.Proofs.Namespace.Members
import DocPages.Proofs.Tree.Prototype
import DocPages.Proofs.Record
import DocPages.Proofs.Tree.Assigned
import DocPages.Proofs.Concrete.Legible
import DocPages.Proofs.Library.Extract
import DocPages.Proofs.Page.Layout
import DocPages.Proofs.Page.Links
import DocPages.Proofs.TypeExpr.Spacing
import DocPages.Proofs.TypeExpr.NullMarks
import DocPages.Proofs.TypeExpr.Display
import DocPages.Proofs.Doclet.Delimiters
import DocPages.Proofs.Literal
import DocPages.Proofs.Pair
import DocPages.Proofs.Doclet.Default
import DocPages.Proofs.Tree.Passage
import DocPages.Proofs.Association
import DocPages.Proofs.Tree.Bound
import DocPages.Proofs.Benchmark
import DocPages.Proofs.Example
import DocPages.Proofs.Library.Value
import DocPages.Proofs.Concrete.Position
import DocPages.Proofs.Concrete.Fault
import DocPages.Proofs.Concrete.Comments
import DocPages.Proofs.Doclet.Braced
import DocPages.Proofs.Namespace.Anchors
import DocPages.Proofs.Page.Articles
import DocPages.Proofs.QualifiedName.Signature
import DocPages.Proofs.Settings
import DocPages.Proofs.Library.Report
import DocPages.Proofs.Markup.Links
import DocPages.Proofs.Tree.Search
import DocPages.Proofs.TypeExpr.Course
import DocPages.Proofs.TypeExpr.Progress
