import DocPress.Command.Collect
import DocPress.Command.Options
import DocPress.Command.Run
import DocPress.Comment.Basic
import DocPress.Comment.Body
import DocPress.Comment.Fields
import DocPress.Comment.Reader
import DocPress.Disk.Basic
import DocPress.Disk.Changes
import DocPress.Disk.TextFile
import DocPress.Document
import DocPress.Glob
import DocPress.Listing
import DocPress.Log
import DocPress.Main
import DocPress.Markdown.CodeSpan
import DocPress.Markdown.Diagnostic
import DocPress.Markdown.Render
import DocPress.Markdown.TagForm
import DocPress.Number.Binary64
import DocPress.Number.Reading
import DocPress.Number.Shortest
import DocPress.Page
import DocPress.Path
import DocPress.Placement
import DocPress.Plan.Basic
import DocPress.Plan.FileName
import DocPress.Plan.Outline
import DocPress.Proofs.Accounting
import DocPress.Proofs.Composing
import DocPress.Proofs.Confinement
import DocPress.Proofs.Discovering
import DocPress.Proofs.DiskAgreement
import DocPress.Proofs.DiskContent
import DocPress.Proofs.DiskOperations
import DocPress.Proofs.Gathering
import DocPress.Proofs.Independence
import DocPress.Proofs.Inline
import DocPress.Proofs.LayoutContents
import DocPress.Proofs.Links
import DocPress.Proofs.MakingDirectories
import DocPress.Proofs.ManifestLoads
import DocPress.Proofs.ManifestTokens
import DocPress.Proofs.Named
import DocPress.Proofs.OptionsAgree
import DocPress.Proofs.PagePaths
import DocPress.Proofs.PageUses
import DocPress.Proofs.PagesKept
import DocPress.Proofs.PathNames
import DocPress.Proofs.PlannedPaths
import DocPress.Proofs.PublishAgreement
import DocPress.Proofs.ReadingBack
import DocPress.Proofs.ReadingKeeps
import DocPress.Proofs.Resolving
import DocPress.Proofs.RunEffects
import DocPress.Proofs.Scanning
import DocPress.Proofs.ScanningLines
import DocPress.Proofs.ScriptBlocks
import DocPress.Proofs.SearchAgreement
import DocPress.Proofs.SettingsContent
import DocPress.Proofs.SettingsFile
import DocPress.Proofs.SourceLines
import DocPress.Proofs.TreeListing
import DocPress.Proofs.Undecorating
import DocPress.Publish
import DocPress.Regex.Basic
import DocPress.Regex.Error
import DocPress.Regex.LetterCase
import DocPress.Regex.Matcher
import DocPress.Regex.Reader
import DocPress.Script.Extract
import DocPress.Script.File
import DocPress.Script.Lexeme
import DocPress.Script.Lexer
import DocPress.Settings.Basic
import DocPress.Settings.Loading
import DocPress.Source.Discovery
import DocPress.Source.Ignore
import DocPress.Text.Basic
import DocPress.Text.Blank
import DocPress.Text.Category
import DocPress.Text.Lines
import DocPress.Text.LowerCase
import DocPress.Text.Numeral
import DocPress.Text.Printable
import DocPress.Text.Quoted
import DocPress.Text.Ranges
import DocPress.Text.Utf8
import DocPress.Yaml.BlockScalar
import DocPress.Yaml.Character
import DocPress.Yaml.Composition
import DocPress.Yaml.Cursor
import DocPress.Yaml.Error
import DocPress.Yaml.Loading
import DocPress.Yaml.Meaning
import DocPress.Yaml.Node
import DocPress.Yaml.PlainScalar
import DocPress.Yaml.Property
import DocPress.Yaml.QuotedScalar
import DocPress.Yaml.Scanner
import DocPress.Yaml.Schema
import DocPress.Yaml.Timestamp
import DocPress.Yaml.Token
import DocPress.Yaml.Value
import DocPress.Proofs.BodyForm
import DocPress.Proofs.Delimiters
import DocPress.Proofs.Segments
import DocPress.Proofs.TagForms
import DocPress.Proofs.CodeSpans
import DocPress.Proofs.Hyphens
import DocPress.Proofs.TableRows
import DocPress.Proofs.LowerCasing
import DocPress.Proofs.FileNames
import DocPress.Proofs.Containment
import DocPress.Proofs.ValueText
import DocPress.Proofs.SettingsKinds
import DocPress.Proofs.PageStore
