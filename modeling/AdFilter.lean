import AdFilter.Cache
import AdFilter.Cli.Arguments
import AdFilter.Cli.Command
import AdFilter.Cli.Report
import AdFilter.Content.Compile
import AdFilter.Content.Rule
import AdFilter.Cosmetic.Compile
import AdFilter.Cosmetic.PseudoClass
import AdFilter.Cosmetic.Rule
import AdFilter.Digest
import AdFilter.Distinct
import AdFilter.Domain
import AdFilter.Engine
import AdFilter.FilterList.Optimize
import AdFilter.FilterList.Parser
import AdFilter.Glob
import AdFilter.Index.Rules
import AdFilter.Index.Tables
import AdFilter.Main
import AdFilter.Markup.Body
import AdFilter.Markup.Builder
import AdFilter.Markup.Formatting
import AdFilter.Markup.Node
import AdFilter.Markup.Printer
import AdFilter.Markup.Reference
import AdFilter.Markup.Token
import AdFilter.Markup.Tree
import AdFilter.Network.Compile
import AdFilter.Network.Options
import AdFilter.Network.Pattern
import AdFilter.Network.Rule
import AdFilter.Network.Text
import AdFilter.Proofs.Attempt
import AdFilter.Proofs.Cache
import AdFilter.Proofs.Cache.Recency
import AdFilter.Proofs.Content.Attributes
import AdFilter.Proofs.Content.Mark
import AdFilter.Proofs.Content.Removal
import AdFilter.Proofs.Content.Selection
import AdFilter.Proofs.Cosmetic.Exception
import AdFilter.Proofs.Cosmetic.Mark
import AdFilter.Proofs.Cosmetic.PseudoClass
import AdFilter.Proofs.Cosmetic.Stylesheet
import AdFilter.Proofs.Distinct
import AdFilter.Proofs.Domain.OpenEnd
import AdFilter.Proofs.Domain.Parser
import AdFilter.Proofs.Domain.Written
import AdFilter.Proofs.FilterList.Lines
import AdFilter.Proofs.FilterList.Mark
import AdFilter.Proofs.FilterList.Optimize
import AdFilter.Proofs.FilterList.Parser
import AdFilter.Proofs.Glob
import AdFilter.Proofs.Glob.Reading
import AdFilter.Proofs.Index.Best
import AdFilter.Proofs.Index.Buckets
import AdFilter.Proofs.Index.Choice
import AdFilter.Proofs.Index.Defined
import AdFilter.Proofs.Index.Domains
import AdFilter.Proofs.Index.Lineage
import AdFilter.Proofs.Index.Order
import AdFilter.Proofs.Index.Rules
import AdFilter.Proofs.Index.Shortcuts
import AdFilter.Proofs.Markup.Elements
import AdFilter.Proofs.Network.BasicRule
import AdFilter.Proofs.Network.Blot
import AdFilter.Proofs.Network.Blotted
import AdFilter.Proofs.Network.Cancel
import AdFilter.Proofs.Network.Compile
import AdFilter.Proofs.Network.HostRule
import AdFilter.Proofs.Network.Literal
import AdFilter.Proofs.Network.OptionOrder
import AdFilter.Proofs.Network.OptionRow
import AdFilter.Proofs.Network.Options
import AdFilter.Proofs.Network.Pattern
import AdFilter.Proofs.Network.PatternSource
import AdFilter.Proofs.Network.Scan
import AdFilter.Proofs.Network.Shortcut
import AdFilter.Proofs.Network.Split
import AdFilter.Proofs.Network.WellFormed
import AdFilter.Proofs.Regex.Brackets
import AdFilter.Proofs.Regex.Chunk
import AdFilter.Proofs.Regex.IgnoreCase
import AdFilter.Proofs.Regex.Letters
import AdFilter.Proofs.Regex.Parser
import AdFilter.Proofs.Regex.Search
import AdFilter.Proofs.Regex.Shapes
import AdFilter.Proofs.Request
import AdFilter.Proofs.RuleSet.Csp
import AdFilter.Proofs.RuleSet.Decision
import AdFilter.Proofs.RuleSet.Defined
import AdFilter.Proofs.RuleSet.Document
import AdFilter.Proofs.RuleSet.IgnoreCase
import AdFilter.Proofs.RuleSet.Insert
import AdFilter.Proofs.RuleSet.Optimize
import AdFilter.Proofs.RuleSet.Page
import AdFilter.Proofs.RuleSet.PageExceptions
import AdFilter.Proofs.RuleSet.PageOptions
import AdFilter.Proofs.RuleSet.PageRules
import AdFilter.Proofs.RuleSet.Permute
import AdFilter.Proofs.RuleSet.Verdict
import AdFilter.Proofs.Scriptlet.Abp
import AdFilter.Proofs.Scriptlet.Enclosed
import AdFilter.Proofs.Scriptlet.Finish
import AdFilter.Proofs.Scriptlet.Machine
import AdFilter.Proofs.Scriptlet.Native
import AdFilter.Proofs.Scriptlet.Ubo
import AdFilter.Proofs.Scriptlet.UboCall
import AdFilter.Proofs.Selector.Identifier
import AdFilter.Proofs.Session
import AdFilter.Proofs.Site
import AdFilter.Proofs.Site.PublicSuffix
import AdFilter.Proofs.Text.AsciiCase
import AdFilter.Proofs.Text.Blank
import AdFilter.Proofs.Text.Case
import AdFilter.Proofs.Text.Lower
import AdFilter.Proofs.Text.Search
import AdFilter.Proofs.Url
import AdFilter.Proofs.Url.Relative
import AdFilter.Regex.Basic
import AdFilter.Regex.Brackets
import AdFilter.Regex.CharSet
import AdFilter.Regex.Compile
import AdFilter.Regex.Escape
import AdFilter.Regex.Flags
import AdFilter.Regex.Parser
import AdFilter.Regex.Search
import AdFilter.Request
import AdFilter.Rule.Basic
import AdFilter.Rule.Info
import AdFilter.Rule.Option
import AdFilter.RuleSet.Basic
import AdFilter.RuleSet.Page
import AdFilter.RuleSet.PageRules
import AdFilter.RuleSet.Verdict
import AdFilter.Scriptlet.Abp
import AdFilter.Scriptlet.Call
import AdFilter.Scriptlet.Capture
import AdFilter.Scriptlet.Cursor
import AdFilter.Scriptlet.Machine
import AdFilter.Scriptlet.Native
import AdFilter.Scriptlet.Parser
import AdFilter.Scriptlet.Ubo
import AdFilter.Selector.Basic
import AdFilter.Selector.Parser
import AdFilter.Selector.Token
import AdFilter.Session
import AdFilter.Site
import AdFilter.Text.BinaryTable
import AdFilter.Text.Bytes
import AdFilter.Text.CaseTable
import AdFilter.Text.CategoryTable
import AdFilter.Text.Letter
import AdFilter.Text.Property
import AdFilter.Text.ScriptTable
import AdFilter.Text.Search
import AdFilter.Text.Table
import AdFilter.Text.WordTable
import AdFilter.Url
