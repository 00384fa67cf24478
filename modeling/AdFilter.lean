import AdFilter.Main
import AdFilter.Proofs.ContentType
import AdFilter.Proofs.Css
import AdFilter.Proofs.Digest.Seeds
import AdFilter.Proofs.Filter.Dumped
import AdFilter.Proofs.Filter.Reread
import AdFilter.Proofs.Filter.Restoring
import AdFilter.Proofs.Filter.Stored
import AdFilter.Proofs.FilterList.Dump
import AdFilter.Proofs.FilterList.EachLine
import AdFilter.Proofs.FilterList.Reading
import AdFilter.Proofs.FirstOccurrences
import AdFilter.Proofs.HideSet.Attempts
import AdFilter.Proofs.HideSet.Calls
import AdFilter.Proofs.HideSet.FreeKey
import AdFilter.Proofs.HideSet.History
import AdFilter.Proofs.HideSet.Keys
import AdFilter.Proofs.HideSet.NoDocument
import AdFilter.Proofs.HideSet.Selectors
import AdFilter.Proofs.HideSet.Sharing
import AdFilter.Proofs.Hiding.Grammar
import AdFilter.Proofs.Hiding.Groups
import AdFilter.Proofs.Hiding.OneLine
import AdFilter.Proofs.Hiding.Quoting
import AdFilter.Proofs.Hiding.Selector
import AdFilter.Proofs.Host.Address
import AdFilter.Proofs.Host.Subdomains
import AdFilter.Proofs.Matcher.Calls
import AdFilter.Proofs.Matcher.Deciding
import AdFilter.Proofs.Matcher.Texts
import AdFilter.Proofs.OrderedMap
import AdFilter.Proofs.Pattern.Agreement
import AdFilter.Proofs.Pattern.HostName
import AdFilter.Proofs.Pattern.Meaning
import AdFilter.Proofs.Pattern.Reading
import AdFilter.Proofs.Pattern.Translation
import AdFilter.Proofs.Record.Block
import AdFilter.Proofs.Record.Flat
import AdFilter.Proofs.Record.Giving
import AdFilter.Proofs.Record.WellFormed
import AdFilter.Proofs.Regex.Footprint
import AdFilter.Proofs.Regex.Reading
import AdFilter.Proofs.Regex.Search
import AdFilter.Proofs.Regex.Sequence
import AdFilter.Proofs.Registry.Activity
import AdFilter.Proofs.Registry.BlankTexts
import AdFilter.Proofs.Registry.Calls
import AdFilter.Proofs.Registry.FirstUse
import AdFilter.Proofs.Registry.Identity
import AdFilter.Proofs.Registry.Interleaving
import AdFilter.Proofs.Registry.NormalForm
import AdFilter.Proofs.Registry.Outcome
import AdFilter.Proofs.Registry.Publication
import AdFilter.Proofs.Registry.Restoring
import AdFilter.Proofs.Restriction
import AdFilter.Proofs.Rule.Building
import AdFilter.Proofs.Rule.Exceptions
import AdFilter.Proofs.Rule.HostAnchor
import AdFilter.Proofs.Rule.Invalid
import AdFilter.Proofs.Rule.OneLine
import AdFilter.Proofs.Rule.OptionList
import AdFilter.Proofs.Rule.Options
import AdFilter.Proofs.Rule.Splitting
import AdFilter.Proofs.Rule.Tokens
import AdFilter.Proofs.Text.Decimal
import AdFilter.Proofs.Text.Json
import AdFilter.Proofs.Text.Lines
import AdFilter.Proofs.Text.Pieces
import AdFilter.Proofs.Text.Trimming
import AdFilter.Proofs.Unicode.CaseMates
import AdFilter.Proofs.Url
import AdFilter.Proofs.Url.Parts
