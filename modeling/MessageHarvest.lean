import MessageHarvest.Main
import MessageHarvest.Problem
import MessageHarvest.TestReport
import MessageHarvest.Proofs.DistinctLists
import MessageHarvest.Proofs.CatalogDecoding
import MessageHarvest.Proofs.LineBoundary
import MessageHarvest.Proofs.PhpBoundary
import MessageHarvest.Proofs.ScanBoundary
import MessageHarvest.Proofs.ScriptBoundary
import MessageHarvest.Proofs.EarlierStrings
import MessageHarvest.Proofs.BalancedTokens
import MessageHarvest.Proofs.PhpQuoting
import MessageHarvest.Proofs.WrittenCode
import MessageHarvest.Proofs.PhpWrittenCall
import MessageHarvest.Proofs.ScriptQuoting
import MessageHarvest.Proofs.ScriptWrittenCall
import MessageHarvest.Proofs.ReferenceLines
import MessageHarvest.Proofs.CheckedScanning
import MessageHarvest.Proofs.CheckedCalls
import MessageHarvest.Proofs.NameResolution
import MessageHarvest.Proofs.CheckedParsing
import MessageHarvest.Proofs.FileSearch
import MessageHarvest.Proofs.PathResolution
import MessageHarvest.Proofs.FileWriting
import MessageHarvest.Proofs.WritingSteps
import MessageHarvest.Proofs.CatalogOutput
import MessageHarvest.Proofs.SettingsMetadata
import MessageHarvest.Proofs.InsertionOrder
import MessageHarvest.Proofs.RepeatedInsertion
import MessageHarvest.Proofs.ExtractionRun
import MessageHarvest.Proofs.ScanLayout
import MessageHarvest.Proofs.MalformedText
import MessageHarvest.Proofs.PhpLayout
import MessageHarvest.Proofs.ScriptLayout
import MessageHarvest.Proofs.PartwiseScan
import MessageHarvest.Proofs.ShiftedLines
import MessageHarvest.Proofs.OpaqueRegions
import MessageHarvest.Proofs.SkippedRegions
import MessageHarvest.Proofs.BracketMatching
import MessageHarvest.Proofs.BraceTags
import MessageHarvest.Proofs.WrittenTag
import MessageHarvest.Proofs.MarkupLines
import MessageHarvest.Proofs.InterpolationScan
import MessageHarvest.Proofs.Utf16Escapes
import MessageHarvest.Proofs.SurrogateLiterals
import MessageHarvest.Proofs.EscapeGuard
import MessageHarvest.Proofs.OptionItems
import MessageHarvest.Proofs.RelativeReferences
import MessageHarvest.Proofs.DiscoveryOrder
import MessageHarvest.Proofs.StatementComments
import MessageHarvest.Proofs.TagComments
import MessageHarvest.Proofs.Utf8Spelling
import MessageHarvest.Proofs.OutputProblems
import MessageHarvest.Proofs.TextParts
import MessageHarvest.Proofs.ListSettings
import MessageHarvest.Proofs.FragmentFilter
import MessageHarvest.Proofs.TranslatorComments
import MessageHarvest.Proofs.LiteralExpressions
