import TagQuery.Main
import TagQuery.Files.Tree
import TagQuery.Proofs.AskFor
import TagQuery.Proofs.Askable
import TagQuery.Proofs.CacheHistory
import TagQuery.Proofs.JoinedQueries
import TagQuery.Proofs.Lowercase
import TagQuery.Proofs.Matching
import TagQuery.Proofs.PlainPatterns
import TagQuery.Proofs.Regex
import TagQuery.Proofs.RoundTrip
import TagQuery.Proofs.ScanSteps
import TagQuery.Proofs.Segments
import TagQuery.Proofs.Settling
import TagQuery.Proofs.Utf8
import TagQuery.Query.LikePatterns
import TagQuery.Proofs.LikeMatching
import TagQuery.Proofs.MatchRuns
import TagQuery.Proofs.ReadLines
import TagQuery.Proofs.ReadingArguments
import TagQuery.Proofs.ArgumentsOrLines
import TagQuery.Proofs.JsonReader
import TagQuery.Proofs.ReadingReports
import TagQuery.Proofs.Sigmas
import TagQuery.Proofs.TagMatching
import TagQuery.Proofs.FoldedTokens
import TagQuery.Proofs.IgnoringCase
import TagQuery.Proofs.ContainedMatches
import TagQuery.Proofs.BetweenBreaks
import TagQuery.Proofs.LoweredMatching
import TagQuery.Proofs.MarkerRuns
import TagQuery.Proofs.Lexemes
import TagQuery.Proofs.LineReturns
import TagQuery.Proofs.LoweredQueries
import TagQuery.Proofs.WholeInput
import TagQuery.Proofs.PlainOutput
import TagQuery.Proofs.NearestConfig
import TagQuery.Proofs.ConfigTables
import TagQuery.Proofs.EscapedValues
import TagQuery.Proofs.RaisedFlags
import TagQuery.Proofs.LastFlags
