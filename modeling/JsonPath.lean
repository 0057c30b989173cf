import JsonPath.Main
import JsonPath.Regex.Cache
import JsonPath.Proofs.Findings
import JsonPath.Proofs.PathRoundTrip
import JsonPath.Proofs.Typing
import JsonPath.Proofs.Composition
import JsonPath.Proofs.Formula
import JsonPath.Proofs.MemberOrder
import JsonPath.Proofs.EmbeddedQuery
import JsonPath.Proofs.Declarations
import JsonPath.Proofs.CharacterSets
import JsonPath.Proofs.InteroperablePattern
import JsonPath.Proofs.PatternMembership
import JsonPath.Proofs.ArrayPlaces
import JsonPath.Proofs.DocumentOrder
import JsonPath.Proofs.IndexRange
import JsonPath.Proofs.SignedArithmetic
import JsonPath.Proofs.DepthLimit
import JsonPath.Proofs.DistinctNodes
import JsonPath.Proofs.OperandOrder
import JsonPath.Proofs.IntegerLiterals
import JsonPath.Proofs.StringSpelling
import JsonPath.Proofs.ErrorPlaces
import JsonPath.Proofs.MatchModes
import JsonPath.Registry
import JsonPath.Proofs.SourceSpans
import JsonPath.Proofs.NestingLimit
import JsonPath.Proofs.RegistryHistory
import JsonPath.Proofs.FanOut
import JsonPath.Proofs.DotSpelling
import JsonPath.Proofs.PatternCache
