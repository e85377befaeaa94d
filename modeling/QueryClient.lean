import QueryClient.Config.Steps
import QueryClient.Main
import QueryClient.Session
import QueryClient.Exchange.PlainCarrier
import QueryClient.Proofs.HopOutcomes
import QueryClient.Proofs.Delivery
import QueryClient.Proofs.RunCourse
import QueryClient.Proofs.ExpectedFailures
import QueryClient.Proofs.AsciiCharacters
import QueryClient.Proofs.EscapedText
import QueryClient.Proofs.RequotedText
import QueryClient.Proofs.DividedAddress
import QueryClient.Proofs.WebAddress
import QueryClient.Proofs.LooseValues
import QueryClient.Proofs.QueryRoundTrip
import QueryClient.Proofs.CommandLine
import QueryClient.Proofs.ServerName
import QueryClient.Proofs.ServerAddress
import QueryClient.Proofs.QueryCommand
import QueryClient.Proofs.HopSequence
import QueryClient.Proofs.LostLocations
import QueryClient.Proofs.BoundedExchange
import QueryClient.Proofs.WrittenAddress
import QueryClient.Proofs.SpokenAddress
import QueryClient.Proofs.TokenReading
import QueryClient.Proofs.DoubledSlashes
import QueryClient.Proofs.PrintedPath
import QueryClient.Proofs.DoubledTargets
import QueryClient.Proofs.WireTarget
import QueryClient.Proofs.RequotedParts
import QueryClient.Proofs.UsableAddress
import QueryClient.Proofs.FramedValues
import QueryClient.Proofs.NamedServer
import QueryClient.Proofs.AcceptedArguments
import QueryClient.Proofs.LogThreshold
import QueryClient.Proofs.MeantText
import QueryClient.Proofs.WrittenUser
import QueryClient.Proofs.TrustedDestinations
import QueryClient.Proofs.AnsweredRequests
import QueryClient.Proofs.LogRouting
import QueryClient.Proofs.AtomicSetUp
import QueryClient.Proofs.OutcomeNotes
import QueryClient.Proofs.FlagOccurrences
import QueryClient.Proofs.SeparateValues
import QueryClient.Proofs.FreshSession
import QueryClient.Proofs.ClosedOutput
import QueryClient.Proofs.FurtherRequests
import QueryClient.Proofs.NormalAddress
import QueryClient.Proofs.Replacements
import QueryClient.Proofs.ThresholdAgreement
import QueryClient.Proofs.RefusedArguments
