import Sluice.Parser.Composed
import Sluice.Parser.Tower
import Sluice.Pipeline
import Sluice.Script
import Sluice.Session
import Sluice.Proofs.TowerRequests
import Sluice.Proofs.Commitment
import Sluice.Proofs.BlockExit
import Sluice.Proofs.Onward
import Sluice.Proofs.Atomicity
import Sluice.Proofs.Numerals
import Sluice.Proofs.LongestMatch
import Sluice.Proofs.BuilderWords
import Sluice.Proofs.Comparison
import Sluice.Proofs.Carets
import Sluice.Proofs.SideBySide
import Sluice.Proofs.Shifting
import Sluice.Proofs.Truncation
import Sluice.Proofs.Spelling
import Sluice.Proofs.Consumption
import Sluice.Proofs.CallCounts
import Sluice.Proofs.Containment
import Sluice.Proofs.Surfacing
import Sluice.Proofs.Excerpts
import Sluice.Proofs.Opposites
import Sluice.Proofs.OrderedChoice
import Sluice.Proofs.Alternation
import Sluice.Proofs.Coordinates
import Sluice.Proofs.RoundTrip
import Sluice.Proofs.Visibility
import Sluice.Proofs.FirstFailure
import Sluice.Proofs.Narrowing
import Sluice.Proofs.Repetition
import Sluice.Proofs.Equivalence
import Sluice.Proofs.Stopping
import Sluice.Proofs.WrapAround
import Sluice.Proofs.Peeking
