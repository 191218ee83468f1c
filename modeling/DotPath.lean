import DotPath.Command
import DotPath.Main
import DotPath.Proofs.CacheTransparency
import DotPath.Proofs.Rendering
import DotPath.Proofs.StepWalk
import DotPath.Proofs.Joining
import DotPath.Proofs.PathEquivalence
import DotPath.Proofs.Scanning
import DotPath.Proofs.TimeForms
import DotPath.Proofs.SharedHandles
import DotPath.Proofs.TimeTargets
import DotPath.Proofs.CacheContents
import DotPath.Proofs.Addressing
import DotPath.Proofs.IntegerReading
import DotPath.Proofs.ArrayPositions
import DotPath.Proofs.KindDiscipline
import DotPath.Proofs.BlankSpace
import DotPath.Proofs.IntegerRefusal
import DotPath.Proofs.CommandRuns
import DotPath.Proofs.FloatRange
import DotPath.Proofs.FloatReading
import DotPath.Proofs.WrittenAnswers
import DotPath.Proofs.DecimalDigits
import DotPath.Proofs.PlainForm
import DotPath.Proofs.ShortestDecimal
import DotPath.Proofs.WrittenNumbers
import DotPath.Proofs.DecimalReading
import DotPath.Proofs.DecimalRounding
import DotPath.Proofs.ReadingBack
import DotPath.Proofs.WholeNumbers
import DotPath.Proofs.EpochCounts
import DotPath.Proofs.CalendarForms
import DotPath.Proofs.IntegerForms
import DotPath.Proofs.PrintedTimes
import DotPath.Proofs.KeyOrder
import DotPath.Proofs.Structures
import DotPath.Proofs.FailureEvents
import DotPath.Proofs.WalkEvents
import DotPath.Proofs.ReadingEvents
import DotPath.Proofs.NearestFloats
import DotPath.Proofs.TwiceRounded
