import JebaoFlow.Proof.Loops
import JebaoFlow.Proof.DeviceOutcome
import JebaoFlow.Proof.EmergencyLatch
import JebaoFlow.Proof.EmergencyStop
import JebaoFlow.Proof.Override
import JebaoFlow.Devices.Lan
import JebaoFlow.Mqtt.Client
import JebaoFlow.Proof.Agreement
import JebaoFlow.Proof.Consumer
import JebaoFlow.Proof.LanCache
import JebaoFlow.Proof.Suppression
import JebaoFlow.Proof.VerifiedWrites
import JebaoFlow.Lib.Cache
import JebaoFlow.Proof.Answers
import JebaoFlow.Proof.RequestCache
import JebaoFlow.Proof.Noninterference
import JebaoFlow.Lib.Records
import JebaoFlow.Proof.DerivedData
import JebaoFlow.Proof.History
import JebaoFlow.Proof.Rejection
import JebaoFlow.Proof.Revisions
import JebaoFlow.Proof.Spacing
import JebaoFlow.Proof.WriteSafety
import JebaoFlow.Protocol.Codec
import JebaoFlow.Protocol.Session
import JebaoFlow.Proof.Framing
import JebaoFlow.Proof.Pairing
import JebaoFlow.Proof.Convergence
import JebaoFlow.Proof.Simulation
import JebaoFlow.Devices.Reading
import JebaoFlow.Lib.Varint
import JebaoFlow.Proof.Decoders
import JebaoFlow.Proof.PayloadBits
import JebaoFlow.Proof.PayloadRoundTrip
import JebaoFlow.Proof.ScheduleSlots
import JebaoFlow.Proof.Startup
import JebaoFlow.Proof.StatusReplies
import JebaoFlow.Proof.Journal
import JebaoFlow.Devices.Reports
import JebaoFlow.HomeAssistant.Runtime
import JebaoFlow.Lib.Affix
import JebaoFlow.Lib.Grammar
import JebaoFlow.Lib.Waves
import JebaoFlow.Proof.ChangeDetectors
import JebaoFlow.Proof.Discovery
import JebaoFlow.Proof.ExactPatterns
import JebaoFlow.Proof.SchedulePassage
import JebaoFlow.Proof.TopicGrammar
import JebaoFlow.Proof.PatternEnvelope
import JebaoFlow.Proof.PatternPhases
import JebaoFlow.Proof.LagoonSlope
import JebaoFlow.Proof.Forward
import JebaoFlow.Proof.AnyMessage
import JebaoFlow.Proof.Readings
import JebaoFlow.Proof.UniqueIds
import JebaoFlow.Proof.CallShown
import JebaoFlow.Proof.JournalShown
import JebaoFlow.Proof.Wire
import JebaoFlow.Proof.PumpAnswers
