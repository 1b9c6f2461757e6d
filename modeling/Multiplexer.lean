import Multiplexer.Main
import Multiplexer.Server.Hosting
import Multiplexer.Proofs.Entries
import Multiplexer.Proofs.Account
import Multiplexer.Proofs.ChannelSteps
import Multiplexer.Proofs.ChannelMoves
import Multiplexer.Proofs.Controls
import Multiplexer.Proofs.Moves
import Multiplexer.Proofs.Linked
import Multiplexer.Proofs.Settling
import Multiplexer.Proofs.LinkedMoves
import Multiplexer.Proofs.Drives
import Multiplexer.Proofs.TurnMoves
import Multiplexer.Proofs.StepMoves
import Multiplexer.Proofs.Undisturbed
import Multiplexer.Proofs.Acceptance
import Multiplexer.Proofs.StreamAccount
import Multiplexer.Proofs.StreamRun
import Multiplexer.Proofs.StreamTrace
import Multiplexer.Proofs.ResponseStream
import Multiplexer.Proofs.StreamEnd
import Multiplexer.Proofs.RequestResponse
import Multiplexer.Proofs.ChannelErrors
import Multiplexer.Proofs.RequestChannel
import Multiplexer.Proofs.FrameHeader
import Multiplexer.Proofs.CanonicalFrame
import Multiplexer.Proofs.FrameReading
import Multiplexer.Proofs.ChunkedDecoding
import Multiplexer.Proofs.SharedBuffer
import Multiplexer.Proofs.Reopening
import Multiplexer.Proofs.InboundHalf
import Multiplexer.Proofs.ChannelEntries
import Multiplexer.Proofs.CancelledTurns
import Multiplexer.Proofs.Cancellation
import Multiplexer.Proofs.RegistrySteps
import Multiplexer.Proofs.ChannelCourses
import Multiplexer.Proofs.Ownership
import Multiplexer.Proofs.DuplicateRequests
import Multiplexer.Proofs.Disposal
import Multiplexer.Proofs.Teardown
import Multiplexer.Proofs.Silence
import Multiplexer.Proofs.Employment
import Multiplexer.Proofs.LateFrames
import Multiplexer.Proofs.Departures
import Multiplexer.Proofs.LastFrames
import Multiplexer.Proofs.Signals
import Multiplexer.Proofs.Passing
import Multiplexer.Proofs.Deliveries
import Multiplexer.Proofs.InboundDelivery
import Multiplexer.Proofs.CalmApplication
import Multiplexer.Proofs.CalmTurns
import Multiplexer.Proofs.CalmDispatch
import Multiplexer.Proofs.CalmTwins
import Multiplexer.Proofs.Panics
import Multiplexer.Proofs.PanickedTurns
import Multiplexer.Proofs.Containment
import Multiplexer.Proofs.CreditConservation
import Multiplexer.Proofs.RegistryRuns
import Multiplexer.Proofs.RegistrationEnds
import Multiplexer.Proofs.StreamScope
import Multiplexer.Proofs.StreamDispatch
import Multiplexer.Proofs.StreamTurns
import Multiplexer.Proofs.TaskChannels
import Multiplexer.Proofs.StreamsApart
import Multiplexer.Proofs.OutboundOrder
import Multiplexer.Proofs.RecordSequence
import Multiplexer.Proofs.InboundSequence
import Multiplexer.Proofs.Batches
import Multiplexer.Proofs.Transmission
import Multiplexer.Proofs.Speech
import Multiplexer.Proofs.Understood
import Multiplexer.Proofs.BodyGrammar
import Multiplexer.Proofs.NormalForm
import Multiplexer.Proofs.RefusedRequests
import Multiplexer.Proofs.ChannelLives
import Multiplexer.Proofs.InboundLives
import Multiplexer.Proofs.BackoffDelays
import Multiplexer.Proofs.Wakeups
import Multiplexer.Proofs.DriverWaits
import Multiplexer.Proofs.CombinedFrames
import Multiplexer.Proofs.StreamAnswers
import Multiplexer.Proofs.ErrorSources
import Multiplexer.Proofs.Utterances
import Multiplexer.Proofs.ErrorAgreement
