import AmBot.Session
import AmBot.Effects
import AmBot.Framing
import AmBot.Delivery
import AmBot.Isolation
import AmBot.Negotiation
import AmBot.SaslOrder
import AmBot.CapList
import AmBot.Bookkeeping
import AmBot.Descriptors
import AmBot.FirstSocket
import AmBot.Stops
import AmBot.Reloads
import AmBot.Endpoints
import AmBot.Disconnects
import AmBot.Endings
import AmBot.FailedReloads
import AmBot.Joins
import AmBot.Turns
import AmBot.Gate
import AmBot.ChatRequest
import AmBot.Replies
import AmBot.LineLimit
import AmBot.Forms
import AmBot.Owner
import AmBot.Separation
import AmBot.Lines
import AmBot.Addressee
import AmBot.ScriptCommand
import AmBot.Dispatch
import AmBot.PortLines
import AmBot.Pbmp
import AmBot.PbmpAnswers
import AmBot.PbmpRouting
import AmBot.Identity
import AmBot.QueueRuns
import AmBot.JsonStrings
import AmBot.RunLib.Base64
import AmBot.SaslPayload
import AmBot.NetworkList
import AmBot.Connectable
import AmBot.ChatFits
import AmBot.WholeLines
import AmBot.Pings
import AmBot.Reconnects
import AmBot.RunLib.Runs
import AmBot.RexxPort
import AmBot.RexxReplies
import AmBot.RunLib.Agree
import AmBot.RexxDrains
import AmBot.Handles
import AmBot.HandleRuns
import AmBot.HandleSessions
import AmBot.Machines
import AmBot.Rota
import AmBot.RotaRuns
import AmBot.CtrlC
import AmBot.CtrlCRuns
import AmBot.RunLib.Tasks
import AmBot.Instances
import AmBot.Modules
import AmBot.RunLib.Upholds
import AmBot.Fields
import AmBot.LineBreaks
import AmBot.FieldRuns
import AmBot.Profiles
import AmBot.RunLib.Alike
import AmBot.Select
import AmBot.Lifecycle
import AmBot.LifecycleRuns
