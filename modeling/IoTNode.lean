import IoTNode.Foundations.Systems
import IoTNode.Foundations.BoundedQueues
import IoTNode.Coap
import IoTNode.LobaroLibrary
import IoTNode.LobaroMessages
import IoTNode.Json
import IoTNode.Foundations.Histories
import IoTNode.Led
import IoTNode.LedRefinement
import IoTNode.LedRequests
import IoTNode.LedAtomicity
import IoTNode.Handlers
import IoTNode.Answers
import IoTNode.CompleteResponses
import IoTNode.Foundations.Lists
import IoTNode.Resources
import IoTNode.Dispatch
import IoTNode.NotifyLifetimes
import IoTNode.MainLoop
import IoTNode.SwitchTask
import IoTNode.CoapTask
import IoTNode.CoapTaskContexts
import IoTNode.Foundations.Lifetimes
import IoTNode.CoapTaskSockets
import IoTNode.Foundations.BigEndian
import IoTNode.OptionContracts
import IoTNode.OptionRoundTrip
import IoTNode.OptionReading
import IoTNode.OptionReplacement
import IoTNode.LedPosts
import IoTNode.Rejections
import IoTNode.LedChanges
import IoTNode.CoapTaskConnections
import IoTNode.ConnectionSignals
import IoTNode.ResourceDestruction
import IoTNode.Payloads
import IoTNode.Datagrams
import IoTNode.Replies
import IoTNode.Blinking
import IoTNode.Foundations.Texts
import IoTNode.IpTexts
import IoTNode.Registration
import IoTNode.FailedResources
import IoTNode.Foundations.Simulations
import IoTNode.Startup
import IoTNode.Node
import IoTNode.NodeReports
import IoTNode.NodeRequests
import IoTNode.LedChannels
import IoTNode.NotificationService
import IoTNode.SwitchService
import IoTNode.SwitchStartup
import IoTNode.SwitchHistory
import IoTNode.OptionStore
import IoTNode.WifiConnection
import IoTNode.RtcCounter
import IoTNode.StackContents
import IoTNode.NodeNotifications
import IoTNode.LedTasks
import IoTNode.LedOvertaking
