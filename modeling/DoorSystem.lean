import DoorSystem.Hub.History
import DoorSystem.Hub.Membership
import DoorSystem.Hub.Forwarding
import DoorSystem.Hub.Eviction
import DoorSystem.Hub.Journal
import DoorSystem.Hub.Offline
import DoorSystem.Hub.Isolation
import DoorSystem.Hub.Routes
import DoorSystem.Hub.Log
import DoorSystem.Hub.LastOnline
import DoorSystem.Hub.Restart
import DoorSystem.Door.Bolt
import DoorSystem.Door.Reporting
import DoorSystem.Door.Agreement
import DoorSystem.Door.Answer
import DoorSystem.Http.Routing
import DoorSystem.Http.Encoding
import DoorSystem.Http.Gate
import DoorSystem.Http.Segments
import DoorSystem.Http.Bodies
import DoorSystem.System.AckTruth
import DoorSystem.System.AckDelivery
import DoorSystem.System.Provenance
import DoorSystem.System.Mirror
import DoorSystem.System.Health
import DoorSystem.System.Delivery
import DoorSystem.System.Identity
import DoorSystem.System.Decoder
import DoorSystem.System.Views
import DoorSystem.System.Retransmission
import DoorSystem.Node.Answers
import DoorSystem.Node.Refinement
import DoorSystem.Web.Button
import DoorSystem.Led.Queue
import DoorSystem.Alert.Webhook
import DoorSystem.Alert.Monitor
import DoorSystem.Door.Rotation
import DoorSystem.Door.Cleanup
import DoorSystem.Led.Pwm
import DoorSystem.Hub.Tokens
import DoorSystem.Hub.Grammar
import DoorSystem.Lib.Descriptors
import DoorSystem.Hal.Gpio
import DoorSystem.Hal.PinBank
import DoorSystem.Door.Lines
import DoorSystem.Door.LineStart
import DoorSystem.Lib.Polling
import DoorSystem.Door.Sensor
import DoorSystem.Door.Overlap
import DoorSystem.Led.Lights
import DoorSystem.Hub.Receiver
import DoorSystem.System.Execution
import DoorSystem.Lib.Tally
import DoorSystem.Web.Polls
import DoorSystem.Door.SensorLines
import DoorSystem.Door.OnLines
import DoorSystem.Door.Lamps
import DoorSystem.System.HubDoor
import DoorSystem.Lib.Paths
import DoorSystem.Node.StaticFiles
import DoorSystem.Lib.Stdio
import DoorSystem.System.Console
import DoorSystem.Http.ServerLoop
