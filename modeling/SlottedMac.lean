import SlottedMac.Host
import SlottedMac.Proofs.Layout.Window
import SlottedMac.Proofs.Grid
import SlottedMac.Proofs.Fault
import SlottedMac.Proofs.Frame
import SlottedMac.Proofs.Node.Step
import SlottedMac.Proofs.Node.Path
import SlottedMac.Proofs.Access
import SlottedMac.Proofs.Alarms
import SlottedMac.Proofs.Outcomes
import SlottedMac.Proofs.Network.Disjoint
import SlottedMac.Proofs.Shift.Node
import SlottedMac.Proofs.OnTime
import SlottedMac.Proofs.Patience
import SlottedMac.Proofs.Launches
import SlottedMac.Proofs.Transmissions
import SlottedMac.Proofs.Delivery
import SlottedMac.Proofs.InFlight
import SlottedMac.Proofs.Synchrony
import SlottedMac.Proofs.TrueTime
import SlottedMac.Proofs.Watchdog
import SlottedMac.Proofs.OwnSlot
import SlottedMac.Proofs.Faultless
import SlottedMac.Proofs.Medium.Sensing
import SlottedMac.Proofs.Listening
import SlottedMac.Proofs.Unwatched
import SlottedMac.Proofs.FailedSend
import SlottedMac.Proofs.Layout.Exact
import SlottedMac.Proofs.Cadence
import SlottedMac.Proofs.Deferrals
import SlottedMac.Proofs.Medium.Completions
import SlottedMac.Proofs.Arbitration
import SlottedMac.Proofs.Muted
import SlottedMac.Proofs.Reception
import SlottedMac.Proofs.Medium.Power
import SlottedMac.Proofs.Strays
import SlottedMac.Proofs.Statistics
