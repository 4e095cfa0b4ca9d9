import PeripheralLink.Main
import PeripheralLink.Scenario.Run
import PeripheralLink.Proofs.Link.Sound
import PeripheralLink.Proofs.Rig.Moment
import PeripheralLink.Proofs.Rig.Interlude
import PeripheralLink.Proofs.Rig.Table
import PeripheralLink.Proofs.Rig.Course
import PeripheralLink.Proofs.Rig.Chronicle
import PeripheralLink.Proofs.Message.Grammar
import PeripheralLink.Proofs.Message.RoundTrip
import PeripheralLink.Proofs.Wire.Loops
import PeripheralLink.Proofs.Wire.Calls
import PeripheralLink.Proofs.Wire.Session
import PeripheralLink.Proofs.Wire.Reply
import PeripheralLink.Proofs.Rig.Oversized
import PeripheralLink.Proofs.Wire.Consumption
import PeripheralLink.Proofs.Wire.Lifetime
import PeripheralLink.Proofs.Rig.Retries
import PeripheralLink.Proofs.Rig.Outage
import PeripheralLink.Proofs.Message.Body
import PeripheralLink.Proofs.Message.Words
import PeripheralLink.Proofs.Wire.Framing
import PeripheralLink.Proofs.Companion.Service
import PeripheralLink.Proofs.Rig.Dialogue
import PeripheralLink.Proofs.Companion.Cutting
import PeripheralLink.Proofs.Rig.Recovery
import PeripheralLink.Proofs.Rig.Loss
import PeripheralLink.Proofs.Rig.Openings
import PeripheralLink.Proofs.Rig.Bridging
import PeripheralLink.Proofs.Wire.Opening
import PeripheralLink.Proofs.Wire.Deadline
import PeripheralLink.Proofs.Rig.Breakdown
import PeripheralLink.Proofs.Rig.Probing
import PeripheralLink.Proofs.Message.NormalForm
import PeripheralLink.Proofs.Message.Congruence
import PeripheralLink.Proofs.Message.Identity
import PeripheralLink.Proofs.Rig.Stages
import PeripheralLink.Proofs.Rig.Traffic
import PeripheralLink.Proofs.Wire.Posting
import PeripheralLink.Proofs.Rig.Posted
import PeripheralLink.Proofs.Rig.Delivery
import PeripheralLink.Proofs.Wire.LineBound
import PeripheralLink.Proofs.Rig.LineBound
import PeripheralLink.Proofs.Settings.Bounds
import PeripheralLink.Proofs.Loop.Course
import PeripheralLink.Proofs.Loop.StartUp
import PeripheralLink.Proofs.Message.Memory
import PeripheralLink.Proofs.Loop.Release
import PeripheralLink.Proofs.Rig.Indifference
