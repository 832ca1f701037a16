import Icap.Proofs.Client.Bounds
import Icap.Proofs.Client.Deadlines
import Icap.Proofs.Client.Turns
import Icap.Proofs.Frame.First
import Icap.Proofs.Frame.Limit
import Icap.Proofs.Frame.Retry
import Icap.Proofs.Head.Sections
import Icap.Proofs.Head.Sizes
import Icap.Proofs.Pool.Deadline
import Icap.Proofs.Pool.Grant
import Icap.Proofs.Pool.Losses
import Icap.Proofs.Promise
import Icap.Proofs.Request.Echo
import Icap.Proofs.Request.Filename
import Icap.Proofs.Response.Decoding
import Icap.Proofs.Response.Judgement
import Icap.Proofs.Response.Records
import Icap.Proofs.Response.Sound
import Icap.Proofs.Response.Status
import Icap.Proofs.Response.Violations
import Icap.Proofs.Route.Text
import Icap.Proofs.Session.CutShort
import Icap.Proofs.Session.Dropping
import Icap.Proofs.Session.Fragments
import Icap.Proofs.Session.Patience
import Icap.Proofs.Session.Traffic
import Icap.Proofs.Session.Wire
import Icap.Proofs.Settings.Order
import Icap.Stage.Pool
import Icap.Stage.Script
