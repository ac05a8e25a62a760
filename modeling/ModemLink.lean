import ModemLink.Bench.Presets
import ModemLink.Bench.Session
import ModemLink.Engine.Query
import ModemLink.Bg96.Commands
import ModemLink.SerialPort
import ModemLink.Proofs.Framing.Stream
import ModemLink.Proofs.Engine.Interference
import ModemLink.Proofs.Engine.Payload
import ModemLink.Proofs.Bg96.Reading
import ModemLink.Proofs.Socket.Lifecycle
import ModemLink.Proofs.Response.Classification
import ModemLink.Proofs.Engine.Prompt
import ModemLink.Proofs.Urc.Acceptance
import ModemLink.Proofs.Engine.LinkLoss
import ModemLink.Proofs.Engine.Revival
import ModemLink.Proofs.Serial.Wire
import ModemLink.Proofs.Registration.Location
import ModemLink.Proofs.Engine.Contexts
import ModemLink.Proofs.Engine.Rejection
import ModemLink.Proofs.Response.Validation
import ModemLink.Proofs.Engine.ReceiveLoop
import ModemLink.Proofs.Engine.Return
import ModemLink.Proofs.Bg96.Closing
import ModemLink.Proofs.Serial.Accounting
import ModemLink.Proofs.Bg96.Connecting
import ModemLink.Proofs.Bg96.Activating
import ModemLink.Proofs.Engine.Listing
import ModemLink.Proofs.Serial.Receiving
import ModemLink.Proofs.Registration.Layouts
import ModemLink.Proofs.Urc.Spacing
import ModemLink.Proofs.Socket.FiniteMap
import ModemLink.Proofs.Text.Splitting
import ModemLink.Proofs.Text.Integers
import ModemLink.Proofs.Text.Hexadecimal
import ModemLink.Proofs.Bg96.Announcement
import ModemLink.Proofs.Urc.Routing
