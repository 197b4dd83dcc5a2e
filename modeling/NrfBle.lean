import NrfBle.Rust
import NrfBle.Hil
import NrfBle.Connection.Model
import NrfBle.Connection.Expand
import NrfBle.Connection.Remap
import NrfBle.Connection.Reachable
import NrfBle.Connection.Csa1
import NrfBle.Connection.Hopping
import NrfBle.Radio.Model
import NrfBle.Radio.Driver
import NrfBle.Radio.Frame
import NrfBle.Radio.Walk
import NrfBle.Radio.Initialize
import NrfBle.Radio.Capture
import NrfBle.Radio.Enable
import NrfBle.Radio.Turnaround
import NrfBle.Radio.AccessAddress
import NrfBle.Radio.Configured
import NrfBle.Radio.Payload
import NrfBle.Radio.Exclusive
import NrfBle.Radio.Delivery
import NrfBle.Radio.Channels
import NrfBle.Radio.Unreachable
import NrfBle.Radio.Settings
