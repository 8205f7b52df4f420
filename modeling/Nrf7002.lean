import Nrf7002.Station.Buffer
import Nrf7002.Control.Lossless
import Nrf7002.Data.Bounds
import Nrf7002.Data.Indexing
import Nrf7002.Data.Addresses
import Nrf7002.Runtime.History
import Nrf7002.Events.PanicFree
import Nrf7002.Device.Delivery
import Nrf7002.Device.Run
import Nrf7002.Network.Delivery
import Nrf7002.Production.Refinement
import Nrf7002.Production.Authorization
import Nrf7002.Station.FailClosed
import Nrf7002.Wpa2.Authenticator
import Nrf7002.Wpa2.Session
import Nrf7002.Transport.Asserted
import Nrf7002.Firmware.Ordering
import Nrf7002.Firmware.Grammar
import Nrf7002.Transport.Ranges
import Nrf7002.Station.Deadlines
import Nrf7002.Station.Responses
import Nrf7002.Station.Answers
import Nrf7002.Runtime.Stalled
import Nrf7002.Production.ClosedPort
import Nrf7002.Wpa2.Wrapping
import Nrf7002.Runtime.Ledger
import Nrf7002.Production.SharedKeys
import Nrf7002.Foundation.Evolves
import Nrf7002.Wpa2.Response
import Nrf7002.Wpa2.GroupKey
import Nrf7002.Wpa2.RsnGrammar
import Nrf7002.System.Format
import Nrf7002.Control.Scan
import Nrf7002.Transport.Injective
import Nrf7002.Foundation.Threads
import Nrf7002.Network.Atomic
import Nrf7002.Network.Bounded
