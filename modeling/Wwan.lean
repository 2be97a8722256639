import Wwan.Proofs.At.Csim
import Wwan.Proofs.At.Reader
import Wwan.Proofs.Cdcwdm.Conn
import Wwan.Proofs.DirectPool
import Wwan.Proofs.Mbim.Agreement
import Wwan.Proofs.Mbim.BaseStations
import Wwan.Proofs.Mbim.Contexts
import Wwan.Proofs.Mbim.Dispatcher
import Wwan.Proofs.Mbim.Fragment
import Wwan.Proofs.Mbim.Indications
import Wwan.Proofs.Mbim.Lease
import Wwan.Proofs.Mbim.Nssai
import Wwan.Proofs.Mbim.Pco
import Wwan.Proofs.Mbim.Queue
import Wwan.Proofs.Mbim.Reassembly
import Wwan.Proofs.Mbim.Receiver
import Wwan.Proofs.Mbim.Responses
import Wwan.Proofs.Mbim.Routing
import Wwan.Proofs.Mbim.Streams
import Wwan.Proofs.Mbim.Tai
import Wwan.Proofs.Mbim.Tlv
import Wwan.Proofs.Mbim.UePolicy
import Wwan.Proofs.Mbim.Watch
import Wwan.Proofs.Mbim.Wire
import Wwan.Proofs.Modem.Bands
import Wwan.Proofs.Modem.BearerNetwork
import Wwan.Proofs.Modem.Devices
import Wwan.Proofs.Modem.Incoming
import Wwan.Proofs.Modem.InitialEps
import Wwan.Proofs.Modem.MbimProfiles
import Wwan.Proofs.Modem.Messaging
import Wwan.Proofs.Modem.Modes
import Wwan.Proofs.Modem.Ownership
import Wwan.Proofs.Modem.PowerStatus
import Wwan.Proofs.Modem.QmiConnect
import Wwan.Proofs.Modem.QmiProfiles
import Wwan.Proofs.Modem.Registry
import Wwan.Proofs.Modem.RouteNetlink
import Wwan.Proofs.Modem.Session
import Wwan.Proofs.Modem.SessionSlots
import Wwan.Proofs.Modem.SimEnrichment
import Wwan.Proofs.Modem.SimMetadata
import Wwan.Proofs.Modem.Streams
import Wwan.Proofs.Modem.UeventQueue
import Wwan.Proofs.Modem.Ussd
import Wwan.Proofs.Modem.WatchNotifications
import Wwan.Proofs.Modem.WatchStatus
import Wwan.Proofs.Qcom.CatClaim
import Wwan.Proofs.Qcom.ClientIds
import Wwan.Proofs.Qcom.EventMasks
import Wwan.Proofs.Qcom.IncrementalScan
import Wwan.Proofs.Qcom.PdcLoad
import Wwan.Proofs.Qcom.ProfileCodec
import Wwan.Proofs.Qcom.ProfileEvents
import Wwan.Proofs.Qcom.Qmux
import Wwan.Proofs.Qcom.Requests
import Wwan.Proofs.Qcom.Subscription
import Wwan.Proofs.Qcom.Tlv
import Wwan.Proofs.Qcom.Watches
import Wwan.Proofs.Sim.Aka
import Wwan.Proofs.Sim.AlphaIdentifier
import Wwan.Proofs.Sim.DateTimeZone
import Wwan.Proofs.Sim.Envelope
import Wwan.Proofs.Sim.Exchange
import Wwan.Proofs.Sim.FileCodec
import Wwan.Proofs.Sim.FileRead
import Wwan.Proofs.Sim.Identity
import Wwan.Proofs.Sim.Reader
import Wwan.Proofs.Sim.Stk
import Wwan.Proofs.Sim.StkCommand
import Wwan.Proofs.Sim.StkDelivery
import Wwan.Proofs.Sim.StkText
import Wwan.Proofs.Sim.Tlv
import Wwan.Proofs.Sms.Accounting
import Wwan.Proofs.Sms.Address
import Wwan.Proofs.Sms.Assembler
import Wwan.Proofs.Sms.Decode
import Wwan.Proofs.Sms.Lossless
import Wwan.Proofs.Sms.RoundTrip
import Wwan.Proofs.Sms.Safety
import Wwan.Proofs.Sms.Septets
import Wwan.Proofs.Sms.Split
import Wwan.Proofs.Sms.Submit
import Wwan.Proofs.Sms.Text
import Wwan.Proofs.Sms.Unicode
