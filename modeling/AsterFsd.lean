import AsterFsd.Lib.KeyedMap
import AsterFsd.Lib.Machine
import AsterFsd.Core.KillAuthority
import AsterFsd.Core.Atomic
import AsterFsd.Core.Closing
import AsterFsd.Core.Announcements
import AsterFsd.Core.Ledger
import AsterFsd.Core.Reach
import AsterFsd.Core.Audience
import AsterFsd.Core.Life
import AsterFsd.Core.Weather
import AsterFsd.Protocol.Tokens
import AsterFsd.Protocol.Codec
import AsterFsd.Protocol.Reads
import AsterFsd.Protocol.Relay
import AsterFsd.Protocol.FlightPlans
import AsterFsd.Protocol.Bounds
import AsterFsd.Protocol.Families
import AsterFsd.Protocol.Transponder
import AsterFsd.Protocol.AsterObjects
import AsterFsd.Protocol.AsterTexts
import AsterFsd.Protocol.Callsigns
import AsterFsd.Protocol.Compact
import AsterFsd.Protocol.Endpoint
import AsterFsd.Protocol.Carriage
import AsterFsd.Protocol.Weather
import AsterFsd.Persistence.Discretion
import AsterFsd.Server.Welcome
import AsterFsd.Server.PlainLoop
import AsterFsd.Server.Secrecy
import AsterFsd.Server.Gap
import AsterFsd.Server.Order
import AsterFsd.Server.Cleanup
import AsterFsd.Server.Isolation
import AsterFsd.Server.Shutdown
import AsterFsd.Server.Arrival
