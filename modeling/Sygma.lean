import Sygma.Library.Exec
import Sygma.Library.StorageMap
import Sygma.Library.Bitmap
import Sygma.Library.Bytes
import Sygma.Library.Run
import Sygma.Library.FixedPoint
import Sygma.Library.Scale
import Sygma.Xcm
import Sygma.XcmCodec
import Sygma.State
import Sygma.Config
import Sygma.AccessSegregator
import Sygma.FeeHandlers
import Sygma.Bridge.Digest
import Sygma.Bridge.DepositData
import Sygma.Bridge.Pallet
import Sygma.Bridge.Migration
import Sygma.Bridge.Transactor
import Sygma.Bridge.Specs
import Sygma.Runtime.Dispatch
import Sygma.Bridge.Transfers
import Sygma.Runtime.Machine
import Sygma.Runtime.Executions
import Sygma.Runtime.DecimalConverter
import Sygma.Ledger
import Sygma.Runtime.Standalone
import Sygma.Bridge.Settlement
import Sygma.Runtime.Isolation
import Sygma.Runtime.Solvency
import Sygma.Runtime.TwoChains
import Sygma.Runtime.Binding
import Sygma.Runtime.Nonces
import Sygma.Runtime.Authority
import Sygma.Runtime.Pausing
import Sygma.Runtime.Keys
import Sygma.Runtime.Ordering
import Sygma.Library.Address
import Sygma.Runtime.XcmRoutes
import Sygma.BridgeForwarder
import Sygma.Runtime.Parachain
import Sygma.Runtime.Routing
import Sygma.Runtime.Pallets
import Sygma.Runtime.Conservation
import Sygma.Runtime.Conversion
import Sygma.Runtime.Fees
import Sygma.Library.Eip712
import Sygma.Runtime.DepositCodec
import Sygma.Runtime.TypedData
import Sygma.Runtime.Destinations
import Sygma.Runtime.XcmPrograms
import Sygma.Runtime.Forwarding
import Sygma.Library.Replay
import Sygma.Library.Transit
import Sygma.Runtime.EventLog
import Sygma.Runtime.Relays
import Sygma.Runtime.Network
import Sygma.Runtime.Adapters
import Sygma.Runtime.Delegation
import Sygma.Runtime.Deployments
import Sygma.Runtime.Resubmission
import Sygma.Runtime.Setup
import Sygma.Library.Channel
import Sygma.Runtime.Channels
import Sygma.Runtime.Precision
import Sygma.Runtime.Treasury
