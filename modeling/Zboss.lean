import Zboss.Theory.Probe
import Zboss.Theory.Run
import Zboss.Theory.Table
import Zboss.Theory.SortedIndex
import Zboss.Theory.Directory
import Zboss.Theory.Intern
import Zboss.Common.Types
import Zboss.Common.Address
import Zboss.Common.AddressIndex
import Zboss.Common.AddressPairs
import Zboss.Common.AddressRun
import Zboss.Common.AddressBijection
import Zboss.Common.AddressCompress
import Zboss.Aps.Bind
import Zboss.Aps.BindLinks
import Zboss.Secur.KeyMaterial
import Zboss.Secur.ActiveKey
import Zboss.Secur.KeyLookup
import Zboss.Theory.CounterLives
import Zboss.Secur.NwkSecure
import Zboss.Secur.Nonce
import Zboss.Theory.CcmStar
import Zboss.Secur.Ccm
import Zboss.Secur.CcmRoundTrip
import Zboss.Theory.BlockTree
import Zboss.Nwk.Neighbor
import Zboss.Nwk.TreeRouting
import Zboss.Theory.LinkedList
import Zboss.Common.ListMacros
import Zboss.Theory.Circular
import Zboss.Common.RingBuffer
import Zboss.Common.Scheduler
import Zboss.Common.CallbackQueue
import Zboss.Common.TimerQueue
import Zboss.Common.AlarmTime
import Zboss.Common.Bufpool
import Zboss.Common.BufpoolRun
import Zboss.Common.BufpoolOverflow
import Zboss.Nwk.Broadcast
import Zboss.Zdo.App
import Zboss.Zdo.BufferZero
import Zboss.Aps.Dups
import Zboss.Common.PacketBuf
import Zboss.Common.PacketBufRun
import Zboss.Nwk.HeaderRoundTrip
import Zboss.Mac.Header
import Zboss.Mac.Receive
import Zboss.Mac.Poll
import Zboss.Secur.NwkFrame
import Zboss.Secur.NwkRoundTrip
import Zboss.Nwk.Header
import Zboss.Nwk.Forget
import Zboss.Nwk.LockedRefs
import Zboss.Zdo.DeviceInfo
import Zboss.Zdo.LockCount
import Zboss.Common.AddressHolds
import Zboss.Common.AddressCount
import Zboss.Aps.FreshEntry
import Zboss.Aps.AgingTimer
import Zboss.Common.FailedLookup
import Zboss.Common.PanIdTable
import Zboss.Nwk.AcceptChild
import Zboss.Nwk.Cskip
import Zboss.Nwk.CskipWidth
import Zboss.Nwk.ChildAddresses
import Zboss.Nwk.JoinIndication
import Zboss.Nwk.Relay
import Zboss.Nwk.RelayStep
import Zboss.Nwk.PassiveAck
import Zboss.Nwk.FanOut
import Zboss.Nwk.Rejoin
import Zboss.Aps.AckMatch
import Zboss.Aps.SaveAck
import Zboss.Aps.BindingSearch
import Zboss.Aps.AckHandle
import Zboss.Mac.DataRequest
import Zboss.Aps.Retransmit
import Zboss.Aps.Unicast
import Zboss.Zdo.ChannelChange
import Zboss.Zdo.ScanContext
import Zboss.Zdo.CheckLimit
import Zboss.Zdo.ScanOverlap
import Zboss.Theory.Slots
import Zboss.Nwk.RelayIndicate
import Zboss.Nwk.BroadcastFilter
import Zboss.Nwk.MeshRouting
import Zboss.Nwk.RequestCosts
import Zboss.Theory.NextHop
import Zboss.Nwk.MeshLoops
import Zboss.Nwk.RouteBuffers
import Zboss.Nwk.TableCounters
import Zboss.Nwk.Formation
import Zboss.Theory.BackIndex
import Zboss.Nwk.NeighborIndex
import Zboss.Zdo.MgmtLeave
import Zboss.Zdo.BufferOwner
import Zboss.Zdo.Transactions
import Zboss.Zdo.Dispatch
import Zboss.Zdo.EndDeviceBind
import Zboss.Zdo.EndDeviceBindWalk
import Zboss.Zdo.EndDeviceBindRun
import Zboss.Nwk.TreeDelivery
import Zboss.Secur.Replay
import Zboss.Mac.Transmit
import Zboss.Mac.TransmitEngine
import Zboss.Mac.IndirectQueue
import Zboss.Mac.DataAccounts
import Zboss.Mac.PendingBuf
import Zboss.Secur.ReceivePath
import Zboss.Secur.ReceivedHeaders
import Zboss.Nwk.RefusedJoin
import Zboss.Zdo.LeaveEntry
import Zboss.Nwk.RejectedRoute
import Zboss.Nwk.AckVector
import Zboss.Mac.Fcs
import Zboss.Mac.HeaderRoundTrip
import Zboss.Nwk.PathCosts
import Zboss.Nwk.DiscoveryExpiry
import Zboss.Nwk.NeighborSlots
import Zboss.Nwk.NeighborSplit
import Zboss.Theory.Retry
import Zboss.Nwk.PanidConflict
import Zboss.Nwk.FormationDraws
import Zboss.Theory.RunningBest
import Zboss.Nwk.ParentChoice
import Zboss.Theory.Firsts
import Zboss.Nwk.DiscoveryConfirm
import Zboss.Mac.ScanStep
import Zboss.Theory.Attributes
import Zboss.Nwk.NibAttributes
import Zboss.Mac.PibAttributes
import Zboss.Aps.AibAttributes
import Zboss.Zdo.EnergyReport
import Zboss.Zdo.AddressList
import Zboss.Zdo.LqiPaging
import Zboss.Zdo.MatchDesc
import Zboss.Zdo.SendByShort
import Zboss.Zdo.SimpleDescResp
import Zboss.Zdo.RequestAgree
import Zboss.Zdo.RequestBounds
import Zboss.Secur.Aes
import Zboss.Aps.GroupDelivery
import Zboss.Mac.Beacon
import Zboss.Nwk.PermitJoin
