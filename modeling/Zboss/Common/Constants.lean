/-
# Common.Constants -- the values that more than one module of the stack uses

Grouped by layer, under the names of `zb_mac.h`, `zb_nwk.h`, `zb_aps.h` and `zb_zdo.h`.
-/
import Mathlib

namespace Zboss.Common.Constants

set_option autoImplicit false

/-! ## The packet buffer -/

/-- `ZB_IO_BUF_SIZE` -/
def zbIoBufSize : Nat := 148

/-! ## MAC -/

def macFrameBeacon : UInt8 := 0

def macFrameData : UInt8 := 1

def macFrameAcknowledgment : UInt8 := 2

def macFrameCommand : UInt8 := 3

def zbAddrNoAddr : UInt8 := 0

def zbAddr16bitDevOrBroadcast : UInt8 := 2

def zbAddr64bitDev : UInt8 := 3

def macSuccess : UInt8 := 0

def macInvalidParameter : UInt8 := 0xE8

def macNoBeacon : UInt8 := 0xEA

def macNoData : UInt8 := 0xEB

def edScan : UInt8 := 0

def activeScan : UInt8 := 1

def zbDefaultScanDuration : UInt8 := 3

/-! ## NWK -/

def zbNwkDeviceTypeEd : UInt8 := 0

def zbNwkDeviceTypeRouter : UInt8 := 1

def zbNwkDeviceTypeCoordinator : UInt8 := 2

def zbNwkDeviceTypeNone : UInt8 := 3

def zbNwkFrameTypeData : UInt8 := 0

def zbNwkFrameTypeCommand : UInt8 := 1

def zbProtocolVersion : UInt8 := 2

def zbNwkCmdNetworkStatus : UInt8 := 0x03

def zbNwkCmdNetworkReport : UInt8 := 0x09

def zbNwkCmdNetworkUpdate : UInt8 := 0x0A

def zbNwkBroadcastLowPowerRouter : UInt16 := 0xFFFB

def zbNwkBroadcastRouterCoordinator : UInt16 := 0xFFFC

def zbNwkBroadcastRxOnWhenIdle : UInt16 := 0xFFFD

def zbNwkStatusSuccess : UInt8 := 0

def zbNwkStatusInvalidRequest : UInt8 := 0xC2

def zbPanidTableSize : Nat := 8

/-! ## APS -/

def apsCmdTransportKey : UInt8 := 5

def zbApsDeliveryUnicast : UInt8 := 0

def zbApsDeliveryBroadcast : UInt8 := 2

def zbMinEndpointNumber : UInt8 := 1

def zbMaxEndpointNumber : UInt8 := 240

/-! ## ZDO -/

def zdoTranTableSize : Nat := 16

def zbZdoPendingLeaveSize : Nat := 4

def zbZdpStatusSuccess : UInt8 := 0

def zbZdpStatusInvRequesttype : UInt8 := 0x80

def zbZdpStatusDeviceNotFound : UInt8 := 0x81

def zbZdpStatusInvalidEp : UInt8 := 0x82

def zbZdpStatusNotSupported : UInt8 := 0x84

def zbZdpStatusTimeout : UInt8 := 0x85

def zbZdpStatusNoMatch : UInt8 := 0x86

def zbZdpStatusNoEntry : UInt8 := 0x88

def zbZdpStatusNoDescriptor : UInt8 := 0x89

def zbZdpStatusInsufficientSpace : UInt8 := 0x8a

def zbZdpStatusTableFull : UInt8 := 0x8c

def zbZdoSingleDevResponse : UInt8 := 0

def zbZdoExtendedResponse : UInt8 := 1

/-! ## Clusters of ZDO -/

def zdoNwkAddrReqClid : UInt16 := 0x0000

def zdoIeeeAddrReqClid : UInt16 := 0x0001

def zdoNodeDescReqClid : UInt16 := 0x0002

def zdoPowerDescReqClid : UInt16 := 0x0003

def zdoSimpleDescReqClid : UInt16 := 0x0004

def zdoActiveEpReqClid : UInt16 := 0x0005

def zdoMatchDescReqClid : UInt16 := 0x0006

def zdoDeviceAnnceClid : UInt16 := 0x0013

def zdoSystemServerDiscoveryReqClid : UInt16 := 0x0015

def zdoEndDeviceBindReqClid : UInt16 := 0x0020

def zdoBindReqClid : UInt16 := 0x0021

def zdoUnbindReqClid : UInt16 := 0x0022

def zdoMgmtLqiReqClid : UInt16 := 0x0031

def zdoMgmtLeaveReqClid : UInt16 := 0x0034

def zdoMgmtPermitJoiningClid : UInt16 := 0x0036

def zdoMgmtNwkUpdateReqClid : UInt16 := 0x0038

def zdoNwkAddrRespClid : UInt16 := 0x8000

def zdoIeeeAddrRespClid : UInt16 := 0x8001

def zdoNodeDescRespClid : UInt16 := 0x8002

def zdoPowerDescRespClid : UInt16 := 0x8003

def zdoSimpleDescRespClid : UInt16 := 0x8004

def zdoActiveEpRespClid : UInt16 := 0x8005

def zdoMatchDescRespClid : UInt16 := 0x8006

def zdoSystemServerDiscoveryRespClid : UInt16 := 0x8015

def zdoEndDeviceBindRespClid : UInt16 := 0x8020

def zdoBindRespClid : UInt16 := 0x8021

def zdoUnbindRespClid : UInt16 := 0x8022

def zdoMgmtLqiRespClid : UInt16 := 0x8031

def zdoMgmtLeaveRespClid : UInt16 := 0x8034

def zdoMgmtNwkUpdateNotifyClid : UInt16 := 0x8038

end Zboss.Common.Constants
