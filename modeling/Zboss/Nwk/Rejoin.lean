/-
# Nwk.Rejoin -- rejoin requests, their responses, and the join indication

A parent remembers the short address of every device it sends a rejoin response to,
and takes the last one remembered when a response has been sent: the buffer of the
confirm holds nothing but the response.  The indication is made of what the tables say
about that address then, and of the security flag in the response's own header.
`inFlight` is what is on its way: the responses whose confirms are still to come, with
the capabilities the device asked with.
-/
import Mathlib
import Zboss.Common.Constants
import Zboss.Theory.Run
import Zboss.Nwk.AcceptChild

namespace Zboss.Nwk.Rejoin

open Zboss.Common.Constants
open Zboss.Common.Types
open Zboss.Common.Address
open Zboss.Nwk.Neighbor
open Zboss.Nwk.Forget
open Zboss.Nwk.AcceptChild
open Zboss.Zdo.DeviceInfo hiding zbNwkAcceptChild

set_option autoImplicit false

def zbNwkRejoinRequestTableSize : Nat := 3

/-! ## Requests and responses -/

/-- What is read of a rejoin request: the flags of its frame control, its addresses, its
payload, and the link quality. -/
structure RejoinRequest where
  destinationIeee : Bool
  sourceIeee : Bool
  security : Bool
  srcAddr : UInt16
  dstIeeeAddr : ZbIeeeAddr
  srcIeeeAddr : ZbIeeeAddr
  capabilityInformation : UInt8
  lqi : UInt8

/-- The rejoin response, header and payload. -/
structure RejoinResponse where
  dstAddr : UInt16
  dstIeeeAddr : ZbIeeeAddr
  security : Bool
  networkAddr : UInt16
  success : Bool

/-- An accepted rejoin whose response is on its way. -/
structure Pending where
  response : RejoinResponse
  capability : UInt8

structure ZbNlmeJoinIndication where
  networkAddress : UInt16
  extendedAddress : ZbIeeeAddr
  capabilityInformation : UInt8
  rejoinNetwork : Bool
  secureRejoin : Bool
  deriving DecidableEq

structure RejoinState where
  join : JoinContext
  rejoinReqTable : List UInt16
  inFlight : List Pending

/-- Without the other address in the header, the device's own comes in its place. -/
def RejoinRequest.device (req : RejoinRequest) : ZbIeeeAddr :=
  if req.destinationIeee then req.srcIeeeAddr else req.dstIeeeAddr

/-- The response to a device, once it is known whether it may rejoin. -/
def rejoinResponse (req : RejoinRequest) (address : Option UInt16) : RejoinResponse where
  dstAddr := req.srcAddr
  dstIeeeAddr := req.device
  security := req.security
  networkAddr := address.getD 0xFFFF
  success := address.isSome

/-- The response that is sent, if one is. -/
def zbNlmeRejoinRequest (req : RejoinRequest) (s : RejoinState) :
    Except LockStop (RejoinState × Option RejoinResponse) := do
  if s.rejoinReqTable.length < zbNwkRejoinRequestTableSize ∧ req.sourceIeee = true then
    let (join, address) ←
      zbNwkAcceptChild req.device req.capabilityInformation req.lqi s.join
    let response := rejoinResponse req address
    match address with
    | some address =>
        return ({ join := join
                  rejoinReqTable := s.rejoinReqTable ++ [address]
                  inFlight := s.inFlight ++ [⟨response, req.capabilityInformation⟩] },
          some response)
    | none => return ({ s with join := join }, some response)
  else return (s, none)

/-! ## Confirms -/

/-- Why a confirm is not followed by an indication. -/
inductive SentStop where
  | asserted
  | noNeighbor
  deriving DecidableEq

/-- Only that 2 fields of capability information are meaningful. -/
def meaningful (router rxOnWhenIdle : Bool) : UInt8 :=
  (if router then 2 else 0) ||| (if rxOnWhenIdle then 8 else 0)

/-- The address of the indication is the last one remembered; the buffer is that of
`response`.  The status of the look-up in the neighbour table is not read: without an
entry, the pointer that is followed was never set. -/
def zbNlmeRejoinRespSent (response : RejoinResponse) (s : RejoinState) :
    Except SentStop (RejoinState × ZbNlmeJoinIndication) :=
  match s.rejoinReqTable.getLast? with
  | none => .error .asserted
  | some address =>
      match zbAddressByShort address false false s.join.nwk.addr with
      | some (g, .ok ref) =>
          let (extendedAddress, networkAddress) := zbAddressByRef ref g
          let n := s.join.nwk.neighbor.addrToNeighbor ref
          if n ≠ 255 then
            let nent := s.join.nwk.neighbor.baseNeighbor n.toNat
            .ok ({ s with
                join := { s.join with nwk := { s.join.nwk with addr := g } }
                rejoinReqTable := s.rejoinReqTable.dropLast },
              { networkAddress := networkAddress
                extendedAddress := extendedAddress
                capabilityInformation :=
                  meaningful (decide (nent.deviceType = zbNwkDeviceTypeRouter)) nent.rxOnWhenIdle
                rejoinNetwork := true
                secureRejoin := !response.security })
          else .error .noNeighbor
      | _ => .error .asserted

/-! ## Histories -/

/-- `respSent k` is the confirm of the response `k` of those on their way; a parent that
leaves the network itself forgets the addresses. -/
inductive RejoinCall where
  | rejoinRequest (req : RejoinRequest)
  | respSent (k : Nat)
  | doLeave (rejoin : Bool)
  | tables (nwk : NwkContext)

/-- What a confirm puts out. -/
def respSent (k : Nat) (s : RejoinState) : Option (RejoinState × ZbNlmeJoinIndication) := do
  let pending ← s.inFlight[k]?
  let (t, indication) ← (zbNlmeRejoinRespSent pending.response s).toOption
  return ({ t with inFlight := s.inFlight.eraseIdx k }, indication)

def rejoinStep (s : RejoinState) : RejoinCall → Option RejoinState
  | .rejoinRequest req => (zbNlmeRejoinRequest req s).toOption.map Prod.fst
  | .respSent k => (respSent k s).map Prod.fst
  | .doLeave rejoin =>
      (zbNwkDoLeave rejoin s.join.nwk).map fun nwk =>
        { s with join := { s.join with nwk := nwk }, rejoinReqTable := [] }
  | .tables nwk => some { s with join := { s.join with nwk := nwk } }

/-- The rejoins a step accepts. -/
def accepted (s : RejoinState) : RejoinCall → List Pending
  | .rejoinRequest req =>
      match zbNlmeRejoinRequest req s with
      | .ok (_, some response) =>
          if response.success then [⟨response, req.capabilityInformation⟩] else []
      | _ => []
  | _ => []

/-- The indications a step issues. -/
def indications (s : RejoinState) : RejoinCall → List ZbNlmeJoinIndication
  | .respSent k => ((respSent k s).map Prod.snd).toList
  | _ => []

end Zboss.Nwk.Rejoin
