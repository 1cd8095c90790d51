/-
# Zdo.App -- polling the parent, and the confirm of a data request

The two fields that remember a buffer, `dev_annce` and `key_sw`, are zero if none is
remembered.  Of the leave that may wait for a confirm, only whether there is one is
modelled.
-/
import Mathlib
import Zboss.Nwk.Broadcast

namespace Zboss.Zdo.App

open Zboss.Nwk.Broadcast

set_option autoImplicit false

/-- What is used of the ZDO's own state. -/
structure ZdoHandle where
  devAnnce : UInt8
  keySw : UInt8
  started : Bool
  insidePoll : Bool

/-- The request is built in the buffer. -/
def zbZdoPollParent (env : NwkEnv) (param : UInt8) (zdo : ZdoHandle) : ZdoHandle × List StackCall :=
  if param = 0 then (zdo, if env.joined then [.getOutBufDelayed .zbZdoPollParent] else [])
  else ({ zdo with insidePoll := true }, [.schedule .zbNlmeSyncRequest param])

/-- The announcement is built in the buffer. -/
def zdoSendDeviceAnnce (param : UInt8) (zdo : ZdoHandle) : ZdoHandle × List StackCall :=
  ({ zdo with devAnnce := param }, [.schedule .zbApsdeDataRequest param])

/-- The key switch is broadcast first. -/
def zbSecurSendNwkKeySwitch (param : UInt8) (zdo : ZdoHandle) : ZdoHandle × List StackCall :=
  ({ zdo with keySw := param }, [.schedule .zbApsmeSwitchKeyRequest param])

def zbApsdeDataConfirm (env : NwkEnv) (param : UInt8) (zdo : ZdoHandle) :
    ZdoHandle × List StackCall :=
  if zdo.devAnnce = param then
    ({ zdo with devAnnce := 0, started := true },
      .lockOwnAddress :: if zdo.started then [] else [.schedule .zbZdoStartupComplete param])
  else if zdo.keySw = param then ({ zdo with keySw := 0 }, [.securNwkKeySwitch])
  else if env.leaveWaits param then (zdo, [.mgmtLeaveComplete param])
  else (zdo, [if env.sent param then .schedule .zbApsdeDataAcknowledged param else .freeBuf param])

end Zboss.Zdo.App
