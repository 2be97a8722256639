import Wwan.Lib.Go
import Wwan.Lib.Machine

/-! The data sessions of the two backends: their state, their watches, and their close. -/

namespace Wwan.Modem

/-- The addresses of a data session. -/
structure NetworkConfig where
  interface : GoString := []
  /-- Addresses with the length of their prefix. -/
  addresses : List (Bytes × Nat) := []
  gateways : List Bytes := []
  dns : List Bytes := []
  mtu : UInt32 := 0
  deriving DecidableEq

/-- What `Info` returns. -/
structure BearerInfo where
  connected : Bool := false
  profileID : Int := 0
  apn : GoString := []
  network : NetworkConfig := {}
  deriving DecidableEq

/-- The network that was read, on the interface that the session has. -/
def BearerInfo.refresh (info : BearerInfo) (network : NetworkConfig) : BearerInfo :=
  { info with network := { network with interface := info.network.interface } }

/-- A goroutine of a watch. -/
abbrev WatcherID := Nat

namespace Qmi

/-- How far `Close` is. -/
inductive CloseStage where
  | notCalled
  /-- The sessions and the link are being closed. -/
  | closing
  /-- The error that `Close` returns from then on. -/
  | closed (err : Option GoString)
  deriving DecidableEq

/-- How far the goroutine of a watch is. -/
inductive WatcherStage where
  | idle
  | waiting
  /-- It has an update of one of the sessions, and has read their addresses. -/
  | updating (index : Nat) (connected : Bool) (network : NetworkConfig)
  | returned
  deriving DecidableEq

/-- A QMI data session. -/
structure Session where
  connected : List Bool
  infoValue : BearerInfo
  close : CloseStage := .notCalled
  watchers : WatcherID → WatcherStage := fun _ => .idle

/-- What can happen to a QMI data session. -/
inductive SessionEvent where
  | watch (watcher : WatcherID)
  /-- A watch takes an update of one of the sessions. -/
  | update (watcher : WatcherID) (index : Nat) (connected : Bool) (network : NetworkConfig)
  /-- A watch writes its update under the lock. -/
  | apply (watcher : WatcherID)
  /-- A watch fails or its context ends. -/
  | leave (watcher : WatcherID)
  /-- The first call of `Close` or `Disconnect`. -/
  | close
  /-- That call is done with the sessions and the link, and writes the state under the lock. -/
  | closed (err : Option GoString)
  deriving DecidableEq

namespace Session

/-- A goroutine of a watch goes on. -/
def setWatcher (s : Session) (w : WatcherID) (stage : WatcherStage) : Session :=
  { s with watchers := fun other => if other = w then stage else s.watchers other }

/-- One step of a QMI data session. -/
def step (s : Session) : SessionEvent → Option Session
  | .watch w => if s.watchers w = .idle then some (s.setWatcher w .waiting) else none
  | .update w index connected network =>
    if s.watchers w = .waiting && index < s.connected.length then
      some (s.setWatcher w (.updating index connected network))
    else none
  | .apply w =>
    match s.watchers w with
    | .updating index isConnected network =>
      -- The session is connected while one of its networks is.
      let connected := s.connected.set index isConnected
      let infoValue := { s.infoValue with connected := connected.contains true }.refresh network
      some ({ s with connected, infoValue }.setWatcher w .waiting)
    | _ => none
  | .leave w => if s.watchers w = .waiting then some (s.setWatcher w .returned) else none
  | .close => if s.close = .notCalled then some { s with close := .closing } else none
  | .closed err =>
    if s.close = .closing then
      -- Closing disconnects all of them, whatever error it returns.
      some { s with connected := s.connected.map fun _ => false, infoValue := { s.infoValue with connected := false },
                    close := .closed err }
    else none

end Session

/-- A QMI data session that was connected with some flags. -/
def sessionMachine (connected : List Bool) (infoValue : BearerInfo) : Machine Session SessionEvent :=
  { init := { connected, infoValue := { infoValue with connected := connected.contains true } }, step := Session.step }

end Qmi

namespace Mbim

/-- How far the poll of a watch is. -/
inductive WatcherStage where
  | idle
  /-- Before the query of the connect state. -/
  | polling
  /-- The modem has answered whether the session's ID is activated. -/
  | answered (activated : Bool)
  /-- The session is connected, and the addresses are queried for that interface. -/
  | querying (interface : GoString)
  | returned
  deriving DecidableEq

/-- An MBIM data session. -/
structure Session where
  infoValue : BearerInfo
  closed : Bool := false
  /-- `Disconnect` has the lock and waits for the modem. -/
  disconnecting : Bool := false
  watchers : WatcherID → WatcherStage := fun _ => .idle

/-- What can happen to an MBIM data session. -/
inductive SessionEvent where
  | watch (watcher : WatcherID)
  /-- The modem answers the query of a watch, for whichever session has the ID by then. -/
  | answer (watcher : WatcherID) (activated : Bool)
  /-- A watch writes the answer under the lock. -/
  | apply (watcher : WatcherID)
  /-- The modem answers the query of the addresses, and the watch writes them under the lock. -/
  | network (watcher : WatcherID) (network : NetworkConfig)
  /-- A query fails or the watch's context ends. -/
  | leave (watcher : WatcherID)
  /-- `Close` or `Disconnect` takes the lock, and asks the modem where the session is not closed. -/
  | disconnect
  /-- The modem answers the request to disconnect. -/
  | disconnected (failed : Bool)
  deriving DecidableEq

namespace Session

/-- A goroutine of a watch goes on. -/
def setWatcher (s : Session) (w : WatcherID) (stage : WatcherStage) : Session :=
  { s with watchers := fun other => if other = w then stage else s.watchers other }

/-- One step of an MBIM data session. -/
def step (s : Session) : SessionEvent → Option Session
  | .watch w => if s.watchers w = .idle then some (s.setWatcher w .polling) else none
  | .answer w activated => if s.watchers w = .polling then some (s.setWatcher w (.answered activated)) else none
  | .apply w =>
    match s.watchers w with
    | .answered activated =>
      if s.disconnecting then none
      else
        -- The network is asked for while the session is connected.
        let next := if activated then .querying s.infoValue.network.interface else .polling
        some ({ s with infoValue := { s.infoValue with connected := activated } }.setWatcher w next)
    | _ => none
  | .network w network =>
    match s.watchers w with
    | .querying interface =>
      if s.disconnecting then none
      else
        let infoValue := { s.infoValue with network := { network with interface } }
        some ({ s with infoValue }.setWatcher w .polling)
    | _ => none
  | .leave w =>
    match s.watchers w with
    | .polling | .querying _ => some (s.setWatcher w .returned)
    | _ => none
  | .disconnect =>
    -- A session that is closed is not disconnected again.
    if s.disconnecting then none else some (if s.closed then s else { s with disconnecting := true })
  | .disconnected failed =>
    if !s.disconnecting then none
    -- A failed disconnection leaves the session as it was.
    else if failed then some { s with disconnecting := false }
    else
      some { s with closed := true, infoValue := { s.infoValue with connected := false }, disconnecting := false }

end Session

/-- An MBIM data session that has just been connected. -/
def sessionMachine (infoValue : BearerInfo) : Machine Session SessionEvent :=
  { init := { infoValue := { infoValue with connected := true } }, step := Session.step }

end Mbim

end Wwan.Modem
