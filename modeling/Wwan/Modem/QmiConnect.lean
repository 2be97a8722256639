import Wwan.Lib.GoString
import Wwan.Modem.Session

/-! Connecting a QMI data session: the network link, the sessions of the modem, and what becomes of them. -/

namespace Wwan.Modem.Qmi

open GoString

/-- An IP family, as its bits. -/
abbrev IPFamily := UInt8

/-- The family of IPv4. -/
def ipFamilyIPv4 : IPFamily := 2

/-- The family of IPv6. -/
def ipFamilyIPv6 : IPFamily := 4

/-- What a session of the modem asks for. -/
inductive WDSIPPreference where
  | default
  | ipv4
  | ipv6
  deriving DecidableEq

/-- The sessions that a family takes. -/
def ipPreferences (family : IPFamily) : List WDSIPPreference :=
  if family = ipFamilyIPv4 then [.ipv4]
  else if family = ipFamilyIPv6 then [.ipv6]
  else if family = ipFamilyIPv4 ||| ipFamilyIPv6 then [.ipv4, .ipv6]
  else [.default]

/-- What `ConnectPort` reads of its configuration. -/
structure ConnectConfig where
  profileID : Int := 0
  apn : GoString := []
  ipFamily : IPFamily := 0
  interface : GoString := []
  deriving DecidableEq

/-- What `ConnectPort` reads of the network port. -/
structure NetworkPort where
  name : GoString := []
  /-- The endpoint is an embedded one. -/
  embedded : Bool := false
  deriving DecidableEq

/-- A link that was added to the kernel. -/
structure RmnetLink where
  name : GoString
  muxID : UInt8
  index : Int
  deriving DecidableEq

/-- What a call does to the kernel's links and the modem's sessions, which are numbered in the order they are opened. -/
inductive Op where
  | addLink (name : GoString)
  /-- The kernel is asked to delete the link. -/
  | deleteLink (name : GoString)
  | openPDN (session : Nat)
  | closePDN (session : Nat)
  deriving DecidableEq

/-- How the kernel answers a request to add a link. -/
inductive AddAnswer where
  | added
  /-- The link or its mux ID exists. -/
  | eexist
  /-- The request fails, whether or not the kernel has added the link. -/
  | failed (err : GoString) (added : Bool)
  deriving DecidableEq

/-- The base interface of a link. -/
structure Interface where
  index : Int
  up : Bool
  deriving DecidableEq

/-- An interface as the kernel lists it. -/
structure ListedInterface where
  name : GoString
  index : Int
  deriving DecidableEq

/-- How the modem and the kernel answer the requests of one call, and of the close of what it returns. -/
structure Answers where
  /-- The port was prepared before. -/
  ipaReady : Bool := true
  dpmOpenPort : Option GoString := none
  configureWDA : Option GoString := none
  base : Except GoString Interface
  interfaces : Except GoString (List GoString)
  addLink : Nat → AddAnswer
  child : Except GoString Int
  setUp : Option GoString := none
  /-- The network of a session and whether it is connected. -/
  openPDN : Nat → Except GoString (NetworkConfig × Bool)
  closePDN : Nat → Option GoString := fun _ => none
  /-- The interfaces at the time the link is closed, which happens once. -/
  remaining : Except GoString (List ListedInterface)
  deleteLink : Option GoString := none

/-- Why a link could not be deleted. -/
inductive DeleteError where
  | interfaces (err : GoString)
  | indexChanged (name : GoString) (expectedIndex index : Int)
  | removing (index : Int) (err : GoString)
  deriving DecidableEq

/-- Why there is no link. -/
inductive LinkError where
  | emptyInterface
  | dpmOpenPort (err : GoString)
  | configureWDA (err : GoString)
  | baseLookup (err : GoString)
  | baseIndex (index : Int)
  | interfaces (err : GoString)
  | nameTooLong (name : GoString)
  | adding (name : GoString) (muxID : Nat) (err : GoString)
  | childLookup (name : GoString) (err : GoString)
  | childIndex (index : Int)
  | bringingUp (err : GoString) (rollback : Option DeleteError)
  | noMuxID
  deriving DecidableEq

/-- Why there is no session. -/
inductive ConnectError where
  | profileID (id : Int)
  | link (err : LinkError)
  | openPDN (preference : WDSIPPreference) (err : GoString) (closing : List (Nat × GoString))
      (link : Option DeleteError)
  deriving DecidableEq

/-- The least mux ID. -/
def rmnetMuxIDMin : Nat := 1

/-- The greatest mux ID. -/
def rmnetMuxIDMax : Nat := 0xfe

/-- The size of an interface's name with its terminator. -/
def ifNameSize : Nat := 16

/-- The digits of the verb `%x`. -/
def hex (n : Nat) : GoString := ascii (String.ofList (Nat.toDigits 16 n))

/-- The name of a link. -/
def rmnetLinkName (baseIndex : Nat) (muxID : UInt8) : GoString :=
  ascii "qmap" ++ hex baseIndex ++ ascii "." ++ hex (muxID - 1).toNat

/-- An index that the kernel's messages can carry. -/
def validIndex (index : Int) : Bool := 0 < index && index ≤ 0x7fffffff

/-- Delete the link of a name, where it still has its index. -/
def deleteRMNetLink (a : Answers) (name : GoString) (expectedIndex : Int) : List Op × Option DeleteError :=
  match a.remaining with
  | .error err => ([], some (.interfaces err))
  | .ok interfaces =>
    match interfaces.find? fun iface => iface.name = name with
    -- The link is gone already.
    | none => ([], none)
    | some iface =>
      -- The name has been given to another link.
      if iface.index ≠ expectedIndex then ([], some (.indexChanged name expectedIndex iface.index))
      else ([.deleteLink name], a.deleteLink.map fun err => .removing iface.index err)

/-- Delete a link. -/
def RmnetLink.close (a : Answers) (link : RmnetLink) : List Op × Option DeleteError :=
  deleteRMNetLink a link.name link.index

/-- A link that the kernel says it has added. -/
def finishLink (a : Answers) (base : Interface) (name : GoString) (muxID : Nat) : List Op × Except LinkError RmnetLink :=
  match a.child with
  | .error err => ([.addLink name], .error (.childLookup name err))
  | .ok index =>
    if validIndex index then
      let link : RmnetLink := { name, muxID := UInt8.ofNat muxID, index }
      if base.up then ([.addLink name], .ok link)
      else
        match a.setUp with
        | none => ([.addLink name], .ok link)
        | some err =>
          -- The link is taken back where the base interface stays down.
          let (ops, rollback) := link.close a
          (.addLink name :: ops, .error (.bringingUp err rollback))
    else ([.addLink name], .error (.childIndex index))

/-- Try mux IDs one after the other. -/
def tryMuxIDs (a : Answers) (base : Interface) (usedNames : List GoString) :
    List Nat → List Op × Except LinkError RmnetLink
  | [] => ([], .error .noMuxID)
  | muxID :: rest =>
    let name := rmnetLinkName base.index.toNat (UInt8.ofNat muxID)
    -- The name is taken, and the next ID is tried.
    if name ∈ usedNames then tryMuxIDs a base usedNames rest
    else if ifNameSize ≤ name.length then ([], .error (.nameTooLong name))
    else
      match a.addLink muxID with
      -- The kernel has it, and the next ID is tried.
      | .eexist => tryMuxIDs a base usedNames rest
      | .failed err added => (if added then [.addLink name] else [], .error (.adding name muxID err))
      | .added => finishLink a base name muxID

/-- The mux IDs in the order they are tried. -/
def muxIDs : List Nat := List.range' rmnetMuxIDMin (rmnetMuxIDMax + 1 - rmnetMuxIDMin)

/-- Add a link to the kernel. -/
def createRMNetLink (a : Answers) : List Op × Except LinkError RmnetLink :=
  match a.base with
  | .error err => ([], .error (.baseLookup err))
  | .ok base =>
    if validIndex base.index then
      match a.interfaces with
      | .error err => ([], .error (.interfaces err))
      | .ok usedNames => tryMuxIDs a base usedNames muxIDs
    else ([], .error (.baseIndex base.index))

/-- Prepare an embedded port and add a link to it. -/
def prepareIPALink (a : Answers) (port : NetworkPort) : List Op × Except LinkError RmnetLink :=
  if port.name = [] then ([], .error .emptyInterface)
  -- The port was prepared by an earlier connection.
  else if a.ipaReady then createRMNetLink a
  else
    match a.dpmOpenPort with
    | some err => ([], .error (.dpmOpenPort err))
    | none =>
      match a.configureWDA with
      | some err => ([], .error (.configureWDA err))
      | none => createRMNetLink a

/-- Close sessions one after the other. -/
def closeSessions (a : Answers) (sessions : List Nat) : List Op × List (Nat × GoString) :=
  (sessions.map .closePDN, sessions.filterMap fun i => (a.closePDN i).map fun err => (i, err))

/-- Close the link where there is one. -/
def closeLink (a : Answers) : Option RmnetLink → List Op × Option DeleteError
  | none => ([], none)
  | some link => link.close a

/-- Append what is not there. -/
def appendUnique {α : Type} [DecidableEq α] (values candidates : List α) : List α :=
  candidates.foldl (fun values candidate => if candidate ∈ values then values else values ++ [candidate]) values

/-- The network of several sessions. -/
def mergeNetworkConfigs (interface : GoString) (configs : List NetworkConfig) : NetworkConfig :=
  configs.foldl (fun (result config : NetworkConfig) =>
    { interface
      addresses := appendUnique result.addresses config.addresses
      gateways := appendUnique result.gateways config.gateways
      dns := appendUnique result.dns config.dns
      mtu := if config.mtu ≠ 0 && (result.mtu = 0 || config.mtu < result.mtu) then config.mtu else result.mtu })
    { interface }

/-- A connected data session and what it owns. -/
structure Connection where
  sessions : List Nat
  link : Option RmnetLink
  connected : List Bool
  infoValue : BearerInfo
  closeOnce : Bool := false
  closeErr : List (Nat × GoString) × Option DeleteError := ([], none)
  deriving DecidableEq

/-- Open the sessions of the modem one after the other. -/
def openPDNs (a : Answers) (cfg : ConnectConfig) (link : Option RmnetLink) (interface : GoString) :
    List WDSIPPreference → List (NetworkConfig × Bool) → List Op × Except ConnectError Connection
  | [], opened =>
    let connected := opened.map Prod.snd
    let network := mergeNetworkConfigs interface (opened.map Prod.fst)
    ([], .ok { sessions := List.range opened.length, link, connected,
               infoValue := { connected := connected.contains true, profileID := cfg.profileID, apn := cfg.apn, network } })
  | preference :: rest, opened =>
    match a.openPDN opened.length with
    | .error err =>
      -- The sessions that are open are closed again, and the link is removed.
      let (closes, closing) := closeSessions a (List.range opened.length)
      let (deletes, linkErr) := closeLink a link
      (closes ++ deletes, .error (.openPDN preference err closing linkErr))
    | .ok info =>
      let (ops, result) := openPDNs a cfg link interface rest (opened ++ [info])
      (.openPDN opened.length :: ops, result)

/-- Connect a data session. -/
def connectPort (a : Answers) (cfg : ConnectConfig) (port : NetworkPort) :
    List Op × Except ConnectError Connection :=
  if 255 < cfg.profileID then ([], .error (.profileID cfg.profileID))
  -- Only an embedded port gets a link of its own.
  else if port.embedded then
    match prepareIPALink a port with
    | (ops, .error err) => (ops, .error (.link err))
    | (ops, .ok link) =>
      let (more, result) := openPDNs a cfg (some link) link.name (ipPreferences cfg.ipFamily) []
      (ops ++ more, result)
  else openPDNs a cfg none cfg.interface (ipPreferences cfg.ipFamily) []

/-- `Close` and `Disconnect`, of which the first call does the work. -/
def Connection.close (a : Answers) (c : Connection) : List Op × Connection :=
  if c.closeOnce then ([], c)
  else
    let (closes, closing) := closeSessions a c.sessions
    let (deletes, linkErr) := closeLink a c.link
    (closes ++ deletes,
      { c with closeOnce := true, closeErr := (closing, linkErr), connected := c.connected.map fun _ => false,
               infoValue := { c.infoValue with connected := false } })

/-- Call `Close` or `Disconnect` a number of times. -/
def Connection.closeTimes (a : Answers) : Nat → Connection → List Op × Connection
  | 0, c => ([], c)
  | n + 1, c =>
    let (ops, c) := c.close a
    let (more, c) := closeTimes a n c
    (ops ++ more, c)

end Wwan.Modem.Qmi
