import Wwan.Lib.GoMap
import Wwan.Lib.GoString

/-! Discovered modems, and the events that tell a watcher of them what has changed. -/

namespace Wwan.Modem

open GoString (ascii trimSpace base)

/-- How a modem is attached. -/
inductive BusType where
  | unknown
  | usb
  | platform
  deriving DecidableEq

/-- One USB product. -/
structure USBIdentity where
  vendorID : UInt16 := 0
  productID : UInt16 := 0
  deriving DecidableEq

/-- One USB interface. -/
structure USBInterface where
  valid : Bool := false
  number : UInt8 := 0
  classCode : UInt8 := 0
  subclass : UInt8 := 0
  protocol : UInt8 := 0
  deriving DecidableEq

/-- The function of a port. -/
inductive PortType where
  | unknown
  | qmi
  | mbim
  | at
  | network
  | gps
  | qcdm
  | debug
  | audio
  deriving DecidableEq

/-- What distinguishes ports of the same function. -/
inductive PortRole where
  | unknown
  | primary
  | secondary
  | ppp
  deriving DecidableEq

/-- The data transport of a network port. -/
inductive QMIEndpointType where
  | unknown
  | hsic
  | hsusb
  | pcie
  | embedded
  | bamDMUX
  deriving DecidableEq

/-- What a data client is bound to. -/
structure QMIEndpoint where
  type : QMIEndpointType := .unknown
  interfaceNumber : UInt32 := 0
  sioPort : UInt16 := 0
  deriving DecidableEq

/-- One endpoint of a modem. -/
structure Port where
  type : PortType := .unknown
  role : PortRole := .unknown
  name : GoString := []
  path : GoString := []
  sysPath : GoString := []
  subsystem : GoString := []
  driver : GoString := []
  usb : USBInterface := {}
  qmiEndpoint : QMIEndpoint := {}
  controlPath : GoString := []
  deriving DecidableEq

/-- The control protocol of a port. -/
inductive Protocol where
  | unknown
  | qmi
  | mbim
  deriving DecidableEq

/-- The control protocol that a port carries. -/
def Port.protocol (p : Port) : Protocol :=
  match p.type with
  | .qmi => .qmi
  | .mbim => .mbim
  | _ => .unknown

/-- All ports of one modem. -/
structure Device where
  physicalPath : GoString := []
  bus : BusType := .unknown
  usb : USBIdentity := {}
  ports : List Port := []
  deriving DecidableEq

/-- The first path among the ports. -/
def firstPath : List Port → GoString
  | [] => []
  | port :: rest =>
    if port.sysPath ≠ [] then port.sysPath
    else if port.path ≠ [] then port.path
    else firstPath rest

/-- What a modem is known under. -/
def physicalDeviceKey (device : Device) : GoString :=
  if device.physicalPath ≠ [] then device.physicalPath else firstPath device.ports

/-- The modems under their keys. -/
def devicesByKey (devices : List Device) : GoMap GoString Device :=
  devices.foldl (fun result device => result.set (physicalDeviceKey device) device) ∅

/-- Whether nothing about a modem has changed. -/
def sameDevice (a b : Device) : Bool :=
  a.physicalPath = b.physicalPath && a.bus = b.bus && a.usb = b.usb && a.ports = b.ports

/-- An event of the kernel. -/
structure KernelUevent where
  action : GoString := []
  subsystem : GoString := []
  devName : GoString := []
  devPath : GoString := []
  deriving DecidableEq

namespace KernelUevent

/-- Whether a control node is gone. -/
def removesControlNode (e : KernelUevent) : Bool :=
  e.action = ascii "remove" &&
    (e.subsystem = ascii "wwan" || e.subsystem = ascii "usbmisc" || e.subsystem = ascii "rpmsg")

/-- The name of the node. -/
def controlNodeName (e : KernelUevent) : GoString :=
  let name := trimSpace e.devName
  if name ≠ [] then base name else base (trimSpace e.devPath)

/-- Whether the name is one. -/
def named (e : KernelUevent) : Bool := e.controlNodeName ≠ [] && e.controlNodeName ≠ ascii "."

end KernelUevent

/-- Whether a modem has a control port of that name. -/
def deviceHasControlNode (device : Device) (name : GoString) : Bool :=
  device.ports.any fun port =>
    port.protocol ≠ .unknown &&
      (trimSpace port.name = name || base (trimSpace port.path) = name || base (trimSpace port.sysPath) = name)

/-- What has happened to a modem. -/
inductive DeviceEvent where
  | present (device : Device)
  | added (device : Device)
  | removed (device : Device)
  | changed (device : Device)
  deriving DecidableEq

/-- Whether a control node of a modem was removed and is there again. -/
def reconnects (removals : List KernelUevent) (before after : Device) : Bool :=
  removals.any fun removal =>
    removal.named && deviceHasControlNode before removal.controlNodeName &&
      deviceHasControlNode after removal.controlNodeName

/-- The keys of the modems that were re-created. -/
def reconnected (current next : GoMap GoString Device) (removals : List KernelUevent) : List GoString :=
  (current.entries.filter fun entry =>
    match next.get entry.1 with
    | none => false
    | some after => reconnects removals entry.2 after).map Prod.fst

/-- The events of one key. -/
def keyEvents (before after : Option Device) (reconnect : Bool) : List DeviceEvent :=
  match before, after with
  | none, some after => [.added after]
  | some before, none => [.removed before]
  | some before, some after =>
    -- A device that was unplugged in between is a new one.
    if reconnect then [.removed before, .added after]
    else if !sameDevice before after then [.changed after]
    else []
  | none, none => []

/-- The events that lead from one set of modems to the next. -/
def diffDevices (current next : GoMap GoString Device) (reconnected : List GoString) : List DeviceEvent :=
  (GoString.sorted (current.keys ++ next.keys.filter fun key => key ∉ current.keys)).flatMap fun key =>
    keyEvents (current.get key) (next.get key) (reconnected.contains key)

/-- The next set of modems and the events that lead to it. -/
def reconcileDeviceEvents (current : GoMap GoString Device) (removals : List KernelUevent)
    (next : List Device) : GoMap GoString Device × List DeviceEvent :=
  let nextByKey := devicesByKey next
  (nextByKey, diffDevices current nextByKey (reconnected current nextByKey removals))

/-- What one rescan found. -/
structure Rescan where
  removals : List KernelUevent
  next : List Device

/-- The loop of `watchDevices` over its rescans: the events of each of them. -/
def watchRescans (current : GoMap GoString Device) : List Rescan → List (List DeviceEvent)
  | [] => []
  | rescan :: rest =>
    let (current, events) := reconcileDeviceEvents current rescan.removals rescan.next
    events :: watchRescans current rest

/-- The events of a watch: first the modems that are there, then the events of each rescan. -/
def watchDevices (initial : List Device) (rescans : List Rescan) : List (List DeviceEvent) :=
  initial.map .present :: watchRescans (devicesByKey initial) rescans

end Wwan.Modem
