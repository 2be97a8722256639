import Wwan.Lib.Fields

/-! Route netlink messages: the request that adds a link, and the search for the acknowledgment of a request. -/

namespace Wwan.Modem.Qmi.RouteNetlink

open Utf16 (ByteOrder)

/-- `netlinkHeaderLength` -/
def netlinkHeaderLength : Nat := 16
/-- `ifInfoMessageLength` -/
def ifInfoMessageLength : Nat := 16
/-- `routeAttrHeaderSize` -/
def routeAttrHeaderSize : Nat := 4

/-! The numbers of the kernel's interface. -/

/-- The type `NLMSG_ERROR`. -/
def nlmsgError : UInt16 := 0x2
/-- The type `NLMSG_DONE`. -/
def nlmsgDone : UInt16 := 0x3
/-- The type `NLMSG_OVERRUN`. -/
def nlmsgOverrun : UInt16 := 0x4
/-- The type `RTM_NEWLINK`. -/
def rtmNewLink : UInt16 := 0x10
/-- The flags `NLM_F_REQUEST`, `NLM_F_ACK`, `NLM_F_CREATE` and `NLM_F_EXCL`. -/
def newLinkFlags : UInt16 := 0x1 ||| 0x4 ||| 0x400 ||| 0x200
/-- The link type `ARPHRD_RAWIP`. -/
def arphrdRawIP : UInt16 := 0x207
/-- The family `AF_UNSPEC`. -/
def afUnspec : UInt8 := 0
/-- The attribute `IFLA_IFNAME`. -/
def iflaIfName : UInt16 := 0x3
/-- The attribute `IFLA_LINK`. -/
def iflaLink : UInt16 := 0x5
/-- The attribute `IFLA_LINKINFO`. -/
def iflaLinkInfo : UInt16 := 0x12
/-- The attribute `IFLA_INFO_KIND`. -/
def iflaInfoKind : UInt16 := 0x1
/-- The attribute `IFLA_INFO_DATA`. -/
def iflaInfoData : UInt16 := 0x2
/-- The attribute `IFLA_RMNET_MUX_ID`. -/
def iflaRmnetMuxID : UInt16 := 0x1
/-- The attribute `IFLA_RMNET_FLAGS`. -/
def iflaRmnetFlags : UInt16 := 0x2
/-- `rmnetFlagMask`, which has every flag but that of the commands -/
def rmnetFlagMask : UInt32 := 0x01 ||| 0x04 ||| 0x08 ||| 0x10 ||| 0x20

section

-- The byte order of the machine.
variable (order : ByteOrder)

/-- `alignRouteMessage`, which clears the last two bits of the length plus three -/
def alignRouteMessage (length : Nat) : Nat := (length + 3) / 4 * 4

/-! The request. -/

/-- `appendRouteAttribute`, with zero bytes up to the alignment -/
def appendRouteAttribute (dst : Bytes) (attrType : UInt16) (value : Bytes) : Bytes :=
  let length := routeAttrHeaderSize + value.length
  dst ++ (order.putUint16 (UInt16.ofNat length) ++ order.putUint16 attrType ++ value
    ++ List.replicate (alignRouteMessage length - length) 0)

/-- `newRouteLinkMessage` -/
def newRouteLinkMessage (messageType messageFlags linkType : UInt16) (index flags change : UInt32) (attrs : Bytes) :
    Bytes :=
  -- The length is the capacity that the message is made with, and the sequence and the port are zero.
  order.putUint32 (UInt32.ofNat (netlinkHeaderLength + ifInfoMessageLength + attrs.length))
    ++ order.putUint16 messageType ++ order.putUint16 messageFlags ++ List.replicate 8 0
    ++ [afUnspec, 0] ++ order.putUint16 linkType ++ order.putUint32 index ++ order.putUint32 flags
    ++ order.putUint32 change ++ attrs

/-- The attributes of `IFLA_INFO_DATA`. -/
def rmnetDataInfo (muxID : UInt8) (flags : UInt32) : Bytes :=
  let dataInfo := appendRouteAttribute order [] iflaRmnetMuxID (order.putUint16 muxID.toUInt16)
  appendRouteAttribute order dataInfo iflaRmnetFlags (order.putUint32 flags ++ order.putUint32 rmnetFlagMask)

/-- The name `rmnet` of the kind of link. -/
def rmnetKind : Bytes := [0x72, 0x6d, 0x6e, 0x65, 0x74]

/-- The attributes of `IFLA_LINKINFO`. -/
def rmnetLinkInfo (muxID : UInt8) (flags : UInt32) : Bytes :=
  let linkInfo := appendRouteAttribute order [] iflaInfoKind rmnetKind
  appendRouteAttribute order linkInfo iflaInfoData (rmnetDataInfo order muxID flags)

/-- `newRMNetLinkMessage`, where the index of the base interface wraps -/
def newRMNetLinkMessage (baseIndex : Int) (name : GoString) (muxID : UInt8) (flags : UInt32) : Bytes :=
  let attrs := appendRouteAttribute order [] iflaLink (order.putUint32 (UInt32.ofInt baseIndex))
  let attrs := appendRouteAttribute order attrs iflaIfName name
  let attrs := appendRouteAttribute order attrs iflaLinkInfo (rmnetLinkInfo order muxID flags)
  newRouteLinkMessage order rtmNewLink newLinkFlags arphrdRawIP 0 0 0xFFFFFFFF attrs

/-! The acknowledgment. -/

/-- The errors of a search for an acknowledgment. -/
inductive RouteError where
  /-- A formatted text with its arguments. -/
  | format (text : String) (args : List Nat)
  /-- An error number of the kernel. -/
  | errno (number : Nat)
  deriving DecidableEq

/-- The search has not come to its end within some rounds. -/
inductive Unfinished where
  | rounds
  deriving DecidableEq

/-- What a message says about the request, which is nothing if its sequence or its type is not that of an answer. -/
def acknowledgment (sequence : UInt32) (data : Bytes) (length : Nat) (messageType : UInt16)
    (messageSequence : UInt32) : Go Unfinished (Option (Bool × Option RouteError)) := do
  if messageSequence ≠ sequence then return none
  if messageType = nlmsgError then
    if length < netlinkHeaderLength + 4 then
      return some (true, some (.format "parsing route netlink acknowledgment: payload length %d, want at least 4"
        [length - netlinkHeaderLength]))
    let code ← order.getUint32 (← Go.slice data netlinkHeaderLength (netlinkHeaderLength + 4))
    if code = 0 then return some (true, none)
    -- The code is signed, and its sign does not matter.
    return some (true, some (.errno code.toBitVec.toInt.natAbs))
  if messageType = nlmsgDone then return some (true, none)
  if messageType = nlmsgOverrun then
    return some (true, some (.format "route netlink response was overrun" []))
  return none

/-- The loop of `routeNetlinkACK`, with the rounds that are still to come. -/
def routeNetlinkLoop (sequence : UInt32) : Nat → Bytes → Go Unfinished (Bool × Option RouteError)
  | 0, _ => Go.fail .rounds
  | rounds + 1, data => do
    if data.length ≥ netlinkHeaderLength then
      let length := (← order.getUint32 (← Go.slice data 0 4)).toNat
      if length < netlinkHeaderLength ∨ length > data.length then
        return (true, some (.format "parsing route netlink response: message length %d exceeds buffer %d"
          [length, data.length]))
      let messageType ← order.getUint16 (← Go.slice data 4 6)
      let messageSequence ← order.getUint32 (← Go.slice data 8 12)
      match ← acknowledgment order sequence data length messageType messageSequence with
      | some verdict => return verdict
      | none =>
        let alignedLength := alignRouteMessage length
        if alignedLength > data.length then
          if length = data.length then return (false, none)
          return (true, some (.format "parsing route netlink response: aligned length %d exceeds buffer %d"
            [alignedLength, data.length]))
        routeNetlinkLoop sequence rounds (← Go.slice data alignedLength data.length)
    else if data.length ≠ 0 then
      return (true, some (.format "parsing route netlink response: trailing length %d is smaller than header"
        [data.length]))
    else return (false, none)

/-- `routeNetlinkACK` -/
def routeNetlinkACK (data : Bytes) (sequence : UInt32) : Go Unfinished (Bool × Option RouteError) :=
  -- Every round takes a header at least.
  routeNetlinkLoop order sequence (data.length + 1) data

end

end Wwan.Modem.Qmi.RouteNetlink
