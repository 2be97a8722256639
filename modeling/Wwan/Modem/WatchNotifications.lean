import Wwan.Lib.Slices
import Wwan.Mbim.Protocol

/-! The notifications an MBIM backend has subscribed to, and the requests of its watchers merged into them. -/

namespace Wwan.Modem.Mbim.Notifications

open Wwan.Mbim (ServiceID)

/-- An element of a subscription list, with its CIDs as a slice. -/
structure DeviceServiceSubscribeEntry where
  serviceID : ServiceID
  cids : Slice
  deriving DecidableEq, Inhabited

/-- The arrays behind the slices. -/
structure Memory where
  entries : Arrays DeviceServiceSubscribeEntry
  cids : Arrays UInt32

/-- What an entry says, read out of the memory. -/
structure Entry where
  serviceID : ServiceID
  cids : List UInt32
  deriving DecidableEq, Inhabited

/-- What an element of a subscription list says. -/
def Memory.entry (memory : Memory) (entry : DeviceServiceSubscribeEntry) : Entry :=
  ⟨entry.serviceID, memory.cids.read entry.cids⟩

/-- What a subscription list says. -/
def Memory.list (memory : Memory) (entries : Slice) : List Entry := (memory.entries.read entries).map memory.entry

section

-- The run-time system's choice of capacities, which is different for different element types.
variable (spareEntries spareCIDs : Slice → Nat → Nat)

/-- A copy of the current list, every CID list included. -/
def cloneEntries (memory : Memory) (current : Slice) : Memory × Slice :=
  let (arrays, entries) := memory.entries.make current.length
  let memory := forRange current.length (fun i memory =>
    let entry := memory.entries.index current i
    let (cids, clone) := memory.cids.clone spareCIDs entry.cids
    { entries := memory.entries.store entries i ⟨entry.serviceID, clone⟩, cids }) { memory with entries := arrays }
  (memory, entries)

/-- The CIDs of a request for a new service, each of them once. -/
def distinctCIDs (arrays : Arrays UInt32) (request : Slice) : Arrays UInt32 × Slice :=
  forRange request.length (fun i (arrays, cids) =>
    let cid := arrays.index request i
    if cid ∈ arrays.read cids then (arrays, cids) else arrays.append spareCIDs cids [cid]) (arrays, Slice.nil)

/-- The CIDs of a request added to an entry that lists its CIDs. -/
def addCIDs (memory : Memory) (entries : Slice) (index : Nat) (request : Slice) (changed : Bool) : Memory × Bool :=
  forRange request.length (fun i (memory, changed) =>
    let cid := memory.cids.index request i
    let entry := memory.entries.index entries index
    if cid ∈ memory.cids.read entry.cids then (memory, changed)
    else
      let (cids, appended) := memory.cids.append spareCIDs entry.cids [cid]
      ({ entries := memory.entries.store entries index { entry with cids := appended }, cids }, true))
    (memory, changed)

/-- One turn of the loop over the requested entries. -/
def mergeRequest (memory : Memory) (entries : Slice) (changed : Bool) (request : DeviceServiceSubscribeEntry) :
    Memory × Slice × Bool :=
  match (memory.entries.read entries).findIdx? (fun entry => entry.serviceID = request.serviceID) with
  | none =>
    let (arrays, cids) := distinctCIDs spareCIDs memory.cids request.cids
    let (extended, entries) := memory.entries.append spareEntries entries [⟨request.serviceID, cids⟩]
    (⟨extended, arrays⟩, entries, true)
  | some index =>
    let entry := memory.entries.index entries index
    -- An empty CID list subscribes to every notification for the service.
    if entry.cids.length = 0 then (memory, entries, changed)
    else if request.cids.length = 0 then
      ({ memory with entries := memory.entries.store entries index { entry with cids := Slice.nil } }, entries, true)
    else
      let (memory, changed) := addCIDs spareCIDs memory entries index request.cids changed
      (memory, entries, changed)

/-- `mergeWatchNotifications` -/
def mergeWatchNotifications (memory : Memory) (current requested : Slice) : Memory × Slice × Bool :=
  let (memory, entries) := cloneEntries spareCIDs memory current
  forRange requested.length (fun i (memory, entries, changed) =>
    mergeRequest spareEntries spareCIDs memory entries changed (memory.entries.index requested i))
    (memory, entries, false)

end

end Wwan.Modem.Mbim.Notifications
