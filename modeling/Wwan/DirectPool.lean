import Mathlib.Logic.Function.Basic
import Wwan.Lib.GoMap
import Wwan.Lib.Machine

/-! The pools that share one connection to a device between its users, of QMI transports and of MBIM clients. -/

namespace Wwan.DirectPool

/-- The two pools. -/
inductive Kind where
  /-- `directPool` -/
  | qmi
  /-- `directClientPool` -/
  | mbim
  deriving DecidableEq

/-- A call of `acquire`, or of `Close` on a lease. -/
abbrev CallID := Nat

/-- The address of an entry. -/
abbrev EntryID := Nat

/-- A lease on the connection of an entry. -/
structure Lease where
  id : Nat
  entry : EntryID
  deriving DecidableEq

/-- `directEntry` or `directClientEntry`, with its connection. -/
structure Entry (K : Type) where
  key : K
  /-- `core` or `owner` is set. -/
  published : Bool := false
  refs : Int := 0
  closing : Bool := false
  /-- How often `opening` was closed. -/
  openingCloses : Nat := 0
  /-- How often `closed` was closed. -/
  closedCloses : Nat := 0
  /-- The dialer has returned a connection. -/
  dialed : Bool := false
  /-- How often the connection was closed. -/
  connCloses : Nat := 0
  /-- The connection has failed. -/
  failed : Bool := false
  /-- `closeCore` or `closeDevice` was called. -/
  shut : Bool := false
  deriving DecidableEq

/-- Where a call is. -/
inductive Phase (K : Type) where
  | idle
  /-- `acquire` is about to look at the map. -/
  | looking (key : K)
  | awaitingOpening (key : K) (e : EntryID)
  | awaitingClosed (key : K) (e : EntryID)
  | dialing (e : EntryID)
  | initializing (e : EntryID)
  /-- The connection is there, and `acquire` is about to set it. -/
  | publishing (e : EntryID)
  /-- The connection could not be initialized, and `acquire` is about to close it. -/
  | abandoning (e : EntryID)
  /-- `acquire` is about to delete the entry that it could not open. -/
  | withdrawing (e : EntryID)
  /-- `connectLease` is under way. -/
  | connecting (lease : Lease)
  /-- `release` is about to look at the map. -/
  | releasing (lease : Lease)
  /-- `closeEntry` is about to close the connection; `acquire` goes on with its key afterwards. -/
  | closing (e : EntryID) (resume : Option K)
  /-- `closeEntry` is about to delete the entry. -/
  | unlinking (e : EntryID) (resume : Option K)
  /-- The call has returned. -/
  | returned (lease : Option Lease)
  deriving DecidableEq

/-- A pool, with its users. -/
structure State (K : Type) where
  entries : GoMap K EntryID := ∅
  /-- The entries that were made, in the map or not. -/
  entry : EntryID → Option (Entry K) := fun _ => none
  nextEntry : EntryID := 0
  /-- The leases that were handed out and are not released. -/
  leases : List Lease := []
  nextLease : Nat := 0
  calls : CallID → Phase K := fun _ => .idle

/-- What can happen to a pool. -/
inductive Event (K : Type) where
  | acquire (c : CallID) (key : K)
  /-- The first locked part of `acquire`. -/
  | look (c : CallID)
  /-- The channel that a call waits on is closed. -/
  | wake (c : CallID)
  /-- The context of a waiting call ends. -/
  | cancel (c : CallID)
  | dial (c : CallID) (ok : Bool)
  | initialize_ (c : CallID) (ok : Bool)
  | publish (c : CallID)
  | abandon (c : CallID)
  | withdraw (c : CallID)
  | connectLease (c : CallID) (ok : Bool)
  /-- A user closes its lease. -/
  | close (c : CallID) (lease : Lease)
  /-- The locked part of `release`. -/
  | release (c : CallID)
  | closeConn (c : CallID)
  | unlink (c : CallID)
  /-- The connection of an entry fails. -/
  | fail (e : EntryID)
  deriving DecidableEq

variable {K : Type}

/-- `directCoreAvailable` or `directOwnerAvailable` -/
def Entry.available (x : Entry K) : Bool := !x.shut && !x.failed

namespace State

/-- A call goes on. -/
def goto (s : State K) (c : CallID) (phase : Phase K) : State K := { s with calls := Function.update s.calls c phase }

/-- An entry is written to. -/
def write (s : State K) (e : EntryID) (x : Entry K) : State K := { s with entry := Function.update s.entry e (some x) }

/-- `lease`, for a call that goes on in another phase. -/
def lease (s : State K) (c : CallID) (e : EntryID) (phase : Lease → Phase K) : State K :=
  let lease := { id := s.nextLease, entry := e }
  { s with leases := lease :: s.leases, nextLease := s.nextLease + 1 }.goto c (phase lease)

variable [DecidableEq K]

/-- What `acquire` makes of an entry that it finds in the map. -/
def found (kind : Kind) (s : State K) (c : CallID) (key : K) (e : EntryID) (x : Entry K) : State K :=
  if x.closing then s.goto c (.awaitingClosed key e)
  else if x.published then
    if x.available then
      let s := s.write e { x with refs := x.refs + 1 }
      match kind with
      | .qmi => s.lease c e fun lease => .returned (some lease)
      | .mbim => s.lease c e .connecting
    else (s.write e { x with closing := true }).goto c (.closing e (some key))
  else s.goto c (.awaitingOpening key e)

/-- The first locked part of `acquire`. -/
def look (kind : Kind) (s : State K) (c : CallID) (key : K) : Option (State K) :=
  match s.entries.get key with
  | some e => (s.entry e).map fun x => s.found kind c key e x
  | none =>
    let e := s.nextEntry
    some ({ s with entries := s.entries.set key e, nextEntry := e + 1 }.write e { key } |>.goto c (.dialing e))

/-- The locked part of `release`, which every lease reaches once. -/
def release (s : State K) (c : CallID) (lease : Lease) (x : Entry K) : State K :=
  let s := { s with leases := s.leases.erase lease }
  -- No two entries have the same core, so the entry of the map has this core if it is the entry of the lease.
  if s.entries.get x.key ≠ some lease.entry ∨ x.closing = true then s.goto c (.returned none)
  else if x.refs - 1 > 0 then (s.write lease.entry { x with refs := x.refs - 1 }).goto c (.returned none)
  else (s.write lease.entry { x with refs := x.refs - 1, closing := true }).goto c (.closing lease.entry none)

/-- `closeCore`, or `closeDevice`, which does nothing the second time. -/
def closeConn (kind : Kind) (x : Entry K) : Entry K :=
  match kind with
  | .qmi => { x with connCloses := x.connCloses + 1, shut := true }
  | .mbim => if x.shut then x else { x with connCloses := x.connCloses + 1, shut := true }

/-- `acquire` closes a connection that it could not initialize, with `closeCore` or at once. -/
def abandonConn (kind : Kind) (x : Entry K) : Entry K :=
  match kind with
  | .qmi => { x with connCloses := x.connCloses + 1, shut := true }
  | .mbim => { x with connCloses := x.connCloses + 1 }

/-- The end of `closeEntry`. -/
def unlink (s : State K) (e : EntryID) (x : Entry K) : State K :=
  if s.entries.get x.key = some e then
    { s with entries := s.entries.delete x.key }.write e { x with closedCloses := x.closedCloses + 1 }
  else s

/-- What follows `closeEntry`. -/
def resumed (resume : Option K) : Phase K :=
  match resume with
  | some key => .looking key
  | none => .returned none

/-- One step of a pool. -/
def step (kind : Kind) (s : State K) : Event K → Option (State K)
  | .acquire c key => if s.calls c = .idle then some (s.goto c (.looking key)) else none
  | .look c =>
    match s.calls c with
    | .looking key => s.look kind c key
    | _ => none
  | .wake c =>
    match s.calls c with
    | .awaitingOpening key e =>
      (s.entry e).bind fun x => if x.openingCloses = 0 then none else some (s.goto c (.looking key))
    | .awaitingClosed key e =>
      (s.entry e).bind fun x => if x.closedCloses = 0 then none else some (s.goto c (.looking key))
    | _ => none
  | .cancel c =>
    match s.calls c with
    | .awaitingOpening _ _ | .awaitingClosed _ _ => some (s.goto c (.returned none))
    | _ => none
  | .dial c ok =>
    match s.calls c with
    | .dialing e =>
      (s.entry e).map fun x =>
        if ok then (s.write e { x with dialed := true }).goto c (.initializing e) else s.goto c (.withdrawing e)
    | _ => none
  | .initialize_ c ok =>
    match s.calls c with
    | .initializing e => some (s.goto c (if ok then .publishing e else .abandoning e))
    | _ => none
  | .publish c =>
    match s.calls c with
    | .publishing e =>
      (s.entry e).map fun x =>
        (s.write e { x with published := true, refs := 1, openingCloses := x.openingCloses + 1 }).lease c e
          fun lease => .returned (some lease)
    | _ => none
  | .abandon c =>
    match s.calls c with
    | .abandoning e => (s.entry e).map fun x => (s.write e (abandonConn kind x)).goto c (.withdrawing e)
    | _ => none
  | .withdraw c =>
    match s.calls c with
    | .withdrawing e =>
      (s.entry e).map fun x =>
        ({ s with entries := s.entries.delete x.key }.write e
          { x with openingCloses := x.openingCloses + 1, closedCloses := x.closedCloses + 1 }).goto c (.returned none)
    | _ => none
  | .connectLease c ok =>
    match s.calls c with
    | .connecting lease => some (s.goto c (if ok then .returned (some lease) else .releasing lease))
    | _ => none
  | .close c lease => if s.calls c = .idle then some (s.goto c (.releasing lease)) else none
  | .release c =>
    match s.calls c with
    | .releasing lease =>
      -- `Close` releases once, however often it is called.
      if lease ∈ s.leases then (s.entry lease.entry).map fun x => s.release c lease x
      else some (s.goto c (.returned none))
    | _ => none
  | .closeConn c =>
    match s.calls c with
    | .closing e resume => (s.entry e).map fun x => (s.write e (closeConn kind x)).goto c (.unlinking e resume)
    | _ => none
  | .unlink c =>
    match s.calls c with
    | .unlinking e resume => (s.entry e).map fun x => (s.unlink e x).goto c (resumed resume)
    | _ => none
  | .fail e => (s.entry e).bind fun x => if x.dialed then some (s.write e { x with failed := true }) else none

end State

/-- A new pool. -/
def pool (kind : Kind) (K : Type) [DecidableEq K] : Machine (State K) (Event K) :=
  { init := {}, step := State.step kind }

end Wwan.DirectPool
