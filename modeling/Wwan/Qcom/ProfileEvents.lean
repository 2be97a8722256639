import Mathlib.Data.List.Sort
import Wwan.Lib.Go
import Wwan.Lib.Machine
import Wwan.Lib.RefCount

/-! The watched WDS profiles: their reference counts and the filter of the modem. -/

namespace Wwan.Qcom

/-- A profile of the modem. -/
structure WDSProfileID where
  type : UInt8
  index : UInt8
  deriving DecidableEq

/-- The last of the profile types. -/
def wdsProfileTypeEPC : UInt8 := 2

/-- The number of profiles that the modem can watch. -/
def wdsMaxProfileEventRegistrations : Nat := 255

/-- The errors of the profile events. -/
inductive ProfileEventError where
  /-- `encoding QMI WDS profile events: profile type %d is out of range` -/
  | typeOutOfRange (type : UInt8)
  /-- `encoding QMI WDS profile events: %d profiles exceeds maximum %d` -/
  | tooManyProfiles (count : Nat)
  /-- The modem did not accept a request. -/
  | request
  deriving DecidableEq

/-- The comparison that profiles are sorted by. -/
def WDSProfileID.compare (a b : WDSProfileID) : Int :=
  if a.type ≠ b.type then if a.type < b.type then -1 else 1
  else if a.index < b.index then -1
  else if a.index > b.index then 1
  else 0

/-- The profiles without repetitions, sorted. -/
def normalizeWDSProfileEventList (profiles : List WDSProfileID) : Go ProfileEventError (List WDSProfileID) := do
  -- A map removes the repetitions.
  let unique ← profiles.foldlM (fun (unique : GoMap WDSProfileID Unit) profile =>
    if profile.type > wdsProfileTypeEPC then Go.fail (.typeOutOfRange profile.type)
    else return unique.set profile ()) ∅
  let result := unique.keys
  if result.length > wdsMaxProfileEventRegistrations then Go.fail (.tooManyProfiles result.length)
  else return result.insertionSort fun a b => a.compare b ≤ 0

/-- The profiles that are watched at all. -/
def wdsProfileEventList (refs : GoMap WDSProfileID Int) : Go ProfileEventError (List WDSProfileID) :=
  normalizeWDSProfileEventList refs.positives

/-- What the modem has accepted. -/
structure ProfileModem where
  filter : List WDSProfileID := []
  /-- Profile-change indications are enabled. -/
  enabled : Bool := false
  deriving DecidableEq

/-- Ask the modem to replace its filter. -/
def ProfileModem.configureWDSProfileEvents (modem : ProfileModem) (profiles : List WDSProfileID) (accepts : Bool) :
    ProfileModem × Go ProfileEventError Unit :=
  match normalizeWDSProfileEventList profiles with
  | .error fault => (modem, .error fault)
  | .ok profiles => if accepts then ({ modem with filter := profiles }, .ok ()) else (modem, Go.fail .request)

/-- Ask the modem to enable or disable the indications. -/
def ProfileModem.setWDSProfileChangeIndication (modem : ProfileModem) (enabled accepts : Bool) :
    ProfileModem × Go ProfileEventError Unit :=
  if accepts then ({ modem with enabled }, .ok ()) else (modem, Go.fail .request)

/-- The reference counts of the client, and the modem. -/
structure ProfileEvents where
  refs : GoMap WDSProfileID Int := ∅
  modem : ProfileModem := {}

/-- Which requests of an acquire the modem accepts. -/
structure AcquireAnswers where
  configure : Bool
  indicate : Bool
  /-- The request that restores the filter after a failed registration. -/
  restore : Bool
  deriving DecidableEq

/-- Which requests of a release succeed. -/
structure ReleaseAnswers where
  clientID : Bool
  configure : Bool
  indicate : Bool
  deriving DecidableEq

/-- Count the profiles of a new watcher, and let the modem report all counted profiles. -/
def ProfileEvents.acquireWDSProfileEvents (c : ProfileEvents) (profiles : List WDSProfileID) (answers : AcquireAnswers) :
    ProfileEvents × Go ProfileEventError Unit :=
  match wdsProfileEventList c.refs with
  | .error fault => (c, .error fault)
  | .ok oldList =>
    let refs := profiles.foldl GoMap.incr c.refs
    -- A watcher that is not accepted is not counted.
    let rolledBack := profiles.foldl GoMap.decr refs
    match wdsProfileEventList refs with
    | .error fault => ({ c with refs := rolledBack }, .error fault)
    | .ok newList =>
      -- The modem reports these profiles already.
      if oldList = newList then ({ c with refs }, .ok ())
      else
        match c.modem.configureWDSProfileEvents newList answers.configure with
        | (modem, .error fault) => ({ refs := rolledBack, modem }, .error fault)
        | (modem, .ok ()) =>
          -- The first watcher turns the indications on.
          if oldList.length = 0 then
            match modem.setWDSProfileChangeIndication true answers.indicate with
            | (modem, .error fault) =>
              -- The modem is told the old list again.
              let modem := (modem.configureWDSProfileEvents oldList answers.restore).1
              ({ refs := rolledBack, modem }, .error fault)
            | (modem, .ok ()) => ({ refs, modem }, .ok ())
          else ({ refs, modem }, .ok ())

/-- Stop counting the profiles of a watcher, and let the modem report the remaining ones. -/
def ProfileEvents.releaseWDSProfileEvents (c : ProfileEvents) (profiles : List WDSProfileID) (answers : ReleaseAnswers) :
    ProfileEvents :=
  match wdsProfileEventList c.refs with
  | .error _ => c
  | .ok oldList =>
    let refs := profiles.foldl GoMap.drop c.refs
    match wdsProfileEventList refs with
    | .error _ => { c with refs }
    | .ok newList =>
      -- A release is not undone, whether or not the modem follows.
      if oldList = newList ∨ answers.clientID = false then { c with refs }
      else
        let modem := (c.modem.configureWDSProfileEvents newList answers.configure).1
        -- The last watcher turns the indications off.
        if newList.length = 0 then
          { refs, modem := (modem.setWDSProfileChangeIndication false answers.indicate).1 }
        else { refs, modem }

/-- The client with its modem and the profiles of the watchers that have not released them. -/
structure ProfileWatchers where
  events : ProfileEvents := {}
  live : List (List WDSProfileID) := []

/-- A call of a watcher. -/
inductive ProfileCall where
  /-- A watcher of the given profiles starts. -/
  | acquire (given : List WDSProfileID) (answers : AcquireAnswers)
  /-- A watcher of these profiles ends. -/
  | release (profiles : List WDSProfileID) (answers : ReleaseAnswers)
  deriving DecidableEq

/-- What a call does, where a watcher starts with a list it could normalize and ends only once. -/
def ProfileWatchers.step (s : ProfileWatchers) : ProfileCall → Option ProfileWatchers
  | .acquire given answers =>
    match normalizeWDSProfileEventList given with
    | .error _ => none
    | .ok profiles =>
      match s.events.acquireWDSProfileEvents profiles answers with
      | (events, .ok ()) => some { events, live := profiles :: s.live }
      | (events, .error _) => some { s with events }
  | .release profiles answers =>
    -- A watcher stops once.
    if profiles ∈ s.live then
      some { events := s.events.releaseWDSProfileEvents profiles answers, live := s.live.erase profiles }
    else none

/-- The calls of all watchers, one after another under the mutex of the client. -/
def profileWatchers : Machine ProfileWatchers ProfileCall where
  init := {}
  step := ProfileWatchers.step

end Wwan.Qcom
