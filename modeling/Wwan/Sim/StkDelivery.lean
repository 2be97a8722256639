import Wwan.Lib.Chan
import Wwan.Lib.Machine

/-! How the proactive commands of a card get from the reader to those who asked for them. -/

namespace Wwan.Sim

/-- A proactive command, by the order in which the card's commands are fetched. -/
abbrev ProactiveRef := Nat

/-- Who fetches a command. -/
inductive Fetcher where
  /-- The goroutine of a `Commands`. -/
  | poll (out : ChanID)
  /-- A caller of `Envelope`, `TerminalResponse` or `Commands`. -/
  | call (caller : Nat)
  deriving DecidableEq

/-- How far a `fetchSTK` is. -/
inductive FetchStage where
  | idle
  /-- The command is fetched, and the channel is not looked at. -/
  | fetched (command : ProactiveRef)
  /-- The channel is read under the lock, and the command is about to be sent on it. -/
  | sending (command : ProactiveRef) (out : ChanID)
  deriving DecidableEq

/-- How far the goroutine of a `Commands` is. -/
inductive ConsumerStage where
  | absent
  /-- Before `flushPendingSTK` takes what is pending. -/
  | starting
  /-- In `flushPendingSTK`, with what is left to send. -/
  | flushing (rest : List ProactiveRef)
  /-- In the loop of polls. -/
  | polling
  /-- Before the channel is taken out of the reader. -/
  | leaving
  /-- Before the channel is closed. -/
  | closing
  | closed
  deriving DecidableEq

/-- What became of a command that was to be sent on a channel. -/
inductive Fate where
  | delivered (out : ChanID)
  | lost (out : ChanID)
  deriving DecidableEq

/-- A reader, the goroutines of its `Commands`, and those that fetch. -/
structure StkReader where
  stkOut : Option ChanID := none
  stkPending : List ProactiveRef := []
  /-- How many channels there are. -/
  channels : Nat := 0
  consumers : ChanID → ConsumerStage := fun _ => .absent
  /-- The contexts that have ended. -/
  ended : ChanID → Bool := fun _ => false
  /-- How many commands wait in a channel. -/
  buffered : ChanID → Nat := fun _ => 0
  fetches : Fetcher → FetchStage := fun _ => .idle
  /-- How many commands have been fetched. -/
  fetched : Nat := 0
  /-- What became of commands, in that order. -/
  settled : List (ProactiveRef × Fate) := []
  /-- A send on a closed channel has panicked. -/
  panicked : Bool := false

/-- What can happen to a reader. -/
inductive StkEvent where
  /-- `Commands` has applied the profile, and sets its channel. -/
  | commands
  /-- `flushPendingSTK` takes what is pending. -/
  | flush (out : ChanID)
  /-- `flushPendingSTK` sends a command. -/
  | flushSend (out : ChanID)
  /-- `flushPendingSTK` returns, with everything sent or with its context ended. -/
  | flushed (out : ChanID)
  /-- The context of a `Commands` ends. -/
  | cancel (out : ChanID)
  /-- The loop of polls returns. -/
  | leave (out : ChanID)
  /-- The channel is taken out of the reader. -/
  | unset (out : ChanID)
  | close (out : ChanID)
  /-- The consumer receives a command. -/
  | receive (out : ChanID)
  /-- The card answers FETCH with a command. -/
  | fetch (fetcher : Fetcher)
  /-- `fetchSTK` looks at the channel under the lock. -/
  | take (fetcher : Fetcher)
  /-- `fetchSTK` sends the command. -/
  | send (fetcher : Fetcher)
  /-- The context of `fetchSTK` ends first. -/
  | giveUp (fetcher : Fetcher)
  deriving DecidableEq

namespace StkReader

/-- The capacity of the channels. -/
def capacity : Nat := 8

/-- The goroutine of a `Commands` goes on. -/
@[simps] def setConsumer (s : StkReader) (out : ChanID) (stage : ConsumerStage) : StkReader :=
  { s with consumers := fun other => if other = out then stage else s.consumers other }

/-- A `fetchSTK` goes on. -/
@[simps] def setFetch (s : StkReader) (f : Fetcher) (stage : FetchStage) : StkReader :=
  { s with fetches := fun other => if other = f then stage else s.fetches other }

/-- A command is sent on a channel with room for it. -/
def deliver (s : StkReader) (command : ProactiveRef) (out : ChanID) : Option StkReader :=
  if s.buffered out < capacity then
    some { s with settled := s.settled ++ [(command, .delivered out)],
                  buffered := fun other => if other = out then s.buffered out + 1 else s.buffered other }
  else none

/-- Whether `fetchSTK` can be called: a poll is one of the loop. -/
def mayFetch (s : StkReader) : Fetcher → Bool
  | .poll out => s.consumers out = .polling
  | .call _ => true

/-- Whether the context of a `fetchSTK` can end: that of a poll is that of the consumer. -/
def mayGiveUp (s : StkReader) : Fetcher → Bool
  | .poll out => s.ended out
  | .call _ => true

/-- One step of the goroutine of a `Commands`. -/
def stepConsumer (s : StkReader) (out : ChanID) : StkEvent → Option StkReader
  | .flush _ =>
    match s.consumers out with
    | .starting => some ({ s with stkPending := [] }.setConsumer out (.flushing s.stkPending))
    | _ => none
  | .flushSend _ =>
    match s.consumers out with
    | .flushing (command :: rest) => (s.deliver command out).map fun s => s.setConsumer out (.flushing rest)
    | _ => none
  | .flushed _ =>
    match s.consumers out with
    | .flushing rest =>
      if rest = [] || s.ended out then
        some ({ s with settled := s.settled ++ rest.map fun command => (command, Fate.lost out) }.setConsumer out .polling)
      else none
    | _ => none
  | .leave _ =>
    -- The goroutine is in the loop, and not in one of its polls.
    if s.consumers out = .polling && s.ended out && s.fetches (.poll out) = .idle then
      some (s.setConsumer out .leaving)
    else none
  | .unset _ =>
    if s.consumers out = .leaving then
      some ({ s with stkOut := if s.stkOut = some out then none else s.stkOut }.setConsumer out .closing)
    else none
  | .close _ => if s.consumers out = .closing then some (s.setConsumer out .closed) else none
  | _ => none

/-- One step of a `fetchSTK`. -/
def stepFetch (s : StkReader) (f : Fetcher) : StkEvent → Option StkReader
  | .fetch _ =>
    if s.fetches f = .idle && s.mayFetch f then
      some ({ s with fetched := s.fetched + 1 }.setFetch f (.fetched s.fetched))
    else none
  | .take _ =>
    match s.fetches f with
    | .fetched command =>
      match s.stkOut with
      | none => some ({ s with stkPending := s.stkPending ++ [command] }.setFetch f .idle)
      | some out => some (s.setFetch f (.sending command out))
    | _ => none
  | .send _ =>
    match s.fetches f with
    | .sending command out =>
      if s.consumers out = .closed then some { s with panicked := true }
      else (s.deliver command out).map fun s => s.setFetch f .idle
    | _ => none
  | .giveUp _ =>
    match s.fetches f with
    | .sending command out =>
      if s.mayGiveUp f then
        some ({ s with settled := s.settled ++ [(command, Fate.lost out)] }.setFetch f .idle)
      else none
    | _ => none
  | _ => none

/-- One step of a reader that has not panicked. -/
def step (s : StkReader) (e : StkEvent) : Option StkReader :=
  if s.panicked then none
  else
    match e with
    | .commands => some ({ s with stkOut := some s.channels, channels := s.channels + 1 }.setConsumer s.channels .starting)
    | .cancel out => some { s with ended := fun other => if other = out then true else s.ended other }
    | .receive out =>
      if s.buffered out = 0 then none
      else some { s with buffered := fun other => if other = out then s.buffered out - 1 else s.buffered other }
    | .flush out | .flushSend out | .flushed out | .leave out | .unset out | .close out => s.stepConsumer out e
    | .fetch f | .take f | .send f | .giveUp f => s.stepFetch f e

end StkReader

/-- A new reader. -/
def stkReader : Machine StkReader StkEvent := { init := {}, step := StkReader.step }

end Wwan.Sim
