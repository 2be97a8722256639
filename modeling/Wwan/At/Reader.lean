import Wwan.At.Csim
import Wwan.Lib.Machine

/-! A reader that transmits APDUs over one AT port, and the modem behind it. -/

namespace Wwan.At

open GoString (ascii trimSpace)

/-- The upper case of a character, as far as it can be a character of ASCII. -/
def upperRune (r : Char) : Char :=
  if r = 'ı' then 'I'
  else if r = 'ſ' then 'S'
  -- Letters beyond ASCII have no other upper case in ASCII, so none is told apart by the texts compared with.
  else r.toUpper

/-- `strings.ToUpper`, as far as it is compared with texts in ASCII -/
def toUpper (s : GoString) : GoString := Utf8.encodeRunes ((Utf8.runes s).map upperRune)

/-- What a line is to `readResponse`. -/
inductive LineKind where
  | ok
  | error
  | csim
  | other
  deriving DecidableEq

/-- The switch of `readResponse`. -/
def lineKind (line : GoString) : LineKind :=
  let upper := toUpper line
  if upper = ascii "OK" then .ok
  else if upper = ascii "ERROR" ∨ (ascii "+CME ERROR:").isPrefixOf upper ∨ (ascii "+CMS ERROR:").isPrefixOf upper then
    .error
  else if (ascii "+CSIM:").isPrefixOf upper then .csim
  else .other

/-- What a line of the port is, without the space around it. -/
def rawKind (raw : GoString) : LineKind := lineKind (trimSpace raw)

/-- A call, by the order in which the commands are written. -/
abbrev CallID := Nat

/-- A `Transmit` that has written its command and reads the answer. -/
structure Call where
  id : CallID
  command : GoString
  response : Option GoString := none
  deriving DecidableEq

/-- A reader and the modem behind its port. -/
structure Port where
  /-- How many commands were written. -/
  calls : Nat := 0
  /-- The call that holds the lock. -/
  current : Option Call := none
  /-- The lines that the modem has sent and nobody has read. -/
  unread : List GoString := []
  /-- The commands that the modem has not answered. -/
  pending : List CallID := []
  /-- The command whose `+CSIM` line was sent and whose `OK` was not. -/
  answering : Option CallID := none
  /-- The `+CSIM` lines that were sent, with the commands they answer. -/
  answers : List (CallID × GoString) := []
  /-- The calls that returned without an error, with the bytes they returned. -/
  returned : List (CallID × Bytes) := []
  deriving DecidableEq

/-- What can happen at the port. -/
inductive PortEvent where
  /-- `Transmit` takes the lock and writes its command. -/
  | transmit (request : Bytes)
  /-- The modem sends an echo, a blank line, or another line that nobody asked for. -/
  | unsolicited (line : GoString)
  /-- The modem answers the next command. -/
  | csim (line : GoString)
  /-- The modem ends the answer. -/
  | ok (line : GoString)
  /-- The modem answers the next command with an error. -/
  | error (line : GoString)
  /-- The call reads a line. -/
  | read
  /-- The deadline passes while part of a line has been read. -/
  | timeOut (part : Nat)
  /-- The context is seen to have ended when a line has been read. -/
  | cancelled
  deriving DecidableEq

namespace Port

/-- The call returns, and gives up the lock. -/
def finish (s : Port) : Port := { s with current := none }

/-- What `Transmit` makes of the response. -/
def decodeResponse (line : GoString) : Option Bytes :=
  match unmarshalResponse line with
  | .error _ => none
  | .ok response => if response.length < 2 then none else some response

/-- The call goes on with a line that it has read. -/
def handle (s : Port) (call : Call) (raw : GoString) : Port :=
  let line := trimSpace raw
  -- Blank lines and the echo of the command are skipped.
  if line = [] ∨ line = call.command then s
  else
    match lineKind line, call.response with
    | .ok, some response =>
      match decodeResponse response with
      | none => s.finish
      | some bytes => { s.finish with returned := s.returned ++ [(call.id, bytes)] }
    | .ok, none => s
    | .error, _ => s.finish
    | .csim, _ => { s with current := some { call with response := some line } }
    | .other, _ => s

/-- One step. -/
def step (s : Port) : PortEvent → Option Port
  | .transmit request =>
    match s.current with
    | some _ => none
    | none =>
      some { s with calls := s.calls + 1, current := some { id := s.calls, command := marshalCommand request },
                    pending := s.pending ++ [s.calls] }
  | .unsolicited line => if rawKind line = .other then some { s with unread := s.unread ++ [line] } else none
  | .csim line =>
    match s.answering, s.pending with
    | none, id :: rest =>
      if rawKind line = .csim then
        some { s with unread := s.unread ++ [line], pending := rest, answering := some id,
                      answers := s.answers ++ [(id, line)] }
      else none
    | _, _ => none
  | .ok line =>
    match s.answering with
    | some _ => if rawKind line = .ok then some { s with unread := s.unread ++ [line], answering := none } else none
    | none => none
  | .error line =>
    match s.answering, s.pending with
    | none, _ :: rest =>
      if rawKind line = .error then some { s with unread := s.unread ++ [line], pending := rest } else none
    | _, _ => none
  | .read =>
    match s.current, s.unread with
    | some call, raw :: rest => some ({ s with unread := rest }.handle call raw)
    | _, _ => none
  | .timeOut part =>
    match s.current with
    | none => none
    | some _ =>
      -- What has been read of the line is lost.
      match s.unread with
      | [] => if part = 0 then some s.finish else none
      | raw :: rest => if part ≤ raw.length then some { s.finish with unread := raw.drop part :: rest } else none
  | .cancelled =>
    match s.current, s.unread with
    | some _, _ :: rest => some { s.finish with unread := rest }
    | _, _ => none

end Port

/-- The machine of a port. -/
def portMachine : Machine Port PortEvent := { init := {}, step := Port.step }

end Wwan.At
