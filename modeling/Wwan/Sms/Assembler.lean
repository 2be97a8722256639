import Wwan.Lib.GoMap
import Wwan.Sms.Pdu

/-! Reassembly of multipart short messages. -/

namespace Wwan.Sms

/-- What the parts of one multipart message have in common. -/
structure AssemblyKey where
  number : GoString
  ref : UInt16
  total : UInt8
  deriving DecidableEq

/-- The parts received so far, by message and index. -/
structure Assembler where
  parts : GoMap AssemblyKey (GoMap UInt8 Part) := ∅

/-- The group a part belongs to. -/
def Part.key (part : Part) : AssemblyKey :=
  { number := part.message.number, ref := part.reference, total := part.total }

/-- Append one part's content to the message under construction. -/
def appendPart (result : Message) (current : Part) : Message :=
  { result with
    text := result.text ++ current.message.text
    data := result.data ++ current.message.data
    pdus := result.pdus ++ [current.message.pdu]
    refs := result.refs ++ current.message.refs }

/--
The loop of `Add` from an index on.

The index is a `uint8` and wraps around, so the loop is given a number of steps.
The length check before it leaves some index without a part, so 257 steps always suffice.
-/
def assembleFrom (parts : GoMap UInt8 Part) (total : UInt8) :
    (steps : Nat) → (index : UInt8) → Message → Option Message
  | 0, _, _ => none
  | steps + 1, index, result =>
    if index ≤ total then
      match parts.get index with
      | none => none
      | some current => assembleFrom parts total steps (index + 1) (appendPart result current)
    else some result

/-- The stored parts of a part's group, once the part itself is among them. -/
def Assembler.groupWith (a : Assembler) (part : Part) : GoMap UInt8 Part :=
  ((a.parts.get part.key).getD ∅).set part.index part

/-- Store a part, and return the message it completes. -/
def Assembler.add (a : Assembler) (part : Part) : Assembler × Option Message :=
  if part.total ≤ 1 then (a, some part.message)
  else
    let parts := a.groupWith part
    let stored : Assembler := { parts := a.parts.set part.key parts }
    if parts.len ≠ part.total.toNat then (stored, none)
    else
      let first := ((parts.get 1).getD {}).message
      let start := { first with text := [], data := [], pdu := [], pdus := [], refs := [] }
      match assembleFrom parts part.total 257 1 start with
      | none => (stored, none)
      | some result =>
        ({ parts := a.parts.delete part.key }, some { result with pdu := result.pdus.headD [] })

/-- The assembler after a sequence of calls. -/
def Assembler.addAll (a : Assembler) (calls : List Part) : Assembler :=
  calls.foldl (fun a part => (a.add part).1) a

/-- The messages completed by a sequence of parts, from a fresh assembler. -/
def assemble (parts : List Part) : List Message :=
  (parts.foldl (fun (state : Assembler × List Message) part =>
    match state.1.add part with
    | (a, some message) => (a, state.2 ++ [message])
    | (a, none) => (a, state.2)) ({}, [])).2

end Wwan.Sms
