import Wwan.Modem.Streams

/-! The watch of a SIM with the goroutines that enrich its information. -/

namespace Wwan.Modem.Qmi.SimEnrichment

open Streams (Result)

/-- How far the goroutine of an enrichment is. -/
inductive Stage where
  /-- `SIMInfo` has not returned. -/
  | querying
  /-- It waits for room in the channel of the results, or for the end of its context. -/
  | delivering (result : Result SIMInfo GoString)
  /-- Its result is in the channel. -/
  | delivered (result : Result SIMInfo GoString)
  /-- It has returned without a result. -/
  | abandoned
  deriving DecidableEq

/-- The query of an enrichment that was started. -/
structure Query where
  generation : Nat
  stage : Stage := .querying
  /-- Its context has ended. -/
  cancelled : Bool := false
  deriving DecidableEq

/-- What is sent to the consumer. -/
inductive Emission where
  | info (result : Result SIMInfo GoString)
  /-- The result of an enrichment, with its number. -/
  | enrichment (query : Nat) (result : Result SIMInfo GoString)
  deriving DecidableEq

/-- The result that is sent. -/
def Emission.result : Emission → Result SIMInfo GoString
  | .info result | .enrichment _ result => result

/-- Where the goroutine of the watch is. -/
inductive Phase where
  | absent
  /-- It waits for the initial information. -/
  | initial
  /-- It sends the initial information. -/
  | starting (result : Result SIMInfo GoString)
  | selecting
  /-- It waits for the information on a slot that has changed. -/
  | slot
  | sending (emission : Emission)
  /-- It forwards polls. -/
  | polling
  | returned
  deriving DecidableEq

/-- A watch with its enrichments. -/
structure Watch where
  phase : Phase := .absent
  /-- The context of the watch has ended. -/
  cancelled : Bool := false
  /-- The channels that are not nil. -/
  cardEvents : Bool := false
  slotEvents : Bool := false
  /-- The channel of the timer is not nil. -/
  enrichmentC : Bool := false
  /-- A `uint64` in the source, which does not come round. -/
  enrichmentGeneration : Nat := 0
  /-- The enrichment that `enrichmentCancel` cancels. -/
  enrichmentCancel : Option Nat := none
  queries : List Query := []
  /-- The channel of the results, each with the number and the generation of its enrichment. -/
  enrichmentResults : List (Nat × Nat × Result SIMInfo GoString) := []
  /-- The results in the channel of the consumer. -/
  out : List Emission := []
  deriving DecidableEq

/-- The capacity of both channels. -/
def capacity : Nat := 1

/-- What happens to a watch. -/
inductive Event where
  /-- The watch is started, with the events that could be subscribed. -/
  | start (cardEvents slotEvents : Bool)
  /-- The consumer ends the context. -/
  | cancel
  /-- The consumer takes a result. -/
  | receive
  /-- The query of the initial information, or of that on a slot, returns. -/
  | answer (result : Result SIMInfo GoString)
  /-- A result is put into the channel of the consumer. -/
  | send
  /-- The watch sees that its context has ended. -/
  | done
  /-- A card event, with the information that is made of it. -/
  | card (info : SIMInfo)
  | cardClosed
  | slot
  | slotClosed
  | resync
  /-- The timer has fired, and an enrichment is started. -/
  | enrich
  /-- A result of an enrichment is taken. -/
  | result
  /-- A poll is forwarded. -/
  | poll (result : Result SIMInfo GoString)
  /-- The query of an enrichment returns. -/
  | finish (query : Nat) (result : Result SIMInfo GoString)
  /-- An enrichment puts its result into the channel. -/
  | deliver (query : Nat)
  /-- An enrichment sees that its context has ended. -/
  | abandon (query : Nat)
  deriving DecidableEq

namespace Watch

/-- Change the enrichment with a number. -/
def update (w : Watch) (query : Nat) (f : Query → Query) : Watch :=
  { w with queries := w.queries.modify query f }

/-- The context of the watch ends, and with it those of the enrichments. -/
def cancelAll (w : Watch) : Watch :=
  { w with cancelled := true, queries := w.queries.map fun e => { e with cancelled := true } }

/-- The goroutine of the watch returns, which ends its context. -/
def leave (w : Watch) : Watch := { w.cancelAll with phase := .returned }

/-- The function `scheduleEnrichment` of the loop. -/
def scheduleEnrichment (w : Watch) : Watch :=
  let w := { w with enrichmentGeneration := w.enrichmentGeneration + 1 }
  let w :=
    match w.enrichmentCancel with
    | some query => { w.update query fun e => { e with cancelled := true } with enrichmentCancel := none }
    | none => w
  -- A timer that runs may fire at any time, whatever its delay.
  { w with enrichmentC := true }

/-- The timer is used up, and an enrichment is started. -/
def startEnrichment (w : Watch) : Watch :=
  { w with
    enrichmentC := false
    enrichmentCancel := some w.queries.length
    queries := w.queries ++ [{ generation := w.enrichmentGeneration, cancelled := w.cancelled }] }

/-- What follows the select: without any events left, the information is polled. -/
def after (w : Watch) : Watch :=
  if !w.cardEvents && !w.slotEvents then { w.cancelAll with phase := .polling } else { w with phase := .selecting }

/-- A result is put into the channel of the consumer. -/
def push (w : Watch) (emission : Emission) : Watch := { w with out := w.out ++ [emission] }

/-- What the loop does when a result is sent. -/
def sent (w : Watch) : Option Watch :=
  match w.phase with
  | .starting result =>
    let w := w.push (.info result)
    if result.err.isSome then some w.leave
    else
      -- A card that is there is enriched.
      let w := if result.value.state ≠ simStateAbsent then w.scheduleEnrichment else w
      some { w with phase := .selecting }
  | .sending emission =>
    let w := w.push emission
    if emission.result.err.isSome then some w.leave else some w.after
  | _ => none

/-- One step of the loop's select. -/
def select (w : Watch) : Event → Option Watch
  | .card info =>
    if w.cardEvents then some { w.scheduleEnrichment with phase := .sending (.info { value := info }) } else none
  | .cardClosed => if w.cardEvents then some { w with cardEvents := false }.after else none
  | .slot => if w.slotEvents then some { w.scheduleEnrichment with phase := .slot } else none
  | .slotClosed => if w.slotEvents then some { w with slotEvents := false }.after else none
  | .resync => some w.scheduleEnrichment.after
  | .enrich =>
    if w.enrichmentC then some w.startEnrichment.after else none
  | .result =>
    match w.enrichmentResults with
    | [] => none
    | (query, generation, result) :: rest =>
      let w := { w with enrichmentResults := rest }
      -- The result of an enrichment that was superseded is dropped.
      if generation ≠ w.enrichmentGeneration then some w
      else some { w with enrichmentCancel := none, phase := .sending (.enrichment query result) }
  | _ => none

/-- One step of an enrichment. -/
def queryStep (w : Watch) : Event → Option Watch
  | .finish query result =>
    match w.queries[query]? with
    | some { stage := .querying, cancelled, .. } =>
      -- A query whose context is done delivers nothing.
      some (w.update query fun e => { e with stage := if cancelled then .abandoned else .delivering result })
    | _ => none
  | .deliver query =>
    match w.queries[query]? with
    | some { stage := .delivering result, generation, .. } =>
      if w.enrichmentResults.length < capacity then
        some { w.update query fun e => { e with stage := .delivered result } with
               enrichmentResults := w.enrichmentResults ++ [(query, generation, result)] }
      else none
    | _ => none
  | .abandon query =>
    match w.queries[query]? with
    | some { stage := .delivering _, cancelled := true, .. } => some (w.update query fun e => { e with stage := .abandoned })
    | _ => none
  | _ => none

/-- One step. -/
def step (w : Watch) (event : Event) : Option Watch :=
  match event with
  | .start cardEvents slotEvents =>
    if w.phase = .absent then
      -- Nothing can be watched, so that the card is polled.
      if !cardEvents && !slotEvents then some { w.cancelAll with phase := .polling }
      else some { w with cardEvents, slotEvents, phase := .initial }
    else none
  | .cancel => some w.cancelAll
  | .receive => if w.out = [] then none else some { w with out := w.out.tail }
  | .answer result =>
    match w.phase with
    | .initial => if w.cancelled then some w.leave else some { w with phase := .starting result }
    | .slot => if w.cancelled then some w.leave else some { w with phase := .sending (.info result) }
    | _ => none
  | .send => if w.out.length < capacity then w.sent else none
  | .done =>
    match w.phase with
    | .selecting | .starting _ | .sending _ => if w.cancelled then some w.leave else none
    | _ => none
  | .poll result =>
    if w.phase = .polling ∧ w.out.length < capacity then
      if result.err.isSome then some (w.push (.info result)).leave else some (w.push (.info result))
    else none
  | .finish .. | .deliver _ | .abandon _ => w.queryStep event
  | .card _ | .cardClosed | .slot | .slotClosed | .resync | .enrich | .result =>
    if w.phase = .selecting then w.select event else none

end Watch

/-- `WatchSIM` with its enrichments -/
def simWatch : Machine Watch Event := { init := {}, step := Watch.step }

end Wwan.Modem.Qmi.SimEnrichment
